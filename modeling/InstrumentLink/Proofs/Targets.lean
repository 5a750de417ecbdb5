import InstrumentLink.Proofs.History

/-!
Whatever its history, an agent holds things only for the addresses that it has now: a setting that changes costs what
was opened for the one before, even where nothing can be opened in its place.
-/

namespace InstrumentLink

namespace Transport

/-- A held thing was opened by the agent for an address, and is open still, for that address. A listening socket keeps its
address even if it is broken. -/
def OpenedFor (world : World) : (transport : Transport) → transport.Target → transport.Handle → Prop
  | .client, ⟨host, port⟩, id =>
    ∃ remote stream, InstrumentLink.resolve world.network.routes.names host port = .ok remote ∧
      world.ledger (.socket id) = some (.connect remote (some id)) ∧
      world.network.socket? id = some ⟨.agent, .stream stream⟩ ∧ stream.there = remote
  | .listener, ⟨host, port⟩, held =>
    ∃ address,
      InstrumentLink.resolve world.network.routes.names (if host = "" then "0.0.0.0" else host) port = .ok address ∧
      world.ledger (.socket (Listener.socket held)) = some (.listen address (some (Listener.socket held))) ∧
      ((∃ listening, world.network.socket? (Listener.socket held) = some ⟨.agent, .listening listening⟩ ∧
          listening.address = address) ∨
        ∃ error shares, world.network.socket? (Listener.socket held) =
          some ⟨.agent, .idle ⟨some address, error, shares⟩⟩)
  | .udp, ⟨host, port⟩, id =>
    ∃ remote, InstrumentLink.resolve world.network.routes.names host port = .ok remote ∧
      world.ledger (.socket id) = some (.associate remote (some id)) ∧
      world.network.socket? id = some ⟨.agent, .datagram remote⟩
  | .serial, ⟨path, baudRate⟩, id =>
    ∃ line, world.ledger (.line id) = some (.openLine path baudRate (some id)) ∧
      world.devices.line? id = some line ∧ line.path = path ∧ line.baudRate = baudRate

end Transport

namespace Endpoint

theorem Fits.openedFor {transport : Transport} {endpoint : Endpoint transport} {world : World}
    (fits : endpoint.Fits world) (sound : world.Sound) {handle : transport.Handle}
    (held : endpoint.handle = some handle) : transport.OpenedFor world endpoint.target handle := by
  obtain ⟨request, asked, made⟩ := (fits handle held).made
  obtain ⟨other, askedToo, own⟩ := fits.own? sound held
  obtain rfl : other = request := by
    rw [asked] at askedToo
    cases askedToo
    rfl
  obtain ⟨target, _⟩ := endpoint
  cases transport with
  | client =>
    obtain ⟨host, port⟩ := target
    obtain ⟨remote, resolved, rfl⟩ := map_eq_ok asked
    obtain ⟨stream, _, there, shown⟩ := Network.own?_stream own
    exact ⟨remote, stream, resolved, made, shown, there⟩
  | listener =>
    obtain ⟨host, port⟩ := target
    obtain ⟨address, resolved, rfl⟩ := map_eq_ok asked
    refine ⟨address, ?_, made, Network.own?_listening own⟩
    have host : (if host = "" then "0.0.0.0" else host) = Transport.listenerHost ⟨host, port⟩ := by
      unfold Transport.listenerHost HostPort.hasHost Transport.anyHost
      by_cases empty : host = "" <;> simp [empty]
    rw [host]
    exact resolved
  | udp =>
    obtain ⟨host, port⟩ := target
    obtain ⟨remote, resolved, rfl⟩ := map_eq_ok asked
    exact ⟨remote, resolved, made, Network.own?_datagram own⟩
  | serial =>
    obtain ⟨path, baudRate⟩ := target
    cases asked
    obtain ⟨line, found, same⟩ := Option.map_eq_some_iff.mp own
    cases same
    exact ⟨line, made, found, rfl, rfl⟩

end Endpoint

/-- Whatever has happened, each endpoint holds nothing, or something that was opened for just the address that it is set
to now, and then the address is complete. What is up is configured, and what is not configured holds nothing. -/
theorem held_for_present_target {agent : Agent} {world : World} (reached : Reachable agent world) :
    (∀ {transport : Transport} {endpoint : Endpoint transport},
      ⟨transport, endpoint⟩ ∈ agent.connection.endpoints →
        (∀ handle, endpoint.handle = some handle →
          endpoint.isConfigured = true ∧ transport.OpenedFor world endpoint.target handle) ∧
        (endpoint.isConfigured = false → endpoint.handle = none)) ∧
    ∀ role, ((agent.connection.isConnected role).result world).1 = true →
      agent.connection.isConfigured role = true := by
  have order := inOrder_of_reachable reached
  refine ⟨fun member => ⟨fun handle held => ?_, fun unset => ?_⟩, fun role up => ?_⟩
  · have fits := order.fits member
    exact ⟨fits.isConfigured held, fits.openedFor order.sound held⟩
  · exact (order.fits member).handle_eq_none unset
  · rw [Connection.isConnected_result order.sound.network] at up
    unfold Connection.live at up
    unfold Connection.isConfigured
    cases found : agent.connection.endpoint? role with
    | none =>
      rw [found] at up
      cases up
    | some carrier =>
      rw [found] at up
      exact (order.fits (Connection.mem_endpoints found)).isConfigured_of_live up

def movedListener : Agent × World :=
  ((Agent.performAll [.establish, .change (.dataPort 4002)]
    (.ofConnection (.ofSettings (.rsn ⟨"", 4001, "", 0⟩)))).result (World.ofRoutes .loopback))

theorem reachable_movedListener : Reachable movedListener.1 movedListener.2 :=
  Reachable.performAll (.start (.ofRoutes .loopback) _) _

/-- It holds one socket, which is bound to the new port. -/
theorem held_for_present_target_moved :
    movedListener.1.connection.assets = [.socket 1] ∧
      Transport.OpenedFor movedListener.2 .listener ⟨"", 4002⟩ ⟨1, none⟩ := by
  have held := held_for_present_target reachable_movedListener
  have behind : movedListener.1.connection.endpoint? .data = some ⟨.listener, ⟨⟨"", 4002⟩, some ⟨1, none⟩⟩⟩ := by
    decide +kernel
  exact ⟨by decide +kernel, ((held.1 (Connection.mem_endpoints behind)).1 _ rfl).2⟩

end InstrumentLink
