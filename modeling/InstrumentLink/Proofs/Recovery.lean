import InstrumentLink.Proofs.Connection.Ready
import InstrumentLink.Proofs.Report
import InstrumentLink.Proofs.Targets

/-!
Whatever has happened to a connection, one attempt brings it up again as soon as what its roles ask for can be had.
-/

namespace InstrumentLink

/-- Let each role that is set and down ask for something that can be had now: a server with room for all roles that dial
it, and no handshake of the role's own under way; an address of this machine that nothing else is in the way at, neither a
socket that listens nor one that has the address and does not share it, nor what is left of a closed connection; a remote
address; a device that opens. Then one attempt leaves every role that is set up, with what its address stands for, and none
failed or under way. -/
theorem recovers_in_one_attempt {agent : Agent} {world : World} (reached : Reachable agent world)
    (ready : ∀ {role : Role} {transport : Transport} {endpoint : Endpoint transport},
      agent.connection.endpoint? role = some ⟨transport, endpoint⟩ → endpoint.isConfigured = true →
        ((agent.connection.isConnected role).result world).1 = false →
          endpoint.Ready (agent.connection.crowd world) world) :
    let after := (agent.connection.establish.result world).1.1
    let report := (agent.connection.establish.result world).1.2
    let later := (agent.connection.establish.result world).2
    (∀ role, agent.connection.isConfigured role = true →
      ((after.isConnected role).result later).1 = true ∧
      ∃ (transport : Transport) (endpoint : Endpoint transport) (handle : transport.Handle),
        after.endpoint? role = some ⟨transport, endpoint⟩ ∧ endpoint.handle = some handle ∧
          transport.OpenedFor later endpoint.target handle) ∧
    (∀ role, report.outcome role ≠ .failed ∧ report.outcome role ≠ .pending) ∧
    after.settings = agent.connection.settings := by
  intro after report later
  have order := inOrder_of_reachable reached
  have orderAfter := order.establish
  have up : ∀ role, agent.connection.isConfigured role = true → after.live role later = true := fun role set => by
    refine Connection.establish_up order (fun {role transport endpoint} found configured down => ?_) set
    refine ready found configured ?_
    rw [Connection.isConnected_result order.sound.network, Connection.live_of_endpoint? found]
    exact down
  have tells := Connection.establish_tells order
  refine ⟨fun role set => ⟨?_, ?_⟩, fun role => ⟨fun failed => ?_, fun pending => ?_⟩,
    Connection.settings_establish order⟩
  · rw [Connection.isConnected_result orderAfter.sound.network]
    exact up role set
  · obtain ⟨transport, endpoint, handle, found, held⟩ := Connection.exists_of_live (up role set)
    have fits := orderAfter.fits (Connection.mem_endpoints found)
    exact ⟨transport, endpoint, handle, found, held, fits.openedFor orderAfter.sound held⟩
  · obtain ⟨set, empty⟩ := (tells role).failed.mp failed
    obtain ⟨transport, endpoint, handle, found, held⟩ := Connection.exists_of_live (up role set)
    rw [Connection.holds_of_endpoint? found, Endpoint.hasHandle, held] at empty
    cases empty
  · obtain ⟨set, _, down⟩ := (tells role).pending.mp pending
    rw [Connection.isConnected_result orderAfter.sound.network, up role set] at down
    cases down

/-- An agent that is to listen on a port from which somebody has dialled a server. -/
def dialledFrom : Agent × World :=
  (Agent.performAll [.event (.serve ⟨.v4 .localhost, 4001⟩ 4 true), .event (.dial ⟨.v4 .localhost, 4001⟩)]
    (.ofConnection (.ofSettings (.rsn ⟨"127.0.0.1", 32769, "", 0⟩)))).result (World.ofRoutes .loopback)

/-- That nobody else listens on an address is not enough. The machine has the address, and no socket listens on one that
overlaps it, and yet the attempt fails, as the connection has it. -/
theorem unheard_address_may_be_taken :
    Reachable dialledFrom.1 dialledFrom.2 ∧
      dialledFrom.1.connection.endpoint? .data = some ⟨.listener, ⟨⟨"127.0.0.1", 32769⟩, none⟩⟩ ∧
      Transport.listener.request? dialledFrom.2.network.routes.names ⟨"127.0.0.1", 32769⟩ =
        .ok (.listen ⟨.v4 .localhost, 32769⟩) ∧
      dialledFrom.2.network.routes.bindFault ⟨.v4 .localhost, 32769⟩ = none ∧
      (∀ id listening, dialledFrom.2.network.listening? id = some listening →
        listening.address.clashes ⟨.v4 .localhost, 32769⟩ = false) ∧
      (dialledFrom.1.connection.establish.result dialledFrom.2).1.2.outcome .data = .failed := by
  have apart : ∀ entry ∈ dialledFrom.2.network.sockets.toList, ∀ listening ∈ entry.2.listening?,
      listening.address.clashes ⟨.v4 .localhost, 32769⟩ = false := by decide +kernel
  refine ⟨.performAll (.start (.ofRoutes .loopback) _) _, by decide +kernel, by decide +kernel, by decide +kernel, ?_,
    by decide +kernel⟩
  intro id listening found
  obtain ⟨socket, there, listens⟩ := Option.bind_eq_some_iff.mp ((Network.listening?_eq_bind _ id).symm.trans found)
  exact apart (id, socket) (Registry.mem_toList.mpr there) listening listens

/-- An agent with two clients of one server that has vanished and come back, with room for two. -/
def comeBack : Agent × World :=
  (Agent.performAll [.event (.serve ⟨.v4 .localhost, 4001⟩ 1 true), .poll, .event (.close 0),
    .event (.serve ⟨.v4 .localhost, 4001⟩ 1 true)]
    (.ofConnection (.ofSettings (.tcp ⟨"127.0.0.1", 4001, "127.0.0.1", 4001⟩)))).result (World.ofRoutes .loopback)

theorem reachable_comeBack : Reachable comeBack.1 comeBack.2 :=
  Reachable.performAll (.start (.ofRoutes .loopback) _) _

/-- Both its roles are down, and the next attempt brings both up. -/
theorem recovers_in_one_attempt_comeBack :
    ((comeBack.1.connection.isConnected .data).result comeBack.2).1 = false ∧
      ((comeBack.1.connection.isConnected .command).result comeBack.2).1 = false ∧
      ∀ role, (((comeBack.1.connection.establish.result comeBack.2).1.1.isConnected role).result
        (comeBack.1.connection.establish.result comeBack.2).2).1 = true := by
  have data : comeBack.1.connection.endpoint? .data = some ⟨.client, ⟨⟨"127.0.0.1", 4001⟩, some (1 : SocketId)⟩⟩ := by
    decide +kernel
  have command : comeBack.1.connection.endpoint? .command = some ⟨.client, ⟨⟨"127.0.0.1", 4001⟩, some (3 : SocketId)⟩⟩ := by
    decide +kernel
  have asked : Transport.client.request? comeBack.2.network.routes.names ⟨"127.0.0.1", 4001⟩ =
      .ok (.connect ⟨.v4 .localhost, 4001⟩) := by decide +kernel
  have reached : comeBack.2.network.listenerAt? ⟨.v4 .localhost, 4001⟩ =
      some (5, ⟨⟨.v4 .localhost, 4001⟩, [], 1, true⟩) := by decide +kernel
  have room : ∀ held, Request.Available (.connect ⟨.v4 .localhost, 4001⟩) held
      (comeBack.1.connection.crowd comeBack.2) comeBack.2 :=
    fun _ => ⟨by decide +kernel, 5, _, reached, by decide +kernel⟩
  have configured : ∀ role, comeBack.1.connection.isConfigured role = true := by
    intro role
    cases role <;> decide +kernel
  refine ⟨by decide +kernel, by decide +kernel, fun role => ?_⟩
  refine ((recovers_in_one_attempt reachable_comeBack fun {role transport endpoint} found _ _ => ?_).1 role
    (configured role)).1
  cases role with
  | data =>
    rw [data] at found
    cases found
    exact ⟨by decide +kernel, _, asked, room _⟩
  | command =>
    rw [command] at found
    cases found
    exact ⟨by decide +kernel, _, asked, room _⟩

end InstrumentLink
