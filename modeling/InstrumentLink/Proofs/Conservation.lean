import InstrumentLink.Proofs.Connection.Verdict
import InstrumentLink.Proofs.History
import InstrumentLink.Proofs.Network.Onward

/-!
Nothing is lost and nothing is held twice. What the agent has opened or taken and not closed is just what its endpoints
hold and the peers of its listener, in every moment of every history, and every operation closes what an endpoint held
before it opens anything in its place.
-/

namespace InstrumentLink

/-- An address that cannot be looked up, or a request that is refused, leaves nothing open. -/
theorem Transport.openHandle_failed {transport : Transport} {target : transport.Target} {world : World}
    {failure : Failure} (failed : ((transport.openHandle target).result world).1 = .error failure) :
    (∀ id, ((transport.openHandle target).result world).2.network.socket? id = world.network.socket? id) ∧
      ∀ id, ((transport.openHandle target).result world).2.devices.line? id = world.devices.line? id := by
  rw [openHandle_result] at failed ⊢
  cases asked : transport.request? world.network.routes.names target with
  | error failure => exact ⟨fun _ => rfl, fun _ => rfl⟩
  | ok request =>
    rw [asked] at failed
    dsimp only at failed ⊢
    have answered := World.request_answered request world
    generalize request.act.result world = answer at answered failed ⊢
    cases answered with
    | refused error sockets lines => exact ⟨sockets, lines⟩
    | granted id new owned => cases failed

namespace Connection

/-- One endpoint of a connection makes an exchange, and the others stay as they are. -/
inductive Exchange (world : World) : Connection → Connection → List Deed → Prop
  | keep (connection : Connection) : Exchange world connection connection []
  | within {transport : Transport} (place : Place transport) {before after : Endpoint transport} {deeds : List Deed}
      (exchange : Endpoint.Exchange world before after deeds) :
      Exchange world (place.fill before) (place.fill after) deeds

theorem apply_exchange {connection : Connection} {world : World} (order : connection.InOrder world) (change : Change) :
    ∃ deeds, Exchange world connection ((connection.apply change).result world).1 deeds ∧
      ((connection.apply change).result world).2.journal = world.journal ++ deeds := by
  cases connection.taken change with
  | stored place endpoint target filled applies addressed written result =>
    subst filled
    obtain ⟨deeds, exchange, journal⟩ := (Endpoint.change_handover order.sound order.fits_fill target).exchange
    rw [result]
    exact ⟨deeds, .within place exchange, journal⟩
  | ignored foreign result =>
    rw [result]
    exact ⟨[], .keep connection, (List.append_nil _).symm⟩

theorem establishRole_exchange {connection : Connection} {world : World} (order : connection.InOrder world)
    (role : Role) :
    ∃ deeds, Exchange world connection ((connection.establishRole role).result world).1.1 deeds ∧
      ((connection.establishRole role).result world).2.journal = world.journal ++ deeds := by
  rcases connection.establishRole_result role with ⟨transport, place, endpoint, rfl, _, result⟩ | ⟨_, result⟩
  · obtain ⟨deeds, exchange, journal⟩ := (bringUp_handover order.sound order.fits_fill role).exchange
    rw [result]
    exact ⟨deeds, .within place exchange, journal⟩
  · rw [result]
    exact ⟨[], .keep connection, (List.append_nil _).symm⟩

theorem establish_failed {connection : Connection} {world : World} (order : connection.InOrder world) {role : Role}
    (failed : (connection.establish.result world).1.2.outcome role = .failed) {transport : Transport}
    {endpoint : Endpoint transport}
    (behind : (connection.establish.result world).1.1.endpoint? role = some ⟨transport, endpoint⟩) :
    endpoint.handle = none := by
  rcases establish_verdict order role with ⟨_, unsupported⟩ | ⟨_, before, after, _, found, verdict⟩
  · rw [unsupported] at failed
    cases failed
  · rw [failed] at verdict
    rw [behind] at found
    cases found
    cases verdict with
    | failed _ _ empty => exact empty

end Connection

namespace Endpoint

/-- Only a listener owns a socket that listens, and that is bound to the port that the listener is set to. -/
theorem Fits.listening {transport : Transport} {endpoint : Endpoint transport} {world : World}
    (fits : endpoint.Fits world) (sound : world.Sound) {id : SocketId} {address : SocketAddress}
    (member : .socket id ∈ endpoint.assets) (own : world.own? (.socket id) = some (.listening address)) :
    ∃ target held, (⟨transport, endpoint⟩ : Σ transport, Endpoint transport) = ⟨.listener, ofListener target held⟩ ∧
      address.port = target.port := by
  obtain ⟨target, _ | handle⟩ := endpoint
  · cases member
  rcases List.mem_append.mp member with isPeer | isOwn
  · obtain ⟨peer, there, same⟩ := List.mem_map.mp isPeer
    cases same
    obtain ⟨purpose, shown, remote, stream⟩ :=
      sound.own?_of_ledger ((fits handle rfl).peer id (Option.mem_toList.mp there))
    rw [own, stream] at shown
    cases shown
  · obtain ⟨request, asked, shown⟩ := fits.own? sound rfl
    rw [← List.mem_singleton.mp isOwn, own] at shown
    cases transport with
    | listener =>
      obtain ⟨host, port⟩ := target
      obtain ⟨bound, resolved, rfl⟩ := map_eq_ok asked
      cases shown
      exact ⟨⟨host, port⟩, handle, rfl, resolve_port resolved⟩
    | client =>
      obtain ⟨remote, _, rfl⟩ := map_eq_ok asked
      cases shown
    | udp =>
      obtain ⟨remote, _, rfl⟩ := map_eq_ok asked
      cases shown
    | serial =>
      cases asked
      cases shown

end Endpoint

namespace Connection

def dataAddress? : Connection → Option HostPort
  | rsn data _ => some data.target
  | tcp data _ => some data.target
  | udp data => some data.target
  | serial _ => none

theorem InOrder.listening {connection : Connection} {world : World} (order : connection.InOrder world) {id : SocketId}
    {address : SocketAddress} (own : world.own? (.socket id) = some (.listening address)) :
    ∃ target, connection.dataAddress? = some target ∧ address.port = target.port := by
  have isOpen : (world.ledger (.socket id)).isSome := by
    rw [order.sound.isSome_ledger, own]
    rfl
  obtain ⟨⟨transport, endpoint⟩, member, inside⟩ := List.mem_flatMap.mp ((order.owned _).mp isOpen)
  obtain ⟨target, held, same, port⟩ := (order.fits member).listening order.sound inside own
  rw [same] at member
  refine ⟨target, ?_, port⟩
  cases connection with
  | rsn data command =>
    rcases List.mem_cons.mp member with isData | rest
    · cases isData
      rfl
    · have down := order.stored rfl
      cases List.mem_singleton.mp rest
      cases down
  | tcp data command =>
    rcases List.mem_cons.mp member with isData | rest
    · cases isData
    · cases List.mem_singleton.mp rest
  | udp data => cases List.mem_singleton.mp member
  | serial data => cases List.mem_singleton.mp member

theorem dataAddress?_dataPort {connection : Connection} {address : HostPort} {world : World}
    (sound : world.network.Sound) (has : connection.dataAddress? = some address) (port : UInt16) :
    ((connection.apply (.dataPort port)).result world).1.dataAddress? = some (address.withPort port) := by
  cases connection with
  | rsn data command =>
    cases has
    exact congrArg some (Endpoint.target_change sound data _)
  | tcp data command =>
    cases has
    exact congrArg some (Endpoint.target_change sound data _)
  | udp data =>
    cases has
    exact congrArg some (Endpoint.target_change sound data _)
  | serial data => cases has

end Connection

/-- The books of an agent, closed at some moment. -/
structure Accounted (agent : Agent) (world : World) : Prop where
  /-- What was opened or taken and is not closed is what the endpoints hold, and the peers of their listeners. -/
  opened : ∀ asset, StillOpen world.journal asset ↔ asset ∈ agent.connection.assets
  /-- The agent has nothing else in the world. -/
  had : ∀ asset, (world.own? asset).isSome ↔ asset ∈ agent.connection.assets
  once : agent.connection.assets.Nodup
  /-- Whatever has gone was shut down as it had to be and closed right after, and nothing was closed twice. -/
  tidy : Tidy world.journal
  /-- A setter closes what its endpoint held, if anything, before it asks for one new thing, if any. -/
  change : ∀ change, ∃ deeds,
    Connection.Exchange world agent.connection ((agent.connection.apply change).result world).1 deeds ∧
    ((agent.connection.apply change).result world).2.journal = world.journal ++ deeds
  /-- So does an attempt to bring the connection up, for each role. -/
  establish : ∃ data command,
    Connection.Exchange world agent.connection ((agent.connection.establishRole .data).result world).1.1 data ∧
    Connection.Exchange ((agent.connection.establishRole .data).result world).2
      ((agent.connection.establishRole .data).result world).1.1
      (agent.connection.establish.result world).1.1 command ∧
    (agent.connection.establish.result world).2.journal = world.journal ++ data ++ command
  failed : ∀ {role transport} {endpoint : Endpoint transport},
    (agent.connection.establish.result world).1.2.outcome role = .failed →
    (agent.connection.establish.result world).1.1.endpoint? role = some ⟨transport, endpoint⟩ → endpoint.assets = []
  /-- Whatever an attempt to open something fails at, there is no socket and no line that was not there before. -/
  refused : ∀ (transport : Transport) (target : transport.Target) {failure : Failure},
    ((transport.openHandle target).result world).1 = .error failure →
    (∀ id, ((transport.openHandle target).result world).2.network.socket? id = world.network.socket? id) ∧
    ∀ id, ((transport.openHandle target).result world).2.devices.line? id = world.devices.line? id
  /-- A socket is closed at whichever step of its making it fails. -/
  unmade : ∀ (owner : Owner) (steps : SocketId → List Network.Step) {error : IoError} {later : Network},
    Network.make owner steps world.network = (.error error, later) → later.socket? world.network.sockets.next = none
  /-- A peer that is taken takes the place of the one before, which is shut down and closed. -/
  taken : ∀ {target listener command}, agent.connection = .rsn (.ofListener target listener) command →
    ∃ deeds, Listener.PeerExchange world listener (listener.acceptPeer.result world).1.1 deeds ∧
      (listener.acceptPeer.result world).2.journal = world.journal ++ deeds
  /-- After a change of the data port nothing of the agent's listens on the port before. -/
  moved : ∀ {address port}, agent.connection.dataAddress? = some address → port ≠ address.port →
    ∀ id listening, ((agent.connection.apply (.dataPort port)).result world).2.network.socket? id =
      some ⟨.agent, .listening listening⟩ → listening.address.port ≠ address.port

/-- The books of an agent are right in every state of every history. -/
theorem nothing_lost_nothing_twice {agent : Agent} {world : World} (reached : Reachable agent world) :
    Accounted agent world := by
  have order := inOrder_of_reachable reached
  constructor
  case opened =>
    intro asset
    rw [stillOpen_iff]
    exact order.owned asset
  case had =>
    intro asset
    rw [← order.sound.isSome_ledger]
    exact order.owned asset
  case once => exact order.once
  case tidy => exact order.tidy
  case change => exact Connection.apply_exchange order
  case establish =>
    obtain ⟨data, first, noted⟩ := Connection.establishRole_exchange order .data
    obtain ⟨command, second, notedToo⟩ := Connection.establishRole_exchange (order.establishRole .data) .command
    rw [noted] at notedToo
    exact ⟨data, command, first, second, notedToo⟩
  case failed =>
    intro role transport endpoint failed behind
    exact Endpoint.assets_eq_nil (Connection.establish_failed order failed behind)
  case refused => exact fun transport target {failure} => Transport.openHandle_failed
  case unmade => exact fun owner steps {error later} => Network.socket?_make_failed
  case taken =>
    intro target listener command same
    rw [same] at order
    exact (Listener.acceptPeer_handover order.sound (Endpoint.holds_of_fits order.listener_fits)).exchange
  case moved =>
    intro address port has different id listening found
    have later := order.apply (.dataPort port)
    -- What listens is the one socket of the data role, and that is bound at the new port.
    have own : ((agent.connection.apply (.dataPort port)).result world).2.own? (.socket id) =
        some (.listening listening.address) := by
      simp [World.own?, Network.own?, found, Socket.own?, SocketState.purpose]
    obtain ⟨target, shown, bound⟩ := later.listening own
    rw [Connection.dataAddress?_dataPort order.sound.network has] at shown
    cases shown
    rw [bound]
    exact different

def replacedPeer : Agent × World :=
  (Agent.performAll [.establish, .event (.dial ⟨.v4 .localhost, 4001⟩), .poll,
    .event (.dial ⟨.v4 .localhost, 4001⟩), .poll]
    (.ofConnection (.ofSettings (.rsn ⟨"", 4001, "", 0⟩)))).result (World.ofRoutes .loopback)

theorem reachable_replacedPeer : Reachable replacedPeer.1 replacedPeer.2 :=
  Reachable.performAll (.start (.ofRoutes .loopback) _) _

/-- It owns its socket and the second peer, and the first peer was shut down and closed. On another port it leaves the
first one free. -/
theorem nothing_lost_nothing_twice_replaced :
    StillOpen replacedPeer.2.journal (.socket 4) ∧ StillOpen replacedPeer.2.journal (.socket 0) ∧
      ¬StillOpen replacedPeer.2.journal (.socket 2) ∧ Tidy replacedPeer.2.journal ∧
      replacedPeer.2.journal = [.listen ⟨.v4 .any, 4001⟩ (some 0), .accept 0 2, .accept 0 4, .shutdown 2 .both, .close 2] ∧
      ∀ id listening, ((replacedPeer.1.connection.apply (.dataPort 4002)).result replacedPeer.2).2.network.socket? id =
        some ⟨.agent, .listening listening⟩ → listening.address.port ≠ 4001 := by
  have all := nothing_lost_nothing_twice reachable_replacedPeer
  have owned : replacedPeer.1.connection.assets = [.socket 4, .socket 0] := by decide +kernel
  have address : replacedPeer.1.connection.dataAddress? = some ⟨"", 4001⟩ := by decide +kernel
  refine ⟨(all.opened _).mpr ?_, (all.opened _).mpr ?_, fun opened => ?_, all.tidy, by decide +kernel,
    all.moved address (by decide)⟩
  · rw [owned]
    decide
  · rw [owned]
    decide
  · have member := (all.opened _).mp opened
    rw [owned] at member
    revert member
    decide

end InstrumentLink
