import InstrumentLink.Proofs.Connection.Served

/-!
A connection can be looked at in several ways: each role can be asked whether it is up and what it lends out, the whole
can be asked for its status, and a listener that is lent out can be asked for its peer. They all tell the same.
-/

namespace InstrumentLink

namespace RoleState

variable {state : RoleState}

theorem text_eq_connected (sensible : state.Sensible) : state.text = "connected" ↔ state.connected = true := by
  obtain ⟨supported, configured, connected⟩ := state
  obtain ⟨first, second⟩ := sensible
  revert first second
  cases supported <;> cases configured <;> cases connected <;> decide

theorem text_eq_disconnected (sensible : state.Sensible) :
    state.text = "disconnected" ↔ state.configured = true ∧ state.connected = false := by
  obtain ⟨supported, configured, connected⟩ := state
  obtain ⟨first, second⟩ := sensible
  revert first second
  cases supported <;> cases configured <;> cases connected <;> decide

end RoleState

/-- A stream is up once its handshake is done, until it is refused or reset, and until the other end has closed and all that
it sent is read. -/
theorem Stream.Sound.isLive_iff {stream : Stream} (sound : stream.Sound) :
    stream.isLive = true ↔ stream.phase = .established ∧ ¬(stream.ended = true ∧ stream.inbox = []) := by
  by_cases established : stream.phase = .established
  · have quiet := sound.error_eq_none (by simp [established])
    rw [isLive, peerAddress?_isSome, peek, quiet]
    cases stream.inbox <;> cases ended : stream.ended <;> simp [established, Peek.isOver]
  · simp [isLive, peerAddress?_isSome, established]

theorem Network.peerAddress?_datagram {network : Network} {id : SocketId} {remote : SocketAddress}
    (own : network.own? id = some (.datagram remote)) : network.peerAddress? id = some remote := by
  rw [peerAddress?, own?_datagram own]
  rfl

theorem Channel.transport_ofHandle {transport : Transport} (handle : transport.Handle) :
    (Channel.ofHandle transport handle).transport = transport := by
  cases transport <;> rfl

namespace Endpoint

variable {world : World}

theorem live_client_iff {endpoint : Endpoint .client} (sound : world.Sound) (fits : endpoint.Fits world) :
    endpoint.live world = true ↔ ∃ id stream, endpoint.handle = some id ∧ world.network.stream? id = some stream ∧
      stream.phase = .established ∧ ¬(stream.ended = true ∧ stream.inbox = []) := by
  cases held : endpoint.handle with
  | none => simp [live, held]
  | some id =>
    obtain ⟨stream, found⟩ := fits.stream sound held
    have shown : endpoint.live world = stream.isLive := by
      rw [live, held]
      exact Network.isLive_stream found
    rw [shown, (sound.network.streams found).isLive_iff]
    constructor
    · exact fun up => ⟨id, stream, rfl, found, up⟩
    · rintro ⟨other, another, same, foundToo, up⟩
      cases same
      rw [found] at foundToo
      cases foundToo
      exact up

theorem live_serial_iff {endpoint : Endpoint .serial} :
    endpoint.live world = true ↔ ∃ id line number terminal, endpoint.handle = some id ∧
      world.devices.line? id = some line ∧ line.file = .terminal number ∧
        world.devices.terminal? number = some terminal ∧ terminal.present = true := by
  have shown : endpoint.live world = true ↔ ∃ id, endpoint.handle = some id ∧ world.devices.isAlive id = true := by
    rw [live, Option.any_eq_true]
    rfl
  rw [shown]
  apply exists_congr
  intro id
  unfold Devices.isAlive
  constructor
  · rintro ⟨held, alive⟩
    unfold Devices.lineTerminal? at alive
    cases opened : world.devices.line? id with
    | none => simp [opened] at alive
    | some line =>
      cases file : line.file with
      | terminal number =>
        cases there : world.devices.terminal? number with
        | none => simp [opened, file, there] at alive
        | some terminal => exact ⟨line, number, terminal, held, rfl, file, there, by simpa [opened, file, there] using alive⟩
      | directory | plain _ | device _ => simp [opened, file] at alive
  · rintro ⟨line, number, terminal, held, opened, file, there, present⟩
    simp [Devices.lineTerminal?, held, opened, file, there, present]

theorem live_udp {endpoint : Endpoint .udp} (sound : world.Sound) (fits : endpoint.Fits world) :
    endpoint.live world = endpoint.hasHandle := by
  cases held : endpoint.handle with
  | none => rw [live, hasHandle, held]; rfl
  | some id =>
    obtain ⟨request, asked, own⟩ := fits.own? sound held
    obtain ⟨remote, _, rfl⟩ := map_eq_ok asked
    rw [live, hasHandle, held]
    exact congrArg Option.isSome (Network.peerAddress?_datagram own)

theorem live_listener {endpoint : Endpoint .listener} (sound : world.Sound) (fits : endpoint.Fits world) :
    endpoint.live world = endpoint.hasHandle := by
  cases held : endpoint.handle with
  | none => rw [live, hasHandle, held]; rfl
  | some listener =>
    rw [fits.live_listener sound held, hasHandle, held]
    rfl

end Endpoint

namespace Listener

variable {listener : Listener} {world : World} {peer : SocketId}

theorem livePeer?_eq_some : (listener.livePeer?.result world).1 = some peer ↔
    listener.peer = some peer ∧ (world.network.peek peer).1.isOver = false := by
  unfold livePeer?
  cases had : listener.peer with
  | none => simp
  | some other =>
    simp only [Act.result_bind, Act.result_isOver, Act.result_pure]
    have shown : (if (world.network.peek other).1.isOver then none else some other) = some peer ↔
        some other = some peer ∧ (world.network.peek peer).1.isOver = false := by
      cases ended : (world.network.peek other).1.isOver with
      | false =>
        constructor
        · rintro ⟨⟩
          exact ⟨rfl, ended⟩
        · exact And.left
      | true =>
        constructor
        · rintro ⟨⟩
        · rintro ⟨⟨⟩, calm⟩
          rw [ended] at calm
          cases calm
    exact shown

theorem attached_iff : listener.attached world = true ↔ ∃ peer, (listener.livePeer?.result world).1 = some peer := by
  simp only [livePeer?_eq_some, attached, Option.any_eq_true, Bool.not_eq_true']

end Listener

namespace Connection

variable {connection : Connection} {world : World} {role : Role}

theorem isSome_lent? (connection : Connection) (role : Role) (world : World) :
    (connection.lent? role world).isSome = connection.live role world := by
  unfold lent? live
  cases connection.endpoint? role with
  | none => rfl
  | some carrier =>
    dsimp only
    cases up : carrier.2.live world with
    | false => rfl
    | true =>
      rw [if_pos rfl, Option.isSome_map]
      exact Endpoint.hasHandle_of_live up

theorem transport?_of_lent? {channel : Channel} (lent : connection.lent? role world = some channel) :
    connection.kind.transport? role = some channel.transport := by
  obtain ⟨transport, endpoint, handle, found, _, _, rfl⟩ := lent?_eq_some lent
  rw [Channel.transport_ofHandle, transport?_of_endpoint? found]

structure RoleViews (connection : Connection) (role : Role) (world : World) (connected : Bool) (lent : Option Channel)
    (state : RoleState) : Prop where
  lends : lent.isSome = connected
  transport : ∀ channel, lent = some channel → connection.kind.transport? role = some channel.transport
  configured : connected = true → connection.isConfigured role = true
  supported : connection.isConfigured role = true → connection.kind.supports role = true
  shown : state = ⟨connection.kind.supports role, connection.isConfigured role, connected⟩
  saysConnected : state.text = "connected" ↔ lent.isSome = true
  saysDisconnected : state.text = "disconnected" ↔ connection.isConfigured role = true ∧ lent = none
  /-- A client is up once its handshake is done, until it is refused or reset, and until the other end has closed and all
  that it sent is read. -/
  client : ∀ endpoint : Endpoint .client, connection.endpoint? role = some ⟨.client, endpoint⟩ →
    (connected = true ↔ ∃ id stream, endpoint.handle = some id ∧ world.network.stream? id = some stream ∧
      stream.phase = .established ∧ ¬(stream.ended = true ∧ stream.inbox = []))
  /-- A serial line is up while its device is there. -/
  serial : ∀ endpoint : Endpoint .serial, connection.endpoint? role = some ⟨.serial, endpoint⟩ →
    (connected = true ↔ ∃ id line number terminal, endpoint.handle = some id ∧ world.devices.line? id = some line ∧
      line.file = .terminal number ∧ world.devices.terminal? number = some terminal ∧ terminal.present = true)
  /-- The others are up while they hold something. -/
  others : ∀ {transport : Transport} (endpoint : Endpoint transport),
    connection.endpoint? role = some ⟨transport, endpoint⟩ → transport = .listener ∨ transport = .udp →
      connected = endpoint.hasHandle

theorem views_of_role (order : connection.InOrder world) (role : Role) :
    RoleViews connection role world ((connection.isConnected role).result world).1
      ((connection.channel? role).result world).1 ((connection.status.result world).1.role role) := by
  have sensible := sensible_status order role
  rw [role_status order, live_peerAttached order] at sensible ⊢
  rw [isConnected_result order.sound.network, channel?_result order.sound.network]
  have lent := connection.isSome_lent? role world
  constructor
  · exact lent
  · exact fun channel same => transport?_of_lent? same
  · exact sensible.configured
  · exact sensible.supported
  · rfl
  · rw [RoleState.text_eq_connected sensible, lent]
  · rw [RoleState.text_eq_disconnected sensible, ← Option.isNone_iff_eq_none, ← Option.not_isSome, lent]
    simp
  · intro endpoint found
    rw [live_of_endpoint? found]
    exact Endpoint.live_client_iff order.sound (order.fits (mem_endpoints found))
  · intro endpoint found
    rw [live_of_endpoint? found]
    exact Endpoint.live_serial_iff
  · intro transport endpoint found either
    have fits := order.fits (mem_endpoints found)
    rw [live_of_endpoint? found]
    rcases either with rfl | rfl
    · exact Endpoint.live_listener order.sound fits
    · exact Endpoint.live_udp order.sound fits

theorem exists_of_lent?_listener {listener : Listener} (lent : connection.lent? .data world = some (.listener listener)) :
    ∃ target command, connection = rsn (.ofListener target listener) command := by
  have listens : (connection.lent? .data world).bind Channel.listener? = some listener := by
    rw [lent]
    rfl
  exact lent?_listener listens

theorem lent?_of_listener {target : HostPort} {listener : Listener} {command : Endpoint .listener}
    (order : (rsn (.ofListener target listener) command).InOrder world) :
    (rsn (.ofListener target listener) command).lent? .data world = some (.listener listener) := by
  have up : (Endpoint.ofListener target listener).live world = true :=
    order.listener_fits.live_listener order.sound rfl
  unfold lent?
  dsimp only [endpoint?]
  rw [if_pos up]
  rfl

theorem attached?_eq_some_true (order : connection.InOrder world) :
    connection.attached? world = some true ↔
      ∃ listener, connection.lent? .data world = some (.listener listener) ∧ listener.attached world = true := by
  constructor
  · intro seen
    cases connection with
    | rsn data command =>
      obtain ⟨target, _ | listener⟩ := data
      · cases seen
      · exact ⟨listener, lent?_of_listener order, Option.some.inj seen⟩
    | tcp data command | udp data | serial data => cases seen
  · rintro ⟨listener, lent, seen⟩
    obtain ⟨target, command, rfl⟩ := exists_of_lent?_listener lent
    exact congrArg some seen

theorem ledger_of_lent? (order : connection.InOrder world) {listener : Listener}
    (lent : connection.lent? .data world = some (.listener listener)) {peer : SocketId} (had : listener.peer = some peer) :
    world.ledger (.socket peer) = some (.accept listener.socket peer) := by
  obtain ⟨target, command, rfl⟩ := exists_of_lent?_listener lent
  exact (order.listener_fits listener rfl).peer peer had

/-- What is told of the peer of a connection, and who that is: somebody whom this very listener has taken and who has not
been closed since, and at whom a look shows neither an end nor an error. -/
structure PeerViews (connection : Connection) (world : World) (connected : Bool) (lent : Option Channel)
    (attached : Option Bool) : Prop where
  asked : (connection.peerAttached.result world).1 = attached
  kind : attached.isSome = true ↔ connection.kind = .rsn
  attached : attached = some true ↔ connected = true ∧ ∃ listener peer, lent = some (.listener listener) ∧
    (listener.livePeer?.result world).1 = some peer ∧ (listener.hasLivePeer.result world).1 = true
  taken : ∀ listener peer, lent = some (.listener listener) → (listener.livePeer?.result world).1 = some peer →
    listener.peer = some peer ∧ ∃ before after, world.journal = before ++ .accept listener.socket peer :: after ∧
      .close peer ∉ after
  there : ∀ listener peer, lent = some (.listener listener) → (listener.livePeer?.result world).1 = some peer →
    (world.network.stream? peer).isSome = true ∧ (world.network.peek peer).1 ≠ .ended ∧
      ∀ error, (world.network.peek peer).1 ≠ .failed error

theorem views_of_peer (order : connection.InOrder world) :
    PeerViews connection world ((connection.isConnected .data).result world).1
      ((connection.channel? .data).result world).1 (connection.status.result world).1.peerAttached := by
  have sound := order.sound
  have shown : (connection.status.result world).1.peerAttached = connection.attached? world := by
    rw [(status_result order).1]
    rfl
  rw [shown, isConnected_result sound.network, channel?_result sound.network]
  constructor
  · exact (peerAttached_result order).1
  · cases connection <;> simp [attached?, kind]
  · rw [attached?_eq_some_true order]
    constructor
    · rintro ⟨listener, lent, seen⟩
      obtain ⟨peer, live⟩ := Listener.attached_iff.mp seen
      refine ⟨?_, listener, peer, lent, live, ?_⟩
      · rw [← isSome_lent?, lent]
        rfl
      · rw [(Listener.hasLivePeer_looked sound listener).1, seen]
    · rintro ⟨_, listener, peer, lent, live, _⟩
      exact ⟨listener, lent, Listener.attached_iff.mpr ⟨peer, live⟩⟩
  · intro listener peer lent live
    obtain ⟨had, _⟩ := Listener.livePeer?_eq_some.mp live
    obtain ⟨before, after, split, kept⟩ := exists_of_ledger (ledger_of_lent? order lent had)
    exact ⟨had, before, after, split, fun member => kept _ member rfl⟩
  · intro listener peer lent live
    obtain ⟨had, calm⟩ := Listener.livePeer?_eq_some.mp live
    obtain ⟨purpose, own, remote, rfl⟩ := sound.own?_of_ledger (ledger_of_lent? order lent had)
    obtain ⟨stream, found, _⟩ := Network.own?_stream own
    refine ⟨by rw [found]; rfl, ?_, ?_⟩
    · intro ended
      rw [ended] at calm
      cases calm
    · intro error failed
      rw [failed] at calm
      cases calm

end Connection

/-- Whatever has happened, all ways to look at a connection agree. A role lends something out just if it is up, and then the
thing that its kind has for the role; what is up is configured, and what is configured is supported; the status says just
that, and so does its text. That a peer is attached is told of connections with a listener alone, and then it is so: the
listener is up, it reports the peer itself, and it has taken that peer, has not closed it since, and sees neither an end nor
an error at it. Nobody who asks changes an answer. -/
theorem views_agree {agent : Agent} {world : World} (reached : Reachable agent world) :
    let connection := agent.connection
    let connected := fun role => (connection.isConnected role).result world
    let lent := fun role => (connection.channel? role).result world
    let status := connection.status.result world
    (∀ role, connection.RoleViews role world (connected role).1 (lent role).1 (status.1.role role)) ∧
    connection.PeerViews world (connected .data).1 (lent .data).1 status.1.peerAttached ∧
    (∀ role, (connected role).2 = world ∧ (lent role).2 = world) ∧
    (connection.status.result status.2).1 = status.1 := by
  have order := inOrder_of_reachable reached
  have sound := order.sound.network
  refine ⟨Connection.views_of_role order, Connection.views_of_peer order, ?_, ?_⟩
  · intro role
    dsimp only
    rw [Connection.isConnected_result sound, Connection.channel?_result sound]
    exact ⟨rfl, rfl⟩
  · obtain ⟨shown, still, -⟩ := Connection.status_result order
    have again := Connection.status_result (order.of_kept order.status_kept)
    exact again.1.trans (still.trans shown.symm)

def lastWords : Agent × World :=
  (Agent.performAll [.establish, .event (.dial ⟨.v4 .localhost, 4001⟩), .poll, .event (.send 1 [7]), .event (.close 1)]
    (.ofConnection (.ofSettings (.rsn ⟨"", 4001, "", 0⟩)))).result (World.ofRoutes .loopback)

theorem reachable_lastWords : Reachable lastWords.1 lastWords.2 :=
  Reachable.performAll (.start (.ofRoutes .loopback) _) _

/-- As the byte is not read yet, he counts as attached: the one whom the listener has taken. -/
theorem views_agree_lastWords :
    (lastWords.1.connection.status.result lastWords.2).1.peerAttached = some true ∧
      ∃ listener peer, listener.peer = some peer ∧
        ((lastWords.1.connection.channel? .data).result lastWords.2).1 = some (.listener listener) ∧
        ∃ before after, lastWords.2.journal = before ++ .accept listener.socket peer :: after ∧ .close peer ∉ after := by
  obtain ⟨-, views, -⟩ := views_agree reachable_lastWords
  have attached : (lastWords.1.connection.status.result lastWords.2).1.peerAttached = some true := by decide +kernel
  obtain ⟨-, listener, peer, lent, live, -⟩ := views.attached.mp attached
  obtain ⟨had, taken⟩ := views.taken listener peer lent live
  exact ⟨attached, listener, peer, had, lent, taken⟩

end InstrumentLink
