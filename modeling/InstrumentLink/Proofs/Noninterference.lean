import InstrumentLink.Proofs.Connection.Beside
import InstrumentLink.Proofs.Endpoint.Prospect
import InstrumentLink.Proofs.Report

/-!
The two roles of a connection with two clients do not interfere. What is set of one role, and letting go of it, leaves the
other alone; and what one attempt to bring the connection up comes to for a role can be told from that role's own address,
from what it holds and from what there is at the other end, whatever the other role is like. The one thing that the roles
can compete for is the last place in the queue of a server, and there the data role comes first.
-/

namespace InstrumentLink

theorem Prospect.outcome_congr {prospect : Prospect} {room other : SocketAddress → Bool}
    (same : ∀ remote, prospect = .dial remote → room remote = other remote) :
    prospect.outcome room = prospect.outcome other := by
  cases prospect with
  | dial remote => rw [outcome, outcome, same remote rfl]
  | _ => rfl

theorem Prospect.held_congr {prospect : Prospect} {room other : SocketAddress → Bool}
    (same : ∀ remote, prospect = .dial remote → room remote = other remote) (before : Option (Option Face)) :
    prospect.held room before = prospect.held other before := by
  cases prospect with
  | dial remote => rw [held, held, same remote rfl]
  | _ => rfl

/-- The role whose settings or thing a move is about, if it is about one role alone. -/
def Move.addressee? : Move → Option Role
  | .change setting => some setting.role
  | .disconnect role => some role
  | _ => none

namespace Connection

def client? (connection : Connection) (role : Role) : Option (Endpoint .client) :=
  match connection.endpoint? role with
  | some ⟨.client, endpoint⟩ => some endpoint
  | _ => none

/-- All of a role's client but the local port: its address, and the face of what it holds. -/
def view (connection : Connection) (role : Role) (world : World) : Option (HostPort × Option (Option Face)) :=
  (connection.client? role).map fun endpoint => (endpoint.target, endpoint.held world)

def prospect (connection : Connection) (role : Role) (world : World) : Prospect :=
  ((connection.client? role).map fun endpoint => endpoint.prospect world).getD .unset

def seeks? (connection : Connection) (role : Role) (world : World) : Option (SocketId × Listening) :=
  match connection.prospect role world with
  | .dial remote => world.network.listenerAt? remote
  | _ => none

/-- Both roles are going to dial one server, and there is one place left in its queue. -/
def Competes (connection : Connection) (world : World) : Prop :=
  ∃ server listening, connection.seeks? .data world = some (server, listening) ∧
    connection.seeks? .command world = some (server, listening) ∧ listening.queue.length = listening.backlog

def mate? (connection : Connection) (role : Role) (world : World) : Option SocketId :=
  (connection.client? role).bind fun endpoint => endpoint.handle.bind fun (id : SocketId) =>
    (world.network.stream? id).bind Stream.mate

def attempt (before after : Connection) (role : Role) (world : World) : List Deed :=
  match before.client? role, after.client? role with
  | some endpoint, some later => (endpoint.prospect world).deeds endpoint.closings later.handle
  | _, _ => []

/-- A role is the same in two worlds, and finds the same around it. -/
structure Alike (role : Role) (connection : Connection) (world : World) (twin : Connection) (twinWorld : World) : Prop where
  view : twin.view role twinWorld = connection.view role world
  routes : twinWorld.network.routes = world.network.routes
  room : ∀ remote, connection.prospect role world = .dial remote →
    twinWorld.network.roomAt remote = world.network.roomAt remote

theorem mate?_of_client? {connection : Connection} {role : Role} {world : World} {endpoint : Endpoint .client}
    {id : SocketId} {stream : Stream} (behind : connection.client? role = some endpoint) (held : endpoint.handle = some id)
    (found : world.network.stream? id = some stream) : connection.mate? role world = stream.mate := by
  rw [mate?, behind, Option.bind_some, held]
  exact congrArg (·.bind Stream.mate) found

/-- Bringing two clients up is an attempt for the first and then one for the second, of which neither touches what the
other holds. -/
inductive Steps (data command : Endpoint .client) (world : World) : (Connection × Report) × World → Prop
  | intro {dataAfter commandAfter : Endpoint .client} {first second : Outcome} {middle later : World}
      (dataTried : data.Tried world (data.prospect world) ((dataAfter, first), middle))
      (commandTried : command.Tried middle (command.prospect world) ((commandAfter, second), later))
      (commandKept : command.held middle = command.held world)
      (dataKept : ∀ id : SocketId, dataAfter.handle = some id → later.network.stream? id = middle.network.stream? id) :
    Steps data command world ((tcp dataAfter commandAfter, ⟨first, second⟩), later)

variable {connection : Connection} {data command : Endpoint .client} {world : World}

theorem held_of_stream? {endpoint : Endpoint .client} {later : World}
    (same : ∀ id : SocketId, endpoint.handle = some id → later.network.stream? id = world.network.stream? id) :
    endpoint.held later = endpoint.held world := by
  obtain ⟨target, _ | id⟩ := endpoint
  · rfl
  · exact congrArg some (congrArg (Option.map Stream.face) (same id rfl))

theorem establish_steps (order : (tcp data command).InOrder world) :
    Steps data command world ((tcp data command).establish.result world) := by
  have apart : ∀ {first second : Endpoint .client} {world : World}, (tcp first second).InOrder world →
      ∀ asset ∈ second.assets, asset ∉ first.assets := by
    intro first second world order asset inSecond inFirst
    have once := ((Place.tcpData second).nodup_assets_fill first).mp order.once
    exact once.2.2 asset inFirst (by simpa [Place.rest, Place.others] using inSecond)
  have isData : ∀ {first second : Endpoint .client}, ⟨_, first⟩ ∈ (tcp first second).endpoints := by simp [endpoints]
  have isCommand : ∀ {first second : Endpoint .client}, ⟨_, second⟩ ∈ (tcp first second).endpoints := by simp [endpoints]
  have dataFits := order.fits isData
  have commandFits := order.fits isCommand
  have result : (tcp data command).establish.result world =
      ((tcp ((bringUp .data data).result world).1.1
          ((bringUp .command command).result ((bringUp .data data).result world).2).1.1,
        ⟨((bringUp .data data).result world).1.2,
          ((bringUp .command command).result ((bringUp .data data).result world).2).1.2⟩),
        ((bringUp .command command).result ((bringUp .data data).result world).2).2) := rfl
  have orderMiddle : (tcp ((bringUp .data data).result world).1.1 command).InOrder
      ((bringUp .data data).result world).2 := order.establishRole .data
  have kept : ∀ id : SocketId, command.handle = some id →
      ((bringUp .data data).result world).2.network.stream? id = world.network.stream? id :=
    fun _ => stream?_bringUp_other order.sound dataFits commandFits (apart order) .data
  have routes := (bringUp_handover order.sound dataFits .data).routes
  have commandTried := Endpoint.bringUp_tried orderMiddle.sound (orderMiddle.fits isCommand) .command
  rw [Endpoint.prospect_congr commandFits order.sound rfl (held_of_stream? kept) routes] at commandTried
  rw [result]
  refine .intro (Endpoint.bringUp_tried order.sound dataFits .data) commandTried (held_of_stream? kept) fun id held => ?_
  refine stream?_bringUp_other orderMiddle.sound (orderMiddle.fits isCommand) (orderMiddle.fits isData) ?_ .command held
  exact fun asset inData inCommand => apart orderMiddle asset inCommand inData

theorem eq_tcp_of_kind (tcp : connection.kind = .tcp) : ∃ data command, connection = .tcp data command := by
  cases connection with
  | tcp data command => exact ⟨data, command, rfl⟩
  | rsn _ _ | udp _ | serial _ => cases tcp

theorem seeks?_of_dials {role : Role} {remote : SocketAddress} (dials : connection.prospect role world = .dial remote) :
    connection.seeks? role world = world.network.listenerAt? remote := by
  rw [seeks?, dials]

/-- Where the roles do not compete, the attempt of the first leaves as much room as the second needs. -/
theorem Steps.room_of_not_competes {dataAfter : Endpoint .client} {first : Outcome} {middle : World}
    (dataTried : data.Tried world (data.prospect world) ((dataAfter, first), middle))
    (alone : ¬(tcp data command).Competes world) {remote : SocketAddress}
    (dials : command.prospect world = .dial remote) : middle.network.roomAt remote = world.network.roomAt remote := by
  refine dataTried.roomAt_eq fun other server listening otherDials reached same last => alone ?_
  have dataSeeks : (tcp data command).seeks? .data world = world.network.listenerAt? other := seeks?_of_dials otherDials
  have commandSeeks : (tcp data command).seeks? .command world = world.network.listenerAt? remote := seeks?_of_dials dials
  exact ⟨server, listening, dataSeeks.trans reached, commandSeeks.trans same, last⟩

/-- What an attempt comes to for a role, and what the role shows then, can be told from its prospect, from what it shows
before and from the room where it dials. -/
theorem establish_foreseen (order : connection.InOrder world) (isTcp : connection.kind = .tcp) {role : Role}
    (alone : role = .command → ¬connection.Competes world) :
    (connection.establish.result world).1.2.outcome role =
        (connection.prospect role world).outcome world.network.roomAt ∧
      (connection.establish.result world).1.1.view role (connection.establish.result world).2 =
        (connection.view role world).map
          (Prod.map id fun held => (connection.prospect role world).held world.network.roomAt held) := by
  obtain ⟨data, command, rfl⟩ := eq_tcp_of_kind isTcp
  have steps := establish_steps order
  generalize (tcp data command).establish.result world = established at steps ⊢
  cases steps with
  | intro dataTried commandTried commandKept dataKept =>
    cases role with
    | data =>
      refine ⟨dataTried.outcome_eq, congrArg some (Prod.ext dataTried.target_eq ?_)⟩
      exact (held_of_stream? dataKept).trans dataTried.held_eq
    | command =>
      have room : ∀ remote, command.prospect world = .dial remote → _ = world.network.roomAt remote :=
        fun _ => Steps.room_of_not_competes dataTried (alone rfl)
      refine ⟨commandTried.outcome_eq.trans (Prospect.outcome_congr room),
        congrArg some (Prod.ext commandTried.target_eq ?_)⟩
      refine commandTried.held_eq.trans ((Prospect.held_congr room _).trans ?_)
      exact congrArg (fun held => (command.prospect world).held world.network.roomAt held) commandKept

theorem Alike.prospect {role : Role} {twin : Connection} {twinWorld : World}
    (alike : Alike role connection world twin twinWorld) (order : connection.InOrder world) :
    twin.prospect role twinWorld = connection.prospect role world := by
  have shown := alike.view
  unfold Connection.view at shown
  unfold Connection.prospect
  cases found : connection.client? role with
  | none =>
    rw [found] at shown
    rw [Option.map_eq_none_iff.mp shown]
    rfl
  | some endpoint =>
    rw [found] at shown
    obtain ⟨twinEndpoint, twinFound, same⟩ := Option.map_eq_some_iff.mp shown
    obtain ⟨target, held⟩ := Prod.mk.inj same
    have carries : connection.endpoint? role = some ⟨.client, endpoint⟩ := by
      unfold client? at found
      split at found
      next behind => cases found; exact behind
      next => cases found
    rw [twinFound]
    exact Endpoint.prospect_congr (order.fits (mem_endpoints carries)) order.sound target held alike.routes

/-- Two runs in which a role is the same come to the same for it, whatever the other role is like. -/
theorem establish_alike {role : Role} {twin : Connection} {twinWorld : World} (order : connection.InOrder world)
    (twinOrder : twin.InOrder twinWorld) (isTcp : connection.kind = .tcp) (twinIsTcp : twin.kind = .tcp)
    (alike : Alike role connection world twin twinWorld)
    (alone : role = .command → ¬connection.Competes world ∧ ¬twin.Competes twinWorld) :
    (twin.establish.result twinWorld).1.2.outcome role = (connection.establish.result world).1.2.outcome role ∧
      (twin.establish.result twinWorld).1.1.view role (twin.establish.result twinWorld).2 =
        (connection.establish.result world).1.1.view role (connection.establish.result world).2 := by
  obtain ⟨outcome, view⟩ := establish_foreseen order isTcp fun isCommand => (alone isCommand).1
  obtain ⟨twinOutcome, twinView⟩ := establish_foreseen twinOrder twinIsTcp fun isCommand => (alone isCommand).2
  rw [outcome, twinOutcome, view, twinView, alike.prospect order, alike.view]
  refine ⟨Prospect.outcome_congr alike.room, ?_⟩
  congr 2
  funext held
  exact Prospect.held_congr alike.room held

/-- All that is noted is the attempt for the first role and then the one for the second, each as it was foreseen. -/
theorem journal_establish (order : connection.InOrder world) (isTcp : connection.kind = .tcp) :
    (connection.establish.result world).2.journal =
      world.journal ++ connection.attempt (connection.establish.result world).1.1 .data world ++
        connection.attempt (connection.establish.result world).1.1 .command world := by
  obtain ⟨data, command, rfl⟩ := eq_tcp_of_kind isTcp
  have steps := establish_steps order
  generalize (tcp data command).establish.result world = established at steps ⊢
  cases steps with
  | intro dataTried commandTried commandKept dataKept =>
    exact commandTried.journal_eq.trans (congrArg (· ++ _) dataTried.journal_eq)

/-- Where both roles come up at one server, the first stands before the second in its queue. -/
theorem queue_establish (order : connection.InOrder world) (isTcp : connection.kind = .tcp) {server : SocketId}
    {listening : Listening} (up : ∀ role, (connection.establish.result world).1.2.outcome role = .connected ∧
      connection.seeks? role world = some (server, listening)) :
    ∃ first second, (connection.establish.result world).1.1.mate? .data (connection.establish.result world).2 =
        some first ∧
      (connection.establish.result world).1.1.mate? .command (connection.establish.result world).2 = some second ∧
      (connection.establish.result world).2.network.listening? server =
        some { listening with queue := listening.queue ++ [first, second] } := by
  obtain ⟨data, command, rfl⟩ := eq_tcp_of_kind isTcp
  obtain ⟨dataUp, dataSeeks⟩ := up .data
  obtain ⟨commandUp, commandSeeks⟩ := up .command
  have steps := establish_steps order
  generalize (tcp data command).establish.result world = established at steps dataUp commandUp ⊢
  cases steps with
  | @intro dataAfter commandAfter _ _ middle later dataTried commandTried commandKept dataKept =>
    cases dataUp
    cases commandUp
    obtain ⟨remote, _, id, first, _, _, dials, reached, held, found, mate, joined⟩ := dataTried.of_connected
    obtain ⟨otherRemote, otherServer, otherId, second, _, _, otherDials, otherReached, otherHeld, otherFound, otherMate,
      otherJoined⟩ := commandTried.of_connected
    have dataFinds : (tcp data command).seeks? .data world = world.network.listenerAt? remote := seeks?_of_dials dials
    have commandFinds : (tcp data command).seeks? .command world = world.network.listenerAt? otherRemote :=
      seeks?_of_dials otherDials
    rw [dataFinds, reached] at dataSeeks
    cases dataSeeks
    have listens := (Network.listenerAt?_eq_some reached).1
    -- The first attempt has not moved anybody, so that the second finds the same server.
    have heard : (middle.network.listenerAt? otherRemote).map Prod.fst =
        (world.network.listenerAt? otherRemote).map Prod.fst := by
      refine Network.listenerAt?_of_addresses (fun other => ?_) otherRemote
      rw [joined]
      split <;> cases world.network.listening? other <;> rfl
    rw [← commandFinds, commandSeeks, otherReached] at heard
    cases heard
    refine ⟨first, second, ?_, ?_, ?_⟩
    · exact (mate?_of_client? rfl held ((dataKept id held).trans found)).trans mate
    · exact (mate?_of_client? rfl otherHeld otherFound).trans otherMate
    · rw [otherJoined, if_pos rfl, joined, if_pos rfl, listens]
      simp

theorem endpoint?_apply_other {role : Role} {change : Change} (different : change.role ≠ role) (connection : Connection)
    (world : World) : ((connection.apply change).result world).1.endpoint? role = connection.endpoint? role := by
  cases connection.taken change with
  | stored place endpoint target filled applies addressed written result =>
    subst filled
    rw [result]
    exact place.endpoint?_fill_apart (fun carried => different (addressed role carried)) ..
  | ignored foreign result => rw [result]

theorem endpoint?_disconnect_other {role other : Role} (different : other ≠ role) (connection : Connection)
    (world : World) : ((connection.disconnect other).result world).1.endpoint? role = connection.endpoint? role := by
  rw [disconnect, Act.result_bind]
  rcases connection.onRole_result other with ⟨transport, place, endpoint, rfl, carries, _, result⟩ | ⟨_, result⟩
  · rw [result]
    exact Place.endpoint?_fill_other carries different.symm ..
  · rw [result]
    rfl

end Connection

/-- Whatever has happened to an agent with two clients, its roles do not interfere. What is set of one role, and letting go
of it, leaves the address, the handle and the state of the other. One attempt to bring both up comes to the same for a
role, in its outcome and in all that the role shows then but its local port, wherever the role is the same and finds the
same around it, whatever the other role is like: only where both seek the last place in one queue the second may fare
otherwise. Each role is attempted as its own address and handle ask for, the data role before the command role, and where
both come up at one server they stand in that order in its queue. -/
theorem roles_do_not_interfere {agent : Agent} {world : World} (reached : Reachable agent world)
    (isTcp : agent.connection.kind = .tcp) :
    let before := agent.connection
    let after := (before.establish.result world).1.1
    let report := (before.establish.result world).1.2
    let later := (before.establish.result world).2
    (∀ move role other, move.addressee? = some role → other ≠ role →
      let moved := (agent.perform move).result world
      moved.1.connection.endpoint? other = before.endpoint? other ∧
      ((moved.1.connection.isConnected other).result moved.2).1 = ((before.isConnected other).result world).1) ∧
    (∀ (twin : Agent) (twinWorld : World) (role : Role), Reachable twin twinWorld → twin.connection.kind = .tcp →
      Connection.Alike role before world twin.connection twinWorld →
      (role = .command → ¬before.Competes world ∧ ¬twin.connection.Competes twinWorld) →
      let established := twin.connection.establish.result twinWorld
      established.1.2.outcome role = report.outcome role ∧
      established.1.1.view role established.2 = after.view role later) ∧
    later.journal = world.journal ++ before.attempt after .data world ++ before.attempt after .command world ∧
    (∀ server listening, (∀ role, report.outcome role = .connected ∧
        before.seeks? role world = some (server, listening)) →
      ∃ first second, after.mate? .data later = some first ∧ after.mate? .command later = some second ∧
        later.network.listening? server = some { listening with queue := listening.queue ++ [first, second] }) := by
  have order := inOrder_of_reachable reached
  have outward := World.outward_of_reachable reached
  refine ⟨fun move role other addressed different => ?_, ?_, Connection.journal_establish order isTcp,
    fun server listening => Connection.queue_establish order isTcp⟩
  · have orderAfter := inOrder_of_reachable (reached.step move)
    dsimp only
    rw [Connection.isConnected_result orderAfter.sound.network, Connection.isConnected_result order.sound.network]
    cases move with
    | change setting =>
      cases addressed
      exact ⟨Connection.endpoint?_apply_other different.symm .., Connection.live_apply_other order outward different.symm⟩
    | disconnect gone =>
      cases addressed
      exact ⟨Connection.endpoint?_disconnect_other different.symm ..,
        Connection.live_disconnect_other order outward different.symm⟩
    | _ => cases addressed
  · intro twin twinWorld role twinReached twinIsTcp alike alone
    exact Connection.establish_alike order (inOrder_of_reachable twinReached) isTcp twinIsTcp alike alone

def bothSeek : Agent × World :=
  (Agent.performAll [.event (.serve ⟨.v4 .localhost, 4001⟩ 1 true)]
    (.ofConnection (.ofSettings (.tcp ⟨"127.0.0.1", 4001, "127.0.0.1", 4001⟩)))).result (World.ofRoutes .loopback)

theorem reachable_bothSeek : Reachable bothSeek.1 bothSeek.2 :=
  Reachable.performAll (.start (.ofRoutes .loopback) _) _

def oneSeeks : Agent × World :=
  (Agent.performAll [.event (.serve ⟨.v4 .localhost, 4001⟩ 0 true)]
    (.ofConnection (.ofSettings (.tcp ⟨"nowhere", 4001, "127.0.0.1", 4001⟩)))).result (World.ofRoutes .loopback)

theorem reachable_oneSeeks : Reachable oneSeeks.1 oneSeeks.2 :=
  Reachable.performAll (.start (.ofRoutes .loopback) _) _

/-- The command role fares the same with both, and with the one stands after the data role in the queue of the server. -/
theorem roles_do_not_interfere_bothSeek :
    (oneSeeks.1.connection.establish.result oneSeeks.2).1.2 = ⟨.failed, .connected⟩ ∧
      (bothSeek.1.connection.establish.result bothSeek.2).1.1.mate? .data
        (bothSeek.1.connection.establish.result bothSeek.2).2 = some 2 ∧
      (bothSeek.1.connection.establish.result bothSeek.2).1.1.mate? .command
        (bothSeek.1.connection.establish.result bothSeek.2).2 = some 4 ∧
      (bothSeek.1.connection.establish.result bothSeek.2).2.network.listening? 0 =
        some ⟨⟨.v4 .localhost, 4001⟩, [2, 4], 1, true⟩ := by
  obtain ⟨_, alike, _, queues⟩ := roles_do_not_interfere reachable_bothSeek (by decide +kernel)
  have report : (bothSeek.1.connection.establish.result bothSeek.2).1.2 = ⟨.connected, .connected⟩ := by decide +kernel
  have data : (oneSeeks.1.connection.establish.result oneSeeks.2).1.2.data = .failed := by decide +kernel
  have found : ∀ role, bothSeek.1.connection.seeks? role bothSeek.2 =
      some (0, ⟨⟨.v4 .localhost, 4001⟩, [], 1, true⟩) := by
    intro role
    cases role <;> decide +kernel
  have nobody : oneSeeks.1.connection.seeks? .data oneSeeks.2 = none := by decide +kernel
  have same : Connection.Alike .command bothSeek.1.connection bothSeek.2 oneSeeks.1.connection oneSeeks.2 := by
    refine ⟨by decide +kernel, rfl, fun remote dials => ?_⟩
    have prospect : bothSeek.1.connection.prospect .command bothSeek.2 = .dial ⟨.v4 .localhost, 4001⟩ := by
      decide +kernel
    rw [prospect] at dials
    cases dials
    decide +kernel
  have bothAlone : ¬bothSeek.1.connection.Competes bothSeek.2 := by
    rintro ⟨server, listening, seeks, _, last⟩
    rw [found] at seeks
    cases seeks
    cases last
  have oneAlone : ¬oneSeeks.1.connection.Competes oneSeeks.2 := by
    rintro ⟨server, listening, seeks, _⟩
    rw [nobody] at seeks
    cases seeks
  have command := (alike oneSeeks.1 oneSeeks.2 .command reachable_oneSeeks (by decide +kernel) same fun _ =>
    ⟨bothAlone, oneAlone⟩).1
  rw [report] at command
  have up : ∀ role, (bothSeek.1.connection.establish.result bothSeek.2).1.2.outcome role = .connected ∧
      bothSeek.1.connection.seeks? role bothSeek.2 = some (0, ⟨⟨.v4 .localhost, 4001⟩, [], 1, true⟩) := by
    intro role
    rw [report]
    exact ⟨by cases role <;> rfl, found role⟩
  obtain ⟨first, second, isFirst, isSecond, queue⟩ := queues _ _ up
  have firstIs : (bothSeek.1.connection.establish.result bothSeek.2).1.1.mate? .data
      (bothSeek.1.connection.establish.result bothSeek.2).2 = some 2 := by decide +kernel
  have secondIs : (bothSeek.1.connection.establish.result bothSeek.2).1.1.mate? .command
      (bothSeek.1.connection.establish.result bothSeek.2).2 = some 4 := by decide +kernel
  rw [firstIs] at isFirst
  rw [secondIs] at isSecond
  cases isFirst
  cases isSecond
  refine ⟨?_, firstIs, secondIs, queue⟩
  generalize (oneSeeks.1.connection.establish.result oneSeeks.2).1.2 = outcomes at data command ⊢
  obtain ⟨first, second⟩ := outcomes
  cases data
  cases command
  rfl

end InstrumentLink
