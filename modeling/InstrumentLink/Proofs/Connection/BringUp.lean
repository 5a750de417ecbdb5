import InstrumentLink.Proofs.Connection.Order
import InstrumentLink.Proofs.Talk

/-!
Bringing a connection up, and what the agent does around it, keep its books in order.
-/

namespace InstrumentLink
namespace Connection

variable {transport : Transport}

def unconfiguredLine (role : Role) : LogEntry :=
  ⟨.debug, .connection, role.name ++ " port not configured. Not initializing"⟩

def attemptLine (role : Role) (endpoint : Endpoint transport) : LogEntry :=
  ⟨.debug, .connection, "initialize " ++ role.name ++ " socket (" ++ endpoint.describe ++ ")"⟩

def failureLine (role : Role) (failure : Failure) : LogEntry :=
  ⟨.warn, .connection, role.name ++ " channel not initialized: " ++ failure.message⟩

def outcomeOf : Except Failure Unit → Bool → Outcome
  | .error _, _ => .failed
  | .ok _, true => .connected
  | .ok _, false => .pending

def failureLines (role : Role) : Except Failure Unit → List LogEntry
  | .error failure => [failureLine role failure]
  | .ok _ => []

inductive BroughtUp (role : Role) (endpoint : Endpoint transport) (world : World) :
    (Endpoint transport × Outcome) × World → Prop
  | unconfigured (unset : endpoint.isConfigured = false) :
    BroughtUp role endpoint world ((endpoint, .unconfigured), world.tell [unconfiguredLine role])
  | alreadyConnected (set : endpoint.isConfigured = true) (up : endpoint.live world = true) :
    BroughtUp role endpoint world ((endpoint, .alreadyConnected), world)
  | underWay (set : endpoint.isConfigured = true) (down : endpoint.live world = false)
      (connecting : endpoint.underWay world = true) :
    BroughtUp role endpoint world ((endpoint, .pending), world.tell [attemptLine role endpoint])
  | attempted (set : endpoint.isConfigured = true) (down : endpoint.live world = false)
      (settled : endpoint.underWay world = false) {told : List LogEntry} (quiet : ∀ entry ∈ told, entry.level = .debug)
      {after : Endpoint transport} {answer : Except Failure Unit} {later : World}
      (reopened : endpoint.reopen.result (world.tell told) = ((after, answer), later)) :
    BroughtUp role endpoint world ((after, outcomeOf answer (after.live later)), later.tell (failureLines role answer))

theorem bringUp_spec {endpoint : Endpoint transport} {world : World} (sound : world.Sound)
    (fits : endpoint.Fits world) (role : Role) :
    BroughtUp role endpoint world ((bringUp role endpoint).result world) := by
  unfold bringUp
  cases set : endpoint.isConfigured with
  | false => exact .unconfigured set
  | true =>
    simp only [Bool.not_true, Bool.false_eq_true, if_false, Act.result_bind, Endpoint.isConnected_result sound.network]
    cases up : endpoint.live world with
    | true => exact .alreadyConnected set up
    | false =>
      have told := sound.tell [attemptLine role endpoint]
      have down : endpoint.live (world.tell [attemptLine role endpoint]) = false := by rw [Endpoint.live_tell, up]
      have spoken : ∀ entry ∈ [attemptLine role endpoint], entry.level = .debug := by simp [attemptLine]
      simp only [Bool.false_eq_true, if_false, say, Act.result_bind, Act.result_say]
      rw [← attemptLine]
      -- Down, so a handshake may still be under way; only when it is not something is opened.
      rcases Endpoint.establish_result told (fits.tell _) set down with
        ⟨connecting, result⟩ | ⟨settled, more, quiet, result⟩
      · rw [Endpoint.underWay_tell] at connecting
        rw [result]
        simp only [Act.result_bind, Endpoint.isConnected_result told.network, down]
        exact .underWay set up connecting
      · rw [Endpoint.underWay_tell] at settled
        have handover := Endpoint.reopen_handover (told.tell more) ((fits.tell _).tell more) set
        have debug : ∀ entry ∈ [attemptLine role endpoint] ++ more, entry.level = .debug := by
          intro entry member
          rcases List.mem_append.mp member with isFirst | isMore
          · exact spoken entry isFirst
          · exact (quiet entry isMore).1
        rw [World.tell_tell] at handover result
        rw [result]
        generalize reopened : endpoint.reopen.result _ = outcome at handover ⊢
        obtain ⟨⟨after, answer⟩, later⟩ := outcome
        have attempted : BroughtUp role endpoint world
            ((after, outcomeOf answer (after.live later)), later.tell (failureLines role answer)) :=
          .attempted set up settled debug reopened
        cases answer with
        | error failure => exact attempted
        | ok _ =>
          rw [failureLines, World.tell_nil] at attempted
          simp only [Act.result_bind, Endpoint.isConnected_result handover.sound.network]
          cases upNow : after.live later <;> rw [upNow] at attempted <;> exact attempted

theorem bringUp_handover {endpoint : Endpoint transport} {world : World} (sound : world.Sound)
    (fits : endpoint.Fits world) (role : Role) :
    Endpoint.Handover endpoint ((bringUp role endpoint).result world).1.1 world
      ((bringUp role endpoint).result world).2 := by
  have brought := bringUp_spec sound fits role
  generalize (bringUp role endpoint).result world = outcome at brought ⊢
  cases brought with
  | unconfigured unset => exact (Endpoint.Handover.refl sound endpoint).tell _
  | alreadyConnected set up => exact .refl sound endpoint
  | underWay set down connecting => exact (Endpoint.Handover.refl sound endpoint).tell _
  | @attempted set down settled told quiet after answer later reopened =>
    have handover := Endpoint.reopen_handover (sound.tell told) (fits.tell told) set
    rw [reopened] at handover
    exact handover.of_tell.tell _

theorem establishRole_result (role : Role) (connection : Connection) :
    (∃ (transport : Transport) (place : Place transport) (endpoint : Endpoint transport),
      connection = place.fill endpoint ∧ place.role? = some role ∧
      ∀ world, (connection.establishRole role).result world =
        ((place.fill ((bringUp role endpoint).result world).1.1, ((bringUp role endpoint).result world).1.2),
          ((bringUp role endpoint).result world).2)) ∨
    (connection.endpoint? role = none ∧
      ∀ world, (connection.establishRole role).result world = ((connection, .unsupported), world)) := by
  rcases connection.onRole_result role with ⟨transport, place, endpoint, filled, carries, _, result⟩ | ⟨none, result⟩
  · refine .inl ⟨transport, place, endpoint, filled, carries, fun world => ?_⟩
    rw [establishRole, Act.result_bind, result]
    rfl
  · refine .inr ⟨none, fun world => ?_⟩
    rw [establishRole, Act.result_bind, result]
    rfl

theorem establish_result (connection : Connection) (world : World) :
    connection.establish.result world =
      let first := (connection.establishRole .data).result world
      let second := (first.1.1.establishRole .command).result first.2
      ((second.1.1, ⟨first.1.2, second.1.2⟩), second.2) := rfl

theorem endpoint?_establishRole {role other : Role} (different : other ≠ role) (connection : Connection)
    (world : World) :
    ((connection.establishRole role).result world).1.1.endpoint? other = connection.endpoint? other := by
  rcases connection.establishRole_result role with ⟨transport, place, endpoint, rfl, carries, result⟩ | ⟨_, result⟩
  · rw [result]
    exact Place.endpoint?_fill_other carries different ..
  · rw [result]

namespace InOrder

variable {connection : Connection} {world : World}

theorem establishRole (order : connection.InOrder world) (role : Role) :
    ((connection.establishRole role).result world).1.1.InOrder ((connection.establishRole role).result world).2 :=
  order.onRole role (bringUp role) fun fits => bringUp_handover order.sound fits role

theorem establish (order : connection.InOrder world) :
    (connection.establish.result world).1.1.InOrder (connection.establish.result world).2 :=
  (order.establishRole .data).establishRole .command

end InOrder

def live (connection : Connection) (role : Role) (world : World) : Bool :=
  match connection.endpoint? role with
  | some ⟨_, endpoint⟩ => endpoint.live world
  | none => false

theorem live_of_endpoint? {connection : Connection} {role : Role} {endpoint : Endpoint transport}
    (found : connection.endpoint? role = some ⟨transport, endpoint⟩) (world : World) :
    connection.live role world = endpoint.live world := by
  rw [live, found]

theorem isConfigured_of_endpoint? {connection : Connection} {role : Role} {endpoint : Endpoint transport}
    (found : connection.endpoint? role = some ⟨transport, endpoint⟩) :
    connection.isConfigured role = endpoint.isConfigured := by
  rw [isConfigured, found]

theorem exists_of_live {connection : Connection} {role : Role} {world : World}
    (up : connection.live role world = true) :
    ∃ (transport : Transport) (endpoint : Endpoint transport) (handle : transport.Handle),
      connection.endpoint? role = some ⟨transport, endpoint⟩ ∧ endpoint.handle = some handle := by
  cases found : connection.endpoint? role with
  | none =>
    rw [live, found] at up
    cases up
  | some carrier =>
    obtain ⟨transport, endpoint⟩ := carrier
    rw [live_of_endpoint? found] at up
    obtain ⟨handle, held⟩ := Option.isSome_iff_exists.mp (Endpoint.hasHandle_of_live up)
    exact ⟨transport, endpoint, handle, rfl, held⟩

theorem mem_endpoints {connection : Connection} {role : Role} {found : Σ transport, Endpoint transport}
    (carries : connection.endpoint? role = some found) : found ∈ connection.endpoints := by
  cases connection <;> cases role <;> cases carries <;> simp [endpoints]

def lent? (connection : Connection) (role : Role) (world : World) : Option Channel :=
  match connection.endpoint? role with
  | some ⟨transport, endpoint⟩ =>
    if endpoint.live world then endpoint.handle.map (Channel.ofHandle transport) else none
  | none => none

theorem isConnected_result {world : World} (sound : world.network.Sound) (connection : Connection) (role : Role) :
    (connection.isConnected role).result world = (connection.live role world, world) := by
  unfold isConnected live
  cases connection.endpoint? role with
  | none => rfl
  | some found => exact Endpoint.isConnected_result sound found.2

theorem lend_result {world : World} (sound : world.network.Sound) {endpoint : Endpoint transport}
    (up : endpoint.live world = true) :
    endpoint.lend.result world = (endpoint.handle.map (Channel.ofHandle transport), world) := by
  cases held : endpoint.handle with
  | none => simp [Endpoint.live, held] at up
  | some handle =>
    have usable : transport.live handle world = true := by simpa [Endpoint.live, held] using up
    cases transport with
    | client =>
      simp only [Endpoint.lend, held, if_true, Act.result_bind, Transport.isUsable_result sound, usable]
      rfl
    | listener => simp [Endpoint.lend, held]
    | udp => simp [Endpoint.lend, held]
    | serial => simp [Endpoint.lend, held]

theorem channel?_result {world : World} (sound : world.network.Sound) (connection : Connection) (role : Role) :
    (connection.channel? role).result world = (connection.lent? role world, world) := by
  rw [channel?, Act.result_bind, isConnected_result sound]
  unfold live lent?
  cases connection.endpoint? role with
  | none => rfl
  | some found =>
    obtain ⟨transport, endpoint⟩ := found
    dsimp only
    by_cases up : endpoint.live world = true
    · simp [up, lend_result sound up]
    · simp [up]

theorem lent?_eq_some {connection : Connection} {role : Role} {world : World} {channel : Channel}
    (lent : connection.lent? role world = some channel) :
    ∃ transport endpoint handle, connection.endpoint? role = some ⟨transport, endpoint⟩ ∧
      endpoint.live world = true ∧ endpoint.handle = some handle ∧ channel = Channel.ofHandle transport handle := by
  unfold lent? at lent
  split at lent
  next transport endpoint found =>
    split at lent
    next up =>
      obtain ⟨handle, held, rfl⟩ := Option.map_eq_some_iff.mp lent
      exact ⟨transport, endpoint, handle, found, up, held, rfl⟩
    · cases lent
  · cases lent

theorem lent?_listener {connection : Connection} {world : World} {listener : Listener}
    (lent : (connection.lent? .data world).bind Channel.listener? = some listener) :
    ∃ target command, connection = rsn (Endpoint.ofListener target listener) command := by
  obtain ⟨channel, found, isListener⟩ := Option.bind_eq_some_iff.mp lent
  obtain ⟨transport, endpoint, handle, carries, _, held, rfl⟩ := lent?_eq_some found
  cases connection with
  | rsn data command =>
    cases carries
    cases isListener
    obtain ⟨target, _⟩ := data
    cases held
    exact ⟨target, command, rfl⟩
  | tcp data command =>
    cases carries
    cases isListener
  | udp data =>
    cases carries
    cases isListener
  | serial data =>
    cases carries
    cases isListener

namespace InOrder

variable {connection : Connection} {world : World}

theorem peer {target : HostPort} {before after : Listener} {command : Endpoint .listener} {later : World}
    (order : (rsn (.ofListener target before) command).InOrder world)
    (handover : Listener.PeerHandover before after world later) :
    (rsn (.ofListener target after) command).InOrder later := by
  have placed : ((Place.rsnData command).fill (.ofListener target before)).InOrder world := order
  exact placed.swap (Endpoint.swap_of_peerHandover handover placed.fits_fill) fun unused => by cases unused

theorem listener_fits {target : HostPort} {listener : Listener} {command : Endpoint .listener}
    (order : (rsn (.ofListener target listener) command).InOrder world) :
    (Endpoint.ofListener target listener).Fits world :=
  order.fits (List.mem_cons_self ..)

end InOrder

inductive TookPeer (connection : Connection) (world : World) : Connection × World → Prop
  /-- There is no listener that is up. -/
  | deaf : TookPeer connection world (connection, world)
  /-- The listener has given up a peer that has hung up, and has taken one that has waited. -/
  | listening {target : HostPort} {command : Endpoint .listener} {before middle after : Listener}
      {between later : World} (is : connection = rsn (.ofListener target before) command)
      (released : Listener.PeerHandover before middle world between)
      (taken : Listener.PeerHandover middle after between later) :
    TookPeer connection world (rsn (.ofListener target after) command, later)

theorem takePeer_spec {connection : Connection} {world : World} (order : connection.InOrder world) :
    TookPeer connection world ((Agent.takePeer connection).result world) := by
  rw [Agent.takePeer, Act.result_bind, channel?_result order.sound.network]
  cases lent : (connection.lent? .data world).bind Channel.listener? with
  | none => exact .deaf
  | some listener =>
    obtain ⟨target, command, rfl⟩ := lent?_listener lent
    simp only [Act.result_bind]
    have released := Listener.releaseClosedPeer_handover order.sound (Endpoint.holds_of_fits order.listener_fits)
    generalize listener.releaseClosedPeer.result world = first at released ⊢
    obtain ⟨⟨middle, _⟩, between⟩ := first
    have orderReleased := order.peer released
    have taken := Listener.acceptPeer_handover orderReleased.sound
      (Endpoint.holds_of_fits orderReleased.listener_fits)
    generalize middle.acceptPeer.result between = second at taken ⊢
    obtain ⟨⟨after, result⟩, later⟩ := second
    cases result with
    | ok _ => exact .listening rfl released taken
    | error error => exact .listening rfl released (taken.tell _)

namespace InOrder

variable {connection : Connection} {world : World}

theorem takePeer (order : connection.InOrder world) :
    ((Agent.takePeer connection).result world).1.InOrder ((Agent.takePeer connection).result world).2 := by
  have took := takePeer_spec order
  generalize (Agent.takePeer connection).result world = outcome at took ⊢
  cases took with
  | deaf => exact order
  | listening is released taken =>
    subst is
    exact (order.peer released).peer taken

theorem peerAttached_kept (order : connection.InOrder world) :
    world.Kept (connection.peerAttached.result world).2 := by
  unfold peerAttached
  split
  · exact Listener.hasLivePeer_kept order.sound _
  · exact .refl order.sound
  · exact .refl order.sound

theorem world_status (order : connection.InOrder world) :
    (connection.status.result world).2 = (connection.peerAttached.result world).2 := by
  have kept := order.peerAttached_kept
  rw [Connection.status, Act.result_bind, Act.result_bind, isConnected_result kept.sound.network, Act.result_bind,
    isConnected_result kept.sound.network]
  rfl

theorem status_kept (order : connection.InOrder world) : world.Kept (connection.status.result world).2 := by
  rw [order.world_status]
  exact order.peerAttached_kept

end InOrder
end Connection

namespace Agent

open Connection

def pendingLines (report : Report) : List LogEntry :=
  (Role.all.filter fun role => report.outcome role = .pending).map fun role =>
    ⟨.debug, .agent, role.name ++ " channel handshake in progress"⟩

theorem pendingLines_debug (report : Report) : ∀ entry ∈ pendingLines report, entry.level = .debug := by
  intro entry member
  obtain ⟨role, _, rfl⟩ := List.mem_map.mp member
  rfl

theorem tellPending_result (report : Report) (world : World) :
    (tellPending report).result world = ((), world.tell (pendingLines report)) := by
  have spoken : ∀ (role : Role) (world : World), ((if report.outcome role = .pending then
      say .debug (role.name ++ " channel handshake in progress") else return : Act Unit)).result world =
        ((), world.tell (if report.outcome role = .pending then
          [⟨.debug, .agent, role.name ++ " channel handshake in progress"⟩] else [])) := by
    intro role world
    split
    · rfl
    · rw [World.tell_nil]
      rfl
  have unrolled : (tellPending report).result world = ((if report.outcome .command = .pending then
      say .debug (Role.command.name ++ " channel handshake in progress") else return : Act Unit)).result
        ((if report.outcome .data = .pending then
          say .debug (Role.data.name ++ " channel handshake in progress") else return : Act Unit).result world).2 := rfl
  have lines : pendingLines report =
      (if report.outcome .data = .pending then
        [⟨.debug, .agent, Role.data.name ++ " channel handshake in progress"⟩] else []) ++
      (if report.outcome .command = .pending then
        [⟨.debug, .agent, Role.command.name ++ " channel handshake in progress"⟩] else []) := by
    rw [pendingLines, Role.all]
    by_cases data : report.outcome .data = .pending <;>
      by_cases command : report.outcome .command = .pending <;> simp [data, command]
  rw [unrolled, spoken, spoken, World.tell_tell, lines]

/-- A poll is an attempt to bring the connection up, a look for a peer and a look at the status. It speaks of handshakes
under way, and ends with the status, if that is another than after the poll before. -/
theorem poll_eq (agent : Agent) (world : World) :
    let established := agent.connection.establish.result world
    let taken := (takePeer established.1.1).result (established.2.tell (pendingLines established.1.2))
    let asked := taken.1.status.result taken.2
    agent.poll.result world = ((⟨taken.1, some asked.1⟩, asked.1),
      asked.2.tell (if agent.lastStatus = some asked.1 then [] else [transition taken.1.kind asked.1])) := by
  rw [poll, Act.result_bind]
  generalize agent.connection.establish.result world = first
  obtain ⟨⟨connection, report⟩, world⟩ := first
  simp only [Act.result_bind, tellPending_result]
  generalize (takePeer connection).result (world.tell (pendingLines report)) = second
  obtain ⟨connection, world⟩ := second
  generalize connection.status.result world = third
  obtain ⟨status, world⟩ := third
  dsimp only
  split
  · rw [World.tell_nil]
    rfl
  · rfl

theorem poll_result (agent : Agent) (world : World) : ∃ told more,
    let established := agent.connection.establish.result world
    let taken := (takePeer established.1.1).result (established.2.tell told)
    let asked := taken.1.status.result taken.2
    agent.poll.result world = ((⟨taken.1, some asked.1⟩, asked.1), asked.2.tell more) := by
  exact ⟨_, _, agent.poll_eq world⟩

theorem poll_inOrder {agent : Agent} {world : World} (order : agent.connection.InOrder world) :
    (agent.poll.result world).1.1.connection.InOrder (agent.poll.result world).2 := by
  obtain ⟨told, more, result⟩ := agent.poll_result world
  have spoken := order.establish.of_kept (.tell order.establish.sound told)
  have asked := spoken.takePeer.status_kept
  rw [result]
  exact spoken.takePeer.of_kept (asked.trans (.tell asked.sound more))

end Agent
end InstrumentLink
