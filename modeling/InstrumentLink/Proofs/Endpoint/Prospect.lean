import InstrumentLink.Proofs.Connection.Ready

/-!
What an attempt to bring a client up will come to can be told beforehand, from its address, from what it holds and from
what the machine reaches: its prospect. Only whether there is room where it dials is up to others. The outcome, what the
client holds then and what is noted of the attempt all follow from that.
-/

namespace InstrumentLink

/-- All of a stream but its own address and who is at the other end. -/
structure Face where
  there : SocketAddress
  phase : Phase
  inbox : List UInt8
  ended : Bool
  error : Option IoError
  shut : Bool
  shares : Bool
  deriving DecidableEq, Repr

def Stream.face (stream : Stream) : Face :=
  ⟨stream.there, stream.phase, stream.inbox, stream.ended, stream.error, stream.shut, stream.shares⟩

theorem Stream.isLive_of_face {stream other : Stream} (same : stream.face = other.face) : stream.isLive = other.isLive := by
  obtain ⟨here, there, mate, phase, inbox, ended, error, shut, shares⟩ := stream
  obtain ⟨otherHere, _, otherMate, _, _, _, _, _, _⟩ := other
  cases same
  rfl

theorem Stream.phase_of_face {stream other : Stream} (same : stream.face = other.face) : stream.phase = other.phase :=
  congrArg Face.phase same

/-- What an attempt to bring a client up will come to. -/
inductive Prospect where
  /-- A field is missing. -/
  | unset
  | up
  /-- A handshake of its own is under way. -/
  | underWay
  /-- The host stands for no address. -/
  | unresolved
  /-- The machine does not reach the address. -/
  | refused (remote : SocketAddress)
  | dial (remote : SocketAddress)
  deriving DecidableEq, Repr

namespace Prospect

def outcome (room : SocketAddress → Bool) : Prospect → Outcome
  | unset => .unconfigured
  | up => .alreadyConnected
  | underWay => .pending
  | unresolved | refused _ => .failed
  | dial remote => if room remote then .connected else .pending

def held (room : SocketAddress → Bool) (before : Option (Option Face)) : Prospect → Option (Option Face)
  | unset | up | underWay => before
  | unresolved | refused _ => none
  | dial remote => some (some ⟨remote, if room remote then .established else .connecting, [], false, none, false, false⟩)

/-- What is noted of the attempt, by what it takes to give up what was held before and the number of what is new. -/
def deeds (before : List Deed) (made : Option SocketId) : Prospect → List Deed
  | unset | up | underWay => []
  | unresolved => before
  | refused remote => before ++ [.connect remote none]
  | dial remote => before ++ [.connect remote made]

end Prospect

namespace Network

def roomAt (network : Network) (remote : SocketAddress) : Bool :=
  (network.listenerAt? remote).any fun (_, listening) => hasRoom listening

theorem roomAt_of_listening? {network later : Network} (same : ∀ id, later.listening? id = network.listening? id) :
    later.roomAt = network.roomAt := by
  funext remote
  rw [roomAt, roomAt, listenerAt?_of_listening? same]

theorem roomAt_of_listenerAt? {network : Network} {remote : SocketAddress} {server : SocketId} {listening : Listening}
    (reached : network.listenerAt? remote = some (server, listening)) : network.roomAt remote = hasRoom listening := by
  rw [roomAt, reached]
  rfl

inductive Opened (network : Network) (remote : SocketAddress) : Except IoError SocketId × Network → Prop
  | refused {error : IoError} (fault : network.routes.connectFault remote = some error) :
    Opened network remote (.error error, network.skip)
  | waits {later : Network} (up : network.routes.connectFault remote = none) (full : network.roomAt remote = false)
      (heard : ∀ id, later.listening? id = network.listening? id)
      (found : later.stream? network.sockets.next = some (network.nearEnd remote)) :
    Opened network remote (.ok network.sockets.next, later)
  | answered {server : SocketId} {listening : Listening} {later : Network}
      (up : network.routes.connectFault remote = none) (reached : network.listenerAt? remote = some (server, listening))
      (room : hasRoom listening = true)
      (joined : ∀ id, later.listening? id = if server = id then
        (network.listening? id).map fun listening =>
          { listening with queue := listening.queue ++ [network.sockets.next + 1] }
        else network.listening? id)
      (found : later.stream? network.sockets.next =
        some { network.nearEnd remote with phase := .established, mate := some (network.sockets.next + 1) }) :
    Opened network remote (.ok network.sockets.next, later)

theorem connect_opened (network : Network) (remote : SocketAddress) :
    network.Opened remote (network.connect .agent remote) := by
  have added := network.listening?_addStream .agent (network.nearEnd remote)
  have near : (network.add ⟨.agent, .stream (network.nearEnd remote)⟩).stream? network.sockets.next =
      some (network.nearEnd remote) := by
    rw [stream?_add, if_pos rfl]
    rfl
  cases fault : network.routes.connectFault remote with
  | some error =>
    have refused : network.connect .agent remote = (.error error, network.skip) := by rw [connect_eq, fault]
    rw [refused]
    exact .refused fault
  | none =>
    have started : network.connect .agent remote = (.ok network.sockets.next,
        (network.add ⟨.agent, .stream (network.nearEnd remote)⟩).answer network.sockets.next) := by
      rw [connect_eq, fault]
    cases room : network.roomAt remote with
    | true =>
      obtain ⟨⟨server, listening⟩, reached, free⟩ := (Option.any_eq_true _ _).mp room
      rw [connect_answered fault reached free]
      refine .answered fault reached free (fun id => ?_) ?_
      · rw [listening?_answered, added, next_add]
      · rw [stream?_answered near, next_add, if_neg (Nat.ne_of_lt (Nat.lt_succ_self _)), if_pos rfl]
    | false =>
      have unanswered : (network.add ⟨.agent, .stream (network.nearEnd remote)⟩).answer network.sockets.next =
          network.add ⟨.agent, .stream (network.nearEnd remote)⟩ := by
        rcases answer_cases network.sockets.next (network.add ⟨.agent, .stream (network.nearEnd remote)⟩) with
          same | ⟨stream, server, listening, there, _, reached, free, _⟩
        · exact same
        · rw [near] at there
          cases there
          rw [listenerAt?_of_listening? added, show (network.nearEnd remote).there = remote from rfl] at reached
          rw [roomAt_of_listenerAt? reached, free] at room
          cases room
      rw [started, unanswered]
      exact .waits fault room added near

end Network

namespace Endpoint

variable {endpoint : Endpoint .client} {world : World}

def held (endpoint : Endpoint .client) (world : World) : Option (Option Face) :=
  endpoint.handle.map fun id => (world.network.stream? id).map Stream.face

def prospect (endpoint : Endpoint .client) (world : World) : Prospect :=
  if !endpoint.isConfigured then .unset
  else if endpoint.live world then .up
  else if endpoint.underWay world then .underWay
  else
    match resolve world.network.routes.names (HostPort.host endpoint.target) (HostPort.port endpoint.target) with
    | .error _ => .unresolved
    | .ok remote => if (world.network.routes.connectFault remote).isSome then .refused remote else .dial remote

theorem live_of_handle {id : SocketId} {stream : Stream} (holds : endpoint.handle = some id)
    (found : world.network.stream? id = some stream) :
    endpoint.live world = stream.isLive ∧ endpoint.underWay world = decide (stream.phase = .connecting) := by
  rw [live, underWay, holds]
  exact ⟨Network.isLive_stream found, Network.isConnecting_stream found⟩

theorem held_cases {other : Endpoint .client} {otherWorld : World} (fits : endpoint.Fits world) (sound : world.Sound)
    (alike : other.held otherWorld = endpoint.held world) : endpoint.handle = none ∧ other.handle = none ∨
      ∃ (id otherId : SocketId) (stream otherStream : Stream), endpoint.handle = some id ∧ other.handle = some otherId ∧
        world.network.stream? id = some stream ∧ otherWorld.network.stream? otherId = some otherStream ∧
        otherStream.face = stream.face := by
  obtain ⟨target, handle⟩ := endpoint
  obtain ⟨otherTarget, otherHandle⟩ := other
  cases handle with
  | none =>
    cases otherHandle with
    | none => exact .inl ⟨rfl, rfl⟩
    | some otherId => cases alike
  | some id =>
    obtain ⟨stream, found⟩ := fits.stream sound rfl
    cases otherHandle with
    | none => cases alike
    | some otherId =>
      have shown : (otherWorld.network.stream? otherId).map Stream.face = (world.network.stream? id).map Stream.face :=
        Option.some.inj alike
      rw [found, Option.map_some] at shown
      obtain ⟨otherStream, otherFound, face⟩ := Option.map_eq_some_iff.mp shown
      exact .inr ⟨id, otherId, stream, otherStream, rfl, rfl, found, otherFound, face⟩

/-- The prospect of a client is a matter of its address, of what it holds and of what the machine reaches. -/
theorem prospect_congr {other : Endpoint .client} {otherWorld : World} (fits : endpoint.Fits world)
    (sound : world.Sound) (target : other.target = endpoint.target) (alike : other.held otherWorld = endpoint.held world)
    (routes : otherWorld.network.routes = world.network.routes) :
    other.prospect otherWorld = endpoint.prospect world := by
  have shown : other.live otherWorld = endpoint.live world ∧ other.underWay otherWorld = endpoint.underWay world := by
    rcases held_cases fits sound alike with
      ⟨empty, otherEmpty⟩ | ⟨id, otherId, stream, otherStream, holds, otherHolds, found, otherFound, face⟩
    · simp [live, underWay, empty, otherEmpty]
    · rw [(live_of_handle holds found).1, (live_of_handle holds found).2, (live_of_handle otherHolds otherFound).1,
        (live_of_handle otherHolds otherFound).2, Stream.isLive_of_face face, Stream.phase_of_face face]
      exact ⟨rfl, rfl⟩
  rw [prospect, prospect, isConfigured, isConfigured, target, shown.1, shown.2, routes]

inductive Tried (endpoint : Endpoint .client) (world : World) : Prospect → (Endpoint .client × Outcome) × World → Prop
  /-- Nothing is tried. -/
  | left {prospect : Prospect} (still : prospect = .unset ∨ prospect = .up ∨ prospect = .underWay)
      (told : List LogEntry) :
    Tried endpoint world prospect ((endpoint, prospect.outcome world.network.roomAt), world.tell told)
  /-- What was held is gone, and nothing could be opened. -/
  | failed {prospect : Prospect} {later : World} (lost : prospect = .unresolved ∨ ∃ remote, prospect = .refused remote)
      (heard : ∀ id, later.network.listening? id = world.network.listening? id)
      (journal : later.journal = world.journal ++ prospect.deeds endpoint.closings none) :
    Tried endpoint world prospect ((endpoint.released, .failed), later)
  | waits {remote : SocketAddress} {id : SocketId} {stream : Stream} {later : World}
      (full : world.network.roomAt remote = false)
      (heard : ∀ id, later.network.listening? id = world.network.listening? id)
      (found : later.network.stream? id = some stream)
      (face : stream.face = ⟨remote, .connecting, [], false, none, false, false⟩)
      (journal : later.journal = world.journal ++ (Prospect.dial remote).deeds endpoint.closings (some id)) :
    Tried endpoint world (.dial remote) ((⟨endpoint.target, some id⟩, .pending), later)
  | answered {remote : SocketAddress} {server id far : SocketId} {listening : Listening} {stream : Stream} {later : World}
      (reached : world.network.listenerAt? remote = some (server, listening)) (room : Network.hasRoom listening = true)
      (joined : ∀ id, later.network.listening? id = if server = id then
        (world.network.listening? id).map fun listening => { listening with queue := listening.queue ++ [far] }
        else world.network.listening? id)
      (found : later.network.stream? id = some stream)
      (face : stream.face = ⟨remote, .established, [], false, none, false, false⟩)
      (mate : stream.mate = some far)
      (journal : later.journal = world.journal ++ (Prospect.dial remote).deeds endpoint.closings (some id)) :
    Tried endpoint world (.dial remote) ((⟨endpoint.target, some id⟩, .connected), later)

theorem Tried.tell {prospect : Prospect} {result : Endpoint .client × Outcome} {later : World}
    (tried : Tried endpoint world prospect (result, later)) (entries : List LogEntry) :
    Tried endpoint world prospect (result, later.tell entries) := by
  cases tried with
  | left still told =>
    rw [World.tell_tell]
    exact .left still _
  | failed lost heard journal => exact .failed lost heard journal
  | waits full heard found face journal => exact .waits full heard found face journal
  | answered reached room joined found face mate journal => exact .answered reached room joined found face mate journal

theorem prospect_of_down (set : endpoint.isConfigured = true) (down : endpoint.live world = false)
    (settled : endpoint.underWay world = false) :
    endpoint.prospect world =
      match resolve world.network.routes.names (HostPort.host endpoint.target) (HostPort.port endpoint.target) with
      | .error _ => .unresolved
      | .ok remote => if (world.network.routes.connectFault remote).isSome then .refused remote else .dial remote := by
  rw [prospect, set, down, settled]
  rfl

theorem raise_tried {closed later : World} {after : Endpoint .client} {answer : Except Failure Unit}
    (set : endpoint.isConfigured = true) (down : endpoint.live world = false) (settled : endpoint.underWay world = false)
    (heard : ∀ id, closed.network.listening? id = world.network.listening? id)
    (routes : closed.network.routes = world.network.routes)
    (journal : closed.journal = world.journal ++ endpoint.closings)
    (raised : endpoint.released.raise.result closed = ((after, answer), later)) {outcome : Outcome}
    (reported : Connection.outcomeOf answer (after.live later) = outcome) :
    Tried endpoint world (endpoint.prospect world) ((after, outcome), later) := by
  have room : closed.network.roomAt = world.network.roomAt := Network.roomAt_of_listening? heard
  have asks : Transport.client.request? closed.network.routes.names endpoint.released.target =
      (resolve world.network.routes.names (HostPort.host endpoint.target) (HostPort.port endpoint.target)).map
        .connect := by
    rw [routes]
    rfl
  rw [raise_result, asks] at raised
  rw [prospect_of_down set down settled]
  cases asked : resolve world.network.routes.names (HostPort.host endpoint.target) (HostPort.port endpoint.target) with
  | error failure =>
    rw [asked] at raised
    cases raised
    cases reported
    exact .failed (.inl rfl) heard journal
  | ok remote =>
    -- `closed` hears and reaches what `world` does, so the outcome is the one in prospect.
    have opened := closed.network.connect_opened remote
    have noted : ∀ made, closed.journal ++ [.connect remote made] =
        world.journal ++ (endpoint.closings ++ [.connect remote made]) := by
      intro made
      rw [journal, List.append_assoc]
    rw [asked, Except.map] at raised
    dsimp only at raised
    rw [Request.act, Act.result_connect] at raised
    generalize closed.network.connect .agent remote = outcome at opened raised
    cases opened with
    | refused fault =>
      cases raised
      cases reported
      rw [routes] at fault
      dsimp only
      rw [fault]
      exact .failed (.inr ⟨remote, rfl⟩) (fun id => (Network.listening?_skip _ id).trans (heard id)) (noted none)
    | waits up full heardToo found =>
      cases raised
      rw [routes] at up
      rw [room] at full
      have pending : Outcome.pending = outcome :=
        (congrArg (Connection.outcomeOf (.ok ())) (Network.isLive_stream found)).symm.trans reported
      subst pending
      dsimp only
      rw [up]
      exact .waits full (fun id => (heardToo id).trans (heard id)) found rfl (noted _)
    | answered up there free joined found =>
      cases raised
      rw [routes] at up
      rw [Network.listenerAt?_of_listening? heard] at there
      have connected : Outcome.connected = outcome :=
        (congrArg (Connection.outcomeOf (.ok ())) (Network.isLive_stream found)).symm.trans reported
      subst connected
      dsimp only
      rw [up]
      refine .answered there free (fun id => ?_) found rfl rfl (noted _)
      exact (joined id).trans (by rw [heard])

theorem bringUp_tried (sound : world.Sound) (fits : endpoint.Fits world) (role : Role) :
    Tried endpoint world (endpoint.prospect world) ((Connection.bringUp role endpoint).result world) := by
  have brought := Connection.bringUp_spec sound fits role
  generalize (Connection.bringUp role endpoint).result world = outcome at brought ⊢
  cases brought with
  | unconfigured unset =>
    have foreseen : endpoint.prospect world = .unset := by rw [prospect, unset]; rfl
    rw [foreseen]
    exact .left (.inl rfl) _
  | alreadyConnected set up =>
    have foreseen : endpoint.prospect world = .up := by rw [prospect, set, up]; rfl
    have left : Tried endpoint world .up ((endpoint, .alreadyConnected), world.tell []) := .left (.inr (.inl rfl)) _
    rw [World.tell_nil] at left
    rwa [foreseen]
  | underWay set down connecting =>
    have foreseen : endpoint.prospect world = .underWay := by rw [prospect, set, down, connecting]; rfl
    rw [foreseen]
    exact .left (.inr (.inr rfl)) _
  | @attempted set down settled told quiet after answer later reopened =>
    rw [reopen_result] at reopened
    refine Tried.tell (raise_tried set down settled ?_ ?_ ?_ reopened rfl) _
    · exact listening?_afterRelease (fits.tell told) (sound.tell told)
    · exact routes_afterRelease endpoint _
    · exact journal_afterRelease endpoint _

section Tried

variable {prospect : Prospect} {after : Endpoint .client} {outcome : Outcome} {later : World}

theorem Tried.target_eq (tried : Tried endpoint world prospect ((after, outcome), later)) :
    after.target = endpoint.target := by
  cases tried <;> rfl

theorem Tried.outcome_eq (tried : Tried endpoint world prospect ((after, outcome), later)) :
    outcome = prospect.outcome world.network.roomAt := by
  cases tried with
  | left still told => rfl
  | failed lost heard journal => rcases lost with rfl | ⟨remote, rfl⟩ <;> rfl
  | waits full heard found face journal => rw [Prospect.outcome, full]; rfl
  | answered reached room joined found face mate journal =>
    rw [Prospect.outcome, Network.roomAt_of_listenerAt? reached, room]
    rfl

theorem Tried.held_eq (tried : Tried endpoint world prospect ((after, outcome), later)) :
    after.held later = prospect.held world.network.roomAt (endpoint.held world) := by
  cases tried with
  | left still told => rcases still with rfl | rfl | rfl <;> rfl
  | failed lost heard journal => rcases lost with rfl | ⟨remote, rfl⟩ <;> rfl
  | waits full heard found face journal =>
    rw [Prospect.held, full]
    exact congrArg some ((congrArg (Option.map Stream.face) found).trans (congrArg some face))
  | answered reached room joined found face mate journal =>
    rw [Prospect.held, Network.roomAt_of_listenerAt? reached, room]
    exact congrArg some ((congrArg (Option.map Stream.face) found).trans (congrArg some face))

theorem Tried.journal_eq (tried : Tried endpoint world prospect ((after, outcome), later)) :
    later.journal = world.journal ++ prospect.deeds endpoint.closings after.handle := by
  cases tried with
  | left still told => rcases still with rfl | rfl | rfl <;> exact (List.append_nil _).symm
  | failed lost heard journal => exact journal
  | waits full heard found face journal => exact journal
  | answered reached room joined found face mate journal => exact journal

theorem Tried.roomAt_eq (tried : Tried endpoint world prospect ((after, outcome), later)) {remote : SocketAddress}
    (spare : ∀ other server listening, prospect = .dial other →
      world.network.listenerAt? other = some (server, listening) →
        world.network.listenerAt? remote = some (server, listening) → listening.queue.length ≠ listening.backlog) :
    later.network.roomAt remote = world.network.roomAt remote := by
  cases tried with
  | left still told => rfl
  | failed lost heard journal => rw [Network.roomAt_of_listening? heard]
  | waits full heard found face journal => rw [Network.roomAt_of_listening? heard]
  | @answered other server id far listening stream _ reached room joined found face mate journal =>
    have crowded : world.network.Joined later.network fun id => if server = id then 1 else 0 := by
      intro id
      rw [joined]
      split
      next same => exact ⟨[far], by simp [same], rfl⟩
      next different => exact ⟨[], by simp, by cases world.network.listening? id <;> simp⟩
    cases there : world.network.listenerAt? remote with
    | none =>
      have heard := crowded.heard remote
      rw [there] at heard
      rw [Network.roomAt, Network.roomAt, there, Option.map_eq_none_iff.mp heard]
    | some found =>
      obtain ⟨shared, waiting⟩ := found
      obtain ⟨newcomers, few, thereNow⟩ := crowded.listenerAt? there
      rw [Network.roomAt_of_listenerAt? there, Network.roomAt_of_listenerAt? thereNow]
      unfold Network.hasRoom at room ⊢
      dsimp only at few ⊢
      rw [List.length_append, decide_eq_decide]
      split at few
      next same =>
        subst same
        have listens := (Network.listenerAt?_eq_some reached).1
        rw [(Network.listenerAt?_eq_some there).1] at listens
        cases listens
        have notLast := spare other _ _ rfl reached there
        have free := of_decide_eq_true room
        omega
      next => omega

theorem Tried.of_connected (tried : Tried endpoint world prospect ((after, .connected), later)) :
    ∃ (remote : SocketAddress) (server id far : SocketId) (listening : Listening) (stream : Stream),
      prospect = .dial remote ∧ world.network.listenerAt? remote = some (server, listening) ∧
      after.handle = some id ∧ later.network.stream? id = some stream ∧ stream.mate = some far ∧
      ∀ id, later.network.listening? id = if server = id then
        (world.network.listening? id).map fun listening => { listening with queue := listening.queue ++ [far] }
        else world.network.listening? id := by
  generalize same : Outcome.connected = outcome at tried
  cases tried with
  | left still told => rcases still with rfl | rfl | rfl <;> cases same
  | failed lost heard journal => cases same
  | waits full heard found face journal => cases same
  | answered reached room joined found face mate journal =>
    exact ⟨_, _, _, _, _, _, rfl, reached, rfl, found, mate, joined⟩

end Tried

end Endpoint
end InstrumentLink
