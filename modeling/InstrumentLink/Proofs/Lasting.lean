import InstrumentLink.Proofs.History
import InstrumentLink.Proofs.Talk

/-!
What lasts through everything. A property that each single act of the agent, and each event around it, leaves true is
true of every world that an agent can come to. `World.Lasting` names the single acts; every other act is made of them,
and is followed here from its parts alone. What a poll says of a transition is apart, as only polls say it, and so is what an
agent says when it ends.
-/

namespace InstrumentLink

/-- A property of worlds that no single thing takes away that the agent does or that happens around it. -/
structure World.Lasting (P : World → Prop) : Prop where
  tell : ∀ {world : World} {entries : List LogEntry}, (∀ entry ∈ entries, entry.isTalk = true) → P world →
    P (world.tell entries)
  request : ∀ {world : World} (request : Request), P world → P (request.act.result world).2
  shut : ∀ {world : World} (gone : Parting), P world → P ((Act.shut gone).result world).2
  accept : ∀ {world : World} (listener : SocketId), P world → P ((Act.accept listener).result world).2
  takeError : ∀ {world : World} (id : SocketId), P world → P ((Act.takeError id).result world).2
  isOver : ∀ {world : World} (id : SocketId), P world → P ((Act.isOver id).result world).2
  receive : ∀ {world : World} (id : SocketId) (count : Nat), P world → P ((Act.receive id count).result world).2
  send : ∀ {world : World} (id : SocketId) (bytes : List UInt8), P world → P ((Act.send id bytes).result world).2
  lineReceive : ∀ {world : World} (id count : Nat), P world → P ((Act.lineReceive id count).result world).2
  lineSend : ∀ {world : World} (id : Nat) (bytes : List UInt8), P world → P ((Act.lineSend id bytes).result world).2
  event : ∀ {world : World} (event : Event), P world → P (world.after event)

theorem World.Lasting.of_log {P : List LogEntry → Prop}
    (talk : ∀ {log entries : List LogEntry}, (∀ entry ∈ entries, entry.isTalk = true) → P log → P (log ++ entries)) :
    World.Lasting fun world => P world.log where
  tell quiet holds := talk quiet holds
  request {world} request holds := by rwa [World.log_request]
  shut gone holds := by rwa [World.log_shut]
  accept listener holds := by rwa [Act.result_accept]
  takeError _ holds := holds
  isOver _ holds := holds
  receive _ _ holds := holds
  send _ _ holds := holds
  lineReceive _ _ holds := holds
  lineSend _ _ holds := holds
  event _ holds := holds

def Act.Keeps {α : Type} (P : World → Prop) (act : Act α) : Prop := ∀ world, P world → P (act.result world).2

namespace Act.Keeps

variable {α β : Type} {P : World → Prop}

theorem pure (a : α) : Keeps P (Pure.pure a : Act α) := fun _ holds => holds

theorem bind {act : Act α} {next : α → Act β} (first : act.Keeps P) (second : ∀ a, (next a).Keeps P) :
    (act >>= next).Keeps P := by
  intro world holds
  rw [result_bind]
  exact second _ _ (first world holds)

theorem of_same {act : Act α} (same : ∀ world, (act.result world).2 = world) : act.Keeps P := by
  intro world holds
  rw [same]
  exact holds

theorem onRole {act : {transport : Transport} → Endpoint transport → Act (Endpoint transport × α)}
    (keeps : ∀ {transport : Transport} (endpoint : Endpoint transport), (act endpoint).Keeps P)
    (role : Role) (connection : Connection) : (connection.onRole role act).Keeps P := by
  intro world holds
  rcases connection.onRole_result role with ⟨transport, place, endpoint, _, _, _, result⟩ | ⟨_, result⟩
  · rw [result]
    exact keeps endpoint world holds
  · rw [result]
    exact holds

theorem onListener {act : Listener → Act Listener} (keeps : ∀ listener, (act listener).Keeps P) (agent : Agent) :
    (agent.onListener act).Keeps P := by
  unfold Agent.onListener
  split
  · exact .pure _
  next listener _ => exact .bind (keeps listener) fun _ => .pure _

end Act.Keeps

namespace World.Lasting

open Act (Keeps)

variable {P : World → Prop} (lasting : World.Lasting P)

include lasting

theorem tell_debug {world : World} {entries : List LogEntry} (quiet : ∀ entry ∈ entries, entry.level = .debug)
    (holds : P world) : P (world.tell entries) :=
  lasting.tell (fun entry member => LogEntry.isTalk_of_debug (quiet entry member)) holds

theorem say {level : Level} {origin : Origin} {text : String} (talk : LogEntry.isTalk ⟨level, origin, text⟩ = true) :
    (Act.say level origin text).Keeps P :=
  fun _ => lasting.tell (by simpa using talk)

theorem discard {transport : Transport} (handle : transport.Handle) : (transport.discard handle).Keeps P := by
  intro world holds
  rw [Transport.discard_result]
  generalize transport.partings handle = partings
  induction partings generalizing world with
  | nil => exact holds
  | cons first rest ih => exact ih _ (lasting.shut first holds)

theorem openHandle (transport : Transport) (target : transport.Target) : (transport.openHandle target).Keeps P := by
  intro world holds
  rw [Transport.openHandle_result]
  split
  · exact holds
  next request _ =>
    have asked := lasting.request request holds
    split
    · exact asked
    · exact lasting.tell_debug (by simp) asked

theorem isUsable {transport : Transport} (handle : transport.Handle) : (transport.isUsable handle).Keeps P := by
  cases transport with
  | client =>
    refine .bind (.of_same fun _ => rfl) fun known => ?_
    split
    · exact .bind (fun _ => lasting.isOver handle) fun ended => .pure _
    · exact .pure _
  | listener => exact .of_same fun _ => rfl
  | udp => exact .of_same fun _ => rfl
  | serial => exact .of_same fun _ => rfl

theorem isUnderWay {transport : Transport} (target : transport.Target) (handle : transport.Handle) :
    (transport.isUnderWay target handle).Keeps P := by
  cases transport with
  | client =>
    refine .bind (.of_same fun _ => rfl) fun known => ?_
    split
    · exact .pure _
    · refine .bind (fun _ => lasting.takeError handle) fun told => ?_
      split
      · exact .bind (lasting.say rfl) fun _ => .pure _
      · exact .bind (fun _ => lasting.isOver handle) fun ended => .pure _
  | listener => exact .pure _
  | udp => exact .pure _
  | serial => exact .pure _

section Endpoint

variable {transport : Transport} (endpoint : Endpoint transport)

theorem endpoint_isConnected : endpoint.isConnected.Keeps P := by
  unfold Endpoint.isConnected
  split
  · exact .pure _
  next handle _ => exact lasting.isUsable handle

theorem endpoint_isUnderWay : endpoint.isUnderWay.Keeps P := by
  unfold Endpoint.isUnderWay
  split
  · exact .pure _
  next handle _ => exact lasting.isUnderWay endpoint.target handle

theorem endpoint_disconnect : endpoint.disconnect.Keeps P := by
  unfold Endpoint.disconnect
  split
  · exact .pure _
  next handle _ => exact .bind (lasting.say rfl) fun _ => .bind (lasting.discard handle) fun _ => .pure _

theorem dropFaulty : endpoint.dropFaulty.Keeps P := by
  unfold Endpoint.dropFaulty
  split
  next target listener =>
    refine .bind (fun _ => lasting.takeError _) fun told => ?_
    split
    · exact .pure _
    · exact .bind (lasting.say rfl) fun _ => lasting.endpoint_disconnect _
  · exact .pure _

theorem raise : endpoint.raise.Keeps P := by
  refine .bind (lasting.openHandle transport endpoint.target) fun answer => ?_
  cases answer <;> exact .pure _

theorem reopen : endpoint.reopen.Keeps P :=
  .bind (lasting.endpoint_disconnect endpoint) fun empty => lasting.raise empty

theorem endpoint_establish : endpoint.establish.Keeps P := by
  have rest : ∀ (kept : Endpoint transport) (settled : Bool), (if settled then return (kept, .ok ())
      else if !kept.isConfigured then return (kept, .error (.notConfigured kept.describe))
      else kept.reopen : Act (Endpoint transport × Except Failure Unit)).Keeps P := by
    intro kept settled
    split
    · exact .pure _
    · split
      · exact .pure _
      · exact lasting.reopen kept
  refine .bind (lasting.dropFaulty endpoint) fun kept => .bind (lasting.endpoint_isConnected kept) fun connected => ?_
  dsimp only
  split
  · exact .bind (.pure _) (rest kept)
  · exact .bind (lasting.endpoint_isUnderWay kept) (rest kept)

theorem endpoint_change (target : transport.Target) : (endpoint.change target).Keeps P := by
  have settle : ∀ (moved : Endpoint transport) (connected : Bool), (moved.settle connected).Keeps P := by
    intro moved connected
    unfold Endpoint.settle
    split
    · exact .pure _
    · split
      · exact .bind (lasting.say rfl) fun _ => .pure _
      · refine .bind (lasting.endpoint_establish moved) fun outcome => ?_
        obtain ⟨after, answer⟩ := outcome
        cases answer with
        | ok _ => exact .pure _
        | error failure => exact .bind (lasting.say rfl) fun _ => .pure _
  rw [Endpoint.change_eq]
  refine .bind (lasting.endpoint_isConnected endpoint) fun connected => ?_
  split
  · exact .pure _
  · split
    · exact .bind (lasting.say rfl) fun _ => .bind (lasting.endpoint_disconnect _) fun empty => settle empty connected
    · exact settle _ connected

theorem lend : endpoint.lend.Keeps P := by
  unfold Endpoint.lend
  split
  · exact .pure _
  next handle _ =>
    split
    · exact .bind (lasting.isUsable handle) fun usable => .pure _
    · exact .pure _

theorem release (role : Role) : (Connection.release role endpoint).Keeps P := by
  unfold Connection.release
  split
  · exact .bind (lasting.say rfl) fun _ => .bind (lasting.endpoint_disconnect endpoint) fun _ => .pure _
  · exact .pure _

theorem bringUp (role : Role) : (Connection.bringUp role endpoint).Keeps P := by
  unfold Connection.bringUp
  split
  · exact .bind (lasting.say rfl) fun _ => .pure _
  · refine .bind (lasting.endpoint_isConnected endpoint) fun connected => ?_
    split
    · exact .pure _
    · refine .bind (lasting.say rfl) fun _ => .bind (lasting.endpoint_establish endpoint) fun outcome => ?_
      obtain ⟨after, answer⟩ := outcome
      cases answer with
      | error failure => exact .bind (lasting.say rfl) fun _ => .pure _
      | ok _ => exact .bind (lasting.endpoint_isConnected after) fun up => .pure _

end Endpoint

section Listener

variable (listener : Listener)

theorem livePeer? : listener.livePeer?.Keeps P := by
  unfold Listener.livePeer?
  split
  · exact .pure _
  next peer _ => exact .bind (fun _ => lasting.isOver peer) fun ended => .pure _

theorem hasLivePeer : listener.hasLivePeer.Keeps P := .bind (lasting.livePeer? listener) fun _ => .pure _

theorem dropPeer : listener.dropPeer.Keeps P := by
  unfold Listener.dropPeer
  split
  · exact .pure _
  next peer _ => exact .bind (fun _ => lasting.shut (.peer peer)) fun _ => .pure _

theorem releaseClosedPeer : listener.releaseClosedPeer.Keeps P := by
  refine .bind (lasting.hasLivePeer listener) fun live => ?_
  split
  · exact .pure _
  · exact .bind (lasting.say (LogEntry.isTalk_hungUp ..)) fun _ => .bind (lasting.dropPeer listener) fun _ => .pure _

theorem acceptPeer : listener.acceptPeer.Keeps P := by
  refine .bind (fun _ => lasting.accept listener.socket) fun taken => ?_
  split
  · exact .pure _
  · exact .pure _
  next peer address =>
    have drop : (do
        let listener ← listener.dropPeer
        Listener.say .info ("Accepted peer " ++ address.text)
        return (({ listener with peer := some peer }, .ok (some address)) :
          Listener × Except IoError (Option SocketAddress)) : Act _).Keeps P :=
      .bind (lasting.dropPeer listener) fun _ =>
        .bind (lasting.say (LogEntry.isTalk_accepted ..)) fun _ => .pure _
    refine .bind (.of_same fun world => World.result_stopWaiting peer world) fun settled => ?_
    split
    · exact .bind (fun _ => lasting.shut ⟨.socket peer, none⟩) fun _ => .pure _
    · dsimp only
      split
      · exact .bind (lasting.say rfl) fun _ => drop
      · exact drop

end Listener

section Connection

variable (connection : Connection)

theorem disconnect (role : Role) : (connection.disconnect role).Keeps P :=
  .bind (.onRole (fun endpoint => lasting.release endpoint role) role connection) fun _ => .pure _

theorem establishRole (role : Role) : (connection.establishRole role).Keeps P :=
  .bind (.onRole (fun endpoint => lasting.bringUp endpoint role) role connection) fun _ => .pure _

theorem establish : connection.establish.Keeps P :=
  .bind (lasting.establishRole connection .data) fun first =>
    .bind (lasting.establishRole first.1 .command) fun _ => .pure _

theorem apply (change : Change) : (connection.apply change).Keeps P := by
  intro world holds
  cases connection.taken change with
  | stored place endpoint target _ _ _ _ result =>
    rw [result]
    exact lasting.endpoint_change endpoint target world holds
  | ignored _ result =>
    rw [result]
    exact lasting.tell_debug (by simp [Connection.ignoredLine]) holds

theorem applyAll (changes : List Change) : (connection.applyAll changes).Keeps P := by
  induction changes generalizing connection with
  | nil => exact .pure _
  | cons change rest ih => exact .bind (lasting.apply connection change) fun changed => ih changed

theorem isConnected (role : Role) : (connection.isConnected role).Keeps P := by
  unfold Connection.isConnected
  split
  · exact lasting.endpoint_isConnected _
  · exact .pure _

theorem channel? (role : Role) : (connection.channel? role).Keeps P := by
  refine .bind (lasting.isConnected connection role) fun connected => ?_
  split
  · exact .pure _
  · split
    · exact .pure _
    · exact lasting.lend _

theorem peerAttached : connection.peerAttached.Keeps P := by
  unfold Connection.peerAttached
  split
  · exact .bind (lasting.hasLivePeer _) fun _ => .pure _
  · exact .pure _
  · exact .pure _

theorem status : connection.status.Keeps P :=
  .bind (lasting.peerAttached connection) fun _ => .bind (lasting.isConnected connection .data) fun _ =>
    .bind (lasting.isConnected connection .command) fun _ => .pure _

theorem takePeer : (Agent.takePeer connection).Keeps P := by
  refine .bind (lasting.channel? connection .data) fun channel => ?_
  dsimp only
  split
  · exact .pure _
  next listener _ =>
    refine .bind (lasting.releaseClosedPeer listener) fun released => ?_
    refine .bind (lasting.acceptPeer released.1) fun outcome => ?_
    obtain ⟨taken, answer⟩ := outcome
    cases answer with
    | ok _ => exact .pure _
    | error error => exact .bind (lasting.say rfl) fun _ => .pure _

end Connection

/-- What lasts through talk lasts through a poll, except for what the poll may say at its end. -/
theorem poll_but_last (agent : Agent) {world : World} (holds : P world) : ∃ before, P before ∧
    (agent.poll.result world).2 = before.tell
      (if agent.lastStatus = some (agent.poll.result world).1.2 then []
        else [Agent.transition (agent.poll.result world).1.1.connection.kind (agent.poll.result world).1.2]) := by
  have established := lasting.establish agent.connection world holds
  have spoken := lasting.tell_debug (Agent.pendingLines_debug (agent.connection.establish.result world).1.2) established
  have taken := lasting.takePeer (agent.connection.establish.result world).1.1 _ spoken
  have asked := lasting.status ((Agent.takePeer (agent.connection.establish.result world).1.1).result
    ((agent.connection.establish.result world).2.tell
      (Agent.pendingLines (agent.connection.establish.result world).1.2))).1 _ taken
  refine ⟨_, asked, ?_⟩
  rw [agent.poll_eq]

theorem read (count : Nat) (channel : Channel) : (channel.read count).Keeps P := by
  unfold Channel.read
  split
  · split
    next peer _ => exact fun _ => lasting.receive peer count
    next => exact .pure _
  next id => exact fun _ => lasting.receive id count
  · exact .pure _
  next id => exact fun _ => lasting.lineReceive id count

theorem write (bytes : List UInt8) (channel : Channel) : (channel.write bytes).Keeps P := by
  unfold Channel.write
  split
  · split
    next peer _ => exact fun _ => lasting.send peer bytes
    next => exact .pure _
  next id => exact fun _ => lasting.send id bytes
  · exact .pure _
  next id => exact fun _ => lasting.lineSend id bytes

theorem perform_of_ne_poll {move : Move} (other : move ≠ .poll) (agent : Agent) : (agent.perform move).Keeps P := by
  cases move with
  | change change => exact .bind (lasting.apply agent.connection change) fun _ => .pure _
  | override options => exact .bind (lasting.applyAll agent.connection options.changes) fun _ => .pure _
  | establish => exact .bind (lasting.establish agent.connection) fun _ => .pure _
  | poll => exact absurd rfl other
  | disconnect role => exact .bind (lasting.disconnect agent.connection role) fun _ => .pure _
  | askStatus => exact .bind (lasting.status agent.connection) fun _ => .pure _
  | askConnected role => exact .bind (lasting.isConnected agent.connection role) fun _ => .pure _
  | lend role => exact .bind (lasting.channel? agent.connection role) fun _ => .pure _
  | read role count =>
    refine .bind (lasting.channel? agent.connection role) fun lent => ?_
    cases lent with
    | none => exact .pure _
    | some channel => exact .bind (lasting.read count channel) fun _ => .pure _
  | write role bytes =>
    refine .bind (lasting.channel? agent.connection role) fun lent => ?_
    cases lent with
    | none => exact .pure _
    | some channel => exact .bind (lasting.write bytes channel) fun _ => .pure _
  | askPeer =>
    exact .onListener (fun listener => .bind (lasting.livePeer? listener) fun _ => .pure _) agent
  | acceptPeer =>
    exact .onListener (fun listener => .bind (lasting.acceptPeer listener) fun _ => .pure _) agent
  | releasePeer =>
    exact .onListener (fun listener => .bind (lasting.releaseClosedPeer listener) fun _ => .pure _) agent
  | dropPeer => exact .onListener lasting.dropPeer agent
  | event event => exact fun _ holds => lasting.event event holds

theorem perform (spoken : ∀ {world : World} (entries : List LogEntry), P world → P (world.tell entries)) (move : Move)
    (agent : Agent) : (agent.perform move).Keeps P := by
  intro world holds
  by_cases polled : move = .poll
  · subst polled
    obtain ⟨before, kept, last⟩ := lasting.poll_but_last agent holds
    change P (agent.poll.result world).2
    rw [last]
    exact spoken _ kept
  · exact lasting.perform_of_ne_poll polled agent world holds

/-- What lasts, whatever is said, and is true of worlds that no agent has touched, is true whatever has happened. -/
theorem of_reachable (spoken : ∀ {world : World} (entries : List LogEntry), P world → P (world.tell entries))
    (start : ∀ {world : World}, world.Untouched → P world) {agent : Agent} {world : World}
    (reached : Reachable agent world) : P world := by
  induction reached with
  | start untouched settings => exact start untouched
  | step _ move holds => exact lasting.perform spoken move _ _ holds

end World.Lasting
end InstrumentLink
