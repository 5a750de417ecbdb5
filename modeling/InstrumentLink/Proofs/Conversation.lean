import InstrumentLink.Proofs.Source

/-!
Nothing is lost of what the other end of a stream sends, however often the agent looks whether that is still there, and the
stream is kept until all is read. Only when the other end has closed and the last byte is read the role is seen to be down,
or the peer to be gone; the next attempt or the next poll then closes the stream.
-/

namespace InstrumentLink

open Relation (ReflTransGen)

/-- An agent and its world, with what the other end of a stream has sent since the conversation began, what has been heard
of it through a role, and whether the other end has closed. -/
structure Conversation where
  agent : Agent
  world : World
  sent : List UInt8
  heard : List UInt8
  closed : Bool

namespace Conversation

def begin (agent : Agent) (world : World) (closed : Bool) : Conversation := ⟨agent, world, [], [], closed⟩

def move (move : Move) (conversation : Conversation) : Conversation :=
  { conversation with
    agent := ((conversation.agent.perform move).result conversation.world).1
    world := ((conversation.agent.perform move).result conversation.world).2 }

def read (role : Role) (own : SocketId) (asked : Role) (count : Nat) (conversation : Conversation) : Conversation :=
  let taken := (conversation.agent.read asked count).result conversation.world
  { conversation with
    world := taken.2
    heard :=
      if asked = role ∧ conversation.agent.connection.source? role = some own then conversation.heard ++ taken.1.bytes
      else conversation.heard }

def send (mate : SocketId) (bytes : List UInt8) (conversation : Conversation) : Conversation :=
  { conversation with
    world := conversation.world.after (.send mate bytes)
    sent := conversation.sent ++ bytes }

def close (mate : SocketId) (conversation : Conversation) : Conversation :=
  { conversation with
    world := conversation.world.after (.close mate)
    closed := true }

def pass (event : Event) (conversation : Conversation) : Conversation :=
  { conversation with world := conversation.world.after event }

/-- What happens in the course of a conversation through a role, whose stream has the one number and the other end of it the
other. -/
inductive Step (role : Role) (own mate : SocketId) (conversation : Conversation) : Conversation → Prop
  /-- The agent does something that is no reason to touch the role, and takes no other peer. -/
  | move {move : Move} (spares : move.Spares role conversation.agent.connection)
      (alone : move = .poll → conversation.agent.connection.waiting conversation.world = 0) :
    Step role own mate conversation (conversation.move move)
  | read (asked : Role) (count : Nat) : Step role own mate conversation (conversation.read role own asked count)
  | send (bytes : List UInt8) (talking : conversation.closed = false)
      (outside : conversation.world.network.owner? mate = some .outside)
      (there : (conversation.world.network.stream? mate).isSome) :
    Step role own mate conversation (conversation.send mate bytes)
  /-- The other end closes in good order: it has read all that it got. -/
  | close (talking : conversation.closed = false) (outside : conversation.world.network.owner? mate = some .outside)
      (there : (conversation.world.network.stream? mate).isSome)
      (satisfied : ∀ far, conversation.world.network.stream? mate = some far → far.inbox = []) :
    Step role own mate conversation (conversation.close mate)
  /-- Something happens that has nothing to do with the stream. -/
  | pass (event : Event) (elsewhere : (conversation.world.after event).network.stream? own =
      conversation.world.network.stream? own) : Step role own mate conversation (conversation.pass event)

/-- How a conversation stands: the stream is held, with all in it that is not heard yet, or it is closed, and all has been
heard. -/
inductive Standing (role : Role) (own mate : SocketId) (pending : List UInt8) (conversation : Conversation) : Prop
  | talking {stream : Stream} (held : conversation.agent.connection.source? role = some own)
      (found : conversation.world.network.stream? own = some stream) (established : stream.phase = .established)
      (known : stream.mate = some mate) (ended : stream.ended = conversation.closed)
      (unread : pending ++ conversation.sent = conversation.heard ++ stream.inbox)
  | done (closed : conversation.closed = true) (heard : pending ++ conversation.sent = conversation.heard)
      (old : own < conversation.world.network.sockets.next)
      (gone : conversation.world.network.socket? own = none)

variable {role : Role} {own mate : SocketId} {pending : List UInt8} {conversation next : Conversation}

namespace Standing

theorem move (standing : Standing role own mate pending conversation)
    (reached : Reachable conversation.agent conversation.world) {move : Move}
    (spares : move.Spares role conversation.agent.connection)
    (alone : move = .poll → conversation.agent.connection.waiting conversation.world = 0) :
    Standing role own mate pending (conversation.move move) := by
  have order := inOrder_of_reachable reached
  have outward := World.outward_of_reachable reached
  have onward := World.onward_perform move conversation.agent conversation.world
  cases standing with
  | @talking stream held found established known ended unread =>
    have seen := (order.sound.network.streams found).isOver_of_established established
    by_cases dropped : move.letsGo conversation.agent.connection.kind = true ∧ stream.peek.isOver = true
    · have gone := Agent.perform_drops order outward held found established dropped.2 dropped.1
      rw [dropped.2, ended, eq_comm, Bool.and_eq_true, List.isEmpty_iff] at seen
      refine .done seen.1 ?_ (Nat.lt_of_lt_of_le (Network.lt_next_of_stream? found) onward.next) gone
      exact unread.trans (by rw [seen.2, List.append_nil]; rfl)
    · obtain ⟨kept, same⟩ := Agent.perform_in_touch order outward held found established spares alone
        fun letsGo => Bool.eq_false_iff.mpr fun finished => dropped ⟨letsGo, finished⟩
      exact .talking kept (same.trans found) established known ended unread
  | done closed heard old gone =>
    exact .done closed heard (Nat.lt_of_lt_of_le old onward.next) (onward.gone old gone)

theorem read (standing : Standing role own mate pending conversation)
    (reached : Reachable conversation.agent conversation.world) (asked : Role) (count : Nat) :
    Standing role own mate pending (conversation.read role own asked count) := by
  have order := inOrder_of_reachable reached
  cases standing with
  | @talking stream held found established known ended unread =>
    by_cases same : asked = role
    · subst same
      obtain ⟨bytes, rest, _⟩ := Agent.read_source order held found established count
      refine .talking held rest established known ended ?_
      rw [Conversation.read]
      dsimp only
      rw [if_pos ⟨rfl, held⟩, bytes, List.append_assoc, List.take_append_drop, unread]
    · have kept := Agent.read_beside order (World.outward_of_reachable reached) held same count
      refine .talking held (kept.trans found) established known ended ?_
      rw [Conversation.read]
      dsimp only
      rw [if_neg fun both => same both.1, unread]
  | done closed heard old gone =>
    have onward := World.onward_perform (.read asked count) conversation.agent conversation.world
    rw [Agent.perform_read_eq] at onward
    refine .done closed ?_ (Nat.lt_of_lt_of_le old onward.next) (onward.gone old gone)
    rw [Conversation.read]
    dsimp only
    rw [if_neg fun both => order.source?_ne gone role both.2, heard]

theorem send (standing : Standing role own mate pending conversation)
    (reached : Reachable conversation.agent conversation.world) (bytes : List UInt8) (talking : conversation.closed = false)
    (outside : conversation.world.network.owner? mate = some .outside)
    (there : (conversation.world.network.stream? mate).isSome) :
    Standing role own mate pending (conversation.send mate bytes) := by
  have sound := (inOrder_of_reachable reached).sound.network
  cases standing with
  | @talking stream held found established known ended unread =>
    have arrives : (conversation.world.after (.send mate bytes)).network.stream? own = some (stream.arrive bytes) := by
      change ((Event.send mate bytes).onNetwork conversation.world.network).stream? own = _
      rw [sound.after_send found known outside there, Network.stream?_mapStream, if_pos rfl, found, Option.map_some]
    refine .talking held arrives established known ended ?_
    rw [Conversation.send, ← List.append_assoc, unread, List.append_assoc]
    rfl
  | done closed =>
    rw [closed] at talking
    cases talking

theorem close (standing : Standing role own mate pending conversation)
    (reached : Reachable conversation.agent conversation.world) (talking : conversation.closed = false)
    (outside : conversation.world.network.owner? mate = some .outside)
    (there : (conversation.world.network.stream? mate).isSome)
    (satisfied : ∀ far, conversation.world.network.stream? mate = some far → far.inbox = []) :
    Standing role own mate pending (conversation.close mate) := by
  have order := inOrder_of_reachable reached
  cases standing with
  | @talking stream held found established known ended unread =>
    obtain ⟨_, _, agents⟩ := order.stream_of_source held
    have different : mate ≠ own := by
      rintro rfl
      rw [agents] at outside
      cases outside
    have ends : (conversation.world.after (.close mate)).network.stream? own = some stream.finish := by
      exact order.sound.network.after_close found known outside there different satisfied
    exact .talking held ends established known rfl unread
  | done closed =>
    rw [closed] at talking
    cases talking

theorem pass (standing : Standing role own mate pending conversation) (event : Event)
    (elsewhere : (conversation.world.after event).network.stream? own = conversation.world.network.stream? own) :
    Standing role own mate pending (conversation.pass event) := by
  cases standing with
  | talking held found established known ended unread =>
    exact .talking held (elsewhere.trans found) established known ended unread
  | done closed heard old gone =>
    have onward := Network.Onward.event event conversation.world.network
    exact .done closed heard (Nat.lt_of_lt_of_le old onward.next) (onward.gone old gone)

end Standing

theorem Step.reachable (step : Step role own mate conversation next)
    (reached : Reachable conversation.agent conversation.world) : Reachable next.agent next.world := by
  cases step with
  | @move move _ _ => exact reached.step move
  | read asked count =>
    have taken := reached.step (.read asked count)
    rw [Agent.perform_read_eq] at taken
    exact taken
  | send bytes _ _ _ => exact reached.step (.event (.send mate bytes))
  | close _ _ _ _ => exact reached.step (.event (.close mate))
  | pass event _ => exact reached.step (.event event)

theorem Standing.step (standing : Standing role own mate pending conversation)
    (reached : Reachable conversation.agent conversation.world) (step : Step role own mate conversation next) :
    Standing role own mate pending next := by
  cases step with
  | move spares alone => exact standing.move reached spares alone
  | read asked count => exact standing.read reached asked count
  | send bytes talking outside there => exact standing.send reached bytes talking outside there
  | close talking outside there satisfied => exact standing.close reached talking outside there satisfied
  | pass event elsewhere => exact standing.pass event elsewhere

theorem standing_of_steps (standing : Standing role own mate pending conversation)
    (reached : Reachable conversation.agent conversation.world)
    (run : ReflTransGen (Step role own mate) conversation next) :
    Reachable next.agent next.world ∧ Standing role own mate pending next := by
  induction run with
  | refl => exact ⟨reached, standing⟩
  | tail _ step ih =>
    obtain ⟨reachedThen, standingThen⟩ := ih
    exact ⟨step.reachable reachedThen, standingThen.step reachedThen step⟩

structure Shows (role : Role) (up : Bool) (conversation : Conversation) : Prop where
  client : conversation.agent.connection.kind = .tcp →
    ((conversation.agent.connection.isConnected role).result conversation.world).1 = up
  listener : conversation.agent.connection.kind = .rsn →
    (conversation.agent.connection.status.result conversation.world).1.peerAttached = some up

structure InTouch (role : Role) (own : SocketId) (unread : List UInt8) (conversation : Conversation) : Prop where
  held : conversation.agent.connection.source? role = some own
  there : (conversation.world.network.stream? own).isSome
  shown : Shows role true conversation
  gives : ∀ count, ((conversation.agent.read role count).result conversation.world).1.bytes = unread.take count

/-- The stream is not seen any more. It is still held or already closed, and in any case closed after the next move that
lets go of it. -/
structure Done (role : Role) (own : SocketId) (conversation : Conversation) : Prop where
  shown : conversation.agent.connection.source? role = some own → Shows role false conversation
  kept : conversation.agent.connection.source? role = some own ∨ conversation.world.network.socket? own = none
  dropped : ∀ move : Move, move.letsGo conversation.agent.connection.kind = true →
    (conversation.move move).world.network.socket? own = none ∧
      (conversation.move move).agent.connection.source? role ≠ some own

end Conversation

/-- Let an agent hold a stream that works, the one that a client has dialled or the peer of a listener, and let the other end
send what it likes and then perhaps close in good order. Whatever questions are asked, whatever is attempted and polled
while nobody else waits, whatever is changed that changes nothing for the role, and in whatever pieces somebody reads: what
was pending and what is sent is what has been heard and what is still unread, in this order. As long as something is unread,
or the other end has not closed, the stream is held, the role is up or the peer attached, and a read gives what comes next.
Once the other end has closed and all is read this is over, and the next attempt of a client, or the next poll, closes the
stream. -/
theorem nothing_sent_is_lost {agent : Agent} {world : World} (reached : Reachable agent world) {role : Role}
    {own mate : SocketId} {stream : Stream} (held : agent.connection.source? role = some own)
    (found : world.network.stream? own = some stream) (established : stream.phase = .established)
    (known : stream.mate = some mate) {conversation : Conversation}
    (run : ReflTransGen (Conversation.Step role own mate) (.begin agent world stream.ended) conversation) :
    ∃ unread, stream.inbox ++ conversation.sent = conversation.heard ++ unread ∧
      (conversation.closed = false ∨ unread ≠ [] → Conversation.InTouch role own unread conversation) ∧
      (conversation.closed = true → unread = [] → Conversation.Done role own conversation) := by
  have begun : Conversation.Standing role own mate stream.inbox (.begin agent world stream.ended) :=
    .talking held found established known rfl (List.append_nil _)
  -- `Standing` is the invariant of the run: what was heard and what is unread make up what was sent.
  obtain ⟨reachedNow, standing⟩ := Conversation.standing_of_steps begun reached run
  have order := inOrder_of_reachable reachedNow
  have outward := World.outward_of_reachable reachedNow
  have orderAfter := fun move : Move => inOrder_of_reachable (reachedNow.step move)
  cases standing with
  | @talking now heldNow foundNow establishedNow knownNow ended unread =>
    have seen := (order.sound.network.streams foundNow).isOver_of_established establishedNow
    obtain ⟨client, listener⟩ := order.seen_of_source heldNow foundNow establishedNow
    refine ⟨now.inbox, unread, fun going => ?_, fun closed empty => ?_⟩
    · have notOver : now.peek.isOver = false := by
        rw [seen, ended, Bool.and_eq_false_iff, List.isEmpty_eq_false_iff]
        exact going
      rw [notOver] at client listener
      exact ⟨heldNow, by rw [foundNow]; rfl, ⟨client, listener⟩,
        fun count => (Agent.read_source order heldNow foundNow establishedNow count).1⟩
    · have finished : now.peek.isOver = true := by
        rw [seen, ended, closed, empty]
        rfl
      rw [finished] at client listener
      refine ⟨fun _ => ⟨client, listener⟩, .inl heldNow, fun move letsGo => ?_⟩
      have gone := Agent.perform_drops order outward heldNow foundNow establishedNow finished letsGo
      exact ⟨gone, (orderAfter move).source?_ne gone role⟩
  | done closed heard old gone =>
    refine ⟨[], by rw [heard, List.append_nil], fun going => ?_, fun _ _ => ?_⟩
    · rcases going with talking | unread
      · rw [closed] at talking
        cases talking
      · exact absurd rfl unread
    · refine ⟨fun still => absurd still (order.source?_ne gone role), .inr gone, fun move _ => ?_⟩
      have goneStill := (World.onward_perform move conversation.agent conversation.world).gone old gone
      exact ⟨goneStill, (orderAfter move).source?_ne goneStill role⟩

def greeted : Agent × World :=
  (Agent.performAll [.event (.serve ⟨.v4 .localhost, 4001⟩ 4 true), .establish, .event (.take 0)]
    (.ofConnection (.ofSettings (.tcp ⟨"127.0.0.1", 4001, "", 0⟩)))).result (World.ofRoutes .loopback)

theorem reachable_greeted : Reachable greeted.1 greeted.2 :=
  Reachable.performAll (.start (.ofRoutes .loopback) _) _

def farewell : Conversation :=
  (((Conversation.begin greeted.1 greeted.2 false).send 2 [1, 2, 3]).move .askStatus).close 2

def halfHeard : Conversation := (farewell.move .poll).read .data 1 .data 2

def allHeard : Conversation := (halfHeard.move .establish).read .data 1 .data 5

theorem steps_halfHeard :
    ReflTransGen (Conversation.Step .data 1 2) (.begin greeted.1 greeted.2 false) halfHeard := by
  have outside : (((Conversation.begin greeted.1 greeted.2 false).send 2 [1, 2, 3]).move .askStatus).world.network.owner? 2 =
      some .outside := by decide +kernel
  have satisfied : ((((Conversation.begin greeted.1 greeted.2 false).send 2 [1, 2, 3]).move
      .askStatus).world.network.stream? 2).map Stream.inbox = some [] := by decide +kernel
  refine .head (.send [1, 2, 3] rfl (by decide +kernel) (by decide +kernel)) ?_
  refine .head (.move .askStatus (fun other => by cases other)) ?_
  refine .head (.close rfl outside ?_ fun far found => ?_) ?_
  · rw [← Option.isSome_map, satisfied]
    rfl
  · rw [found] at satisfied
    exact Option.some.inj satisfied
  · exact .head (.move .poll (fun _ => by decide +kernel)) (.single (.read .data 2))

theorem steps_allHeard :
    ReflTransGen (Conversation.Step .data 1 2) (.begin greeted.1 greeted.2 false) allHeard :=
  (steps_halfHeard.tail (.move .establish fun other => by cases other)).tail (.read .data 5)

/-- With one byte unread the role is up, though the other end has closed; with none it is down, and the next attempt closes
the stream. -/
theorem nothing_sent_is_lost_farewell :
    halfHeard.closed = true ∧ halfHeard.heard = [1, 2] ∧
      ((halfHeard.agent.connection.isConnected .data).result halfHeard.world).1 = true ∧
      allHeard.heard = [1, 2, 3] ∧ ((allHeard.agent.connection.isConnected .data).result allHeard.world).1 = false ∧
      (allHeard.move .establish).world.network.socket? 1 = none := by
  have held : greeted.1.connection.source? .data = some 1 := by decide +kernel
  have isTcp : halfHeard.agent.connection.kind = .tcp ∧ allHeard.agent.connection.kind = .tcp := by decide +kernel
  have heard : halfHeard.heard = [1, 2] ∧ allHeard.heard = [1, 2, 3] := by decide +kernel
  have sent : halfHeard.sent = [1, 2, 3] ∧ allHeard.sent = [1, 2, 3] := by decide +kernel
  have closed : halfHeard.closed = true ∧ allHeard.closed = true := by decide +kernel
  have heldStill : allHeard.agent.connection.source? .data = some 1 := by decide +kernel
  have faces : (greeted.2.network.stream? 1).map (fun stream => (stream.phase, stream.mate, stream.ended, stream.inbox)) =
      some (.established, some 2, false, []) := by decide +kernel
  obtain ⟨stream, found, face⟩ := Option.map_eq_some_iff.mp faces
  obtain ⟨established, known, talking, empty⟩ : stream.phase = .established ∧ stream.mate = some 2 ∧
      stream.ended = false ∧ stream.inbox = [] := by simpa using face
  obtain ⟨unread, conserved, inTouch, _⟩ := nothing_sent_is_lost reachable_greeted held found established known
    (talking ▸ steps_halfHeard)
  obtain ⟨rest, conservedAll, _, done⟩ := nothing_sent_is_lost reachable_greeted held found established known
    (talking ▸ steps_allHeard)
  rw [empty, sent.1, heard.1] at conserved
  rw [empty, sent.2, heard.2] at conservedAll
  have left : unread ≠ [] := by
    rintro rfl
    cases conserved
  have nothing : rest = [] := List.self_eq_append_right.mp conservedAll
  obtain ⟨shown, _, dropped⟩ := done closed.2 nothing
  refine ⟨closed.1, heard.1, (inTouch (.inr left)).shown.client isTcp.1, heard.2, (shown heldStill).client isTcp.2, ?_⟩
  exact (dropped .establish (by rw [isTcp.2]; rfl)).1

end InstrumentLink
