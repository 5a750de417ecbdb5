import InstrumentLink.Proofs.Endpoint.Peer
import InstrumentLink.Proofs.Network.Frame

/-!
The queue of a listener and its peer, one poll after another. A poll lets a peer go that has hung up and takes one that
waits; where nobody waits, the peer that is seen stays the one that is seen.
-/

namespace InstrumentLink

namespace Stream

theorem Sound.isOver_afterPeek {stream : Stream} (sound : stream.Sound) :
    stream.afterPeek.peek.isOver = stream.peek.isOver := by
  cases shown : stream.peek with
  | failed error =>
    obtain ⟨empty, told⟩ := peek_failed shown
    have dead := sound.dead_of_error (by rw [told]; rfl)
    rw [Stream.afterPeek, shown]
    simp only [Stream.peek, empty, dead]
    cases stream.ended <;> rfl
  | data | ended | nothing =>
    rw [Stream.afterPeek, shown]
    dsimp only
    rw [shown]

end Stream

namespace Network

def waiting (network : Network) (listener : SocketId) : Nat :=
  match network.listening? listener with
  | some listening => listening.queue.length
  | none => 0

theorem waiting_of_listening? {network later : Network} {listener : SocketId}
    (same : later.listening? listener = network.listening? listener) :
    later.waiting listener = network.waiting listener := by
  rw [waiting, waiting, same]

theorem Sound.isOver_peek {network : Network} (sound : network.Sound) (id other : SocketId) :
    ((network.peek id).2.peek other).1.isOver = (network.peek other).1.isOver := by
  unfold Network.peek
  cases found : network.stream? id with
  | none => rfl
  | some stream =>
    dsimp only
    rw [stream?_mapStream]
    by_cases same : id = other
    · subst same
      rw [if_pos rfl, found]
      exact (sound.streams found).isOver_afterPeek
    · rw [if_neg same]
      cases network.stream? other <;> rfl

theorem listening?_peek (network : Network) (id other : SocketId) :
    (network.peek id).2.listening? other = network.listening? other := by
  unfold peek
  split
  · exact listening?_mapStream ..
  · rfl

theorem stream?_peek_other {id other : SocketId} (different : id ≠ other) (network : Network) :
    (network.peek id).2.stream? other = network.stream? other := by
  unfold peek
  split
  · rw [stream?_mapStream, if_neg different]
  · rfl

theorem accept_of_waiting {network : Network} {listener : SocketId} (nobody : network.waiting listener = 0) :
    (∀ peer, (network.accept .agent listener).1 ≠ .ok (some peer)) ∧ (network.accept .agent listener).2 = network := by
  have none : ∀ peer, (network.accept .agent listener).1 ≠ .ok (some peer) := by
    intro peer
    unfold accept
    cases found : network.listening? listener with
    | none => simp
    | some listening =>
      rw [waiting, found] at nobody
      have empty : listening.queue = [] := List.length_eq_zero_iff.mp nobody
      simp [empty]
  exact ⟨none, accept_none none⟩

theorem Sound.waiting_accept {network : Network} (sound : network.Sound) (listener : SocketId) :
    (network.accept .agent listener).2.waiting listener = network.waiting listener - 1 := by
  unfold Network.accept
  cases found : network.listening? listener with
  | none => simp [waiting, found]
  | some listening =>
    cases queue : listening.queue with
    | nil => simp [waiting, found, queue]
    | cons first rest =>
      have waits : first ∈ listening.queue := by rw [queue]; exact List.mem_cons_self
      obtain ⟨stream, there⟩ := Option.isSome_iff_exists.mp (sound.queued found waits).2
      simp [waiting, found, queue, there, listening?_mapListening]

end Network

def Deed.isAccept : Deed → Bool
  | .accept _ _ => true
  | _ => false

def World.peersTaken (world : World) : List Deed := world.journal.filter Deed.isAccept

theorem World.peersTaken_of_journal {world later : World} {deeds : List Deed}
    (noted : later.journal = world.journal ++ deeds) (none : ∀ deed ∈ deeds, deed.isAccept = false) :
    later.peersTaken = world.peersTaken := by
  have nothing : deeds.filter Deed.isAccept = [] := by
    rw [List.filter_eq_nil_iff]
    intro deed member
    rw [none deed member]
    exact Bool.false_ne_true
  rw [peersTaken, peersTaken, noted, List.filter_append, nothing, List.append_nil]

namespace Listener

variable {listener : Listener} {world : World}

def attached (listener : Listener) (world : World) : Bool :=
  listener.peer.any fun peer => !(world.network.peek peer).1.isOver

/-- A look at the peer changes nothing that can be seen of any listener. -/
structure Looked (world later : World) : Prop where
  attached : ∀ listener : Listener, listener.attached later = listener.attached world
  listening : ∀ id, later.network.listening? id = world.network.listening? id
  journal : later.journal = world.journal

theorem hasLivePeer_looked (sound : world.Sound) (listener : Listener) :
    (listener.hasLivePeer.result world).1 = listener.attached world ∧
      Looked world (listener.hasLivePeer.result world).2 := by
  unfold hasLivePeer livePeer? attached
  cases listener.peer with
  | none => exact ⟨rfl, fun _ => rfl, fun _ => rfl, rfl⟩
  | some peer =>
    simp only [Act.result_bind, Act.result_isOver, Act.result_pure]
    refine ⟨?_, fun other => ?_, world.network.listening?_peek peer, rfl⟩
    · by_cases hungUp : (world.network.peek peer).1.isOver = true <;> simp [hungUp]
    · rw [Listener.attached, Listener.attached]
      cases other.peer with
      | none => rfl
      | some others => exact congrArg Bool.not (sound.network.isOver_peek peer others)

def Took (listener : Listener) (world : World) : Prop :=
  ∀ peer, listener.peer = some peer → ∃ door, world.ledger (.socket peer) = some (.accept door peer)

theorem Took.of_journal {later : World} (took : listener.Took world) (same : later.journal = world.journal) :
    listener.Took later := by
  intro peer had
  rw [World.ledger, same]
  exact took peer had

theorem listening?_dropPeer (sound : world.Sound) (took : listener.Took world) (id : SocketId) :
    (listener.dropPeer.result world).2.network.listening? id = world.network.listening? id := by
  unfold dropPeer
  cases had : listener.peer with
  | none => rfl
  | some peer =>
    obtain ⟨door, accepted⟩ := took peer had
    obtain ⟨purpose, own, remote, rfl⟩ := sound.own?_of_ledger accepted
    obtain ⟨stream, found, _⟩ := Network.own?_stream own
    have gone := Network.gone_part found (sound.network.streams found).unshut (some .both)
    exact gone.listening? found id

theorem dropPeer_eq (listener : Listener) (world : World) :
    (listener.dropPeer.result world).1 = { listener with peer := none } := by
  obtain ⟨socket, _ | peer⟩ := listener <;> rfl

theorem peersTaken_dropPeer (listener : Listener) (world : World) :
    (listener.dropPeer.result world).2.peersTaken = world.peersTaken := by
  unfold dropPeer
  cases listener.peer with
  | none => rfl
  | some peer =>
    exact World.peersTaken_of_journal (World.journal_shut (.peer peer) world)
      (by simp [Parting.peer, Parting.deeds, Deed.isAccept])

/-- One more look for somebody who waits: one fewer waits then, and where nobody does the peer that is seen stays. -/
structure Turn (before after : Listener) (world later : World) : Prop where
  socket : after.socket = before.socket
  waiting : later.network.waiting after.socket = world.network.waiting before.socket - 1
  attached : world.network.waiting before.socket = 0 → after.attached later = before.attached world
  taken : world.network.waiting before.socket = 0 → later.peersTaken = world.peersTaken

theorem releaseClosedPeer_frame (sound : world.Sound) (took : listener.Took world) :
    let after := (listener.releaseClosedPeer.result world).1.1
    let later := (listener.releaseClosedPeer.result world).2
    after.socket = listener.socket ∧ (∀ id, later.network.listening? id = world.network.listening? id) ∧
      after.attached later = listener.attached world ∧ later.peersTaken = world.peersTaken := by
  obtain ⟨live, looked⟩ := hasLivePeer_looked sound listener
  have kept := hasLivePeer_kept sound listener
  have tookToo := took.of_journal looked.journal
  rw [releaseClosedPeer, Act.result_bind, live]
  generalize (listener.hasLivePeer.result world).2 = middle at looked kept tookToo
  have takenSame : middle.peersTaken = world.peersTaken := by rw [World.peersTaken, looked.journal]; rfl
  split
  · exact ⟨rfl, looked.listening, looked.attached listener, takenSame⟩
  next gone =>
    have unseen : listener.attached world = false := by
      cases seen : listener.attached world with
      | false => rfl
      | true => simp [seen] at gone
    have told := kept.sound.tell [⟨.info, .transport .listener, "Peer hung up"⟩]
    rw [say, Act.result_bind, Act.result_bind, Act.result_say, Act.result_pure]
    dsimp only
    rw [dropPeer_eq]
    refine ⟨rfl, fun id => ?_, ?_, ?_⟩
    · rw [listening?_dropPeer told (tookToo.of_journal rfl)]
      exact looked.listening id
    · rw [unseen]
      rfl
    · rw [peersTaken_dropPeer]
      exact takenSame

theorem world_accept_nobody {door : SocketId}
    (none : ∀ peer, (world.network.accept .agent door).1 ≠ .ok (some peer)) :
    ((Act.accept door).result world).2 = world := by
  have deeds : Act.acceptDeeds door (world.network.accept .agent door).1 = [] := by
    unfold Act.acceptDeeds
    split
    next peer address taken => exact absurd taken (none (peer, address))
    next => rfl
  rw [Act.result_accept, deeds, List.append_nil, Network.accept_none none]

theorem Turn.nobody {listener : Listener} (sound : world.Sound)
    (none : ∀ peer, (world.network.accept .agent listener.socket).1 ≠ .ok (some peer)) :
    Turn listener listener world ((Act.accept listener.socket).result world).2 := by
  have waiting := sound.network.waiting_accept listener.socket
  rw [Network.accept_none none] at waiting
  rw [world_accept_nobody none]
  exact ⟨rfl, waiting, fun _ => rfl, fun _ => rfl⟩

theorem acceptPeer_turn (sound : world.Sound) (took : listener.Took world) :
    Turn listener (listener.acceptPeer.result world).1.1 world (listener.acceptPeer.result world).2 := by
  have waiting := sound.network.waiting_accept listener.socket
  have accepted := sound.accept listener.socket
  have nobody : (∀ peer, (world.network.accept .agent listener.socket).1 ≠ .ok (some peer)) →
      Turn listener listener world ((Act.accept listener.socket).result world).2 := Turn.nobody sound
  have result := Act.result_accept listener.socket world
  rw [acceptPeer, Act.result_bind]
  rcases outcome : (world.network.accept .agent listener.socket).1 with error | _ | ⟨peer, address⟩
  · rw [result, outcome] at nobody ⊢
    exact nobody (by simp)
  · rw [result, outcome] at nobody ⊢
    exact nobody (by simp)
  · have waits : world.network.waiting listener.socket ≠ 0 := fun empty =>
      (Network.accept_of_waiting empty).1 _ outcome
    have stillTook : listener.Took ((Act.accept listener.socket).result world).2 := by
      intro old had
      rw [result, outcome, Act.acceptDeeds, World.ledger, ledger_append, Deed.enter]
      split
      next new =>
        cases new
        exact ⟨listener.socket, rfl⟩
      next => exact took old had
    -- Whoever has to go does not listen, so the queue is as the accept has left it.
    have turn : ∀ told more, Turn listener { listener with peer := some peer } world
        ((listener.dropPeer.result (((Act.accept listener.socket).result world).2.tell told)).2.tell more) := by
      intro told more
      refine ⟨rfl, ?_, fun empty => absurd empty waits, fun empty => absurd empty waits⟩
      rw [← waiting]
      refine Network.waiting_of_listening? ?_
      refine (listening?_dropPeer (accepted.tell told) (stillTook.of_journal rfl) listener.socket).trans ?_
      rw [result]
      rfl
    have replaced := turn [⟨.debug, .transport .listener, "Replacing previous peer with " ++ address.text⟩]
    have first := turn []
    rw [World.tell_nil] at first
    have settled := sound.stopWaiting_accepted outcome
    rw [result, outcome] at first replaced settled ⊢
    dsimp only
    rw [Act.result_bind, settled]
    dsimp only
    split
    · simp only [say, Act.result_bind, Act.result_say, Act.result_pure, dropPeer_eq]
      exact replaced _
    · simp only [say, Act.result_bind, Act.result_say, Act.result_pure, dropPeer_eq]
      exact first _

end Listener
end InstrumentLink
