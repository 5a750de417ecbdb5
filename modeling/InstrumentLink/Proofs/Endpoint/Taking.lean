import InstrumentLink.Proofs.Endpoint.Attached
import InstrumentLink.Proofs.Endpoint.EagerChange
import InstrumentLink.Proofs.Network.Onward

/-!
What a listener does when somebody waits. A peer that has hung up is let go of before the next one is taken, any other
after that; either way it is closed once, and only the next one is left.
-/

namespace InstrumentLink

namespace Network

variable {network later : Network} {id other : SocketId} {stream : Stream}

def isOver (network : Network) (id : SocketId) : Bool := (network.peek id).1.isOver

theorem isOver_of_stream? (same : later.stream? id = network.stream? id) : later.isOver id = network.isOver id := by
  unfold isOver peek
  rw [same]
  cases network.stream? id <;> rfl

theorem peek_of_not_isOver (there : network.isOver id = false) : (network.peek id).2 = network := by
  unfold isOver peek at there
  unfold peek
  cases found : network.stream? id with
  | none => rfl
  | some stream =>
    rw [found] at there
    refine mapStream_same fun same foundToo => ?_
    rw [found] at foundToo
    cases foundToo
    unfold Stream.afterPeek
    split
    next error failed => simp [failed, Peek.isOver] at there
    next => rfl

theorem gone_peek (id : SocketId) (gone : network.socket? other = none) : (network.peek id).2.socket? other = none := by
  unfold peek
  split
  · exact Onward.gone_modify gone
  · exact gone

/-- The first in a queue is taken out of it, and nothing else changes but whom it belongs to. -/
theorem accept_first {listener : SocketId} {listening : Listening} {rest : List SocketId}
    (there : network.listening? listener = some listening) (queue : listening.queue = id :: rest)
    (found : network.stream? id = some stream) :
    (network.accept .agent listener).1 = .ok (some (id, stream.there)) ∧
      (∀ other, (network.accept .agent listener).2.stream? other = network.stream? other) ∧
      ∀ other, (network.accept .agent listener).2.listening? other =
        if listener = other then some { listening with queue := rest } else network.listening? other := by
  have accepted : network.accept .agent listener = (.ok (some (id, stream.there)),
      (network.modify id fun socket => { socket with owner := .agent }).modify listener
        (Socket.mapListening fun listening => { listening with queue := rest })) := by
    rw [accept, there]
    dsimp only
    rw [queue]
    dsimp only
    rw [found]
  rw [accepted]
  refine ⟨rfl, fun other => ?_, fun other => ?_⟩
  · rw [stream?_mapListening, stream?_setOwner]
  · rw [listening?_mapListening, listening?_setOwner]
    split
    next same => rw [← same, there, Option.map_some]
    next => rfl

end Network

namespace Listener

variable {listener : Listener} {world later : World}

def hungUpLine : LogEntry := ⟨.info, .transport .listener, "Peer hung up"⟩

def replacedLine (address : SocketAddress) : LogEntry :=
  ⟨.debug, .transport .listener, "Replacing previous peer with " ++ address.text⟩

def acceptedLine (address : SocketAddress) : LogEntry :=
  ⟨.info, .transport .listener, "Accepted peer " ++ address.text⟩

/-- What is noted when the next one is taken, by the peer before and by whether that has hung up. The peer before is shut
down both ways and closed. -/
def takingDeeds (door : SocketId) (previous : Option SocketId) (hungUp : Bool) (next : SocketId) : List Deed :=
  match previous, hungUp with
  | none, _ => [.accept door next]
  | some peer, true => [.shutdown peer .both, .close peer, .accept door next]
  | some peer, false => [.accept door next, .shutdown peer .both, .close peer]

def takingLines (previous : Option SocketId) (hungUp : Bool) (address : SocketAddress) : List LogEntry :=
  match previous, hungUp with
  | none, _ => [acceptedLine address]
  | some _, true => [hungUpLine, acceptedLine address]
  | some _, false => [replacedLine address, acceptedLine address]

def hungUp (listener : Listener) (world : World) : Bool := listener.peer.any world.network.isOver

theorem releaseClosedPeer_result (listener : Listener) (world : World) :
    listener.releaseClosedPeer.result world =
      match listener.peer with
      | none => ((listener, false), world)
      | some peer =>
        if world.network.isOver peer then
          (({ listener with peer := none }, true),
            { world with
              network := world.network.part (some .both) peer
              log := world.log ++ [hungUpLine]
              journal := world.journal ++ [.shutdown peer .both, .close peer] })
        else ((listener, false), world) := by
  obtain ⟨socket, _ | peer⟩ := listener
  · rfl
  · have looked : (hasLivePeer ⟨socket, some peer⟩).result world =
        (!world.network.isOver peer, { world with network := (world.network.peek peer).2 }) := by
      simp only [hasLivePeer, livePeer?, Act.result_bind, Act.result_isOver, Act.result_pure, Network.isOver]
      by_cases hungUp : (world.network.peek peer).1.isOver = true <;> simp [hungUp]
    rw [releaseClosedPeer, Act.result_bind, looked]
    dsimp only
    cases there : world.network.isOver peer with
    | true =>
      rw [← world.network.part_peek peer]
      simp [say, dropPeer, Act.result_hangUp, World.tell, hungUpLine, Network.part]
    | false =>
      rw [Network.peek_of_not_isOver there]
      rfl

theorem acceptPeer_result (sound : world.Sound) {next : SocketId} {address : SocketAddress}
    (accepted : (world.network.accept .agent listener.socket).1 = .ok (some (next, address))) :
    listener.acceptPeer.result world =
      ((⟨listener.socket, some next⟩, .ok (some address)),
        match listener.peer with
        | none =>
          { world with
            network := (world.network.accept .agent listener.socket).2
            log := world.log ++ [acceptedLine address]
            journal := world.journal ++ [.accept listener.socket next] }
        | some peer =>
          { world with
            network := (world.network.accept .agent listener.socket).2.part (some .both) peer
            log := world.log ++ [replacedLine address, acceptedLine address]
            journal := world.journal ++ [.accept listener.socket next, .shutdown peer .both, .close peer] }) := by
  obtain ⟨socket, peer⟩ := listener
  have taken := Act.result_accept socket world
  have settled := sound.stopWaiting_accepted accepted
  rw [taken, accepted] at settled
  rw [accepted] at taken
  rw [acceptPeer, Act.result_bind, taken]
  dsimp only
  rw [Act.result_bind, settled]
  cases peer with
  | none => rfl
  | some peer =>
    simp [say, dropPeer, Act.result_hangUp, World.tell, replacedLine, acceptedLine, Act.acceptDeeds, Network.part]

/-- What becomes of a listener that takes the next one. -/
structure Takes (listener : Listener) (next : SocketId) (stream : Stream) (world : World) (after : Listener)
    (later : World) : Prop where
  alone : after = ⟨listener.socket, some next⟩
  noted : later.journal = world.journal ++ takingDeeds listener.socket listener.peer (listener.hungUp world) next
  said : later.log = world.log ++ takingLines listener.peer (listener.hungUp world) stream.there
  streams : ∀ id, listener.peer ≠ some id →
    (∀ peer stream, listener.peer = some peer → world.network.stream? peer = some stream → stream.mate ≠ some id) →
      later.network.stream? id = world.network.stream? id
  closed : ∀ peer, listener.peer = some peer → later.network.socket? peer = none
  ended : ∀ peer stream mate far, listener.peer = some peer → world.network.stream? peer = some stream →
    stream.mate = some mate → later.network.stream? mate = some far → far.ended = true

section TakesNext

variable {listening : Listening} {next : SocketId} {rest : List SocketId} {stream : Stream} {socket peer door : SocketId}
  {before : Stream}

/-- A peer that has hung up is shut down and closed, and then the next one is taken. -/
theorem takes_after_hangUp (sound : world.Sound) (accepted : world.ledger (.socket peer) = some (.accept door peer))
    (there : world.network.listening? socket = some listening) (queue : listening.queue = next :: rest)
    (found : world.network.stream? next = some stream) (foundBefore : world.network.stream? peer = some before)
    (hung : world.network.isOver peer = true) (different : peer ≠ next) (stranger : before.mate ≠ some next) :
    let taken := (⟨socket, none⟩ : Listener).acceptPeer.result
      { world with
        network := world.network.part (some .both) peer
        log := world.log ++ [hungUpLine]
        journal := world.journal ++ [.shutdown peer .both, .close peer] }
    taken.1.2 = .ok (some stream.there) ∧ (⟨socket, some peer⟩ : Listener).Takes next stream world taken.1.1 taken.2 ∧
      ∀ id, taken.2.network.listening? id =
        if socket = id then some { listening with queue := rest } else world.network.listening? id := by
  have gone := Network.gone_part foundBefore (sound.network.streams foundBefore).unshut (some .both)
  have thereStill := (gone.listening? foundBefore socket).trans there
  have foundStill := (gone.stream?_apart different stranger).trans found
  obtain ⟨taken, streams, listenings⟩ := Network.accept_first thereStill queue foundStill
  have closed : ((Act.shut (.peer peer)).result world).2.Sound :=
    sound.shut (by rw [Parting.peer, accepted]; rfl)
  rw [Parting.peer, World.result_shut_socket] at closed
  have soundStill : World.Sound
      { world with
        network := world.network.part (some .both) peer
        log := world.log ++ [hungUpLine]
        journal := world.journal ++ [.shutdown peer .both, .close peer] } := closed.tell [hungUpLine]
  intro outcome
  rw [show outcome = _ from acceptPeer_result soundStill taken]
  refine ⟨rfl, ⟨rfl, ?_, ?_, fun id other unknown => ?_, fun gonePeer had => ?_,
    fun lost near mate far had foundNear known there => ?_⟩, fun id => ?_⟩
  · simp [hungUp, hung, takingDeeds]
  · simp [hungUp, hung, takingLines]
  · refine (streams id).trans (gone.stream?_apart ?_ (unknown peer before rfl foundBefore))
    exact fun same => other (congrArg some same)
  · cases had
    have old : peer < (world.network.part (some .both) peer).sockets.next := by
      rw [gone.next]
      exact Network.lt_next_of_stream? foundBefore
    exact (Network.Onward.accept .agent socket _).gone old gone.socket?_eq_none
  · cases had
    exact sound.network.ended_part foundNear known .both ((streams mate).symm.trans there)
  · refine (listenings id).trans ?_
    split
    · rfl
    · exact gone.listening? foundBefore id

/-- Of a peer that has not hung up the next one takes the place, and then it is shut down and closed. -/
theorem takes_in_place (sound : world.Sound) (there : world.network.listening? socket = some listening)
    (queue : listening.queue = next :: rest) (found : world.network.stream? next = some stream)
    (foundBefore : world.network.stream? peer = some before) (hung : world.network.isOver peer = false) :
    let taken := (⟨socket, some peer⟩ : Listener).acceptPeer.result world
    taken.1.2 = .ok (some stream.there) ∧ (⟨socket, some peer⟩ : Listener).Takes next stream world taken.1.1 taken.2 ∧
      ∀ id, taken.2.network.listening? id =
        if socket = id then some { listening with queue := rest } else world.network.listening? id := by
  obtain ⟨taken, streams, listenings⟩ := Network.accept_first there queue found
  have foundStill := (streams peer).trans foundBefore
  have gone := Network.gone_part foundStill (sound.network.streams foundBefore).unshut (some .both)
  intro outcome
  rw [show outcome = _ from acceptPeer_result sound taken]
  refine ⟨rfl, ⟨rfl, ?_, ?_, fun id other unknown => ?_, fun gonePeer had => ?_,
    fun lost near mate far had foundNear known there => ?_⟩, fun id => ?_⟩
  · simp [hungUp, hung, takingDeeds]
  · simp [hungUp, hung, takingLines]
  · refine (gone.stream?_apart ?_ (unknown peer before rfl foundBefore)).trans (streams id)
    exact fun same => other (congrArg some same)
  · cases had
    exact gone.socket?_eq_none
  · cases had
    exact (sound.network.accept .agent socket).ended_part ((streams peer).trans foundNear) known .both there
  · exact (gone.listening? foundStill id).trans (listenings id)

theorem takes_next (sound : world.Sound) (took : listener.Took world)
    (there : world.network.listening? listener.socket = some listening) (queue : listening.queue = next :: rest)
    (found : world.network.stream? next = some stream) (apart : listener.peer ≠ some next)
    (stranger : ∀ peer stream, listener.peer = some peer → world.network.stream? peer = some stream →
      stream.mate ≠ some next) :
    let released := listener.releaseClosedPeer.result world
    let taken := released.1.1.acceptPeer.result released.2
    taken.1.2 = .ok (some stream.there) ∧ listener.Takes next stream world taken.1.1 taken.2 ∧
      ∀ id, taken.2.network.listening? id =
        if listener.socket = id then some { listening with queue := rest } else world.network.listening? id := by
  rw [releaseClosedPeer_result]
  obtain ⟨socket, _ | peer⟩ := listener
  · obtain ⟨accepted, streams, listenings⟩ := Network.accept_first there queue found
    dsimp only
    rw [acceptPeer_result sound accepted]
    refine ⟨rfl, ⟨rfl, rfl, rfl, fun id _ _ => streams id, fun peer had => ?_, fun peer _ _ _ had => ?_⟩, listenings⟩
    all_goals cases had
  · obtain ⟨door, accepted⟩ := took peer rfl
    obtain ⟨purpose, own, remote, rfl⟩ := sound.own?_of_ledger accepted
    obtain ⟨before, foundBefore, _⟩ := Network.own?_stream own
    have different : peer ≠ next := fun same => apart (congrArg some same)
    dsimp only
    cases hung : world.network.isOver peer with
    | true =>
      rw [if_pos rfl]
      exact takes_after_hangUp sound accepted there queue found foundBefore hung different
        (stranger peer before rfl foundBefore)
    | false =>
      rw [if_neg Bool.false_ne_true]
      exact takes_in_place sound there queue found foundBefore hung

end TakesNext

end Listener
end InstrumentLink
