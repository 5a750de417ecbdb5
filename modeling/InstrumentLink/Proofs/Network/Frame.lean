import InstrumentLink.Proofs.Request

/-!
What opening a connection and closing a dead one leave alone: every other stream, and what listens where.
-/

namespace InstrumentLink
namespace Network

theorem Sound.mate_gone {network : Network} (sound : network.Sound) {id : SocketId} {stream : Stream}
    (found : network.stream? id = some stream) (down : ¬stream.IsUp) {mate : SocketId}
    (known : stream.mate = some mate) : network.stream? mate = none := by
  cases there : network.stream? mate with
  | none => rfl
  | some other => exact absurd (sound.mates found known there).1 down

theorem Gone.stream?_down {network later : Network} (sound : network.Sound) {id : SocketId} {stream : Stream}
    (gone : network.Gone id stream later) (found : network.stream? id = some stream) (down : ¬stream.IsUp)
    (other : SocketId) : later.stream? other = if id = other then none else network.stream? other := by
  obtain ⟨f, parted, shown⟩ := gone.stream?
  rw [shown]
  split
  · rfl
  · split
    next known => rw [sound.mate_gone found down known, Option.map_none]
    next => rfl

theorem stream?_made {network : Network} {owner : Owner} {state : SocketState}
    {answer : Except IoError SocketId × Network} (made : network.Made owner state answer) {other : SocketId}
    (there : (network.stream? other).isSome) : answer.2.stream? other = network.stream? other := by
  obtain ⟨stream, found⟩ := Option.isSome_iff_exists.mp there
  have old : other < network.sockets.next := lt_next_of_stream? found
  cases made with
  | refused error => exact network.stream?_skip other
  | granted fresh =>
    have added : (network.add ⟨owner, state⟩).stream? other = network.stream? other := by
      rw [stream?_add, if_neg (Nat.ne_of_lt old)]
    dsimp only
    rcases answer_cases network.sockets.next (network.add ⟨owner, state⟩) with
      same | ⟨_, listener, _, near, _, _, _, answered⟩
    · rw [same, added]
    · rw [answered, stream?_answered near, next_add, if_neg (Nat.ne_of_lt (Nat.lt_succ_of_lt old)),
        if_neg (Nat.ne_of_lt old), added]

end Network
end InstrumentLink
