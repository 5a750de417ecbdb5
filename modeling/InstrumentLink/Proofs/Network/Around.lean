import InstrumentLink.Proofs.Network.Frame

/-!
Whoever holds a stream has to do with two, his own and the one at the other end. Whatever he does to his own, no other stream
goes or changes.
-/

namespace InstrumentLink
namespace Network

/-- What the holder of one stream, or of none, does to those around it: none changes but the other end. -/
def Around (own : Option SocketId) (network later : Network) : Prop :=
  ∀ ⦃id⦄, own ≠ some id → (network.stream? id).isSome →
    (∀ near stream, own = some near → network.stream? near = some stream → stream.mate ≠ some id) →
      later.stream? id = network.stream? id

namespace Around

variable {own : Option SocketId} {network middle later : Network}

theorem refl (own : Option SocketId) (network : Network) : Around own network network := fun _ _ _ _ => rfl

theorem of_none (same : ∀ {id}, (network.stream? id).isSome → later.stream? id = network.stream? id) :
    Around none network later :=
  fun _ _ there _ => same there

theorem trans_none (first : Around own network middle) (second : Around none middle later) : Around own network later := by
  intro id different there unknown
  have between := first different there unknown
  exact (second (by simp) (by rw [between]; exact there) (by simp)).trans between

theorem mapStream {id : SocketId} (f : Stream → Stream) (network : Network) :
    Around (some id) network (network.modify id (Socket.mapStream f)) := by
  intro other different _ _
  rw [stream?_mapStream, if_neg fun same => different (congrArg some same)]

theorem mapMate {id mate : SocketId} {stream : Stream} (found : network.stream? id = some stream)
    (known : stream.mate = some mate) (f : Stream → Stream) :
    Around (some id) network (network.modify mate (Socket.mapStream f)) := by
  intro other _ _ unknown
  rw [stream?_mapStream, if_neg]
  rintro rfl
  exact unknown id stream rfl found known

theorem gone {id : SocketId} {stream : Stream} (found : network.stream? id = some stream)
    (gone : network.Gone id stream later) : Around (some id) network later := by
  intro other different _ unknown
  exact gone.stream?_apart (fun same => different (congrArg some same)) (unknown id stream rfl found)

theorem receive (id : SocketId) (count : Nat) (network : Network) :
    Around (some id) network (network.receive id count).2 := by
  unfold Network.receive
  split
  · exact .mapStream _ network
  · exact .refl _ network

theorem send (id : SocketId) (bytes : List UInt8) (network : Network) :
    Around (some id) network (network.send id bytes).2 := by
  unfold Network.send
  split
  · exact .refl _ network
  next stream found =>
    split
    · exact .refl _ network
    · split
      next mate known => exact .mapMate found (Option.filter_eq_some_iff.mp known).1 _
      next => exact .mapStream _ network

end Around
end Network
end InstrumentLink
