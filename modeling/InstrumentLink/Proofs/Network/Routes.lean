import InstrumentLink.Proofs.Network.Operations

/-!
What a machine can reach stays the same, whatever is done with its sockets.
-/

namespace InstrumentLink
namespace Network

@[simp] theorem routes_answer (id : SocketId) (network : Network) : (network.answer id).routes = network.routes := by
  rcases network.answer_cases id with same | ⟨_, _, _, _, _, _, _, answered⟩
  · rw [same]
  · rw [answered]
    rfl

theorem Made.routes {network : Network} {owner : Owner} {state : SocketState}
    {answer : Except IoError SocketId × Network} (made : network.Made owner state answer) :
    answer.2.routes = network.routes := by
  cases made with
  | refused error => rfl
  | granted fresh => exact routes_answer _ _

@[simp] theorem routes_accept (owner : Owner) (listener : SocketId) (network : Network) :
    (network.accept owner listener).2.routes = network.routes := by
  unfold Network.accept
  split
  · rfl
  · split
    · rfl
    · split <;> rfl

@[simp] theorem routes_peek (id : SocketId) (network : Network) : (network.peek id).2.routes = network.routes := by
  unfold Network.peek
  split <;> rfl

@[simp] theorem routes_receive (id : SocketId) (count : Nat) (network : Network) :
    (network.receive id count).2.routes = network.routes := by
  unfold Network.receive
  split <;> rfl

@[simp] theorem routes_send (id : SocketId) (bytes : List UInt8) (network : Network) :
    (network.send id bytes).2.routes = network.routes := by
  unfold Network.send
  split
  · rfl
  · split
    · rfl
    · split <;> rfl

@[simp] theorem routes_abort (id : SocketId) (network : Network) : (network.abort id).routes = network.routes := by
  cases found : network.stream? id with
  | none => rw [abort_of_stream?_none found]
  | some stream => exact (gone_abort found).routes

theorem routes_abortAll (ids : List SocketId) (network : Network) : (network.abortAll ids).routes = network.routes := by
  induction ids generalizing network with
  | nil => rfl
  | cons id rest ih => exact (ih (network.abort id)).trans (routes_abort id network)

theorem routes_tellMate (stream : Stream) (f : Stream → Stream) (network : Network) :
    (network.tellMate stream f).routes = network.routes := by
  unfold tellMate
  split <;> rfl

@[simp] theorem routes_shutdown (id : SocketId) (ways : Ways) (network : Network) :
    (network.shutdown id ways).routes = network.routes := by
  unfold shutdown
  split
  · rfl
  · split
    · rfl
    · dsimp only
      split
      · rfl
      · exact routes_tellMate ..
    · rfl

@[simp] theorem routes_close (id : SocketId) (network : Network) : (network.close id).routes = network.routes := by
  unfold close
  split
  · rfl
  · dsimp only
    split
    · exact routes_tellMate ..
    · split
      · rfl
      · exact routes_tellMate ..
  · exact routes_abortAll _ _
  · rfl
  · rfl

@[simp] theorem routes_part (ways : Option Ways) (id : SocketId) (network : Network) :
    (network.part ways id).routes = network.routes := by
  cases ways with
  | none => exact routes_close id network
  | some ways => exact (routes_close id _).trans (routes_shutdown id ways network)

@[simp] theorem routes_fault (listener : SocketId) (error : IoError) (network : Network) :
    (network.fault listener error).routes = network.routes := by
  unfold fault
  split
  · rfl
  · exact routes_abortAll _ _

theorem routes_outside {f : Network → Network} (same : ∀ network, (f network).routes = network.routes)
    (id : SocketId) (network : Network) : (network.outside id f).routes = network.routes := by
  unfold outside
  split
  · exact same network
  · rfl

@[simp] theorem routes_event (event : Event) (network : Network) :
    (event.onNetwork network).routes = network.routes := by
  cases event with
  | serve address backlog shares => exact (network.listen_made .outside address backlog shares).routes
  | dial remote => exact (network.connect_made .outside remote).routes
  | take server => exact routes_outside (routes_accept .outside server) server network
  | send id bytes => exact routes_outside (routes_send id bytes) id network
  | receive id count => exact routes_outside (routes_receive id count) id network
  | close id => exact routes_outside (routes_close id) id network
  | reset id => exact routes_outside (routes_abort id) id network
  | answer id => exact network.routes_answer id
  | refuse id error => rfl
  | refuseIdle => rfl
  | fault listener error => exact network.routes_fault listener error
  | expire id => rfl
  | plug _ | unplug _ | deviceSend _ _ | deviceReceive _ _ => rfl

end Network
end InstrumentLink
