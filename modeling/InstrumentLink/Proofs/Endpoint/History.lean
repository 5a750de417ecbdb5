import InstrumentLink.Proofs.Endpoint.Fault
import InstrumentLink.Proofs.History

/-!
Histories of an endpoint: it is new in a world that no agent has touched, or an agent has brought it to where it is, and
then anything is done with it by itself and anything happens around it, in any order. `perform_swap` says that each move
leaves it fitting, and so does every history.
-/

namespace InstrumentLink
namespace Endpoint

/-- What can be done with an endpoint, and what can happen around it. What is about a peer concerns listeners alone. -/
inductive Move (transport : Transport) where
  | change (target : transport.Target)
  | establish
  | disconnect
  | askConnected
  | lend
  /-- Somebody reads from what the endpoint lends out. -/
  | read (count : Nat)
  | write (bytes : List UInt8)
  | askPeer
  | acceptPeer
  | releasePeer
  | dropPeer
  /-- Something happens outside. -/
  | event (event : Event)

def onListener (act : Listener → Act Listener) :
    {transport : Transport} → Endpoint transport → Act (Endpoint transport)
  | .listener, ⟨target, some listener⟩ => do
    let listener ← act listener
    return ⟨target, some listener⟩
  | _, endpoint => return endpoint

variable {transport : Transport}

def perform (move : Move transport) (endpoint : Endpoint transport) : Act (Endpoint transport) :=
  match move with
  | .change target => endpoint.change target
  | .establish => do
    let (endpoint, _) ← endpoint.establish
    return endpoint
  | .disconnect => endpoint.disconnect
  | .askConnected => do
    let _ ← endpoint.isConnected
    return endpoint
  | .lend => do
    let _ ← endpoint.lend
    return endpoint
  | .read count => do
    match ← endpoint.lend with
    | none => return endpoint
    | some channel =>
      let _ ← channel.read count
      return endpoint
  | .write bytes => do
    match ← endpoint.lend with
    | none => return endpoint
    | some channel =>
      let _ ← channel.write bytes
      return endpoint
  | .askPeer => endpoint.onListener fun listener => do
    let _ ← listener.livePeer?
    return listener
  | .acceptPeer => endpoint.onListener fun listener => do
    let (listener, _) ← listener.acceptPeer
    return listener
  | .releasePeer => endpoint.onListener fun listener => do
    let (listener, _) ← listener.releaseClosedPeer
    return listener
  | .dropPeer => endpoint.onListener Listener.dropPeer
  | .event event => do
    modify (·.after event)
    return endpoint

def performAll (moves : List (Move transport)) (endpoint : Endpoint transport) : Act (Endpoint transport) :=
  moves.foldlM (fun endpoint move => endpoint.perform move) endpoint

/-- An endpoint and the world it is in, as they can be after some history. -/
inductive Reached : {transport : Transport} → Endpoint transport → World → Prop where
  | new {transport : Transport} {world : World} (untouched : world.Untouched) :
    Reached (.ofTarget transport.unset : Endpoint transport) world
  | within {agent : Agent} {world : World} (reached : Reachable agent world) {transport : Transport}
      {endpoint : Endpoint transport} (member : ⟨transport, endpoint⟩ ∈ agent.connection.endpoints) :
    Reached endpoint world
  | step {transport : Transport} {endpoint : Endpoint transport} {world : World} (reached : Reached endpoint world)
      (move : Move transport) :
    Reached ((endpoint.perform move).result world).1 ((endpoint.perform move).result world).2

variable {endpoint : Endpoint transport} {world : World}

theorem Reached.performAll (reached : endpoint.Reached world) (moves : List (Move transport)) :
    ((endpoint.performAll moves).result world).1.Reached ((endpoint.performAll moves).result world).2 := by
  induction moves generalizing endpoint world with
  | nil => exact reached
  | cons move rest ih => exact ih (reached.step move)

theorem world_lend (sound : world.Sound) (endpoint : Endpoint transport) : (endpoint.lend.result world).2 = world := by
  unfold lend
  split
  · rfl
  next handle _ =>
    split
    · rw [Act.result_bind, Transport.isUsable_result sound.network]
      rfl
    · rfl

theorem onListener_of_listener (act : Listener → Act Listener) (target : HostPort) (listener : Listener)
    (world : World) :
    ((ofListener target listener).onListener act).result world =
      (ofListener target ((act listener).result world).1, ((act listener).result world).2) := rfl

theorem onListener_cases (act : Listener → Act Listener) (endpoint : Endpoint transport) :
    (∃ handle, endpoint.handle = some handle ∧ transport = .listener) ∨
      ∀ world, (endpoint.onListener act).result world = (endpoint, world) := by
  obtain ⟨target, _ | handle⟩ := endpoint
  · refine .inr fun world => ?_
    cases transport <;> rfl
  · cases transport with
    | listener => exact .inl ⟨handle, rfl, rfl⟩
    | client | udp | serial => exact .inr fun world => rfl

theorem onListener_swap (sound : world.Sound) (fits : endpoint.Fits world) {act : Listener → Act Listener}
    (handover : ∀ {listener : Listener}, listener.Holds world →
      Listener.PeerHandover listener ((act listener).result world).1 world ((act listener).result world).2) :
    Swap endpoint ((endpoint.onListener act).result world).1 world ((endpoint.onListener act).result world).2 := by
  rcases endpoint.onListener_cases act with ⟨listener, held, rfl⟩ | idle
  · obtain ⟨target, _⟩ := endpoint
    cases held
    exact swap_of_peerHandover (handover (holds_of_fits fits)) fits
  · rw [idle]
    exact .of_kept (.refl sound) fits

theorem perform_swap (sound : world.Sound) (fits : endpoint.Fits world) (move : Move transport) :
    Swap endpoint ((endpoint.perform move).result world).1 world ((endpoint.perform move).result world).2 := by
  cases move with
  | change target => exact (change_handover sound fits target).swap fits
  | establish => exact (establish_handover sound fits).swap fits
  | disconnect => exact (disconnect_handover sound fits).swap fits
  | askConnected =>
    have asked : (endpoint.perform .askConnected).result world =
        (endpoint, (endpoint.isConnected.result world).2) := rfl
    rw [asked, isConnected_result sound.network]
    exact .of_kept (.refl sound) fits
  | lend =>
    have asked : (endpoint.perform .lend).result world = (endpoint, (endpoint.lend.result world).2) := rfl
    rw [asked, world_lend sound]
    exact .of_kept (.refl sound) fits
  | read count =>
    rw [perform, Act.result_bind, world_lend sound]
    split
    · exact .of_kept (.refl sound) fits
    next channel _ => exact .of_kept (channel.read_kept sound count) fits
  | write bytes =>
    rw [perform, Act.result_bind, world_lend sound]
    split
    · exact .of_kept (.refl sound) fits
    next channel _ => exact .of_kept (channel.write_kept sound bytes) fits
  | askPeer => exact onListener_swap sound fits fun _ => .of_kept (Listener.livePeer?_kept sound _) _
  | acceptPeer => exact onListener_swap sound fits fun holds => Listener.acceptPeer_handover sound holds
  | releasePeer => exact onListener_swap sound fits fun holds => Listener.releaseClosedPeer_handover sound holds
  | dropPeer => exact onListener_swap sound fits fun holds => Listener.dropPeer_handover sound holds
  | event event => exact .of_kept (World.kept_after sound event) fits

theorem Reached.inOrder (reached : endpoint.Reached world) : world.Sound ∧ endpoint.Fits world := by
  induction reached with
  | new untouched => exact ⟨untouched.sound, fits_of_handle_eq_none rfl _⟩
  | within reached member =>
    have order := inOrder_of_reachable reached
    exact ⟨order.sound, order.fits member⟩
  | step _ move order =>
    have swap := perform_swap order.1 order.2 move
    exact ⟨swap.sound, swap.fits⟩

end Endpoint
end InstrumentLink
