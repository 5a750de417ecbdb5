import InstrumentLink.Proofs.Network.View
import Mathlib.Data.List.Basic

/-!
What comes of making a socket ready in steps: it stands there as it was asked for, or a step has failed, and nothing is left of
it but a number that nobody gets again.
-/

namespace InstrumentLink

namespace Registry

variable {α : Type}

theorem toList_add (registry : Registry α) (a : α) : (registry.add a).toList = registry.toList ++ [(registry.next, a)] := by
  unfold toList
  rw [next_add, List.range_succ, List.filterMap_append]
  congr 1
  · refine List.filterMap_congr fun id member => ?_
    rw [find?_add_of_lt a (List.mem_range.mp member)]
  · rw [List.filterMap_cons, find?_add_next]
    rfl

end Registry

namespace Network

variable {network later : Network}

theorem ext_socket? (routes : network.routes = later.routes) (next : network.sockets.next = later.sockets.next)
    (sockets : ∀ id, network.socket? id = later.socket? id) (lingering : network.lingering = later.lingering) :
    network = later := by
  obtain ⟨_, _, _⟩ := network
  obtain ⟨_, _, _⟩ := later
  have same := Registry.ext_find? next sockets
  simp_all

def skip (network : Network) : Network := { network with sockets := network.sockets.skip }

@[simp] theorem socket?_skip (network : Network) (id : SocketId) : network.skip.socket? id = network.socket? id :=
  network.sockets.find?_skip id

@[simp] theorem stream?_skip (network : Network) (id : SocketId) : network.skip.stream? id = network.stream? id := by
  rw [stream?_eq_bind, stream?_eq_bind, socket?_skip]

@[simp] theorem listening?_skip (network : Network) (id : SocketId) :
    network.skip.listening? id = network.listening? id := by
  rw [listening?_eq_bind, listening?_eq_bind, socket?_skip]

@[simp] theorem idle?_skip (network : Network) (id : SocketId) : network.skip.idle? id = network.idle? id := by
  rw [idle?, idle?, socket?_skip]

@[simp] theorem owner?_skip (network : Network) (id : SocketId) : network.skip.owner? id = network.owner? id := by
  rw [owner?, owner?, socket?_skip]

@[simp] theorem next_skip (network : Network) : network.skip.sockets.next = network.sockets.next + 1 :=
  network.sockets.next_skip

@[simp] theorem socket?_next (network : Network) : network.socket? network.sockets.next = none :=
  Registry.find?_of_next_le (Nat.le_refl _)

theorem modify_add_next (socket : Socket) (f : Socket → Socket) (network : Network) :
    (network.add socket).modify network.sockets.next f = network.add (f socket) := by
  rw [modify, add, add, Registry.modify_add_next]

theorem remove_add_next (socket : Socket) (network : Network) :
    (network.add socket).remove network.sockets.next = network.skip := by
  rw [remove, add, skip, Registry.remove_add_next]

def nearEnd (remote : SocketAddress) (network : Network) : Stream := network.dialled network.sockets.next remote

/-! ### Step by step -/

section Steps

variable (network : Network) (owner : Owner) (idle : Idle)

def begun : Network := network.add ⟨owner, .idle idle⟩

@[simp] theorem routes_begun : (network.begun owner idle).routes = network.routes := rfl

theorem state_begun : ((network.begun owner idle).socket? network.sockets.next).map Socket.state = some (.idle idle) := by
  rw [begun, socket?_add, if_pos rfl]
  rfl

theorem close_begun : (network.begun owner idle).close network.sockets.next = network.skip := by
  rw [close, state_begun]
  exact remove_add_next _ network

variable {owner idle} in
theorem onIdle_granted {f : Idle → Except IoError SocketState} {state : SocketState} (granted : f idle = .ok state) :
    (network.begun owner idle).onIdle network.sockets.next f = (.ok (), network.add ⟨owner, state⟩) := by
  rw [onIdle, state_begun]
  dsimp only
  rw [granted]
  exact congrArg (Prod.mk _) (modify_add_next _ _ network)

variable {owner idle} in
theorem onIdle_refused {f : Idle → Except IoError SocketState} {error : IoError} (refused : f idle = .error error) :
    (network.begun owner idle).onIdle network.sockets.next f = (.error error, network.begun owner idle) := by
  rw [onIdle, state_begun]
  dsimp only
  rw [refused]

theorem share_begun :
    share network.sockets.next (network.begun owner idle) = (.ok (), network.begun owner { idle with shares := true }) :=
  network.onIdle_granted rfl

theorem adjust_begun : adjust network.sockets.next (network.begun owner idle) = (.ok (), network.begun owner idle) := by
  rw [adjust, begun, socket?_add, if_pos rfl]
  rfl

theorem taken_begun (address : SocketAddress) (shares : Bool) :
    (network.begun owner idle).taken network.sockets.next address shares =
      network.taken network.sockets.next address shares := by
  unfold taken begun add
  rw [Registry.toList_add]
  simp

theorem bindAnyPort_begun (ip : IpAddress) :
    bindAnyPort network.sockets.next ip (network.begun owner idle) =
      match network.routes.bindFault ⟨ip, 0⟩ with
      | some error => (.error error, network.begun owner idle)
      | none => (.ok (), network.begun owner { idle with address := some ⟨ip, freshPort network.sockets.next⟩ }) := by
  cases fault : network.routes.bindFault ⟨ip, 0⟩ with
  | some error =>
    refine network.onIdle_refused ?_
    rw [routes_begun, fault]
  | none =>
    refine network.onIdle_granted ?_
    rw [routes_begun, fault]

theorem tie_begun (remote : SocketAddress) :
    tie network.sockets.next remote (network.begun owner idle) =
      match network.routes.associateFault remote with
      | some error => (.error error, network.begun owner idle)
      | none => (.ok (), network.add ⟨owner, .datagram remote⟩) := by
  cases fault : network.routes.associateFault remote with
  | some error =>
    refine network.onIdle_refused ?_
    rw [routes_begun, fault]
  | none =>
    refine network.onIdle_granted ?_
    rw [routes_begun, fault]

theorem dial_begun (remote : SocketAddress) :
    dial network.sockets.next remote (network.begun owner idle) =
      match network.routes.connectFault remote with
      | some error => (.error error, network.begun owner idle)
      | none =>
        (.ok (),
          (network.add ⟨owner, .stream (network.nearEnd remote)⟩).answer network.sockets.next) := by
  unfold dial
  cases fault : network.routes.connectFault remote with
  | some error =>
    rw [network.onIdle_refused (by rw [routes_begun, fault])]
  | none =>
    rw [network.onIdle_granted (by rw [routes_begun, fault])]
    rfl

variable {network owner idle} {address : SocketAddress}

theorem bind_of_fault {error : IoError} (fault : network.routes.bindFault address = some error) :
    bind network.sockets.next address (network.begun owner idle) = (.error error, network.begun owner idle) := by
  refine network.onIdle_refused ?_
  rw [routes_begun, fault]

theorem bind_of_taken (up : network.routes.bindFault address = none)
    (taken : network.taken network.sockets.next address idle.shares = true) :
    bind network.sockets.next address (network.begun owner idle) = (.error .addressInUse, network.begun owner idle) := by
  refine network.onIdle_refused ?_
  rw [routes_begun, up, taken_begun, taken]
  rfl

theorem bind_of_free (up : network.routes.bindFault address = none)
    (free : network.taken network.sockets.next address idle.shares = false) :
    bind network.sockets.next address (network.begun owner idle) =
      (.ok (), network.begun owner { idle with address := some address }) := by
  refine network.onIdle_granted ?_
  rw [routes_begun, up, taken_begun, free]
  rfl

theorem startListening_of_free (bound : idle.address = some address)
    (free : network.taken network.sockets.next address idle.shares = false) (backlog : Nat) :
    startListening network.sockets.next backlog (network.begun owner idle) =
      (.ok (), network.add ⟨owner, .listening ⟨address, [], backlog, idle.shares⟩⟩) := by
  refine network.onIdle_granted ?_
  rw [bound]
  dsimp only
  rw [taken_begun, free]
  rfl

theorem inTurn_cons_ok {step : Step} (rest : List Step) (done : step network = (.ok (), later)) :
    inTurn (step :: rest) network = inTurn rest later := by
  rw [inTurn, done]

theorem inTurn_cons_error {step : Step} {error : IoError} (rest : List Step)
    (failed : step network = (.error error, later)) :
    inTurn (step :: rest) network = (.error error, later) := by
  rw [inTurn, failed]

theorem inTurn_adjust (rest : List Step) :
    inTurn (adjust network.sockets.next :: rest) (network.begun owner idle) = inTurn rest (network.begun owner idle) :=
  inTurn_cons_ok rest (network.adjust_begun owner idle)

variable {steps : SocketId → List Step}

theorem make_of_ok
    (done : inTurn (steps network.sockets.next) (network.begun owner ⟨none, none, false⟩) = (.ok (), later)) :
    network.make owner steps = (.ok network.sockets.next, later) := by
  rw [make, ← begun, done]

theorem make_of_error {error : IoError}
    (failed : inTurn (steps network.sockets.next) (network.begun owner ⟨none, none, false⟩) =
      (.error error, network.begun owner idle)) :
    network.make owner steps = (.error error, network.skip) := by
  rw [make, ← begun, failed]
  exact congrArg (Prod.mk _) (network.close_begun owner idle)

end Steps

/-! ### What comes of a request -/

section Outcome

variable (network : Network) (owner : Owner)

theorem listen_eq (address : SocketAddress) (backlog : Nat) (shares : Bool) :
    network.listen owner address backlog shares =
      match network.routes.bindFault address with
      | some error => (.error error, network.skip)
      | none =>
        if network.taken network.sockets.next address shares then (.error .addressInUse, network.skip)
        else (.ok network.sockets.next, network.add ⟨owner, .listening ⟨address, [], backlog, shares⟩⟩) := by
  let id := network.sockets.next
  have begins : inTurn ((if shares then [share id] else []) ++ [adjust id, bind id address, startListening id backlog])
      (network.begun owner ⟨none, none, false⟩) =
        inTurn [bind id address, startListening id backlog] (network.begun owner ⟨none, none, shares⟩) := by
    cases shares with
    | false => exact inTurn_adjust _
    | true => exact (inTurn_cons_ok _ (network.share_begun owner _)).trans (inTurn_adjust _)
  unfold listen
  cases fault : network.routes.bindFault address with
  | some error => exact make_of_error (begins.trans (inTurn_cons_error _ (bind_of_fault fault)))
  | none =>
    cases taken : network.taken network.sockets.next address shares with
    | true => exact make_of_error (begins.trans (inTurn_cons_error _ (bind_of_taken fault taken)))
    | false =>
      refine make_of_ok (begins.trans ((inTurn_cons_ok _ (bind_of_free fault taken)).trans ?_))
      exact inTurn_cons_ok _ (startListening_of_free rfl taken backlog)

theorem connect_eq (remote : SocketAddress) :
    network.connect owner remote =
      match network.routes.connectFault remote with
      | some error => (.error error, network.skip)
      | none =>
        (.ok network.sockets.next,
          (network.add ⟨owner, .stream (network.nearEnd remote)⟩).answer network.sockets.next) := by
  let id := network.sockets.next
  have begins : inTurn [adjust id, adjust id, dial id remote] (network.begun owner ⟨none, none, false⟩) =
      inTurn [dial id remote] (network.begun owner ⟨none, none, false⟩) :=
    (inTurn_adjust _).trans (inTurn_adjust _)
  have dials := network.dial_begun owner ⟨none, none, false⟩ remote
  unfold connect
  cases fault : network.routes.connectFault remote with
  | some error =>
    rw [fault] at dials
    exact make_of_error (begins.trans (inTurn_cons_error _ dials))
  | none =>
    rw [fault] at dials
    exact make_of_ok (begins.trans (inTurn_cons_ok _ dials))

theorem associate_eq (remote : SocketAddress) :
    network.associate owner remote =
      match (network.routes.bindFault ⟨anyLike remote.ip, 0⟩).or (network.routes.associateFault remote) with
      | some error => (.error error, network.skip)
      | none => (.ok network.sockets.next, network.add ⟨owner, .datagram remote⟩) := by
  let id := network.sockets.next
  have binds := network.bindAnyPort_begun owner ⟨none, none, false⟩ (anyLike remote.ip)
  unfold associate
  cases bindFault : network.routes.bindFault ⟨anyLike remote.ip, 0⟩ with
  | some error =>
    rw [bindFault] at binds
    exact make_of_error ((inTurn_adjust _).trans (inTurn_cons_error _ binds))
  | none =>
    rw [bindFault] at binds
    have ties := network.tie_begun owner ⟨some ⟨anyLike remote.ip, freshPort id⟩, none, false⟩ remote
    cases fault : network.routes.associateFault remote with
    | some error =>
      rw [fault] at ties
      exact make_of_error ((inTurn_adjust _).trans ((inTurn_cons_ok _ binds).trans (inTurn_cons_error _ ties)))
    | none =>
      rw [fault] at ties
      exact make_of_ok ((inTurn_adjust _).trans ((inTurn_cons_ok _ binds).trans (inTurn_cons_ok _ ties)))

theorem connect_cases (remote : SocketAddress) :
    (∃ error, network.connect owner remote = (.error error, network.skip)) ∨
      network.connect owner remote =
        (.ok network.sockets.next,
          (network.add ⟨owner, .stream (network.nearEnd remote)⟩).answer network.sockets.next) := by
  rw [connect_eq]
  split
  · exact .inl ⟨_, rfl⟩
  · exact .inr rfl

end Outcome

/-- What a socket is made to be: nobody waits at it, and if it dials, its other end is not known yet. -/
inductive Fresh (network : Network) : SocketState → Prop
  | listening (address : SocketAddress) (backlog : Nat) (shares : Bool) :
    Fresh network (.listening ⟨address, [], backlog, shares⟩)
  | stream (remote : SocketAddress) : Fresh network (.stream (network.nearEnd remote))
  | datagram (remote : SocketAddress) : Fresh network (.datagram remote)

/-- What comes of making a socket: nothing is left but a number, or it stands there, and its handshake has begun if it has
one. -/
inductive Made (network : Network) (owner : Owner) (state : SocketState) : Except IoError SocketId × Network → Prop
  | refused (error : IoError) : Made network owner state (.error error, network.skip)
  | granted (fresh : network.Fresh state) :
    Made network owner state
      (.ok network.sockets.next, (network.add ⟨owner, state⟩).answer network.sockets.next)

section Made

variable {network : Network} {owner : Owner} {state : SocketState}

theorem Fresh.alone (fresh : network.Fresh state) (stream : Stream)
    (is : (⟨owner, state⟩ : Socket).stream? = some stream) : stream.mate = none := by
  cases fresh <;> cases is
  rfl

theorem Fresh.nobody (fresh : network.Fresh state) (listening : Listening)
    (is : (⟨owner, state⟩ : Socket).listening? = some listening) : listening.queue = [] := by
  cases fresh <;> cases is
  rfl

/-- The number of what is made is the next one. -/
theorem Made.next {answer : Except IoError SocketId × Network} (made : network.Made owner state answer) {id : SocketId}
    (granted : answer.1 = .ok id) : id = network.sockets.next := by
  cases made with
  | refused error => cases granted
  | granted fresh => exact (Except.ok.inj granted).symm

theorem Fresh.ready (fresh : network.Fresh state) : (⟨owner, state⟩ : Socket).idle? = none := by
  cases fresh <;> rfl

theorem answer_of_stream?_none {id : SocketId} (other : network.stream? id = none) : network.answer id = network := by
  rw [answer, other]

/-- There is no handshake but that of a stream. -/
theorem made_still (fresh : network.Fresh state) (other : ∀ stream, state ≠ .stream stream) :
    network.Made owner state (.ok network.sockets.next, network.add ⟨owner, state⟩) := by
  have none : (network.add ⟨owner, state⟩).stream? network.sockets.next = none := by
    rw [stream?_add, if_pos rfl]
    cases state with
    | stream stream => exact absurd rfl (other stream)
    | _ => rfl
  have made : network.Made owner state
      (.ok network.sockets.next, (network.add ⟨owner, state⟩).answer network.sockets.next) := .granted fresh
  rwa [answer_of_stream?_none none] at made

variable (network owner)

theorem listen_made (address : SocketAddress) (backlog : Nat) (shares : Bool) :
    network.Made owner (.listening ⟨address, [], backlog, shares⟩) (network.listen owner address backlog shares) := by
  rw [listen_eq]
  split
  · exact .refused _
  · split
    · exact .refused .addressInUse
    · exact made_still (.listening address backlog shares) (by simp)

theorem connect_made (remote : SocketAddress) :
    network.Made owner (.stream (network.nearEnd remote)) (network.connect owner remote) := by
  rcases network.connect_cases owner remote with ⟨error, refused⟩ | granted
  · rw [refused]
    exact .refused error
  · rw [granted]
    exact .granted (.stream remote)

theorem associate_made (remote : SocketAddress) :
    network.Made owner (.datagram remote) (network.associate owner remote) := by
  rw [associate_eq]
  split
  · exact .refused _
  · exact made_still (.datagram remote) (by simp)

end Made

/-- Somebody else has an address, or has left it a short while ago, and does not share it. -/
def Blocked (network : Network) (address : SocketAddress) (shares : Bool) : Prop :=
  (∃ id socket, network.socket? id = some socket ∧ socket.state.blocks address shares = true) ∨
    ∃ left ∈ network.lingering, left.blocks address shares = true

theorem taken_next_iff {address : SocketAddress} {shares : Bool} :
    network.taken network.sockets.next address shares = true ↔ network.Blocked address shares := by
  simp only [taken, Blocked, Bool.or_eq_true, List.any_eq_true, Bool.and_eq_true, decide_eq_true_eq, Prod.exists,
    Registry.mem_toList]
  refine or_congr ⟨?_, ?_⟩ Iff.rfl
  · rintro ⟨id, socket, found, _, blocks⟩
    exact ⟨id, socket, found, blocks⟩
  · rintro ⟨id, socket, found, blocks⟩
    exact ⟨id, socket, found, Nat.ne_of_lt (Registry.lt_next_of_find? found), blocks⟩

theorem blocked_skip {address : SocketAddress} {shares : Bool} :
    network.skip.Blocked address shares ↔ network.Blocked address shares := by
  simp only [Blocked, socket?_skip]
  exact Iff.rfl

end Network
end InstrumentLink
