import InstrumentLink.Proofs.Network.Operations

/-!
Which sockets are the agent's, and what each was made for. Nothing but the agent's own opening, taking and closing
changes that: `own?_event` says so of events, and each operation has an equation of its own.
-/

namespace InstrumentLink

inductive Purpose where
  | listening (address : SocketAddress)
  | stream (remote : SocketAddress)
  | datagram (remote : SocketAddress)
  | line (path : String) (baudRate : UInt32)
  /-- A socket that is bound to nothing yet. -/
  | unused
  deriving DecidableEq, Repr

/-- A listener that is broken keeps its address. -/
def SocketState.purpose : SocketState → Purpose
  | .listening held => .listening held.address
  | .stream held => .stream held.there
  | .datagram remote => .datagram remote
  | .idle held => (held.address.map .listening).getD .unused

def Socket.own? (socket : Socket) : Option Purpose :=
  if socket.owner = .agent then some socket.state.purpose else none

namespace Stream

@[simp] theorem afterPeek_there (stream : Stream) : stream.afterPeek.there = stream.there := by
  rcases stream.afterPeek_cases with same | ⟨changed, _⟩ <;> simp [*]

@[simp] theorem afterReceive_there (count : Nat) (stream : Stream) :
    (stream.afterReceive count).there = stream.there := by
  unfold Stream.afterReceive
  split <;> simp

end Stream

namespace Network

def own? (network : Network) (id : SocketId) : Option Purpose := (network.socket? id).bind Socket.own?

theorem own?_of_owner? {network : Network} {id : SocketId} (owned : network.owner? id ≠ some .agent) :
    network.own? id = none := by
  unfold own?
  unfold owner? at owned
  cases found : network.socket? id with
  | none => rfl
  | some socket =>
    rw [found] at owned
    have other : socket.owner ≠ .agent := by simpa using owned
    simp [Socket.own?, other]

theorem owner?_of_own? {network : Network} {id : SocketId} {purpose : Purpose}
    (own : network.own? id = some purpose) : network.owner? id = some .agent := by
  by_cases owned : network.owner? id = some .agent
  · exact owned
  · rw [own?_of_owner? owned] at own
    cases own

theorem own?_skip (network : Network) (id : SocketId) : network.skip.own? id = network.own? id := by
  rw [own?, own?, socket?_skip]

theorem own?_mapLingering (f : List Lingering → List Lingering) (network : Network) (id : SocketId) :
    (network.mapLingering f).own? id = network.own? id := rfl

@[simp] theorem own?_next (network : Network) : network.own? network.sockets.next = none := by
  unfold own? socket?
  rw [Registry.find?_of_next_le (Nat.le_refl _)]
  rfl

theorem own?_add (socket : Socket) (network : Network) (id : SocketId) :
    (network.add socket).own? id = if id = network.sockets.next then socket.own? else network.own? id := by
  unfold own?
  rw [socket?_add]
  split <;> rfl

theorem own?_add_other {socket : Socket} (other : socket.owner ≠ .agent) (network : Network) (id : SocketId) :
    (network.add socket).own? id = network.own? id := by
  rw [own?_add]
  split
  next new => rw [new, own?_next, Socket.own?, if_neg other]
  next => rfl

theorem own?_remove (id : SocketId) (network : Network) (other : SocketId) :
    (network.remove id).own? other = if id = other then none else network.own? other := by
  unfold own?
  rw [socket?_remove]
  split <;> rfl

theorem own?_modify {f : Socket → Socket} (same : ∀ socket, (f socket).own? = socket.own?) (network : Network)
    (id other : SocketId) : (network.modify id f).own? other = network.own? other := by
  unfold own?
  rw [socket?_modify]
  split
  · cases network.socket? other with
    | none => rfl
    | some socket => exact same socket
  · rfl

theorem own?_mapStream {f : Stream → Stream} (same : ∀ stream, (f stream).there = stream.there) (network : Network)
    (id other : SocketId) : (network.modify id (Socket.mapStream f)).own? other = network.own? other := by
  refine own?_modify (fun socket => ?_) network id other
  rcases socket with ⟨owner, _ | _ | _ | _⟩
  · simp [Socket.own?, Socket.mapStream, SocketState.purpose, same]
  · rfl
  · rfl
  · rfl

theorem own?_mapListening {f : Listening → Listening} (same : ∀ listening, (f listening).address = listening.address)
    (network : Network) (id other : SocketId) :
    (network.modify id (Socket.mapListening f)).own? other = network.own? other := by
  refine own?_modify (fun socket => ?_) network id other
  rcases socket with ⟨owner, _ | _ | _ | _⟩
  · rfl
  · simp [Socket.own?, Socket.mapListening, SocketState.purpose, same]
  · rfl
  · rfl

theorem own?_mapIdle {f : Idle → Idle} (same : ∀ idle, (f idle).address = idle.address) (network : Network)
    (id other : SocketId) : (network.modify id (Socket.mapIdle f)).own? other = network.own? other := by
  refine own?_modify (fun socket => ?_) network id other
  rcases socket with ⟨owner, _ | _ | _ | _⟩
  · rfl
  · rfl
  · rfl
  · simp [Socket.own?, Socket.mapIdle, SocketState.purpose, same]

theorem own?_setOwner (network : Network) (id : SocketId) (owner : Owner) (other : SocketId) :
    (network.modify id fun socket => { socket with owner }).own? other =
      if id = other then (network.socket? other).bind fun socket => Socket.own? { socket with owner }
      else network.own? other := by
  unfold own?
  rw [socket?_modify]
  split
  · cases network.socket? other <;> rfl
  · rfl

theorem own?_answer (id : SocketId) (network : Network) (other : SocketId) :
    (network.answer id).own? other = network.own? other := by
  rcases network.answer_cases id with same | ⟨stream, listener, listening, _, _, _, _, answered⟩
  · rw [same]
  · rw [answered, Network.answered, own?_mapListening, own?_mapStream]
    · exact own?_add_other (by simp) network other
    · exact fun _ => rfl
    · exact fun _ => rfl

@[simp] theorem own?_peek (network : Network) (id other : SocketId) :
    (network.peek id).2.own? other = network.own? other := by
  unfold Network.peek
  split
  · exact own?_mapStream Stream.afterPeek_there network id other
  · rfl

@[simp] theorem own?_receive (network : Network) (id : SocketId) (count : Nat) (other : SocketId) :
    (network.receive id count).2.own? other = network.own? other := by
  unfold Network.receive
  split
  · exact own?_mapStream (Stream.afterReceive_there count) network id other
  · rfl

@[simp] theorem own?_send (network : Network) (id : SocketId) (bytes : List UInt8) (other : SocketId) :
    (network.send id bytes).2.own? other = network.own? other := by
  unfold Network.send
  split
  · rfl
  · split
    · rfl
    · split
      · exact own?_mapStream (by intro _; rfl) network _ other
      · exact own?_mapStream (by intro _; rfl) network _ other

theorem own?_setIdle {network : Network} {listener : SocketId} {listening : Listening}
    (there : network.listening? listener = some listening) (error : Option IoError) (shares : Bool) (other : SocketId) :
    (network.modify listener fun socket => { socket with state := .idle ⟨some listening.address, error, shares⟩ }).own? other =
      network.own? other := by
  unfold own?
  rw [socket?_modify]
  split
  next same =>
    rw [listening?_eq_bind, same] at there
    obtain ⟨socket, found, shown⟩ := Option.bind_eq_some_iff.mp there
    rcases socket with ⟨owner, _ | _ | _ | _⟩ <;> cases shown
    rw [found]
    rfl
  next => rfl

theorem Gone.own? {network later : Network} {id : SocketId} {stream : Stream} (gone : network.Gone id stream later)
    (other : SocketId) : later.own? other = if id = other then none else network.own? other := by
  obtain ⟨f, g, parted, rfl⟩ := gone
  rw [own?_mapLingering, tellMate]
  cases stream.mate with
  | none => exact own?_remove id network other
  | some mate => rw [own?_mapStream parted.there, own?_remove]

theorem own?_abort {network : Network} {id : SocketId} (notOwn : network.own? id = none) (other : SocketId) :
    (network.abort id).own? other = network.own? other := by
  cases found : network.stream? id with
  | none => rw [abort_of_stream?_none found]
  | some stream =>
    rw [(gone_abort found).own?]
    split
    next same => rw [← same, notOwn]
    next => rfl

theorem own?_abortAll {network : Network} {ids : List SocketId} (notOwn : ∀ id ∈ ids, network.own? id = none)
    (other : SocketId) : (network.abortAll ids).own? other = network.own? other := by
  induction ids generalizing network with
  | nil => rfl
  | cons id rest ih =>
    have first : ∀ number, (network.abort id).own? number = network.own? number :=
      own?_abort (notOwn id List.mem_cons_self)
    have later : ∀ number ∈ rest, (network.abort id).own? number = none := by
      intro number member
      rw [first]
      exact notOwn number (List.mem_cons_of_mem _ member)
    exact (ih later).trans (first other)

theorem Sound.own?_waiting {network : Network} (sound : network.Sound) {listener id : SocketId} {listening : Listening}
    (there : network.listening? listener = some listening) (waits : id ∈ listening.queue) : network.own? id = none :=
  own?_of_owner? (by rw [(sound.queued there waits).1]; simp)

theorem own?_part {network : Network} (sound : network.Sound) (ways : Option Ways) (id other : SocketId) :
    (network.part ways id).own? other = if id = other then none else network.own? other := by
  cases found : network.stream? id with
  | some stream => exact (gone_part found (sound.streams found).unshut ways).own? other
  | none =>
    rw [part_of_stream?_none found]
    rcases network.close_cases id with ⟨stream, there⟩ | ⟨listening, there, closed⟩ | closed
    · rw [there] at found
      cases found
    · rw [closed, own?_abortAll, own?_remove]
      intro waiting waits
      rw [own?_remove, sound.own?_waiting there waits, ite_self]
    · rw [closed, own?_remove]

theorem own?_close {network : Network} (sound : network.Sound) (id other : SocketId) :
    (network.close id).own? other = if id = other then none else network.own? other :=
  own?_part sound none id other

theorem own?_fault {network : Network} (sound : network.Sound) (listener : SocketId) (error : IoError) (other : SocketId) :
    (network.fault listener error).own? other = network.own? other := by
  unfold Network.fault
  split
  · rfl
  next listening there =>
    rw [own?_abortAll, own?_setIdle there]
    intro id waits
    rw [own?_setIdle there, sound.own?_waiting there waits]

theorem own?_outside {network : Network} {id : SocketId} (f : Network → Network) {other : SocketId}
    (same : network.own? id = none → (f network).own? other = network.own? other) :
    (network.outside id f).own? other = network.own? other := by
  unfold Network.outside
  split
  next owned =>
    refine same (own?_of_owner? ?_)
    unfold owner?
    cases found : network.socket? id with
    | none => simp
    | some socket =>
      rw [found] at owned
      have outside : socket.owner = .outside := by simpa using owned
      simp [outside]
  next => rfl

theorem own?_accept_outside {network : Network} (sound : network.Sound) (listener other : SocketId) :
    (network.accept .outside listener).2.own? other = network.own? other := by
  unfold Network.accept
  split
  · rfl
  next listening there =>
    split
    · rfl
    next id rest queue =>
      split
      · rfl
      · rw [own?_mapListening, own?_setOwner]
        · split
          next same =>
            have waits : id ∈ listening.queue := by rw [queue]; exact List.mem_cons_self
            have queued := (sound.queued there waits).1
            rw [own?_of_owner? (by rw [← same, queued]; simp)]
            cases network.socket? other <;> rfl
          next => rfl
        · exact fun _ => rfl

theorem own?_made {network : Network} {owner : Owner} {state : SocketState} {answer : Except IoError SocketId × Network}
    (made : network.Made owner state answer) (other : owner ≠ .agent) (id : SocketId) :
    answer.2.own? id = network.own? id := by
  cases made with
  | refused error => exact own?_skip network id
  | granted fresh => exact (own?_answer _ _ id).trans (own?_add_other other network id)

theorem own?_event {network : Network} (sound : network.Sound) (event : Event) (other : SocketId) :
    (event.onNetwork network).own? other = network.own? other := by
  cases event with
  | serve address backlog shares => exact own?_made (network.listen_made .outside address backlog shares) (by simp) other
  | dial remote => exact own?_made (network.connect_made .outside remote) (by simp) other
  | take server =>
    exact own?_outside (fun network => (network.accept .outside server).2) fun _ => own?_accept_outside sound ..
  | send id bytes =>
    exact own?_outside (fun network => (network.send id bytes).2) fun _ => own?_send network id bytes other
  | receive id count =>
    exact own?_outside (fun network => (network.receive id count).2) fun _ => own?_receive network id count other
  | close id =>
    refine own?_outside (Network.close id) fun notOwn => ?_
    rw [own?_close sound]
    split
    next same => rw [← same, notOwn]
    next => rfl
  | reset id => exact own?_outside (Network.abort id) fun notOwn => own?_abort notOwn other
  | answer id => exact own?_answer id network other
  | refuse id error => exact own?_mapStream (by intro _; split <;> rfl) network id other
  | refuseIdle =>
    unfold own?
    dsimp only [Event.onNetwork, refuseIdle, socket?]
    rw [Registry.find?_map]
    rcases network.sockets.find? other with _ | ⟨owner, _ | _ | _ | _⟩
    · rfl
    · simp only [Option.map_some, Option.bind_some, Socket.own?, Socket.mapStream, SocketState.purpose]
      split
      · split <;> rfl
      · rfl
    · rfl
    · rfl
    · rfl
  | fault listener error => exact own?_fault sound listener error other
  | expire id => rfl
  | plug _ | unplug _ | deviceSend _ _ | deviceReceive _ _ => rfl

end Network
end InstrumentLink
