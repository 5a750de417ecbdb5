import InstrumentLink.Network.Operations

/-!
What a network shows under a number: a stream, a listening socket, whom it belongs to. Each has one equation for each
way to change a network.
-/

namespace InstrumentLink

namespace Socket

def stream? (socket : Socket) : Option Stream :=
  match socket.state with
  | .stream stream => some stream
  | _ => none

def listening? (socket : Socket) : Option Listening :=
  match socket.state with
  | .listening listening => some listening
  | _ => none

def idle? (socket : Socket) : Option Idle :=
  match socket.state with
  | .idle idle => some idle
  | _ => none

end Socket

namespace Network

def idle? (network : Network) (id : SocketId) : Option Idle := (network.socket? id).bind Socket.idle?

def owner? (network : Network) (id : SocketId) : Option Owner := (network.socket? id).map Socket.owner

theorem stream?_eq_bind (network : Network) (id : SocketId) :
    network.stream? id = (network.socket? id).bind Socket.stream? := by
  unfold stream?
  rcases network.socket? id with _ | ⟨owner, _ | _ | _ | _⟩ <;> rfl

theorem listening?_eq_bind (network : Network) (id : SocketId) :
    network.listening? id = (network.socket? id).bind Socket.listening? := by
  unfold listening?
  rcases network.socket? id with _ | ⟨owner, _ | _ | _ | _⟩ <;> rfl

theorem socket?_add (socket : Socket) (network : Network) (id : SocketId) :
    (network.add socket).socket? id = if id = network.sockets.next then some socket else network.socket? id :=
  network.sockets.find?_add socket id

theorem socket?_modify (id : SocketId) (f : Socket → Socket) (network : Network) (other : SocketId) :
    (network.modify id f).socket? other =
      if id = other then (network.socket? other).map f else network.socket? other :=
  network.sockets.find?_modify id f other

theorem socket?_remove (id : SocketId) (network : Network) (other : SocketId) :
    (network.remove id).socket? other = if id = other then none else network.socket? other :=
  network.sockets.find?_remove id other

@[simp] theorem next_add (socket : Socket) (network : Network) :
    (network.add socket).sockets.next = network.sockets.next + 1 :=
  network.sockets.next_add socket

@[simp] theorem next_modify (id : SocketId) (f : Socket → Socket) (network : Network) :
    (network.modify id f).sockets.next = network.sockets.next :=
  network.sockets.next_modify id f

@[simp] theorem next_remove (id : SocketId) (network : Network) :
    (network.remove id).sockets.next = network.sockets.next :=
  network.sockets.next_remove id

theorem lt_next_of_stream? {network : Network} {id : SocketId} {stream : Stream}
    (found : network.stream? id = some stream) : id < network.sockets.next := by
  rw [stream?_eq_bind, Option.bind_eq_some_iff] at found
  obtain ⟨socket, there, _⟩ := found
  exact Registry.lt_next_of_find? there

@[simp] theorem listening?_next (network : Network) : network.listening? network.sockets.next = none := by
  rw [listening?_eq_bind]
  unfold socket?
  rw [Registry.find?_of_next_le (Nat.le_refl _)]
  rfl

theorem stream?_add (socket : Socket) (network : Network) (id : SocketId) :
    (network.add socket).stream? id = if id = network.sockets.next then socket.stream? else network.stream? id := by
  simp only [stream?_eq_bind, socket?_add]
  split <;> rfl

theorem listening?_add (socket : Socket) (network : Network) (id : SocketId) :
    (network.add socket).listening? id =
      if id = network.sockets.next then socket.listening? else network.listening? id := by
  simp only [listening?_eq_bind, socket?_add]
  split <;> rfl

theorem owner?_add (socket : Socket) (network : Network) (id : SocketId) :
    (network.add socket).owner? id =
      if id = network.sockets.next then some socket.owner else network.owner? id := by
  simp only [owner?, socket?_add]
  split <;> rfl

theorem stream?_mapStream (network : Network) (id : SocketId) (f : Stream → Stream) (other : SocketId) :
    (network.modify id (Socket.mapStream f)).stream? other =
      if id = other then (network.stream? other).map f else network.stream? other := by
  simp only [stream?_eq_bind, socket?_modify]
  split
  · rcases network.socket? other with _ | ⟨owner, _ | _ | _ | _⟩ <;> rfl
  · rfl

@[simp] theorem listening?_mapStream (network : Network) (id : SocketId) (f : Stream → Stream) (other : SocketId) :
    (network.modify id (Socket.mapStream f)).listening? other = network.listening? other := by
  simp only [listening?_eq_bind, socket?_modify]
  split
  · rcases network.socket? other with _ | ⟨owner, _ | _ | _ | _⟩ <;> rfl
  · rfl

@[simp] theorem owner?_mapStream (network : Network) (id : SocketId) (f : Stream → Stream) (other : SocketId) :
    (network.modify id (Socket.mapStream f)).owner? other = network.owner? other := by
  simp only [owner?, socket?_modify]
  split
  · rcases network.socket? other with _ | ⟨owner, _ | _ | _ | _⟩ <;> rfl
  · rfl

@[simp] theorem stream?_mapListening (network : Network) (id : SocketId) (f : Listening → Listening)
    (other : SocketId) :
    (network.modify id (Socket.mapListening f)).stream? other = network.stream? other := by
  simp only [stream?_eq_bind, socket?_modify]
  split
  · rcases network.socket? other with _ | ⟨owner, _ | _ | _ | _⟩ <;> rfl
  · rfl

theorem listening?_mapListening (network : Network) (id : SocketId) (f : Listening → Listening) (other : SocketId) :
    (network.modify id (Socket.mapListening f)).listening? other =
      if id = other then (network.listening? other).map f else network.listening? other := by
  simp only [listening?_eq_bind, socket?_modify]
  split
  · rcases network.socket? other with _ | ⟨owner, _ | _ | _ | _⟩ <;> rfl
  · rfl

@[simp] theorem owner?_mapListening (network : Network) (id : SocketId) (f : Listening → Listening)
    (other : SocketId) :
    (network.modify id (Socket.mapListening f)).owner? other = network.owner? other := by
  simp only [owner?, socket?_modify]
  split
  · rcases network.socket? other with _ | ⟨owner, _ | _ | _ | _⟩ <;> rfl
  · rfl

@[simp] theorem stream?_setOwner (network : Network) (id : SocketId) (owner : Owner) (other : SocketId) :
    (network.modify id fun socket => { socket with owner }).stream? other = network.stream? other := by
  simp only [stream?_eq_bind, socket?_modify]
  split
  · rcases network.socket? other with _ | ⟨owner, _ | _ | _ | _⟩ <;> rfl
  · rfl

@[simp] theorem listening?_setOwner (network : Network) (id : SocketId) (owner : Owner) (other : SocketId) :
    (network.modify id fun socket => { socket with owner }).listening? other = network.listening? other := by
  simp only [listening?_eq_bind, socket?_modify]
  split
  · rcases network.socket? other with _ | ⟨owner, _ | _ | _ | _⟩ <;> rfl
  · rfl

theorem owner?_setOwner (network : Network) (id : SocketId) (owner : Owner) (other : SocketId) :
    (network.modify id fun socket => { socket with owner }).owner? other =
      if id = other then (network.owner? other).map fun _ => owner else network.owner? other := by
  simp only [owner?, socket?_modify]
  split
  · rcases network.socket? other with _ | socket <;> rfl
  · rfl

@[simp] theorem stream?_mapIdle (network : Network) (id : SocketId) (f : Idle → Idle) (other : SocketId) :
    (network.modify id (Socket.mapIdle f)).stream? other = network.stream? other := by
  simp only [stream?_eq_bind, socket?_modify]
  split
  · rcases network.socket? other with _ | ⟨owner, _ | _ | _ | _⟩ <;> rfl
  · rfl

@[simp] theorem listening?_mapIdle (network : Network) (id : SocketId) (f : Idle → Idle) (other : SocketId) :
    (network.modify id (Socket.mapIdle f)).listening? other = network.listening? other := by
  simp only [listening?_eq_bind, socket?_modify]
  split
  · rcases network.socket? other with _ | ⟨owner, _ | _ | _ | _⟩ <;> rfl
  · rfl

@[simp] theorem owner?_mapIdle (network : Network) (id : SocketId) (f : Idle → Idle) (other : SocketId) :
    (network.modify id (Socket.mapIdle f)).owner? other = network.owner? other := by
  simp only [owner?, socket?_modify]
  split
  · rcases network.socket? other with _ | ⟨owner, _ | _ | _ | _⟩ <;> rfl
  · rfl

theorem stream?_of_state {network : Network} {id : SocketId} {stream : Stream}
    (state : (network.socket? id).map Socket.state = some (.stream stream)) : network.stream? id = some stream := by
  obtain ⟨socket, found, shown⟩ := Option.map_eq_some_iff.mp state
  rw [stream?_eq_bind, found]
  simp [Socket.stream?, shown]

theorem listening?_of_state {network : Network} {id : SocketId} {listening : Listening}
    (state : (network.socket? id).map Socket.state = some (.listening listening)) :
    network.listening? id = some listening := by
  obtain ⟨socket, found, shown⟩ := Option.map_eq_some_iff.mp state
  rw [listening?_eq_bind, found]
  simp [Socket.listening?, shown]

theorem stream?_of_listening? {network : Network} {id : SocketId} {listening : Listening}
    (found : network.listening? id = some listening) : network.stream? id = none := by
  rw [listening?_eq_bind] at found
  rw [stream?_eq_bind]
  rcases there : network.socket? id with _ | ⟨owner, _ | _ | _ | _⟩
  · rfl
  · rw [there] at found
    cases found
  · rfl
  · rfl
  · rfl

theorem stream?_remove (id : SocketId) (network : Network) (other : SocketId) :
    (network.remove id).stream? other = if id = other then none else network.stream? other := by
  simp only [stream?_eq_bind, socket?_remove]
  split <;> rfl

theorem listening?_remove (id : SocketId) (network : Network) (other : SocketId) :
    (network.remove id).listening? other = if id = other then none else network.listening? other := by
  simp only [listening?_eq_bind, socket?_remove]
  split <;> rfl

theorem owner?_remove (id : SocketId) (network : Network) (other : SocketId) :
    (network.remove id).owner? other = if id = other then none else network.owner? other := by
  simp only [owner?, socket?_remove]
  split <;> rfl

/-! What lingers is no socket. -/

@[simp] theorem socket?_mapLingering (f : List Lingering → List Lingering) (network : Network) (id : SocketId) :
    (network.mapLingering f).socket? id = network.socket? id := rfl

@[simp] theorem stream?_mapLingering (f : List Lingering → List Lingering) (network : Network) (id : SocketId) :
    (network.mapLingering f).stream? id = network.stream? id := rfl

@[simp] theorem listening?_mapLingering (f : List Lingering → List Lingering) (network : Network) (id : SocketId) :
    (network.mapLingering f).listening? id = network.listening? id := rfl

@[simp] theorem next_mapLingering (f : List Lingering → List Lingering) (network : Network) :
    (network.mapLingering f).sockets.next = network.sockets.next := rfl

/-! What is done to the other end of a stream. -/

theorem stream?_tellMate (stream : Stream) (f : Stream → Stream) (network : Network) (id : SocketId) :
    (network.tellMate stream f).stream? id =
      if stream.mate = some id then (network.stream? id).map f else network.stream? id := by
  unfold tellMate
  cases stream.mate with
  | none => rfl
  | some mate => simp only [stream?_mapStream, Option.some.injEq]

@[simp] theorem listening?_tellMate (stream : Stream) (f : Stream → Stream) (network : Network) (id : SocketId) :
    (network.tellMate stream f).listening? id = network.listening? id := by
  unfold tellMate
  cases stream.mate with
  | none => rfl
  | some mate => exact listening?_mapStream network mate f id

@[simp] theorem next_tellMate (stream : Stream) (f : Stream → Stream) (network : Network) :
    (network.tellMate stream f).sockets.next = network.sockets.next := by
  unfold tellMate
  cases stream.mate with
  | none => rfl
  | some mate => exact next_modify mate _ network

/-! A listener that breaks. -/

section Broken

variable {network : Network} {listener : SocketId} {listening : Listening}

theorem stream?_setIdle (there : network.listening? listener = some listening) (idle : Idle) (id : SocketId) :
    (network.modify listener fun socket => { socket with state := .idle idle }).stream? id = network.stream? id := by
  simp only [stream?_eq_bind, socket?_modify]
  split
  next same =>
    rw [← same, ← stream?_eq_bind, stream?_of_listening? there]
    cases network.socket? listener <;> rfl
  next => rfl

theorem listening?_setIdle (network : Network) (listener : SocketId) (idle : Idle) (id : SocketId) :
    (network.modify listener fun socket => { socket with state := .idle idle }).listening? id =
      if listener = id then none else network.listening? id := by
  simp only [listening?_eq_bind, socket?_modify]
  split
  · cases network.socket? id <;> rfl
  · rfl

theorem owner?_setIdle (network : Network) (listener : SocketId) (idle : Idle) (id : SocketId) :
    (network.modify listener fun socket => { socket with state := .idle idle }).owner? id = network.owner? id := by
  simp only [owner?, socket?_modify]
  split
  · cases network.socket? id <;> rfl
  · rfl

end Broken

/-! Sockets that neither listen nor are connected. -/

theorem idle?_add (socket : Socket) (network : Network) (id : SocketId) :
    (network.add socket).idle? id = if id = network.sockets.next then socket.idle? else network.idle? id := by
  simp only [idle?, socket?_add]
  split <;> rfl

theorem idle?_remove (id : SocketId) (network : Network) (other : SocketId) :
    (network.remove id).idle? other = if id = other then none else network.idle? other := by
  simp only [idle?, socket?_remove]
  split <;> rfl

@[simp] theorem idle?_mapStream (network : Network) (id : SocketId) (f : Stream → Stream) (other : SocketId) :
    (network.modify id (Socket.mapStream f)).idle? other = network.idle? other := by
  simp only [idle?, socket?_modify]
  split
  · rcases network.socket? other with _ | ⟨owner, _ | _ | _ | _⟩ <;> rfl
  · rfl

@[simp] theorem idle?_mapListening (network : Network) (id : SocketId) (f : Listening → Listening) (other : SocketId) :
    (network.modify id (Socket.mapListening f)).idle? other = network.idle? other := by
  simp only [idle?, socket?_modify]
  split
  · rcases network.socket? other with _ | ⟨owner, _ | _ | _ | _⟩ <;> rfl
  · rfl

@[simp] theorem idle?_setOwner (network : Network) (id : SocketId) (owner : Owner) (other : SocketId) :
    (network.modify id fun socket => { socket with owner }).idle? other = network.idle? other := by
  simp only [idle?, socket?_modify]
  split
  · rcases network.socket? other with _ | ⟨owner, _ | _ | _ | _⟩ <;> rfl
  · rfl

@[simp] theorem idle?_mapLingering (f : List Lingering → List Lingering) (network : Network) (id : SocketId) :
    (network.mapLingering f).idle? id = network.idle? id := rfl

@[simp] theorem idle?_tellMate (stream : Stream) (f : Stream → Stream) (network : Network) (id : SocketId) :
    (network.tellMate stream f).idle? id = network.idle? id := by
  unfold tellMate
  cases stream.mate with
  | none => rfl
  | some mate => exact idle?_mapStream network mate f id

end Network
end InstrumentLink
