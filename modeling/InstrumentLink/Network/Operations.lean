import InstrumentLink.Network.Stream

/-!
What can be done with sockets. Nothing here waits: a handshake that nobody answers yet stays under way until
something outside settles it. A socket that can be used comes about in steps, and any of them may fail.
-/

namespace InstrumentLink

/-- Whether a socket keeps another one from an address, which may be willing to share it. What listens shares with
nobody, and a dead connection has given its address up. -/
def SocketState.blocks (address : SocketAddress) (shares : Bool) : SocketState → Bool
  | .stream held => held.phase ≠ .dead && held.here.clashes address && !(held.shares && shares)
  | .listening held => held.address.clashes address
  | .datagram _ => false
  | .idle held => held.address.any (·.clashes address) && !(held.shares && shares)

def Lingering.blocks (address : SocketAddress) (shares : Bool) (left : Lingering) : Bool :=
  left.address.clashes address && !(left.shares && shares)

namespace Network

def listenerAt? (network : Network) (address : SocketAddress) : Option (SocketId × Listening) :=
  network.sockets.toList.findSome? fun (id, socket) =>
    match socket.state with
    | .listening listening => if listening.address.hears address then some (id, listening) else none
    | _ => none

def hasRoom (listening : Listening) : Bool := listening.queue.length ≤ listening.backlog

def farEnd (id : SocketId) (stream : Stream) (listening : Listening) : Stream where
  here := listening.address.shownTo ⟨stream.there.ip.destination, stream.there.port⟩
  there := listening.address.shownTo stream.here
  mate := some id
  phase := .established
  inbox := []
  ended := false
  error := none
  shut := false
  shares := listening.shares

/-- Completes the handshake of a stream, if somebody listens at the other end and has room for one more. -/
def answer (id : SocketId) (network : Network) : Network :=
  match network.stream? id with
  | none => network
  | some stream =>
    match network.listenerAt? stream.there with
    | none => network
    | some (listener, listening) =>
      if stream.phase = .connecting ∧ hasRoom listening then
        let far := network.sockets.next
        ((network.add ⟨.queue, .stream (farEnd id stream listening)⟩).modify id
          (Socket.mapStream fun stream => { stream with phase := .established, mate := some far })).modify listener
            (Socket.mapListening fun listening => { listening with queue := listening.queue ++ [far] })
      else network

/-! ### The end of a socket -/

def tellMate (stream : Stream) (f : Stream → Stream) (network : Network) : Network :=
  match stream.mate with
  | none => network
  | some mate => network.modify mate (Socket.mapStream f)

/-- Sends the end of a stream. Unless the other end has sent its own, the address is kept for a while. -/
def sendEnd (id : SocketId) (stream : Stream) (network : Network) : Network :=
  (network.tellMate stream Stream.finish).mapLingering fun lingering =>
    if stream.phase = .established ∧ !stream.ended then lingering ++ [⟨id, stream.here, stream.shares⟩]
    else lingering

/-- Breaks a connection. Nothing of either end lingers then. -/
def sendReset (id : SocketId) (stream : Stream) (network : Network) : Network :=
  (network.tellMate stream Stream.reset).mapLingering fun lingering =>
    lingering.filter fun left => left.id ≠ id ∧ some left.id ≠ stream.mate

/-- Shuts a connection down: the other end sees the end of the stream. A handshake under way is given up. -/
def shutdown (id : SocketId) (ways : Ways) (network : Network) : Network :=
  match network.stream? id with
  | none => network
  | some stream =>
    match stream.phase with
    | .connecting => network.modify id (Socket.mapStream fun stream => { stream with phase := .dead })
    | .established =>
      let shut := network.modify id (Socket.mapStream (Stream.shutDown ways))
      if stream.shut then shut else shut.sendEnd id stream
    | .dead => network

def abort (id : SocketId) (network : Network) : Network :=
  match network.stream? id with
  | none => network
  | some stream => (network.remove id).sendReset id stream

def abortAll (ids : List SocketId) (network : Network) : Network :=
  ids.foldl (fun network id => network.abort id) network

/-- Closes a socket. The other end of a stream sees the end, or a reset if bytes were left unread. The connections that
wait at a listener are reset. -/
def close (id : SocketId) (network : Network) : Network :=
  match (network.socket? id).map Socket.state with
  | none => network
  | some (.stream stream) =>
    let rest := network.remove id
    if !stream.inbox.isEmpty then rest.sendReset id stream
    else if stream.shut then rest
    else rest.sendEnd id stream
  | some (.listening listening) => (network.remove id).abortAll listening.queue
  | some (.datagram _) => network.remove id
  | some (.idle _) => network.remove id

/-! ### The way to a socket that can be used -/

/-- Something done on the way, which may fail. What was done before it stays. -/
abbrev Step := Network → Except IoError Unit × Network

def onIdle (id : SocketId) (f : Idle → Except IoError SocketState) : Step := fun network =>
  match (network.socket? id).map Socket.state with
  | none => (.error .badDescriptor, network)
  | some (.idle idle) =>
    match f idle with
    | .error error => (.error error, network)
    | .ok state => (.ok (), network.modify id fun socket => { socket with state })
  | some _ => (.error .invalidArgument, network)

def share (id : SocketId) : Step := onIdle id fun idle => .ok (.idle { idle with shares := true })

/-- Sets how a socket behaves: that nothing done with it waits, or that bytes go out at once. -/
def adjust (id : SocketId) : Step := fun network =>
  if (network.socket? id).isSome then (.ok (), network) else (.error .badDescriptor, network)

/-- Whether an address is kept from a socket by others, or by what is left of them. -/
def taken (network : Network) (id : SocketId) (address : SocketAddress) (shares : Bool) : Bool :=
  (network.sockets.toList.any fun (other, socket) => other ≠ id && socket.state.blocks address shares) ||
    network.lingering.any (·.blocks address shares)

def bind (id : SocketId) (address : SocketAddress) : Step := fun network =>
  network.onIdle id fun idle =>
    match network.routes.bindFault address with
    | some error => .error error
    | none =>
      if network.taken id address idle.shares then .error .addressInUse
      else .ok (.idle { idle with address := some address })

def freshPort (id : SocketId) : UInt16 := .ofNat (32768 + id % 28232)

def bindAnyPort (id : SocketId) (ip : IpAddress) : Step := fun network =>
  network.onIdle id fun idle =>
    match network.routes.bindFault ⟨ip, 0⟩ with
    | some error => .error error
    | none => .ok (.idle { idle with address := some ⟨ip, freshPort id⟩ })

/-- Begins to listen. Two sockets may share an address until one of them listens. -/
def startListening (id : SocketId) (backlog : Nat) : Step := fun network =>
  network.onIdle id fun idle =>
    match idle.address with
    | none => .error .invalidArgument
    | some address =>
      if network.taken id address idle.shares then .error .addressInUse
      else .ok (.listening ⟨address, [], backlog, idle.shares⟩)

def dialled (network : Network) (id : SocketId) (remote : SocketAddress) : Stream where
  here := ⟨network.routes.origin remote.ip, freshPort id⟩
  there := remote
  mate := none
  phase := .connecting
  inbox := []
  ended := false
  error := none
  shut := false
  shares := false

/-- Starts a connection. A listener with room takes it in at once; else the handshake is under way. -/
def dial (id : SocketId) (remote : SocketAddress) : Step := fun network =>
  let (result, network) := network.onIdle id fun _ =>
    match network.routes.connectFault remote with
    | some error => .error error
    | none => .ok (.stream (network.dialled id remote))
  match result with
  | .error error => (.error error, network)
  | .ok () => (.ok (), network.answer id)

def tie (id : SocketId) (remote : SocketAddress) : Step := fun network =>
  network.onIdle id fun _ =>
    match network.routes.associateFault remote with
    | some error => .error error
    | none => .ok (.datagram remote)

def inTurn : List Step → Step
  | [], network => (.ok (), network)
  | step :: rest, network =>
    match step network with
    | (.error error, network) => (.error error, network)
    | (.ok (), network) => inTurn rest network

/-- A new socket, made ready in steps. If one of them fails, the socket is closed again as far as it has come. -/
def make (owner : Owner) (steps : SocketId → List Step) (network : Network) : Except IoError SocketId × Network :=
  let id := network.sockets.next
  match inTurn (steps id) (network.add ⟨owner, .idle ⟨none, none, false⟩⟩) with
  | (.error error, network) => (.error error, network.close id)
  | (.ok (), network) => (.ok id, network)

def listen (owner : Owner) (address : SocketAddress) (backlog : Nat) (shares : Bool) :
    Network → Except IoError SocketId × Network :=
  make owner fun id =>
    (if shares then [share id] else []) ++ [adjust id, bind id address, startListening id backlog]

/-- Once for not waiting, once for bytes that go out at once. -/
def connect (owner : Owner) (remote : SocketAddress) : Network → Except IoError SocketId × Network :=
  make owner fun id => [adjust id, adjust id, dial id remote]

def anyLike : IpAddress → IpAddress
  | .v4 _ => .v4 .any
  | .v6 _ _ => .v6 .any 0

def associate (owner : Owner) (remote : SocketAddress) : Network → Except IoError SocketId × Network :=
  make owner fun id => [adjust id, bindAnyPort id (anyLike remote.ip), tie id remote]

/-! ### What is done with a socket -/

def localAddress? (network : Network) (id : SocketId) : Option SocketAddress :=
  match (network.socket? id).map Socket.state with
  | some (.listening listening) => some listening.address
  | some (.stream stream) => some stream.here
  | some (.idle idle) => idle.address
  | _ => none

def peerAddress? (network : Network) (id : SocketId) : Option SocketAddress :=
  match (network.socket? id).map Socket.state with
  | some (.stream stream) => stream.peerAddress?
  | some (.datagram there) => some there
  | _ => none

def accept (owner : Owner) (listener : SocketId) (network : Network) :
    Except IoError (Option (SocketId × SocketAddress)) × Network :=
  match network.listening? listener with
  | none =>
    (.error (if (network.socket? listener).isSome then .invalidArgument else .badDescriptor), network)
  | some listening =>
    match listening.queue with
    | [] => (.ok none, network)
    | id :: rest =>
      match network.stream? id with
      | none => (.ok none, network)
      | some stream =>
        (.ok (some (id, stream.there)),
          (network.modify id fun socket => { socket with owner }).modify listener
            (Socket.mapListening fun listening => { listening with queue := rest }))

def peek (id : SocketId) (network : Network) : Peek × Network :=
  match network.stream? id with
  | some stream => (stream.peek, network.modify id (Socket.mapStream Stream.afterPeek))
  | none => (.nothing, network)

def receive (id : SocketId) (count : Nat) (network : Network) : Received × Network :=
  match network.stream? id with
  | some stream => (stream.receive count, network.modify id (Socket.mapStream (Stream.afterReceive count)))
  | none => (.nothing, network)

def takeError (id : SocketId) (network : Network) : Option IoError × Network :=
  match (network.socket? id).map Socket.state with
  | some (.stream stream) =>
    (stream.error, network.modify id (Socket.mapStream fun stream => { stream with error := none }))
  | some (.idle idle) =>
    (idle.error, network.modify id (Socket.mapIdle fun idle => { idle with error := none }))
  | _ => (none, network)

/-- Sends bytes to the other end. An end that is gone answers by breaking the connection. -/
def send (id : SocketId) (bytes : List UInt8) (network : Network) : Bool × Network :=
  match network.stream? id with
  | none => (false, network)
  | some stream =>
    if stream.phase ≠ .established ∨ stream.shut then (false, network)
    else
      match stream.mate.filter fun mate => (network.stream? mate).isSome with
      | some mate => (true, network.modify mate (Socket.mapStream (Stream.arrive bytes)))
      | none =>
        (true, (network.modify id (Socket.mapStream (Stream.fail .brokenPipe))).mapLingering fun lingering =>
          lingering.filter fun left => some left.id ≠ stream.mate)

def refuse (id : SocketId) (error : IoError) (network : Network) : Network :=
  network.modify id (Socket.mapStream fun stream =>
    if stream.phase = .connecting then stream.fail error else stream)

def refuseIdle (network : Network) : Network :=
  { network with
    sockets := network.sockets.map (Socket.mapStream fun stream =>
      if stream.phase = .connecting ∧ (network.listenerAt? stream.there).isNone then
        stream.fail .connectionRefused
      else stream) }

/-- A listening socket breaks: it keeps its address, listens no more, and has an error that it does not tell until it is
asked. The connections that wait at it are reset. -/
def fault (listener : SocketId) (error : IoError) (network : Network) : Network :=
  match network.listening? listener with
  | none => network
  | some listening =>
    (network.modify listener fun socket =>
      { socket with state := .idle ⟨some listening.address, some error, listening.shares⟩ }).abortAll listening.queue

def expire (id : SocketId) (network : Network) : Network :=
  network.mapLingering fun lingering => lingering.filter (·.id ≠ id)

end Network
end InstrumentLink
