import InstrumentLink.Network.Registry
import InstrumentLink.Address.Socket

/-!
The network as the agent and the world around it share it: sockets, whom they belong to, what has arrived at them,
and what a machine can reach.
-/

namespace InstrumentLink

inductive Owner where
  | agent
  | outside
  /-- Nobody yet: it waits at a listener to be taken. -/
  | queue
  deriving DecidableEq, Repr

abbrev SocketId := Nat

inductive Phase where
  | connecting
  | established
  /-- Refused or reset. -/
  | dead
  deriving DecidableEq, Repr

structure Stream where
  here : SocketAddress
  there : SocketAddress
  /-- The socket at the other end, once there is one. -/
  mate : Option SocketId
  phase : Phase
  /-- What has arrived and is not read yet. -/
  inbox : List UInt8
  /-- The other end has closed and sends no more. -/
  ended : Bool
  /-- An error not told yet. -/
  error : Option IoError
  /-- Nothing more is sent from here. -/
  shut : Bool
  /-- Whether it shares its own address with others that do so. -/
  shares : Bool
  deriving DecidableEq, Repr

structure Listening where
  address : SocketAddress
  /-- Connections not taken yet, the oldest first. -/
  queue : List SocketId
  /-- One more than so many may wait. -/
  backlog : Nat
  /-- Whether its connections share its address with others that do so. -/
  shares : Bool
  deriving DecidableEq, Repr

/-- A socket that neither listens nor is connected: a new one, or one that has listened and is broken. -/
structure Idle where
  address : Option SocketAddress
  error : Option IoError
  shares : Bool
  deriving DecidableEq, Repr

inductive SocketState where
  | stream (stream : Stream)
  | listening (listening : Listening)
  | datagram (there : SocketAddress)
  | idle (idle : Idle)
  deriving DecidableEq, Repr

structure Socket where
  owner : Owner
  state : SocketState
  deriving DecidableEq, Repr

structure Routes where
  bindFault : SocketAddress → Option IoError
  /-- Where connections to an address come from. -/
  origin : IpAddress → IpAddress
  connectFault : SocketAddress → Option IoError
  associateFault : SocketAddress → Option IoError
  names : HostNames

namespace Routes

/-- A machine reaches itself from the first of its own addresses. -/
def localOrigin (ip : IpAddress) : IpAddress :=
  ip.shownTo (match ip.destination with
    | .v4 _ => .v4 .localhost
    | .v6 _ _ => .v6 .localhost 0)

/-- A machine none of whose links is up: it can listen, and reaches nothing. -/
def isolated : Routes where
  bindFault _ := none
  origin := localOrigin
  connectFault _ := some .networkUnreachable
  associateFault _ := some .networkUnreachable
  names := numericHosts

def loopbackBroadcast : IPv4 := ⟨127, 255, 255, 255⟩

/-- A machine that reaches itself, under every address of 127.0.0.0/8 and under `::1`, and nothing else. -/
def loopback : Routes where
  bindFault address := if isOwn address.ip then none else some .addressNotAvailable
  origin := localOrigin
  connectFault address :=
    if isOwn address.ip ∧ address.ip.plain ≠ .v4 loopbackBroadcast then none else some .networkUnreachable
  associateFault address :=
    if address.ip.plain = .v4 loopbackBroadcast then some .permissionDenied
    else if isOwn address.ip then none
    else some .networkUnreachable
  names := numericHosts
where
  isOwn (ip : IpAddress) : Bool :=
    match ip.plain with
    | .v4 ip => ip.isLoopback || ip = .any
    | .v6 ip _ => ip = .localhost || ip = .any

end Routes

/-- What is left for a while of a closed connection whose other end had not closed: its address is kept. -/
structure Lingering where
  id : SocketId
  address : SocketAddress
  shares : Bool
  deriving DecidableEq, Repr

structure Network where
  routes : Routes
  sockets : Registry Socket
  lingering : List Lingering

namespace Network

def ofRoutes (routes : Routes) : Network := ⟨routes, .empty, []⟩

def socket? (network : Network) (id : SocketId) : Option Socket := network.sockets.find? id

def stream? (network : Network) (id : SocketId) : Option Stream :=
  match network.socket? id with
  | some ⟨_, .stream stream⟩ => some stream
  | _ => none

def listening? (network : Network) (id : SocketId) : Option Listening :=
  match network.socket? id with
  | some ⟨_, .listening listening⟩ => some listening
  | _ => none

def add (socket : Socket) (network : Network) : Network :=
  { network with sockets := network.sockets.add socket }

def remove (id : SocketId) (network : Network) : Network :=
  { network with sockets := network.sockets.remove id }

def modify (id : SocketId) (f : Socket → Socket) (network : Network) : Network :=
  { network with sockets := network.sockets.modify id f }

def mapLingering (f : List Lingering → List Lingering) (network : Network) : Network :=
  { network with lingering := f network.lingering }

end Network

def Socket.mapStream (f : Stream → Stream) (socket : Socket) : Socket :=
  match socket.state with
  | .stream stream => { socket with state := .stream (f stream) }
  | _ => socket

def Socket.mapListening (f : Listening → Listening) (socket : Socket) : Socket :=
  match socket.state with
  | .listening listening => { socket with state := .listening (f listening) }
  | _ => socket

def Socket.mapIdle (f : Idle → Idle) (socket : Socket) : Socket :=
  match socket.state with
  | .idle idle => { socket with state := .idle (f idle) }
  | _ => socket

end InstrumentLink
