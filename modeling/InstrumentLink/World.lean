import InstrumentLink.Log.Entry
import InstrumentLink.Network.Operations
import InstrumentLink.Devices

/-!
The world in which the agent acts: the network, the serial devices, the log, and a journal of what the agent opened
and closed, in order. An `Act` is what the agent does in one go.
-/

namespace InstrumentLink

/-- What the agent opened or tried to open, with the number it got, and what it shut down and closed. -/
inductive Deed where
  | listen (address : SocketAddress) (made : Option SocketId)
  | connect (remote : SocketAddress) (made : Option SocketId)
  | associate (remote : SocketAddress) (made : Option SocketId)
  | accept (listener : SocketId) (taken : SocketId)
  | shutdown (id : SocketId) (ways : Ways)
  | close (id : SocketId)
  | openLine (path : String) (baudRate : UInt32) (made : Option Nat)
  | closeLine (id : Nat)
  deriving DecidableEq, Repr

structure World where
  network : Network
  devices : Devices
  log : List LogEntry
  journal : List Deed

def World.ofRoutes (routes : Routes) : World := ⟨.ofRoutes routes, .standard, [], []⟩

abbrev Act := StateM World

namespace Act

def say (level : Level) (origin : Origin) (text : String) : Act Unit :=
  modify fun world => { world with log := world.log ++ [⟨level, origin, text⟩] }

def note (deed : Deed) : Act Unit :=
  modify fun world => { world with journal := world.journal ++ [deed] }

def onNetwork {α : Type} (f : Network → α × Network) : Act α :=
  modifyGet fun world => ((f world.network).1, { world with network := (f world.network).2 })

def onDevices {α : Type} (f : Devices → α × Devices) : Act α :=
  modifyGet fun world => ((f world.devices).1, { world with devices := (f world.devices).2 })

def toOption {ε α : Type} : Except ε α → Option α
  | .ok a => some a
  | .error _ => none

def resolve (host : String) (port : UInt16) : Act (Except Failure SocketAddress) := do
  return InstrumentLink.resolve (← get).network.routes.names host port

def backlog : Nat := 8

def listen (address : SocketAddress) : Act (Except IoError SocketId) := do
  let result ← onNetwork (·.listen .agent address backlog true)
  note (.listen address (toOption result))
  return result

def connect (remote : SocketAddress) : Act (Except IoError SocketId) := do
  let result ← onNetwork (·.connect .agent remote)
  note (.connect remote (toOption result))
  return result

def associate (remote : SocketAddress) : Act (Except IoError SocketId) := do
  let result ← onNetwork (·.associate .agent remote)
  note (.associate remote (toOption result))
  return result

def accept (listener : SocketId) : Act (Except IoError (Option (SocketId × SocketAddress))) := do
  let result ← onNetwork (·.accept .agent listener)
  match result with
  | .ok (some (taken, _)) => note (.accept listener taken)
  | _ => pure ()
  return result

def stopWaiting (id : SocketId) : Act (Except IoError Unit) := onNetwork (·.adjust id)

def shutdown (id : SocketId) (ways : Ways) : Act Unit := do
  onNetwork fun network => ((), network.shutdown id ways)
  note (.shutdown id ways)

def close (id : SocketId) : Act Unit := do
  onNetwork fun network => ((), network.close id)
  note (.close id)

def hangUp (id : SocketId) (ways : Ways) : Act Unit := do
  shutdown id ways
  close id

def localAddress? (id : SocketId) : Act (Option SocketAddress) := do
  return (← get).network.localAddress? id

def peerAddress? (id : SocketId) : Act (Option SocketAddress) := do
  return (← get).network.peerAddress? id

def takeError (id : SocketId) : Act (Option IoError) := onNetwork (·.takeError id)

def peek (id : SocketId) : Act Peek := onNetwork (·.peek id)

def isOver (id : SocketId) : Act Bool := do
  return (← peek id).isOver

def receive (id : SocketId) (count : Nat) : Act Received := onNetwork (·.receive id count)

def send (id : SocketId) (bytes : List UInt8) : Act Bool := onNetwork (·.send id bytes)

def openLine (path : String) (baudRate : UInt32) : Act (Except IoError Nat) := do
  let result ← onDevices (·.openLine path baudRate)
  note (.openLine path baudRate (toOption result))
  return result

def closeLine (id : Nat) : Act Unit := do
  onDevices fun devices => ((), devices.closeLine id)
  note (.closeLine id)

def lineIsAlive (id : Nat) : Act Bool := do
  return (← get).devices.isAlive id

def lineReceive (id count : Nat) : Act Received := onDevices (·.receive id count)

def lineSend (id : Nat) (bytes : List UInt8) : Act Bool := onDevices (·.send id bytes)

end Act
end InstrumentLink
