import InstrumentLink.World

/-!
What happens outside the agent: servers come and go, others dial, send and hang up, handshakes are answered or
refused, and serial devices come and go. Nobody outside has a hand on a socket of the agent's; what is done to one
end of a connection only arrives at the other.
-/

namespace InstrumentLink

inductive Event where
  /-- Somebody starts to listen. -/
  | serve (address : SocketAddress) (backlog : Nat) (shares : Bool)
  /-- Somebody connects. -/
  | dial (remote : SocketAddress)
  /-- A server takes the connection that has waited longest. -/
  | take (server : SocketId)
  | send (id : SocketId) (bytes : List UInt8)
  | receive (id : SocketId) (count : Nat)
  /-- A server vanishes, or somebody hangs up. -/
  | close (id : SocketId)
  | reset (id : SocketId)
  /-- A handshake under way is answered, if there is room for it. -/
  | answer (id : SocketId)
  | refuse (id : SocketId) (error : IoError)
  /-- Every handshake that nobody listens for is refused. -/
  | refuseIdle
  /-- A listening socket breaks. -/
  | fault (listener : SocketId) (error : IoError)
  /-- What was left of a closed connection is over. -/
  | expire (id : SocketId)
  | plug (path : String)
  | unplug (terminal : Nat)
  | deviceSend (terminal : Nat) (bytes : List UInt8)
  | deviceReceive (terminal count : Nat)
  deriving DecidableEq, Repr

/-- Does something to a socket that belongs to somebody outside, and nothing to any other. -/
def Network.outside (id : SocketId) (f : Network → Network) (network : Network) : Network :=
  if (network.socket? id).any (·.owner = .outside) then f network else network

namespace Event

def onNetwork (event : Event) (network : Network) : Network :=
  match event with
  | serve address backlog shares => (network.listen .outside address backlog shares).2
  | dial remote => (network.connect .outside remote).2
  | take server => network.outside server fun network => (network.accept .outside server).2
  | send id bytes => network.outside id fun network => (network.send id bytes).2
  | receive id count => network.outside id fun network => (network.receive id count).2
  | close id => network.outside id (Network.close id)
  | reset id => network.outside id (Network.abort id)
  | answer id => network.answer id
  | refuse id error => network.refuse id error
  | refuseIdle => network.refuseIdle
  | fault listener error => network.fault listener error
  | expire id => network.expire id
  | plug _ | unplug _ | deviceSend _ _ | deviceReceive _ _ => network

def onDevices (event : Event) (devices : Devices) : Devices :=
  match event with
  | plug path => (devices.plug path).2
  | unplug terminal => devices.unplug terminal
  | deviceSend terminal bytes => devices.deviceSend terminal bytes
  | deviceReceive terminal count => (devices.deviceReceive terminal count).2
  | _ => devices

end Event

namespace World

/-- The world after an event. The log and the journal are the agent's own. -/
def after (event : Event) (world : World) : World :=
  { world with network := event.onNetwork world.network, devices := event.onDevices world.devices }

def afterAll (events : List Event) (world : World) : World :=
  events.foldl (fun world event => world.after event) world

end World
end InstrumentLink
