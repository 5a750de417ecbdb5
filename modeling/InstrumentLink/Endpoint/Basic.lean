import InstrumentLink.Kind
import InstrumentLink.Settings.Basic
import InstrumentLink.World

/-!
An endpoint is one channel: the address that it is set to, and what it holds while it is up. What an address
and a held thing are depends on the transport.
-/

namespace InstrumentLink

/-- A listening socket and the one peer that was taken from it. -/
structure Listener where
  socket : SocketId
  peer : Option SocketId
  deriving DecidableEq, Repr

namespace Transport

def Target : Transport → Type
  | .client => HostPort
  | .listener => HostPort
  | .udp => HostPort
  | .serial => SerialSettings

def Handle : Transport → Type
  | .client => SocketId
  | .listener => Listener
  | .udp => SocketId
  | .serial => Nat

instance (transport : Transport) : DecidableEq transport.Target :=
  match transport with
  | .client => inferInstanceAs (DecidableEq HostPort)
  | .listener => inferInstanceAs (DecidableEq HostPort)
  | .udp => inferInstanceAs (DecidableEq HostPort)
  | .serial => inferInstanceAs (DecidableEq SerialSettings)

instance (transport : Transport) : DecidableEq transport.Handle :=
  match transport with
  | .client => inferInstanceAs (DecidableEq SocketId)
  | .listener => inferInstanceAs (DecidableEq Listener)
  | .udp => inferInstanceAs (DecidableEq SocketId)
  | .serial => inferInstanceAs (DecidableEq Nat)

def unset : (transport : Transport) → transport.Target
  | .client => HostPort.unset
  | .listener => HostPort.unset
  | .udp => HostPort.unset
  | .serial => SerialSettings.unset

def anyHost : String := "0.0.0.0"

def listenerHost (address : HostPort) : String :=
  if address.hasHost then address.host else anyHost

/-- Whether every field that the transport needs is set. A listener needs no host. -/
def isConfigured : (transport : Transport) → transport.Target → Bool
  | .client, address => HostPort.hasHost address && HostPort.hasPort address
  | .listener, address => HostPort.hasPort address
  | .udp, address => HostPort.hasHost address && HostPort.hasPort address
  | .serial, line => SerialSettings.devicePath line ≠ "" && SerialSettings.baudRate line ≠ 0

def describe : (transport : Transport) → transport.Target → String
  | .client, address => Transport.client.name ++ " " ++ HostPort.text address
  | .listener, address =>
    Transport.listener.name ++ " " ++ listenerHost address ++ ":" ++ toString (HostPort.port address).toNat
  | .udp, address => Transport.udp.name ++ " " ++ HostPort.text address
  | .serial, line => Transport.serial.name ++ " " ++ SerialSettings.devicePath line

def closingText : (transport : Transport) → transport.Target → String
  | .client, address => "Shutdown socket to " ++ HostPort.text address
  | .listener, address => "Closed listener on port " ++ toString (HostPort.port address).toNat
  | .udp, address => "Closed UDP socket to " ++ HostPort.text address
  | .serial, line => "Closed serial device " ++ SerialSettings.devicePath line

end Transport

structure Endpoint (transport : Transport) where
  target : transport.Target
  handle : Option transport.Handle
  deriving DecidableEq

namespace Endpoint

variable {transport : Transport}

def ofTarget (target : transport.Target) : Endpoint transport := ⟨target, none⟩

def isConfigured (endpoint : Endpoint transport) : Bool := transport.isConfigured endpoint.target

def hasHandle (endpoint : Endpoint transport) : Bool := endpoint.handle.isSome

def describe (endpoint : Endpoint transport) : String := transport.describe endpoint.target

end Endpoint
end InstrumentLink
