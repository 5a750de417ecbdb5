import InstrumentLink.Connection.Basic

/-!
What a connection lends out: the thing a role holds while it is up, for reading and writing by others.
-/

namespace InstrumentLink

inductive Channel where
  | listener (listener : Listener)
  | stream (id : SocketId)
  | udp (id : SocketId)
  | serial (id : Nat)
  deriving DecidableEq, Repr

namespace Channel

def transport : Channel → Transport
  | listener _ => .listener
  | stream _ => .client
  | udp _ => .udp
  | serial _ => .serial

def ofHandle : (transport : Transport) → transport.Handle → Channel
  | .client, id => stream id
  | .listener, held => listener held
  | .udp, id => udp id
  | .serial, id => serial id

def listener? : Channel → Option Listener
  | listener held => some held
  | _ => none

end Channel

/-- What an endpoint lends out: a client only while it is up, the others whatever they hold. -/
def Endpoint.lend {transport : Transport} (endpoint : Endpoint transport) : Act (Option Channel) :=
  match endpoint.handle with
  | none => return none
  | some handle => do
    if transport = .client then
      let usable ← transport.isUsable handle
      return if usable then some (.ofHandle transport handle) else none
    else return some (.ofHandle transport handle)

namespace Connection

def channel? (connection : Connection) (role : Role) : Act (Option Channel) := do
  let connected ← connection.isConnected role
  if !connected then return none
  else
    match connection.endpoint? role with
    | none => return none
    | some ⟨_, endpoint⟩ => endpoint.lend

def withListener (listener : Listener) : Connection → Connection
  | rsn data command => rsn { data with handle := some listener } command
  | connection => connection

def listener? : Connection → Option Listener
  | rsn data _ => data.handle
  | _ => none

end Connection
end InstrumentLink
