import InstrumentLink.Endpoint.Listener

/-!
How an endpoint comes up and goes down. Nothing waits: a handshake under way is kept and looked at again the
next time. An endpoint never holds two things, as it lets go of the one before it opens the next.
-/

namespace InstrumentLink
namespace Transport

def say (transport : Transport) (level : Level) (text : String) : Act Unit :=
  Act.say level (.transport transport) text

def isUsable : (transport : Transport) → transport.Handle → Act Bool
  | .client, id => do
    if (← Act.peerAddress? id).isSome then return !(← Act.isOver id) else return false
  | .listener, held => do return (← Act.localAddress? (Listener.socket held)).isSome
  | .udp, id => do return (← Act.peerAddress? id).isSome
  | .serial, id => Act.lineIsAlive id

/-- Whether a handshake has neither succeeded nor failed. The error of one that failed is told here and
nowhere else. -/
def isUnderWay : (transport : Transport) → transport.Target → transport.Handle → Act Bool
  | .client, address, id => do
    if (← Act.peerAddress? id).isSome then return false
    else
      match ← Act.takeError id with
      | some error =>
        client.say .debug (client.describe address ++ ": connect failed: " ++ error.message)
        return false
      | none => return !(← Act.isOver id)
  | .listener, _, _ => return false
  | .udp, _, _ => return false
  | .serial, _, _ => return false

/-- Closes a held thing. A connection is shut down before, and the peer of a listener goes first. -/
def discard : (transport : Transport) → transport.Handle → Act Unit
  | .client, id => Act.hangUp id .sending
  | .listener, held => do
    let held ← Listener.dropPeer held
    Act.close held.socket
  | .udp, id => Act.close id
  | .serial, id => Act.closeLine id

def openHandle : (transport : Transport) → transport.Target → Act (Except Failure transport.Handle)
  | .client, ⟨host, port⟩ => do
    match ← Act.resolve host port with
    | .error failure => return .error failure
    | .ok address =>
      match ← Act.connect address with
      | .error error => return .error (.connect host port error)
      | .ok id =>
        client.say .debug ("Connecting to " ++ address.text)
        return .ok id
  | .listener, ⟨host, port⟩ => do
    match ← Act.resolve (listenerHost ⟨host, port⟩) port with
    | .error failure => return .error failure
    | .ok address =>
      match ← Act.listen address with
      | .error error => return .error (.listen port error)
      | .ok id =>
        listener.say .debug ("Listening on " ++ address.text)
        return .ok ⟨id, none⟩
  | .udp, ⟨host, port⟩ => do
    match ← Act.resolve host port with
    | .error failure => return .error failure
    | .ok address =>
      match ← Act.associate address with
      | .error error => return .error (.associate host port error)
      | .ok id =>
        udp.say .debug ("UDP socket associated with " ++ address.text)
        return .ok id
  | .serial, ⟨path, baudRate⟩ => do
    match ← Act.openLine path baudRate with
    | .error error => return .error (.openDevice path error)
    | .ok id =>
      serial.say .debug ("Opened " ++ path ++ " @ " ++ toString baudRate.toNat ++ " baud")
      return .ok id

end Transport

namespace Endpoint

variable {transport : Transport}

def isConnected (endpoint : Endpoint transport) : Act Bool :=
  match endpoint.handle with
  | none => return false
  | some handle => transport.isUsable handle

def disconnect (endpoint : Endpoint transport) : Act (Endpoint transport) :=
  match endpoint.handle with
  | none => return endpoint
  | some handle => do
    transport.say .debug (transport.closingText endpoint.target)
    transport.discard handle
    return { endpoint with handle := none }

/-- The end of an endpoint: it lets go of what it holds. Only a client speaks of it. -/
def dispose (endpoint : Endpoint transport) : Act Unit :=
  match endpoint.handle with
  | none => return
  | some handle => do
    if transport = .client then transport.say .debug (transport.closingText endpoint.target)
    transport.discard handle

def dropFaulty : {transport : Transport} → Endpoint transport → Act (Endpoint transport)
  | .listener, ⟨target, some listener⟩ => do
    match ← Act.takeError (Listener.socket listener) with
    | none => return ⟨target, some listener⟩
    | some error =>
      Transport.listener.say .warn
        (Transport.listener.describe target ++ ": listener error: " ++ error.message)
      disconnect ⟨target, some listener⟩
  | _, endpoint => return endpoint

def isUnderWay (endpoint : Endpoint transport) : Act Bool :=
  match endpoint.handle with
  | none => return false
  | some handle => transport.isUnderWay endpoint.target handle

/-- Brings the endpoint up. One that is up, or on its way, is left alone; one that lacks a field is not
touched; else what is held is of no use any more and goes before the new thing is opened. -/
def establish (endpoint : Endpoint transport) : Act (Endpoint transport × Except Failure Unit) := do
  let endpoint ← endpoint.dropFaulty
  let connected ← endpoint.isConnected
  let settled ← if connected then pure true else endpoint.isUnderWay
  if settled then return (endpoint, .ok ())
  else if !endpoint.isConfigured then return (endpoint, .error (.notConfigured endpoint.describe))
  else
    let endpoint ← endpoint.disconnect
    match ← transport.openHandle endpoint.target with
    | .error failure => return (endpoint, .error failure)
    | .ok handle => return ({ endpoint with handle := some handle }, .ok ())

def say (level : Level) (text : String) : Act Unit := Act.say level .endpoint text

/-- Sets the endpoint to another address. What it holds was opened for the old one and goes; if it was up, it
comes up again at once, so far as the new address allows. The same address changes nothing. -/
def change (endpoint : Endpoint transport) (target : transport.Target) : Act (Endpoint transport) := do
  let connected ← endpoint.isConnected
  if target = endpoint.target then return endpoint
  else
    let endpoint := { endpoint with target }
    let endpoint ←
      if endpoint.hasHandle then
        say .debug (endpoint.describe ++ ": configuration changed, releasing handle")
        endpoint.disconnect
      else pure endpoint
    if !connected then return endpoint
    else if !endpoint.isConfigured then
      say .debug (endpoint.describe ++ ": not configured after change, left down")
      return endpoint
    else
      let (endpoint, result) ← endpoint.establish
      match result with
      | .ok _ => return endpoint
      | .error failure =>
        say .warn (endpoint.describe ++ ": re-initialization failed: " ++ failure.message)
        return endpoint

end Endpoint
end InstrumentLink
