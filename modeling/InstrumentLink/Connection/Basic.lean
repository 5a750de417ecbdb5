import InstrumentLink.Endpoint.Lifecycle
import InstrumentLink.Status

/-!
A connection: the endpoints behind its roles. It is made from settings, and its settings can be taken from it at
any time; a copy has the settings and holds nothing.
-/

namespace InstrumentLink

inductive Connection where
  /-- The second listener only keeps an address and never listens. -/
  | rsn (data command : Endpoint .listener)
  | tcp (data command : Endpoint .client)
  | udp (data : Endpoint .udp)
  | serial (data : Endpoint .serial)

namespace NetworkSettings

def data (network : NetworkSettings) : HostPort := ⟨network.dataHost, network.dataPort⟩

def command (network : NetworkSettings) : HostPort := ⟨network.commandHost, network.commandPort⟩

def ofAddresses (data command : HostPort) : NetworkSettings :=
  ⟨data.host, data.port, command.host, command.port⟩

end NetworkSettings

namespace Connection

def ofSettings : ConnectionSettings → Connection
  | .rsn network => rsn (.ofTarget network.data) (.ofTarget network.command)
  | .tcp network => tcp (.ofTarget network.data) (.ofTarget network.command)
  | .udp network => udp (.ofTarget network.data)
  | .serial line => serial (.ofTarget line)

def ofKind (kind : Kind) : Connection := ofSettings (.unset kind)

/-- The settings of a connection. One with datagrams has no command address. -/
def settings : Connection → ConnectionSettings
  | rsn data command => .rsn (.ofAddresses data.target command.target)
  | tcp data command => .tcp (.ofAddresses data.target command.target)
  | udp data => .udp (.ofAddresses data.target .unset)
  | serial data => .serial data.target

def duplicate (connection : Connection) : Connection := ofSettings connection.settings

def kind : Connection → Kind
  | rsn _ _ => .rsn
  | tcp _ _ => .tcp
  | udp _ => .udp
  | serial _ => .serial

def endpoint? : Connection → Role → Option (Σ transport, Endpoint transport)
  | rsn data _, .data => some ⟨_, data⟩
  | tcp data _, .data => some ⟨_, data⟩
  | tcp _ command, .command => some ⟨_, command⟩
  | udp data, .data => some ⟨_, data⟩
  | serial data, .data => some ⟨_, data⟩
  | _, .command => none

def onRole {α : Type} (role : Role)
    (act : {transport : Transport} → Endpoint transport → Act (Endpoint transport × α)) :
    Connection → Act (Connection × Option α)
  | rsn data command =>
    match role with
    | .data => do
      let (data, a) ← act data
      return (rsn data command, some a)
    | .command => return (rsn data command, none)
  | tcp data command =>
    match role with
    | .data => do
      let (data, a) ← act data
      return (tcp data command, some a)
    | .command => do
      let (command, a) ← act command
      return (tcp data command, some a)
  | udp data =>
    match role with
    | .data => do
      let (data, a) ← act data
      return (udp data, some a)
    | .command => return (udp data, none)
  | serial data =>
    match role with
    | .data => do
      let (data, a) ← act data
      return (serial data, some a)
    | .command => return (serial data, none)

def isConfigured (connection : Connection) (role : Role) : Bool :=
  match connection.endpoint? role with
  | some ⟨_, endpoint⟩ => endpoint.isConfigured
  | none => false

/-- There is no handshake above the transports, so that a role counts as initialized as soon as it is configured. -/
def isInitialized (connection : Connection) (role : Role) : Bool := connection.isConfigured role

def isConnected (connection : Connection) (role : Role) : Act Bool :=
  match connection.endpoint? role with
  | some ⟨_, endpoint⟩ => endpoint.isConnected
  | none => return false

def say (level : Level) (text : String) : Act Unit := Act.say level .connection text

def release {transport : Transport} (role : Role) (endpoint : Endpoint transport) :
    Act (Endpoint transport × Unit) := do
  if endpoint.hasHandle then
    say .debug (role.name ++ " channel released (" ++ endpoint.describe ++ ")")
    return (← endpoint.disconnect, ())
  else return (endpoint, ())

def disconnect (role : Role) (connection : Connection) : Act Connection := do
  let (connection, _) ← connection.onRole role (release role)
  return connection

def dispose : Connection → Act Unit
  | rsn data command => do
    data.dispose
    command.dispose
  | tcp data command => do
    data.dispose
    command.dispose
  | udp data => data.dispose
  | serial data => data.dispose

def bringUp {transport : Transport} (role : Role) (endpoint : Endpoint transport) :
    Act (Endpoint transport × Outcome) := do
  if !endpoint.isConfigured then
    say .debug (role.name ++ " port not configured. Not initializing")
    return (endpoint, .unconfigured)
  else
    let connected ← endpoint.isConnected
    if connected then return (endpoint, .alreadyConnected)
    else
      say .debug ("initialize " ++ role.name ++ " socket (" ++ endpoint.describe ++ ")")
      let (endpoint, result) ← endpoint.establish
      match result with
      | .error failure =>
        say .warn (role.name ++ " channel not initialized: " ++ failure.message)
        return (endpoint, .failed)
      | .ok _ =>
        let connected ← endpoint.isConnected
        return (endpoint, if connected then .connected else .pending)

def establishRole (role : Role) (connection : Connection) : Act (Connection × Outcome) := do
  let (connection, outcome) ← connection.onRole role (bringUp role)
  return (connection, outcome.getD .unsupported)

/-- Brings up every role that is set and not up, data before command. Failures are told and the next call tries
again. -/
def establish (connection : Connection) : Act (Connection × Report) := do
  let (connection, data) ← connection.establishRole .data
  let (connection, command) ← connection.establishRole .command
  return (connection, ⟨data, command⟩)

end Connection
end InstrumentLink
