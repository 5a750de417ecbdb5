import InstrumentLink.Connection.Basic

/-!
Changes to the settings of a live connection. A change that the kind of the connection has no field for is told
and does nothing else.
-/

namespace InstrumentLink

inductive Change where
  | dataHost (host : String)
  | dataPort (port : UInt16)
  | commandHost (host : String)
  | commandPort (port : UInt16)
  | devicePath (path : String)
  | baudRate (rate : UInt32)
  deriving DecidableEq, Repr

namespace Change

def name : Change → String
  | dataHost _ => "set_data_host"
  | dataPort _ => "set_data_port"
  | commandHost _ => "set_command_host"
  | commandPort _ => "set_command_port"
  | devicePath _ => "set_device_path"
  | baudRate _ => "set_baud_rate"

def appliesTo : Change → Kind → Bool
  | dataHost _, kind | dataPort _, kind => kind ≠ .serial
  | commandHost _, kind | commandPort _, kind => kind = .rsn || kind = .tcp
  | devicePath _, kind | baudRate _, kind => kind = .serial

end Change

namespace Connection

def ignore (change : Change) (connection : Connection) : Act Connection := do
  say .debug (change.name ++ " does not apply to " ++ connection.kind.name ++ " connections, ignored")
  return connection

/-- Makes one change. The endpoint that it concerns lets go of what it holds and comes up again if it was up. -/
def apply (change : Change) : Connection → Act Connection
  | rsn data command =>
    match change with
    | .dataHost host => return rsn (← data.change (HostPort.withHost host data.target)) command
    | .dataPort port => return rsn (← data.change (HostPort.withPort port data.target)) command
    | .commandHost host => return rsn data (← command.change (HostPort.withHost host command.target))
    | .commandPort port => return rsn data (← command.change (HostPort.withPort port command.target))
    | .devicePath _ | .baudRate _ => (rsn data command).ignore change
  | tcp data command =>
    match change with
    | .dataHost host => return tcp (← data.change (HostPort.withHost host data.target)) command
    | .dataPort port => return tcp (← data.change (HostPort.withPort port data.target)) command
    | .commandHost host => return tcp data (← command.change (HostPort.withHost host command.target))
    | .commandPort port => return tcp data (← command.change (HostPort.withPort port command.target))
    | .devicePath _ | .baudRate _ => (tcp data command).ignore change
  | udp data =>
    match change with
    | .dataHost host => return udp (← data.change (HostPort.withHost host data.target))
    | .dataPort port => return udp (← data.change (HostPort.withPort port data.target))
    | .commandHost _ | .commandPort _ | .devicePath _ | .baudRate _ => (udp data).ignore change
  | serial data =>
    match change with
    | .devicePath path => return serial (← data.change (SerialSettings.withPath path data.target))
    | .baudRate rate => return serial (← data.change (SerialSettings.withRate rate data.target))
    | .dataHost _ | .dataPort _ | .commandHost _ | .commandPort _ => (serial data).ignore change

def applyAll (changes : List Change) (connection : Connection) : Act Connection :=
  changes.foldlM (fun connection change => connection.apply change) connection

end Connection
end InstrumentLink
