import InstrumentLink.Kind
import InstrumentLink.Text.Guarded

/-!
Log entries: how serious, from which part of the program, and what is said.
-/

namespace InstrumentLink

inductive Level where
  | warn
  | info
  | debug
  deriving DecidableEq, Repr

def Level.name : Level → String
  | .warn => "WARN"
  | .info => "INFO"
  | .debug => "DEBUG"

inductive Origin where
  | program
  | agent
  | settings
  | connection
  | endpoint
  | transport (transport : Transport)
  deriving DecidableEq, Repr

def Origin.path : Origin → String
  | .program => "port_agent"
  | .agent => "port_agent::agent"
  | .settings => "port_agent::config"
  | .connection => "port_agent::connection"
  | .endpoint => "port_agent::endpoint"
  | .transport .client => "port_agent::endpoint::tcp_client"
  | .transport .listener => "port_agent::endpoint::tcp_listener"
  | .transport .udp => "port_agent::endpoint::udp"
  | .transport .serial => "port_agent::endpoint::serial"

structure LogEntry where
  level : Level
  origin : Origin
  text : String
  deriving DecidableEq, Repr

def LogEntry.line (entry : LogEntry) : String :=
  entry.level.name ++ " " ++ entry.text

def LogEntry.guardedLine (entry : LogEntry) : String :=
  entry.level.name ++ " " ++ guarded entry.text

end InstrumentLink
