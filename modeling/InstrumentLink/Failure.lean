import InstrumentLink.OsError

/-!
What can go wrong while a channel is brought up or the settings are read, and how it is told.
-/

namespace InstrumentLink

inductive SettingsPart where
  /-- The text as a whole. -/
  | document
  | pollInterval
  | baudRate
  deriving DecidableEq, Repr

def SettingsPart.name : SettingsPart → String
  | .document => "config"
  | .pollInterval => "agent.poll_interval_ms"
  | .baudRate => "connection.baud_rate"

inductive Failure where
  /-- No listener could be set up on a port. -/
  | listen (port : UInt16) (cause : IoError)
  /-- A connection could not be started. -/
  | connect (host : String) (port : UInt16) (cause : IoError)
  /-- A datagram socket could not be tied to its remote address. -/
  | associate (host : String) (port : UInt16) (cause : IoError)
  /-- A host has no address. -/
  | resolve (host : String) (port : UInt16)
  | openDevice (path : String) (cause : IoError)
  /-- An endpoint lacks a field it needs. -/
  | notConfigured (endpoint : String)
  | readSettings (path : String) (cause : IoError)
  | invalidSettings (part : SettingsPart) (reason : String)
  deriving DecidableEq, Repr

namespace Failure

def message : Failure → String
  | listen port cause => "Cannot listen on TCP port " ++ toString port.toNat ++ ": " ++ cause.message
  | connect host port cause =>
    "Cannot connect to " ++ host ++ ":" ++ toString port.toNat ++ ": " ++ cause.message
  | associate host port cause =>
    "Cannot open UDP socket to " ++ host ++ ":" ++ toString port.toNat ++ ": " ++ cause.message
  | resolve host port => "Cannot resolve address " ++ host ++ ":" ++ toString port.toNat
  | openDevice path cause => "Cannot open serial device " ++ path ++ ": " ++ cause.message
  | notConfigured endpoint => endpoint ++ " is not configured"
  | readSettings path _ => "Cannot read config: " ++ path
  | invalidSettings part reason => "Invalid " ++ part.name ++ ": " ++ reason

def cause? : Failure → Option IoError
  | listen _ cause | connect _ _ cause | associate _ _ cause | openDevice _ cause
  | readSettings _ cause => some cause
  | resolve _ _ | notConfigured _ | invalidSettings _ _ => none

/-- How a program that gives up tells it: the message, and below it the cause. -/
def report (failure : Failure) : String :=
  "Error: " ++ failure.message ++
    match failure.cause? with
    | none => ""
    | some cause => "\n\nCaused by:\n    " ++ cause.message

end Failure
end InstrumentLink
