import InstrumentLink.Kind
import InstrumentLink.Failure

/-!
The settings: how often to poll, and the connection with the addresses of its roles. `Settings.validate` says
which settings a program may run with.
-/

namespace InstrumentLink

/-- Hosts and ports of a network connection; an empty host and a port of 0 are not set. -/
structure NetworkSettings where
  dataHost : String
  dataPort : UInt16
  commandHost : String
  commandPort : UInt16
  deriving DecidableEq, Repr

def NetworkSettings.unset : NetworkSettings := ⟨"", 0, "", 0⟩

/-- A serial line; an empty path and a rate of 0 are not set. -/
structure SerialSettings where
  devicePath : String
  baudRate : UInt32
  deriving DecidableEq, Repr

def defaultBaudRate : UInt32 := 9600

namespace SerialSettings

def unset : SerialSettings := ⟨"", defaultBaudRate⟩

def withPath (devicePath : String) (line : SerialSettings) : SerialSettings := { line with devicePath }

def withRate (baudRate : UInt32) (line : SerialSettings) : SerialSettings := { line with baudRate }

end SerialSettings

inductive ConnectionSettings where
  | rsn (network : NetworkSettings)
  | tcp (network : NetworkSettings)
  | udp (network : NetworkSettings)
  | serial (line : SerialSettings)
  deriving DecidableEq, Repr

namespace ConnectionSettings

def kind : ConnectionSettings → Kind
  | rsn _ => .rsn
  | tcp _ => .tcp
  | udp _ => .udp
  | serial _ => .serial

def unset : Kind → ConnectionSettings
  | .rsn => rsn .unset
  | .tcp => tcp .unset
  | .udp => udp .unset
  | .serial => serial .unset

def defaultDataPort : UInt16 := 4001

def default : ConnectionSettings := rsn { NetworkSettings.unset with dataPort := defaultDataPort }

end ConnectionSettings

structure Settings where
  /-- Milliseconds from one poll to the next. -/
  pollInterval : UInt64
  connection : ConnectionSettings
  deriving DecidableEq, Repr

namespace Settings

def defaultPollInterval : UInt64 := 1000

def default : Settings := ⟨defaultPollInterval, .default⟩

def defaultFile : String := "port-agent.toml"

def notZero : String := "must be greater than zero"

/-- The interval is looked at before the serial line. -/
def validate (settings : Settings) : Except Failure Unit :=
  if settings.pollInterval = 0 then .error (.invalidSettings .pollInterval notZero)
  else
    match settings.connection with
    | .serial line =>
      if line.baudRate = 0 then .error (.invalidSettings .baudRate notZero) else .ok ()
    | _ => .ok ()

end Settings
end InstrumentLink
