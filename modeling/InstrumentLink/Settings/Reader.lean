import InstrumentLink.Settings.Basic
import InstrumentLink.Text.Quoted
import InstrumentLink.Toml.Reader

/-!
The settings in a TOML text. Keys that are not known do not count, and a missing one has its default. Fields are
read in the order of the text, and the first that is wrong is told.
-/

namespace InstrumentLink

inductive Expected where
  | port
  | rate
  | interval
  | text
  | kindName
  | agentTable
  | connectionTable
  deriving DecidableEq, Repr

namespace Expected

def name : Expected → String
  | port => "u16"
  | rate => "u32"
  | interval => "u64"
  | text => "a string"
  | kindName => "variant identifier"
  | agentTable => "struct AgentSettings"
  | connectionTable => "internally tagged enum ConnectionConfig"

end Expected

def Toml.Value.told : Toml.Value → String
  | .string text => "string " ++ quoted text
  | .integer n => "integer `" ++ toString n ++ "`"
  | .float x => "floating point `" ++ x.text ++ "`"
  | .boolean b => "boolean `" ++ (if b then "true" else "false") ++ "`"
  | .moment => "map"
  | .array _ => "sequence"
  | .table _ => "map"

inductive ReadError where
  /-- It is no TOML document. -/
  | malformed
  | missingField (name : String)
  | unknownKind (name : String)
  | wrongType (found : Toml.Value) (expected : Expected)
  | outOfRange (n : Int) (expected : Expected)
  /-- A list has more items than there are fields. -/
  | tooLong (length fields : Nat)
  deriving Repr

def ReadError.message : ReadError → String
  | malformed => "syntax"
  | missingField name => "missing field `" ++ name ++ "`"
  | unknownKind name => Kind.unknownName name
  | wrongType found expected => "invalid type: " ++ found.told ++ ", expected " ++ expected.name
  | outOfRange n expected => "invalid value: integer `" ++ toString n ++ "`, expected " ++ expected.name
  | tooLong length fields =>
    "invalid length " ++ toString length ++ ", expected " ++ toString fields ++ " elements in sequence"

def readNumber (expected : Expected) (bound : Nat) : Toml.Value → Except ReadError Nat
  | .integer n => if 0 ≤ n ∧ n < bound then .ok n.toNat else .error (.outOfRange n expected)
  | found => .error (.wrongType found expected)

def readPort (value : Toml.Value) : Except ReadError UInt16 :=
  (readNumber .port UInt16.size value).map .ofNat

def readRate (value : Toml.Value) : Except ReadError UInt32 :=
  (readNumber .rate UInt32.size value).map .ofNat

def readInterval (value : Toml.Value) : Except ReadError UInt64 :=
  (readNumber .interval UInt64.size value).map .ofNat

def readText : Toml.Value → Except ReadError String
  | .string text => .ok text
  | found => .error (.wrongType found .text)

def NetworkSettings.readField (network : NetworkSettings) (key : String) (value : Toml.Value) :
    Except ReadError NetworkSettings :=
  match key with
  | "data_host" => (readText value).map fun host => { network with dataHost := host }
  | "data_port" => (readPort value).map fun port => { network with dataPort := port }
  | "command_host" => (readText value).map fun host => { network with commandHost := host }
  | "command_port" => (readPort value).map fun port => { network with commandPort := port }
  | _ => .ok network

def NetworkSettings.fieldNames : List String :=
  ["data_host", "data_port", "command_host", "command_port"]

def NetworkSettings.read (entries : Toml.Entries) : Except ReadError NetworkSettings :=
  entries.foldlM (fun network (key, value) => network.readField key value) .unset

def SerialSettings.readField (line : SerialSettings) (key : String) (value : Toml.Value) :
    Except ReadError SerialSettings :=
  match key with
  | "device_path" => (readText value).map fun path => { line with devicePath := path }
  | "baud_rate" => (readRate value).map fun rate => { line with baudRate := rate }
  | _ => .ok line

def SerialSettings.fieldNames : List String := ["device_path", "baud_rate"]

def SerialSettings.read (entries : Toml.Entries) : Except ReadError SerialSettings :=
  entries.foldlM (fun line (key, value) => line.readField key value) .unset

namespace ConnectionSettings

def readKind : Toml.Value → Except ReadError Kind
  | .string name =>
    match Kind.ofName? name with
    | some kind => .ok kind
    | none => .error (.unknownKind name)
  | found => .error (.wrongType found .kindName)

def readFields (kind : Kind) (entries : Toml.Entries) : Except ReadError ConnectionSettings :=
  match kind with
  | .rsn => (NetworkSettings.read entries).map rsn
  | .tcp => (NetworkSettings.read entries).map tcp
  | .udp => (NetworkSettings.read entries).map udp
  | .serial => (SerialSettings.read entries).map serial

def fieldNames : Kind → List String
  | .serial => SerialSettings.fieldNames
  | _ => NetworkSettings.fieldNames

/-- The settings of a kind from a list, which may stop early but not go on too long. -/
def readItems (kind : Kind) (items : List Toml.Value) : Except ReadError ConnectionSettings := do
  let settings ← readFields kind ((fieldNames kind).zip items)
  if (fieldNames kind).length < items.length then
    throw (.tooLong items.length (fieldNames kind).length)
  return settings

/-- The kind stands under `type`, or first in a list, and is read before all else. -/
def read : Toml.Value → Except ReadError ConnectionSettings
  | .table entries =>
    match entries.lookup "type" with
    | none => .error (.missingField "type")
    | some name => do readFields (← readKind name) entries
  | .array [] => .error (.missingField "type")
  | .array (name :: items) => do readItems (← readKind name) items
  | .moment => .error (.missingField "type")
  | found => .error (.wrongType found .connectionTable)

end ConnectionSettings

namespace Settings

/-- The interval, by name or first in a list; what else stands there does not count. -/
def readAgent : Toml.Value → Except ReadError UInt64
  | .table entries =>
    match entries.lookup "poll_interval_ms" with
    | none => .ok defaultPollInterval
    | some value => readInterval value
  | .array [] => .ok defaultPollInterval
  | .array (value :: _) => readInterval value
  | .moment => .ok defaultPollInterval
  | found => .error (.wrongType found .agentTable)

def readField (settings : Settings) (key : String) (value : Toml.Value) : Except ReadError Settings :=
  match key with
  | "agent" => (readAgent value).map fun interval => { settings with pollInterval := interval }
  | "connection" => (ConnectionSettings.read value).map fun connection => { settings with connection }
  | _ => .ok settings

def read (entries : Toml.Entries) : Except ReadError Settings :=
  entries.foldlM (fun settings (key, value) => settings.readField key value) default

/-- The settings that a text holds, whatever their values. -/
def decode (text : String) : Except ReadError Settings :=
  match Toml.read? text with
  | some entries => read entries
  | none => .error .malformed

/-- The settings that a text holds, if a program may run with them. -/
def parse (text : String) : Except Failure Settings :=
  match decode text with
  | .error error => .error (.invalidSettings .document error.message)
  | .ok settings => settings.validate.map fun _ => settings

end Settings
end InstrumentLink
