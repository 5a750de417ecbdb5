import InstrumentLink.Connection.Change

/-!
The options of the command line: their names, their help, and what they set. Options that are given change the
settings of the connection; the others leave them alone.
-/

namespace InstrumentLink

inductive Opt where
  | config
  | verbose
  | once
  | dataHost
  | dataPort
  | commandHost
  | commandPort
  | device
  | baudRate
  | help
  | version
  deriving DecidableEq, Repr

namespace Opt

def all : List Opt :=
  [config, verbose, once, dataHost, dataPort, commandHost, commandPort, device, baudRate, help, version]

def long : Opt → String
  | config => "config"
  | verbose => "verbose"
  | once => "once"
  | dataHost => "data-host"
  | dataPort => "data-port"
  | commandHost => "command-host"
  | commandPort => "command-port"
  | device => "device"
  | baudRate => "baud-rate"
  | help => "help"
  | version => "version"

def short? : Opt → Option Char
  | config => some 'c'
  | verbose => some 'v'
  | help => some 'h'
  | version => some 'V'
  | _ => none

def valueName? : Opt → Option String
  | config => some "PATH"
  | dataHost => some "HOST"
  | dataPort => some "PORT"
  | commandHost => some "HOST"
  | commandPort => some "PORT"
  | device => some "PATH"
  | baudRate => some "BAUD"
  | _ => none

def takesValue (opt : Opt) : Bool := opt.valueName?.isSome

def helpText : Opt → String
  | config => "Config file [default: " ++ Settings.defaultFile ++ "]"
  | verbose => "Enable verbose debug output"
  | once => "Run a single poll cycle, print the connection status and exit"
  | dataHost => "Data host (overrides config)"
  | dataPort => "Data port (overrides config)"
  | commandHost => "Command host (overrides config)"
  | commandPort => "Command port (overrides config)"
  | device => "Serial device path (overrides config)"
  | baudRate => "Serial baud rate (overrides config)"
  | help => "Print help"
  | version => "Print version"

def ofLong? (name : String) : Option Opt := all.find? (·.long = name)

def ofShort? (letter : Char) : Option Opt := all.find? (·.short? = some letter)

def shown (opt : Opt) : String :=
  "--" ++ opt.long ++
    match opt.valueName? with
    | some name => " <" ++ name ++ ">"
    | none => ""

end Opt

structure Options where
  config : String
  verbose : Bool
  once : Bool
  dataHost : Option String
  dataPort : Option UInt16
  commandHost : Option String
  commandPort : Option UInt16
  device : Option String
  baudRate : Option UInt32
  deriving DecidableEq, Repr

namespace Options

def default : Options := ⟨Settings.defaultFile, false, false, none, none, none, none, none, none⟩

/-- The changes that the options make to a connection, in the order in which they are made. -/
def changes (options : Options) : List Change :=
  [options.dataHost.map .dataHost, options.dataPort.map .dataPort, options.commandHost.map .commandHost,
    options.commandPort.map .commandPort, options.device.map .devicePath,
    options.baudRate.map .baudRate].reduceOption

def programName : String := "port-agent"

def versionText : String := programName ++ " 0.1.0\n"

def helpNames (opt : Opt) : String :=
  let letter := match opt.short? with
    | some c => String.ofList ['-', c, ',', ' ']
    | none => "    "
  letter ++ opt.shown

/-- The help texts stand below one another, two blanks behind the longest names. -/
def helpLine (opt : Opt) : String :=
  let names := helpNames opt
  let width := ((Opt.all.map fun opt => (helpNames opt).length).max?).getD 0
  "  " ++ names ++ String.ofList (List.replicate (width + 2 - names.length) ' ') ++ opt.helpText ++ "\n"

def help : String :=
  "Connection layer for a port agent bridging serial and network instruments\n\nUsage: " ++ programName ++
    " [OPTIONS]\n\nOptions:\n" ++ String.join (Opt.all.map helpLine)

end Options
end InstrumentLink
