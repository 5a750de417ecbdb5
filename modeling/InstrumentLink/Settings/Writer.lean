import InstrumentLink.Settings.Basic
import InstrumentLink.Toml.Writer

/-!
The settings as a TOML text: a table for the agent and one for the connection, with every field of its kind.
-/

namespace InstrumentLink

def numberLine (key : String) (n : Nat) : String := key ++ " = " ++ toString n ++ "\n"

def textLine (key : String) (text : String) : String := key ++ " = " ++ Toml.stringText text ++ "\n"

def NetworkSettings.lines (network : NetworkSettings) : String :=
  textLine "data_host" network.dataHost ++ numberLine "data_port" network.dataPort.toNat ++
    textLine "command_host" network.commandHost ++ numberLine "command_port" network.commandPort.toNat

def SerialSettings.lines (line : SerialSettings) : String :=
  textLine "device_path" line.devicePath ++ numberLine "baud_rate" line.baudRate.toNat

namespace ConnectionSettings

def fieldLines : ConnectionSettings → String
  | rsn network | tcp network | udp network => network.lines
  | serial line => line.lines

def lines (settings : ConnectionSettings) : String :=
  textLine "type" settings.kind.name ++ settings.fieldLines

end ConnectionSettings

namespace Settings

def intervalTooLarge : String := "out-of-range value for u64 type"

/-- Fails for an interval of 2 to the 63 or more, as whole numbers in TOML end before that. -/
def render (settings : Settings) : Except String String :=
  if settings.pollInterval.toNat < 0x8000000000000000 then
    .ok ("[agent]\n" ++ numberLine "poll_interval_ms" settings.pollInterval.toNat ++
      "\n[connection]\n" ++ settings.connection.lines)
  else .error intervalTooLarge

end Settings
end InstrumentLink
