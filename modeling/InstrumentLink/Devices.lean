import InstrumentLink.Files
import InstrumentLink.Network.Registry
import InstrumentLink.Network.Stream
import InstrumentLink.Terminal

/-!
Serial devices: what can be opened as a serial line, and the bytes on their way between an open line and the
device.
-/

namespace InstrumentLink

structure Line where
  /-- What has been opened, which may turn out to be no terminal. -/
  file : FileKind
  path : String
  baudRate : UInt32
  deriving DecidableEq, Repr

structure Devices where
  files : FileTree
  terminals : Registry Terminal
  lines : Registry Line

namespace Devices

def readTimeout : Nat := 1

def standard : Devices := ⟨.standard, Registry.empty.add .fresh, .empty⟩

def terminal? (devices : Devices) (id : Nat) : Option Terminal := devices.terminals.find? id

def line? (devices : Devices) (id : Nat) : Option Line := devices.lines.find? id

def modifyTerminal (id : Nat) (f : Terminal → Terminal) (devices : Devices) : Devices :=
  { devices with terminals := devices.terminals.modify id f }

def stopTyping (id : Nat) (devices : Devices) : Devices :=
  devices.modifyTerminal id fun terminal => { terminal with typing := false }

def refusal (error : Int) : String :=
  if error = 25 then "Not a typewriter" else osErrorText error

def closeLine (id : Nat) (devices : Devices) : Devices :=
  { devices with lines := devices.lines.remove id }

def addLine (line : Line) (devices : Devices) : Devices :=
  { devices with lines := devices.lines.add line }

/-- Sets an open line up for bytes that pass as they are. Only a terminal can be; it takes every baud rate. -/
def setUp (id : Nat) (devices : Devices) : Except IoError Unit × Devices :=
  match (devices.line? id).map Line.file with
  | some (.terminal id) => (.ok (), devices.stopTyping id)
  | some (.device error) => (.error (.other (refusal error)), devices)
  | _ => (.error (.other (refusal 25)), devices)

/-- Opens a line and sets it up. If that fails, the line is closed again. -/
def openAndSetUp (line : Line) (devices : Devices) : Except IoError Nat × Devices :=
  let id := devices.lines.next
  match (devices.addLine line).setUp id with
  | (.error error, devices) => (.error error, devices.closeLine id)
  | (.ok (), devices) => (.ok id, devices)

def openLine (path : String) (baudRate : UInt32) (devices : Devices) : Except IoError Nat × Devices :=
  match devices.files.find path with
  | .error error => (.error (.other error.message), devices)
  | .ok .directory => (.error (.other "Is a directory"), devices)
  | .ok file => devices.openAndSetUp ⟨file, path, baudRate⟩

def lineTerminal? (devices : Devices) (id : Nat) : Option (Nat × Terminal) :=
  match (devices.line? id).map Line.file with
  | some (.terminal id) => (devices.terminal? id).map (id, ·)
  | _ => none

def isAlive (devices : Devices) (id : Nat) : Bool :=
  match devices.lineTerminal? id with
  | some (_, terminal) => terminal.present
  | none => false

def receive (id count : Nat) (devices : Devices) : Received × Devices :=
  match devices.lineTerminal? id with
  | none => (.ended, devices)
  | some (number, terminal) =>
    if !terminal.present then (.ended, devices)
    else if terminal.inbound.isEmpty then (.nothing, devices)
    else
      (.data (terminal.inbound.take count), devices.modifyTerminal number fun terminal =>
        { terminal with inbound := terminal.inbound.drop count })

def send (id : Nat) (bytes : List UInt8) (devices : Devices) : Bool × Devices :=
  match devices.lineTerminal? id with
  | none => (false, devices)
  | some (number, terminal) =>
    if terminal.present then
      (true, devices.modifyTerminal number fun terminal =>
        { terminal with outbound := terminal.outbound ++ bytes })
    else (false, devices)

def plug (path : String) (devices : Devices) : Nat × Devices :=
  let id := devices.terminals.next
  (id, { devices with
    files := devices.files.add path (.terminal id)
    terminals := devices.terminals.add .fresh })

def unplug (id : Nat) (devices : Devices) : Devices :=
  { devices.modifyTerminal id (fun terminal => { terminal with present := false }) with
    files := devices.files.removeTerminal id }

def deviceSend (id : Nat) (bytes : List UInt8) (devices : Devices) : Devices :=
  devices.modifyTerminal id (·.arrive bytes)

def deviceReceive (id count : Nat) (devices : Devices) : Received × Devices :=
  match devices.terminal? id with
  | none => (.ended, devices)
  | some terminal =>
    if terminal.outbound.isEmpty then (.nothing, devices)
    else
      (.data (terminal.outbound.take count), devices.modifyTerminal id fun terminal =>
        { terminal with outbound := terminal.outbound.drop count })

end Devices
end InstrumentLink
