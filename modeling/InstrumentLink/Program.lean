import InstrumentLink.Agent
import InstrumentLink.Log.Filter
import InstrumentLink.Options.Parser
import InstrumentLink.Settings.Reader

/-!
The program: it reads the command line and the settings, makes an agent of them, and polls once or until it is told
to stop.
-/

namespace InstrumentLink

namespace Settings

def notText : IoError := .other "stream did not contain valid UTF-8"

def load (path : String) : Act (Except Failure Settings) := do
  match (← get).devices.files.find path with
  | .error _ =>
    Act.say .info .settings ("No config at " ++ path ++ ", using defaults")
    return .ok default
  | .ok (.plain content) =>
    match String.fromUTF8? ⟨content.toArray⟩ with
    | some text => return parse text
    | none => return .error (.readSettings path notText)
  | .ok .directory => return .error (.readSettings path .isDirectory)
  | .ok (.device error) => return .error (.readSettings path (.os error))
  | .ok (.terminal _) => return .ok default

end Settings

/-- A number of milliseconds as a time: in seconds from one second on, with no more places than it needs. -/
def timeText (milliseconds : Nat) : String :=
  if milliseconds < 1000 then toString milliseconds ++ "ms"
  else
    let rest := Nat.toDigits 10 (milliseconds % 1000)
    let places := List.replicate (3 - rest.length) '0' ++ rest
    let kept := (places.reverse.dropWhile (· = '0')).reverse
    toString (milliseconds / 1000) ++ String.ofList (if kept.isEmpty then [] else '.' :: kept) ++ "s"

/-- What a run of the program leaves: its exit code, and the lines and the text that it wrote. -/
structure RunResult where
  exitCode : Nat
  output : List String
  errors : String
  deriving DecidableEq, Repr

namespace Program

inductive Output where
  | logged (entry : LogEntry)
  | plain (text : String)
  deriving DecidableEq, Repr

def Output.shown? (filter : LogFilter) : Output → Option String
  | logged entry => if filter.allows entry then some entry.guardedLine else none
  | plain text => some text

def recording {α : Type} (act : Act α) : Act (α × List Output) := do
  let before := (← get).log.length
  let a ← act
  return (a, ((← get).log.drop before).map .logged)

def agentOf (options : Options) (settings : Settings) : Act Agent := do
  return .ofConnection (← (Connection.ofSettings settings.connection).applyAll options.changes)

def once (agent : Agent) : Act (List Output) := do
  let ((agent, status), lines) ← recording agent.poll
  let (_, rest) ← recording agent.connection.dispose
  return lines ++ .plain status.text :: rest

def announce (settings : Settings) (agent : Agent) : Act Unit :=
  Act.say .info .program ("Starting port agent: " ++ agent.connection.kind.name ++
    " connection, polling every " ++ timeText settings.pollInterval.toNat)

def poll (settings : Settings) (turns : List Turn) (agent : Agent) : Act (List Output) := do
  let (_, lines) ← recording do
    announce settings agent
    agent.run false turns
  return lines

def start (options : Options) : Act (List Output × Except Failure (Settings × Agent)) := do
  let (settings, lines) ← recording (Settings.load options.config)
  match settings with
  | .error failure => return (lines, .error failure)
  | .ok settings =>
    let (agent, changes) ← recording (agentOf options settings)
    return (lines ++ changes, .ok (settings, agent))

/-- What the program does with good options: the lines it writes, and the failure it may end with. -/
def serve (options : Options) (turns : List Turn) : Act (List Output × Option Failure) := do
  let (lines, started) ← start options
  match started with
  | .error failure => return (lines, some failure)
  | .ok (settings, agent) =>
    let rest ← if options.once then once agent else poll settings turns agent
    return (lines ++ rest, none)

def linesOf (text : String) : List String :=
  let lines := (text.toList.splitOn '\n').map String.ofList
  if lines.getLast? = some "" then lines.dropLast else lines

/-- A run of the program. What is shown of the log is asked for by a filter, if by anything but the options. -/
def run (arguments : List String) (filter : Option String) (turns : List Turn) : Act RunResult := do
  match Options.parse arguments with
  | .error .help => return ⟨0, linesOf Options.help, ""⟩
  | .error .version => return ⟨0, linesOf Options.versionText, ""⟩
  | .error (.wrong error) => return ⟨2, [], error.message⟩
  | .ok options =>
    let (lines, failure) ← serve options turns
    let output := lines.filterMap (Output.shown? (.choose filter options.verbose))
    match failure with
    | none => return ⟨0, output, ""⟩
    | some failure => return ⟨1, output, failure.report ++ "\n"⟩

end Program
end InstrumentLink
