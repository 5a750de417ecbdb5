import InstrumentLink.Program

/-!
The command line. The agent runs on a machine that reaches itself and nothing else; the only file of it is the one
with the settings.
-/

namespace InstrumentLink

def readKind? (path : String) : IO (Option FileKind) := do
  try
    return some (.plain (← IO.FS.readBinFile path).toList)
  catch
    | .noFileOrDirectory .. => return none
    | _ => return some .directory

def machine (options : Options) : IO World := do
  let world := World.ofRoutes .loopback
  match ← readKind? options.config with
  | none => return world
  | some kind =>
    return { world with devices := { world.devices with files := world.devices.files.provide options.config kind } }

def printLines (lines : List String) : IO Unit := do
  lines.forM IO.println
  (← IO.getStdout).flush

def printResult (result : RunResult) : IO UInt32 := do
  printLines result.output
  IO.eprint result.errors
  return .ofNat result.exitCode

/-- Polls for good, and prints after each poll what is new in the log. -/
partial def pollForever (filter : LogFilter) (interval : Nat) (agent : Agent) (world : World) : IO Unit := do
  let (((agent, _), lines), world) := (Program.recording agent.poll).run world
  printLines (lines.filterMap (Program.Output.shown? filter))
  IO.sleep (.ofNat interval)
  pollForever filter interval agent (world.after .refuseIdle)

def serve (options : Options) (filter : LogFilter) (world : World) : IO UInt32 := do
  let ((lines, started), world) := (Program.start options).run world
  printLines (lines.filterMap (Program.Output.shown? filter))
  match started with
  | .error failure =>
    IO.eprintln failure.report
    return 1
  | .ok (settings, agent) =>
    let ((_, lines), world) := (Program.recording (Program.announce settings agent)).run world
    printLines (lines.filterMap (Program.Output.shown? filter))
    pollForever filter settings.pollInterval.toNat agent world
    return 0

end InstrumentLink

open InstrumentLink

def main (arguments : List String) : IO UInt32 := do
  let asked ← IO.getEnv "RUST_LOG"
  match Options.parse arguments with
  | .ok options =>
    let world ← machine options
    if options.once then printResult ((Program.run arguments asked []).run world).1
    else serve options (.choose asked options.verbose) world
  | .error _ => printResult ((Program.run arguments asked []).run (.ofRoutes .loopback)).1
