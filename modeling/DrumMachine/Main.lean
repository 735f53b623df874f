import DrumMachine.CommandLine.Run
import DrumMachine.Installed

/-! # The program

The outer layer: it reads the files that a run needs, plays in real time, and prints. What it does
is decided by `Run`. -/

namespace DrumMachine.Program

/-- The fault behind a failed attempt to read a file. -/
def fault (e : IO.Error) : Fault :=
  match e with
  | .noFileOrDirectory .. => .notFound
  | .inappropriateType _ code _ => if code == 20 then .notDirectory else .isDirectory
  | e => .other (toString e)

/-- What opening a path finds. -/
def openPath (path : String) : IO (Except Fault Opened) := do
  try
    let bytes ← IO.FS.readBinFile path
    return .ok (.file bytes.toList)
  catch e =>
    match fault e with
    | .isDirectory => return .ok .directory
    | other => return .error other

/-- What opening each of several paths finds. -/
def openPaths (paths : List String) : IO Files := do
  let found ← paths.mapM fun path => do return (path, ← openPath path)
  return fun path => (found.lookup path).getD (.error .notFound)

/-- All bytes of standard input. -/
partial def readAll (input : IO.FS.Stream) (bytes : List UInt8) : IO (List UInt8) := do
  let more ← input.read 65536
  if more.isEmpty then return bytes else readAll input (bytes ++ more.toList)

/-- Prints log entries. -/
def printLog (level : Level) (entries : List LogEntry) : IO Unit :=
  (LogEntry.upTo level entries).forM fun entry => IO.eprintln entry.line

/-- Puts out what a strike left in an outlet, and waits until the next step is due. -/
def perform (level : Level) (clock : StepClock) (outlet : Outlet) : IO Unit := do
  let started ← IO.monoNanosNow
  let output ← IO.getStdout
  output.write (ByteArray.mk outlet.sink.taken)
  output.flush
  printLog level outlet.log
  let now ← IO.monoNanosNow
  IO.sleep (clock.remaining started now / 1000000).toUInt32

/-- **The stage of a run in real time**, whose state is the outlet and what there is to be done.
Nothing cancels but the end of the program. -/
def stage (level : Level) (prepared : Prepared) : Stage (Outlet × IO Unit) where
  check world := (false, world)
  strike step last world :=
    let outlet := prepared.kit.strike step last { world.1 with sink := .new .willing, log := [] }
    (outlet, do world.2; perform level prepared.clock outlet)

/-- **Plays pass after pass** on top of what `report` counts: each one is that of `Playback.passes`,
and what it leaves to be done is done before the next. -/
partial def playOn (level : Level) (prepared : Prepared) (repeats : Bool) (report : Report)
    (outlet : Outlet) : IO Report := do
  match Playback.passes (stage level prepared) prepared.tab.steps repeats 1 report
    (outlet, pure ()) with
  | .underway report (outlet, actions) =>
    actions
    printLog level [Report.passEntry report.passes]
    playOn level prepared repeats report outlet
  | .ended report (_, actions) =>
    actions
    printLog level [Report.passEntry report.passes]
    return report

/-- Prepares a run. Standard input is read only if everything before it went well. -/
def prepare (options : Options) (files : Files) :
    IO (List LogEntry × Except RunError Prepared) := do
  let prepareOn (stdin : Source) :=
    Run.prepare Installed.readers Installed.directory options { files, stdin }
  match prepareOn (.ofBytes []) with
  | (log, .error (.cannotRead name e)) =>
    if options.file.isSome then return (log, .error (.cannotRead name e))
    let bytes ← readAll (← IO.getStdin) []
    return prepareOn (.ofBytes bytes)
  | prepared => return prepared

/-- Carries out a run. -/
def run (options : Options) : IO UInt32 := do
  if options.listKits then
    IO.print (Run.kitList Installed.directory)
    return Run.success.toUInt32
  let level := options.logLevel
  let configs ← openPaths options.config.toList
  let samples := match Run.settings Installed.readers options configs with
    | .ok settings => settings.acoustic.samplePaths.map (·.2)
    | .error _ => []
  let files ← openPaths (options.config.toList ++ options.file.toList ++ samples)
  match ← prepare options files with
  | (log, .error e) =>
    printLog level log
    IO.eprintln e.failure.report
    return Run.failed.toUInt32
  | (log, .ok prepared) =>
    printLog level (log ++ Run.openingLog prepared)
    let report ← playOn level prepared (!options.once) {} { sink := .new .willing }
    printLog level [Run.closingLog report]
    return Run.success.toUInt32

end DrumMachine.Program

open DrumMachine in
/-- Plays a drum tablature. -/
def main (arguments : List String) : IO UInt32 := do
  match Options.parse arguments with
  | .error e =>
    IO.eprintln ("error: " ++ e.message)
    return Run.misused.toUInt32
  | .ok .version =>
    IO.println versionText
    return Run.success.toUInt32
  | .ok .help =>
    IO.print helpText
    return Run.success.toUInt32
  | .ok (.run options) => Program.run options
