import DrumMachine.CommandLine.Options
import DrumMachine.Kit.Directory
import DrumMachine.Settings.Load

/-! # Runs

A run loads the settings, makes the clock, finds the kit, opens the tablature, builds the kit and
reads the tablature, in this order; the first stage that fails ends it, before anything is written.
Then the tablature is played. What the command line says goes before what a settings file says, and
that before the defaults. -/

namespace DrumMachine

/-- **What a run can read.** -/
structure Inputs where
  files : Files
  stdin : Source

/-- **Why a run fails.** -/
inductive RunError where
  | settings (error : LoadError)
  | tempo (error : TempoError)
  /-- No kit has the name; `names` lists those there are. -/
  | unknownKit (name names : String)
  | cannotOpen (path : String) (fault : Fault)
  | cannotStart (kit : String) (error : KitError)
  | cannotRead (name : String) (error : Tablature.ReadError)
  deriving DecidableEq, Repr

/-- **A run error as a failure.** -/
def RunError.failure : RunError → Failure
  | settings e => e.failure
  | tempo e => ⟨e.message, []⟩
  | unknownKit name names => ⟨"invalid kit: " ++ name ++ " (supported: " ++ names ++ ")", []⟩
  | cannotOpen path fault => ⟨"cannot open " ++ Text.Quoted.encode path, [fault.message]⟩
  | cannotStart kit e => e.failure.within ("cannot start the " ++ kit ++ " kit")
  | cannotRead name e => ⟨"cannot read " ++ name, [e.message]⟩

/-- **A run that is ready to play.** -/
structure Prepared where
  /-- How the tablature is called. -/
  name : String
  clock : StepClock
  kit : Kit
  tab : Tablature

namespace Run

/-- How a tablature from standard input is called. -/
def stdinName : String := "(standard input)"

/-- **The settings of a run**: those of the settings file or the defaults, with what the command
line gives in their place. -/
def settings (readers : SettingsFormat → Serial.Reader) (options : Options) (files : Files) :
    Except LoadError Settings :=
  let loaded : Except LoadError Settings := match options.config with
    | none => .ok .default
    | some path => Settings.load readers files path
  match loaded with
  | .error e => .error e
  | .ok settings =>
    .ok { settings with
      bpm := options.bpm.getD settings.bpm
      kit := options.kit.getD settings.kit }

/-- Opens the tablature: what it is called and what it delivers. -/
def openInput (options : Options) (inputs : Inputs) : Except RunError (String × Source) :=
  match options.file with
  | none => .ok (stdinName, inputs.stdin)
  | some path =>
    match inputs.files path with
    | .error fault => .error (.cannotOpen path fault)
    | .ok opened => .ok (path, opened.source)

/-- Reads the tablature for a kit that has been built. -/
def readInput (name : String) (source : Source) (clock : StepClock) (kit : Kit) :
    List LogEntry × Except RunError Prepared :=
  match kit.read source with
  | .error e => ([], .error (.cannotRead name e))
  | .ok tab => ([Tablature.readEntry tab], .ok ⟨name, clock, kit, tab⟩)

/-- **Everything up to playing**, together with what is logged on the way. -/
def prepare (readers : SettingsFormat → Serial.Reader) (directory : Directory) (options : Options)
    (inputs : Inputs) : List LogEntry × Except RunError Prepared :=
  match settings readers options inputs.files with
  | .error e => ([], .error (.settings e))
  | .ok settings =>
    match StepClock.new? settings.bpm with
    | .error e => ([], .error (.tempo e))
    | .ok clock =>
      -- the kit is only looked up here; it is built after the tablature could be opened
      match directory.find? settings.kit with
      | none => ([], .error (.unknownKit settings.kit directory.names))
      | some entry =>
        match openInput options inputs with
        | .error e => ([], .error e)
        | .ok (name, source) =>
          match entry.build inputs.files settings with
          | (log, .error e) => (log, .error (.cannotStart entry.name e))
          | (log, .ok kit) =>
            match readInput name source clock kit with
            | (more, result) => (log ++ more, result)

/-- What is logged before playing. -/
def openingLog (prepared : Prepared) : List LogEntry :=
  [⟨.info, "Name: " ++ prepared.name, []⟩,
    ⟨.info, "Tempo: " ++ toString prepared.clock.bpm ++ " bpm", []⟩]

/-- What is logged after playing. -/
def closingLog (report : Report) : LogEntry :=
  ⟨.info, "playback finished",
    [("passes", toString report.passes), ("steps", toString report.stepsPlayed)]⟩

/-- The stage of a run, which is cancelled once so many bytes have been written. -/
def stage (kit : Kit) (interruptAfter : Option Nat) : Stage Outlet where
  check outlet := (interruptAfter.any (· ≤ outlet.sink.taken.size), outlet)
  strike := kit.strike

/-- **Plays**, and ends the line of a pass that was broken off. A run that is not interrupted has
to play once to have an answer; one that is interrupted after `n` bytes is through with less than
`n + 1` passes if every pass writes something. -/
def play (prepared : Prepared) (repeats : Bool) (interruptAfter : Option Nat) (outlet : Outlet) :
    Option (Report × Outlet) :=
  (Playback.play (stage prepared.kit interruptAfter) prepared.tab repeats
    (interruptAfter.getD 0 + 1) outlet).map fun (report, outlet) =>
      (report, if report.midPass then prepared.kit.passInterrupted outlet else outlet)

/-- The list of kits. -/
def kitList (directory : Directory) : String :=
  "Supported drum kits:-\n" ++ String.join (directory.map fun entry =>
    "  " ++ entry.name ++ "".pushn ' ' (10 - entry.name.length) ++ " " ++ entry.description ++ "\n")

/-- **What a run leaves behind.** -/
structure Outcome where
  code : Nat
  /-- What was written to standard output. -/
  output : List UInt8 := []
  /-- What was logged, whatever its level. -/
  log : List LogEntry := []
  /-- The failure that ended the run. -/
  failure : Option Failure := none

/-- The exit code of a run that succeeds. -/
def success : Nat := 0

/-- The exit code of a run that fails. -/
def failed : Nat := 1

/-- The exit code of a command line that is not understood. -/
def misused : Nat := 2

/-- **A whole run**, if it ends. -/
def outcome (readers : SettingsFormat → Serial.Reader) (directory : Directory) (options : Options)
    (inputs : Inputs) (interruptAfter : Option Nat) : Option Outcome :=
  if options.listKits then
    some { code := success, output := Text.Utf8.encode (kitList directory) }
  else
    match prepare readers directory options inputs with
    | (log, .error e) => some { code := failed, log, failure := some e.failure }
    | (log, .ok prepared) =>
      (play prepared (!options.once) interruptAfter { sink := .new .willing }).map
        fun (report, outlet) =>
          { code := success
            output := outlet.sink.taken.toList
            log := log ++ openingLog prepared ++ report.log ++ outlet.log ++ [closingLog report] }

/-- What is shown of the log and of the failure: lines of text. -/
def shown (level : Level) (outcome : Outcome) : List String :=
  (LogEntry.upTo level outcome.log).map LogEntry.line ++
    (outcome.failure.map Failure.report).toList

end Run

/-- The name and the version of the program. -/
def versionText : String := "drumz 0.1.0"

/-- How the program is used. -/
def helpText : String :=
  "Play a drum tablature\n\n" ++
  "Usage: drumz [OPTIONS] [FILE]\n\n" ++
  "Arguments:\n" ++
  "  [FILE]  Tablature file (standard input when omitted)\n\n" ++
  "Options:\n" ++
  "  -b, --bpm <BPM>        Beats per minute [default: 120]\n" ++
  "  -k, --kit <KIT>        Kind of drum kit [default: text]\n" ++
  "  -c, --config <CONFIG>  Settings file (.yaml or .toml)\n" ++
  "      --once             Play the tablature once instead of looping\n" ++
  "      --list-kits        List the supported drum kits and exit\n" ++
  "  -v, --verbose...       More logging\n" ++
  "  -q, --quiet            Only log warnings and errors\n" ++
  "  -h, --help             Print help\n" ++
  "  -V, --version          Print version\n"

end DrumMachine
