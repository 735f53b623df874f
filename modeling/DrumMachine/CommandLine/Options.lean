import DrumMachine.Log
import DrumMachine.Text.Numeral
import DrumMachine.Tempo

/-! # Command-line options

Arguments are read from left to right. A long option has its value after an equals sign or in the
next argument, a short one may also have it right behind its letter, and short flags may share a
dash. After two dashes everything is a file. Each option may be given once, except for the one that
asks for a more detailed log. The first argument at fault decides, and so does the first one that
asks for the version or for help. -/

namespace DrumMachine

/-- **What is asked of a run.** -/
structure Options where
  /-- The tablature; without it, it is read from standard input. -/
  file : Option String := none
  bpm : Option UInt32 := none
  kit : Option String := none
  /-- The settings file. -/
  config : Option String := none
  /-- Whether to play once instead of repeating. -/
  once : Bool := false
  /-- Whether to list the kits and do nothing else. -/
  listKits : Bool := false
  /-- How often a more detailed log was asked for. -/
  verbosity : Nat := 0
  /-- Whether to log no more than warnings. -/
  quiet : Bool := false
  deriving DecidableEq, Repr

/-- **What the command line asks for.** -/
inductive Request where
  | run (options : Options)
  | version
  | help
  deriving DecidableEq, Repr

/-- **What is wrong with a command line.** -/
inductive UsageError where
  | unknownOption (argument : String)
  | unexpectedArgument (argument : String)
  | repeated (option : String)
  | missingValue (option : String)
  | unexpectedValue (option value : String)
  | invalidValue (option value : String)
  | verboseAndQuiet
  deriving DecidableEq, Repr

/-- The text of a usage error. -/
def UsageError.message : UsageError → String
  | unknownOption argument | unexpectedArgument argument => "unexpected argument: " ++ argument
  | repeated option => option ++ " cannot be given more than once"
  | missingValue option => option ++ " needs a value"
  | unexpectedValue option value => option ++ " takes no value: " ++ value
  | invalidValue option value => "invalid value for " ++ option ++ ": " ++ value
  | verboseAndQuiet => "--verbose and --quiet exclude each other"

namespace Options

/-- An option that takes no value. -/
inductive Flag where
  | once
  | listKits
  | verbose
  | quiet
  | version
  | help
  deriving DecidableEq, Repr

/-- An option that takes a value. -/
inductive Setting where
  | bpm
  | kit
  | config
  deriving DecidableEq, Repr

/-- The flag of a long name. -/
def longFlag? : String → Option Flag
  | "once" => some .once
  | "list-kits" => some .listKits
  | "verbose" => some .verbose
  | "quiet" => some .quiet
  | "version" => some .version
  | "help" => some .help
  | _ => none

/-- The flag of a letter. -/
def shortFlag? : Char → Option Flag
  | 'v' => some .verbose
  | 'q' => some .quiet
  | 'V' => some .version
  | 'h' => some .help
  | _ => none

/-- The setting of a long name. -/
def longSetting? : String → Option Setting
  | "bpm" => some .bpm
  | "kit" => some .kit
  | "config" => some .config
  | _ => none

/-- The setting of a letter. -/
def shortSetting? : Char → Option Setting
  | 'b' => some .bpm
  | 'k' => some .kit
  | 'c' => some .config
  | _ => none

/-- The long name of a flag, with its dashes. -/
def Flag.name : Flag → String
  | once => "--once"
  | listKits => "--list-kits"
  | verbose => "--verbose"
  | quiet => "--quiet"
  | version => "--version"
  | help => "--help"

/-- The long name of a setting, with its dashes. -/
def Setting.name : Setting → String
  | bpm => "--bpm"
  | kit => "--kit"
  | config => "--config"

/-- **Reads a tempo**: a whole number in base ten, maybe with a plus sign, that is not zero and
fits into 32 bits. -/
def tempo? (text : String) : Option UInt32 :=
  let digits := match text.toList with
    | '+' :: digits => digits
    | digits => digits
  match Text.Numeral.number? 10 digits with
  | none => none
  | some n => if minBpm.toNat ≤ n ∧ n < UInt32.size then some n.toUInt32 else none

/-- Notes the value of a setting, which must not have one yet. -/
def set (setting : Setting) (value : String) (o : Options) : Except UsageError Options :=
  match setting with
  | .bpm =>
    if o.bpm.isSome then .error (.repeated setting.name)
    else
      match tempo? value with
      | none => .error (.invalidValue setting.name value)
      | some bpm => .ok { o with bpm := some bpm }
  | .kit =>
    if o.kit.isSome then .error (.repeated setting.name) else .ok { o with kit := some value }
  | .config =>
    if o.config.isSome then .error (.repeated setting.name)
    else if value.isEmpty then .error (.invalidValue setting.name value)
    else .ok { o with config := some value }

/-- Notes a file, of which there may be one. -/
def setFile (path : String) (o : Options) : Except UsageError Options :=
  if o.file.isSome then .error (.unexpectedArgument path)
  else if path.isEmpty then .error (.invalidValue "FILE" path)
  else .ok { o with file := some path }

/-- What reading an argument comes to. -/
inductive Progress where
  /-- The options so far. -/
  | noted (options : Options)
  /-- A request that nothing can change any more. -/
  | settled (request : Request)
  /-- The options so far, and a setting whose value is the next argument. -/
  | awaits (options : Options) (setting : Setting)

/-- Notes a flag. -/
def raise (flag : Flag) (o : Options) : Except UsageError Progress :=
  match flag with
  | .once =>
    if o.once then .error (.repeated flag.name) else .ok (.noted { o with once := true })
  | .listKits =>
    if o.listKits then .error (.repeated flag.name) else .ok (.noted { o with listKits := true })
  | .verbose => .ok (.noted { o with verbosity := o.verbosity + 1 })
  | .quiet =>
    if o.quiet then .error (.repeated flag.name) else .ok (.noted { o with quiet := true })
  | .version => .ok (.settled .version)
  | .help => .ok (.settled .help)

/-- Splits the value off a long option, if it has one. -/
def splitValue (text : List Char) : String × Option String :=
  match text.span (· != '=') with
  | (name, []) => (String.ofList name, none)
  | (name, _ :: value) => (String.ofList name, some (String.ofList value))

/-- Reads a long option, given without its dashes. -/
def long (text : List Char) (o : Options) : Except UsageError Progress :=
  match splitValue text with
  | (name, value) =>
    match longFlag? name, longSetting? name, value with
    | some flag, _, none => o.raise flag
    | some flag, _, some value => .error (.unexpectedValue flag.name value)
    | none, some setting, none => .ok (.awaits o setting)
    | none, some setting, some value => (o.set setting value).map .noted
    | none, none, _ => .error (.unknownOption ("--" ++ String.ofList text))

/-- Drops an equals sign between a letter and its value. -/
def dropEquals : List Char → List Char
  | '=' :: value => value
  | value => value

/-- Reads letters that share a dash. -/
def short : List Char → Options → Except UsageError Progress
  | [], o => .ok (.noted o)
  | c :: rest, o =>
    match shortFlag? c, shortSetting? c with
    | some flag, _ =>
      match o.raise flag with
      | .ok (.noted o) => short rest o
      | result => result
    | none, some setting =>
      if rest.isEmpty then .ok (.awaits o setting)
      else (o.set setting (String.ofList (dropEquals rest))).map .noted
    | none, none => .error (.unknownOption (String.ofList ['-', c]))

/-- Whether an argument is an option and not a value or a file. -/
def isOption (argument : String) : Bool :=
  match argument.toList with
  | '-' :: _ :: _ => true
  | _ => false

/-- Reads an argument. -/
def argument (text : String) (o : Options) : Except UsageError Progress :=
  match text.toList with
  | '-' :: '-' :: name => o.long name
  | '-' :: c :: rest => short (c :: rest) o
  | _ => (o.setFile text).map .noted

/-- The request at the end of the arguments. -/
def finish (o : Options) : Except UsageError Request :=
  if o.quiet && 0 < o.verbosity then .error .verboseAndQuiet else .ok (.run o)

/-- Reads arguments that are all files. -/
def files : List String → Options → Except UsageError Request
  | [], o => o.finish
  | path :: rest, o =>
    match o.setFile path with
    | .error e => .error e
    | .ok o => files rest o

/-- Reads on; `awaited` is a setting whose value comes next. -/
def scan : (awaited : Option Setting) → List String → Options → Except UsageError Request
  | none, [], o => o.finish
  | some setting, [], _ => .error (.missingValue setting.name)
  | some setting, value :: rest, o =>
    if isOption value then .error (.missingValue setting.name)
    else
      match o.set setting value with
      | .error e => .error e
      | .ok o => scan none rest o
  | none, text :: rest, o =>
    if text == "--" then files rest o
    else
      match o.argument text with
      | .error e => .error e
      | .ok (.settled request) => .ok request
      | .ok (.noted o) => scan none rest o
      | .ok (.awaits o setting) => scan (some setting) rest o

/-- **Reads the arguments of a command line.** -/
def parse (arguments : List String) : Except UsageError Request := scan none arguments {}

/-- How much of the log is shown. -/
def logLevel (o : Options) : Level :=
  if o.quiet then .warning else if o.verbosity = 0 then .info else .debug

example : parse [] = .ok (.run {}) := rfl

end Options

end DrumMachine
