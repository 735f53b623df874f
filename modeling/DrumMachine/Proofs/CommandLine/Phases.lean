import DrumMachine.CommandLine.Run

/-! # The phases of a run

Before a run plays it goes through phases (`Phase`). Each may fail for a reason of its own
(`Phase.error?`), and several of them may have one. The run fails with that of the first
(`error?_prepare`).

What a phase looks at is settled without the phases that come before it: a tempo from the command
line, say, is right or wrong whatever becomes of the settings file. -/

namespace DrumMachine.Run

/-- **What a run goes through before it plays**, in this order. -/
inductive Phase where
  /-- Reads the text of the settings file. -/
  | readConfig
  /-- Tells its format by its extension. -/
  | chooseFormat
  | parseConfig
  /-- Looks for flaws of the settings. -/
  | checkConfig
  | setTempo
  | findKit
  | openTab
  | buildKit
  | readTab
  deriving DecidableEq, Repr

namespace Phase

/-- The phases that load the settings file. -/
def loading : List Phase := [readConfig, chooseFormat, parseConfig, checkConfig]

/-- The phases that come after it. -/
def starting : List Phase := [setTempo, findKit, openTab, buildKit, readTab]

/-- **All phases**, in their order. -/
def all : List Phase := loading ++ starting

end Phase

/-- The error that something ended with. -/
def error? {ε α : Type} : Except ε α → Option ε
  | .error e => some e
  | .ok _ => none

/-- What failed ended with its error. -/
@[simp] theorem error?_error {ε α : Type} (e : ε) : error? (.error e : Except ε α) = some e := rfl

/-- What succeeded ended with none. -/
@[simp] theorem error?_ok {ε α : Type} (a : α) : error? (.ok a : Except ε α) = none := rfl

/-! ## What is in effect -/

section Effective

variable (readers : SettingsFormat → Serial.Reader) (options : Options) (files : Files)

/-- **The settings that are there before the command line**: those that are loaded from the settings
file, or the defaults where none is given. -/
def configured? : Option Settings :=
  match options.config with
  | none => some .default
  | some path => (Settings.load readers files path).toOption

/-- **The tempo in effect**: that of the command line if it has one, else that of the settings. -/
def effectiveBpm? : Option UInt32 :=
  options.bpm.or ((configured? readers options files).map (·.bpm))

/-- **The name of the kit in effect**, likewise. -/
def effectiveKit? : Option String :=
  options.kit.or ((configured? readers options files).map (·.kit))

/-- **The settings in effect**: those that are there, with the tempo and the kit in effect. -/
def effective? : Option Settings := do
  let settings ← configured? readers options files
  let bpm ← effectiveBpm? readers options files
  let kit ← effectiveKit? readers options files
  return { settings with bpm, kit }

end Effective

/-! ## What is wrong with a phase -/

section Errors

variable (readers : SettingsFormat → Serial.Reader) (directory : Directory) (options : Options)
  (inputs : Inputs)

/-- **Building the kit in effect**: its entry in the directory, and what comes of it. -/
def built? : Option (KitEntry × Except KitError Kit) := do
  let settings ← effective? readers options inputs.files
  let entry ← directory.find? settings.kit
  return (entry, (entry.build inputs.files settings).2)

/-- **What is wrong with a phase**, taken by itself. Nothing is where it has nothing to do, or
nothing to do it with. -/
def Phase.error? : Phase → Option RunError
  | readConfig => do
    let path ← options.config
    let fault ← Run.error? (inputs.files.readText path)
    return .settings (.unreadable path fault)
  | chooseFormat => do
    let path ← options.config
    if SettingsFormat.ofPath? path = none then some (.settings (.unsupported path)) else none
  | parseConfig => do
    let path ← options.config
    let text ← (inputs.files.readText path).toOption
    let format ← SettingsFormat.ofPath? path
    let error ← Run.error? (Settings.parse readers format text)
    return .settings error
  | checkConfig => do
    let path ← options.config
    let text ← (inputs.files.readText path).toOption
    let format ← SettingsFormat.ofPath? path
    let settings ← (Settings.parse readers format text).toOption
    let flaw ← settings.flaw?
    return .settings (.flawed path flaw)
  | setTempo => do
    let bpm ← effectiveBpm? readers options inputs.files
    let error ← Run.error? (StepClock.new? bpm)
    return .tempo error
  | findKit => do
    let name ← effectiveKit? readers options inputs.files
    if (directory.find? name).isNone then some (.unknownKit name directory.names) else none
  | openTab => do
    let path ← options.file
    let fault ← Run.error? (inputs.files path)
    return .cannotOpen path fault
  | buildKit => do
    let (entry, result) ← built? readers directory options inputs
    let error ← Run.error? result
    return .cannotStart entry.name error
  | readTab => do
    let (_, result) ← built? readers directory options inputs
    let kit ← result.toOption
    let (name, source) ← (openInput options inputs).toOption
    let error ← Run.error? (kit.read source)
    return .cannotRead name error

/-! ## Loading settings -/

/-- **The settings of a run fail with what is wrong with the first phase of loading them.** -/
theorem error?_loading :
    Phase.loading.findSome? (Phase.error? readers directory options inputs) =
      (error? (settings readers options inputs.files)).map .settings := by
  simp only [Phase.loading, List.findSome?_cons, List.findSome?_nil, Phase.error?, settings,
    Settings.load]
  -- where a phase fails, the later ones have nothing to go on
  cases options.config with
  | none => rfl
  | some path =>
    simp only [Option.bind_eq_bind, Option.bind_some, Option.pure_def]
    cases inputs.files.readText path with
    | error fault => rfl
    | ok text =>
      simp only [error?_ok, Except.toOption, Option.bind_some, Option.bind_none]
      cases SettingsFormat.ofPath? path with
      | none => rfl
      | some format =>
        simp only [Option.bind_some, reduceCtorEq, if_false]
        cases Settings.parse readers format text with
        | error e => rfl
        | ok loaded =>
          simp only [error?_ok, Option.bind_some, Option.bind_none]
          cases loaded.flaw? with
          | none => rfl
          | some flaw => rfl

/-! ## Starting -/

/-- Settings that are loaded are in effect with what the command line gives in their place. -/
theorem effective?_eq (files : Files) :
    effective? readers options files = (settings readers options files).toOption := by
  simp only [effective?, effectiveBpm?, effectiveKit?, configured?, settings]
  cases options.config with
  | none => cases options.bpm <;> cases options.kit <;> rfl
  | some path =>
    simp only
    cases Settings.load readers files path with
    | error e => rfl
    | ok loaded => cases options.bpm <;> cases options.kit <;> rfl

variable {readers options inputs}

/-- The tempo in effect is that of the settings of the run. -/
theorem effectiveBpm?_eq {files : Files} {loaded : Settings}
    (h : settings readers options files = .ok loaded) :
    effectiveBpm? readers options files = some loaded.bpm := by
  have heffective := effective?_eq readers options files
  rw [h, Except.toOption] at heffective
  simp only [effective?, Option.bind_eq_bind, Option.bind_eq_some_iff] at heffective
  obtain ⟨_, -, bpm, hbpm, _, -, hloaded⟩ := heffective
  cases hloaded
  exact hbpm

/-- The kit in effect is that of the settings of the run. -/
theorem effectiveKit?_eq {files : Files} {loaded : Settings}
    (h : settings readers options files = .ok loaded) :
    effectiveKit? readers options files = some loaded.kit := by
  have heffective := effective?_eq readers options files
  rw [h, Except.toOption] at heffective
  simp only [effective?, Option.bind_eq_bind, Option.bind_eq_some_iff] at heffective
  obtain ⟨_, -, _, -, kit, hkit, hloaded⟩ := heffective
  cases hloaded
  exact hkit

variable (readers options inputs)

/-- Opening the tablature fails as its phase does. -/
theorem error?_openInput :
    error? (openInput options inputs) = Phase.openTab.error? readers directory options inputs := by
  simp only [openInput, Phase.error?]
  cases options.file with
  | none => rfl
  | some path =>
    simp only [Option.bind_eq_bind, Option.bind_some]
    cases inputs.files path with
    | error fault => rfl
    | ok opened => rfl

/-- **A run fails with what is wrong with the first phase** that something is wrong with, and with
nothing else. -/
theorem error?_prepare :
    error? (prepare readers directory options inputs).2 =
      Phase.all.findSome? (Phase.error? readers directory options inputs) := by
  rw [Phase.all, List.findSome?_append, error?_loading, prepare]
  cases hsettings : settings readers options inputs.files with
  | error e => rfl
  | ok settings =>
    have hbpm := effectiveBpm?_eq hsettings
    have hkit := effectiveKit?_eq hsettings
    have heffective := effective?_eq readers options inputs.files
    rw [hsettings] at heffective
    simp only [error?_ok, Option.map_none, Option.none_or, Phase.starting, List.findSome?_cons,
      List.findSome?_nil]
    rw [← error?_openInput]
    simp only [Phase.error?, hbpm, hkit, built?, heffective, Except.toOption, Option.bind_eq_bind,
      Option.bind_some]
    -- the settings are there: the other phases are looked at in the order of a run
    cases StepClock.new? settings.bpm with
    | error e => rfl
    | ok clock =>
      simp only [error?_ok, Option.bind_none]
      cases directory.find? settings.kit with
      | none => rfl
      | some entry =>
        simp only [Option.isNone_some, Bool.false_eq_true, if_false, Option.bind_some,
          Option.pure_def]
        cases openInput options inputs with
        | error e => rfl
        | ok opened =>
          obtain ⟨name, source⟩ := opened
          obtain ⟨log, built⟩ := entry.build inputs.files settings
          cases built with
          | error e => rfl
          | ok kit =>
            simp only [error?_ok, Option.bind_some, Option.bind_none, readInput]
            cases kit.read source with
            | error e => rfl
            | ok tab => rfl

/-- **What a run plays**: the tablature that was opened, read for the kit in effect, at the tempo in
effect. -/
structure IsPrepared (prepared : Prepared) : Prop where
  clock_eq : ∃ bpm, effectiveBpm? readers options inputs.files = some bpm ∧
    StepClock.new? bpm = .ok prepared.clock
  kit_eq : ∃ entry, built? readers directory options inputs = some (entry, .ok prepared.kit)
  tab_eq : ∃ source, openInput options inputs = .ok (prepared.name, source) ∧
    prepared.kit.read source = .ok prepared.tab

variable {readers directory options inputs}

/-- **A run that is ready to play has what is in effect.** -/
theorem isPrepared_of_prepare {log : List LogEntry} {prepared : Prepared}
    (h : prepare readers directory options inputs = (log, .ok prepared)) :
    IsPrepared readers directory options inputs prepared := by
  rw [prepare] at h
  -- no phase has failed
  split at h
  · cases h
  rename_i settings hsettings
  split at h
  · cases h
  rename_i clock hclock
  split at h
  · cases h
  rename_i entry hentry
  split at h
  · cases h
  rename_i name source hopened
  split at h
  · cases h
  rename_i log kit hbuilt
  simp only [readInput] at h
  split at h
  · cases h
  rename_i tab hread
  cases h
  have heffective := effective?_eq readers options inputs.files
  rw [hsettings] at heffective
  refine ⟨⟨_, effectiveBpm?_eq hsettings, hclock⟩, ⟨entry, ?_⟩, ⟨source, hopened, hread⟩⟩
  simp [built?, heffective, Except.toOption, hentry, hbuilt]

end Errors

end DrumMachine.Run
