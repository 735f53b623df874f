import DrumMachine.Kit.Bank
import DrumMachine.Proofs.Catalog
import DrumMachine.Proofs.Text.Order
import DrumMachine.Proofs.Wave.Decoding

/-! # Loading a sample bank

The samples of a bank are loaded in the order of the drums' names, and it is all of them or none.
Whether a sample can be loaded does not depend on the others, so the drum that is reported is the
first one whose sample cannot, however many more there are (`loadAll_cases`). Otherwise the rate of
the first drum is the rate of all, and it is not zero, since no sample is decoded without a rate
(`load_allOrNothing`). -/

namespace DrumMachine.Bank

variable {reader : Wave.Reader} {files : Files} {settings : AcousticSettings} {name path : String}
  {sample : Sample}

/-! ## One sample -/

/-- **A sample is loaded from a file** whose bytes are decoded to it. -/
theorem loadSample_eq_ok_iff :
    loadSample reader files path = .ok sample ↔
      ∃ bytes, files path = .ok (.file bytes) ∧ Wave.decode reader bytes = .ok sample := by
  rw [loadSample]
  split <;> simp_all

/-- Data that was opened is not found missing by decoding it. -/
theorem decode_ne_cannotOpen (bytes : List UInt8) (fault : Fault) :
    Wave.decode reader bytes ≠ .error (.cannotOpen path fault) := by
  rw [Wave.decode]
  split
  case h_1 => simp
  case h_2 header data _ =>
    split
    case isTrue => simp
    case isFalse =>
      split
      case h_1 => simp
      case h_2 => split <;> simp

/-- **A sample cannot be opened exactly where its path has a fault**, and the fault is that of its
own path. -/
theorem loadSample_eq_cannotOpen_iff {other : String} {fault : Fault} :
    loadSample reader files path = .error (.cannotOpen other fault) ↔
      other = path ∧ files path = .error fault := by
  rw [loadSample]
  split
  case h_1 fault' hpath => simp [hpath, eq_comm]
  case h_2 hpath => simp [hpath]
  case h_3 bytes hpath => simp [hpath, decode_ne_cannotOpen]

/-- **A directory is opened, but there is nothing in it to decode.** -/
theorem loadSample_of_directory (h : files path = .ok .directory) :
    loadSample reader files path = .error (.cannotDecode Fault.isDirectory.message) := by
  rw [loadSample, h]

/-- The rate of a sample that was loaded is not zero. -/
theorem rate_ne_zero_of_loadSample (h : loadSample reader files path = .ok sample) :
    sample.rate ≠ 0 := by
  obtain ⟨bytes, -, hdecode⟩ := loadSample_eq_ok_iff.mp h
  exact Wave.rate_ne_zero_of_decode hdecode

/-! ## One sample after the other -/

/-- A sample goes by the name of its drum, and is what is loaded from the drum's path. -/
def Loads (reader : Wave.Reader) (files : Files) (drum : String × String)
    (sample : String × Sample) : Prop :=
  sample.1 = drum.1 ∧ loadSample reader files drum.2 = .ok sample.2

/-- A sample that is loaded stands before those that are loaded after it. -/
theorem loadAll_cons_of_ok (name : String) (h : loadSample reader files path = .ok sample)
    (rest : List (String × String)) :
    (loadAll reader files ((name, path) :: rest)).2 =
      (loadAll reader files rest).2.map fun samples => (name, sample) :: samples := by
  rw [loadAll, h]
  obtain ⟨log, result⟩ := loadAll reader files rest
  cases result with
  | error e => rfl
  | ok samples => rfl

/-- **All samples are loaded, or the first one that cannot be is reported.** -/
theorem loadAll_cases (reader : Wave.Reader) (files : Files) (drums : List (String × String)) :
    (∃ samples, (loadAll reader files drums).2 = .ok samples ∧
      List.Forall₂ (Loads reader files) drums samples) ∨
    ∃ before name path rest e, drums = before ++ (name, path) :: rest ∧
      (∀ drum ∈ before, ∃ sample, loadSample reader files drum.2 = .ok sample) ∧
      loadSample reader files path = .error e ∧
      (loadAll reader files drums).2 = .error (.sample name e) := by
  -- on the drums: the first one that cannot be loaded ends loading
  induction drums with
  | nil => exact .inl ⟨[], rfl, .nil⟩
  | cons drum rest ih =>
    obtain ⟨first, path⟩ := drum
    cases hload : loadSample reader files path with
    | error e =>
      exact .inr ⟨[], first, path, rest, e, rfl, by simp, hload, by rw [loadAll, hload]⟩
    | ok sample =>
      have hcons := loadAll_cons_of_ok first hload rest
      rcases ih with ⟨samples, hrest, hloads⟩ |
        ⟨before, name, path', rest', e, rfl, hbefore, he, hrest⟩
      · refine .inl ⟨(first, sample) :: samples, ?_, .cons ⟨rfl, hload⟩ hloads⟩
        rw [hcons, hrest]
        rfl
      · refine .inr ⟨(first, path) :: before, name, path', rest', e, rfl, ?_, he, ?_⟩
        · exact List.forall_mem_cons.mpr ⟨⟨sample, hload⟩, hbefore⟩
        · rw [hcons, hrest]
          rfl

/-! ## The drums of settings -/

/-- **What loading the sample of a drum comes to**, from the file that the settings have for it. -/
def loadDrum? (reader : Wave.Reader) (files : Files) (settings : AcousticSettings) (name : String) :
    Option (Except SampleError Sample) :=
  (settings.drums.get? name).map fun file =>
    loadSample reader files (Path.join settings.samplesDir file)

/-- A drum of the settings is loaded from its path. -/
theorem loadDrum?_eq_some_iff {result : Except SampleError Sample} :
    loadDrum? reader files settings name = some result ↔
      ∃ path, (name, path) ∈ settings.samplePaths ∧ loadSample reader files path = result := by
  simp only [loadDrum?, Option.map_eq_some_iff, Catalog.get?_eq_some_iff,
    AcousticSettings.samplePaths, List.mem_map, Prod.mk.injEq]
  constructor
  · rintro ⟨file, hfile, hresult⟩
    exact ⟨_, ⟨(name, file), hfile, rfl, rfl⟩, hresult⟩
  · rintro ⟨-, ⟨⟨other, file⟩, hfile, rfl, rfl⟩, hresult⟩
    exact ⟨file, hfile, hresult⟩

/-- There is one path for every drum, in the order of the drums. -/
theorem map_fst_samplePaths (settings : AcousticSettings) :
    settings.samplePaths.map (·.1) = settings.drums.names := by
  simp only [AcousticSettings.samplePaths, Catalog.names, List.map_map, Function.comp_def]

/-- Paths are in the order of the drums' names. -/
theorem increasing_samplePaths (settings : AcousticSettings) : Increasing settings.samplePaths :=
  List.pairwise_map.mpr settings.drums.increasing

/-- Loading keeps the names and their order. -/
theorem map_fst_of_loads {drums : List (String × String)} {samples : List (String × Sample)}
    (h : List.Forall₂ (Loads reader files) drums samples) :
    samples.map (·.1) = drums.map (·.1) := by
  induction h with
  | nil => rfl
  | cons hload _ ih => rw [List.map_cons, List.map_cons, hload.1, ih]

/-- Where all drums are loaded, each one has its sample. -/
theorem exists_loads_of_mem {drums : List (String × String)} {samples : List (String × Sample)}
    (h : List.Forall₂ (Loads reader files) drums samples) {drum : String × String}
    (hdrum : drum ∈ drums) :
    ∃ sample, loadSample reader files drum.2 = .ok sample ∧ (drum.1, sample) ∈ samples := by
  induction h with
  | nil => cases hdrum
  | @cons first entry drums samples hload _ ih =>
    rcases List.mem_cons.mp hdrum with rfl | hdrum
    · exact ⟨entry.2, hload.2, by rw [← hload.1]; exact List.mem_cons_self⟩
    · obtain ⟨sample, hsample, hmem⟩ := ih hdrum
      exact ⟨sample, hsample, List.mem_cons_of_mem _ hmem⟩

/-- Samples are in the order of the drums' names. -/
theorem increasing_of_loads {samples : List (String × Sample)}
    (h : List.Forall₂ (Loads reader files) settings.samplePaths samples) : Increasing samples := by
  have hnames : (samples.map (·.1)).Pairwise (· < ·) := by
    rw [map_fst_of_loads h]
    exact List.pairwise_map.mpr (increasing_samplePaths settings)
  exact List.pairwise_map.mp hnames

/-- Every drum has its own sample. -/
theorem exists_loadDrum?_of_loads {samples : List (String × Sample)}
    (h : List.Forall₂ (Loads reader files) settings.samplePaths samples)
    (hname : name ∈ settings.drums.names) :
    ∃ sample, loadDrum? reader files settings name = some (.ok sample) ∧
      (name, sample) ∈ samples := by
  rw [← map_fst_samplePaths] at hname
  obtain ⟨⟨_, path⟩, hpath, rfl⟩ := List.mem_map.mp hname
  obtain ⟨sample, hsample, hmem⟩ := exists_loads_of_mem h hpath
  exact ⟨sample, loadDrum?_eq_some_iff.mpr ⟨path, hpath, hsample⟩, hmem⟩

/-- A bank of samples in order has them all, at the rate of the first. -/
theorem ofSamples_of_increasing {first : String × Sample} {rest : List (String × Sample)}
    (h : Increasing (first :: rest)) :
    ∃ bank, ofSamples (first :: rest) = .ok bank ∧ bank.rate = first.2.rate ∧
      bank.samples.entries =
        (first :: rest).map fun entry => (entry.1, entry.2.resampled bank.rate) :=
  ⟨_, rfl, rfl, Catalog.entries_ofList (List.pairwise_map.mpr h)⟩

/-- **The first of some names in the order of their bytes.** -/
def IsFirst (p : String → Prop) (name : String) : Prop :=
  p name ∧ ∀ other, p other → other ≠ name → Text.Utf8.encode name < Text.Utf8.encode other

/-- The order of bytes is the order of names. -/
theorem isFirst_iff {p : String → Prop} :
    IsFirst p name ↔ p name ∧ ∀ other, p other → other ≠ name → name < other := by
  simp only [IsFirst, Text.Utf8.lt_iff_encode_lt]

/-- The drum whose sample is the first that cannot be loaded is the first such drum. -/
theorem isFirst_of_error {before rest : List (String × String)} {e : SampleError}
    (hsplit : settings.samplePaths = before ++ (name, path) :: rest)
    (hbefore : ∀ drum ∈ before, ∃ sample, loadSample reader files drum.2 = .ok sample)
    (hname : loadDrum? reader files settings name = some (.error e)) :
    IsFirst (fun name => ∃ e, loadDrum? reader files settings name = some (.error e)) name := by
  refine isFirst_iff.mpr ⟨⟨e, hname⟩, ?_⟩
  rintro other ⟨e', hother⟩ hne
  obtain ⟨path', hpath, he'⟩ := loadDrum?_eq_some_iff.mp hother
  have hincreasing := increasing_samplePaths settings
  rw [hsplit] at hpath hincreasing
  obtain ⟨-, hrest, -⟩ := List.pairwise_append.mp hincreasing
  rcases List.mem_append.mp hpath with h | h
  · obtain ⟨sample, hsample⟩ := hbefore _ h
    cases hsample.symm.trans he'
  rcases List.mem_cons.mp h with h | h
  · exact absurd (congrArg Prod.fst h) hne
  · exact (List.pairwise_cons.mp hrest).1 _ h

/-! ## The bank -/

/-- A bank is made from the samples if all of them are loaded. -/
theorem load_snd (reader : Wave.Reader) (files : Files) (settings : AcousticSettings) :
    (load reader files settings).2 =
      (loadAll reader files settings.samplePaths).2 >>= ofSamples := by
  rw [load]
  obtain ⟨log, result⟩ := loadAll reader files settings.samplePaths
  cases result with
  | error e => rfl
  | ok samples => rfl

/-- **The bank of the samples of all drums.** -/
theorem exists_bank_of_loads {samples : List (String × Sample)}
    (hloads : List.Forall₂ (Loads reader files) settings.samplePaths samples)
    (hne : settings.drums.names ≠ []) :
    ∃ bank, ofSamples samples = .ok bank ∧ bank.samples.names = settings.drums.names ∧
      (∃ name sample, IsFirst (· ∈ settings.drums.names) name ∧
        loadDrum? reader files settings name = some (.ok sample) ∧ bank.rate = sample.rate) ∧
      ∀ name ∈ settings.drums.names, ∃ sample,
        loadDrum? reader files settings name = some (.ok sample) ∧
        bank.get? name = some (sample.resampled bank.rate) := by
  have hnames : samples.map (·.1) = settings.drums.names :=
    (map_fst_of_loads hloads).trans (map_fst_samplePaths settings)
  have hincreasing := increasing_of_loads hloads
  cases samples with
  | nil => exact absurd hnames.symm hne
  | cons first rest =>
    obtain ⟨bank, hbank, hrate, hentries⟩ := ofSamples_of_increasing hincreasing
    refine ⟨bank, hbank, ?_, ?_, fun name hname => ?_⟩
    · rw [Catalog.names, hentries, List.map_map, ← hnames]
      rfl
    · obtain ⟨drum, drums, ⟨hname, hload⟩, -, hpaths⟩ := List.forall₂_cons_right_iff.mp hloads
      have hfirst : (first.1, drum.2) ∈ settings.samplePaths := by
        rw [hname, hpaths]
        exact List.mem_cons_self
      have hmem : first.1 ∈ settings.drums.names := by
        rw [← hnames]
        exact List.mem_cons_self
      -- names are in order, so the first sample is that of the first drum
      refine ⟨first.1, first.2, isFirst_iff.mpr ⟨hmem, fun other hother hne => ?_⟩,
        loadDrum?_eq_some_iff.mpr ⟨drum.2, hfirst, hload⟩, hrate⟩
      obtain ⟨sample, -, hmem⟩ := exists_loadDrum?_of_loads hloads hother
      rcases List.mem_cons.mp hmem with h | h
      · exact absurd (congrArg Prod.fst h) hne
      · exact (List.pairwise_cons.mp hincreasing).1 _ h
    · obtain ⟨sample, hsample, hmem⟩ := exists_loadDrum?_of_loads hloads hname
      refine ⟨sample, hsample, Catalog.get?_eq_some_iff.mpr ?_⟩
      rw [hentries]
      exact List.mem_map_of_mem hmem

/-- **A bank is loaded as a whole or not at all.** Without drums there is no bank. Otherwise, if
there are drums whose sample cannot be loaded, the first of them is reported, with what is wrong
with its own sample. If there are none, the bank has just the drums of the settings. Its rate is
that of the first drum's sample, which is not zero, and every drum has its own sample, brought to
this rate. -/
theorem load_allOrNothing (reader : Wave.Reader) (files : Files) (settings : AcousticSettings) :
    (settings.drums.names = [] → (load reader files settings).2 = .error .noDrums) ∧
    ((∃ name e, loadDrum? reader files settings name = some (.error e)) →
      ∃ name e, loadDrum? reader files settings name = some (.error e) ∧
        IsFirst (fun name => ∃ e, loadDrum? reader files settings name = some (.error e)) name ∧
        (load reader files settings).2 = .error (.sample name e)) ∧
    (settings.drums.names ≠ [] →
      (∀ name e, loadDrum? reader files settings name ≠ some (.error e)) →
      ∃ bank, (load reader files settings).2 = .ok bank ∧
        bank.samples.names = settings.drums.names ∧
        (∃ name sample, IsFirst (· ∈ settings.drums.names) name ∧
          loadDrum? reader files settings name = some (.ok sample) ∧ bank.rate = sample.rate) ∧
        bank.rate ≠ 0 ∧
        ∀ name ∈ settings.drums.names, ∃ sample,
          loadDrum? reader files settings name = some (.ok sample) ∧
          bank.get? name = some (sample.resampled bank.rate) ∧
          (sample.resampled bank.rate).rate = bank.rate) := by
  rw [load_snd]
  rcases loadAll_cases reader files settings.samplePaths with ⟨samples, hall, hloads⟩ |
    ⟨before, name, path, rest, e, hsplit, hbefore, he, hall⟩
  · -- every sample is loaded
    have hnone : ∀ name e, loadDrum? reader files settings name ≠ some (.error e) := by
      intro name e h
      obtain ⟨path, hpath, he⟩ := loadDrum?_eq_some_iff.mp h
      obtain ⟨sample, hsample, -⟩ := exists_loads_of_mem hloads hpath
      cases hsample.symm.trans he
    rw [hall]
    refine ⟨fun hempty => ?_, fun ⟨name, e, he⟩ => absurd he (hnone name e), fun hne _ => ?_⟩
    · have hnil : samples.map (·.1) = [] := by
        rw [map_fst_of_loads hloads, map_fst_samplePaths, hempty]
      rw [List.map_eq_nil_iff.mp hnil]
      rfl
    · obtain ⟨bank, hbank, hnames, ⟨first, sample, hfirst, hsample, hrate⟩, hdrums⟩ :=
        exists_bank_of_loads hloads hne
      refine ⟨bank, hbank, hnames, ⟨first, sample, hfirst, hsample, hrate⟩, ?_, ?_⟩
      · obtain ⟨path, -, hpath⟩ := loadDrum?_eq_some_iff.mp hsample
        rw [hrate]
        exact rate_ne_zero_of_loadSample hpath
      · intro name hname
        obtain ⟨sample, hsample, hget⟩ := hdrums name hname
        exact ⟨sample, hsample, hget, Sample.rate_resampled _ _⟩
  · -- one is not, and all of the drums before it are
    have hmem : (name, path) ∈ settings.samplePaths := by
      rw [hsplit]
      exact List.mem_append_right _ List.mem_cons_self
    have hname := loadDrum?_eq_some_iff.mpr ⟨path, hmem, he⟩
    rw [hall]
    refine ⟨fun hempty => ?_, fun _ => ⟨name, e, hname, isFirst_of_error hsplit hbefore hname, rfl⟩,
      fun _ hnone => absurd hname (hnone name e)⟩
    rw [← map_fst_samplePaths, hsplit] at hempty
    simp at hempty

/-- Of two missing files that of the first drum is reported. -/
example : (load Riff.reader (fun _ => .error .notFound)
    ⟨"kit", .ofList [("SD", "sd.wav"), ("BD", "bd.wav")], 50⟩).2 =
      .error (.sample "BD" (.cannotOpen "kit/bd.wav" .notFound)) := rfl

end DrumMachine.Bank
