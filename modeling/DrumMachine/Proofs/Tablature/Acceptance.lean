import DrumMachine.Proofs.Tablature.Text
import Mathlib.Data.List.Forall2
import Mathlib.Order.Bounds.Basic

/-! # Which texts are tablatures

A text is read exactly if it is not empty and every line of it is well formed, names a drum that the
kit knows, and names none that an earlier line named (`Accepted`). The tablature then has the drums
of the lines in their order, as many steps as the widest pattern has columns, and in the step of a
column the drums that hit it (`ofBytes_accepts`).

The checks go through the lines with a list of those accepted so far, and the steps are filled line
by line. Both loops are followed by induction on the lines: `checkLines_eq_ok_iff` says when the
first one comes to its end, and `getElem?_fill` what the second one has added to a step. -/

namespace DrumMachine.Tablature

/-! ## Checking -/

/-- A line, and the bytes it was read from. -/
structure Describes (line : Line) (text : List UInt8) : Prop where
  wellFormed : WellFormed text
  name : line.name = nameOf text
  pattern : line.pattern = patternOf text

/-- **A line is read** as what describes its text. -/
theorem ofBytes?_eq_some_iff_describes (text : List UInt8) (line : Line) :
    Line.ofBytes? text = some line ↔ Describes line text := by
  rw [ofBytes?_eq_some_iff]
  exact ⟨fun ⟨h₁, h₂, h₃⟩ => ⟨h₁, h₂, h₃⟩, fun ⟨h₁, h₂, h₃⟩ => ⟨h₁, h₂, h₃⟩⟩

/-- A text describes one line only. -/
theorem eq_of_describes {line line' : Line} {text : List UInt8} (h : Describes line text)
    (h' : Describes line' text) : line = line' := by
  rw [← ofBytes?_eq_some_iff_describes] at h h'
  rw [h] at h'
  exact Option.some.inj h'

/-- **A line passes its checks** if it can be read, its drum is known, and none of the lines
accepted so far has the same drum. -/
theorem checkLine_eq_ok_iff (knows : String → Bool) (accepted : List Line) (number : Nat)
    (bytes : List UInt8) (line : Line) :
    checkLine knows accepted number bytes = .ok line ↔
      Describes line (Line.trim bytes) ∧ knows line.name = true ∧
        ∀ old ∈ accepted, old.name ≠ line.name := by
  rw [checkLine]
  -- the tests in their order: the form of the line, its drum, the drums before it
  cases hread : Line.ofBytes? (Line.trim bytes) with
  | none =>
    simp only [reduceCtorEq, false_iff]
    rintro ⟨hdescribes, -⟩
    rw [← ofBytes?_eq_some_iff_describes, hread] at hdescribes
    exact Option.some_ne_none _ hdescribes.symm
  | some found =>
    have hsame : Describes line (Line.trim bytes) ↔ found = line := by
      rw [← ofBytes?_eq_some_iff_describes, hread, Option.some.injEq]
    rw [hsame]
    dsimp only
    by_cases hknown : knows found.name = true
    · rw [hknown]
      simp only [Bool.not_true, Bool.false_eq_true, if_false, List.any_eq_true, beq_iff_eq]
      split
      · rename_i hduplicate
        obtain ⟨old, hold, hname⟩ := hduplicate
        simp only [reduceCtorEq, false_iff]
        rintro ⟨rfl, -, hfresh⟩
        exact hfresh old hold hname
      · rename_i hnew
        simp only [Except.ok.injEq]
        constructor
        · rintro rfl
          exact ⟨rfl, hknown, fun old hold hname => hnew ⟨old, hold, hname⟩⟩
        · rintro ⟨rfl, -⟩
          rfl
    · rw [if_pos (by simpa using hknown)]
      simp only [reduceCtorEq, false_iff]
      rintro ⟨rfl, hknows, -⟩
      exact hknown hknows

/-- **Lines that can follow others**: their drums are known, and no two of them have the same drum,
nor has one the drum of a line before them. -/
structure Follow (knows : String → Bool) (accepted new : List Line) : Prop where
  known : ∀ line ∈ new, knows line.name = true
  nodup : (new.map (·.name)).Nodup
  fresh : ∀ old ∈ accepted, ∀ line ∈ new, old.name ≠ line.name

/-- No lines can always follow. -/
theorem follow_nil (knows : String → Bool) (accepted : List Line) : Follow knows accepted [] :=
  ⟨by simp, by simp, by simp⟩

/-- Lines can follow others if the first of them can, and the rest of them after it. -/
theorem follow_cons_iff (knows : String → Bool) (accepted : List Line) (line : Line)
    (rest : List Line) :
    Follow knows accepted (line :: rest) ↔
      (knows line.name = true ∧ ∀ old ∈ accepted, old.name ≠ line.name) ∧
        Follow knows (accepted ++ [line]) rest := by
  constructor
  · rintro ⟨hknown, hnodup, hfresh⟩
    rw [List.forall_mem_cons] at hknown
    rw [List.map_cons, List.nodup_cons] at hnodup
    -- two lines with the same drum: the later one finds the earlier one accepted
    refine ⟨⟨hknown.1, fun old hold => hfresh old hold line (by simp)⟩, hknown.2, hnodup.2, ?_⟩
    intro old hold other hother
    rw [List.mem_append, List.mem_singleton] at hold
    obtain hold | rfl := hold
    · exact hfresh old hold other (by simp [hother])
    · intro hname
      exact hnodup.1 (List.mem_map.mpr ⟨other, hother, hname.symm⟩)
  · rintro ⟨⟨hknown, hnew⟩, hrest⟩
    refine ⟨List.forall_mem_cons.mpr ⟨hknown, hrest.known⟩, ?_, ?_⟩
    · rw [List.map_cons, List.nodup_cons]
      refine ⟨?_, hrest.nodup⟩
      intro hmem
      obtain ⟨other, hother, hname⟩ := List.mem_map.mp hmem
      exact hrest.fresh line (by simp) other hother hname.symm
    · intro old hold
      exact List.forall_mem_cons.mpr ⟨hnew old hold, hrest.fresh old (by simp [hold])⟩

/-- **Lines pass their checks** if each can be read and they can follow those accepted before. -/
theorem checkLines_eq_ok_iff (knows : String → Bool) (accepted : List Line) (number : Nat)
    (texts : List (List UInt8)) (lines : List Line) :
    checkLines knows accepted number texts = .ok lines ↔
      ∃ new, lines = accepted ++ new ∧ List.Forall₂ Describes new (texts.map Line.trim) ∧
        Follow knows accepted new := by
  induction texts generalizing accepted number with
  | nil =>
    rw [checkLines_nil, Except.ok.injEq, List.map_nil]
    constructor
    · rintro rfl
      exact ⟨[], by simp, .nil, follow_nil knows accepted⟩
    · rintro ⟨new, rfl, hnew, -⟩
      rw [List.forall₂_nil_right_iff] at hnew
      simp [hnew]
  | cons text rest ih =>
    rw [checkLines_cons, List.map_cons]
    cases hline : checkLine knows accepted number text with
    | error e =>
      simp only [reduceCtorEq, false_iff]
      rintro ⟨new, -, hnew, hfollow⟩
      obtain ⟨line, others, hdescribes, -, rfl⟩ := List.forall₂_cons_right_iff.mp hnew
      -- a first line that can follow would have passed its check
      have hok := (checkLine_eq_ok_iff knows accepted number text line).mpr
        ⟨hdescribes, ((follow_cons_iff _ _ _ _).mp hfollow).1⟩
      rw [hline] at hok
      cases hok
    | ok line =>
      obtain ⟨hdescribes, hfits⟩ := (checkLine_eq_ok_iff _ _ _ _ _).mp hline
      dsimp only
      rw [ih]
      constructor
      · rintro ⟨new, rfl, hnew, hfollow⟩
        exact ⟨line :: new, by simp, .cons hdescribes hnew,
          (follow_cons_iff _ _ _ _).mpr ⟨hfits, hfollow⟩⟩
      · rintro ⟨new, rfl, hnew, hfollow⟩
        obtain ⟨line', others, hdescribes', hothers, rfl⟩ := List.forall₂_cons_right_iff.mp hnew
        obtain rfl := eq_of_describes hdescribes' hdescribes
        exact ⟨others, by simp, hothers, ((follow_cons_iff _ _ _ _).mp hfollow).2⟩

/-! ## Filling -/

/-- **The step of column `i`**: the drums hit there, in the order of their lines. -/
def column (lines : List Line) (i : Nat) : Step := (lines.filter (·.hitsAt i)).map (·.name)

/-- Without a line no drum is hit. -/
@[simp] theorem column_nil (i : Nat) : column [] i = [] := rfl

/-- The first line adds its drum to the steps that it hits. -/
theorem column_cons (line : Line) (lines : List Line) (i : Nat) :
    column (line :: lines) i =
      (if line.hitsAt i then [line.name] else []) ++ column lines i := by
  rw [column, List.filter_cons]
  split <;> rfl

/-- **Filling adds to every step the drums of its column**, after what the step held before. -/
theorem getElem?_fill (lines : List Line) (steps : List Step) (i : Nat) :
    (fill lines steps)[i]? = steps[i]?.map (· ++ column lines i) := by
  induction lines generalizing steps with
  | nil => simp
  | cons line rest ih =>
    rw [fill_cons, ih, column_cons, addLine, List.getElem?_mapIdx, Option.map_map]
    congr 1
    funext step
    rw [Function.comp_apply]
    split <;> simp

/-- Step `i` is column `i`. -/
theorem getElem_stepsOf (lines : List Line) (i : Nat) (h : i < (stepsOf lines).length) :
    (stepsOf lines)[i] = column lines i := by
  have hwidth : i < width lines := by rwa [length_stepsOf] at h
  have hstep : (stepsOf lines)[i]? = some (column lines i) := by
    rw [stepsOf, getElem?_fill, List.getElem?_replicate_of_lt hwidth, Option.map_some,
      List.nil_append]
  exact (List.getElem_eq_iff h).mpr hstep

/-! ## The width -/

/-- Taking the widest pattern, from a width to start with. -/
theorem foldl_width (lines : List Line) (start : Nat) :
    lines.foldl (fun widest line => max widest line.pattern.length) start =
      max start (width lines) := by
  induction lines generalizing start with
  | nil => simp [width]
  | cons line rest ih =>
    simp only [width, List.foldl_cons]
    rw [ih, ih]
    omega

/-- The width is that of the longest pattern so far. -/
theorem width_cons (line : Line) (lines : List Line) :
    width (line :: lines) = max line.pattern.length (width lines) := by
  rw [width, List.foldl_cons, foldl_width]
  simp

/-- No pattern is longer than the width. -/
theorem length_le_width {lines : List Line} {line : Line} (h : line ∈ lines) :
    line.pattern.length ≤ width lines := by
  induction lines with
  | nil => simp at h
  | cons first rest ih =>
    rw [width_cons]
    obtain rfl | hrest := List.mem_cons.mp h
    · exact Nat.le_max_left _ _
    · exact le_trans (ih hrest) (Nat.le_max_right _ _)

/-- Some line is as wide as the widest pattern. -/
theorem exists_length_eq_width {lines : List Line} (h : lines ≠ []) :
    ∃ line ∈ lines, line.pattern.length = width lines := by
  induction lines with
  | nil => exact absurd rfl h
  | cons first rest ih =>
    rw [width_cons]
    by_cases hle : width rest ≤ first.pattern.length
    · exact ⟨first, by simp, (Nat.max_eq_left hle).symm⟩
    · have hrest : rest ≠ [] := by
        rintro rfl
        simp [width] at hle
      obtain ⟨line, hline, hlength⟩ := ih hrest
      exact ⟨line, by simp [hline], by omega⟩

/-- A line has at least one column. -/
theorem width_pos {lines : List Line} (h : lines ≠ []) : 0 < width lines := by
  obtain ⟨line, hline⟩ := List.exists_mem_of_ne_nil lines h
  have hpos := List.length_pos_iff.mpr line.pattern_ne_nil
  exact lt_of_lt_of_le hpos (length_le_width hline)

/-- **Lines make a tablature exactly if there are any.** -/
theorem ofLines_eq_ok_iff (lines : List Line) (tab : Tablature) :
    ofLines lines = .ok tab ↔
      lines ≠ [] ∧ tab.drums = lines.map (·.name) ∧ tab.steps = stepsOf lines := by
  by_cases hlines : lines = []
  · subst hlines
    simp [ofLines, width]
  · obtain ⟨drums, steps, hsteps⟩ := tab
    rw [ofLines, dif_neg (width_pos hlines).ne', Except.ok.injEq, Tablature.mk.injEq]
    constructor
    · rintro ⟨rfl, rfl⟩
      exact ⟨hlines, rfl, rfl⟩
    · rintro ⟨-, rfl, rfl⟩
      exact ⟨rfl, rfl⟩

/-! ## Texts and the lines read from them -/

/-- **When a kit accepts the lines of a text**: each is well formed, each names a drum of the kit,
and no two name the same one. -/
structure Accepted (knows : String → Bool) (texts : List (List UInt8)) : Prop where
  wellFormed : ∀ text ∈ texts, WellFormed text
  known : ∀ text ∈ texts, knows (nameOf text) = true
  nodup : (texts.map nameOf).Nodup

/-- Well-formed texts describe lines, one each. -/
theorem exists_describes {texts : List (List UInt8)} (h : ∀ text ∈ texts, WellFormed text) :
    ∃ lines, List.Forall₂ Describes lines texts := by
  induction texts with
  | nil => exact ⟨[], .nil⟩
  | cons text rest ih =>
    rw [List.forall_mem_cons] at h
    obtain ⟨lines, hlines⟩ := ih h.2
    cases hline : Line.ofBytes? text with
    | none => exact absurd h.1 ((ofBytes?_eq_none_iff text).mp hline)
    | some line =>
      exact ⟨line :: lines, .cons ((ofBytes?_eq_some_iff_describes text line).mp hline) hlines⟩

section Describes

variable {lines : List Line} {texts : List (List UInt8)}

/-- What describes lines is well-formed. -/
theorem wellFormed_of_describes (h : List.Forall₂ Describes lines texts) :
    ∀ text ∈ texts, WellFormed text := by
  induction h with
  | nil => simp
  | cons hdescribes _ ih => exact List.forall_mem_cons.mpr ⟨hdescribes.wellFormed, ih⟩

/-- The names of the lines are those of their texts. -/
theorem map_name_of_describes (h : List.Forall₂ Describes lines texts) :
    lines.map (·.name) = texts.map nameOf := by
  induction h with
  | nil => rfl
  | cons hdescribes _ ih => rw [List.map_cons, List.map_cons, hdescribes.name, ih]

/-- The patterns of the lines are those of their texts. -/
theorem map_pattern_of_describes (h : List.Forall₂ Describes lines texts) :
    lines.map (·.pattern) = texts.map patternOf := by
  induction h with
  | nil => rfl
  | cons hdescribes _ ih => rw [List.map_cons, List.map_cons, hdescribes.pattern, ih]

/-- A column of the lines is read off their texts. -/
theorem column_of_describes (h : List.Forall₂ Describes lines texts) (i : Nat) :
    column lines i = (texts.filter fun text => hits (patternOf text) i).map nameOf := by
  induction h with
  | nil => rfl
  | cons hdescribes _ ih =>
    rw [column_cons, ih, hitsAt_eq, hdescribes.pattern, hdescribes.name, List.filter_cons]
    split <;> rfl

/-- The kit knows the drums of the lines exactly if it knows the names in the texts. -/
theorem forall_knows_iff_of_describes (h : List.Forall₂ Describes lines texts)
    (knows : String → Bool) :
    (∀ line ∈ lines, knows line.name = true) ↔ ∀ text ∈ texts, knows (nameOf text) = true := by
  have hnames : (∀ name ∈ lines.map (·.name), knows name = true) ↔
      ∀ name ∈ texts.map nameOf, knows name = true := by
    rw [map_name_of_describes h]
  rwa [List.forall_mem_map, List.forall_mem_map] at hnames

/-- The widest pattern of the lines is the widest one in the texts. -/
theorem isGreatest_width_of_describes (h : List.Forall₂ Describes lines texts) (hne : lines ≠ []) :
    IsGreatest {n | ∃ text ∈ texts, (patternOf text).length = n} (width lines) := by
  have hpatterns := map_pattern_of_describes h
  constructor
  · obtain ⟨line, hline, hwidth⟩ := exists_length_eq_width hne
    have hpattern : line.pattern ∈ texts.map patternOf := by
      rw [← hpatterns]
      exact List.mem_map_of_mem hline
    obtain ⟨text, htext, heq⟩ := List.mem_map.mp hpattern
    exact ⟨text, htext, by rw [heq, hwidth]⟩
  · rintro n ⟨text, htext, rfl⟩
    have hpattern : patternOf text ∈ lines.map (·.pattern) := by
      rw [hpatterns]
      exact List.mem_map_of_mem htext
    obtain ⟨line, hline, heq⟩ := List.mem_map.mp hpattern
    rw [← heq]
    exact length_le_width hline

end Describes

/-- **The lines of a text pass their checks exactly if the kit accepts them.** -/
theorem checkLines_nil_eq_ok_iff (knows : String → Bool) (number : Nat)
    (texts : List (List UInt8)) (lines : List Line) :
    checkLines knows [] number texts = .ok lines ↔
      List.Forall₂ Describes lines (texts.map Line.trim) ∧
        Accepted knows (texts.map Line.trim) := by
  rw [checkLines_eq_ok_iff]
  constructor
  · rintro ⟨new, rfl, hnew, hfollow⟩
    refine ⟨hnew, wellFormed_of_describes hnew, ?_, ?_⟩
    · exact (forall_knows_iff_of_describes hnew knows).mp hfollow.known
    · rw [← map_name_of_describes hnew]
      exact hfollow.nodup
  · rintro ⟨hlines, haccepted⟩
    refine ⟨lines, by simp, hlines, ?_, ?_, by simp⟩
    · exact (forall_knows_iff_of_describes hlines knows).mpr haccepted.known
    · rw [map_name_of_describes hlines]
      exact haccepted.nodup

/-- A tablature was read if the source came to its end and its lines passed their checks. -/
theorem read_eq_ok_iff (knows : String → Bool) (source : Source) (tab : Tablature) :
    read knows source = .ok tab ↔
      source.lines.fault = none ∧
        ∃ lines, checkLines knows [] 1 source.lines.lines = .ok lines ∧
          ofLines lines = .ok tab := by
  rw [read]
  cases checkLines knows [] 1 source.lines.lines with
  | error e => simp
  | ok lines =>
    cases source.lines.fault with
    | none => simp
    | some fault => simp

/-- **The steps of a tablature hold only drums that its kit knows.** -/
theorem knows_of_read {knows : String → Bool} {source : Source} {tab : Tablature}
    (h : read knows source = .ok tab) {step : Step} (hstep : step ∈ tab.steps) {name : String}
    (hname : name ∈ step) : knows name = true := by
  obtain ⟨-, lines, hlines, htab⟩ := (read_eq_ok_iff knows source tab).mp h
  obtain ⟨new, hnew, -, hfollow⟩ := (checkLines_eq_ok_iff knows [] 1 _ lines).mp hlines
  obtain ⟨-, -, hsteps⟩ := (ofLines_eq_ok_iff lines tab).mp htab
  rw [hsteps] at hstep
  obtain ⟨i, hi, rfl⟩ := List.mem_iff_getElem.mp hstep
  rw [getElem_stepsOf, column] at hname
  obtain ⟨line, hline, rfl⟩ := List.mem_map.mp hname
  rw [List.nil_append] at hnew
  exact hfollow.known line (hnew ▸ List.mem_of_mem_filter hline)

/-- **The tablatures that are read from a text**, by the lines they are made of. -/
theorem ofBytes_eq_ok_iff (knows : String → Bool) (bytes : List UInt8) (tab : Tablature) :
    ofBytes knows bytes = .ok tab ↔
      ∃ lines, List.Forall₂ Describes lines (textLines bytes) ∧ Accepted knows (textLines bytes) ∧
        lines ≠ [] ∧ tab.drums = lines.map (·.name) ∧ tab.steps = stepsOf lines := by
  rw [ofBytes, read_eq_ok_iff, lines_ofBytes]
  simp only [true_and, checkLines_nil_eq_ok_iff, ofLines_eq_ok_iff, trim_eq_withoutReturn,
    textLines, and_assoc]

/-- The lines read from a text are none exactly if the text is empty. -/
theorem eq_nil_iff_of_describes {bytes : List UInt8} {lines : List Line}
    (h : List.Forall₂ Describes lines (textLines bytes)) : lines = [] ↔ bytes = [] := by
  rw [← textLines_eq_nil_iff]
  constructor
  · rintro rfl
    exact List.forall₂_nil_left_iff.mp h
  · intro hnil
    rw [hnil] at h
    exact List.forall₂_nil_right_iff.mp h

/-- **A text is a tablature for a kit exactly if it is not empty and the kit accepts its lines.**
The tablature has the drums of the lines, as many steps as the widest pattern has columns, and in
every step the drums of the lines that hit its column, in the order of the lines. -/
theorem ofBytes_accepts (knows : String → Bool) (bytes : List UInt8) :
    ((∃ tab, ofBytes knows bytes = .ok tab) ↔
      bytes ≠ [] ∧ Accepted knows (textLines bytes)) ∧
    ∀ tab, ofBytes knows bytes = .ok tab →
      tab.drums = (textLines bytes).map nameOf ∧
      1 ≤ tab.length ∧
      IsGreatest {n | ∃ line ∈ textLines bytes, (patternOf line).length = n} tab.length ∧
      ∀ (i : Nat) (hi : i < tab.steps.length),
        tab.steps[i] =
          ((textLines bytes).filter fun line => hits (patternOf line) i).map nameOf := by
  refine ⟨⟨?_, ?_⟩, ?_⟩
  · rintro ⟨tab, htab⟩
    obtain ⟨lines, hdescribes, haccepted, hne, -⟩ := (ofBytes_eq_ok_iff _ _ _).mp htab
    exact ⟨fun hbytes => hne ((eq_nil_iff_of_describes hdescribes).mpr hbytes), haccepted⟩
  · rintro ⟨hbytes, haccepted⟩
    obtain ⟨lines, hdescribes⟩ := exists_describes haccepted.wellFormed
    -- the lines that the text describes are all there is to the tablature
    have hne : lines ≠ [] := fun h => hbytes ((eq_nil_iff_of_describes hdescribes).mp h)
    refine ⟨⟨lines.map (·.name), stepsOf lines, stepsOf_ne_nil (width_pos hne).ne'⟩, ?_⟩
    exact (ofBytes_eq_ok_iff _ _ _).mpr ⟨lines, hdescribes, haccepted, hne, rfl, rfl⟩
  · intro tab htab
    obtain ⟨lines, hdescribes, -, hne, hdrums, hsteps⟩ := (ofBytes_eq_ok_iff _ _ _).mp htab
    have hlength : tab.length = width lines := by
      rw [Tablature.length, hsteps, length_stepsOf]
    refine ⟨?_, ?_, ?_, ?_⟩
    · rw [hdrums, map_name_of_describes hdescribes]
    · rw [hlength]
      exact width_pos hne
    · rw [hlength]
      exact isGreatest_width_of_describes hdescribes hne
    · intro i hi
      rw [← column_of_describes hdescribes]
      simp only [hsteps]
      exact getElem_stepsOf lines i (hsteps ▸ hi)

/-- Two lines, the first one with a carriage return and the second one not ended. -/
theorem ofBytes_accepts_two_lines :
    ofBytes (fun _ => true) (Text.Utf8.encode "HH|o.\r\nBD|-x.o") =
      .ok ⟨["HH", "BD"], [["HH"], ["BD"], [], ["BD"]], by decide⟩ ∧
    ["HH", "BD"] = (textLines (Text.Utf8.encode "HH|o.\r\nBD|-x.o")).map nameOf ∧
    ["BD"] = ((textLines (Text.Utf8.encode "HH|o.\r\nBD|-x.o")).filter fun line =>
      hits (patternOf line) 3).map nameOf := by
  have hread : ofBytes (fun _ => true) (Text.Utf8.encode "HH|o.\r\nBD|-x.o") =
      .ok ⟨["HH", "BD"], [["HH"], ["BD"], [], ["BD"]], by decide⟩ := by decide
  obtain ⟨hdrums, -, -, hsteps⟩ := (ofBytes_accepts _ _).2 _ hread
  exact ⟨hread, hdrums, hsteps 3 (by decide)⟩

end DrumMachine.Tablature
