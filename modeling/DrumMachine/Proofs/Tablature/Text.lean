import DrumMachine.Proofs.Stream.Reading
import DrumMachine.Tablature.Reading

/-! # The lines of a tablature's text

A text is cut at every line feed. What follows the last line feed is a line of its own unless it is
empty, and a line that ends in a carriage return loses it. This is said here by splitting the whole
text at once (`textLines`); `lines_ofBytes` shows that a source which delivers the text has these
lines before they are trimmed.

A line is then described by its bytes alone: it is well formed if it has four bytes or more and a
bar in third place, its name is the text of the first two bytes and its pattern what follows the
bar. -/

namespace DrumMachine.Tablature

/-! ## Cutting a text -/

/-- The pieces of a text without the empty one that a final line feed leaves behind. -/
def untrimmedLines (bytes : List UInt8) : List (List UInt8) :=
  let pieces := bytes.splitOn '\n'.toUInt8
  if pieces.getLast? = some [] then pieces.dropLast else pieces

/-- A line without the carriage return it may end in. -/
def withoutReturn (line : List UInt8) : List UInt8 :=
  if line.getLast? = some '\r'.toUInt8 then line.dropLast else line

/-- **The lines of a text**, without line endings. -/
def textLines (bytes : List UInt8) : List (List UInt8) := (untrimmedLines bytes).map withoutReturn

/-- A line without a carriage return at its end has lost none. -/
theorem withoutReturn_of_getLast?_ne {line : List UInt8}
    (h : line.getLast? ≠ some '\r'.toUInt8) : withoutReturn line = line := by
  rw [withoutReturn, if_neg h]

/-- Trimming a line takes its carriage return away. -/
theorem trim_eq_withoutReturn : Line.trim = withoutReturn := rfl

/-- Splitting at line feeds gives the lines that are ended by one, then the remainder. -/
theorem splitOn_lineFeed (bytes : List UInt8) :
    bytes.splitOn lineFeed = (cutLines bytes).1 ++ [(cutLines bytes).2] := by
  induction bytes with
  | nil => rfl
  | cons b bs ih =>
    rw [List.splitOn_cons_eq_if_modifyHead, ih]
    by_cases hb : b = lineFeed
    · subst hb
      rw [cutLines_lineFeed]
      simp
    · rw [if_neg (by simpa using hb)]
      simp only [cutLines, if_neg hb]
      -- the byte goes in front of the first line, or of the remainder if there is no line
      split <;> rename_i heq <;> simp [heq]

/-- A line that is ended by a line feed comes before the lines of what follows. -/
theorem cutLines_append {line : List UInt8} (h : lineFeed ∉ line) (rest : List UInt8) :
    cutLines (line ++ lineFeed :: rest) = (line :: (cutLines rest).1, (cutLines rest).2) := by
  induction line with
  | nil => rw [List.nil_append, cutLines_lineFeed]
  | cons b bs ih =>
    rw [List.mem_cons, not_or] at h
    rw [List.cons_append, cutLines, if_neg (Ne.symm h.1), ih h.2]

/-- The remainder is a line unless it is empty. -/
theorem untrimmedLines_eq (bytes : List UInt8) :
    untrimmedLines bytes =
      (cutLines bytes).1 ++ if (cutLines bytes).2 = [] then [] else [(cutLines bytes).2] := by
  have hsplit : bytes.splitOn '\n'.toUInt8 = _ := splitOn_lineFeed bytes
  rw [untrimmedLines, hsplit, List.getLast?_concat, List.dropLast_concat]
  by_cases h : (cutLines bytes).2 = []
  · simp [h]
  · simp [h]

/-- A line that is ended by a line feed comes before the lines of what follows. -/
theorem untrimmedLines_line_append {line : List UInt8} (h : lineFeed ∉ line)
    (rest : List UInt8) :
    untrimmedLines (line ++ lineFeed :: rest) = line :: untrimmedLines rest := by
  rw [untrimmedLines_eq, untrimmedLines_eq, cutLines_append h, List.cons_append]

/-- What stands before the first line feed is the first line. -/
theorem textLines_line_append {line : List UInt8} (h : lineFeed ∉ line) (rest : List UInt8) :
    textLines (line ++ lineFeed :: rest) = withoutReturn line :: textLines rest := by
  rw [textLines, untrimmedLines_line_append h, List.map_cons, textLines]

/-- An empty text has no lines. -/
@[simp] theorem untrimmedLines_nil : untrimmedLines [] = [] := by
  rw [untrimmedLines_eq]
  rfl

/-- Every other text has a line. -/
theorem untrimmedLines_ne_nil {bytes : List UInt8} (h : bytes ≠ []) :
    untrimmedLines bytes ≠ [] := by
  intro hnil
  rw [untrimmedLines_eq, List.append_eq_nil_iff] at hnil
  obtain ⟨hlines, hremainder⟩ := hnil
  have hempty : (cutLines bytes).2 = [] := by
    by_cases hne : (cutLines bytes).2 = []
    · exact hne
    · rw [if_neg hne] at hremainder
      exact absurd hremainder (List.cons_ne_nil _ _)
  -- only the empty text splits into one empty piece
  have hsplit : [lineFeed].intercalate (bytes.splitOn lineFeed) = bytes :=
    List.intercalate_splitOn lineFeed
  rw [splitOn_lineFeed, hlines, hempty] at hsplit
  exact h hsplit.symm

/-- Only the empty text has no lines. -/
theorem textLines_eq_nil_iff (bytes : List UInt8) : textLines bytes = [] ↔ bytes = [] := by
  constructor
  · intro hnil
    by_cases hbytes : bytes = []
    · exact hbytes
    · exact absurd (List.map_eq_nil_iff.mp hnil) (untrimmedLines_ne_nil hbytes)
  · rintro rfl
    rw [textLines, untrimmedLines_nil, List.map_nil]

/-- **A source that delivers a text at once has the lines of the text.** -/
theorem lines_ofBytes (bytes : List UInt8) :
    (Source.ofBytes bytes).lines = ⟨untrimmedLines bytes, none⟩ := by
  rw [Source.lines_of_fault?_eq_none (Source.fault?_ofBytes bytes), Source.delivered_ofBytes,
    untrimmedLines_eq]

/-! ## A line by its bytes -/

/-- The name that a line gives to its drum: the text of its first two bytes. -/
def nameOf (text : List UInt8) : String := Text.Utf8.decodeLossy (text.take 2)

/-- The pattern of a line: the bytes after its bar. -/
def patternOf (text : List UInt8) : List UInt8 := text.drop 3

/-- A line with room for a name, a bar in its place, and at least one byte of pattern. -/
def WellFormed (text : List UInt8) : Prop := 4 ≤ text.length ∧ text[2]? = some '|'.toUInt8

/-- A pattern hits column `i` if it has a byte there that is neither a point nor a dash. -/
def hits (pattern : List UInt8) (i : Nat) : Bool :=
  pattern[i]?.any fun b => b != '.'.toUInt8 && b != '-'.toUInt8

/-- The hits of a line are those of its pattern. -/
theorem hitsAt_eq (line : Line) (i : Nat) : line.hitsAt i = hits line.pattern i := by
  rw [Line.hitsAt, hits]
  cases line.pattern[i]? with
  | none => rfl
  | some b =>
    dsimp only [Option.any_some]
    rw [isPause, Bool.not_or]
    rfl

/-- **A line is read exactly if it is well formed**, and then with its name and its pattern. -/
theorem ofBytes?_eq_some_iff (bytes : List UInt8) (line : Line) :
    Line.ofBytes? bytes = some line ↔
      WellFormed bytes ∧ line.name = nameOf bytes ∧ line.pattern = patternOf bytes := by
  match bytes with
  | [] | [_] | [_, _] | [_, _, _] => simp [Line.ofBytes?, WellFormed]
  | a :: b :: c :: p :: ps =>
    obtain ⟨name, pattern, hpattern⟩ := line
    have hbar : '|'.toUInt8 = bar := rfl
    rw [Line.ofBytes?_cons, WellFormed, hbar]
    by_cases hc : c = bar
    · simp [hc, nameOf, patternOf, eq_comm]
    · simp [hc]

/-- A line is refused if it is not well-formed. -/
theorem ofBytes?_eq_none_iff (bytes : List UInt8) :
    Line.ofBytes? bytes = none ↔ ¬ WellFormed bytes := by
  constructor
  · intro hnone hwell
    have hpattern : patternOf bytes ≠ [] := by
      intro hnil
      rw [patternOf, List.drop_eq_nil_iff] at hnil
      have := hwell.1
      omega
    have hsome := (ofBytes?_eq_some_iff bytes ⟨nameOf bytes, patternOf bytes, hpattern⟩).mpr
      ⟨hwell, rfl, rfl⟩
    rw [hnone] at hsome
    exact Option.some_ne_none _ hsome.symm
  · intro hill
    rw [Option.eq_none_iff_forall_ne_some]
    intro line hline
    exact hill ((ofBytes?_eq_some_iff bytes line).mp hline).1

end DrumMachine.Tablature
