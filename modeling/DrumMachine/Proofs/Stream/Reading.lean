import DrumMachine.Stream.Source
import Mathlib.Data.List.DropRight

/-! # What the lines of a source are

A source is read delivery by delivery, with the bytes of an unfinished line kept in between. This
is the same as cutting all that it delivers at once, since a text can be cut piece by piece
(`cutLines_pieces`). So the deliveries are only seen in where they end: after the last one what is
left over is a line of its own (`lines_of_fault?_eq_none`), after a fault it is lost
(`lines_of_fault?_eq_some`). -/

namespace DrumMachine

/-! ## Cutting piece by piece -/

/-- **A text can be cut in two pieces**: the remainder of the first goes in front of the second. -/
theorem cutLines_pieces (a b : List UInt8) :
    cutLines (a ++ b) =
      ((cutLines a).1 ++ (cutLines ((cutLines a).2 ++ b)).1,
        (cutLines ((cutLines a).2 ++ b)).2) := by
  induction a with
  | nil => rfl
  | cons x a ih =>
    rw [List.cons_append]
    by_cases hx : x = lineFeed
    · subst hx
      rw [cutLines_lineFeed, cutLines_lineFeed, ih]
      rfl
    · rw [cutLines, if_neg hx, ih]
      -- the byte belongs to the first line of `a`, or to its remainder if it has no line
      conv_rhs => rw [cutLines, if_neg hx]
      generalize cutLines a = cut
      obtain ⟨_ | ⟨line, lines⟩, remainder⟩ := cut
      · simp only [List.nil_append, List.cons_append]
        conv_rhs => rw [cutLines, if_neg hx]
      · rfl

/-- Without a line feed no line is complete. -/
theorem cutLines_of_notMem {bytes : List UInt8} (h : lineFeed ∉ bytes) :
    cutLines bytes = ([], bytes) := by
  induction bytes with
  | nil => rfl
  | cons b bs ih =>
    rw [List.mem_cons, not_or] at h
    rw [cutLines, if_neg (Ne.symm h.1), ih h.2]

/-- The remainder is what follows the last line feed. -/
theorem lineFeed_notMem_remainder (bytes : List UInt8) : lineFeed ∉ (cutLines bytes).2 := by
  induction bytes with
  | nil => exact List.not_mem_nil
  | cons b bs ih =>
    by_cases hb : b = lineFeed
    · subst hb
      rwa [cutLines_lineFeed]
    · rw [cutLines, if_neg hb]
      generalize cutLines bs = cut at ih ⊢
      obtain ⟨_ | ⟨line, lines⟩, remainder⟩ := cut
      · rw [List.mem_cons, not_or]
        exact ⟨Ne.symm hb, ih⟩
      · exact ih

/-- **There is a line for every line feed.** -/
theorem length_cutLines_fst (bytes : List UInt8) :
    (cutLines bytes).1.length = bytes.count lineFeed := by
  induction bytes with
  | nil => rfl
  | cons b bs ih =>
    by_cases hb : b = lineFeed
    · subst hb
      rw [cutLines_lineFeed, List.length_cons, ih, List.count_cons_self]
    · rw [List.count_cons_of_ne hb, ← ih, cutLines, if_neg hb]
      obtain ⟨_ | ⟨line, lines⟩, remainder⟩ := cutLines bs <;> rfl

/-- Bytes of an unfinished line go in front of the line that follows. -/
theorem cutLines_unfinished {pending : List UInt8} (h : lineFeed ∉ pending)
    (bytes : List UInt8) :
    cutLines (pending ++ bytes) =
      match cutLines bytes with
      | ([], remainder) => ([], pending ++ remainder)
      | (line :: lines, remainder) => ((pending ++ line) :: lines, remainder) := by
  induction pending with
  | nil =>
    rw [List.nil_append]
    obtain ⟨_ | ⟨line, lines⟩, remainder⟩ := cutLines bytes <;> rfl
  | cons b bs ih =>
    rw [List.mem_cons, not_or] at h
    rw [List.cons_append, cutLines, if_neg (Ne.symm h.1), ih h.2]
    obtain ⟨_ | ⟨line, lines⟩, remainder⟩ := cutLines bytes <;> rfl

/-! ## The part of a text that is complete -/

/-- **The part of a text up to its last line feed**, which is included; nothing if it has none. -/
def completePart (bytes : List UInt8) : List UInt8 := bytes.rdropWhile (· ≠ lineFeed)

/-- The complete part of a text has the lines that are ended by a line feed, and no remainder. -/
theorem cutLines_completePart (bytes : List UInt8) :
    cutLines (completePart bytes) = ((cutLines bytes).1, []) := by
  -- from the end: the last byte ends a line or is in the remainder
  induction bytes using List.reverseRecOn with
  | nil => rfl
  | append_singleton bytes b ih =>
    have hrest := lineFeed_notMem_remainder bytes
    by_cases hb : b = lineFeed
    · subst hb
      have hlast : cutLines ((cutLines bytes).2 ++ [lineFeed]) = ([(cutLines bytes).2], []) := by
        rw [cutLines_unfinished hrest, cutLines_lineFeed]
        simp
      rw [completePart, List.rdropWhile_concat_neg _ _ _ (by simp), cutLines_pieces, hlast]
    · have hlast : lineFeed ∉ (cutLines bytes).2 ++ [b] := by
        simp [hrest, Ne.symm hb]
      rw [completePart, List.rdropWhile_concat_pos _ _ _ (by simpa using hb), ← completePart, ih,
        cutLines_pieces, cutLines_of_notMem hlast, List.append_nil]

/-! ## Sources -/

namespace Source

/-- What is left over of the bytes of a source, as a line of its own: it is one if it is not empty
and the source came to its end. -/
def leftover (fault? : Option Fault) (remainder : List UInt8) : List (List UInt8) :=
  if fault?.isNone ∧ remainder ≠ [] then [remainder] else []

/-- **Reading on with an unfinished line** gives the lines of its bytes and all that is still to be
delivered. -/
theorem linesFrom_eq {pending : List UInt8} (h : lineFeed ∉ pending) (source : Source) :
    linesFrom pending source =
      ⟨(cutLines (pending ++ source.delivered)).1 ++
          leftover source.fault? (cutLines (pending ++ source.delivered)).2,
        source.fault?⟩ := by
  induction source generalizing pending with
  | nil =>
    rw [linesFrom, delivered, List.append_nil, cutLines_of_notMem h, fault?, leftover]
    cases pending <;> simp
  | cons delivery rest ih =>
    cases delivery with
    | interrupted =>
      rw [linesFrom, ih h]
      rfl
    | failed fault =>
      rw [linesFrom, delivered, List.append_nil, cutLines_of_notMem h, fault?, leftover]
      simp
    | bytes b bs =>
      have hpieces := cutLines_pieces (pending ++ b :: bs) (delivered rest)
      have hremainder := lineFeed_notMem_remainder (b :: bs)
      rw [cutLines_unfinished h] at hpieces
      rw [linesFrom, delivered, fault?, ← List.append_assoc, hpieces]
      -- the delivery only makes the line at hand longer, or it ends that line
      generalize cutLines (b :: bs) = cut at hremainder ⊢
      obtain ⟨_ | ⟨line, lines⟩, remainder⟩ := cut
      · have hunfinished : lineFeed ∉ pending ++ remainder := by
          rw [List.mem_append, not_or]
          exact ⟨h, hremainder⟩
        dsimp only
        rw [ih hunfinished]
        rfl
      · dsimp only
        rw [ih hremainder]
        simp

/-- **A source that comes to its end** has the lines of all that it delivers. -/
theorem lines_of_fault?_eq_none {source : Source} (h : source.fault? = none) :
    source.lines =
      ⟨(cutLines source.delivered).1 ++
          if (cutLines source.delivered).2 = [] then [] else [(cutLines source.delivered).2],
        none⟩ := by
  rw [lines, linesFrom_eq List.not_mem_nil, List.nil_append, h, leftover]
  by_cases hremainder : (cutLines source.delivered).2 = [] <;> simp [hremainder]

/-- **A source that fails** has the lines that are complete by then. -/
theorem lines_of_fault?_eq_some {source : Source} {fault : Fault}
    (h : source.fault? = some fault) :
    source.lines = ⟨(cutLines source.delivered).1, some fault⟩ := by
  rw [lines, linesFrom_eq List.not_mem_nil, List.nil_append, h, leftover]
  simp

end Source

end DrumMachine
