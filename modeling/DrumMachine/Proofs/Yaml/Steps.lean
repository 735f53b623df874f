import DrumMachine.Proofs.Yaml.Places
import DrumMachine.Yaml.Token
import Mathlib.Logic.Relation

/-! # Steps of a scanner

A scanner that stands at the start of a token takes a step (`Scanner.Step`): it reads the token and
goes on to the next one. The tokens of a text are found by such steps up to the end of the text
(`Scanner.run_of_leads`). All the states met while reading block collections have the same form
(`Scanner.inBlock`), and so here is what approaching a token does to it: on the same line nothing
happens (`approach_sameLine`), at the start of a line block collections end (`approach_line`). -/

namespace DrumMachine.Yaml.Scanner

/-! ## Steps and runs -/

/-- **A step of a scanner** from the start of a token to the start of the next one, or to the end of
the text. -/
def Step (s t : Scanner) : Prop :=
  s.rest.peek 0 ≠ endMark ∧ s.token.bind approach = some t ∧ t.rest.length < s.rest.length

/-- Any number of steps. -/
abbrev Leads : Scanner → Scanner → Prop := Relation.ReflTransGen Step

/-- **What a run gives**: the tokens at the state that steps lead to, if it is at the end of the
text. -/
theorem run_of_leads {s t u : Scanner} {fuel : Nat} (hstart : u.approach = some s)
    (hleads : Leads s t) (hend : t.rest.peek 0 = endMark) (hfuel : s.rest.length < fuel) :
    run fuel u = t.finish := by
  obtain ⟨fuel, rfl⟩ := Nat.exists_eq_add_of_lt (Nat.zero_lt_of_lt hfuel)
  rw [Nat.zero_add] at hfuel ⊢
  -- on the steps, the first one outermost: a run takes it and is then a run from the next state
  induction hleads using Relation.ReflTransGen.head_induction_on generalizing u fuel with
  | refl => simp [run, hstart, hend]
  | @head s s' hstep hleads ih =>
    obtain ⟨hmore, hnext, hlength⟩ := hstep
    obtain ⟨v, htoken, happroach⟩ := Option.bind_eq_some_iff.mp hnext
    obtain ⟨fuel, rfl⟩ := Nat.exists_eq_add_of_lt (Nat.zero_lt_of_lt (show 0 < fuel by omega))
    have hrun := ih happroach fuel (by omega)
    rw [run, hstart]
    simpa [hmore, htoken] using hrun

/-! ## States in block collections -/

/-- **A scanner outside of flow collections.** -/
def inBlock (rest : Layout) (tokens : List Token) (margin : Nat) (outer : List Nat)
    (place : Option KeyPlace) (keyAllowed : Bool) : Scanner :=
  { rest, tokens, count := tokens.length, margin, outer, place, keyAllowed }

/-- **A scanner that has arrived at the first token of a line**: the block collections of which
this line is no part have ended. -/
def atLine (rest : Layout) (tokens : List Token) (margin : Nat) (outer : List Nat) : Scanner :=
  (inBlock rest tokens margin outer none true).closeBlocks (rest.head.column + 1)

variable {rest : Layout} {tokens : List Token} {margin line column : Nat} {outer : List Nat}
  {place : Option KeyPlace} {keyAllowed : Bool} {cs : List Char}

/-- Within the margin no block collection ends. -/
theorem closed_of_le {limit : Nat} (h : margin ≤ limit) :
    closed limit margin outer = (margin, outer, 0) := by
  cases outer <;> rw [closed, if_neg (Nat.not_lt.mpr h)]

/-- A scanner within the margin goes on in the same block collection. -/
theorem closeBlocks_of_le {limit : Nat} (h : margin ≤ limit) :
    (inBlock rest tokens margin outer place keyAllowed).closeBlocks limit =
      inBlock rest tokens margin outer place keyAllowed := by
  simp [closeBlocks, inBlock, inFlow, closed_of_le h]

/-- The innermost block collection ends at a line that starts left of it. -/
theorem closeBlocks_of_lt {limit next : Nat} (h : limit < margin) :
    (inBlock rest tokens margin (next :: outer) place keyAllowed).closeBlocks limit =
      (inBlock rest (.blockEnd :: tokens) next outer place keyAllowed).closeBlocks limit := by
  have hclosed : closed limit margin (next :: outer) =
      ((closed limit next outer).1, (closed limit next outer).2.1,
        (closed limit next outer).2.2 + 1) := by
    rw [closed, if_pos h]
  simp [closeBlocks, inBlock, inFlow, hclosed, List.replicate_succ', Nat.add_assoc, Nat.add_comm 1]

/-- A line within the margin ends nothing. -/
theorem atLine_of_le (h : margin ≤ column + 1) :
    atLine (.place line column cs) tokens margin outer =
      inBlock (.place line column cs) tokens margin outer none true := by
  rw [atLine, Layout.head_place, closeBlocks_of_le h]

/-- A line left of the margin ends the innermost block collection. -/
theorem atLine_of_lt {next : Nat} (h : column + 1 < margin) :
    atLine (.place line column cs) tokens margin (next :: outer) =
      atLine (.place line column cs) (.blockEnd :: tokens) next outer := by
  rw [atLine, atLine, Layout.head_place, closeBlocks_of_lt h]

/-- The end of a block collection is read off the column, and no character is used up. -/
theorem rest_closeBlocks (s : Scanner) (limit : Nat) : (s.closeBlocks limit).rest = s.rest := by
  rw [closeBlocks]
  split <;> rfl

/-- What a scanner in block collections has still to read. -/
@[simp] theorem rest_inBlock : (inBlock rest tokens margin outer place keyAllowed).rest = rest :=
  rfl

/-- What a scanner at the start of a line has still to read. -/
@[simp] theorem rest_atLine : (atLine rest tokens margin outer).rest = rest :=
  rest_closeBlocks _ _

/-! ## Approaching a token -/

/-- Nothing is skipped where a token starts. -/
theorem skipped_token {flow : Bool} (hcs : StartsToken cs) :
    skipped flow false keyAllowed (.place line column cs) =
      (.place line column cs, keyAllowed) := by
  have hblank := hcs.not_blank
  obtain ⟨rest, hplace⟩ := Layout.exists_place_eq_cons line column cs
  have hbreak := hcs.not_break
  have hcomment := hcs.not_comment
  have hmark := hcs.not_byteOrderMark
  rw [hplace]
  generalize cs.headD endMark = c at hblank hbreak hcomment hmark
  simp only [isBlank, Bool.or_eq_true, beq_iff_eq, not_or] at hblank
  simp [skipped, hbreak, hblank, hcomment, hmark]

/-- A space is skipped. -/
theorem skipped_space {flow : Bool} :
    skipped flow false keyAllowed (.place line column (' ' :: cs)) =
      skipped flow false keyAllowed (.place line (column + 1) cs) := rfl

/-- Spaces are skipped. -/
theorem skipped_spaces (n : Nat) {flow : Bool} :
    skipped flow false keyAllowed (.place line column (spaces n ++ cs)) =
      skipped flow false keyAllowed (.place line (column + n) cs) :=
  Layout.pass_spaces fun _ _ _ => skipped_space

/-- Behind a line feed a key may come. -/
theorem skipped_break :
    skipped false false keyAllowed (.place line column ('\n' :: cs)) =
      skipped false false true (.place (line + 1) 0 cs) := rfl

/-- The end of a line and the spaces of the next one are skipped. -/
theorem skipped_line {first : Nat} (hcs : StartsToken cs) :
    skipped false false keyAllowed (.place line column ('\n' :: (spaces first ++ cs))) =
      (.place (line + 1) first cs, true) := by
  rw [skipped_break, skipped_spaces, Nat.zero_add, skipped_token hcs]

/-- On the same line a key goes on, unless it would be too long. -/
theorem expire_sameLine (hplace : ∀ p ∈ place, p.line = line ∧ column ≤ p.column + maxKeyLength) :
    expire line column place = some place := by
  cases place with
  | none => rfl
  | some p =>
    obtain ⟨hline, hcolumn⟩ := hplace p rfl
    rw [expire, hline, decide_eq_false (Nat.lt_irrefl line),
      decide_eq_false (Nat.not_lt.mpr hcolumn)]
    rfl

/-- **Approaching a token on the same line** changes nothing, unless a key would be too long. -/
theorem approach_sameLine (spaced : Nat) (hcs : StartsToken cs)
    (hmargin : margin ≤ column + spaced + 1)
    (hplace : ∀ p ∈ place, p.line = line ∧ column + spaced ≤ p.column + maxKeyLength) :
    (inBlock (.place line column (spaces spaced ++ cs)) tokens margin outer place
      keyAllowed).approach =
      some (inBlock (.place line (column + spaced) cs) tokens margin outer place keyAllowed) := by
  have htoken : (inBlock (.place line column (spaces spaced ++ cs)) tokens margin outer place
      keyAllowed).toToken =
      inBlock (.place line (column + spaced) cs) tokens margin outer place keyAllowed := by
    simp [toToken, inBlock, inFlow, skipped_spaces, skipped_token hcs]
  have hexpire := expire_sameLine hplace
  have hexpired : (inBlock (.place line (column + spaced) cs) tokens margin outer place
      keyAllowed).expirePlaces =
      some (inBlock (.place line (column + spaced) cs) tokens margin outer place keyAllowed) := by
    simp only [expirePlaces, inBlock, Layout.head_place, hexpire]
    rfl
  rw [approach, htoken, hexpired, Option.bind_eq_bind, Option.bind_some, rest_inBlock,
    Layout.head_place, closeBlocks_of_le hmargin]
  rfl

/-- **Approaching the first token of a line.** A key without a mark may start there; one that may
have started on an earlier line did not. -/
theorem approach_line
    (hskipped : skipped false false keyAllowed rest = (.place line column cs, true))
    (hplace : ∀ p ∈ place, p.required = false ∧ p.line < line) :
    (inBlock rest tokens margin outer place keyAllowed).approach =
      some (atLine (.place line column cs) tokens margin outer) := by
  have htoken : (inBlock rest tokens margin outer place keyAllowed).toToken =
      inBlock (.place line column cs) tokens margin outer place true := by
    simp [toToken, inBlock, inFlow, hskipped]
  -- a key that may have started on an earlier line is given up
  have hexpire : expire line column place = some none := by
    cases place with
    | none => rfl
    | some p =>
      obtain ⟨hrequired, hline⟩ := hplace p rfl
      rw [expire, hrequired, decide_eq_true hline]
      rfl
  have hexpired : (inBlock (.place line column cs) tokens margin outer place true).expirePlaces =
      some (inBlock (.place line column cs) tokens margin outer none true) := by
    simp only [expirePlaces, inBlock, Layout.head_place, hexpire]
    rfl
  rw [approach, htoken, hexpired, Option.bind_eq_bind, Option.bind_some, atLine]
  rfl

end DrumMachine.Yaml.Scanner
