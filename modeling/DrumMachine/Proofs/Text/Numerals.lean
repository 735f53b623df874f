import DrumMachine.Text.Numeral
import Mathlib.Tactic.SplitIfs

/-! # Numerals that are read back

The digits of a number, in lower or upper case, stand for this number (`onto?_map_toDigits`), and so
do more of them with zeros in front. -/

namespace DrumMachine.Text.Numeral

variable {base : Nat}

/-- Digits are read one part after the other. -/
theorem onto?_append (acc : Nat) (xs ys : List Char) :
    onto? base acc (xs ++ ys) = (onto? base acc xs).bind fun n => onto? base n ys := by
  induction xs generalizing acc with
  | nil => rfl
  | cons c xs ih =>
    rw [List.cons_append, onto?, onto?]
    cases digit? base c with
    | none => rfl
    | some digit => exact ih _

/-- What stands for a number holds nothing but digits. -/
theorem isSome_digit?_of_onto? {acc n : Nat} {cs : List Char} (h : onto? base acc cs = some n)
    {c : Char} (hc : c ∈ cs) : (digit? base c).isSome := by
  induction cs generalizing acc with
  | nil => exact absurd hc List.not_mem_nil
  | cons d cs ih =>
    rw [onto?] at h
    cases hd : digit? base d with
    | none => simp [hd] at h
    | some digit =>
      simp only [hd] at h
      obtain rfl | hc := List.mem_cons.mp hc
      · rw [hd]
        rfl
      · exact ih h hc

/-- Digits lie between the decimal digits and the letters. -/
theorem range_of_isSome_digit? {c : Char} (h : (digit? base c).isSome) : '0' ≤ c ∧ c ≤ 'z' := by
  refine Decidable.byContradiction fun hrange => ?_
  have hdecimal : ¬ ('0' ≤ c ∧ c ≤ '9') := fun hc =>
    hrange ⟨hc.1, Char.le_trans hc.2 (by decide)⟩
  have hlower : ¬ ('a' ≤ c ∧ c ≤ 'z') := fun hc =>
    hrange ⟨Char.le_trans (by decide) hc.1, hc.2⟩
  have hupper : ¬ ('A' ≤ c ∧ c ≤ 'Z') := fun hc =>
    hrange ⟨Char.le_trans (by decide) hc.1, Char.le_trans hc.2 (by decide)⟩
  simp only [digit?, if_neg hdecimal, if_neg hlower, if_neg hupper, Nat.lt_irrefl, if_false,
    Option.isSome_none, Bool.false_eq_true] at h

/-- One more digit multiplies by the base and is added. -/
theorem onto?_singleton {acc d : Nat} {c : Char} (h : digit? base c = some d) :
    onto? base acc [c] = some (acc * base + d) := by
  simp only [onto?, h]

/-- A digit of a base up to 16 is read back, in lower case and in upper case. -/
theorem digit?_digitChar {d : Nat} (hd : d < base) (hbase : base ≤ 16) :
    digit? base d.digitChar = some d ∧ digit? base d.digitChar.toUpper = some d := by
  have hsmall : d < 16 := Nat.lt_of_lt_of_le hd hbase
  have hvalue : ∀ d < 16, digit? 16 d.digitChar = some d ∧
      digit? 16 d.digitChar.toUpper = some d := by
    decide
  -- the value of a digit does not depend on the base, which only bounds it
  have hbound : ∀ c, digit? 16 c = some d → digit? base c = some d := by
    intro c hc
    simp only [digit?] at hc ⊢
    split_ifs at hc ⊢ <;> simp only [Option.some.injEq] at hc ⊢ <;> omega
  exact (hvalue d hsmall).imp (hbound _) (hbound _)

/-- **The digits of a number stand for it**, in whatever case they are written. -/
theorem onto?_map_toDigits (hbase : 1 < base) {f : Char → Char}
    (hf : ∀ d < base, digit? base (f d.digitChar) = some d) (n : Nat) :
    onto? base 0 ((Nat.toDigits base n).map f) = some n := by
  induction n using Nat.base_induction base hbase with
  | single d hd =>
    rw [Nat.toDigits_of_lt_base hd, List.map_singleton, onto?_singleton (hf d hd), Nat.zero_mul,
      Nat.zero_add]
  | digit m d hd hm ih =>
    rw [← Nat.toDigits_append_toDigits hbase hm hd, List.map_append, onto?_append, ih,
      Option.bind_some, Nat.toDigits_of_lt_base hd, List.map_singleton, onto?_singleton (hf d hd),
      Nat.mul_comm]

/-- Zeros in front are worth nothing. -/
theorem onto?_replicate_zero (n : Nat) (hbase : 0 < base) :
    onto? base 0 (List.replicate n '0') = some 0 := by
  have hzero : digit? base '0' = some 0 := by simp [digit?, hbase]
  induction n with
  | zero => rfl
  | succ n ih =>
    rw [List.replicate_succ, onto?, hzero]
    simpa using ih

end DrumMachine.Text.Numeral
