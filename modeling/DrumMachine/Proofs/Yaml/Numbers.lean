import DrumMachine.Proofs.Text.Numerals
import DrumMachine.Proofs.Yaml.Places
import DrumMachine.Yaml.Number

/-! # Numbers that are read back

The decimal digits of a number can stand without quotes (`Writing.allowsPlain_toString`). They name
no other base and are not led by a needless zero, so they stand for the number
(`unsigned?_toString`). -/

namespace DrumMachine.Yaml

/-- A decimal digit has no meaning of its own in YAML. -/
theorem isDigit_cases {c : Char} (h : c.isDigit) :
    (isPrintable c ∧ ¬ isBreak c) ∧ Writing.isTrimmed c = false ∧ isIndicator c = false ∧
      c ∉ ['+', '-', '.', '?', ':', '#', 'x', 'o', 'b'] := by
  have hall : ∀ d < 10, (isPrintable d.digitChar ∧ ¬ isBreak d.digitChar) ∧
      Writing.isTrimmed d.digitChar = false ∧ isIndicator d.digitChar = false ∧
      d.digitChar ∉ ['+', '-', '.', '?', ':', '#', 'x', 'o', 'b'] := by
    decide
  have hchar : ∀ d < 10, Char.ofNat (48 + d) = d.digitChar := by decide
  have hrange : 48 ≤ c.toNat ∧ c.toNat ≤ 57 := by
    simpa [Char.isDigit, UInt32.le_iff_toNat_le] using h
  have hc : c = (c.toNat - 48).digitChar := by
    rw [← hchar _ (by omega), Nat.add_sub_cancel' hrange.1, Char.ofNat_toNat]
  rw [hc]
  exact hall _ (by omega)

section Digits

variable {n : Nat} {c : Char} {text : List Char}

/-- A number is written in digits. -/
theorem isDigit_of_mem_toString (h : c ∈ (toString n).toList) : c.isDigit := by
  rw [Nat.toString_eq_ofList_toDigits, String.toList_ofList] at h
  exact Nat.isDigit_of_mem_toDigits (by decide) (by decide) h

/-- The digits of a number are a first digit and more. -/
theorem exists_toString_eq_cons (n : Nat) :
    ∃ c more, (toString n).toList = c :: more ∧ ∀ d ∈ c :: more, d.isDigit := by
  have hne : (toString n).toList ≠ [] := by
    rw [Nat.toString_eq_ofList_toDigits, String.toList_ofList]
    exact Nat.toDigits_ne_nil
  obtain ⟨c, more, htext⟩ := List.exists_cons_of_ne_nil hne
  exact ⟨c, more, htext, fun d hd => isDigit_of_mem_toString (htext ▸ hd)⟩

/-- Among digits there is no mark. -/
theorem holdsMark_digits {separated : Bool} (h : ∀ c ∈ text, c.isDigit) :
    Writing.holdsMark separated text = false := by
  induction text generalizing separated with
  | nil => rfl
  | cons c text ih =>
    obtain ⟨-, -, -, hother⟩ := isDigit_cases (h c List.mem_cons_self)
    simp only [List.mem_cons, not_or] at hother
    simp [Writing.holdsMark, hother, ih fun d hd => h d (List.mem_cons_of_mem c hd)]

end Digits

/-- **Digits can stand without quotes.** -/
theorem allowsPlain_toString (n : Nat) : Writing.allowsPlain (toString n).toList := by
  obtain ⟨c, more, htext, hdigits⟩ := exists_toString_eq_cons n
  obtain ⟨-, htrimmed, hindicator, hother⟩ := isDigit_cases (hdigits c List.mem_cons_self)
  have hchars : (c :: more).all (fun c => isPrintable c && !isBreak c) := by
    rw [List.all_eq_true]
    intro d hd
    obtain ⟨⟨hprintable, hbreak⟩, -⟩ := isDigit_cases (hdigits d hd)
    simp [hprintable, hbreak]
  have hlast : (c :: more).getLast?.any Writing.isTrimmed = false := by
    rw [Option.any_eq_false]
    intro d hd
    simp [(isDigit_cases (hdigits d (List.mem_of_getLast? hd))).2.1]
  have hmarked : Writing.startsMarked (c :: more) = false := by
    simp only [List.mem_cons, not_or] at hother
    simp [Writing.startsMarked, hindicator, hother, List.isPrefixOf, Ne.symm]
  rw [htext]
  simp [Writing.allowsPlain, hchars, htrimmed, hlast, hmarked, holdsMark_digits hdigits]

/-- **A number is not led by a needless zero.** -/
theorem head?_toDigits {base n : Nat} (hbase : 1 < base) (h : base ≤ 10) (hn : 0 < n) :
    (Nat.toDigits base n).head? ≠ some '0' := by
  induction n using Nat.base_induction base hbase with
  | single d hd =>
    have hdigit : ∀ d < 10, 0 < d → d.digitChar ≠ '0' := by decide
    rw [Nat.toDigits_of_lt_base hd, List.head?_cons]
    exact fun heq => hdigit d (by omega) hn (Option.some.inj heq)
  | digit m d hd hm ih =>
    -- the first digit stays the first one
    obtain ⟨c, more, hdigits⟩ :=
      List.exists_cons_of_ne_nil (Nat.toDigits_ne_nil (n := m) (b := base))
    have hfirst := ih hm
    rw [← Nat.toDigits_append_toDigits hbase hm hd]
    rwa [hdigits] at hfirst ⊢

/-- No number is written with a zero in front. -/
theorem isZeroLed_toString (n : Nat) : isZeroLed (toString n).toList = false := by
  obtain ⟨c, more, htext, hdigits⟩ := exists_toString_eq_cons n
  obtain ⟨-, -, -, hother⟩ := isDigit_cases (hdigits c List.mem_cons_self)
  have hsign : (Text.Numeral.sign (toString n).toList).2 = (toString n).toList := by
    rw [htext]
    unfold Text.Numeral.sign
    split
    · simp_all
    · simp_all
    · rfl
  rw [isZeroLed, hsign]
  obtain rfl | hn := Nat.eq_zero_or_pos n
  · rfl
  · have hfirst := @head?_toDigits 10 n (by decide) (by decide) hn
    rw [← String.toList_ofList (l := Nat.toDigits 10 n),
      ← Nat.toString_eq_ofList_toDigits] at hfirst
    split
    · simp_all
    · rfl

/-- **The digits of a number stand for it.** -/
theorem unsigned?_toString (n : Nat) : unsigned? (toString n).toList = some n := by
  have hled := isZeroLed_toString n
  have hvalue : Text.Numeral.onto? 10 0 (toString n).toList = some n := by
    have hread := @Text.Numeral.onto?_map_toDigits 10 (by decide) id
      (fun d hd => (Text.Numeral.digit?_digitChar hd (by decide)).1) n
    rwa [List.map_id, ← String.toList_ofList (l := Nat.toDigits 10 n),
      ← Nat.toString_eq_ofList_toDigits] at hread
  obtain ⟨c, more, htext, hdigits⟩ := exists_toString_eq_cons n
  rw [htext] at hled hvalue ⊢
  -- in front of digits there is neither a sign nor the mark of a base
  have hplus : dropPlus (c :: more) = c :: more := by
    obtain ⟨-, -, -, hother⟩ := isDigit_cases (hdigits c List.mem_cons_self)
    unfold dropPlus
    split
    · simp_all
    · rfl
  have hbase : based? (c :: more) = none := by
    have hletter : ∀ d ∈ c :: more, d ≠ 'x' ∧ d ≠ 'o' ∧ d ≠ 'b' := fun d hd => by
      have hother := (isDigit_cases (hdigits d hd)).2.2.2
      simp_all
    unfold based?
    split
    next rest heq => exact absurd rfl (hletter 'x' (heq ▸ by simp)).1
    next rest heq => exact absurd rfl (hletter 'o' (heq ▸ by simp)).2.1
    next rest heq => exact absurd rfl (hletter 'b' (heq ▸ by simp)).2.2
    next => rfl
  rw [unsigned?, hplus]
  simp only [hbase, hled]
  exact hvalue

end DrumMachine.Yaml
