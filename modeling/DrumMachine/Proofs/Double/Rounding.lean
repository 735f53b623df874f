import DrumMachine.Proofs.Double.Values
import Mathlib.Tactic.LinearCombination

/-! # Rounding to doubles

A mantissa with a round bit and a sticky bit stands for an exact number (`Double.Represents`), also
after it has been shifted. Rounding it gives a nearest whole number, and, with its exponent, the
double nearest to the exact number (`Double.roundWithAccuracy_eq`). -/

namespace DrumMachine.Double

open Float.Model Float.Model.UnpackedFloat

/-! ## Residual bits -/

/-- **The exact number a mantissa with its residual bits stands for**, as far as they tell: the
round bit counts a half, and the sticky bit tells whether there is a rest below it. -/
def Represents (em : ExtendedMantissa) (x : ℚ) : Prop :=
  ∃ rest : ℚ, x = em.mantissa + em.roundBit.toNat / 2 + rest ∧ 0 ≤ rest ∧ rest < 1 / 2 ∧
    (rest = 0 ↔ em.stickyBit = false)

/-- **A nearest whole number**, that no other whole number separates from the number itself. -/
structure IsNearest (m : Nat) (x : ℚ) : Prop where
  abs_sub_le : |m - x| ≤ 1 / 2
  le_of_le : ∀ n : Nat, x ≤ n → m ≤ n
  ge_of_ge : ∀ n : Nat, n ≤ x → n ≤ m

namespace IsNearest

variable {m : Nat} {x : ℚ}

/-- Up to one half it is the whole part that is nearest. -/
theorem of_le_half (hle : m ≤ x) (hhalf : x ≤ m + 1 / 2) : IsNearest m x where
  abs_sub_le := abs_le.mpr ⟨by linarith, by linarith⟩
  le_of_le n hn := by exact_mod_cast hle.trans hn
  ge_of_ge n hn := by
    have hlt : (n : ℚ) < m + 1 := by linarith
    exact Nat.lt_succ_iff.mp (by exact_mod_cast hlt)

/-- From one half on it is the number after the whole part. -/
theorem succ_of_half_le (hhalf : m + 1 / 2 ≤ x) (hle : x ≤ m + 1) : IsNearest (m + 1) x where
  abs_sub_le := abs_le.mpr ⟨by push_cast; linarith, by push_cast; linarith⟩
  le_of_le n hn := by
    have hlt : (m : ℚ) < n := by linarith
    exact Nat.succ_le_of_lt (by exact_mod_cast hlt)
  ge_of_ge n hn := by exact_mod_cast hn.trans hle

end IsNearest

namespace Represents

variable {em : ExtendedMantissa} {x : ℚ}

/-- The bit that leaves the mantissa becomes the round bit, which leaves for the sticky bit. -/
theorem shiftRightOne (h : Represents em x) : Represents em.shiftRightOne (x / 2) := by
  obtain ⟨rest, rfl, hle, hlt, hzero⟩ := h
  obtain ⟨m, round, sticky⟩ := em
  have hmantissa : (m : ℚ) = 2 * (m / 2 : Nat) + (m % 2 != 0).toNat := by
    have hbit : (m % 2 != 0).toNat = m % 2 := by
      rcases Nat.mod_two_eq_zero_or_one m with h | h <;> simp [h]
    rw [hbit]
    exact_mod_cast (Nat.div_add_mod m 2).symm
  have hround : 0 ≤ (round.toNat : ℚ) ∧ (round.toNat : ℚ) ≤ 1 :=
    ⟨Nat.cast_nonneg _, by exact_mod_cast Bool.toNat_le round⟩
  -- what the old round bit stood for is now below the new one
  refine ⟨round.toNat / 4 + rest / 2, ?_, by linarith, by linarith, ?_⟩
  · simp only [ExtendedMantissa.shiftRightOne]
    linear_combination hmantissa / 2
  · cases round with
    | false => simpa [ExtendedMantissa.shiftRightOne] using hzero
    | true =>
      refine iff_of_false ?_ (by simp [ExtendedMantissa.shiftRightOne])
      simp only [Bool.toNat_true]
      linarith

/-- Every place that is left behind halves the number. -/
theorem shiftRight (h : Represents em x) (n : Nat) : Represents (em >>> n) (x / 2 ^ n) := by
  induction n with
  | zero => rwa [pow_zero, div_one]
  | succ n ih =>
    rw [pow_succ, ← div_div]
    exact ih.shiftRightOne

/-- The mantissa alone is the whole part. -/
theorem mantissa_le (h : Represents em x) : (em.mantissa : ℚ) ≤ x := by
  obtain ⟨rest, rfl, hle, -⟩ := h
  have hround : (0 : ℚ) ≤ em.roundBit.toNat := Nat.cast_nonneg _
  linarith

/-- The mantissa is the whole part, so the number is less than the one after it. -/
theorem lt_mantissa_add_one (h : Represents em x) : x < em.mantissa + 1 := by
  obtain ⟨rest, rfl, -, hlt, -⟩ := h
  have hround : (em.roundBit.toNat : ℚ) ≤ 1 := by exact_mod_cast Bool.toNat_le _
  linarith

/-- **The rounded mantissa is nearest.** -/
theorem isNearest_roundedMantissa (h : Represents em x) : IsNearest em.roundedMantissa x := by
  obtain ⟨rest, rfl, hle, hlt, hzero⟩ := h
  obtain ⟨m, round, sticky⟩ := em
  cases round with
  | false =>
    have hnear : IsNearest m (m + (false.toNat : ℚ) / 2 + rest) := by
      rw [Bool.toNat_false, Nat.cast_zero]
      exact IsNearest.of_le_half (by linarith) (by linarith)
    cases sticky <;> exact hnear
  | true =>
    have hnear : IsNearest (m + 1) (m + (true.toNat : ℚ) / 2 + rest) := by
      rw [Bool.toNat_true, Nat.cast_one]
      exact IsNearest.succ_of_half_le (by linarith) (by linarith)
    cases sticky with
    | true => exact hnear
    | false =>
      -- A tie goes to the even one of the two.
      have htie : IsNearest m (m + (true.toNat : ℚ) / 2 + rest) := by
        rw [hzero.mpr rfl]
        refine IsNearest.of_le_half ?_ ?_ <;> simp
      show IsNearest (m + m % 2) _
      rcases Nat.mod_two_eq_zero_or_one m with hmod | hmod <;> rw [hmod]
      · exact htie
      · exact hnear

/-- A whole number is represented without round and sticky bits. -/
theorem of_exact (m : Nat) : Represents (.ofMantissaAndAccuracy m .exact) m :=
  ⟨0, by simp [ExtendedMantissa.ofMantissaAndAccuracy], le_rfl, one_half_pos,
    by simp [ExtendedMantissa.ofMantissaAndAccuracy]⟩

/-- A fraction is told from a half by its ordering. -/
theorem of_fraction (m : Nat) {a b : Nat} (ha : 0 < a) (hab : a < b) :
    Represents (.ofMantissaAndAccuracy m (accuracyOfFraction a b)) (m + a / b) := by
  have hb : (0 : ℚ) < b := by exact_mod_cast Nat.zero_lt_of_lt hab
  have hpos : 0 < (a / b : ℚ) := div_pos (by exact_mod_cast ha) hb
  have hone : (a / b : ℚ) < 1 := (div_lt_one hb).mpr (by exact_mod_cast hab)
  rw [accuracyOfFraction, if_neg ha.ne']
  -- below a half, a half and above it have each their own bits
  rcases lt_trichotomy (2 * a) b with hlt | heq | hgt
  · have hhalf : (a / b : ℚ) < 1 / 2 := by
      rw [div_lt_div_iff₀ hb two_pos, mul_comm, one_mul]
      exact_mod_cast hlt
    rw [Nat.compare_eq_lt.mpr hlt]
    exact ⟨a / b, by simp [ExtendedMantissa.ofMantissaAndAccuracy], hpos.le, hhalf,
      iff_of_false hpos.ne' Bool.noConfusion⟩
  · have hhalf : (a / b : ℚ) = 1 / 2 := by
      rw [div_eq_div_iff hb.ne' two_ne_zero, mul_comm, one_mul]
      exact_mod_cast heq
    rw [Nat.compare_eq_eq.mpr heq, hhalf]
    exact ⟨0, by simp [ExtendedMantissa.ofMantissaAndAccuracy], le_rfl, one_half_pos,
      iff_of_true rfl rfl⟩
  · have hhalf : 1 / 2 < (a / b : ℚ) := by
      rw [div_lt_div_iff₀ two_pos hb, mul_comm (_ : ℚ) 2, one_mul]
      exact_mod_cast hgt
    rw [Nat.compare_eq_gt.mpr hgt]
    refine ⟨a / b - 1 / 2, by simp [ExtendedMantissa.ofMantissaAndAccuracy], by linarith,
      by linarith, iff_of_false (by linarith) Bool.noConfusion⟩

/-- **The mantissa of a quotient** with the accuracy that its remainder tells. -/
theorem of_div (a : Nat) {b : Nat} (hb : 0 < b) :
    Represents (.ofMantissaAndAccuracy (a / b) (accuracyOfFraction (a % b) b)) (a / b : ℚ) := by
  have hdiv : (a / b : ℚ) = (a / b : Nat) + (a % b : Nat) / b := by
    have hpos : (b : ℚ) ≠ 0 := by exact_mod_cast hb.ne'
    rw [div_eq_iff hpos, add_mul, div_mul_cancel₀ _ hpos, mul_comm]
    exact_mod_cast (Nat.div_add_mod a b).symm
  rw [hdiv]
  rcases Nat.eq_zero_or_pos (a % b) with hzero | hpos
  · rw [hzero, Nat.cast_zero, zero_div, add_zero]
    exact of_exact _
  · exact of_fraction _ hpos (Nat.mod_lt a hb)

end Represents

/-! ## The rounded number -/

/-- A mantissa of 53 bits or more is shifted until it has 53. -/
theorem shiftToTargetExponent_of_le {m : Nat} {e : Int} (accuracy : Accuracy)
    (hm : 2 ^ 52 ≤ m) (he : -1074 ≤ e) :
    shiftToTargetExponent .binary64 m e accuracy =
      (ExtendedMantissa.ofMantissaAndAccuracy m accuracy >>> (m.log2 - 52),
        e + (m.log2 - 52 : Nat)) := by
  have hlog : 52 ≤ m.log2 := (Nat.le_log2 (by omega)).mpr hm
  have htarget : Float.Model.Format.binary64.targetExponent (totalExponent m e) =
      e + (m.log2 - 52 : Nat) := by
    rw [targetExponent_eq, totalExponent]
    omega
  have hshift : (e + (m.log2 - 52 : Nat) - e).toNat = m.log2 - 52 := by omega
  rw [shiftToTargetExponent, htarget, shiftToExponent, hshift]

/-- A mantissa that is rounded up to 54 bits gives one of them to the exponent. -/
theorem exists_normal_shiftToTargetExponent {m : Nat} {e : Int} (hm : 2 ^ 52 ≤ m)
    (hm' : m ≤ 2 ^ 53) (he : -1074 ≤ e) (he' : e < 971) : ∃ d : Normal,
      (shiftToTargetExponent .binary64 m e .exact).1.mantissa = d.mantissa ∧
      (shiftToTargetExponent .binary64 m e .exact).2 = d.exponent ∧ d.value = m * 2 ^ e := by
  rw [shiftToTargetExponent_of_le .exact hm he]
  rcases Nat.lt_or_eq_of_le hm' with hlt | rfl
  · have hlog : m.log2 - 52 = 0 := by
      rw [(Nat.log2_eq_iff (by omega)).mpr ⟨hm, hlt⟩]
    rw [hlog]
    exact ⟨⟨m, e, hm, hlt, he, he'.le⟩, rfl, Int.add_zero e, rfl⟩
  · -- rounded up to the next power of two
    have hlog : (2 ^ 53).log2 - 52 = 1 := by
      rw [Nat.log2_two_pow]
    rw [hlog]
    refine ⟨⟨2 ^ 52, e + 1, le_rfl, by decide, by omega, he'⟩, rfl, rfl, ?_⟩
    rw [Normal.value, zpow_add_one₀ two_ne_zero]
    push_cast
    ring

/-- **Rounding gives the double nearest to the exact number**, if there is room for it. -/
theorem roundWithAccuracy_eq {m : Nat} {e : Int} {accuracy : Accuracy} {x : ℚ} (hm : 2 ^ 52 ≤ m)
    (he : -1074 ≤ e) (he' : e + (m.log2 - 52 : Nat) < 971)
    (hx : Represents (.ofMantissaAndAccuracy m accuracy) x) :
    ∃ (d : Normal) (rounded : Nat),
      roundWithAccuracy .binary64 .positive m e accuracy = d.unpacked ∧
      d.value = rounded * 2 ^ (e + (m.log2 - 52 : Nat)) ∧
      2 ^ 52 ≤ x / 2 ^ (m.log2 - 52) ∧ IsNearest rounded (x / 2 ^ (m.log2 - 52)) := by
  have hshifted := hx.shiftRight (m.log2 - 52)
  have hmantissa : (ExtendedMantissa.ofMantissaAndAccuracy m accuracy >>> (m.log2 - 52)).mantissa =
      m / 2 ^ (m.log2 - 52) := by
    rw [mantissa_shiftRight]
    rcases accuracy with _ | (_ | _ | _) <;> rfl
  have hlog : 52 ≤ m.log2 := (Nat.le_log2 (by omega)).mpr hm
  have hlow : 2 ^ 52 ≤ m / 2 ^ (m.log2 - 52) := by
    rw [Nat.le_div_iff_mul_le (Nat.two_pow_pos _), ← pow_add, Nat.add_sub_cancel' hlog]
    exact Nat.log2_self_le (by omega)
  have hhigh : m / 2 ^ (m.log2 - 52) < 2 ^ 53 := by
    rw [Nat.div_lt_iff_lt_mul (Nat.two_pow_pos _), ← pow_add]
    exact Nat.lt_log2_self.trans_le (Nat.pow_le_pow_right two_pos (by omega))
  have hfull : (2 ^ 52 : ℚ) ≤ x / 2 ^ (m.log2 - 52) := by
    refine le_trans ?_ hshifted.mantissa_le
    rw [hmantissa]
    exact_mod_cast hlow
  have hless : x / 2 ^ (m.log2 - 52) ≤ 2 ^ 53 := by
    refine hshifted.lt_mantissa_add_one.le.trans ?_
    rw [hmantissa]
    exact_mod_cast hhigh
  have hnear := hshifted.isNearest_roundedMantissa
  -- rounding up may give the mantissa a bit too many, which the second shift takes away
  obtain ⟨d, hd, hexponent, hvalue⟩ := exists_normal_shiftToTargetExponent
    (hnear.ge_of_ge _ (by exact_mod_cast hfull)) (hnear.le_of_le _ (by exact_mod_cast hless))
    (le_add_of_le_of_nonneg he (Int.natCast_nonneg _)) he'
  refine ⟨d, _, ?_, hvalue, hfull, hnear⟩
  rw [roundWithAccuracy, shiftToTargetExponent_of_le accuracy hm he]
  simp only [hd, hexponent, dif_neg d.mantissa_pos.ne']
  rfl

/-- **A number is rounded**: the error is at most half a unit in the last of 53 bits, and no whole
number of 53 bits is passed upwards. -/
structure IsRounded (r v : ℚ) : Prop where
  abs_sub_le : |r - v| ≤ v / 2 ^ 53
  le_of_le : ∀ n : Nat, n < 2 ^ 53 → v ≤ n → r ≤ n

/-- A mantissa that is nearest, and has all its bits, makes a double that is rounded. -/
theorem IsNearest.isRounded {m : Nat} {x : ℚ} (h : IsNearest m x) (hfull : 2 ^ 52 ≤ x) (e : Int) :
    IsRounded (m * 2 ^ e) (x * 2 ^ e) where
  abs_sub_le := by
    have hpow : (0 : ℚ) < 2 ^ e := zpow_pos two_pos e
    rw [← sub_mul, abs_mul, abs_of_pos hpow, mul_div_right_comm]
    refine mul_le_mul_of_nonneg_right (h.abs_sub_le.trans ?_) hpow.le
    linarith
  le_of_le n hn hle := by
    have hpow : (0 : ℚ) < 2 ^ e := zpow_pos two_pos e
    -- with a positive exponent, the number would have more bits than the whole number above it
    have hexponent : e ≤ 0 := by
      refine Decidable.byContradiction fun hpos => ?_
      have htwo : (2 : ℚ) ≤ 2 ^ e := by
        simpa using zpow_le_zpow_right₀ (one_le_two : (1 : ℚ) ≤ 2) (show 1 ≤ e by omega)
      have hn' : (n : ℚ) < 2 ^ 53 := by exact_mod_cast hn
      nlinarith
    -- Below 53 bits, a whole number is a multiple of the unit of the last bit.
    have hmultiple : (n : ℚ) = (n * 2 ^ (-e).toNat : Nat) * 2 ^ e := by
      push_cast
      rw [mul_assoc, ← zpow_natCast, ← zpow_add₀ two_ne_zero, Int.toNat_of_nonneg (by omega),
        neg_add_cancel, zpow_zero, mul_one]
    rw [hmultiple] at hle ⊢
    have hle' := h.le_of_le _ (le_of_mul_le_mul_right hle hpow)
    exact mul_le_mul_of_nonneg_right (by exact_mod_cast hle') hpow.le

end DrumMachine.Double
