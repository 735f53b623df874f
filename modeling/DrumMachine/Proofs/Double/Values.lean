import Mathlib

/-! # Positive doubles

A positive double of full precision is a mantissa of 53 bits with an exponent (`Double.Normal`).
Its bits are unpacked to what was packed into them (`Normal.unpack_toFloat`). So doubles compare as
their exact values do (`Normal.toFloat_lt_toFloat`), and the whole part of a double is that of its
exact value (`Normal.toNat_toUInt64_toFloat`). -/

namespace DrumMachine.Double

open Float.Model Float.Model.UnpackedFloat

/-- The exponent that leaves 53 bits before the point, if there is room for it. -/
theorem targetExponent_eq (e : Int) :
    Float.Model.Format.binary64.targetExponent e = max (e - 53) (-1074) := rfl

/-- Exponents are stored with this much added. -/
theorem exponentBias_eq : Float.Model.Format.binary64.exponentBias = 1023 := rfl

/-- Every place a mantissa is shifted by halves it. -/
theorem mantissa_shiftRight (em : ExtendedMantissa) (n : Nat) :
    (em >>> n).mantissa = em.mantissa / 2 ^ n := by
  induction n with
  | zero => exact (Nat.div_one _).symm
  | succ n ih =>
    show (em >>> n).mantissa / 2 = _
    rw [ih, Nat.div_div_eq_div_mul, pow_succ]

/-- **A positive double of full precision**: 53 bits of mantissa, and an exponent there is room
for. -/
structure Normal where
  mantissa : Nat
  exponent : Int
  le_mantissa : 2 ^ 52 ≤ mantissa
  mantissa_lt : mantissa < 2 ^ 53
  le_exponent : -1074 ≤ exponent
  exponent_le : exponent ≤ 971

namespace Normal

variable (d : Normal)

/-- A mantissa of full precision is not zero. -/
theorem mantissa_pos : 0 < d.mantissa := Nat.lt_of_lt_of_le (by decide) d.le_mantissa

/-- A mantissa of full precision has 53 bits. -/
theorem log2_mantissa : d.mantissa.log2 = 52 :=
  (Nat.log2_eq_iff d.mantissa_pos.ne').mpr ⟨d.le_mantissa, d.mantissa_lt⟩

/-- The exact value. -/
def value : ℚ := d.mantissa * 2 ^ d.exponent

/-- The mantissa and the exponent as a number of the floating-point model. -/
def unpacked : UnpackedFloat := .finite .positive d.mantissa d.exponent d.mantissa_pos

/-- The double itself. -/
def toFloat : Float := .ofModel (.pack d.unpacked)

/-! ## Bits -/

/-- The exponent as it is stored. -/
def biasedExponent : Nat := (d.exponent + 1075).toNat

/-- The stored exponent is neither of the two that stand for something else. -/
theorem biasedExponent_bounds : 0 < d.biasedExponent ∧ d.biasedExponent < 2047 := by
  have := d.le_exponent
  have := d.exponent_le
  unfold biasedExponent
  omega

/-- The bit of the mantissa that is always set is left out. -/
theorem pack_unpacked : UnpackedFloat.pack .binary64 d.unpacked =
    packComponents .binary64 .positive (BitVec.ofNat 11 d.biasedExponent)
      (BitVec.ofNat 52 d.mantissa) := by
  have hexponent : (d.exponent + (Float.Model.Format.binary64.exponentBias : Nat) +
      (52 : Nat)).toNat = d.biasedExponent := by
    rw [biasedExponent, exponentBias_eq]
    omega
  have hroom : ¬ 2 ^ 11 ≤ d.biasedExponent + 1 := by
    have := d.biasedExponent_bounds
    omega
  have hfull : d.mantissa.log2 + 1 = Float.Model.Format.binary64.mantissaBits := by
    rw [log2_mantissa]
    rfl
  rw [unpacked, UnpackedFloat.pack]
  simp only [hexponent, if_neg hroom, if_pos hfull]

/-- **What was packed is unpacked again.** -/
theorem unpack_toFloat : d.toFloat.toModel.unpack = d.unpacked := by
  obtain ⟨hpos, hlt⟩ := d.biasedExponent_bounds
  have hexponent : (BitVec.ofNat 11 d.biasedExponent).toNat = d.biasedExponent := by
    rw [BitVec.toNat_ofNat, Nat.mod_eq_of_lt (by omega)]
  -- the stored exponent is neither that of infinity nor that of zero
  have hnotOnes : BitVec.ofNat 11 d.biasedExponent ≠ -1#11 := fun h => by
    have := congrArg BitVec.toNat h
    rw [hexponent] at this
    exact absurd this (by simp; omega)
  have hnotZero : BitVec.ofNat 11 d.biasedExponent ≠ 0#11 := fun h => by
    have := congrArg BitVec.toNat h
    rw [hexponent] at this
    exact absurd this (by simp; omega)
  -- the bit that was left out comes back
  have hmantissa : (1#1 ++ BitVec.ofNat 52 d.mantissa).toNat = d.mantissa := by
    have hle := d.le_mantissa
    have hlt := d.mantissa_lt
    rw [BitVec.toNat_append, ← Nat.shiftLeft_add_eq_or_of_lt (BitVec.isLt _), BitVec.toNat_ofNat,
      BitVec.toNat_ofNat, Nat.shiftLeft_eq]
    omega
  show UnpackedFloat.unpack .binary64 (UnpackedFloat.pack .binary64 d.unpacked) = d.unpacked
  rw [pack_unpacked, UnpackedFloat.unpack]
  simp only [unpackMantissa_packComponents, unpackExponent_packComponents,
    unpackSign_packComponents, hexponent, hnotOnes, hnotZero, hmantissa, if_false]
  have hbias : (d.biasedExponent : Int) -
      ((Float.Model.Format.binary64.exponentBias : Nat) + (52 : Nat)) = d.exponent := by
    have := d.le_exponent
    rw [biasedExponent, exponentBias_eq]
    omega
  rw [unpacked]
  simp only [hbias]
  rfl

/-! ## Order -/

/-- The value is positive. -/
theorem value_pos : 0 < d.value :=
  mul_pos (Nat.cast_pos.mpr d.mantissa_pos) (zpow_pos two_pos _)

/-- The value is at least the power of two of its highest bit. -/
theorem two_zpow_le_value : (2 : ℚ) ^ (d.exponent + 52) ≤ d.value := by
  rw [zpow_add₀ two_ne_zero, mul_comm, value]
  exact mul_le_mul_of_nonneg_right (by exact_mod_cast d.le_mantissa) (zpow_pos two_pos _).le

/-- The value is less than the next power of two. -/
theorem value_lt_two_zpow : d.value < (2 : ℚ) ^ (d.exponent + 53) := by
  rw [zpow_add₀ two_ne_zero, mul_comm, value]
  exact mul_lt_mul_of_pos_right (by exact_mod_cast d.mantissa_lt) (zpow_pos two_pos _)

variable {d}

/-- The ranges of two exponents do not meet. -/
theorem value_lt_value_of_exponent_lt {d' : Normal} (h : d.exponent < d'.exponent) :
    d.value < d'.value :=
  d.value_lt_two_zpow.trans_le
    ((zpow_le_zpow_right₀ one_le_two (by omega)).trans d'.two_zpow_le_value)

/-- **Doubles compare as their values do**: by their exponents first, and then by their
mantissas. -/
theorem toFloat_lt_toFloat {d' : Normal} : d.toFloat < d'.toFloat ↔ d.value < d'.value := by
  have hlt : d.toFloat < d'.toFloat ↔ (compare d.exponent d'.exponent).then
      (compare d.mantissa d'.mantissa) = .lt := by
    show decide (UnpackedFloat.lt d.toFloat.toModel.unpack d'.toFloat.toModel.unpack = true) =
      true ↔ _
    rw [unpack_toFloat, unpack_toFloat, unpacked, unpacked, UnpackedFloat.lt,
      UnpackedFloat.compare, decide_eq_true_iff, beq_iff_eq, Option.some_inj]
  -- a greater exponent outweighs any mantissa
  rw [hlt, Ordering.then_eq_lt, Int.compare_eq_lt, Int.compare_eq_eq, Nat.compare_eq_lt]
  rcases lt_trichotomy d.exponent d'.exponent with hless | hsame | hmore
  · exact iff_of_true (.inl hless) (value_lt_value_of_exponent_lt hless)
  · rw [value, value, hsame, mul_lt_mul_iff_left₀ (zpow_pos two_pos _), Nat.cast_lt]
    simp
  · refine iff_of_false ?_ (value_lt_value_of_exponent_lt hmore).not_gt
    omega

/-! ## Whole parts -/

/-- A positive exponent multiplies the mantissa, and a negative one divides it. -/
theorem value_eq_div : d.value =
    ((d.mantissa * 2 ^ d.exponent.toNat : Nat) : ℚ) / (2 ^ (-d.exponent).toNat : Nat) := by
  have hexponent : d.exponent = d.exponent.toNat - ((-d.exponent).toNat : Nat) := by omega
  rw [value]
  conv_lhs => rw [hexponent]
  rw [zpow_sub₀ two_ne_zero, zpow_natCast, zpow_natCast, mul_div_assoc']
  push_cast
  rfl

/-- The whole part of an unpacked double is that of its value. -/
theorem toInt_unpacked (low high : Int) : d.unpacked.toInt low high = ⌊d.value⌋₊ := by
  have hright : (0 - (d.exponent - d.exponent.toNat)).toNat = (-d.exponent).toNat := by omega
  rw [value_eq_div, Nat.floor_div_eq_div, unpacked, UnpackedFloat.toInt, roundToInt,
    decreaseExponent]
  simp only [Int.sub_zero, shiftToExponent, hright, mantissa_shiftRight, Sign.apply,
    ExtendedMantissa.ofMantissaAndAccuracy, Nat.shiftLeft_eq]

/-- **The whole part of a double** with 64 bits. -/
theorem toNat_toUInt64_toFloat (h : d.value < 2 ^ 64) :
    d.toFloat.toUInt64.toNat = ⌊d.value⌋₊ := by
  have hsize : ⌊d.value⌋₊ < UInt64.size :=
    (Nat.floor_lt d.value_pos.le).mpr (by exact_mod_cast h)
  show (UInt64.ofNatClamp (d.toFloat.toModel.unpack.toInt 0 _).toNat).toNat = _
  rw [unpack_toFloat, toInt_unpacked, Int.toNat_natCast, UInt64.ofNatClamp, dif_pos hsize]
  rfl

end Normal

end DrumMachine.Double
