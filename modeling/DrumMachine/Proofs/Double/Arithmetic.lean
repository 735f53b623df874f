import DrumMachine.Proofs.Double.Rounding

/-! # Arithmetic with doubles

A whole number of at most 53 bits is a double exactly (`Double.holds_ofNat`). The quotient of two
doubles is the exact quotient of what they hold, rounded (`Double.Holds.div`). -/

namespace DrumMachine.Double

open Float.Model Float.Model.UnpackedFloat

/-! ## Whole numbers -/

/-- The mantissa of a whole number is shifted until it has 53 bits. -/
theorem exists_normal_ofNat {n : Nat} (hpos : 0 < n) (hlt : n < 2 ^ 53) :
    ∃ d : Normal, UnpackedFloat.ofNat .binary64 n = d.unpacked ∧ d.value = n := by
  have hlog : n.log2 < 53 := (Nat.log2_lt hpos.ne').mpr hlt
  have htarget : Float.Model.Format.binary64.targetExponent (totalExponent n 0) =
      -(52 - n.log2 : Nat) := by
    rw [targetExponent_eq, totalExponent]
    omega
  have hshift : (- -((52 - n.log2 : Nat) : Int)).toNat = 52 - n.log2 := by omega
  have hlow : 2 ^ 52 ≤ n * 2 ^ (52 - n.log2) := by
    have hle := Nat.mul_le_mul_right (2 ^ (52 - n.log2)) (Nat.log2_self_le hpos.ne')
    rwa [← pow_add, Nat.add_sub_cancel' (by omega)] at hle
  have hhigh : n * 2 ^ (52 - n.log2) < 2 ^ 53 := by
    have hlt := Nat.mul_lt_mul_of_pos_right (Nat.lt_log2_self (n := n))
      (Nat.two_pow_pos (52 - n.log2))
    rwa [← pow_add, show n.log2 + 1 + (52 - n.log2) = 53 by omega] at hlt
  have hzero : (n * 2 ^ (52 - n.log2)).log2 - 52 = 0 := by
    rw [(Nat.log2_eq_iff (by omega)).mpr ⟨hlow, hhigh⟩]
  obtain ⟨d, m, hd, hvalue, hfull, hnear⟩ := roundWithAccuracy_eq (e := -(52 - n.log2 : Nat)) hlow
    (by omega) (by omega) (Represents.of_exact _)
  -- no bit leaves the mantissa, so rounding changes nothing
  rw [hzero, pow_zero, div_one] at hnear
  have hm : m = n * 2 ^ (52 - n.log2) :=
    le_antisymm (hnear.le_of_le _ le_rfl) (hnear.ge_of_ge _ le_rfl)
  refine ⟨d, ?_, ?_⟩
  · have hcompare : compare (n : Int) 0 = .gt := Int.compare_eq_gt.mpr (by omega)
    rw [UnpackedFloat.ofNat, UnpackedFloat.ofInt, UnpackedFloat.normalize, hcompare]
    simp only [UnpackedFloat.round, Int.toNat_natCast, htarget, decreaseExponent, hshift,
      Nat.shiftLeft_eq, zero_sub, hd]
  · rw [hvalue, hm, hzero]
    push_cast
    rw [add_zero, mul_assoc, ← zpow_natCast, ← zpow_add₀ two_ne_zero, add_neg_cancel, zpow_zero,
      mul_one]

/-! ## Quotients -/

namespace Normal

variable {d d' : Normal}

/-- The one above is given 53 more bits, which the exponent takes back. -/
theorem value_div_value : d.value / d'.value =
    ((d.mantissa * 2 ^ 53 : Nat) / (d'.mantissa : Nat) : ℚ) *
      2 ^ (d.exponent - d'.exponent - 53) := by
  have hmantissa : (d'.mantissa : ℚ) ≠ 0 := by exact_mod_cast d'.mantissa_pos.ne'
  rw [Normal.value, Normal.value, mul_div_mul_comm, ← zpow_sub₀ two_ne_zero,
    zpow_sub₀ two_ne_zero _ 53]
  push_cast
  field_simp

/-- Of two doubles neither of which is too many times the other, the exponents are close. -/
theorem exponent_bounds (h : d.value ≤ d'.value * 2 ^ 200) (h' : d'.value ≤ d.value * 2 ^ 200) :
    -1021 ≤ d.exponent - d'.exponent ∧ d.exponent - d'.exponent < 1023 := by
  have hexponent {a b : Normal} (hab : a.value ≤ b.value * 2 ^ 200) :
      a.exponent + 52 < b.exponent + 53 + 200 := by
    refine (zpow_lt_zpow_iff_right₀ (one_lt_two : (1 : ℚ) < 2)).mp
      ((a.two_zpow_le_value.trans hab).trans_lt ?_)
    rw [zpow_add₀ two_ne_zero _ 200]
    exact mul_lt_mul_of_pos_right b.value_lt_two_zpow (by positivity)
  have hlow := hexponent h
  have hhigh := hexponent h'
  omega

/-- The quotient of two mantissas has 53 or 54 bits, when the one above has 53 more. -/
theorem quotient_bounds (d d' : Normal) : 2 ^ 52 ≤ d.mantissa * 2 ^ 53 / d'.mantissa ∧
    d.mantissa * 2 ^ 53 / d'.mantissa < 2 ^ 54 := by
  have := d.le_mantissa
  have := d.mantissa_lt
  have := d'.le_mantissa
  have := d'.mantissa_lt
  rw [Nat.le_div_iff_mul_le d'.mantissa_pos, Nat.div_lt_iff_lt_mul d'.mantissa_pos]
  omega

/-- How the quotient of two mantissas is rounded, if their exponents are close. -/
theorem div_unpacked (hlow : -1021 ≤ d.exponent - d'.exponent)
    (hhigh : d.exponent - d'.exponent < 1023) :
    UnpackedFloat.div .binary64 d.unpacked d'.unpacked =
      roundWithAccuracy .binary64 .positive (d.mantissa * 2 ^ 53 / d'.mantissa)
        (d.exponent - d'.exponent - 53)
        (accuracyOfFraction (d.mantissa * 2 ^ 53 % d'.mantissa) d'.mantissa) := by
  have htarget : min (d.exponent - d'.exponent) (Float.Model.Format.binary64.targetExponent
      (totalExponent d.mantissa d.exponent - totalExponent d'.mantissa d'.exponent)) =
        d.exponent - d'.exponent - 53 := by
    rw [targetExponent_eq, totalExponent, totalExponent, log2_mantissa, log2_mantissa]
    omega
  have hshift : (d.exponent - d'.exponent - (d.exponent - d'.exponent - 53)).toNat = 53 := by omega
  rw [unpacked, unpacked, UnpackedFloat.div, divCore]
  simp only [htarget, hshift, Nat.shiftLeft_eq]
  rfl

end Normal

/-! ## What doubles hold -/

/-- **A double holds a positive number** exactly, in full precision. -/
def Holds (x : Float) (v : ℚ) : Prop := ∃ d : Normal, d.toFloat = x ∧ d.value = v

/-- A whole number of at most 53 bits is held exactly. -/
theorem holds_ofNat {n : Nat} (hpos : 0 < n) (hlt : n < 2 ^ 53) :
    Holds (.ofModel (.ofNat n)) n := by
  obtain ⟨d, hd, hvalue⟩ := exists_normal_ofNat hpos hlt
  exact ⟨d, by rw [Normal.toFloat, Float.Model.ofNat, hd], hvalue⟩

namespace Holds

variable {x y : Float} {v w : ℚ}

/-- What a double holds is positive. -/
theorem pos (h : Holds x v) : 0 < v := by
  obtain ⟨d, rfl, rfl⟩ := h
  exact d.value_pos

/-- Doubles compare as the numbers that they hold. -/
theorem lt_iff (hx : Holds x v) (hy : Holds y w) : x < y ↔ v < w := by
  obtain ⟨d, rfl, rfl⟩ := hx
  obtain ⟨d', rfl, rfl⟩ := hy
  exact Normal.toFloat_lt_toFloat

/-- Zero is less than a double that holds a number. -/
theorem zero_lt (h : Holds x v) : (0 : UInt64).toFloat < x := by
  obtain ⟨d, rfl, rfl⟩ := h
  show decide (UnpackedFloat.lt (0 : UInt64).toFloat.toModel.unpack
    d.toFloat.toModel.unpack = true) = true
  have hzero : (0 : UInt64).toFloat.toModel.unpack = .zero .positive := rfl
  rw [hzero, Normal.unpack_toFloat]
  rfl

/-- Zero times a positive number is zero. -/
theorem zero_mul (h : Holds x v) : (0 : UInt64).toFloat * x = (0 : UInt64).toFloat := by
  obtain ⟨d, rfl, rfl⟩ := h
  show Float.ofModel (.pack (UnpackedFloat.mul .binary64 (0 : UInt64).toFloat.toModel.unpack
    d.toFloat.toModel.unpack)) = _
  have hzero : (0 : UInt64).toFloat.toModel.unpack = .zero .positive := rfl
  rw [hzero, Normal.unpack_toFloat]
  rfl

/-- The whole part of a double is that of the number that it holds. -/
theorem toNat_toUInt64 (h : Holds x v) (hv : v < 2 ^ 64) : x.toUInt64.toNat = ⌊v⌋₊ := by
  obtain ⟨d, rfl, rfl⟩ := h
  exact Normal.toNat_toUInt64_toFloat hv

/-- **A quotient of doubles** is the exact quotient, rounded, if neither of them is too many times
the other. -/
theorem div (hx : Holds x v) (hy : Holds y w) (hvw : v ≤ w * 2 ^ 200) (hwv : w ≤ v * 2 ^ 200) :
    ∃ r, Holds (x / y) r ∧ IsRounded r (v / w) := by
  obtain ⟨d, rfl, rfl⟩ := hx
  obtain ⟨d', rfl, rfl⟩ := hy
  obtain ⟨hlow, hhigh⟩ := Normal.exponent_bounds hvw hwv
  obtain ⟨hfull, hless⟩ := Normal.quotient_bounds d d'
  -- the quotient of the mantissas has at most one bit more than a mantissa
  have hlog : (d.mantissa * 2 ^ 53 / d'.mantissa).log2 - 52 ≤ 1 := by
    have := (Nat.log2_lt (by omega)).mpr hless
    omega
  obtain ⟨q, m, hround, hvalue, hx, hnear⟩ := roundWithAccuracy_eq hfull
    (e := d.exponent - d'.exponent - 53) (by omega) (by omega)
    (Represents.of_div (d.mantissa * 2 ^ 53) d'.mantissa_pos)
  refine ⟨q.value, ⟨q, ?_, rfl⟩, ?_⟩
  · show q.toFloat = .ofModel (.pack (UnpackedFloat.div .binary64 d.toFloat.toModel.unpack
      d'.toFloat.toModel.unpack))
    rw [Normal.unpack_toFloat, Normal.unpack_toFloat, Normal.toFloat,
      Normal.div_unpacked hlow hhigh, hround]
  · have hrounded := hnear.isRounded hx
      (d.exponent - d'.exponent - 53 + ((d.mantissa * 2 ^ 53 / d'.mantissa).log2 - 52 : Nat))
    rw [← hvalue] at hrounded
    convert hrounded using 1
    rw [Normal.value_div_value, zpow_add₀ two_ne_zero, zpow_natCast]
    field_simp

end Holds

end DrumMachine.Double
