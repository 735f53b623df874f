import DrumMachine.Tempo

/-! # How long a pass is

Up to the longest length of time that there is, the length of a pass is the exact product of the
period and the number of steps. Beyond it the seconds stay at their maximum, but the nanoseconds are
still those of the product. So the length is held back as a whole only if the product has all
nanoseconds below a second (`passDuration_eq_heldBack_iff`), and a pass of more steps may come out
shorter (`not_passDuration_heldBack`). -/

namespace DrumMachine

namespace Duration

/-- **The longest length of time**: 64 bits of seconds, and all nanoseconds below one more. -/
def longest : Duration := ⟨maxUInt64, nanosPerSecond - 1⟩

/-- A number of nanoseconds as a length of time. -/
def ofNanos (n : Nat) : Duration := ⟨n / nanosPerSecond, n % nanosPerSecond⟩

/-- **A number of nanoseconds as a length of time, held back at the longest one.** -/
def heldBack (n : Nat) : Duration := if n ≤ longest.totalNanos then ofNanos n else longest

/-- A duration made of nanoseconds has as many. -/
@[simp] theorem totalNanos_ofNanos (n : Nat) : (ofNanos n).totalNanos = n := by
  rw [totalNanos, ofNanos, Nat.mul_comm, Nat.div_add_mod]

/-- There is a length of time for a number of nanoseconds exactly if its seconds have 64 bits. -/
theorem le_totalNanos_longest_iff (n : Nat) :
    n ≤ longest.totalNanos ↔ n / nanosPerSecond ≤ maxUInt64 := by
  have hpos : 0 < nanosPerSecond := by decide
  have hsucc : (maxUInt64 + 1) * nanosPerSecond = longest.totalNanos + 1 := by decide
  rw [← Nat.lt_succ_iff (n := maxUInt64), Nat.div_lt_iff_lt_mul hpos, Nat.succ_eq_add_one, hsucc,
    Nat.lt_succ_iff]

end Duration

namespace StepClock

open Duration

variable (clock : StepClock) (steps : UInt64)

/-- **The exact length of a pass** in nanoseconds. -/
def exactNanos : Nat := clock.period.totalNanos * steps.toNat

/-- **The length of a pass**: only the seconds are clipped. -/
theorem passDuration_eq : clock.passDuration steps =
    ⟨min (clock.exactNanos steps / nanosPerSecond) maxUInt64,
      clock.exactNanos steps % nanosPerSecond⟩ := rfl

variable {clock steps}

/-- Up to the longest duration the length of a pass is exact. -/
theorem passDuration_of_le (h : clock.exactNanos steps ≤ longest.totalNanos) :
    clock.passDuration steps = ofNanos (clock.exactNanos steps) := by
  rw [passDuration_eq, Nat.min_eq_left ((le_totalNanos_longest_iff _).mp h), ofNanos]

/-- Beyond it the seconds are the most there can be, and the nanoseconds those of the exact length.
-/
theorem passDuration_of_lt (h : longest.totalNanos < clock.exactNanos steps) :
    clock.passDuration steps = ⟨maxUInt64, clock.exactNanos steps % nanosPerSecond⟩ := by
  have hbeyond : ¬ clock.exactNanos steps / nanosPerSecond ≤ maxUInt64 := fun hle =>
    Nat.not_le.mpr h ((le_totalNanos_longest_iff _).mpr hle)
  rw [passDuration_eq, Nat.min_eq_right (Nat.le_of_not_le hbeyond)]

/-- More steps take longer, as long as nothing is held back. -/
theorem exactNanos_mono {more : UInt64} (h : steps ≤ more) :
    clock.exactNanos steps ≤ clock.exactNanos more :=
  Nat.mul_le_mul_left _ (UInt64.le_iff_toNat_le.mp h)

/-- **When a pass is as long as it should be.** As long as there is a length of time for the exact
length of a pass, it is that, and grows with the steps. Beyond that the seconds are held back and
the nanoseconds are not. So the exact length is held back at the longest length of time only if it
is not beyond it, or has all nanoseconds below a second. -/
theorem passDuration_eq_heldBack_iff (clock : StepClock) (steps : UInt64) :
    (clock.exactNanos steps ≤ longest.totalNanos →
      (clock.passDuration steps).totalNanos = clock.exactNanos steps ∧
      ∀ fewer ≤ steps, (clock.passDuration fewer).totalNanos ≤
        (clock.passDuration steps).totalNanos) ∧
    (longest.totalNanos < clock.exactNanos steps →
      clock.passDuration steps = ⟨maxUInt64, clock.exactNanos steps % nanosPerSecond⟩) ∧
    (clock.passDuration steps = heldBack (clock.exactNanos steps) ↔
      clock.exactNanos steps ≤ longest.totalNanos ∨
        clock.exactNanos steps % nanosPerSecond = nanosPerSecond - 1) := by
  refine ⟨?_, passDuration_of_lt, ?_⟩
  · intro hle
    refine ⟨by rw [passDuration_of_le hle, totalNanos_ofNanos], ?_⟩
    intro fewer hfewer
    have hmono : clock.exactNanos fewer ≤ clock.exactNanos steps := exactNanos_mono hfewer
    rw [passDuration_of_le hle, passDuration_of_le (Nat.le_trans hmono hle), totalNanos_ofNanos,
      totalNanos_ofNanos]
    exact hmono
  · by_cases hle : clock.exactNanos steps ≤ longest.totalNanos
    · rw [heldBack, if_pos hle]
      exact iff_of_true (passDuration_of_le hle) (.inl hle)
    · have hmk : ∀ n, (⟨maxUInt64, n⟩ : Duration) = longest ↔ n = nanosPerSecond - 1 := by
        intro n
        rw [longest, Duration.mk.injEq, eq_self_iff_true, true_and]
      rw [heldBack, if_neg hle, passDuration_of_lt (Nat.lt_of_not_le hle), hmk, or_iff_right hle]

/-- At seven beats a minute a step is 2142857142 nanoseconds long. A pass of 2^64 - 7 such steps is
beyond the longest length of time, and so is one of a step more; but neither is held back at it, and
the one of more steps is the shorter one. -/
theorem not_passDuration_heldBack : ∃ clock, new? 7 = .ok clock ∧
    clock.passDuration 18446744073709551609 ≠ heldBack (clock.exactNanos 18446744073709551609) ∧
    clock.passDuration 18446744073709551610 ≠ heldBack (clock.exactNanos 18446744073709551610) ∧
    (clock.passDuration 18446744073709551610).totalNanos <
      (clock.passDuration 18446744073709551609).totalNanos :=
  ⟨_, rfl, by decide +kernel, by decide +kernel, by decide +kernel⟩

end StepClock

end DrumMachine
