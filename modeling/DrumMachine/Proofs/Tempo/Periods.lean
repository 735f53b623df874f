import DrumMachine.Proofs.Tempo.Passes

/-! # How long a step is

A length of time is divided part by part, the seconds first and then the nanoseconds, with what was
left over of the seconds carried to them. Together this is one exact division of all its nanoseconds
(`Duration.div_eq_ofNanos`). So the period of a clock is the sixty billion nanoseconds of a minute
over the number of its steps, rounded down (`StepClock.new?_eq`), and its bounds are those of the
tempos that have a clock. -/

namespace DrumMachine

namespace Duration

variable {d : Duration} {n : Nat}

/-- **The nanoseconds of a quotient** are one division of the nanoseconds and of what was left over
of the seconds. -/
theorem nanos_div (d : Duration) (hn : 0 < n) :
    (d.div n).nanos = (d.seconds % n * nanosPerSecond + d.nanos) / n := by
  have hparts : d.seconds % n * nanosPerSecond + d.nanos =
      n * (d.nanos / n) + (d.seconds % n * nanosPerSecond + d.nanos % n) := by
    have hnanos := Nat.div_add_mod d.nanos n
    omega
  rw [hparts, Nat.mul_add_div hn]
  rfl

/-- **Dividing part by part is exact**: nothing is lost between the parts. -/
theorem totalNanos_div (d : Duration) (hn : 0 < n) : (d.div n).totalNanos = d.totalNanos / n := by
  have hparts : d.totalNanos =
      n * (d.seconds / n * nanosPerSecond) + (d.seconds % n * nanosPerSecond + d.nanos) := by
    rw [totalNanos, ← Nat.mul_assoc, ← Nat.add_assoc, ← Nat.add_mul, Nat.div_add_mod]
  rw [hparts, Nat.mul_add_div hn, ← nanos_div d hn]
  rfl

/-- A quotient has less than a second in its nanoseconds, if what is divided has. -/
theorem nanos_div_lt (hn : 0 < n) (h : d.nanos < nanosPerSecond) :
    (d.div n).nanos < nanosPerSecond := by
  rw [nanos_div d hn, Nat.div_lt_iff_lt_mul hn]
  calc d.seconds % n * nanosPerSecond + d.nanos
      < d.seconds % n * nanosPerSecond + nanosPerSecond := Nat.add_lt_add_left h _
    _ = (d.seconds % n + 1) * nanosPerSecond := (Nat.succ_mul _ _).symm
    _ ≤ n * nanosPerSecond := Nat.mul_le_mul_right _ (Nat.mod_lt _ hn)
    _ = nanosPerSecond * n := Nat.mul_comm _ _

/-- A length of time is settled by its nanoseconds in all. -/
theorem ofNanos_totalNanos (h : d.nanos < nanosPerSecond) : ofNanos d.totalNanos = d := by
  have hpos : 0 < nanosPerSecond := Nat.zero_lt_of_lt h
  rw [ofNanos, totalNanos, Nat.mul_comm, Nat.mul_add_div hpos, Nat.mul_add_mod,
    Nat.div_eq_of_lt h, Nat.mod_eq_of_lt h, Nat.add_zero]

/-- **A quotient is that of all the nanoseconds**, as seconds and nanoseconds again. -/
theorem div_eq_ofNanos (hn : 0 < n) (h : d.nanos < nanosPerSecond) :
    d.div n = ofNanos (d.totalNanos / n) := by
  rw [← totalNanos_div d hn, ofNanos_totalNanos (nanos_div_lt hn h)]

end Duration

namespace StepClock

open Duration

variable {bpm faster : UInt32} {clock : StepClock}

/-! ## The clock of a tempo -/

/-- **The nanoseconds of a step**, of the sixty billion of a minute. -/
def periodNanos (bpm : UInt32) : Nat := 60 * nanosPerSecond / (4 * bpm.toNat)

/-- There are steps in every minute. -/
theorem four_mul_pos (h : 1 ≤ bpm) : 0 < 4 * bpm.toNat :=
  Nat.mul_pos (by decide) (UInt32.le_iff_toNat_le.mp h)

/-- The steps of a minute fit into 32 bits up to this tempo. -/
theorem fits_iff (bpm : UInt32) :
    bpm.toNat * stepsPerBeat.toNat < UInt32.size ↔ bpm ≤ 1073741823 := by
  have hsteps : stepsPerBeat.toNat = 4 := rfl
  have hmax : (1073741823 : UInt32).toNat = 1073741823 := rfl
  rw [UInt32.le_iff_toNat_le, hsteps, hmax, UInt32.size]
  omega

/-- The steps of a minute do not wrap around where they fit. -/
theorem toNat_mul_stepsPerBeat (h : bpm ≤ 1073741823) :
    (bpm * stepsPerBeat).toNat = 4 * bpm.toNat := by
  rw [UInt32.toNat_mul, Nat.mod_eq_of_lt ((fits_iff bpm).mpr h), Nat.mul_comm]
  rfl

/-- **The clock of a tempo** has the exact quotient for its period. -/
theorem new?_eq (bpm : UInt32) : new? bpm =
    if 1 ≤ bpm ∧ bpm ≤ 1073741823 then .ok ⟨bpm, ofNanos (periodNanos bpm)⟩
    else .error (.invalidBpm bpm) := by
  by_cases hlow : minBpm ≤ bpm
  · rw [new?, if_neg (UInt32.not_lt.mpr hlow), stepsPerMinute?]
    by_cases hhigh : bpm ≤ 1073741823
    · rw [if_pos ((fits_iff bpm).mpr hhigh), if_pos ⟨hlow, hhigh⟩]
      simp only [toNat_mul_stepsPerBeat hhigh]
      rw [div_eq_ofNanos (four_mul_pos hlow) (by decide)]
      rfl
    · rw [if_neg (mt (fits_iff bpm).mp hhigh), if_neg fun h => hhigh h.2]
  · rw [new?, if_pos (UInt32.not_le.mp hlow), if_neg fun h => hlow h.1]

/-- **A clock is made** for the tempos in range, with the period of its tempo. -/
theorem new?_eq_ok_iff : new? bpm = .ok clock ↔
    (1 ≤ bpm ∧ bpm ≤ 1073741823) ∧ clock = ⟨bpm, ofNanos (periodNanos bpm)⟩ := by
  rw [new?_eq]
  split
  next h => rw [Except.ok.injEq, and_iff_right h, eq_comm]
  next h => exact iff_of_false (fun hok => by cases hok) fun hok => h hok.1

/-! ## Bounds -/

/-- The steps of a minute fit into it, and would not if each were a nanosecond longer. -/
theorem periodNanos_bounds (h : 1 ≤ bpm) :
    periodNanos bpm * (4 * bpm.toNat) ≤ 60 * nanosPerSecond ∧
      60 * nanosPerSecond < (periodNanos bpm + 1) * (4 * bpm.toNat) := by
  have hnext : 60 * nanosPerSecond < 4 * bpm.toNat * (periodNanos bpm + 1) :=
    Nat.lt_mul_div_succ _ (four_mul_pos h)
  rw [Nat.mul_comm (periodNanos bpm + 1)]
  exact ⟨Nat.div_mul_le_self _ _, hnext⟩

/-- **A faster tempo has no longer steps.** -/
theorem periodNanos_anti (hlow : 1 ≤ bpm) (h : bpm ≤ faster) :
    periodNanos faster ≤ periodNanos bpm :=
  Nat.div_le_div_left (Nat.mul_le_mul_left 4 (UInt32.le_iff_toNat_le.mp h)) (four_mul_pos hlow)

/-- No steps are shorter than those of the fastest tempo, or longer than those of the slowest. -/
theorem periodNanos_mem (hlow : 1 ≤ bpm) (hhigh : bpm ≤ 1073741823) :
    13 ≤ periodNanos bpm ∧ periodNanos bpm ≤ 15 * nanosPerSecond := by
  have hfastest : periodNanos 1073741823 = 13 := by decide
  have hslowest : periodNanos 1 = 15 * nanosPerSecond := by decide
  exact ⟨hfastest ▸ periodNanos_anti hlow hhigh, hslowest ▸ periodNanos_anti UInt32.le_rfl hlow⟩

/-- **Which tempos have a clock, and how long its steps are.** Those from 1 to 1073741823 have one,
and every other is refused by its number. The steps of a minute do not wrap around then. The period
is the whole number of nanoseconds that a step has of a minute, rounded down; it has from 13
nanoseconds to 15 seconds, and is no longer at a faster tempo. -/
theorem new?_period (bpm : UInt32) :
    ((∃ clock, new? bpm = .ok clock) ↔ 1 ≤ bpm ∧ bpm ≤ 1073741823) ∧
    (¬ (1 ≤ bpm ∧ bpm ≤ 1073741823) → new? bpm = .error (.invalidBpm bpm)) ∧
    ∀ clock, new? bpm = .ok clock →
      clock.bpm = bpm ∧
      (bpm * stepsPerBeat).toNat = bpm.toNat * 4 ∧
      (∃ p, clock.period = ofNanos p ∧
        p * 4 * bpm.toNat ≤ 60 * nanosPerSecond ∧ 60 * nanosPerSecond < (p + 1) * 4 * bpm.toNat ∧
        13 ≤ p ∧ p ≤ 15 * nanosPerSecond) ∧
      ∀ faster fasterClock, bpm ≤ faster → new? faster = .ok fasterClock →
        fasterClock.period.totalNanos ≤ clock.period.totalNanos := by
  refine ⟨?_, fun hnot => by rw [new?_eq, if_neg hnot], fun clock hclock => ?_⟩
  · constructor
    · rintro ⟨clock, hclock⟩
      exact (new?_eq_ok_iff.mp hclock).1
    · intro h
      exact ⟨_, new?_eq_ok_iff.mpr ⟨h, rfl⟩⟩
  · obtain ⟨⟨hlow, hhigh⟩, rfl⟩ := new?_eq_ok_iff.mp hclock
    obtain ⟨hle, hlt⟩ := periodNanos_bounds hlow
    refine ⟨rfl, ?_, ⟨periodNanos bpm, rfl, ?_, ?_, periodNanos_mem hlow hhigh⟩, ?_⟩
    · rw [toNat_mul_stepsPerBeat hhigh, Nat.mul_comm]
    · rwa [Nat.mul_assoc]
    · rwa [Nat.mul_assoc]
    · intro faster fasterClock hfaster hfasterClock
      obtain ⟨-, rfl⟩ := new?_eq_ok_iff.mp hfasterClock
      rw [totalNanos_ofNanos, totalNanos_ofNanos]
      exact periodNanos_anti hlow hfaster

/-- At the two fastest tempos a step is 13 nanoseconds long; the next one is refused. -/
theorem new?_period_fastest :
    (∃ clock fasterClock, new? 1073741822 = .ok clock ∧ new? 1073741823 = .ok fasterClock ∧
      clock.period.totalNanos = 13 ∧ fasterClock.period.totalNanos ≤ clock.period.totalNanos) ∧
    new? 1073741824 = .error (.invalidBpm 1073741824) := by
  obtain ⟨-, -, hclock⟩ := new?_period 1073741822
  obtain ⟨-, -, -, hfaster⟩ := hclock _ rfl
  obtain ⟨-, hrefused, -⟩ := new?_period 1073741824
  exact ⟨⟨_, _, rfl, rfl, by decide, hfaster 1073741823 _ (by decide) rfl⟩, hrefused (by decide)⟩

end StepClock

end DrumMachine
