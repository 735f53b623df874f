import DrumMachine.Proofs.Playback.Rounds
import DrumMachine.Proofs.Playback.Views
import Mathlib.Data.ENat.Basic
import Mathlib.Data.Nat.Find

/-! # What a playback strikes and reports

Everything about a playback follows from one number: how many of its checks find it not cancelled
before the first that does (`checksPassed`, infinite if none does). A repeating playback ends
exactly if this number `k` is finite; then it has struck the first `k` steps of the round and
reports `k` steps and `k / n` passes. A playback that does not repeat does the same for `k < n` and
otherwise plays one pass.

The strikes are read off a stage that writes them down (`Stage.recorded`), which changes nothing
else. In the same way a stage may note anything about its strikes (`Stage.noting`), and a playback
as far as it is followed has the notes of as many strikes of the round as it has played steps
(`notes_follow_noting`). -/

namespace DrumMachine

/-- **The first `k` strikes of a playback that goes round and round.** -/
def Tablature.strikes (tab : Tablature) (k : Nat) : List (Step × Bool) :=
  (List.range k).map tab.strikeAt

/-- Before the first check there is no strike. -/
@[simp] theorem Tablature.strikes_zero (tab : Tablature) : tab.strikes 0 = [] := rfl

/-- One more check passed is one more strike at the end. -/
theorem Tablature.strikes_succ (tab : Tablature) (k : Nat) :
    tab.strikes (k + 1) = tab.strikes k ++ [tab.strikeAt k] := by
  rw [strikes, List.range_succ, List.map_append, List.map_singleton, strikes]

/-- **A stage that also notes something about every strike**, which may depend on the world that it
finds. -/
def Stage.noting {σ ν : Type} (stage : Stage σ) (note : Step → Bool → σ → ν) :
    Stage (σ × List ν) where
  check world := ((stage.check world.1).1, ((stage.check world.1).2, world.2))
  strike step last world := (stage.strike step last world.1, world.2 ++ [note step last world.1])

/-- Without its notes, a stage that takes notes is the stage itself. -/
theorem Stage.seen_noting {σ ν : Type} (stage : Stage σ) (note : Step → Bool → σ → ν) :
    (stage.noting note).Seen Prod.fst stage :=
  ⟨fun _ => rfl, fun _ _ _ => rfl⟩

/-- **A stage that also writes down every strike.** -/
def Stage.recorded {σ : Type} (stage : Stage σ) : Stage (σ × List (Step × Bool)) where
  check world := ((stage.check world.1).1, ((stage.check world.1).2, world.2))
  strike step last world := (stage.strike step last world.1, world.2 ++ [(step, last)])

/-- A record is notes of each step and of whether it is the last one. -/
theorem Stage.recorded_eq_noting {σ : Type} (stage : Stage σ) :
    stage.recorded = stage.noting fun step last _ => (step, last) := rfl

/-- Without its record, a recorded stage is the stage itself. -/
theorem Stage.seen_recorded {σ : Type} (stage : Stage σ) : stage.recorded.Seen Prod.fst stage :=
  stage.seen_noting fun step last _ => (step, last)

/-- A stage that counts strikes, and that finds playback cancelled from strike number `n` on. -/
def Stage.stoppingAfter (n : Nat) : Stage Nat where
  check count := (n ≤ count, count)
  strike _ _ count := count + 1

namespace Playback

section Reports

variable {σ : Type} (stage : Stage σ) (tab : Tablature) (world : σ)

/-! ## Writing down -/

section Notes

variable {ν : Type} (note : Step → Bool → σ → ν)

/-- What is noted about strike number `j`. -/
def noteAt (j : Nat) : ν :=
  note (tab.strikeAt j).1 (tab.strikeAt j).2 (leftAt stage tab world j)

/-- The world of a playback with notes holds the notes about the strikes that were made. -/
theorem worldAt_noting (notes : List ν) (j : Nat) :
    worldAt (stage.noting note) tab (world, notes) j =
      (worldAt stage tab world j, notes ++ (List.range j).map (noteAt stage tab world note)) := by
  induction j with
  | zero => simp
  | succ j ih =>
    rw [worldAt_succ, leftAt, ih, worldAt_succ, List.range_succ, List.map_append,
      List.map_singleton, ← List.append_assoc]
    rfl

/-- After `j` strikes a stage that takes notes has one note for each of them. -/
theorem leftAt_noting (notes : List ν) (j : Nat) :
    leftAt (stage.noting note) tab (world, notes) j =
      (leftAt stage tab world j, notes ++ (List.range j).map (noteAt stage tab world note)) := by
  rw [leftAt, worldAt_noting]
  rfl

end Notes

/-- **What checks and strikes leave true** holds before every check of the round, and after it. -/
theorem worldAt_keeps {holds : σ → Prop} (h : stage.Keeps tab.steps holds) (hworld : holds world)
    (j : Nat) : holds (worldAt stage tab world j) ∧ holds (leftAt stage tab world j) := by
  induction j with
  | zero => exact ⟨hworld, h.check world hworld⟩
  | succ j ih =>
    have hstrike := h.strike (tab.strikeAt j).1 (List.get_mem tab.steps _) (tab.strikeAt j).2 _ ih.2
    exact ⟨hstrike, h.check _ hstrike⟩

/-- The world of a recorded playback holds the strikes that were made. -/
theorem worldAt_recorded (record : List (Step × Bool)) (j : Nat) :
    worldAt stage.recorded tab (world, record) j =
      (worldAt stage tab world j, record ++ tab.strikes j) := by
  rw [Stage.recorded_eq_noting, worldAt_noting]
  rfl

/-- A record changes the answer of no check. -/
theorem cancelledAt_recorded (record : List (Step × Bool)) (j : Nat) :
    cancelledAt stage.recorded tab (world, record) j = cancelledAt stage tab world j := by
  rw [cancelledAt, worldAt_recorded]
  rfl

/-- The record at check `j` is that of the strikes before it. -/
theorem leftAt_recorded (record : List (Step × Bool)) (j : Nat) :
    leftAt stage.recorded tab (world, record) j =
      (leftAt stage tab world j, record ++ tab.strikes j) := by
  rw [leftAt, worldAt_recorded]
  rfl

/-- **Writing down the strikes does not change a playback.** -/
theorem play_recorded (repeats : Bool) (limit : Nat) (record : List (Step × Bool)) :
    (play stage.recorded tab repeats limit (world, record)).map
        (fun result => (result.1, result.2.1)) =
      play stage tab repeats limit world :=
  (play_view (Stage.seen_recorded stage) tab repeats limit (world, record)).symm

/-! ## Repeating and not repeating -/

/-- Before the first pass the world is the one at the start. -/
theorem worldAt_zero_mul : worldAt stage tab world (0 * tab.length) = world := by
  rw [Nat.zero_mul, worldAt_zero]

/-- A report of no passes is the empty one. -/
theorem tally_zero : tally tab 0 = {} := by
  rw [tally, Nat.zero_mul]

/-- A repeating playback goes on as long as no check finds it cancelled. -/
theorem follow_underway {limit : Nat}
    (hgo : ∀ j < limit * tab.length, cancelledAt stage tab world j = false) :
    follow stage tab true limit world =
      .underway (tally tab limit) (worldAt stage tab world (limit * tab.length)) := by
  have h := passes_underway stage 0 limit fun j _ hj =>
    hgo j (by rwa [Nat.zero_add] at hj)
  rwa [worldAt_zero_mul, tally_zero, Nat.zero_add] at h

/-- **A repeating playback ends at the first check that finds it cancelled.** -/
theorem play_repeating {k limit : Nat} (hgo : ∀ j < k, cancelledAt stage tab world j = false)
    (hbreak : cancelledAt stage tab world k = true) (hlimit : k / tab.length < limit) :
    play stage tab true limit world = some (brokenOff tab k, leftAt stage tab world k) := by
  have hk : k < limit * tab.length := by
    rwa [Nat.div_lt_iff_lt_mul tab.length_pos] at hlimit
  have h := passes_ended stage 0 limit (by omega) (by rwa [Nat.zero_add])
    (fun j _ hj => hgo j hj) hbreak
  rw [worldAt_zero_mul, tally_zero] at h
  rw [play, follow, h, Standing.result?]

/-- A playback that does not repeat and is broken off. -/
theorem play_once_broken {k : Nat} (hk : k < tab.length)
    (hgo : ∀ j < k, cancelledAt stage tab world j = false)
    (hbreak : cancelledAt stage tab world k = true) (limit : Nat) :
    play stage tab false (limit + 1) world =
      some (brokenOff tab k, leftAt stage tab world k) := by
  have hend : k < (0 + 1) * tab.length := by omega
  have h := pass_steps_broken stage (q := 0) (by omega) hend (fun j _ hj => hgo j hj) hbreak
  rw [worldAt_zero_mul] at h
  rw [play, follow, passes, h, ← tally_zero tab]
  simp only [if_true]
  rw [afterCancel_tally (by omega) hend, Standing.result?]

/-- A playback that does not repeat and is not broken off. -/
theorem play_once_complete (hgo : ∀ j < tab.length, cancelledAt stage tab world j = false)
    (limit : Nat) :
    play stage tab false (limit + 1) world =
      some (tally tab 1, worldAt stage tab world tab.length) := by
  have h := pass_steps_complete stage (q := 0) fun j _ hj => hgo j (by omega)
  rw [worldAt_zero_mul, Nat.zero_add, Nat.one_mul] at h
  rw [play, follow, passes, h, ← tally_zero tab]
  simp only [Bool.false_eq_true, if_false]
  rw [afterPass_tally, Standing.result?]

/-! ## The number that decides -/

open Classical in
/-- **How many checks find playback not cancelled** before the first that finds it cancelled. -/
noncomputable def checksPassed : ℕ∞ :=
  if h : ∃ j, cancelledAt stage tab world j = true then (Nat.find h : ℕ) else ⊤

/-- **Finitely many checks pass** if one cancels and none before it does. -/
theorem checksPassed_eq_coe_iff (k : ℕ) :
    checksPassed stage tab world = k ↔
      cancelledAt stage tab world k = true ∧ ∀ j < k, cancelledAt stage tab world j = false := by
  classical
  rw [checksPassed]
  split
  · rename_i h
    rw [Nat.cast_inj, Nat.find_eq_iff]
    simp only [Bool.not_eq_true]
  · rename_i h
    constructor
    · intro htop
      exact absurd htop.symm (ENat.natCast_ne_top k)
    · rintro ⟨hk, -⟩
      exact absurd ⟨k, hk⟩ h

/-- A number of checks that is finite is that of a check. -/
theorem exists_cancelledAt_of_ne_top (h : checksPassed stage tab world ≠ ⊤) :
    ∃ k : ℕ, checksPassed stage tab world = k ∧ cancelledAt stage tab world k = true ∧
      ∀ j < k, cancelledAt stage tab world j = false := by
  obtain ⟨k, hk⟩ := ENat.ne_top_iff_exists.mp h
  exact ⟨k, hk.symm, (checksPassed_eq_coe_iff stage tab world k).mp hk.symm⟩

/-- At least `m` checks pass if none of the first `m` cancels. -/
theorem coe_le_checksPassed_iff (m : ℕ) :
    (m : ℕ∞) ≤ checksPassed stage tab world ↔
      ∀ j < m, cancelledAt stage tab world j = false := by
  classical
  rw [checksPassed]
  split
  · rename_i h
    rw [Nat.cast_le, Nat.le_find_iff]
    simp only [Bool.not_eq_true]
  · rename_i h
    rw [not_exists] at h
    simp only [le_top, true_iff]
    intro j _
    exact Bool.eq_false_iff.mpr (h j)

/-- What a playback reports and the strikes it makes, in order. -/
def performance (repeats : Bool) (limit : Nat) (world : σ) :
    Option (Report × List (Step × Bool)) :=
  (play stage.recorded tab repeats limit (world, [])).map fun result => (result.1, result.2.2)

/-- **What a repeating playback does**: cancelled at check number `k`, it has made the first `k`
strikes. -/
theorem performance_repeating {k : ℕ} (hk : checksPassed stage tab world = k) {limit : Nat}
    (hlimit : k / tab.length < limit) :
    performance stage tab true limit world = some (brokenOff tab k, tab.strikes k) := by
  obtain ⟨hbreak, hgo⟩ := (checksPassed_eq_coe_iff stage tab world k).mp hk
  have hplay := play_repeating stage.recorded tab (world, [])
    (fun j hj => (cancelledAt_recorded stage tab world [] j).trans (hgo j hj))
    ((cancelledAt_recorded stage tab world [] k).trans hbreak) hlimit
  rw [performance, hplay, leftAt_recorded, Option.map_some, List.nil_append]

/-- A playback without repeat that is cancelled within the pass is broken off there. -/
theorem performance_once_broken {k : ℕ} (hk : checksPassed stage tab world = k)
    (hlt : k < tab.length) (limit : Nat) :
    performance stage tab false (limit + 1) world = some (brokenOff tab k, tab.strikes k) := by
  obtain ⟨hbreak, hgo⟩ := (checksPassed_eq_coe_iff stage tab world k).mp hk
  have hplay := play_once_broken stage.recorded tab (world, []) hlt
    (fun j hj => (cancelledAt_recorded stage tab world [] j).trans (hgo j hj))
    ((cancelledAt_recorded stage tab world [] k).trans hbreak) limit
  rw [performance, hplay, leftAt_recorded, Option.map_some, List.nil_append]

/-- A playback without repeat whose checks all pass is one complete pass. -/
theorem performance_once_complete (hk : (tab.length : ℕ∞) ≤ checksPassed stage tab world)
    (limit : Nat) :
    performance stage tab false (limit + 1) world =
      some (tally tab 1, tab.strikes tab.length) := by
  have hgo := (coe_le_checksPassed_iff stage tab world tab.length).mp hk
  have hplay := play_once_complete stage.recorded tab (world, [])
    (fun j hj => (cancelledAt_recorded stage tab world [] j).trans (hgo j hj)) limit
  rw [performance, hplay, worldAt_recorded, Option.map_some, List.nil_append]

/-- **What is struck of a playback that goes on**: after `limit` passes, the strikes of these. -/
theorem follow_recorded_underway {limit : Nat}
    (hk : ((limit * tab.length : ℕ) : ℕ∞) ≤ checksPassed stage tab world) :
    follow stage.recorded tab true limit (world, []) =
      .underway (tally tab limit)
        (worldAt stage tab world (limit * tab.length), tab.strikes (limit * tab.length)) := by
  have hgo := (coe_le_checksPassed_iff stage tab world (limit * tab.length)).mp hk
  have hfollow := follow_underway stage.recorded tab (world, []) fun j hj =>
    (cancelledAt_recorded stage tab world [] j).trans (hgo j hj)
  rw [hfollow, worldAt_recorded, List.nil_append]

/-- **A repeating playback ends exactly if some check finds it cancelled.** -/
theorem exists_play_isSome_iff :
    (∃ limit, (play stage tab true limit world).isSome) ↔ checksPassed stage tab world ≠ ⊤ := by
  constructor
  · rintro ⟨limit, hlimit⟩ htop
    have hgo := (coe_le_checksPassed_iff stage tab world (limit * tab.length)).mp
      (htop ▸ le_top : _ ≤ checksPassed stage tab world)
    rw [play, follow_underway stage tab world hgo, Standing.result?] at hlimit
    exact Bool.false_ne_true hlimit
  · intro hfinite
    obtain ⟨k, -, hbreak, hgo⟩ := exists_cancelledAt_of_ne_top stage tab world hfinite
    refine ⟨k / tab.length + 1, ?_⟩
    rw [play_repeating stage tab world hgo hbreak (Nat.lt_succ_self _)]
    rfl

/-- **Every answer of a playback** is that of one broken off, or of a single pass that was not. -/
theorem eq_or_eq_of_play_eq_some {repeats : Bool} {limit : Nat} {report : Report} {world' : σ}
    (h : play stage tab repeats limit world = some (report, world')) :
    (∃ k, report = brokenOff tab k ∧ world' = leftAt stage tab world k) ∨
      report = tally tab 1 ∧ world' = worldAt stage tab world tab.length := by
  cases repeats with
  | true =>
    have hfinite := (exists_play_isSome_iff stage tab world).mp ⟨limit, by rw [h]; rfl⟩
    obtain ⟨k, -, hbreak, hgo⟩ := exists_cancelledAt_of_ne_top stage tab world hfinite
    by_cases hlimit : k / tab.length < limit
    · rw [play_repeating stage tab world hgo hbreak hlimit, Option.some_inj, Prod.mk.injEq] at h
      exact .inl ⟨k, h.1.symm, h.2.symm⟩
    · -- too few passes to come to the check that breaks playback off
      have hle : limit * tab.length ≤ k := by
        rwa [Nat.div_lt_iff_lt_mul tab.length_pos, Nat.not_lt] at hlimit
      rw [play, follow_underway stage tab world fun j hj => hgo j (by omega)] at h
      cases h
  | false =>
    cases limit with
    | zero => cases h
    | succ limit =>
      -- a single pass: all of its checks pass, or one of them cancels
      by_cases hall : ((tab.length : ℕ) : ℕ∞) ≤ checksPassed stage tab world
      · have hgo := (coe_le_checksPassed_iff stage tab world tab.length).mp hall
        rw [play_once_complete stage tab world hgo, Option.some_inj, Prod.mk.injEq] at h
        exact .inr ⟨h.1.symm, h.2.symm⟩
      · rw [not_le] at hall
        obtain ⟨k, hk, hbreak, hgo⟩ := exists_cancelledAt_of_ne_top stage tab world hall.ne_top
        have hlt : k < tab.length := by
          rw [hk] at hall
          exact_mod_cast hall
        rw [play_once_broken stage tab world hlt hgo hbreak, Option.some_inj, Prod.mk.injEq] at h
        exact .inl ⟨k, h.1.symm, h.2.symm⟩

/-- **As far as a playback is followed**, it stands before the check that comes after the steps it
has played, or has been broken off by it. -/
theorem world_follow_eq_or_eq (repeats : Bool) (limit : Nat) :
    (follow stage tab repeats limit world).world =
        worldAt stage tab world (follow stage tab repeats limit world).report.stepsPlayed ∨
      (follow stage tab repeats limit world).world =
        leftAt stage tab world (follow stage tab repeats limit world).report.stepsPlayed := by
  cases hplay : play stage tab repeats limit world with
  | some result =>
    rw [Standing.eq_ended_of_result? hplay]
    obtain ⟨k, hreport, hworld⟩ | ⟨hreport, hworld⟩ :=
      eq_or_eq_of_play_eq_some stage tab world hplay
    · right
      rw [Standing.world, Standing.report, hreport, hworld, brokenOff]
    · left
      rw [Standing.world, Standing.report, hreport, hworld, tally, Nat.one_mul]
  | none =>
    left
    cases repeats with
    | true =>
      -- a check that finds it cancelled would have given an answer
      by_cases hall : ((limit * tab.length : ℕ) : ℕ∞) ≤ checksPassed stage tab world
      · have hgo := (coe_le_checksPassed_iff stage tab world (limit * tab.length)).mp hall
        rw [follow_underway stage tab world hgo]
        rfl
      · rw [not_le] at hall
        obtain ⟨k, hk, hbreak, hgo⟩ := exists_cancelledAt_of_ne_top stage tab world hall.ne_top
        have hlimit : k / tab.length < limit := by
          rw [hk, Nat.cast_lt] at hall
          rwa [Nat.div_lt_iff_lt_mul tab.length_pos]
        rw [play_repeating stage tab world hgo hbreak hlimit] at hplay
        cases hplay
    | false =>
      cases limit with
      | zero => rfl
      | succ limit =>
        have hsome := play_once_isSome stage tab limit world
        rw [hplay] at hsome
        cases hsome

/-- **What holds before a playback and is kept by it holds after it**, or after as much of it as is
followed. -/
theorem follow_keeps {holds : σ → Prop} (h : stage.Keeps tab.steps holds) (hworld : holds world)
    (repeats : Bool) (limit : Nat) : holds (follow stage tab repeats limit world).world := by
  obtain hend | hend := world_follow_eq_or_eq stage tab world repeats limit
  · rw [hend]
    exact (worldAt_keeps stage tab world h hworld _).1
  · rw [hend]
    exact (worldAt_keeps stage tab world h hworld _).2

/-- **The notes of a playback, as far as it is followed**, are those about as many strikes of the
round as it has played steps. -/
theorem notes_follow_noting {ν : Type} (note : Step → Bool → σ → ν) (repeats : Bool)
    (limit : Nat) :
    (follow (stage.noting note) tab repeats limit (world, [])).world.2 =
      (List.range (follow stage tab repeats limit world).report.stepsPlayed).map
        (noteAt stage tab world note) := by
  have hreport : (follow stage tab repeats limit world).report =
      (follow (stage.noting note) tab repeats limit (world, [])).report := by
    rw [follow_view (Stage.seen_noting stage note) tab repeats limit (world, []),
      Standing.report_map]
  rw [hreport]
  -- the notes come from the strikes alone, so a last check that broke it off has added none
  obtain hworld | hworld := world_follow_eq_or_eq (stage.noting note) tab (world, []) repeats limit
  · rw [hworld, worldAt_noting, List.nil_append]
  · rw [hworld, leftAt_noting, List.nil_append]

/-- **What a playback strikes and reports**, by the number `k` of checks that find it not cancelled.
Strike number `j` is always that of step `j mod n`, and none is left out or added. -/
theorem play_report :
    (∀ repeats limit,
      (performance stage tab repeats limit world).map (·.1) =
        (play stage tab repeats limit world).map (·.1)) ∧
    (∀ k : ℕ, checksPassed stage tab world = k →
      (∀ limit, k / tab.length < limit →
        performance stage tab true limit world =
          some ({ stepsPlayed := k, passes := k / tab.length, cancelled := true,
                  midPass := k % tab.length ≠ 0 }, tab.strikes k)) ∧
      (k < tab.length → ∀ limit,
        performance stage tab false (limit + 1) world =
          some ({ stepsPlayed := k, passes := 0, cancelled := true, midPass := 0 < k },
            tab.strikes k))) ∧
    ((tab.length : ℕ∞) ≤ checksPassed stage tab world → ∀ limit,
      performance stage tab false (limit + 1) world =
        some ({ stepsPlayed := tab.length, passes := 1, cancelled := false, midPass := false },
          tab.strikes tab.length)) ∧
    ((∃ limit, (play stage tab true limit world).isSome) ↔ checksPassed stage tab world ≠ ⊤) ∧
    (checksPassed stage tab world = ⊤ → ∀ limit,
      follow stage.recorded tab true limit (world, []) =
        .underway { stepsPlayed := limit * tab.length, passes := limit }
          (worldAt stage tab world (limit * tab.length), tab.strikes (limit * tab.length))) := by
  refine ⟨?_, ?_, ?_, exists_play_isSome_iff stage tab world, ?_⟩
  · intro repeats limit
    rw [← play_recorded stage tab world repeats limit [], performance, Option.map_map,
      Option.map_map]
    rfl
  · intro k hk
    constructor
    · intro limit hlimit
      exact performance_repeating stage tab world hk hlimit
    · intro hlt limit
      rw [performance_once_broken stage tab world hk hlt, brokenOff, Nat.div_eq_of_lt hlt,
        Nat.mod_eq_of_lt hlt]
      simp only [Nat.pos_iff_ne_zero]
  · intro hk limit
    rw [performance_once_complete stage tab world hk, tally, Nat.one_mul]
  · intro htop limit
    exact follow_recorded_underway stage tab world (htop ▸ le_top)

end Reports

/-- A repeated playback of three steps that is cancelled in its third pass. -/
theorem play_report_seven_strikes :
    checksPassed (Stage.stoppingAfter 7) ⟨["AA"], [["AA"], [], ["AA"]], by decide⟩ 0 = 7 ∧
    performance (Stage.stoppingAfter 7) ⟨["AA"], [["AA"], [], ["AA"]], by decide⟩ true 3 0 =
      some ({ stepsPlayed := 7, passes := 2, cancelled := true, midPass := true },
        [(["AA"], false), ([], false), (["AA"], true), (["AA"], false), ([], false),
          (["AA"], true), (["AA"], false)]) := by
  have hk : checksPassed (Stage.stoppingAfter 7) ⟨["AA"], [["AA"], [], ["AA"]], by decide⟩ 0 = 7 :=
    (checksPassed_eq_coe_iff _ _ 0 7).mpr (by decide)
  exact ⟨hk, ((play_report _ _ 0).2.1 7 hk).1 3 (by decide)⟩

end Playback

end DrumMachine
