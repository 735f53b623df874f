import DrumMachine.Playback

/-! # Playback in rounds

A playback that is never cancelled strikes the steps of its tablature round and round: strike number
`j` is that of step `j mod n`. So the world before check number `j` is known for every `j`
(`worldAt`), and with it what the check answers (`cancelledAt`). How far a playback really comes is
then a matter of the first check that answers yes:

* `pass_complete`, `pass_broken` — one pass, from any step of it on;
* `passes_underway`, `passes_ended` — a repeating playback, from any pass on. -/

namespace DrumMachine.Playback

section Rounds

variable {σ : Type} (stage : Stage σ) (tab : Tablature) (world : σ)

/-- **The world before check number `j`**, if no check before it finds playback cancelled. -/
def worldAt : Nat → σ
  | 0 => world
  | j + 1 => stage.strike (tab.strikeAt j).1 (tab.strikeAt j).2 (stage.check (worldAt j)).2

/-- Whether check number `j` finds playback cancelled. -/
def cancelledAt (j : Nat) : Bool := (stage.check (worldAt stage tab world j)).1

/-- The world after check number `j`. -/
def leftAt (j : Nat) : σ := (stage.check (worldAt stage tab world j)).2

/-- Check `j` is asked in the world before strike `j`. -/
theorem check_worldAt (j : Nat) :
    stage.check (worldAt stage tab world j) =
      (cancelledAt stage tab world j, leftAt stage tab world j) := rfl

/-- Before the first strike the world is the one at the start. -/
@[simp] theorem worldAt_zero : worldAt stage tab world 0 = world := rfl

/-- Strike `j` is made in the world that check `j` leaves. -/
theorem worldAt_succ (j : Nat) :
    worldAt stage tab world (j + 1) =
      stage.strike (tab.strikeAt j).1 (tab.strikeAt j).2 (leftAt stage tab world j) := rfl

/-- What is counted after `q` complete passes. -/
def tally (q : Nat) : Report := { stepsPlayed := q * tab.length, passes := q }

/-- What is reported when check number `k` is the first to find playback cancelled. -/
def brokenOff (k : Nat) : Report where
  stepsPlayed := k
  passes := k / tab.length
  cancelled := true
  midPass := k % tab.length ≠ 0

variable {tab}

/-- Strike number `i` of pass number `q` is that of step `i`; it is the last one of the pass if no
steps are left. -/
theorem strikeAt_of_drop {q i : Nat} {step : Step} {rest : List Step}
    (h : tab.steps.drop i = step :: rest) :
    tab.strikeAt (q * tab.length + i) = (step, rest.isEmpty) := by
  have hi : i < tab.steps.length := by
    by_cases hlt : i < tab.steps.length
    · exact hlt
    · rw [List.drop_eq_nil_of_le (Nat.le_of_not_lt hlt)] at h
      cases h
  rw [List.drop_eq_getElem_cons hi, List.cons.injEq] at h
  obtain ⟨hstep, hrest⟩ := h
  have hmod : (q * tab.length + i) % tab.length = i := by
    rw [Nat.mul_comm, Nat.mul_add_mod]
    exact Nat.mod_eq_of_lt hi
  have hlast : (i == tab.length - 1) = rest.isEmpty := by
    rw [← hrest, Bool.eq_iff_iff, beq_iff_eq, List.isEmpty_iff, List.drop_eq_nil_iff]
    rw [Tablature.length]
    omega
  rw [Tablature.strikeAt]
  simp only [hmod, hlast, List.get_eq_getElem, hstep]

variable {world}

/-! ## One pass -/

/-- **One step of a pass** that its check lets go on. -/
theorem pass_drop {q i : Nat} (hi : i < tab.length)
    (hgo : cancelledAt stage tab world (q * tab.length + i) = false) :
    pass stage (tab.steps.drop i) (worldAt stage tab world (q * tab.length + i)) =
      match pass stage (tab.steps.drop (i + 1))
        (worldAt stage tab world (q * tab.length + (i + 1))) with
      | (outcome, world) => (⟨outcome.struck + 1, outcome.cancelled⟩, world) := by
  have hsteps : i < tab.steps.length := hi
  have hdrop := List.drop_eq_getElem_cons hsteps
  have hstrike := strikeAt_of_drop (q := q) hdrop
  rw [hdrop, pass, check_worldAt, hgo, ← Nat.add_assoc, worldAt_succ, hstrike]

/-- **A pass that no check breaks off** comes to its end. -/
theorem pass_complete {q i m : Nat} (him : i + m = tab.length)
    (hgo : ∀ j, q * tab.length + i ≤ j → j < q * tab.length + (i + m) →
      cancelledAt stage tab world j = false) :
    pass stage (tab.steps.drop i) (worldAt stage tab world (q * tab.length + i)) =
      (⟨m, false⟩, worldAt stage tab world ((q + 1) * tab.length)) := by
  induction m generalizing i with
  | zero =>
    have hdrop : tab.steps.drop i = [] := List.drop_eq_nil_of_le (Nat.le_of_eq him.symm)
    rw [hdrop, pass_nil, Nat.succ_mul, ← him, Nat.add_zero]
  | succ m ih =>
    have hfirst := hgo (q * tab.length + i) (by omega) (by omega)
    rw [pass_drop stage (by omega) hfirst, ih (by omega)]
    intro j hj hjm
    exact hgo j (by omega) (by omega)

/-- **A pass that a check breaks off** ends there. -/
theorem pass_broken {q i m : Nat} (him : i + m < tab.length)
    (hgo : ∀ j, q * tab.length + i ≤ j → j < q * tab.length + (i + m) →
      cancelledAt stage tab world j = false)
    (hbreak : cancelledAt stage tab world (q * tab.length + (i + m)) = true) :
    pass stage (tab.steps.drop i) (worldAt stage tab world (q * tab.length + i)) =
      (⟨m, true⟩, leftAt stage tab world (q * tab.length + (i + m))) := by
  induction m generalizing i with
  | zero =>
    rw [Nat.add_zero] at him hbreak ⊢
    have hsteps : i < tab.steps.length := him
    rw [List.drop_eq_getElem_cons hsteps, pass, check_worldAt, hbreak]
  | succ m ih =>
    have hshift : i + 1 + m = i + (m + 1) := by omega
    have hfirst := hgo (q * tab.length + i) (by omega) (by omega)
    rw [← hshift] at hbreak ⊢
    rw [pass_drop stage (by omega) hfirst, ih (by omega) _ hbreak]
    intro j hj hjm
    exact hgo j (by omega) (by omega)

/-! ## Passes -/

/-- A whole pass that no check breaks off, as pass number `q`. -/
theorem pass_steps_complete {q : Nat}
    (hgo : ∀ j, q * tab.length ≤ j → j < (q + 1) * tab.length →
      cancelledAt stage tab world j = false) :
    pass stage tab.steps (worldAt stage tab world (q * tab.length)) =
      (⟨tab.length, false⟩, worldAt stage tab world ((q + 1) * tab.length)) := by
  have h := pass_complete stage (q := q) (i := 0) (Nat.zero_add tab.length) (by
    intro j hj hjm
    rw [Nat.succ_mul] at hgo
    exact hgo j hj (by omega))
  rwa [List.drop_zero, Nat.add_zero] at h

/-- A whole pass, as pass number `q`, that check number `k` breaks off. -/
theorem pass_steps_broken {q k : Nat} (hqk : q * tab.length ≤ k) (hk : k < (q + 1) * tab.length)
    (hgo : ∀ j, q * tab.length ≤ j → j < k → cancelledAt stage tab world j = false)
    (hbreak : cancelledAt stage tab world k = true) :
    pass stage tab.steps (worldAt stage tab world (q * tab.length)) =
      (⟨k - q * tab.length, true⟩, leftAt stage tab world k) := by
  rw [Nat.succ_mul] at hk
  have hpos : q * tab.length + (0 + (k - q * tab.length)) = k := by omega
  have him : 0 + (k - q * tab.length) < tab.length := by omega
  have h := pass_broken stage (q := q) him (by
    intro j hj hjm
    exact hgo j hj (by omega)) (by rwa [hpos])
  rwa [List.drop_zero, Nat.add_zero, hpos] at h

/-- A complete pass adds its steps and itself to the report. -/
theorem afterPass_tally (q : Nat) :
    afterPass (tally tab q) ⟨tab.length, false⟩ = tally tab (q + 1) := by
  rw [afterPass, tally, tally, Nat.succ_mul]

/-- A cancelled pass adds the steps played of it. -/
theorem afterCancel_tally {q k : Nat} (hqk : q * tab.length ≤ k) (hk : k < (q + 1) * tab.length) :
    afterCancel (tally tab q) ⟨k - q * tab.length, true⟩ = brokenOff tab k := by
  have hdiv : k / tab.length = q := Nat.div_eq_of_lt_le hqk hk
  have hmod : k % tab.length = k - q * tab.length := by
    have := Nat.div_add_mod k tab.length
    rw [hdiv, Nat.mul_comm] at this
    omega
  rw [afterCancel, tally, brokenOff, hdiv, hmod]
  simp only [Report.mk.injEq, true_and, decide_eq_decide]
  omega

/-- **A repeating playback is still underway** after passes that no check breaks off. -/
theorem passes_underway (q limit : Nat)
    (hgo : ∀ j, q * tab.length ≤ j → j < (q + limit) * tab.length →
      cancelledAt stage tab world j = false) :
    passes stage tab.steps true limit (tally tab q) (worldAt stage tab world (q * tab.length)) =
      .underway (tally tab (q + limit)) (worldAt stage tab world ((q + limit) * tab.length)) := by
  -- on the passes still to come: the first one of them is complete
  induction limit generalizing q with
  | zero => rfl
  | succ limit ih =>
    have hshift : q + (limit + 1) = q + 1 + limit := by omega
    have hmono : (q + 1) * tab.length ≤ (q + (limit + 1)) * tab.length :=
      Nat.mul_le_mul_right _ (by omega)
    have hmono' : q * tab.length ≤ (q + 1) * tab.length := Nat.mul_le_mul_right _ (by omega)
    rw [passes, pass_steps_complete stage fun j hj hjm => hgo j hj (by omega)]
    simp only [Bool.false_eq_true, if_false, if_true]
    rw [afterPass_tally, hshift, ih (q + 1)]
    intro j hj hjm
    rw [← hshift] at hjm
    exact hgo j (by omega) hjm

/-- **A repeating playback ends** at the first check that finds it cancelled. -/
theorem passes_ended (q limit : Nat) {k : Nat} (hqk : q * tab.length ≤ k)
    (hk : k < (q + limit) * tab.length)
    (hgo : ∀ j, q * tab.length ≤ j → j < k → cancelledAt stage tab world j = false)
    (hbreak : cancelledAt stage tab world k = true) :
    passes stage tab.steps true limit (tally tab q) (worldAt stage tab world (q * tab.length)) =
      .ended (brokenOff tab k) (leftAt stage tab world k) := by
  induction limit generalizing q with
  | zero =>
    rw [Nat.add_zero] at hk
    omega
  | succ limit ih =>
    have hshift : q + (limit + 1) = q + 1 + limit := by omega
    rw [passes]
    -- the check is one of this pass, or else this pass comes to its end
    by_cases hlast : k < (q + 1) * tab.length
    · rw [pass_steps_broken stage hqk hlast hgo hbreak]
      simp only [if_true]
      rw [afterCancel_tally hqk hlast]
    · rw [pass_steps_complete stage fun j hj hjm => hgo j hj (by omega)]
      simp only [Bool.false_eq_true, if_false, if_true]
      rw [afterPass_tally]
      rw [hshift] at hk
      refine ih (q + 1) (by omega) hk ?_
      intro j hj hjk
      have hmono : q * tab.length ≤ (q + 1) * tab.length := Nat.mul_le_mul_right _ (by omega)
      exact hgo j (by omega) hjk

end Rounds

end DrumMachine.Playback
