import DrumMachine.Stream.Sink

/-! # What a sink takes of a write

However often a sink asks again and however little it takes at a time, all that matters of it in the
end is its capacity. A byte string is taken up to what fits (`Sink.fitting`), and it is written
without a fault exactly if all of it fits (`takes_writeAll`). The one thing asked of the sink is
that a write which is let through can take a byte while there is room (`Manner.TakesSome`). -/

namespace DrumMachine

/-- No write is let through only to take nothing. -/
def Manner.TakesSome (manner : Manner) : Prop := ∀ n, manner.portion n ≠ some 0

/-- Everything is taken in the end: there is no limit, and every write that is let through takes a
byte. A sink whose writes never fail is of this kind. -/
structure Manner.TakesAll (manner : Manner) : Prop where
  takesSome : manner.TakesSome
  capacity_eq_none : manner.capacity = none

/-- A willing sink takes all that it is given. -/
theorem Manner.takesAll_willing : Manner.willing.TakesAll := ⟨fun _ => nofun, rfl⟩

namespace Sink

/-- **One sink is another after it took bytes.** -/
structure Takes (bytes : List UInt8) (sink sink' : Sink) : Prop where
  manner_eq : sink'.manner = sink.manner
  taken_eq : sink'.taken.toList = sink.taken.toList ++ bytes

/-- A sink that has come on otherwise has taken nothing. -/
theorem Takes.of_eq {sink sink' : Sink} (hmanner : sink'.manner = sink.manner)
    (htaken : sink'.taken = sink.taken) : Takes [] sink sink' := by
  constructor
  · exact hmanner
  · rw [htaken, List.append_nil]

/-- What is taken in two goes is taken one after the other. -/
theorem Takes.trans {a b : List UInt8} {sink sink' sink'' : Sink} (h : Takes a sink sink')
    (h' : Takes b sink' sink'') : Takes (a ++ b) sink sink'' := by
  constructor
  · rw [h'.manner_eq, h.manner_eq]
  · rw [h'.taken_eq, h.taken_eq, List.append_assoc]

/-- A sink has as many more bytes as it takes. -/
theorem Takes.size_eq {bytes : List UInt8} {sink sink' : Sink} (h : Takes bytes sink sink') :
    sink'.taken.size = sink.taken.size + bytes.length := by
  rw [← Array.length_toList, h.taken_eq, List.length_append, Array.length_toList]

/-- **What fits into a sink of a byte string**: the beginning that it has room for. -/
def fitting (bytes : List UInt8) (sink : Sink) : List UInt8 :=
  match sink.manner.capacity with
  | none => bytes
  | some capacity => bytes.take (capacity - sink.taken.size)

/-- Where a sink takes all, every byte fits. -/
theorem fitting_eq_self {sink : Sink} (h : sink.manner.TakesAll) (bytes : List UInt8) :
    sink.fitting bytes = bytes := by
  rw [fitting, h.capacity_eq_none]

/-- Of no bytes none are left out. -/
@[simp] theorem fitting_nil (sink : Sink) : sink.fitting [] = [] := by
  rw [fitting]
  cases sink.manner.capacity with
  | none => rfl
  | some capacity => exact List.take_nil

/-- **Byte strings fit one after the other.** -/
theorem fitting_append {a : List UInt8} {sink sink' : Sink}
    (h : Takes (sink.fitting a) sink sink') (b : List UInt8) :
    sink.fitting (a ++ b) = sink.fitting a ++ sink'.fitting b := by
  have hsize := h.size_eq
  unfold fitting at hsize ⊢
  rw [h.manner_eq]
  cases hcapacity : sink.manner.capacity with
  | none => rfl
  | some capacity =>
    simp only [hcapacity] at hsize ⊢
    rw [List.length_take] at hsize
    -- the room for `b` is what `a` leaves of the room, none if `a` did not fit
    have hroom : capacity - sink'.taken.size = capacity - sink.taken.size - a.length := by omega
    rw [List.take_append, hroom]

/-- No more bytes fit than are given. -/
theorem length_fitting_le (bytes : List UInt8) (sink : Sink) :
    (sink.fitting bytes).length ≤ bytes.length := by
  rw [fitting]
  cases sink.manner.capacity with
  | none => exact Nat.le_refl _
  | some capacity => exact List.length_take_le' _ _

/-- Two byte strings fit as a whole if the first does, and the second after it. -/
theorem fitting_append_eq_iff {a : List UInt8} {sink sink' : Sink}
    (h : Takes (sink.fitting a) sink sink') (b : List UInt8) :
    sink.fitting (a ++ b) = a ++ b ↔ sink.fitting a = a ∧ sink'.fitting b = b := by
  rw [fitting_append h]
  constructor
  · intro hall
    have hlength := congrArg List.length hall
    have ha := length_fitting_le a sink
    have hb := length_fitting_le b sink'
    rw [List.length_append, List.length_append] at hlength
    exact List.append_inj hall (by omega)
  · rintro ⟨ha, hb⟩
    rw [ha, hb]

/-- Nothing more fits after a byte string that did not fit as a whole. -/
theorem fitting_eq_nil_of_fitting_ne {a : List UInt8} {sink sink' : Sink}
    (h : Takes (sink.fitting a) sink sink') (hne : sink.fitting a ≠ a) (b : List UInt8) :
    sink'.fitting b = [] := by
  have hsize := h.size_eq
  unfold fitting at hsize hne ⊢
  rw [h.manner_eq]
  cases hcapacity : sink.manner.capacity with
  | none =>
    rw [hcapacity] at hne
    exact absurd rfl hne
  | some capacity =>
    simp only [hcapacity] at hsize hne ⊢
    have hshort : capacity - sink.taken.size < a.length := by
      by_cases hle : a.length ≤ capacity - sink.taken.size
      · exact absurd (List.take_of_length_le hle) hne
      · exact Nat.lt_of_not_le hle
    -- what was taken has used up the room
    rw [List.length_take] at hsize
    have hfull : capacity - sink'.taken.size = 0 := by omega
    rw [hfull, List.take_zero]

/-! ## One write -/

section Write

variable {bytes : List UInt8} {sink sink' : Sink}

/-- A write that is let through leaves a sink that took bytes. -/
theorem takes_appendList (bytes : List UInt8) (sink : Sink) (writes pending : Nat) :
    Takes bytes sink
      ⟨sink.manner, sink.taken.appendList bytes, writes, pending, sink.flushes⟩ :=
  ⟨rfl, Array.toList_appendList⟩

/-- What a write takes fits. -/
theorem fitting_take_share (bytes : List UInt8) (sink : Sink) :
    sink.fitting (bytes.take (sink.share bytes.length)) = bytes.take (sink.share bytes.length) := by
  rw [fitting]
  cases hcapacity : sink.manner.capacity with
  | none => rfl
  | some capacity =>
    have hshare : sink.share bytes.length ≤ capacity - sink.taken.size := by
      rw [share, hcapacity]
      exact Nat.le_trans (Nat.min_le_right _ _) (Nat.min_le_right _ _)
    exact List.take_of_length_le (Nat.le_trans (List.length_take_le _ _) hshare)

/-- A write that takes nothing finds the sink full. -/
theorem fitting_eq_nil_of_share_eq_zero (hsome : sink.manner.TakesSome) (hne : bytes ≠ [])
    (h : sink.share bytes.length = 0) : sink.fitting bytes = [] := by
  have hlength : 0 < bytes.length := List.length_pos_iff.mpr hne
  have hportion : 0 < (sink.manner.portion sink.writes).getD bytes.length := by
    cases hp : sink.manner.portion sink.writes with
    | none => exact hlength
    | some portion =>
      rw [Option.getD_some, Nat.pos_iff_ne_zero]
      rintro rfl
      exact hsome _ hp
  -- a portion is never nothing, so there is no room left
  rw [share] at h
  rw [fitting]
  cases hcapacity : sink.manner.capacity with
  | none =>
    simp only [hcapacity, Option.map_none, Option.getD_none] at h
    omega
  | some capacity =>
    simp only [hcapacity, Option.map_some, Option.getD_some] at h
    have hfull : capacity - sink.taken.size = 0 := by omega
    dsimp only
    rw [hfull, List.take_zero]

/-- An interrupted write takes nothing. -/
theorem takes_of_write_interrupted (h : sink.write bytes = (.interrupted, sink')) :
    Takes [] sink sink' := by
  unfold write at h
  split at h
  · obtain rfl := (Prod.mk.inj h).2
    exact .of_eq rfl rfl
  · dsimp only at h
    split at h
    · split at h <;> cases h
    · cases h

/-- **A write that fails** finds the sink full. -/
theorem takes_of_write_failed (hsome : sink.manner.TakesSome) (hne : bytes ≠ []) {fault : Fault}
    (h : sink.write bytes = (.failed fault, sink')) :
    Takes [] sink sink' ∧ sink.fitting bytes = [] := by
  unfold write at h
  split at h
  · cases h
  · dsimp only at h
    split at h
    · rename_i hshare
      split at h
      · obtain rfl := (Prod.mk.inj h).2
        refine ⟨?_, fitting_eq_nil_of_share_eq_zero hsome hne hshare⟩
        rw [hshare, List.take_zero]
        exact takes_appendList [] sink _ _
      · cases h
    · cases h

/-- **A write that takes bytes** takes some that fit, and none only if the sink is full. -/
theorem takes_of_write_took (hsome : sink.manner.TakesSome) (hne : bytes ≠ []) {count : Nat}
    (h : sink.write bytes = (.took count, sink')) :
    Takes (bytes.take count) sink sink' ∧ sink.fitting (bytes.take count) = bytes.take count ∧
      (count = 0 → sink.fitting bytes = []) := by
  unfold write at h
  split at h
  · cases h
  · dsimp only at h
    split at h
    · rename_i hshare
      split at h
      · cases h
      · -- a full sink that answers without a fault
        obtain ⟨hcount, rfl⟩ := Prod.mk.inj h
        obtain rfl : 0 = count := WriteAnswer.took.inj hcount
        refine ⟨?_, by rw [List.take_zero, fitting_nil], fun _ =>
          fitting_eq_nil_of_share_eq_zero hsome hne hshare⟩
        rw [hshare]
        exact takes_appendList (bytes.take 0) sink _ _
    · rename_i hshare
      obtain ⟨hcount, rfl⟩ := Prod.mk.inj h
      obtain rfl := WriteAnswer.took.inj hcount
      exact ⟨takes_appendList _ sink _ _, fitting_take_share bytes sink, fun hzero =>
        absurd hzero hshare⟩

end Write

/-! ## Writing all -/

/-- **Writing all takes what fits**, and has a fault exactly if something does not fit. -/
theorem takes_writeAll (bytes : List UInt8) (sink : Sink) (hsome : sink.manner.TakesSome) :
    Takes (sink.fitting bytes) sink (sink.writeAll bytes).2 ∧
      ((sink.writeAll bytes).1 = none ↔ sink.fitting bytes = bytes) := by
  -- along the writes: what one of them takes and what fits afterwards is what fitted before
  fun_induction writeAll bytes sink with
  | case1 sink =>
    rw [fitting_nil]
    exact ⟨.of_eq rfl rfl, by simp⟩
  | case2 bytes sink hne sink' hwrite ih =>
    have htakes := takes_of_write_interrupted hwrite
    have hfitting : sink.fitting bytes = sink'.fitting bytes := by
      rw [← fitting_nil sink] at htakes
      simpa using fitting_append htakes bytes
    obtain ⟨hrest, hnone⟩ := ih (htakes.manner_eq ▸ hsome)
    rw [hfitting]
    exact ⟨htakes.trans hrest, hnone⟩
  | case3 bytes sink hne fault sink' hwrite =>
    obtain ⟨htakes, hfull⟩ := takes_of_write_failed hsome hne hwrite
    rw [hfull]
    exact ⟨htakes, by simpa [eq_comm] using hne⟩
  | case4 bytes sink hne sink' hwrite =>
    obtain ⟨htakes, -, hfull⟩ := takes_of_write_took hsome hne hwrite
    rw [hfull rfl]
    exact ⟨htakes, by simpa [eq_comm] using hne⟩
  | case5 bytes sink hne count sink' hwrite hcount ih =>
    obtain ⟨htakes, hfits, -⟩ := takes_of_write_took hsome hne hwrite
    have hfitting : sink.fitting bytes = bytes.take count ++ sink'.fitting (bytes.drop count) := by
      have happend := fitting_append (hfits.symm ▸ htakes) (bytes.drop count)
      rwa [List.take_append_drop, hfits] at happend
    obtain ⟨hrest, hnone⟩ := ih (htakes.manner_eq ▸ hsome)
    have hsplit := List.take_append_drop count bytes
    rw [hfitting]
    refine ⟨htakes.trans hrest, hnone.trans ⟨?_, ?_⟩⟩
    · intro hdrop
      rw [hdrop, hsplit]
    · intro hall
      exact List.append_cancel_left (hall.trans hsplit.symm)

/-! ## Flushes -/

/-- A write is no flush. -/
theorem flushes_write (bytes : List UInt8) (sink : Sink) :
    (sink.write bytes).2.flushes = sink.flushes := by
  rw [write]
  split
  · rfl
  · dsimp only
    split
    · split <;> rfl
    · rfl

/-- Writing flushes nothing. -/
@[simp] theorem flushes_writeAll (bytes : List UInt8) (sink : Sink) :
    (sink.writeAll bytes).2.flushes = sink.flushes := by
  fun_induction writeAll bytes sink with
  | case1 sink => rfl
  | case2 bytes sink _ sink' hwrite ih => rw [ih, ← flushes_write bytes sink, hwrite]
  | case3 bytes sink _ fault sink' hwrite => rw [← flushes_write bytes sink, hwrite]
  | case4 bytes sink _ sink' hwrite => rw [← flushes_write bytes sink, hwrite]
  | case5 bytes sink _ count sink' hwrite _ ih => rw [ih, ← flushes_write bytes sink, hwrite]

end Sink

end DrumMachine
