import DrumMachine.Kit.Bank
import DrumMachine.Proofs.Catalog
import DrumMachine.Proofs.Text.Order
import Mathlib.Logic.Equiv.Basic

/-! # What banks hold

A bank takes its rate from the first sample it is given, even if that sample is not kept, and from
every name the last sample, at this rate (`Bank.get?_eq_some_iff_of_ofSamples`). So the order in
which samples are given makes no difference, apart from the first one and from those with the same
name (`Bank.ofSamples_of_isReordering`). And a bank made of what a bank holds is the same bank, with
nothing left to convert (`Bank.ofSamples_entries`). -/

namespace DrumMachine.Bank

open Catalog (IsLast IsReordering)

variable {given other : List (String × Sample)} {first : String × Sample} {bank : Bank}
  {name : String} {held : Sample}

/-- The bank of samples with a first one. -/
theorem ofSamples_of_head? (h : given.head? = some first) : ofSamples given =
    .ok ⟨.ofList (given.map fun entry => (entry.1, entry.2.resampled first.2.rate)),
      first.2.rate⟩ := by
  obtain ⟨rest, rfl⟩ := List.head?_eq_some_iff.mp h
  rfl

/-- There is no bank of no samples. -/
theorem ofSamples_eq_error_iff : ofSamples given = .error .noDrums ↔ given = [] := by
  cases given with
  | nil => exact iff_of_true rfl rfl
  | cons first rest => exact iff_of_false (fun h => by cases h) (List.cons_ne_nil _ _)

/-- What a bank is made from: the rate of the first sample, and the last one of each name resampled
to it. -/
theorem ofSamples_eq_ok_iff : ofSamples given = .ok bank ↔
    ∃ first, given.head? = some first ∧ bank.rate = first.2.rate ∧
      bank.samples = .ofList (given.map fun entry => (entry.1, entry.2.resampled bank.rate)) := by
  constructor
  · intro h
    cases given with
    | nil => cases h
    | cons first rest =>
      cases h
      exact ⟨first, rfl, rfl, rfl⟩
  · rintro ⟨first, hfirst, hrate, hsamples⟩
    rw [ofSamples_of_head? hfirst, ← hrate, ← hsamples]

/-- **A drum has the last sample given under its name**, at the rate of the bank. -/
theorem get?_eq_some_iff_of_ofSamples (h : ofSamples given = .ok bank) :
    bank.get? name = some held ↔
      ∃ sample, IsLast given name sample ∧ sample.resampled bank.rate = held := by
  obtain ⟨-, -, -, hsamples⟩ := ofSamples_eq_ok_iff.mp h
  rw [get?, hsamples, Catalog.get?_ofList_eq_some_iff,
    Catalog.isLast_map fun sample : Sample => sample.resampled bank.rate]

/-- A bank has the drums whose names are given. -/
theorem mem_names_iff_of_ofSamples (h : ofSamples given = .ok bank) :
    name ∈ bank.samples.names ↔ name ∈ given.map (·.1) := by
  obtain ⟨-, -, -, hsamples⟩ := ofSamples_eq_ok_iff.mp h
  rw [hsamples, Catalog.mem_names_ofList, List.map_map]
  rfl

/-- **All samples of a bank are at its rate**, even if it is zero or they had none. -/
theorem rate_of_mem_entries (h : ofSamples given = .ok bank) {entry : String × Sample}
    (hentry : entry ∈ bank.samples.entries) : entry.2.rate = bank.rate := by
  have hget : bank.get? entry.1 = some entry.2 := Catalog.get?_eq_some_iff.mpr hentry
  obtain ⟨sample, -, hsample⟩ := (get?_eq_some_iff_of_ofSamples h).mp hget
  rw [← hsample, Sample.rate_resampled]

/-- **The order in which samples are given makes no difference**, as long as the first one stays the
first and those with the same name keep theirs. -/
theorem ofSamples_of_isReordering (horder : IsReordering given other)
    (hfirst : other.head? = given.head?) (h : ofSamples given = .ok bank) :
    ofSamples other = .ok bank := by
  obtain ⟨first, hhead, hrate, hsamples⟩ := ofSamples_eq_ok_iff.mp h
  refine ofSamples_eq_ok_iff.mpr ⟨first, hfirst.trans hhead, hrate, ?_⟩
  rw [hsamples]
  refine Catalog.eq_of_forall_get?_eq fun name => Option.ext fun held => ?_
  simp only [Catalog.get?_ofList_eq_some_iff,
    Catalog.isLast_map fun sample : Sample => sample.resampled bank.rate,
    Catalog.isLast_iff_of_isReordering horder]

/-- **The bank of what a bank holds** is the same bank. -/
theorem ofSamples_entries (h : ofSamples given = .ok bank) :
    ofSamples bank.samples.entries = .ok bank := by
  have hsame : bank.samples.entries.map (fun entry => (entry.1, entry.2.resampled bank.rate)) =
      bank.samples.entries := by
    refine (List.map_congr_left fun entry hentry => ?_).trans (List.map_id _)
    rw [← rate_of_mem_entries h hentry, Sample.resampled_rate, id]
  -- there is a first entry, since there is a first sample
  obtain ⟨first, hfirst, -, -⟩ := ofSamples_eq_ok_iff.mp h
  have hname : first.1 ∈ bank.samples.names :=
    (mem_names_iff_of_ofSamples h).mpr (List.mem_map_of_mem (List.mem_of_mem_head? hfirst))
  obtain ⟨entry, hentry, -⟩ := List.mem_map.mp hname
  obtain ⟨head, rest, hentries⟩ := List.exists_cons_of_ne_nil (List.ne_nil_of_mem hentry)
  have hhead : bank.samples.entries.head? = some head :=
    List.head?_eq_some_iff.mpr ⟨rest, hentries⟩
  refine ofSamples_eq_ok_iff.mpr ⟨head, hhead, ?_, ?_⟩
  · exact (rate_of_mem_entries h (List.mem_of_mem_head? hhead)).symm
  · rw [hsame]
    exact Catalog.ext (Catalog.entries_ofList bank.samples.increasing).symm

/-- Drums are in the order of the bytes of their names. -/
theorem pairwise_encode_names (bank : Bank) :
    bank.samples.names.Pairwise fun a b => Text.Utf8.encode a < Text.Utf8.encode b :=
  List.pairwise_map.mpr (bank.samples.increasing.imp Text.Utf8.lt_iff_encode_lt.mp)

/-- **What the bank of named samples is.** Only of no samples there is none. Otherwise its rate is
that of the first sample, its drums are the given names, in the order of their bytes, and each has
the last sample given under its name, at the rate of the bank. Every reordering that leaves the
first sample where it is, and the samples of each name in their order, makes up the same bank. So do
the bank's own entries, all of which keep their frames then. -/
theorem ofSamples_keeps_last (given : List (String × Sample)) :
    (ofSamples given = .error .noDrums ↔ given = []) ∧
    ∀ first rest, given = first :: rest → ∃ bank, ofSamples given = .ok bank ∧
      bank.rate = first.2.rate ∧
      bank.samples.names.Pairwise (fun a b => Text.Utf8.encode a < Text.Utf8.encode b) ∧
      (∀ name, name ∈ bank.samples.names ↔ name ∈ given.map (·.1)) ∧
      (∀ name held, bank.get? name = some held ↔
        ∃ sample, IsLast given name sample ∧ sample.resampled bank.rate = held) ∧
      (∀ entry ∈ bank.samples.entries, entry.2.rate = bank.rate) ∧
      (∀ other, IsReordering given other → other.head? = given.head? →
        ofSamples other = .ok bank) ∧
      ofSamples bank.samples.entries = .ok bank ∧
      ∀ entry ∈ bank.samples.entries, entry.2.keepsFrames bank.rate := by
  refine ⟨ofSamples_eq_error_iff, ?_⟩
  rintro first rest rfl
  obtain ⟨bank, hbank⟩ : ∃ bank, ofSamples (first :: rest) = .ok bank := ⟨_, rfl⟩
  have hrate : bank.rate = first.2.rate := by
    cases hbank
    rfl
  refine ⟨bank, hbank, hrate, pairwise_encode_names bank,
    fun _ => mem_names_iff_of_ofSamples hbank, fun _ _ => get?_eq_some_iff_of_ofSamples hbank,
    fun _ hentry => rate_of_mem_entries hbank hentry,
    fun _ horder hfirst => ofSamples_of_isReordering horder hfirst hbank,
    ofSamples_entries hbank, fun entry hentry => ?_⟩
  rw [Sample.keepsFrames, rate_of_mem_entries hbank hentry]
  simp

/-- Of three samples the last one replaces the first, which has given the bank its rate, and comes
out twice as long. A sample without a rate stays as it is. The last two may change places. -/
theorem ofSamples_keeps_last_of_three : ∃ bank,
    ofSamples [("SD", ⟨[0.5, 0.25], 44100⟩), ("BD", ⟨[1], 0⟩), ("SD", ⟨[0.125, 0.5], 22050⟩)] =
      .ok bank ∧
    bank.rate = 44100 ∧ (bank.get? "SD").map (·.length) = some 4 ∧
    bank.get? "BD" = some ⟨[1], 44100⟩ ∧
    ofSamples [("SD", ⟨[0.5, 0.25], 44100⟩), ("SD", ⟨[0.125, 0.5], 22050⟩), ("BD", ⟨[1], 0⟩)] =
      .ok bank := by
  obtain ⟨-, hcons⟩ := ofSamples_keeps_last
    [("SD", ⟨[0.5, 0.25], 44100⟩), ("BD", ⟨[1], 0⟩), ("SD", ⟨[0.125, 0.5], 22050⟩)]
  obtain ⟨bank, hbank, hrate, -, -, hget, -, horder, -, -⟩ := hcons _ _ rfl
  have hsnare := (hget "SD" _).mpr ⟨_, ⟨2, rfl, by decide⟩, rfl⟩
  have hbass := (hget "BD" _).mpr ⟨_, ⟨1, rfl, by decide⟩, rfl⟩
  refine ⟨bank, hbank, hrate, ?_, ?_, horder _ ⟨Equiv.swap 1 2, ?_, ?_⟩ rfl⟩
  · rw [hsnare, hrate]
    decide +kernel
  · rw [hbass, hrate]
    rfl
  · intro i
    match i with
    | 0 | 1 | 2 => rfl
  · decide

end DrumMachine.Bank
