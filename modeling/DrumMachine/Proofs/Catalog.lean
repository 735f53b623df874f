import DrumMachine.Catalog
import Mathlib.Data.List.Nodup
import Mathlib.Logic.Equiv.Defs
import Mathlib.Order.Fin.Basic

/-! # What catalogs hold

The names of a catalog are all different, so its entries and what is found under its names say the
same (`get?_eq_some_iff`), and what is found settles the catalog (`eq_of_forall_get?_eq`). Entries
that are in order already are the catalog that is made of them (`entries_ofList`). In the catalog of
any list of named values each name has the last value given under it (`get?_ofList_eq_some_iff`). So
only the order of values with the same name makes a difference (`isLast_iff_of_isReordering`). -/

namespace DrumMachine.Catalog

variable {α β : Type} {catalog : Catalog α} {entries : List (String × α)} {name : String}
  {value : α}

/-- No name stands twice in a catalog. -/
theorem nodup_names (catalog : Catalog α) : catalog.names.Nodup := by
  refine List.pairwise_map.mpr (catalog.increasing.imp ?_)
  intro a b hlt heq
  exact String.lt_irrefl _ (heq ▸ hlt)

/-- **What is found under a name is what is entered for it.** -/
theorem get?_eq_some_iff : catalog.get? name = some value ↔ (name, value) ∈ catalog.entries := by
  rw [get?, Option.map_eq_some_iff]
  constructor
  · rintro ⟨⟨other, held⟩, hfound, rfl⟩
    obtain rfl : other = name := by simpa using List.find?_some hfound
    exact List.mem_of_find?_eq_some hfound
  · intro h
    cases hfound : catalog.entries.find? (·.1 == name) with
    | none => exact False.elim (List.find?_eq_none.mp hfound _ h (by simp))
    | some entry =>
      have hname : entry.1 = name := by simpa using List.find?_some hfound
      have hentry : entry = (name, value) :=
        List.inj_on_of_nodup_map catalog.nodup_names (List.mem_of_find?_eq_some hfound) h hname
      exact ⟨entry, rfl, congrArg Prod.snd hentry⟩

/-- A name that comes last is entered last. -/
theorem insertEntry_of_forall_lt (h : ∀ entry ∈ entries, entry.1 < name) :
    insertEntry name value entries = entries ++ [(name, value)] := by
  induction entries with
  | nil => rfl
  | cons entry rest ih =>
    have hlt : entry.1 < name := h _ List.mem_cons_self
    have hne : name ≠ entry.1 := fun heq => String.lt_irrefl _ (heq ▸ hlt)
    rw [insertEntry, if_neg (String.lt_asymm hlt), if_neg hne,
      ih fun e he => h e (List.mem_cons_of_mem _ he), List.cons_append]

/-- **Entries in order make up their catalog.** -/
theorem entries_ofList (h : Increasing entries) : (ofList entries).entries = entries := by
  -- more entries are put in behind those that are there
  have hfold : ∀ (catalog : Catalog α) (more : List (String × α)),
      Increasing (catalog.entries ++ more) →
      (more.foldl (fun catalog entry => catalog.insert entry.1 entry.2) catalog).entries =
        catalog.entries ++ more := by
    intro catalog more hmore
    induction more generalizing catalog with
    | nil => simp
    | cons entry more ih =>
      have hlt : ∀ e ∈ catalog.entries, e.1 < entry.1 := fun e he =>
        (List.pairwise_append.mp hmore).2.2 e he entry List.mem_cons_self
      have hentries : (catalog.insert entry.1 entry.2).entries = catalog.entries ++ [entry] :=
        insertEntry_of_forall_lt hlt
      rw [List.foldl_cons, ih, hentries, List.append_assoc, List.singleton_append]
      rwa [hentries, List.append_assoc, List.singleton_append]
  exact hfold empty entries h

/-! ## What is found settles a catalog -/

/-- A catalog has the names under which something is found. -/
theorem mem_names_iff : name ∈ catalog.names ↔ ∃ value, catalog.get? name = some value := by
  simp only [names, List.mem_map, get?_eq_some_iff]
  constructor
  · rintro ⟨⟨_, value⟩, hmem, rfl⟩
    exact ⟨value, hmem⟩
  · rintro ⟨value, hmem⟩
    exact ⟨(name, value), hmem, rfl⟩

/-- **Catalogs in which the same is found are the same.** -/
theorem eq_of_forall_get?_eq {c d : Catalog α} (h : ∀ name, c.get? name = d.get? name) : c = d := by
  have hmem : ∀ entry, entry ∈ c.entries ↔ entry ∈ d.entries := by
    rintro ⟨name, value⟩
    rw [← get?_eq_some_iff, ← get?_eq_some_iff, h]
  have hperm : c.entries.Perm d.entries :=
    (List.perm_ext_iff_of_nodup (.of_map _ c.nodup_names) (.of_map _ d.nodup_names)).mpr hmem
  -- the order of the names leaves no choice between the two
  refine Catalog.ext (hperm.eq_of_pairwise ?_ c.increasing d.increasing)
  intro a b _ _ hab hba
  exact absurd hba (String.lt_asymm hab)

/-! ## The catalog of a list -/

variable {given other : List (String × α)}

/-- **The last value given under a name**: it is given at a place behind which there is no other for
this name. -/
def IsLast (given : List (String × α)) (name : String) (value : α) : Prop :=
  ∃ i : Fin given.length, given[i] = (name, value) ∧ ∀ j, i < j → given[j].1 ≠ name

/-- Where nothing is given there is no last value. -/
theorem not_isLast_nil : ¬ IsLast [] name value := fun ⟨i, _⟩ => i.elim0

/-- The first value is the last one of its name if the name is not given again. -/
theorem isLast_cons {entry : String × α} {rest : List (String × α)} :
    IsLast (entry :: rest) name value ↔
      IsLast rest name value ∨ name ∉ rest.map (·.1) ∧ entry = (name, value) := by
  have hnew : name ∉ rest.map (·.1) ↔ ∀ j : Fin rest.length, rest[j].1 ≠ name := by
    rw [List.mem_map, not_exists]
    constructor
    · exact fun h j hj => h _ ⟨List.getElem_mem _, hj⟩
    · rintro h entry ⟨hmem, hname⟩
      obtain ⟨j, hj, rfl⟩ := List.getElem_of_mem hmem
      exact h ⟨j, hj⟩ hname
  rw [hnew]
  -- the first entry is split off, so that a place in the rest is one less
  constructor
  · rintro ⟨i, hi, hlast⟩
    cases i using Fin.cases with
    | zero => exact .inr ⟨fun j => hlast j.succ (Fin.succ_pos j), hi⟩
    | succ i => exact .inl ⟨i, hi, fun j hj => hlast j.succ (Fin.succ_lt_succ_iff.mpr hj)⟩
  · rintro (⟨i, hi, hlast⟩ | ⟨hlast, rfl⟩)
    · refine ⟨i.succ, hi, fun j hj => ?_⟩
      cases j using Fin.cases with
      | zero => exact absurd hj (Fin.not_lt_zero _)
      | succ j => exact hlast j (Fin.succ_lt_succ_iff.mp hj)
    · refine ⟨0, rfl, fun j hj => ?_⟩
      cases j using Fin.cases with
      | zero => exact absurd hj (Fin.lt_irrefl _)
      | succ j => exact hlast j

/-- A name that is given has a last value. -/
theorem exists_isLast_iff : (∃ value, IsLast given name value) ↔ name ∈ given.map (·.1) := by
  induction given with
  | nil => simp [not_isLast_nil]
  | cons entry rest ih =>
    simp only [isLast_cons, exists_or, ih, List.map_cons, List.mem_cons]
    by_cases hmem : name ∈ rest.map (·.1)
    · simp [hmem]
    · simp [hmem, Prod.ext_iff, eq_comm]

/-- **Each name has the last value given under it.** -/
theorem get?_ofList_eq_some_iff :
    (ofList given).get? name = some value ↔ IsLast given name value := by
  -- a name that the list does not give keeps the value that it had before
  have hfold : ∀ catalog : Catalog α,
      (given.foldl (fun catalog entry => catalog.insert entry.1 entry.2) catalog).get? name =
          some value ↔
        IsLast given name value ∨ name ∉ given.map (·.1) ∧ catalog.get? name = some value := by
    induction given with
    | nil => simp [not_isLast_nil]
    | cons entry rest ih =>
      intro catalog
      rw [List.foldl_cons, ih, isLast_cons, or_assoc, List.map_cons, List.mem_cons, not_or]
      refine or_congr_right ?_
      by_cases hname : entry.1 = name
      · subst hname
        simp [Prod.ext_iff]
      · simp [get?_insert_of_ne hname, Prod.ext_iff, hname, Ne.symm hname]
  rw [ofList, hfold, get?_empty]
  simp

/-- The catalog of a list has the names of the list. -/
theorem mem_names_ofList : name ∈ (ofList given).names ↔ name ∈ given.map (·.1) := by
  simp only [mem_names_iff, get?_ofList_eq_some_iff, exists_isLast_iff]

/-- Where only the values are changed, the last ones stay the last ones. -/
theorem isLast_map (f : α → β) {value : β} :
    IsLast (given.map fun entry => (entry.1, f entry.2)) name value ↔
      ∃ original, IsLast given name original ∧ f original = value := by
  induction given with
  | nil => simp [not_isLast_nil]
  | cons entry rest ih =>
    have hnames : (rest.map fun entry => (entry.1, f entry.2)).map (·.1) = rest.map (·.1) := by
      rw [List.map_map]
      rfl
    rw [List.map_cons, isLast_cons, ih, hnames]
    simp only [isLast_cons, or_and_right, exists_or, Prod.ext_iff]
    -- only what is said of the first entry is left to compare
    refine or_congr_right ?_
    constructor
    · rintro ⟨hnew, rfl, rfl⟩
      exact ⟨entry.2, ⟨hnew, rfl, rfl⟩, rfl⟩
    · rintro ⟨_, ⟨hnew, rfl, rfl⟩, rfl⟩
      exact ⟨hnew, rfl, rfl⟩

/-! ## Reorderings -/

/-- **A reordering that keeps the order under each name**: each value of `other` has a place of its
own in `given`, and those with the same name have theirs in the same order. -/
def IsReordering (given other : List (String × α)) : Prop :=
  ∃ place : Fin other.length ≃ Fin given.length, (∀ i, given[place i] = other[i]) ∧
    ∀ i j, i < j → other[i].1 = other[j].1 → place i < place j

/-- A reordering can be undone, which keeps the order under each name too. -/
theorem IsReordering.symm (h : IsReordering given other) : IsReordering other given := by
  obtain ⟨place, hplace, horder⟩ := h
  have hback : ∀ i, other[place.symm i] = given[i] := by
    intro i
    simp only [← hplace, Equiv.apply_symm_apply]
  refine ⟨place.symm, hback, fun i j hij hname => ?_⟩
  rw [← hback, ← hback] at hname
  -- in any other order the two would have changed places
  rcases lt_trichotomy (place.symm i) (place.symm j) with hlt | heq | hgt
  · exact hlt
  · exact absurd (place.symm.injective heq) hij.ne
  · have hji := horder _ _ hgt hname.symm
    rw [Equiv.apply_symm_apply, Equiv.apply_symm_apply] at hji
    exact absurd hji hij.not_gt

/-- A reordering has the same last values. -/
theorem IsLast.of_isReordering (h : IsReordering given other) (hlast : IsLast other name value) :
    IsLast given name value := by
  obtain ⟨place, hplace, horder⟩ := h
  obtain ⟨i, hi, hlast⟩ := hlast
  refine ⟨place i, (hplace i).trans hi, fun j hj hname => ?_⟩
  obtain ⟨k, rfl⟩ := place.surjective j
  rw [hplace] at hname
  have hsame : other[k].1 = other[i].1 := by rw [hname, hi]
  rcases lt_trichotomy i k with hlt | rfl | hgt
  · exact hlast k hlt hname
  · exact lt_irrefl _ hj
  · exact lt_asymm hj (horder k i hgt hsame)

/-- **The last value under a name stays the last one** in such a reordering. -/
theorem isLast_iff_of_isReordering (h : IsReordering given other) :
    IsLast other name value ↔ IsLast given name value :=
  ⟨.of_isReordering h, .of_isReordering h.symm⟩

end DrumMachine.Catalog
