/-! # Catalogs

A catalog holds one value under each of its names, in increasing order of the names. Names are
compared character by character, which is also the order of their UTF-8 bytes. -/

namespace DrumMachine

/-- Names in strictly increasing order. -/
abbrev Increasing {α : Type} (entries : List (String × α)) : Prop :=
  entries.Pairwise fun a b => a.1 < b.1

/-- **A catalog**: values under names, in increasing order of the names. -/
structure Catalog (α : Type) where
  entries : List (String × α)
  increasing : Increasing entries

namespace Catalog

variable {α β : Type}

/-- A catalog is settled by its entries. -/
@[ext] theorem ext {c d : Catalog α} (h : c.entries = d.entries) : c = d := by
  cases c; cases d; cases h; rfl

instance [DecidableEq α] : DecidableEq (Catalog α) := fun c d =>
  decidable_of_iff (c.entries = d.entries) ⟨ext, fun h => h ▸ rfl⟩

/-- The catalog that holds nothing. -/
def empty : Catalog α := ⟨[], .nil⟩

/-- Puts a value under a name into increasing entries, in place of what the name held. -/
def insertEntry (name : String) (value : α) : List (String × α) → List (String × α)
  | [] => [(name, value)]
  | (other, held) :: rest =>
    if name < other then (name, value) :: (other, held) :: rest
    else if name = other then (name, value) :: rest
    else (other, held) :: insertEntry name value rest

/-- Putting a value in adds at most its own entry. -/
theorem mem_or_eq_of_mem_insertEntry {name : String} {value : α} {entries : List (String × α)}
    {e : String × α} (h : e ∈ insertEntry name value entries) :
    e = (name, value) ∨ e ∈ entries := by
  fun_induction insertEntry name value entries with
  | case1 => exact .inl (List.mem_singleton.1 h)
  | case2 other held rest _ => exact List.mem_cons.1 h
  | case3 held rest _ => exact (List.mem_cons.1 h).imp_right (List.mem_cons_of_mem _)
  | case4 other held rest _ _ ih =>
    rcases List.mem_cons.1 h with rfl | h
    · exact .inr List.mem_cons_self
    · exact (ih h).imp_right (List.mem_cons_of_mem _)

/-- Putting a value in keeps the order of the names. -/
theorem increasing_insertEntry (name : String) (value : α) {entries : List (String × α)}
    (h : Increasing entries) : Increasing (insertEntry name value entries) := by
  -- on the entries before the new one; it comes before those that are left
  fun_induction insertEntry name value entries with
  | case1 => simp
  | case2 other held rest hlt =>
    refine List.pairwise_cons.2 ⟨fun e he => ?_, h⟩
    rcases List.mem_cons.1 he with rfl | he
    · exact hlt
    · exact String.lt_trans hlt ((List.pairwise_cons.1 h).1 e he)
  | case3 held rest _ => exact List.pairwise_cons.2 (List.pairwise_cons.1 h)
  | case4 other held rest hlt hne ih =>
    obtain ⟨hall, hrest⟩ := List.pairwise_cons.1 h
    refine List.pairwise_cons.2 ⟨fun e he => ?_, ih hrest⟩
    rcases mem_or_eq_of_mem_insertEntry he with rfl | he
    · exact Decidable.byContradiction fun hn =>
        hne (String.le_antisymm (String.not_lt.1 hn) (String.not_lt.1 hlt))
    · exact hall e he

/-- **Puts a value under a name**, in place of what the name held. -/
def insert (name : String) (value : α) (catalog : Catalog α) : Catalog α :=
  ⟨insertEntry name value catalog.entries, increasing_insertEntry name value catalog.increasing⟩

/-- The catalog of a list of named values; of values with the same name the last one counts. -/
def ofList (named : List (String × α)) : Catalog α :=
  named.foldl (fun catalog entry => catalog.insert entry.1 entry.2) empty

/-- The value under a name, if there is one. -/
def get? (name : String) (catalog : Catalog α) : Option α :=
  (catalog.entries.find? (·.1 == name)).map (·.2)

/-- The names of a catalog, in increasing order. -/
def names (catalog : Catalog α) : List String := catalog.entries.map (·.1)

/-- Whether a catalog holds nothing. -/
def isEmpty (catalog : Catalog α) : Bool := catalog.entries.isEmpty

/-- What is found in entries after a value was put in: this value under its own name, and what was
there under every other name. -/
theorem find?_insertEntry (name other : String) (value : α) (entries : List (String × α)) :
    ((insertEntry name value entries).find? (·.1 == other)).map (·.2) =
      if name = other then some value else (entries.find? (·.1 == other)).map (·.2) := by
  fun_induction insertEntry name value entries with
  | case1 => by_cases h : name = other <;> simp [h]
  | case2 first held rest _ => by_cases h : name = other <;> simp [h]
  | case3 held rest _ => by_cases h : name = other <;> simp [h]
  | case4 first held rest _ hne ih =>
    by_cases h : first = other
    · -- the other name comes first, so it is not the one put in
      subst h
      simp [hne]
    · simp [h, ih]

/-- There is nothing in an empty catalog. -/
@[simp] theorem get?_empty (name : String) : (empty : Catalog α).get? name = none := rfl

/-- A value that was just put in is found. -/
@[simp] theorem get?_insert_self (name : String) (value : α) (catalog : Catalog α) :
    (catalog.insert name value).get? name = some value := by
  simp [get?, insert, find?_insertEntry]

/-- Putting a value in leaves those under other names as they are. -/
theorem get?_insert_of_ne {name other : String} (h : name ≠ other) (value : α)
    (catalog : Catalog α) : (catalog.insert name value).get? other = catalog.get? other := by
  simp [get?, insert, find?_insertEntry, h]

end Catalog

end DrumMachine
