/-! # Values and tables of TOML

A document is a table. Tables come about in four ways, and that decides what may be added to them
later: by a header, by a longer header that leads through them, by a dotted key, or as a value in
braces. `Entries.at?` goes along a path of names to a table, creating those that are missing;
`Entries.addPair?` adds a value under a dotted key. -/

namespace DrumMachine.Toml

/-- **How a table came about.** -/
inductive Origin where
  /-- By a header of its own. The document itself counts as such. -/
  | header
  /-- By a header that leads through it. -/
  | implied
  /-- By a dotted key that leads through it. -/
  | dotted
  /-- As a value in braces. -/
  | braces
  deriving DecidableEq, Repr

/-- Whether a table was only passed through. -/
def Origin.isImplicit : Origin → Bool
  | implied | dotted => true
  | header | braces => false

/-- **A value.** -/
inductive Value where
  | string (text : String)
  | integer (n : Int)
  | float
  | boolean (flag : Bool)
  /-- A date, a time or both, in the form in which they are written. -/
  | dateTime (text : String)
  | array (items : List Value)
  | table (origin : Origin) (entries : List (String × Value))
  /-- Tables that were added one by one, each by a header of its own. -/
  | tables (items : List (List (String × Value)))

/-- **The entries of a table.** -/
abbrev Entries := List (String × Value)

namespace Entries

/-- Replaces the value under a name, or adds it. -/
def put (name : String) (value : Value) : Entries → Entries
  | [] => [(name, value)]
  | (other, held) :: rest =>
    if other == name then (name, value) :: rest else (other, held) :: put name value rest

/-- **Changes the table at the end of a path.** A header may lead through any table that is no
value in braces, a dotted key only through tables that were themselves only passed through; both
lead through the last one of tables added one by one. -/
def at? (byKey : Bool) (change? : Origin → Entries → Option Entries) :
    (path : List String) → Origin → Entries → Option Entries
  | [], origin, entries => change? origin entries
  | name :: path, _, entries =>
    match entries.lookup name with
    | none =>
      let origin := if byKey then .dotted else .implied
      (at? byKey change? path origin []).map fun inner => put name (.table origin inner) entries
    | some (.table origin inner) =>
      if origin = .braces || (byKey && !origin.isImplicit) then none
      else (at? byKey change? path origin inner).map fun inner =>
        put name (.table origin inner) entries
    | some (.tables items) =>
      match items.getLast? with
      | none => none
      | some last =>
        (at? byKey change? path .header last).map fun last =>
          put name (.tables (items.dropLast ++ [last])) entries
    | some _ => none

/-- **Adds a value under a dotted key**, whose last part is `name`. The name must be new, and the
table that takes it must be the first one or come from a dotted key. -/
def addPair? (path : List String) (name : String) (value : Value) (origin : Origin)
    (entries : Entries) : Option Entries :=
  at? true (fun origin entries =>
    if (origin == .dotted) == path.isEmpty || (entries.lookup name).isSome then none
    else some (entries ++ [(name, value)])) path origin entries

/-- Adds the table of a header: a new one, or one that only a longer header led through so far. -/
def addTable? (path : List String) (name : String) (root : Entries) : Option Entries :=
  at? false (fun _ entries =>
    match entries.lookup name with
    | none => some (entries ++ [(name, .table .header [])])
    | some (.table .implied inner) => some (put name (.table .header inner) entries)
    | some _ => none) path .header root

/-- Adds a further table to those added one by one under a name. -/
def addFurther? (path : List String) (name : String) (root : Entries) : Option Entries :=
  at? false (fun _ entries =>
    match entries.lookup name with
    | none => some (entries ++ [(name, .tables [[]])])
    | some (.tables items) => some (put name (.tables (items ++ [[]])) entries)
    | some _ => none) path .header root

end Entries

end DrumMachine.Toml
