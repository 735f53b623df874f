import DrumMachine.Yaml.Node

/-! # Documents

Nodes are numbered in the order in which they start. An anchor gets the number of different names
that anchors had before it, so that two anchors share a number where a name was used again; what
that number stands for is then the node that started last. An alias stands for the number that its
name had when it was written, and has to follow an anchor of that name. -/

namespace DrumMachine.Yaml

/-- A node whose aliases are numbers of anchors. -/
abbrev Linked := Node Nat

/-- **What is known of anchors** while nodes are walked through in order. -/
structure Anchors where
  /-- The names so far and the number each has now. -/
  numbers : List (String × Nat) := []
  /-- The nodes that started with an anchor: its number and the place of the node, last first. -/
  starts : List (Nat × Nat) := []
  /-- How many nodes have started. -/
  place : Nat := 0
  deriving Repr

namespace Anchors

/-- Starts a node. -/
def start (anchors : Anchors) (anchor : Option String) : Anchors :=
  match anchor with
  | none => { anchors with place := anchors.place + 1 }
  | some name =>
    -- a name that is used again does not add to the names, so its number may be taken twice
    let number := anchors.numbers.length
    { numbers := (name, number) :: anchors.numbers.filter (·.1 != name)
      starts := (number, anchors.place) :: anchors.starts
      place := anchors.place + 1 }

end Anchors

namespace Node

mutual

/-- Replaces the names of aliases by numbers. -/
def link : Written → Anchors → Option (Linked × Anchors)
  | .scalar anchor tag style text, anchors =>
    some (.scalar anchor tag style text, anchors.start anchor)
  | .sequence anchor items, anchors =>
    match linkItems items (anchors.start anchor) with
    | none => none
    | some (items, anchors) => some (.sequence anchor items, anchors)
  | .mapping anchor entries, anchors =>
    match linkEntries entries (anchors.start anchor) with
    | none => none
    | some (entries, anchors) => some (.mapping anchor entries, anchors)
  | .alias name, anchors =>
    match anchors.numbers.lookup name with
    | none => none
    | some number => some (.alias number, anchors.start none)

/-- Replaces the names of aliases in items. -/
def linkItems : List Written → Anchors → Option (List Linked × Anchors)
  | [], anchors => some ([], anchors)
  | item :: items, anchors =>
    match link item anchors with
    | none => none
    | some (item, anchors) =>
      match linkItems items anchors with
      | none => none
      | some (items, anchors) => some (item :: items, anchors)

/-- Replaces the names of aliases in entries. -/
def linkEntries : List (Written × Written) → Anchors → Option (List (Linked × Linked) × Anchors)
  | [], anchors => some ([], anchors)
  | (key, value) :: entries, anchors =>
    match link key anchors with
    | none => none
    | some (key, anchors) =>
      match link value anchors with
      | none => none
      | some (value, anchors) =>
        match linkEntries entries anchors with
        | none => none
        | some (entries, anchors) => some ((key, value) :: entries, anchors)

end

mutual

/-- A node and all nodes in it, in the order in which they start. -/
def all {ρ : Type} : Node ρ → List (Node ρ)
  | .scalar anchor tag style text => [.scalar anchor tag style text]
  | .sequence anchor items => .sequence anchor items :: allItems items
  | .mapping anchor entries => .mapping anchor entries :: allEntries entries
  | .alias target => [.alias target]

/-- All nodes in items. -/
def allItems {ρ : Type} : List (Node ρ) → List (Node ρ)
  | [] => []
  | item :: items => all item ++ allItems items

/-- All nodes in entries. -/
def allEntries {ρ : Type} : List (Node ρ × Node ρ) → List (Node ρ)
  | [] => []
  | (key, value) :: entries => all key ++ (all value ++ allEntries entries)

end

end Node

/-- **A document**: its root, and where the nodes with anchors are. -/
structure Document where
  root : Linked
  /-- The numbers of anchors and the places of their nodes, last one first. -/
  starts : List (Nat × Nat) := []

namespace Document

/-- The document of a tree, if its aliases follow anchors of their names. -/
def ofNode? (root : Written) : Option Document :=
  (root.link {}).map fun (root, anchors) => ⟨root, anchors.starts⟩

/-- **The node that a node stands for**: itself, or the target of an alias. -/
def target? (document : Document) : Linked → Option Linked
  | .alias number =>
    match document.starts.lookup number with
    | none => none
    | some place => document.root.all[place]?
  | node => some node

/-- **The text of a scalar.** -/
def text? (document : Document) (node : Linked) : Option String :=
  match document.target? node with
  | some (.scalar _ _ _ text) => some text
  | _ => none

/-- **The entries of a mapping.** An empty plain scalar is a mapping without entries. -/
def entries? (document : Document) (node : Linked) : Option (List (Linked × Linked)) :=
  match document.target? node with
  | some (.mapping _ entries) => some entries
  | some (.scalar _ _ .plain "") => some []
  | _ => none

/-- The entries of a mapping, whose keys have to be scalars. -/
def fields? (document : Document) (node : Linked) : Option (List (String × Linked)) := do
  let entries ← document.entries? node
  entries.mapM fun (key, value) => do
    let name ← document.text? key
    pure (name, value)

/-- **Reads a text**: its document, none if there is nothing in it, or no answer if it is
ill-formed. -/
def ofText? (text : String) : Option (Option Document) := do
  let layout ← Layout.ofText? text
  let tokens ← Token.ofLayout? layout
  match ← Node.document? tokens with
  | none => pure none
  | some root => some <$> ofNode? root

end Document

end DrumMachine.Yaml
