import DrumMachine.Yaml.Token

/-! # Nodes

The tokens of a document make a tree of scalars, sequences, mappings and aliases. What is left out,
such as the value of a key, is an empty plain scalar. `Node.document?` reads the only document of a
text; where there are several, it has no answer.

Every function on tokens takes a bound on the depth of its recursion; a bound of four for each
token is always enough. -/

namespace DrumMachine.Yaml

/-- **A node of a document**, whose aliases have targets of type `ρ`. -/
inductive Node (ρ : Type) where
  | scalar (anchor : Option String) (tag : Option String) (style : Style) (text : String)
  | sequence (anchor : Option String) (items : List (Node ρ))
  | mapping (anchor : Option String) (entries : List (Node ρ × Node ρ))
  | alias (target : ρ)

/-- A node as written: an alias has a name. -/
abbrev Written := Node String

/-- What is written before the content of a node. -/
structure Properties where
  anchor : Option String
  /-- The full text of the tag. -/
  tag : Option String
  deriving DecidableEq, Repr

namespace Node

/-- An empty plain scalar. -/
def empty {ρ : Type} : Node ρ := .scalar none none .plain ""

/-- A node without content, which has properties. -/
def hollow {ρ : Type} (properties : Properties) : Node ρ :=
  .scalar properties.anchor properties.tag .plain ""

/-- A scalar with properties. A tag that is a lone exclamation mark says nothing. -/
def ofScalar {ρ : Type} (properties : Properties) (style : Style) (text : String) : Node ρ :=
  .scalar properties.anchor (if properties.tag == some "!" then none else properties.tag) style text

/-- Reads an anchor, if there is one. -/
def anchor? : List Token → Option String × List Token
  | .anchor name :: rest => (some name, rest)
  | tokens => (none, tokens)

/-- Reads a tag, if there is one. -/
def tag? : List Token → Option Tag × List Token
  | .tag tag :: rest => (some tag, rest)
  | tokens => (none, tokens)

/-- The full text of a tag, if there is a tag. It is an error if its handle stands for nothing. -/
def resolved? (handles : List (String × String)) : Option Tag → Option (Option String)
  | none => some none
  | some tag => (tag.resolve? handles).map some

/-- Reads an anchor and a tag, in either order. -/
def properties? (handles : List (String × String)) (tokens : List Token) :
    Option (Properties × List Token) :=
  match anchor? tokens with
  | (some anchor, tokens) =>
    match tag? tokens with
    | (tag, tokens) => (resolved? handles tag).map fun tag => (⟨some anchor, tag⟩, tokens)
  | (none, tokens) =>
    match tag? tokens with
    | (none, tokens) => some (⟨none, none⟩, tokens)
    | (tag, tokens) =>
      match anchor? tokens with
      | (anchor, tokens) => (resolved? handles tag).map fun tag => (⟨anchor, tag⟩, tokens)

/-- Whether one of `marks` comes next. -/
def comes (marks : List Token) (tokens : List Token) : Bool :=
  match tokens with
  | [] => false
  | token :: _ => marks.contains token

/-- Where a node stands. -/
inductive Position where
  | inFlow
  /-- In a block collection or at the top. -/
  | inBlock
  /-- A key or a value of a block mapping, where a block sequence need not be indented. -/
  | inMapping
  deriving DecidableEq, Repr

mutual

/-- Reads a node. -/
def node (handles : List (String × String)) : (fuel : Nat) → Position → List Token →
    Option (Written × List Token)
  | 0, _, _ => none
  | fuel + 1, position, tokens =>
    match tokens with
    | .alias name :: rest => some (.alias name, rest)
    | _ =>
      match properties? handles tokens with
      | none => none
      | some (properties, tokens) =>
        match tokens with
        | .scalar style text :: rest => some (ofScalar properties style text, rest)
        | .flowSequenceStart :: rest =>
          (flowItems handles fuel true rest).map fun (items, rest) =>
            (.sequence properties.anchor items, rest)
        | .flowMappingStart :: rest =>
          (flowEntries handles fuel true rest).map fun (entries, rest) =>
            (.mapping properties.anchor entries, rest)
        | .blockEntry :: _ =>
          if position = .inMapping then
            (looseItems handles fuel tokens).map fun (items, rest) =>
              (.sequence properties.anchor items, rest)
          else hollow? properties tokens
        | .sequenceStart :: rest =>
          if position = .inFlow then hollow? properties tokens
          else
            (blockItems handles fuel rest).map fun (items, rest) =>
              (.sequence properties.anchor items, rest)
        | .mappingStart :: rest =>
          if position = .inFlow then hollow? properties tokens
          else
            (blockEntries handles fuel rest).map fun (entries, rest) =>
              (.mapping properties.anchor entries, rest)
        | _ => hollow? properties tokens
where
  /-- A node without content, if it has properties. -/
  hollow? (properties : Properties) (tokens : List Token) : Option (Written × List Token) :=
    if properties.anchor.isSome || properties.tag.isSome then some (hollow properties, tokens)
    else none

/-- Reads a node, or an empty one if one of `marks` comes next. -/
def nodeUnless (handles : List (String × String)) (marks : List Token) :
    (fuel : Nat) → Position → List Token → Option (Written × List Token)
  | 0, _, _ => none
  | fuel + 1, position, tokens =>
    if comes marks tokens then some (empty, tokens) else node handles fuel position tokens

/-- Reads the items of an indented block sequence and its end. -/
def blockItems (handles : List (String × String)) : (fuel : Nat) → List Token →
    Option (List Written × List Token)
  | 0, _ => none
  | fuel + 1, tokens =>
    match tokens with
    | .blockEntry :: rest =>
      match nodeUnless handles [.blockEntry, .blockEnd] fuel .inBlock rest with
      | none => none
      | some (item, rest) =>
        (blockItems handles fuel rest).map fun (items, rest) => (item :: items, rest)
    | .blockEnd :: rest => some ([], rest)
    | _ => none

/-- Reads the items of a block sequence that is not indented; it ends where none follows. -/
def looseItems (handles : List (String × String)) : (fuel : Nat) → List Token →
    Option (List Written × List Token)
  | 0, _ => none
  | fuel + 1, tokens =>
    match tokens with
    | .blockEntry :: rest =>
      match nodeUnless handles [.blockEntry, .key, .value, .blockEnd] fuel .inBlock rest with
      | none => none
      | some (item, rest) =>
        (looseItems handles fuel rest).map fun (items, rest) => (item :: items, rest)
    | _ => some ([], tokens)

/-- Reads the entries of a block mapping and its end. -/
def blockEntries (handles : List (String × String)) : (fuel : Nat) → List Token →
    Option (List (Written × Written) × List Token)
  | 0, _ => none
  | fuel + 1, tokens =>
    match tokens with
    | .key :: rest =>
      match nodeUnless handles [.key, .value, .blockEnd] fuel .inMapping rest with
      | none => none
      | some (key, rest) =>
        match valueAfter handles [.key, .value, .blockEnd] .inMapping fuel rest with
        | none => none
        | some (value, rest) =>
          (blockEntries handles fuel rest).map fun (entries, rest) =>
            ((key, value) :: entries, rest)
    | .blockEnd :: rest => some ([], rest)
    | _ => none

/-- Reads the value of an entry; it is empty if there is no value mark or if one of `marks`
follows the mark. -/
def valueAfter (handles : List (String × String)) (marks : List Token) (position : Position) :
    (fuel : Nat) → List Token → Option (Written × List Token)
  | 0, _ => none
  | fuel + 1, tokens =>
    match tokens with
    | .value :: rest => nodeUnless handles marks fuel position rest
    | _ => some (empty, tokens)

/-- Reads the items of a flow sequence and its end; `first` says that no comma is due. -/
def flowItems (handles : List (String × String)) : (fuel : Nat) → (first : Bool) → List Token →
    Option (List Written × List Token)
  | 0, _, _ => none
  | fuel + 1, first, tokens =>
    match first, tokens with
    | _, .flowSequenceEnd :: rest => some ([], rest)
    | false, .flowEntry :: .flowSequenceEnd :: rest => some ([], rest)
    | false, .flowEntry :: rest | true, rest =>
      match flowItem handles fuel rest with
      | none => none
      | some (item, rest) =>
        (flowItems handles fuel false rest).map fun (items, rest) => (item :: items, rest)
    | false, _ => none

/-- Reads an item of a flow sequence: a node, or a mapping of one entry that starts with a key
mark. Where that entry has no key, the mark that shows it is passed over. -/
def flowItem (handles : List (String × String)) : (fuel : Nat) → List Token →
    Option (Written × List Token)
  | 0, _ => none
  | fuel + 1, tokens =>
    match tokens with
    | .key :: rest =>
      let key :=
        -- an empty key takes the mark after it along, so that the value is read from behind it
        if comes [.value, .flowEntry, .flowSequenceEnd] rest then some (empty, rest.tail)
        else node handles fuel .inFlow rest
      match key with
      | none => none
      | some (key, rest) =>
        (valueAfter handles [.flowEntry, .flowSequenceEnd] .inFlow fuel rest).map
          fun (value, rest) => (.mapping none [(key, value)], rest)
    | _ => node handles fuel .inFlow tokens

/-- Reads the entries of a flow mapping and its end; `first` says that no comma is due. -/
def flowEntries (handles : List (String × String)) : (fuel : Nat) → (first : Bool) →
    List Token → Option (List (Written × Written) × List Token)
  | 0, _, _ => none
  | fuel + 1, first, tokens =>
    match first, tokens with
    | _, .flowMappingEnd :: rest => some ([], rest)
    | false, .flowEntry :: .flowMappingEnd :: rest => some ([], rest)
    | false, .flowEntry :: rest | true, rest =>
      match flowPair handles fuel rest with
      | none => none
      | some (entry, rest) =>
        (flowEntries handles fuel false rest).map fun (entries, rest) => (entry :: entries, rest)
    | false, _ => none

/-- Reads an entry of a flow mapping. Without a key mark it has no value. -/
def flowPair (handles : List (String × String)) : (fuel : Nat) → List Token →
    Option ((Written × Written) × List Token)
  | 0, _ => none
  | fuel + 1, tokens =>
    match tokens with
    | .key :: rest =>
      match nodeUnless handles [.value, .flowEntry, .flowMappingEnd] fuel .inFlow rest with
      | none => none
      | some (key, rest) =>
        (valueAfter handles [.flowEntry, .flowMappingEnd] .inFlow fuel rest).map
          fun (value, rest) => ((key, value), rest)
    | _ => (node handles fuel .inFlow tokens).map fun (key, rest) => ((key, empty), rest)

end

/-- A bound on the depth of recursion that reading tokens takes. -/
def fuelFor (tokens : List Token) : Nat := 4 * tokens.length + 4

/-! ## Documents -/

/-- What the directives of a document say. -/
structure Directives where
  versionGiven : Bool := false
  handles : List (String × String) := []

/-- Reads directives. Only versions 1.1 and 1.2 are understood, the version may be given once, and
so may the meaning of a handle. -/
def directives? : Directives → List Token → Option (Directives × List Token)
  | directives, .directive (.version major minor) :: rest =>
    if directives.versionGiven || major != 1 || (minor != 1 && minor != 2) then none
    else directives? { directives with versionGiven := true } rest
  | directives, .directive (.tagHandle handle meaning) :: rest =>
    if directives.handles.any (·.1 == handle) then none
    else directives? { directives with handles := directives.handles ++ [(handle, meaning)] } rest
  | directives, tokens => some (directives, tokens)

/-- Whether a token comes next that cannot start the content of a document with a start mark. -/
def endsDocument : List Token → Bool
  | [] | .directive _ :: _ | .documentStart :: _ | .documentEnd :: _ => true
  | _ => false

/-- Whether a document without directives and start mark comes next. -/
def startsBare : List Token → Bool
  | [] | .directive _ :: _ | .documentStart :: _ => false
  | _ => true

/-- Reads the root of a document, whatever follows it. -/
def root? (tokens : List Token) : Option (Written × List Token) :=
  if startsBare tokens then node [] (fuelFor tokens) .inBlock tokens
  else
    match directives? {} tokens with
    | some (directives, .documentStart :: rest) =>
      if endsDocument rest then some (empty, rest)
      else node directives.handles (fuelFor rest) .inBlock rest
    | _ => none

/-- **Reads the document of a text**, if there is one. Nothing but end marks may follow it. -/
def document? (tokens : List Token) : Option (Option Written) :=
  if tokens.isEmpty then some none
  else
    match root? tokens with
    | none => none
    | some (root, rest) => if rest.all (· == .documentEnd) then some (some root) else none

end Node

end DrumMachine.Yaml
