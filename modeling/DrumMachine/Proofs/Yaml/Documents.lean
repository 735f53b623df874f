import DrumMachine.Proofs.Yaml.Printable
import DrumMachine.Proofs.Yaml.Scanning
import DrumMachine.Yaml.Document

/-! # Documents that are read back

The tokens of a written value make up the node that the value stands for (`Value.node`), and every
token of a value brings enough fuel to read it. Such a node has no anchors and no aliases, so
linking leaves it as it is. A mapping that has entries is therefore the root of the document that it
is written as (`Document.ofText?_render`). -/

namespace DrumMachine.Yaml

namespace Value

mutual

/-- **The node that a value stands for.** -/
def node {ρ : Type} : Value → Node ρ
  | number n => .scalar none none .plain (toString n)
  | text s => .scalar none none (Writing.style s) s
  | mapping entries => .mapping none (entryNodes entries)

/-- The nodes of the entries of a mapping. -/
def entryNodes {ρ : Type} : List (String × Value) → List (Node ρ × Node ρ)
  | [] => []
  | (name, value) :: rest =>
    (.scalar none none (Writing.style name) name, node value) :: entryNodes rest

end

end Value

namespace Node

variable {handles : List (String × String)} {fuel : Nat} {position : Position} {rest : List Token}

/-- A scalar is a node by itself. -/
theorem node_scalar (style : Style) (text : String) :
    node handles (fuel + 1) position (.scalar style text :: rest) =
      some (.scalar none none style text, rest) := by
  rfl

/-- What a value starts with is no mark of an entry. -/
theorem comes_tokens (value : Value) (rest : List Token) :
    comes [.key, .value, .blockEnd] (value.tokens ++ rest) = false := by
  cases value with
  | number n => rfl
  | text text => rfl
  | mapping entries => cases entries <;> rfl

/-- **A value is read from its tokens**, if there is a unit of fuel for each. -/
def Reads (value : Value) : Prop :=
  ∀ (handles : List (String × String)) (fuel : Nat) (position : Position) (rest : List Token),
    value.tokens.length ≤ fuel → position ≠ .inFlow →
    node handles fuel position (value.tokens ++ rest) = some (value.node, rest)

/-- The entries of a mapping are read from their tokens, up to the end of the mapping. -/
def ReadsEntries (entries : List (String × Value)) : Prop :=
  ∀ (handles : List (String × String)) (fuel : Nat) (rest : List Token),
    (Value.entryTokens entries).length < fuel →
    blockEntries handles fuel (Value.entryTokens entries ++ .blockEnd :: rest) =
      some (Value.entryNodes entries, rest)

/-- A value with a single token is read. -/
theorem reads_scalar {value : Value} {style : Style} {text : String}
    (htokens : value.tokens = [.scalar style text])
    (hnode : value.node = (.scalar none none style text : Written)) : Reads value := by
  intro handles fuel position rest hfuel _
  rw [htokens] at hfuel ⊢
  obtain ⟨fuel, rfl⟩ := Nat.exists_eq_add_of_le hfuel
  rw [List.length_singleton, Nat.add_comm, List.singleton_append, node_scalar, hnode]

/-- The empty mapping is read. -/
theorem reads_nil : Reads (.mapping []) := by
  intro handles fuel position rest hfuel _
  obtain ⟨fuel, rfl⟩ := Nat.exists_eq_add_of_le hfuel
  rw [Nat.add_comm]
  rfl

/-- A mapping is read if its entries are. -/
theorem reads_mapping {entry : String × Value} {entries : List (String × Value)}
    (h : ReadsEntries (entry :: entries)) : Reads (.mapping (entry :: entries)) := by
  intro handles fuel position rest hfuel hposition
  simp only [Value.tokens, List.length_cons, List.length_append, List.length_nil] at hfuel
  obtain ⟨fuel, rfl⟩ : ∃ n, fuel = n + 1 := ⟨fuel - 1, by omega⟩
  have hread := h handles fuel rest (by omega)
  have hnode : node handles (fuel + 1) position
      (.mappingStart :: (Value.entryTokens (entry :: entries) ++
      .blockEnd :: rest)) =
      if position = .inFlow then none
      else (blockEntries handles fuel
        (Value.entryTokens (entry :: entries) ++ .blockEnd :: rest)).map
        fun read => (.mapping none read.1, read.2) := rfl
  rw [Value.tokens, List.cons_append, List.append_assoc, List.singleton_append, hnode,
    if_neg hposition, hread]
  rfl

/-- The end of a mapping is read. -/
theorem readsEntries_nil : ReadsEntries [] := by
  intro handles fuel rest hfuel
  obtain ⟨fuel, rfl⟩ := Nat.exists_eq_add_of_lt hfuel
  rfl

/-- The steps of reading an entry. -/
theorem blockEntries_key {tokens afterKey afterValue : List Token} {key value : Written}
    {entries : List (Written × Written)}
    (hkey : nodeUnless handles [.key, .value, .blockEnd] fuel .inMapping tokens =
      some (key, afterKey))
    (hvalue : valueAfter handles [.key, .value, .blockEnd] .inMapping fuel afterKey =
      some (value, afterValue))
    (hentries : blockEntries handles fuel afterValue = some (entries, rest)) :
    blockEntries handles (fuel + 1) (.key :: tokens) = some ((key, value) :: entries, rest) := by
  rw [blockEntries]
  simp only [hkey, hvalue]
  rw [hentries]
  rfl

/-- One more entry is read if its value is. -/
theorem readsEntries_cons {name : String} {value : Value} {entries : List (String × Value)}
    (hvalue : Reads value) (hentries : ReadsEntries entries) :
    ReadsEntries ((name, value) :: entries) := by
  intro handles fuel rest hfuel
  simp only [Value.entryTokens, List.length_cons, List.length_append] at hfuel
  -- one unit for the entries, one for the value after its mark, one for the choice of its node
  obtain ⟨fuel, rfl⟩ : ∃ n, fuel = n + 3 := ⟨fuel - 3, by omega⟩
  have hread := hvalue handles fuel .inMapping
    (Value.entryTokens entries ++ .blockEnd :: rest) (by omega) (by decide)
  have hmore := hentries handles (fuel + 2) rest (by omega)
  have hcomes := comes_tokens value (Value.entryTokens entries ++ .blockEnd :: rest)
  have hkey : nodeUnless handles [.key, .value, .blockEnd] (fuel + 2) .inMapping
      (.scalar (Writing.style name) name :: .value ::
        (value.tokens ++ (Value.entryTokens entries ++ .blockEnd :: rest))) =
      some (.scalar none none (Writing.style name) name, .value ::
        (value.tokens ++ (Value.entryTokens entries ++ .blockEnd :: rest))) := rfl
  have hafter : valueAfter handles [.key, .value, .blockEnd] .inMapping (fuel + 2) (.value ::
      (value.tokens ++ (Value.entryTokens entries ++ .blockEnd :: rest))) =
      some (value.node, Value.entryTokens entries ++ .blockEnd :: rest) := by
    simp only [valueAfter, nodeUnless, hcomes, Bool.false_eq_true, if_false, hread]
  rw [Value.entryTokens, Value.entryNodes, List.cons_append, List.cons_append, List.cons_append,
    List.append_assoc]
  exact blockEntries_key hkey hafter hmore

mutual

/-- **Every value is read from its tokens.** -/
theorem reads : ∀ value : Value, Reads value
  | .number _ => reads_scalar rfl rfl
  | .text _ => reads_scalar rfl rfl
  | .mapping [] => reads_nil
  | .mapping (entry :: entries) => reads_mapping (readsEntries (entry :: entries))

/-- **All entries are read from their tokens.** -/
theorem readsEntries : ∀ entries : List (String × Value), ReadsEntries entries
  | [] => readsEntries_nil
  | (_, value) :: entries => readsEntries_cons (reads value) (readsEntries entries)

end

/-! ## Links -/

/-- A node without anchors and aliases is not changed by linking, which counts its nodes only. -/
def LinksToItself (value : Value) : Prop :=
  ∀ anchors : Anchors, ∃ n,
    link value.node anchors = some (value.node, { anchors with place := anchors.place + n })

/-- A scalar is linked to itself. -/
theorem linksToItself_scalar {value : Value} {style : Style} {text : String}
    (hnode : ∀ ρ : Type, value.node = (.scalar none none style text : Node ρ)) :
    LinksToItself value := by
  intro anchors
  exact ⟨1, by rw [hnode, hnode, link]; rfl⟩

mutual

/-- **A value is linked to itself.** -/
theorem linksToItself : ∀ value : Value, LinksToItself value
  | .number _ => linksToItself_scalar fun _ => rfl
  | .text _ => linksToItself_scalar fun _ => rfl
  | .mapping entries => fun anchors => by
    obtain ⟨n, hentries⟩ := linkEntries_entryNodes entries (anchors.start none)
    refine ⟨1 + n, ?_⟩
    rw [Value.node, link, hentries]
    simp [Value.node, Anchors.start, Nat.add_assoc]

/-- **Entries are linked to themselves.** -/
theorem linkEntries_entryNodes : ∀ (entries : List (String × Value)) (anchors : Anchors),
    ∃ n, linkEntries (Value.entryNodes entries) anchors =
      some (Value.entryNodes entries, { anchors with place := anchors.place + n })
  | [], anchors => ⟨0, rfl⟩
  | (name, value) :: entries, anchors => by
    obtain ⟨n, hvalue⟩ := linksToItself value (anchors.start none)
    obtain ⟨m, hentries⟩ := linkEntries_entryNodes entries
      { anchors with place := anchors.place + 1 + n }
    refine ⟨1 + n + m, ?_⟩
    have hname : link (.scalar none none (Writing.style name) name) anchors =
        some (.scalar none none (Writing.style name) name, anchors.start none) := rfl
    have hplace : { anchors.start none with place := (anchors.start none).place + n } =
        { anchors with place := anchors.place + 1 + n } := rfl
    rw [hplace] at hvalue
    simp only [Value.entryNodes, linkEntries, hname, hvalue]
    rw [hentries]
    simp only [Nat.add_assoc]

end

end Node

/-- **A mapping is read back** from the text that is written for it, if it has entries. -/
theorem Document.ofText?_render {entries : List (String × Value)} (h : entries ≠ []) :
    Document.ofText? (Value.render entries) =
      some (some ⟨(Value.mapping entries).node, []⟩) := by
  obtain ⟨entry, more, rfl⟩ := List.exists_cons_of_ne_nil h
  -- characters, tokens, nodes and links, one after the other
  have hlayout := Layout.ofText?_of_printable (Value.printable_entriesText 0 (entry :: more))
  have htokens := Token.ofLayout?_entriesText h
  have hread := Node.reads (.mapping (entry :: more)) []
    (Node.fuelFor (Value.mapping (entry :: more)).tokens) .inBlock [] (by rw [Node.fuelFor]; omega)
    (by decide)
  obtain ⟨n, hlink⟩ := Node.linksToItself (.mapping (entry :: more)) {}
  rw [List.append_nil] at hread
  have hdocument : Node.document? (Value.mapping (entry :: more)).tokens =
      some (some (Value.mapping (entry :: more)).node) := by
    have hroot : Node.root? (Value.mapping (entry :: more)).tokens =
        some ((Value.mapping (entry :: more)).node, []) := hread
    have hempty : (Value.mapping (entry :: more)).tokens.isEmpty = false := rfl
    rw [Node.document?, hempty, hroot]
    rfl
  rw [Value.tokens] at hdocument
  simp only [Document.ofText?, Value.render, hlayout, htokens, hdocument, Option.bind_eq_bind,
    Option.bind_some, ofNode?, hlink]
  rfl

end DrumMachine.Yaml
