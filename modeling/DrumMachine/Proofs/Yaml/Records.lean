import DrumMachine.Proofs.Yaml.Documents
import DrumMachine.Yaml.Records

/-! # Records that are read back from YAML

The writer of YAML makes a node of every value, and the text that it writes is read back as this
node (`Document.ofText?_render`). The node shows its value: numbers are told by their digits, texts
are there whatever they hold, and the entries of a mapping stand under their keys in order
(`shows_ofValue`). So the reader of YAML undoes the writer (`reader_undoes_writer`). -/

namespace DrumMachine.Yaml

variable {document : Document}

/-! ## Nodes -/

/-- The entries of a written mapping, each with the node of its value. -/
theorem Value.entryNodes_eq_map {ρ : Type} (entries : List (String × Value)) :
    Value.entryNodes (ρ := ρ) entries =
      entries.map fun entry =>
        (.scalar none none (Writing.style entry.1) entry.1, entry.2.node) := by
  induction entries with
  | nil => rfl
  | cons entry entries ih => rw [List.map_cons, ← ih]; rfl

/-- **The fields of a written mapping** are its entries. -/
theorem Document.fields?_node (entries : List (String × Value)) :
    document.fields? (Value.mapping entries).node =
      some (entries.map fun entry => (entry.1, entry.2.node)) := by
  have hentries : document.entries? (Value.mapping entries).node =
      some (Value.entryNodes entries) := rfl
  rw [fields?, hentries, Option.bind_eq_bind, Option.bind_some, Value.entryNodes_eq_map,
    List.mapM_map]
  exact List.mapM_pure

/-- **A number is read back** from its digits. -/
theorem Document.number?_node (n : UInt32) :
    document.number? (Value.number n.toNat).node = some n := by
  have hnode : document.number? (Value.number n.toNat).node =
      (unsigned? (toString n.toNat).toList).bind Text.Numeral.toUInt32? := rfl
  rw [hnode, unsigned?_toString, Option.bind_some, Text.Numeral.toUInt32?_toNat]

/-! ## Parts -/

/-- The part of a document that a value was written as. -/
def Part.ofValue (document : Document) (value : Serial.Value) : Part :=
  some (document, (Value.ofSerial value).node)

/-- The fields of a part that entries were written as. -/
theorem Part.fields?_mapping (entries : List (String × Serial.Value)) :
    Part.fields? (some (document, (Value.mapping (Value.ofEntries entries)).node)) =
      some (entries.map fun entry => (entry.1, Part.ofValue document entry.2)) := by
  have hmap : Value.ofEntries entries =
      entries.map fun entry => (entry.1, Value.ofSerial entry.2) := by
    induction entries with
    | nil => rfl
    | cons entry entries ih => rw [List.map_cons, ← ih]; rfl
  rw [Part.fields?, Document.fields?_node, hmap]
  simp [Part.ofValue]

/-- A number is told by its part. -/
theorem reader_number (n : UInt32) :
    reader.number (Part.ofValue document (.number n)) = .ok n := by
  have hnumber : document.number? (Value.number n.toNat).node = some n := Document.number?_node n
  exact congrArg (Serial.found "a number") hnumber

/-- A mapping gives the parts of its entries. -/
theorem reader_mapping (entries : List (String × Serial.Value)) :
    reader.mapping (Part.ofValue document (.mapping entries)) =
      .ok (entries.map fun entry => (entry.1, Part.ofValue document entry.2)) :=
  congrArg (Serial.found "a map") (Part.fields?_mapping entries)

/-- A record gives the parts of its fields by name. -/
theorem reader_record (fields : List (String × Serial.Value)) :
    reader.record (Part.ofValue document (.record fields)) =
      .ok (.byName (fields.map fun field => (field.1, Part.ofValue document field.2))) :=
  congrArg (fun found? => Serial.found "a struct" (Option.map Serial.Given.byName found?))
    (Part.fields?_mapping fields)

mutual

/-- **Every part shows the value that it was written as.** -/
theorem shows_ofValue : ∀ value : Serial.Value, reader.Shows value (Part.ofValue document value)
  | .number n => reader_number n
  | .text _ => rfl
  | .mapping entries =>
    ⟨_, reader_mapping entries, showsAll_ofValue entries⟩
  | .record fields =>
    ⟨_, reader_record fields, showsAll_ofValue fields⟩

/-- So do the parts of entries. -/
theorem showsAll_ofValue : ∀ entries : List (String × Serial.Value),
    reader.ShowsAll entries (entries.map fun entry => (entry.1, Part.ofValue document entry.2))
  | [] => rfl
  | (_, value) :: entries => ⟨_, _, rfl, shows_ofValue value, showsAll_ofValue entries⟩

end

/-- **The reader of YAML undoes the writer.** -/
theorem reader_undoes_writer : reader.Undoes writer where
  exists_text := fun _ _ => ⟨_, rfl⟩
  shows_of_text := by
    intro fields text hfields _ htext
    cases htext
    have hentries : Value.ofEntries fields ≠ [] := by
      obtain ⟨field, more, rfl⟩ := List.exists_cons_of_ne_nil hfields
      exact List.cons_ne_nil _ _
    have hpart : Part.ofText? (Value.render (Value.ofEntries fields)) =
        some (Part.ofValue ⟨(Value.mapping (Value.ofEntries fields)).node, []⟩
          (.record fields)) := by
      rw [Part.ofText?, Document.ofText?_render hentries]
      rfl
    exact ⟨_, congrArg (Serial.found "a document") hpart, shows_ofValue _⟩

end DrumMachine.Yaml
