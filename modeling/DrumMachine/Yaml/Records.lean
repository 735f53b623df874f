import DrumMachine.Serial
import DrumMachine.Yaml.Document
import DrumMachine.Yaml.Writing

/-! # YAML as a form of data

Records are mappings from the names of their fields. A text with nothing in it stands for a mapping
without entries. -/

namespace DrumMachine.Yaml

open Text.Numeral (toUInt32?)

/-- The tag of whole numbers. -/
def wholeTag : String := "tag:yaml.org,2002:int"

namespace Document

/-- **The number of a node**: a plain scalar, or a literal one with the tag of whole numbers. -/
def number? (document : Document) (node : Linked) : Option UInt32 :=
  match document.target? node with
  | some (.scalar _ _ .plain text) => (unsigned? text.toList).bind toUInt32?
  | some (.scalar _ (some tag) .literal text) =>
    if tag == wholeTag then (unsigned? text.toList).bind toUInt32? else none
  | _ => none

end Document

/-- **A part of a text**: a node of its document. A text with nothing in it has none. -/
abbrev Part := Option (Document × Linked)

namespace Part

/-- The whole of a text, if it is well-formed. -/
def ofText? (text : String) : Option Part :=
  (Document.ofText? text).map fun document? =>
    document?.map fun document => (document, document.root)

/-- The entries of a part, whose keys are texts. -/
def fields? : Part → Option (List (String × Part))
  | none => some []
  | some (document, node) =>
    (document.fields? node).map fun fields =>
      fields.map fun (name, node) => (name, some (document, node))

end Part

/-- **The reader of YAML.** -/
def reader : Serial.Reader where
  Node := Part
  read text := Serial.found "a document" (Part.ofText? text)
  number part := Serial.found "a number" (part.bind fun (document, node) => document.number? node)
  text part := Serial.found "a string" (part.bind fun (document, node) => document.text? node)
  mapping part := Serial.found "a map" part.fields?
  record part := Serial.found "a struct" (part.fields?.map .byName)
  repeated name := "duplicate field `" ++ name ++ "`"

mutual

/-- A value as it is written. -/
def Value.ofSerial : Serial.Value → Value
  | .number n => .number n.toNat
  | .text s => .text s
  | .mapping entries => .mapping (ofEntries entries)
  | .record fields => .mapping (ofEntries fields)

/-- Entries as they are written. -/
def Value.ofEntries : List (String × Serial.Value) → List (String × Value)
  | [] => []
  | (name, value) :: rest => (name, ofSerial value) :: ofEntries rest

end

/-- **The writer of YAML.** -/
def writer : Serial.Writer := fun fields => .ok (Value.render (Value.ofEntries fields))

end DrumMachine.Yaml
