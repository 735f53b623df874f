/-! # Data and its texts

Values are numbers, texts, mappings and records. A writer makes a text of a record. A reader takes a
text apart into nodes, and says of every node what it is when it is asked for a number, a text, a
mapping or a record. Nothing is fixed about the look of the texts. A reader undoes a writer if
it finds in every text of the writer what the text was made of (`Reader.Undoes`). -/

namespace DrumMachine.Serial

/-! ## Values -/

/-- **A value to be written.** -/
inductive Value where
  | number (n : UInt32)
  | text (text : String)
  /-- Entries, whose keys may be any texts. -/
  | mapping (entries : List (String × Value))
  /-- Fields under their names. -/
  | record (fields : List (String × Value))

mutual

/-- How many mappings and records stand within each other. -/
def Value.depth : Value → Nat
  | .number _ | .text _ => 0
  | .mapping entries => entriesDepth entries + 1
  | .record fields => entriesDepth fields + 1

/-- How many of them stand within each other among the values of entries. -/
def Value.entriesDepth : List (String × Value) → Nat
  | [] => 0
  | (_, value) :: rest => max value.depth (entriesDepth rest)

end

/-- The depth beyond which texts need not be taken apart. -/
def depthLimit : Nat := 128

/-- **A writer of records**: the text of a record with some fields, or why it has none. -/
abbrev Writer := List (String × Value) → Except String String

/-! ## Readers -/

/-- **The fields of a record as a text gives them**: by name, or only one after the other. -/
inductive Given (Node : Type) where
  | byName (fields : List (String × Node))
  | byPlace (items : List Node)

/-- The fields of a record under their names, which are given by place in the order of `names`. -/
def Given.fields {Node : Type} (names : List String) : Given Node → List (String × Node)
  | byName fields => fields
  | byPlace items => names.zip items

/-- What was asked for, if it is there. -/
def found {α : Type} (wanted : String) : Option α → Except String α
  | none => .error ("expected " ++ wanted)
  | some a => .ok a

/-- **A reader of texts.** Where something is not what it is asked for, it says so in its own
words. -/
structure Reader where
  /-- The parts of a text. -/
  Node : Type
  /-- Takes a text apart. -/
  read : String → Except String Node
  number : Node → Except String UInt32
  text : Node → Except String String
  mapping : Node → Except String (List (String × Node))
  record : Node → Except String (Given Node)
  /-- What it says of a field that is given more than once. -/
  repeated : String → String

namespace Reader

/-- **Reads the value of a field**, of which there may be no other. -/
def once {α : Type} (reader : Reader) (name : String) (read : reader.Node → Except String α)
    (known : Option α) (node : reader.Node) : Except String (Option α) :=
  match known with
  | some _ => .error (reader.repeated name)
  | none => (read node).map some

mutual

/-- **A node shows a value**: asked for what the value is, it gives just this. -/
def Shows (reader : Reader) : Value → reader.Node → Prop
  | .number n, node => reader.number node = .ok n
  | .text text, node => reader.text node = .ok text
  | .mapping entries, node =>
    ∃ nodes, reader.mapping node = .ok nodes ∧ reader.ShowsAll entries nodes
  | .record fields, node =>
    ∃ nodes, reader.record node = .ok (.byName nodes) ∧ reader.ShowsAll fields nodes

/-- Nodes show the values of entries, one for one and under the same names. -/
def ShowsAll (reader : Reader) : List (String × Value) → List (String × reader.Node) → Prop
  | [], nodes => nodes = []
  | (name, value) :: rest, nodes =>
    ∃ node more, nodes = (name, node) :: more ∧ reader.Shows value node ∧ reader.ShowsAll rest more

end

/-- **A reader undoes a writer**: every record that has fields and is not too deep has a text, and
what is read of its text shows the record. -/
structure Undoes (reader : Reader) (writer : Writer) : Prop where
  exists_text : ∀ {fields}, fields ≠ [] → (Value.record fields).depth ≤ depthLimit →
    ∃ text, writer fields = .ok text
  shows_of_text : ∀ {fields text}, fields ≠ [] → (Value.record fields).depth ≤ depthLimit →
    writer fields = .ok text → ∃ node, reader.read text = .ok node ∧
      reader.Shows (.record fields) node

end Reader

end DrumMachine.Serial
