import DrumMachine.Serial
import DrumMachine.Text.Numeral
import DrumMachine.Toml.Document

/-! # TOML as a form of data

Records are tables. Within a document a record may also be an array of its fields in order. A date
counts as a table that holds its text under a reserved name. -/

namespace DrumMachine.Toml

/-- The name under which a date holds its text. -/
def dateName : String := "$__toml_private_datetime"

namespace Value

/-- A value as a table, if it counts as one. -/
def fields? : Value → Option Entries
  | .table _ entries => some entries
  | .dateTime text => some [(dateName, .string text)]
  | _ => none

/-- The text of a value. -/
def text? : Value → Option String
  | .string text => some text
  | _ => none

/-- The number of a value. -/
def number? : Value → Option UInt32
  | .integer n => if n < 0 then none else Text.Numeral.toUInt32? n.toNat
  | _ => none

/-- The fields of a value as a record. -/
def record? : Value → Option (Serial.Given Value)
  | .array items => some (.byPlace items)
  | value => value.fields?.map .byName

end Value

/-- **The reader of TOML.** -/
def reader : Serial.Reader where
  Node := Value
  read text := Serial.found "a document" ((Entries.ofText? text).map (.table .header))
  number value := Serial.found "a number" value.number?
  text value := Serial.found "a string" value.text?
  mapping value := Serial.found "a map" value.fields?
  record value := Serial.found "a struct" value.record?
  repeated name := "duplicate field `" ++ name ++ "`"

end DrumMachine.Toml
