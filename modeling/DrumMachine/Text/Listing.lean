/-! # Bracketed listings

A listing is a text or a list of listings. It is shown on one line, `[a, [b, c]]`, or spread over
lines with one item a line, four blanks of indentation a level and a comma after every item. -/

namespace DrumMachine.Text

/-- A text, or a bracketed list of listings. -/
inductive Listing where
  | leaf (text : String)
  | list (items : List Listing)

namespace Listing

mutual

/-- **A listing on one line.** -/
def inline : Listing → String
  | leaf text => text
  | list items => "[" ++ ", ".intercalate (inlineAll items) ++ "]"

/-- Each of several listings on one line. -/
def inlineAll : List Listing → List String
  | [] => []
  | item :: rest => item.inline :: inlineAll rest

end

/-- The blanks at the start of a line `depth` levels in. -/
def margin (depth : Nat) : String := "".pushn ' ' (4 * depth)

mutual

/-- **A listing spread over lines**, as it stands `depth` levels in. -/
def spread (depth : Nat) : Listing → String
  | leaf text => text
  | list [] => "[]"
  | list (item :: rest) =>
    "[\n" ++ spreadAll (depth + 1) (item :: rest) ++ margin depth ++ "]"

/-- The lines of the items of a list, each followed by a comma. -/
def spreadAll (depth : Nat) : List Listing → String
  | [] => ""
  | item :: rest => margin depth ++ item.spread depth ++ ",\n" ++ spreadAll depth rest

end

/-- Several listings are each shown on one line. -/
@[simp] theorem inlineAll_eq_map (items : List Listing) : inlineAll items = items.map inline := by
  induction items with
  | nil => rfl
  | cons item rest ih => simp [inlineAll, ih]

/-- A text is shown as it is. -/
@[simp] theorem inline_leaf (text : String) : (leaf text).inline = text := by simp [inline]

end Listing

end DrumMachine.Text
