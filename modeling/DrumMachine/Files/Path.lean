/-! # Paths

A path is a text in which slashes separate names. An absolute path starts with a slash. -/

namespace DrumMachine.Path

/-- Whether a path starts at the root. -/
def isAbsolute (path : String) : Bool := path.toList.head? == some '/'

/-- **The path `path` seen from the directory `dir`**: an absolute one stands for itself, any other
is appended with a slash between, unless `dir` is empty or ends in one. -/
def join (dir path : String) : String :=
  if isAbsolute path then path
  else if dir.toList.getLast?.any (· != '/') then dir ++ "/" ++ path
  else dir ++ path

/-- What stands between the slashes of a path. -/
def segments (path : String) : List String := (path.toList.splitOn '/').map String.ofList

/-- The name at the end of a path: its last segment that is neither empty nor a single point,
unless that is a step up. -/
def fileName? (path : String) : Option String :=
  match (segments path).reverse.dropWhile (fun s => s == "" || s == ".") with
  | [] => none
  | name :: _ => if name == ".." then none else some name

/-- What follows the last point of a name, unless the name has none or only starts with it. -/
def afterPoint? (name : List Char) : Option String :=
  match name.reverse.span (· != '.') with
  | (_, []) | (_, [_]) => none
  | (after, _) => some (String.ofList after.reverse)

/-- **The extension of a path**: what follows the last point of its name. -/
def extension? (path : String) : Option String :=
  (fileName? path).bind fun name => afterPoint? name.toList

example : join "a" "b" = "a/b" ∧ join "a/" "b" = "a/b" ∧ join "a" "/b" = "/b" := by decide

example : afterPoint? ['a', '.', 'b', '.', 'c'] = some "c" := by decide

example : afterPoint? ['.', 'a'] = none ∧ afterPoint? ['a'] = none := by decide

end DrumMachine.Path
