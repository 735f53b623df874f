import DrumMachine.Files.Fault
import DrumMachine.Files.Path
import DrumMachine.Stream.Source
import DrumMachine.Text.Utf8

/-! # Files by their paths

The program sees a file system as `Files`: what opening a path finds. A `FileTree` is one such file
system, given by what stands at which path below the working directory; beyond that directory there
is nothing but the root. -/

namespace DrumMachine

/-- **What opening a path finds.** -/
inductive Opened where
  | file (bytes : List UInt8)
  /-- A directory can be opened, but not read. -/
  | directory
  deriving DecidableEq, Repr

/-- **A file system**: what opening a path finds. -/
abbrev Files := String → Except Fault Opened

namespace Opened

/-- The bytes that reading from what was opened delivers. -/
def source : Opened → Source
  | file bytes => .ofBytes bytes
  | directory => [.failed .isDirectory]

/-- The content of a file. -/
def bytes : Opened → Except Fault (List UInt8)
  | file bytes => .ok bytes
  | directory => .error .isDirectory

end Opened

namespace Files

/-- The content of the file at a path. -/
def readBytes (files : Files) (path : String) : Except Fault (List UInt8) :=
  match files path with
  | .error fault => .error fault
  | .ok opened => opened.bytes

/-- **The text of the file at a path**, which has to be UTF-8. -/
def readText (files : Files) (path : String) : Except Fault String :=
  match files.readBytes path with
  | .error fault => .error fault
  | .ok bytes =>
    match Text.Utf8.decode? bytes with
    | none => .error .notText
    | some text => .ok text

end Files

/-- **A tree of files**: what stands where below the working directory. A later entry for a place
replaces an earlier one, and the directories that lead to an entry exist with it. -/
structure FileTree where
  entries : List (List String × Opened)

namespace FileTree

/-- The names that lead to a relative path. -/
def place (path : String) : List String :=
  (Path.segments path).filter fun name => name != "" && name != "."

/-- The tree with the given files and directories. -/
def ofList (entries : List (String × Opened)) : FileTree :=
  ⟨entries.map fun entry => (place entry.1, entry.2)⟩

/-- What stands at a place. -/
def at? (tree : FileTree) (place : List String) : Option Opened :=
  match tree.entries.reverse.find? (·.1 == place) with
  | some entry => some entry.2
  | none =>
    if place.isEmpty || tree.entries.any (place.isPrefixOf ·.1) then some .directory else none

/-- The most bytes that a name may have. -/
def maxName : Nat := 255

/-- The most bytes that a path may have. -/
def maxPath : Nat := 4095

/-- Follows names from a place, which has to be a directory before each step. -/
def follow (tree : FileTree) (place : List String) : List String → Except Fault (List String)
  | [] => .ok place
  | name :: rest =>
    match tree.at? place with
    | none => .error .notFound
    | some (.file _) => .error .notDirectory
    | some .directory =>
      if name == "" || name == "." then tree.follow place rest
      else if name == ".." then
        if place.isEmpty then .error .notFound else tree.follow place.dropLast rest
      else if maxName < name.utf8ByteSize then .error .nameTooLong
      else tree.follow (place ++ [name]) rest

/-- Whether an absolute path leads no further than the root. -/
def isRoot (path : String) : Bool :=
  (Path.segments path).all fun name => name == "" || name == "." || name == ".."

/-- **The tree as a file system.** -/
def files (tree : FileTree) : Files := fun path =>
  if path.toList.contains '\x00' then .error .nulInPath
  else if path.isEmpty then .error .notFound
  else if maxPath < path.utf8ByteSize then .error .nameTooLong
  else if Path.isAbsolute path then if isRoot path then .ok .directory else .error .notFound
  else
    match tree.follow [] (Path.segments path) with
    | .error fault => .error fault
    | .ok place =>
      match tree.at? place with
      | none => .error .notFound
      | some opened => .ok opened

end FileTree

end DrumMachine
