import DrumMachine.Log
import DrumMachine.Stream.Source
import DrumMachine.Tablature.Basic
import DrumMachine.Tablature.Line
import DrumMachine.Text.Quoted

/-! # Reading a tablature

Lines are checked in order, and the first one at fault decides the error: first its form, then
whether the kit knows its drum, then whether the drum already has a line. When every line is
accepted there is one step for each column of the widest pattern, and each step gets the drums that
are hit in its column, in the order of their lines. -/

namespace DrumMachine.Tablature

/-- **Why a tablature cannot be read.** Lines are counted from one. -/
inductive ReadError where
  /-- The line is too short or has no bar after the name. -/
  | badLine (line : Nat)
  /-- The drum has a line already. -/
  | duplicateDrum (line : Nat) (name : String)
  /-- There is nothing to play. -/
  | empty
  /-- The kit has no drum of this name. -/
  | unknownDrum (name : String)
  /-- The source failed. -/
  | unreadable (fault : Fault)
  deriving DecidableEq, Repr

/-- The three kinds of errors in reading a tablature. -/
inductive ReadError.Kind where
  | invalidFormat
  | unknownDrum
  | unreadable
  deriving DecidableEq, Repr

namespace ReadError

/-- The kind of an error. -/
def kind : ReadError → ReadError.Kind
  | badLine _ | duplicateDrum _ _ | empty => .invalidFormat
  | unknownDrum _ => .unknownDrum
  | unreadable _ => .unreadable

/-- The line an error is about, if it is about one. -/
def line? : ReadError → Option Nat
  | badLine line | duplicateDrum line _ => some line
  | _ => none

/-- The text of an error. -/
def message : ReadError → String
  | badLine line => "invalid tablature: line " ++ toString line
  | duplicateDrum line name =>
    "invalid tablature: line " ++ toString line ++ ": drum " ++ Text.Quoted.encode name ++
      " already has a line"
  | empty => "invalid tablature: nothing to play"
  | unknownDrum name => "unknown drum: " ++ Text.Quoted.encode name
  | unreadable fault => fault.message

end ReadError

/-- Checks the line `number` after the lines `accepted`: its form, then that its drum is known,
then that the drum is new. -/
def checkLine (knows : String → Bool) (accepted : List Line) (number : Nat)
    (bytes : List UInt8) : Except ReadError Line :=
  match Line.ofBytes? (Line.trim bytes) with
  | none => .error (.badLine number)
  | some line =>
    if !knows line.name then .error (.unknownDrum line.name)
    else if accepted.any (·.name == line.name) then .error (.duplicateDrum number line.name)
    else .ok line

/-- Checks lines in order, the first of them being line `number`, after the lines `accepted`. -/
def checkLines (knows : String → Bool) (accepted : List Line) (number : Nat) :
    List (List UInt8) → Except ReadError (List Line)
  | [] => .ok accepted
  | bytes :: rest =>
    match checkLine knows accepted number bytes with
    | .error e => .error e
    | .ok line => checkLines knows (accepted ++ [line]) (number + 1) rest

/-- The number of columns of the widest pattern. -/
def width (lines : List Line) : Nat :=
  lines.foldl (fun widest line => max widest line.pattern.length) 0

/-- Adds the drum of a line to every step that the line hits. -/
def addLine (line : Line) (steps : List Step) : List Step :=
  steps.mapIdx fun i step => if line.hitsAt i then step ++ [line.name] else step

/-- **Fills steps with lines**, one line after the other. -/
def fill (lines : List Line) (steps : List Step) : List Step :=
  lines.foldl (fun steps line => addLine line steps) steps

/-- A line adds no steps. -/
@[simp] theorem length_addLine (line : Line) (steps : List Step) :
    (addLine line steps).length = steps.length := by
  simp [addLine]

/-- Without lines the steps stay as they are. -/
@[simp] theorem fill_nil (steps : List Step) : fill [] steps = steps := rfl

/-- Lines are added one after the other. -/
@[simp] theorem fill_cons (line : Line) (lines : List Line) (steps : List Step) :
    fill (line :: lines) steps = fill lines (addLine line steps) := rfl

/-- Lines add no steps, however many there are. -/
@[simp] theorem length_fill (lines : List Line) (steps : List Step) :
    (fill lines steps).length = steps.length := by
  induction lines generalizing steps with
  | nil => rfl
  | cons line rest ih => rw [fill_cons, ih, length_addLine]

/-- The steps of accepted lines: as many empty ones as there are columns, filled. -/
def stepsOf (lines : List Line) : List Step := fill lines (List.replicate (width lines) [])

/-- There are as many steps as the longest pattern has columns. -/
@[simp] theorem length_stepsOf (lines : List Line) : (stepsOf lines).length = width lines := by
  simp [stepsOf]

/-- There are steps if there is a column. -/
theorem stepsOf_ne_nil {lines : List Line} (h : width lines ≠ 0) : stepsOf lines ≠ [] := by
  intro hnil
  exact h (by rw [← length_stepsOf, hnil, List.length_nil])

/-- **The tablature of accepted lines**, if they have a column at all. -/
def ofLines (lines : List Line) : Except ReadError Tablature :=
  if h : width lines = 0 then .error .empty
  else .ok ⟨lines.map (·.name), stepsOf lines, stepsOf_ne_nil h⟩

/-- **Reads a tablature** for a kit that knows the drums `knows`. -/
def read (knows : String → Bool) (source : Source) : Except ReadError Tablature :=
  match checkLines knows [] 1 source.lines.lines with
  | .error e => .error e
  | .ok lines =>
    -- a fault of the source shows only where no line before it has one
    match source.lines.fault with
    | some fault => .error (.unreadable fault)
    | none => ofLines lines

/-- Reads a tablature from a byte string. -/
def ofBytes (knows : String → Bool) (bytes : List UInt8) : Except ReadError Tablature :=
  read knows (.ofBytes bytes)

/-- What is logged of a tablature that was read. -/
def readEntry (tab : Tablature) : LogEntry :=
  ⟨.debug, "read tablature",
    [("drums", toString tab.drums.length), ("steps", toString tab.length)]⟩

/-- Where no line is left, those that were accepted are all. -/
@[simp] theorem checkLines_nil (knows : String → Bool) (accepted : List Line) (number : Nat) :
    checkLines knows accepted number [] = .ok accepted := rfl

/-- Lines are checked one after the other, each against those before it. -/
theorem checkLines_cons (knows : String → Bool) (accepted : List Line) (number : Nat)
    (bytes : List UInt8) (rest : List (List UInt8)) :
    checkLines knows accepted number (bytes :: rest) =
      match checkLine knows accepted number bytes with
      | .error e => .error e
      | .ok line => checkLines knows (accepted ++ [line]) (number + 1) rest := rfl

end DrumMachine.Tablature
