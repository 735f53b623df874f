/-! # Failures with their causes

A failure is told from the outside in: what could not be done, then why, down to the root cause. -/

namespace DrumMachine

/-- **A failure**: what failed, and the chain of its causes. -/
structure Failure where
  /-- The outermost message. -/
  message : String
  /-- The causes, each of the one before it. -/
  causes : List String := []
  deriving DecidableEq, Repr

namespace Failure

/-- Puts a failure into the context of what it made impossible. -/
def within (context : String) (failure : Failure) : Failure :=
  ⟨context, failure.message :: failure.causes⟩

/-- All messages, outermost first. -/
def chain (failure : Failure) : List String := failure.message :: failure.causes

/-- One cause, indented under its number if it has one; its further lines line up. -/
def causeText (number : Option Nat) (cause : String) : String :=
  let label := match number with
    | some n => "".pushn ' ' (5 - (toString n).length) ++ toString n ++ ": "
    | none => "    "
  let margin := match number with
    | some _ => "       "
    | none => "    "
  label ++ ("\n" ++ margin).intercalate (cause.splitOn "\n")

/-- **The report of a failure**: its message, and its causes below, numbered if there are more
than one. -/
def report (failure : Failure) : String :=
  match failure.causes with
  | [] => "Error: " ++ failure.message
  | [cause] => "Error: " ++ failure.message ++ "\n\nCaused by:\n" ++ causeText none cause
  | causes =>
    "Error: " ++ failure.message ++ "\n\nCaused by:\n" ++
      "\n".intercalate (causes.zipIdx.map fun (cause, n) => causeText (some n) cause)

end Failure

end DrumMachine
