/-
Module: MaximalMunch.Failure
Layer: Program
Purpose: What can keep the program from doing its work, as opposed to what can be wrong with a source. Three
  failures come from the system and carry the words in which it gives its reason; the fourth is that
  records of the program's doings cannot be taken.
Imports: none
Trusted boundary: human-reviewed spec
Main exports: Failure, Failure.message, Failure.cause?
Open obligations: none
-/

namespace MaximalMunch

/-- Why the program gave up. -/
inductive Failure where
  | read (path cause : String)
  | standardInput (cause : String)
  | write (cause : String)
  | logging (reason : String)
deriving DecidableEq, Repr, Inhabited

namespace Failure

/-- The failure in words. Neither the path nor the reason is escaped. -/
def message : Failure → String
  | read path cause => "failed to read `" ++ path ++ "`: " ++ cause
  | standardInput cause => "failed to read standard input: " ++ cause
  | write cause => "failed to write output: " ++ cause
  | logging reason => "failed to initialize logging: " ++ reason

theorem message_write (cause : String) : (write cause).message = "failed to write output: " ++ cause := rfl

/-- The reason that the system gave, where it is the system that failed. -/
def cause? : Failure → Option String
  | read _ cause => some cause
  | standardInput cause => some cause
  | write cause => some cause
  | logging _ => none

/-- Records are being taken already, and the program cannot take its own. -/
def loggingTaken : Failure := .logging "a global default trace dispatcher has already been set"

end Failure

end MaximalMunch
