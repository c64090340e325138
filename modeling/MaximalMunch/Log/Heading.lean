/-
Module: MaximalMunch.Log.Heading
Layer: Logging
Purpose: What is let through of the log. A filter is a predicate: it is asked about a record by what can be
  known of the record beforehand, which are the part of the program that speaks, the level, and the names of
  the details. Where a filter comes from is no matter here. It may have been set, in whatever way such settings
  are spelled; if none has been set that can be read, the level decides alone.
Imports: MaximalMunch.Log.Level
Trusted boundary: human-reviewed spec
Main exports: Heading, admitsByDefault, inForce
Open obligations: none
-/
import MaximalMunch.Log.Level

namespace MaximalMunch.Log

/-- What a filter sees of a record. -/
structure Heading where
  /-- The part of the program that speaks. -/
  target : String
  level : Level
  /-- The names of the details. -/
  details : List String
deriving DecidableEq, Repr, Inhabited

/-- What is let through if no filter has been set: warnings, and debugging records too when more was asked for. -/
def admitsByDefault (verbose : Bool) (heading : Heading) : Bool :=
  (Threshold.upTo (if verbose then .debug else .warn)).admits heading.level

/-- The filter in force: the one that has been set, or else the one that goes by how much was asked for. -/
def inForce (set? : Option (Heading → Bool)) (verbose : Bool) : Heading → Bool :=
  set?.getD (admitsByDefault verbose)

end MaximalMunch.Log
