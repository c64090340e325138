/-
Module: MaximalMunch.Log.Level
Layer: Logging
Purpose: How grave a log record is, and how much is let through. A level is one of five, from errors down
  to traces. A threshold lets every level through that is at least as grave as a given one, or none at
  all. Thresholds have a written form, which is what a log setting is made of: the name of the level, in
  any mixture of cases, or its number, where zero lets nothing through.
Imports: none
Trusted boundary: human-reviewed spec
Main exports: Level, Level.verbosity, Level.name, Threshold, Threshold.admits, Threshold.ofText?
Open obligations: none
-/

namespace MaximalMunch.Log

/-- How grave a record is, the gravest first. -/
inductive Level where
  | error
  | warn
  | info
  | debug
  | trace
deriving DecidableEq, Repr, Inhabited

namespace Level

/-- Every level. -/
def all : List Level := [.error, .warn, .info, .debug, .trace]

/-- How talkative a program becomes that lets this level through. -/
def verbosity : Level → Nat
  | error => 1
  | warn => 2
  | info => 3
  | debug => 4
  | trace => 5

/-- The level as records show it. -/
def name : Level → String
  | error => "ERROR"
  | warn => "WARN"
  | info => "INFO"
  | debug => "DEBUG"
  | trace => "TRACE"

end Level

/-- How much is let through. -/
inductive Threshold where
  | off
  | upTo (level : Level)
deriving DecidableEq, Repr, Inhabited

namespace Threshold

/-- The verbosity that is still let through. -/
def verbosity : Threshold → Nat
  | off => 0
  | upTo level => level.verbosity

/-- Whether records of `level` pass. -/
def admits (threshold : Threshold) (level : Level) : Bool :=
  level.verbosity ≤ threshold.verbosity

/-- Every threshold. -/
def all : List Threshold := .off :: Level.all.map .upTo

/-- The threshold as it is written, but for case. -/
def name : Threshold → String
  | off => "OFF"
  | upTo level => level.name

/-- The value of a decimal number, which may have a plus sign in front and zeros after it. -/
def number? (text : List Char) : Option Nat :=
  let digits := if text.head? = some '+' then text.tail else text
  if digits.isEmpty || digits.any (!·.isDigit) then none
  else some (digits.foldl (fun value digit => 10 * value + (digit.toNat - '0'.toNat)) 0)

/-- The threshold that a text names, by its number or by its name in any case. -/
def ofText? (text : List Char) : Option Threshold :=
  all.find? fun threshold =>
    number? text = some threshold.verbosity || text.map Char.toUpper = threshold.name.toList

example : ofText? "Debug".toList = some (.upTo .debug) := by decide

example : ofText? "+00".toList = some .off := by decide

example : ofText? "loud".toList = none := by decide

end Threshold

end MaximalMunch.Log
