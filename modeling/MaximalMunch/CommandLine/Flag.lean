/-
Module: MaximalMunch.CommandLine.Flag
Layer: Command line
Purpose: The flags of the program. Every flag has a long name, and most have a short one; neither takes a
  value. Names are matched exactly. A long name that is none of them may still resemble one, which is
  worth a hint: the most similar flag is meant, if it is similar enough, and of equally similar ones the
  last.
Imports: MaximalMunch.Text.Similarity
Trusted boundary: human-reviewed spec
Main exports: Flag, Flag.all, Flag.long, Flag.short?, Flag.isSetting, Flag.ofLong?, Flag.ofShort?,
  Flag.similar?
Open obligations: none
-/
import MaximalMunch.Text.Similarity

namespace MaximalMunch.CommandLine

/-- A switch on the command line. -/
inductive Flag where
  /-- Stop at the first lexical error. -/
  | failFast
  /-- Log for debugging. -/
  | verbose
  /-- Explain the command line instead of running. -/
  | help
  /-- Tell the version instead of running. -/
  | version
deriving DecidableEq, Repr, Inhabited

namespace Flag

/-- Every flag, in the order in which help shows them. -/
def all : List Flag := [.failFast, .verbose, .help, .version]

/-- The long name, without its dashes. -/
def long : Flag → String
  | failFast => "fail-fast"
  | verbose => "verbose"
  | help => "help"
  | version => "version"

/-- The short name, without its dash. -/
def short? : Flag → Option Char
  | failFast => none
  | verbose => some 'v'
  | help => some 'h'
  | version => some 'V'

/-- What help says about the flag. -/
def description : Flag → String
  | failFast => "Stop at the first lexical error"
  | verbose => "Log scanner decisions to standard error"
  | help => "Print help"
  | version => "Print version"

/-- Whether the flag is a setting of a run, as opposed to something to do instead of running. -/
def isSetting : Flag → Bool
  | failFast | verbose => true
  | help | version => false

/-- The long name as it is written. -/
def render (flag : Flag) : String := "--" ++ flag.long

/-- The flag with the given long name. -/
def ofLong? (name : String) : Option Flag := all.find? fun flag => flag.long = name

/-- The flag with the given short name. -/
def ofShort? (name : Char) : Option Flag := all.find? fun flag => flag.short? = some name

/-- A similarity above which a flag may have been meant. -/
def similarEnough : Float := 0.7

/-- The flag that was probably meant by a long name that no flag has. -/
def similar? (name : String) : Option Flag :=
  let rated := all.map fun flag => (Text.jaro name.toList flag.long.toList, flag)
  let candidates := rated.filter fun (similarity, _) => similarEnough < similarity
  let best := candidates.foldl (fun (best : Option (Float × Flag)) next =>
    match best with
    | none => some next
    | some held => if held.1 ≤ next.1 then some next else some held) none
  best.map (·.2)

/-- The list of flags is complete. -/
theorem mem_all (flag : Flag) : flag ∈ all := by cases flag <;> decide

/-- A flag is found by its long name. -/
theorem ofLong?_long (flag : Flag) : ofLong? flag.long = some flag := by cases flag <;> decide

/-- Looking up a short name finds the flag that has it, and no other. -/
theorem ofShort?_eq_some_iff {name : Char} {flag : Flag} :
    ofShort? name = some flag ↔ flag.short? = some name := by
  constructor
  · intro h
    simpa using List.find?_some h
  · intro h
    cases flag <;> cases h <;> decide

/-- Looking up a long name finds the flag that has it, and no other. -/
theorem ofLong?_eq_some_iff {name : String} {flag : Flag} :
    ofLong? name = some flag ↔ flag.long = name := by
  constructor
  · intro h
    simpa using List.find?_some h
  · rintro rfl
    exact ofLong?_long flag

end Flag

end MaximalMunch.CommandLine
