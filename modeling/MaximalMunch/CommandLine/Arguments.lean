/-
Module: MaximalMunch.CommandLine.Arguments
Layer: Command line
Purpose: Reading a command line. It is read word by word, and the first mistake, or the first flag that
  asks for help or for the version, ends the reading. Two dashes make every later word positional. The
  input is the only positional word. It is taken provisionally and settled when the next flag is acted on,
  or at the end: only then does an empty word turn out to be no input, so that a mistake before that is
  the one reported.
Imports: MaximalMunch.CommandLine.Stop, MaximalMunch.CommandLine.Word, MaximalMunch.Text.Quoted
Trusted boundary: human-reviewed spec
Main exports: Arguments, Arguments.parse, Arguments.render
Open obligations: none
-/
import MaximalMunch.CommandLine.Stop
import MaximalMunch.CommandLine.Word
import MaximalMunch.Text.Quoted

namespace MaximalMunch.CommandLine

/-- What a command line asks for. -/
structure Arguments where
  /-- The path of the source. -/
  input : Option String
  failFast : Bool
  verbose : Bool
deriving DecidableEq, Repr, Inhabited

/-- What has been read so far. -/
structure Progress where
  /-- The flags given, in order. -/
  flags : List Flag
  /-- The input, once it is settled. -/
  input : Option String
  /-- The input, as long as it is not. -/
  pending : Option String
deriving DecidableEq, Repr, Inhabited

namespace Progress

/-- Before the first word. -/
def start : Progress := ⟨[], none, none⟩

/-- Settle the input, if there is one to settle. -/
def settle (progress : Progress) : Except Stop Progress :=
  match progress.pending with
  | none => .ok progress
  | some text =>
      if text.isEmpty then .error (.mistake .missingInput)
      else .ok { progress with input := some text, pending := none }

/-- Act on a flag. -/
def give (progress : Progress) (flag : Flag) : Except Stop Progress := do
  let settled ← progress.settle
  match flag with
  | .help => throw .help
  | .version => throw .version
  | .failFast | .verbose =>
      if flag ∈ settled.flags then throw (.mistake (.repeatedFlag flag))
      else return { settled with flags := settled.flags ++ [flag] }

/-- The mistake of a long name that no flag has. The input counts as given, whether it is settled or
    not, and the flag that was probably meant is shown as if it had been given. -/
def unknownLong (progress : Progress) (name : String) : Mistake :=
  let word := "--" ++ name
  let input := progress.input.isSome || progress.pending.isSome
  match Flag.similar? name with
  | some flag =>
      let flags := if flag ∈ progress.flags then progress.flags else progress.flags ++ [flag]
      .unexpectedWord word (some (.similarFlag flag)) (.given flags input)
  | none => .unexpectedWord word (some (.asPositional word)) (.ofGiven progress.flags input)

/-- The usage that goes with a value that no flag takes: the flag alone where it is the first one, and
    everything that a run can be given where something has been given already. -/
def usageOfValue (progress : Progress) (flag : Flag) : Usage :=
  if progress.flags.isEmpty && progress.input.isNone then .given [flag] false else .alternatives flag

/-- Act on a long flag. A value is a mistake even where the flag alone would be one too. -/
def giveLong (progress : Progress) (name : String) (value? : Option String) :
    Except Stop Progress :=
  match Flag.ofLong? name, value? with
  | some flag, none => progress.give flag
  | some flag, some value =>
      .error (.mistake (.unexpectedValue flag value (progress.usageOfValue flag)))
  | none, _ => .error (.mistake (progress.unknownLong name))

/-- Act on one of the short flags of a cluster. -/
def giveShort (progress : Progress) (name : Char) : Except Stop Progress :=
  match Flag.ofShort? name with
  | some flag => progress.give flag
  | none =>
      let word := String.ofList ['-', name]
      .error (.mistake (.unexpectedWord word (some (.asPositional word)) .general))

/-- Take a positional word. -/
def take (progress : Progress) (text : String) : Except Stop Progress :=
  if progress.input.isSome || progress.pending.isSome then
    .error (.mistake (.unexpectedWord text none .general))
  else .ok { progress with pending := some text }

/-- Act on a word before the end of the flags. -/
def act (progress : Progress) (text : String) : Except Stop Progress :=
  match Word.ofText text with
  | .endOfFlags => .ok progress
  | .long name value? => progress.giveLong name value?
  | .cluster names => names.foldlM giveShort progress
  | .positional text => progress.take text

/-- The end of the command line. -/
def finish (progress : Progress) : Except Stop Arguments := do
  let settled ← progress.settle
  return ⟨settled.input, settled.flags.contains .failFast, settled.flags.contains .verbose⟩

end Progress

namespace Arguments

/-- The words up to the first that is two dashes alone. -/
def beforeDashes (words : List String) : List String := words.takeWhile (· ≠ "--")

/-- The words after it. -/
def afterDashes (words : List String) : List String := (words.dropWhile (· ≠ "--")).drop 1

/-- Read a command line. -/
def parse (words : List String) : Except Stop Arguments := do
  let flagged ← (beforeDashes words).foldlM Progress.act .start
  let positioned ← (afterDashes words).foldlM Progress.take flagged
  positioned.finish

/-- The value of a yes or no question. -/
def renderBool (value : Bool) : String := if value then "true" else "false"

/-- The arguments on one line, for inspection. -/
def render (arguments : Arguments) : String :=
  let input :=
    match arguments.input with
    | none => "None"
    | some path => "Some(" ++ Text.quoteString path ++ ")"
  "Arguments \x7b input: " ++ input ++ ", fail_fast: " ++ renderBool arguments.failFast ++
    ", verbose: " ++ renderBool arguments.verbose ++ " \x7d"

end Arguments

end MaximalMunch.CommandLine
