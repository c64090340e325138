/-
Module: MaximalMunch.CommandLine.Stop
Layer: Command line
Purpose: Why a command line does not lead to a run, and what is said then. Help or the version may have been
  asked for, which is no mistake. Otherwise something on the command line is wrong; there are four such
  mistakes. The text about a mistake says what it is, may give a tip, and reminds of the usage. The usage
  is the general one, or, where the mistake concerns a long flag, a narrower one: it shows the flags and
  the input given so far, or, for a value that no flag takes, everything that a run can be given. The text
  about a missing value goes without the usage. Words of the command line are repeated in plain form, so
  that they cannot steer the terminal that shows the text; on the way to a terminal a sequence survives
  the text that interrupts it, in the message on its own it does not.
Imports: MaximalMunch.CommandLine.Flag, MaximalMunch.Text.Plain
Trusted boundary: human-reviewed spec
Main exports: Usage, Tip, Mistake, Mistake.message, Mistake.text, Stop, Stop.text, Stop.message,
  Stop.status
Open obligations: none
-/
import MaximalMunch.CommandLine.Flag
import MaximalMunch.Text.Plain

namespace MaximalMunch.CommandLine

/-- The name of the program. -/
def programName : String := "tokscan"

/-- The version of the program. -/
def versionText : String := programName ++ " 0.0.0\n"

/-- What a usage line shows. -/
inductive Usage where
  /-- That there are flags and an input. -/
  | general
  /-- The flags given already, each once, and the input as given or as still missing. -/
  | given (flags : List Flag) (input : Bool)
  /-- A flag, unless it is among what a run can be given, and then all of that as alternatives. -/
  | alternatives (flag : Flag)
deriving DecidableEq, Repr, Inhabited

namespace Usage

/-- The usage that shows what has been given, if anything has. -/
def ofGiven (flags : List Flag) (input : Bool) : Usage :=
  if flags.isEmpty && !input then .general else .given flags input

/-- What a run can be given, the input by its name. -/
def choices : List String := "INPUT" :: (Flag.all.filter Flag.isSetting).map Flag.render

/-- What stands in the usage line after the name of the program. -/
def shown : Usage → List String
  | .general => ["[OPTIONS]", "[INPUT]"]
  | .given flags input => flags.map Flag.render ++ [if input then "<INPUT>" else "[INPUT]"]
  | .alternatives flag =>
      (if flag.isSetting then [] else [flag.render]) ++ ["<" ++ "|".intercalate choices ++ ">"]

/-- The usage line. -/
def render (usage : Usage) : String := "Usage: " ++ " ".intercalate (programName :: usage.shown)

end Usage

/-- A hint at what may have been meant. -/
inductive Tip where
  /-- A flag of a similar name. -/
  | similarFlag (flag : Flag)
  /-- The word itself, but as a positional one. -/
  | asPositional (word : String)
deriving DecidableEq, Repr, Inhabited

/-- The tip in words. -/
def Tip.render (interruption : Text.Interruption) : Tip → String
  | .similarFlag flag => "  tip: a similar argument exists: '" ++ flag.render ++ "'"
  | .asPositional word =>
      let plain := Text.plain interruption word
      "  tip: to pass '" ++ plain ++ "' as a value, use '-- " ++ plain ++ "'"

/-- What can be wrong with a command line. -/
inductive Mistake where
  /-- A word that is no flag, or one positional word too many. -/
  | unexpectedWord (word : String) (tip? : Option Tip) (usage : Usage)
  /-- A value for a flag, which takes none. -/
  | unexpectedValue (flag : Flag) (value : String) (usage : Usage)
  /-- A flag that was given before. -/
  | repeatedFlag (flag : Flag)
  /-- An empty word where the input should be named. -/
  | missingInput
deriving DecidableEq, Repr, Inhabited

namespace Mistake

/-- The mistake in words. -/
def message (interruption : Text.Interruption) : Mistake → String
  | .unexpectedWord word _ _ => "unexpected argument '" ++ Text.plain interruption word ++ "' found"
  | .unexpectedValue flag value _ =>
      "unexpected value '" ++ Text.plain interruption value ++ "' for '" ++ flag.render ++
        "' found; no more were expected"
  | .repeatedFlag flag => "the argument '" ++ flag.render ++ "' cannot be used multiple times"
  | .missingInput => "a value is required for '[INPUT]' but none was supplied"

/-- The hint that goes with the mistake. -/
def tip? : Mistake → Option Tip
  | .unexpectedWord _ tip? _ => tip?
  | _ => none

/-- The usage that goes with the mistake. -/
def usage? : Mistake → Option Usage
  | .unexpectedWord _ _ usage => some usage
  | .unexpectedValue _ _ usage => some usage
  | .repeatedFlag _ => some .general
  | .missingInput => none

/-- The paragraphs of the text about a mistake. -/
def paragraphs (interruption : Text.Interruption) (mistake : Mistake) : List String :=
  ["error: " ++ mistake.message interruption] ++
    (mistake.tip?.map (Tip.render interruption)).toList ++
    (mistake.usage?.map Usage.render).toList ++ ["For more information, try '--help'."]

/-- The text about a mistake: its paragraphs with empty lines between them. -/
def text (interruption : Text.Interruption) (mistake : Mistake) : String :=
  "\n\n".intercalate (mistake.paragraphs interruption) ++ "\n"

end Mistake

/-- Why a command line does not lead to a run. -/
inductive Stop where
  | help
  | version
  | mistake (mistake : Mistake)
deriving DecidableEq, Repr, Inhabited

/-- What the program is, in a line. -/
def summary : String := "A maximal-munch lexical scanner"

/-- The names of a flag as help shows them. -/
def Flag.names (flag : Flag) : String :=
  match flag.short? with
  | some name => "-" ++ name.toString ++ ", " ++ flag.render
  | none => "    " ++ flag.render

/-- The widest of the names that help shows. -/
def namesWidth : Nat := (Flag.all.map fun flag => flag.names.length).foldl max 0

/-- The line of help about a flag. The descriptions stand below each other. -/
def Flag.helpLine (flag : Flag) : String :=
  "  " ++ flag.names ++ String.ofList (List.replicate (namesWidth - flag.names.length) ' ') ++ "  " ++
    flag.description

/-- The whole of help. -/
def helpText : String :=
  "\n".intercalate <|
    [summary, "", Usage.general.render, "", "Arguments:",
     "  [INPUT]  Source file to scan; standard input when omitted or `-`", "", "Options:"] ++
    Flag.all.map Flag.helpLine ++ [""]

namespace Stop

/-- All that is said. -/
def textWith (interruption : Text.Interruption) : Stop → String
  | .help => helpText
  | .version => versionText
  | .mistake m => m.text interruption

/-- All that is said, as it goes to a terminal. -/
def text (stop : Stop) : String := stop.textWith .passing

/-- The first line of what is said. -/
def message (stop : Stop) : String :=
  let line := (stop.textWith .final).toList.takeWhile (· ≠ '\n')
  String.ofList (if line.getLast? = some '\r' then line.dropLast else line)

/-- Whether something on the command line is wrong. -/
def isMistake : Stop → Bool
  | .mistake _ => true
  | _ => false

/-- The status with which the program ends. -/
def status (stop : Stop) : Nat := if stop.isMistake then 2 else 0

end Stop

end MaximalMunch.CommandLine
