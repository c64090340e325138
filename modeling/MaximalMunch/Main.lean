/-
Module: MaximalMunch.Main
Layer: Program
Purpose: The program itself. The operating system is its host: files are read as the system reads them, with the
  words of the system where it refuses, and the log setting is a variable of the environment. All else is what
  the program does on any host. This is the only module that has effects.
Imports: MaximalMunch.Log.Filter, MaximalMunch.Run.Host
Trusted boundary: input and output
Main exports: console, main
Open obligations: none
-/
import MaximalMunch.Log.Filter
import MaximalMunch.Run.Host

namespace MaximalMunch

/-- The variable of the environment that holds the log setting. -/
def logVariable : String := "RUST_LOG"

/-- What the system calls the error of a given number. Some numbers come negated. -/
def causeOfNumber (code : UInt32) (otherwise : String) : String :=
  match min code (0 - code) with
  | 2 => Files.ReadFault.notFound.message
  | 13 => "Permission denied (os error 13)"
  | 20 => Files.ReadFault.notDirectory.message
  | 21 => Files.ReadFault.isDirectory.message
  | 28 => "No space left on device (os error 28)"
  | 36 => Files.ReadFault.nameTooLong.message
  | _ => otherwise

/-- The reason that the system gave for refusing to read or write. -/
def causeOfError : IO.Error → String
  | .noFileOrDirectory _ code details => causeOfNumber code details
  | .noSuchThing _ code details => causeOfNumber code details
  | .inappropriateType _ code details => causeOfNumber code details
  | .invalidArgument _ code details => causeOfNumber code details
  | .resourceExhausted _ code details => causeOfNumber code details
  | .permissionDenied _ code details => causeOfNumber code details
  | error => toString error

/-- Do what may be refused. -/
def attempt {α : Type} (action : IO α) : IO (Except String α) := do
  try
    return .ok (← action)
  catch error => return .error (causeOfError error)

/-- The operating system as a host. -/
def console : Host IO where
  readInput := attempt do (← IO.getStdin).readBinToEnd
  readFile path := attempt (IO.FS.readBinFile path)
  setFilter? := return Log.Filter.ofSetting? (← IO.getEnv logVariable)
  print text := attempt do
    let output ← IO.getStdout
    output.putStr text
    output.flush
  notify notice := IO.eprint (notice.text .plain 0)

end MaximalMunch

/-- Read the command line and run. -/
def main (words : List String) : IO UInt32 := return (← MaximalMunch.console.run words).toUInt32
