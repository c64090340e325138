/-
Module: MaximalMunch.Run.Host
Layer: Program
Purpose: The program, written for any host that can do what it asks for. What it asks for is little: to read
  standard input or a file, the filter that was set for the log, to print a text and to put one on standard
  error. Reading and printing may be refused, with a reason in the words of the host. The program does one
  thing after the other. It reads the command line, then the whole source, and then it asks the scanner for one
  reading at a time; what the scanner says on the way is written at once, as far as the filter lets it through,
  and a token is printed or an error is reported before the next reading is asked for. A refusal ends the run.
Imports: MaximalMunch.CommandLine.Arguments, MaximalMunch.Files.Content, MaximalMunch.Files.Path,
  MaximalMunch.Failure, MaximalMunch.Proofs.Buffering, MaximalMunch.Run.Notice, MaximalMunch.Scanner.Logged
Trusted boundary: human-reviewed spec
Main exports: Origin, Origin.ofArguments, Host, Host.log, Host.loop, Host.scan, Host.run
Open obligations: none
-/
import MaximalMunch.CommandLine.Arguments
import MaximalMunch.Files.Content
import MaximalMunch.Files.Path
import MaximalMunch.Failure
import MaximalMunch.Proofs.Buffering
import MaximalMunch.Run.Notice
import MaximalMunch.Scanner.Logged

namespace MaximalMunch

open CommandLine (Arguments)

/-- Where a source comes from. -/
inductive Origin where
  | standardInput
  | file (path : String)
deriving DecidableEq, Repr, Inhabited

namespace Origin

/-- The origin that a command line names. -/
def ofArguments (arguments : Arguments) : Origin :=
  match arguments.input with
  | none => .standardInput
  | some path => if Files.namesStandardInput path then .standardInput else .file path

/-- The failure to read from this origin. -/
def failure (origin : Origin) (cause : String) : Failure :=
  match origin with
  | .standardInput => .standardInput cause
  | .file path => .read path cause

/-- The text that was read from this origin, when `content` is what came of reading it: bytes, or the
    reason why there are none. -/
def text (origin : Origin) (content : Except String ByteArray) : Except Failure String :=
  match content with
  | .error cause => .error (origin.failure cause)
  | .ok bytes => (Files.textOfBytes bytes).mapError fun fault => origin.failure fault.message

end Origin

/-- What a run asks of the host. -/
structure Host (m : Type → Type) where
  /-- Read all of standard input. -/
  readInput : m (Except String ByteArray)
  /-- Read the whole file at a path. -/
  readFile (path : String) : m (Except String ByteArray)
  /-- The filter that was set for the log, if one was set and could be read. -/
  setFilter? : m (Option (Log.Heading → Bool))
  /-- Put a text on standard output. -/
  print (text : String) : m (Except String Unit)
  /-- Put a text on standard error. -/
  notify (notice : Notice) : m Unit

/-- An iteration that says what it does comes to its end. -/
theorem Buffered.remaining_nextLogged?_lt {state after : Buffered} {records : List Log.Record}
    {reading : Reading} (step : state.nextLogged? = some (records, reading, after)) :
    after.toScanner.remaining < state.toScanner.remaining := by
  rw [nextLogged?_eq] at step
  obtain ⟨result, next, same⟩ := Option.map_eq_some_iff.mp step
  cases same
  have unlogged := state.next?_eq
  rw [next] at unlogged
  exact Scanner.remaining_next?_lt unlogged.symm

namespace Host

variable {m : Type → Type} [Monad m]

/-- Read from an origin. -/
def content (host : Host m) : Origin → m (Except String ByteArray)
  | .standardInput => host.readInput
  | .file path => host.readFile path

/-- The source that a command line names. -/
def source (host : Host m) (arguments : Arguments) : ExceptT Failure m String :=
  let origin := Origin.ofArguments arguments
  .mk (origin.text <$> host.content origin)

/-- Write a record if the filter lets it through. -/
def log (host : Host m) (admits : Log.Heading → Bool) (record : Log.Record) : ExceptT Failure m Unit :=
  if admits record.heading then liftM (host.notify (.record record)) else pure ()

/-- Report an error. -/
def tell (host : Host m) (message : String) : ExceptT Failure m Unit :=
  liftM (host.notify (.report message))

/-- Print a token on a line. -/
def printToken (host : Host m) (t : Token) : ExceptT Failure m Unit :=
  .mk (Except.mapError Failure.write <$> host.print (t.render ++ "\n"))

/-- The loop over the readings, which says whether there was no error. With the fail-fast option it is left at
    the first error. -/
def loop (host : Host m) (admits : Log.Heading → Bool) (failFast clean : Bool) (state : Buffered) :
    ExceptT Failure m Bool :=
  match step : state.nextLogged? with
  | none => pure clean
  | some (records, reading, after) =>
      have := Buffered.remaining_nextLogged?_lt step
      do
        forM records (host.log admits)
        match reading with
        | .token t =>
            host.printToken t
            loop host admits failFast clean after
        | .error e =>
            host.tell e.message
            if failFast then pure false else loop host admits failFast false after
termination_by state.toScanner.remaining

/-- A run on arguments that have been understood, which says whether there was no error. -/
def scan (host : Host m) (arguments : Arguments) : ExceptT Failure m Bool := do
  let admits := Log.inForce (← host.setFilter?) arguments.verbose
  let source ← host.source arguments
  host.log admits (.scanning arguments.input source.length)
  host.loop admits arguments.failFast true (.ofChars source.toList)

/-- Say why the command line does not lead to a run. Mistakes go to standard error. Help and the version go to
    standard output, and it is not noticed if they cannot be printed. -/
def dismiss (host : Host m) (stop : CommandLine.Stop) : m Nat := do
  if stop.isMistake then
    host.notify (.stop stop)
  else
    let _ ← host.print stop.text
  return stop.status

/-- Run on the words of a command line. The result is the status with which the program ends. -/
def run (host : Host m) (words : List String) : m Nat :=
  match Arguments.parse words with
  | .error stop => host.dismiss stop
  | .ok arguments => do
      match ← (host.scan arguments).run with
      | .ok clean => return if clean then 0 else 1
      | .error failure =>
          host.notify (.report failure.message)
          return 2

end Host

end MaximalMunch
