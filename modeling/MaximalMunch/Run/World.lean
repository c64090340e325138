/-
Module: MaximalMunch.Run.World
Layer: Program
Purpose: The program as a function from its command line and its surroundings to what can be seen of it. A world
  is all that a run can depend on: what comes of reading standard input and of reading each path, the filter
  that was set for the log, and whether standard output takes anything. It is a host of the program
  (`World.host`): it answers what the program asks for and keeps what the program writes. Nothing is said of
  where the files are, how a filter is spelled, or what the records look like that are written.
Imports: MaximalMunch.Run.Host, MaximalMunch.Run.Transcript
Trusted boundary: human-reviewed spec
Main exports: World, World.source, World.admits, Written, World.host, World.run, World.ofFile,
  World.source_ofFile
Open obligations: none
-/
import MaximalMunch.Run.Host
import MaximalMunch.Run.Transcript

namespace MaximalMunch

open CommandLine (Arguments)

/-- All that a run can depend on besides its command line. -/
structure World where
  /-- What comes of reading standard input: bytes, or the reason why there are none. -/
  standardInput : Except String ByteArray
  /-- What comes of reading the file at a path. -/
  file : String → Except String ByteArray
  /-- The filter that was set for the log, if one was set and could be read. -/
  setFilter? : Option (Log.Heading → Bool)
  sink : Sink

/-- What has been written so far. -/
structure Written where
  output : String
  notices : List Notice
deriving DecidableEq, Repr, Inhabited

namespace Written

/-- Put a text on standard output. -/
def print (text : String) (written : Written) : Written := { written with output := written.output ++ text }

/-- Put a text on standard error. -/
def notify (notice : Notice) (written : Written) : Written :=
  { written with notices := written.notices ++ [notice] }

end Written

namespace World

/-- What comes of reading from an origin. -/
def content (world : World) : Origin → Except String ByteArray
  | .standardInput => world.standardInput
  | .file path => world.file path

/-- The source that a command line names. -/
def source (world : World) (arguments : Arguments) : Except Failure String :=
  let origin := Origin.ofArguments arguments
  origin.text (world.content origin)

/-- What is let through of the log. -/
def admits (world : World) (arguments : Arguments) : Log.Heading → Bool :=
  Log.inForce world.setFilter? arguments.verbose

/-- The world as a host, which keeps what is written. -/
def host (world : World) : Host (StateM Written) where
  readInput := pure world.standardInput
  readFile path := pure (world.file path)
  setFilter? := pure world.setFilter?
  print text :=
    match world.sink with
    | .working => do
        modify (·.print text)
        return .ok ()
    | .refusing cause => return .error cause
  notify notice := modify (·.notify notice)

/-- What can be seen of a run on the words of a command line. -/
def run (world : World) (words : List String) : Transcript :=
  let (status, written) := ((world.host.run words).run ⟨"", []⟩).run
  ⟨status, written.output, written.notices⟩

/-- With a path that does not stand for standard input the source is the text in the file there, wherever
    that is. -/
theorem source_file {world : World} {path text : String} (content : world.file path = .ok text.toUTF8)
    (plain : Files.namesStandardInput path = false) (failFast verbose : Bool) :
    world.source ⟨some path, failFast, verbose⟩ = .ok text := by
  simp only [source, Origin.ofArguments, plain, Bool.false_eq_true, if_false, World.content, content,
    Origin.text, Files.textOfBytes_toUTF8]
  rfl

/-- A world in which there is one file. -/
def ofFile (path text : String) (setFilter? : Option (Log.Heading → Bool)) (sink : Sink) : World where
  standardInput := .ok ByteArray.empty
  file other := if other = path then .ok text.toUTF8 else .error Files.ReadFault.notFound.message
  setFilter? := setFilter?
  sink := sink

theorem source_ofFile {path : String} (plain : Files.namesStandardInput path = false) (text : String)
    (setFilter? : Option (Log.Heading → Bool)) (sink : Sink) (failFast verbose : Bool) :
    (ofFile path text setFilter? sink).source ⟨some path, failFast, verbose⟩ = .ok text :=
  source_file (if_pos rfl) plain failFast verbose

end World

end MaximalMunch
