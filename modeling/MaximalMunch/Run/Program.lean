/-
Module: MaximalMunch.Run.Program
Layer: Program
Purpose: Worlds in which the program can be tried out. Standard input is bytes, the files are those of a tree
  below the working directory, the filter is what a log setting spells, and records are written in the plain
  format. Each of these is one choice among others: what is proved of runs is proved of every world.
Imports: MaximalMunch.Files.Tree, MaximalMunch.Log.Filter, MaximalMunch.Run.World
Trusted boundary: human-reviewed spec
Main exports: Surroundings, Surroundings.world, run
Open obligations: none
-/
import MaximalMunch.Files.Tree
import MaximalMunch.Log.Filter
import MaximalMunch.Run.World

namespace MaximalMunch

/-- What a run is given that is tried out. -/
structure Surroundings where
  standardInput : ByteArray
  files : Files.Tree
  /-- The log setting, if there is one. -/
  logSetting : Option String
  sink : Sink
deriving Inhabited

/-- The world that is so given. -/
def Surroundings.world (surroundings : Surroundings) : World where
  standardInput := .ok surroundings.standardInput
  file path := (surroundings.files.read path).mapError Files.ReadFault.message
  setFilter? := Log.Filter.ofSetting? surroundings.logSetting
  sink := surroundings.sink

/-- Run on the words of a command line. -/
def run (surroundings : Surroundings) (words : List String) : Transcript := surroundings.world.run words

end MaximalMunch
