/-
Module: MaximalMunch.Files.Path
Layer: Files
Purpose: Paths as they are written. A path is cut at its slashes. Where it begins with a slash, walking it
  starts at the root of all files, and otherwise in the working directory; each piece is then one step. A
  step with an empty name, or with a single dot, stays where it is, but like every step it can be taken in
  a directory only. One path is special: `-`, or whatever is the same path up to steps that stay, stands
  for standard input. It does not do so behind a leading dot, which says that a file of this name in the
  working directory is meant.
Imports: MaximalMunch.Text.Pieces
Trusted boundary: human-reviewed spec
Main exports: Name, steps, isAbsolute, namesStandardInput, longestName, longestPath, byteLength
Open obligations: none
-/
import MaximalMunch.Text.Pieces

namespace MaximalMunch.Files

/-- The name of a file within its directory. -/
abbrev Name := List Char

/-- How long a name or a path is for the file system, which counts bytes. -/
def byteLength (text : List Char) : Nat := (String.ofList text).utf8ByteSize

/-- The most bytes that a name may have. -/
def longestName : Nat := 255

/-- The most bytes that a path may have. -/
def longestPath : Nat := 4095

/-- Whether walking the path starts at the root of all files. -/
def isAbsolute (path : List Char) : Bool := path.head? = some '/'

/-- The pieces of a path, empty ones included. -/
def steps (path : List Char) : List Name := Text.pieces '/' path

/-- Whether a step stays in the directory where it is taken. -/
def stays (name : Name) : Bool := name = [] || name = ['.']

/-- Whether a step goes to the directory above. -/
def ascends (name : Name) : Bool := name = ['.', '.']

/-- Whether the path stands for standard input. -/
def namesStandardInput (path : String) : Bool :=
  match steps path.toList with
  | [] => false
  | first :: others => first = ['-'] && others.all stays

example : namesStandardInput "-//." = true := by decide

example : namesStandardInput "./-" = false := by decide

example : namesStandardInput "-/.." = false := by decide

end MaximalMunch.Files
