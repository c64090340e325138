/-
Module: MaximalMunch.Files.Tree
Layer: Files
Purpose: Reading a file out of a tree of files. The tree lists the files below the working directory; its
  directories are those that have a file in them. A path is walked step by step. A step fails when it is
  not taken in a directory, when its name is too long or when there is nothing of that name; at the end of
  the walk stands a file, whose content is the answer, or a directory, which cannot be read. Of what lies
  outside the working directory only the directories above it are known, and nothing is found in them.
  The program can read any path; a tree stands for the files where a run is tried out on some that were made
  for it.
Imports: MaximalMunch.Files.Content, MaximalMunch.Files.Path
Trusted boundary: human-reviewed spec
Main exports: Tree, Tree.ofFiles, Tree.read
Open obligations: none
-/
import MaximalMunch.Files.Content
import MaximalMunch.Files.Path

namespace MaximalMunch.Files

/-- The files below the working directory: for each its place, from the working directory down, and its
    content. -/
structure Tree where
  files : List (List Name × ByteArray)
deriving Inhabited

/-- Where a walk has come to. -/
inductive Place where
  /-- A directory of the tree, the working directory being the empty list of names. -/
  | inside (names : List Name)
  /-- A directory above the working directory. -/
  | above
  | file (content : ByteArray)
deriving Inhabited

namespace Tree

/-- The tree that holds the given files, each named by its path. -/
def ofFiles (files : List (String × ByteArray)) : Tree :=
  ⟨files.map fun (path, content) => ((steps path.toList).filter (!stays ·), content)⟩

/-- What has the given names, from the working directory down. -/
def find? (tree : Tree) (names : List Name) : Option Place :=
  match tree.files.find? (·.1 = names) with
  | some (_, content) => some (.file content)
  | none =>
      if tree.files.any (fun (place, _) => names.isPrefixOf place) then some (.inside names) else none

/-- Take one step. -/
def step (tree : Tree) (place : Place) (name : Name) : Except ReadFault Place :=
  match place with
  | .file _ => .error .notDirectory
  | .above =>
      if stays name || ascends name then .ok .above
      else if longestName < byteLength name then .error .nameTooLong
      else .error .notFound
  | .inside names =>
      if stays name then .ok place
      else if ascends name then .ok (if names.isEmpty then .above else .inside names.dropLast)
      else if longestName < byteLength name then .error .nameTooLong
      else
        match tree.find? (names ++ [name]) with
        | some found => .ok found
        | none => .error .notFound

/-- Where a path leads. -/
def walk (tree : Tree) (path : List Char) : Except ReadFault Place :=
  if longestPath < byteLength path then .error .nameTooLong
  else (steps path).foldlM tree.step (if isAbsolute path then .above else .inside [])

/-- The content of the file that a path leads to. -/
def read (tree : Tree) (path : String) : Except ReadFault ByteArray :=
  match tree.walk path.toList with
  | .error fault => .error fault
  | .ok (.file content) => .ok content
  | .ok _ => .error .isDirectory

end Tree

end MaximalMunch.Files
