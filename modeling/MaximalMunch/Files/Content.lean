/-
Module: MaximalMunch.Files.Content
Layer: Files
Purpose: What comes of reading. A file may not be there or not be one that can be read; else its content is
  bytes, and a source is text: bytes that are not well-formed UTF-8 are refused, and all others spell the text
  of which they are the bytes (`textOfBytes_toUTF8`).
Imports: none
Trusted boundary: human-reviewed spec
Main exports: ReadFault, ReadFault.message, textOfBytes, textOfBytes_toUTF8
Open obligations: none
-/

namespace MaximalMunch.Files

/-- Why a source could not be read. -/
inductive ReadFault where
  | notFound
  | notDirectory
  | isDirectory
  | nameTooLong
  /-- The bytes are not well-formed UTF-8. -/
  | notText
deriving DecidableEq, Repr, Inhabited

/-- The fault in words, with its number where the system has one. -/
def ReadFault.message : ReadFault → String
  | notFound => "No such file or directory (os error 2)"
  | notDirectory => "Not a directory (os error 20)"
  | isDirectory => "Is a directory (os error 21)"
  | nameTooLong => "File name too long (os error 36)"
  | notText => "stream did not contain valid UTF-8"

/-- The text that well-formed bytes spell. -/
def textOfBytes (bytes : ByteArray) : Except ReadFault String :=
  match String.fromUTF8? bytes with
  | some text => .ok text
  | none => .error .notText

/-- Every text is spelled by its own bytes. -/
theorem textOfBytes_toUTF8 (text : String) : textOfBytes text.toUTF8 = .ok text := by
  have spelled : String.fromUTF8? text.toUTF8 = some text := dif_pos text.isValidUTF8
  rw [textOfBytes, spelled]

end MaximalMunch.Files
