/-
Module: MaximalMunch.Text.Plain
Layer: Text
Purpose: Text without the characters that steer a terminal. Messages about the command line repeat words
  from it, and such a word may hold control characters and whole control sequences; they are left out.
  Of the ASCII controls only tab, line feed, form feed and carriage return are text. An escape character
  begins a sequence: a bracket after it opens a control sequence, which runs to its final letter; other
  characters open commands and strings for the terminal, which run to their own ends; most end at once.
  A string for a device has a header, and only what follows the header can be terminated. A control
  character that is text is shown even within a sequence, unless that is a command or a string. What such
  an interruption does to the sequence is a parameter: it gives the sequence up, or the sequence is taken
  up again where the text ends.
Imports: none
Trusted boundary: human-reviewed spec
Main exports: Interruption, Mode, Mode.step, plain
Open obligations: none
-/

namespace MaximalMunch.Text

/-- What becomes of a sequence when text comes in between. -/
inductive Interruption where
  /-- It is over. -/
  | final
  /-- It goes on at the next control character that is no text. -/
  | passing
deriving DecidableEq, Repr, Inhabited

/-- What the characters of a text currently are to a terminal. -/
inductive Mode where
  /-- Text. -/
  | text
  /-- What follows an escape character. -/
  | escape
  /-- What follows an escape character and an intermediate one. -/
  | escapeTail
  /-- A control sequence before its final letter. -/
  | sequence
  /-- A command of the operating system, up to a bell. -/
  | command
  /-- The header of a device string, of which nothing has come yet. -/
  | header
  /-- The parameters in the header of a device string. -/
  | headerParameters
  /-- What follows an intermediate character in the header of a device string. -/
  | headerTail
  /-- A string for a device or an application, up to a string terminator. -/
  | string
deriving DecidableEq, Repr, Inhabited

/-- The ASCII controls that are text. -/
def isTextControl (c : Char) : Bool := c = '\t' || c = '\n' || c = '\x0c' || c = '\r'

/-- Whether `c` is an ASCII control. -/
def isControl (c : Char) : Bool := c.toNat < 0x20 || c.toNat = 0x7f

/-- Whether `c` is text where no sequence is open. -/
def isText (c : Char) : Bool := !isControl c || isTextControl c

/-- Whether `c` means nothing within a sequence: a control, or a character beyond ASCII. -/
def isNeutral (c : Char) : Bool := isControl c || 0x80 ≤ c.toNat

/-- What the character after an escape character opens. -/
def Mode.afterEscape (c : Char) : Mode :=
  if c = '[' then .sequence
  else if c = ']' then .command
  else if c = 'P' then .header
  else if ['X', '^', '_'].contains c then .string
  else if c.toNat < 0x30 then .escapeTail
  else .text

/-- Where the header of a device string goes on after `c`, a visible character. After an intermediate
    character no parameters can follow, nor a private mark after parameters: then the rest is a string
    that no device takes. -/
def Mode.afterHeader (mode : Mode) (c : Char) : Mode :=
  if c.toNat < 0x30 then .headerTail
  else if 0x40 ≤ c.toNat || mode = .headerTail then .string
  else if mode = .headerParameters && 0x3c ≤ c.toNat then .string
  else .headerParameters

/-- The byte that terminates a string, where it is part of a character. -/
def holdsTerminator (c : Char) : Bool := c.toString.toUTF8.toList.contains 0x9c

/-- Take one character: what the next one will be, and whether this one is text. -/
def Mode.step (mode : Mode) (c : Char) : Mode × Bool :=
  if c = '\x1b' then (.escape, false)
  else if c = '\x18' || c = '\x1a' then (.text, false)
  else
    match mode with
    | .text => (.text, isText c)
    | .command => (if c = '\x07' then .text else .command, false)
    | .string => (if holdsTerminator c then .text else .string, false)
    | .escape =>
        if isNeutral c then (.escape, isTextControl c) else (.afterEscape c, false)
    | .escapeTail =>
        if isNeutral c then (.escapeTail, isTextControl c)
        else (if c.toNat < 0x30 then .escapeTail else .text, false)
    | .sequence =>
        if isNeutral c then (.sequence, isTextControl c)
        else (if c.toNat < 0x40 then .sequence else .text, false)
    | .header | .headerParameters | .headerTail =>
        (if isNeutral c then mode else mode.afterHeader c, false)

/-- Where a reader is: the sequence that is open, if any, and whether text has come in between. -/
structure Reader where
  mode : Mode
  /-- Text is being shown. -/
  showing : Bool
deriving DecidableEq, Repr, Inhabited

namespace Reader

/-- A reader of text. -/
def start : Reader := ⟨.text, false⟩

/-- The reader after a character that was shown. A character beyond ASCII ends every sequence. -/
def afterShown (interruption : Interruption) (mode : Mode) (c : Char) : Reader :=
  ⟨if interruption = .final || 0x80 ≤ c.toNat then .text else mode, true⟩

/-- Take one character: the reader after it, and whether it is shown. While text is shown, an open
    sequence waits. -/
def step (interruption : Interruption) (reader : Reader) (c : Char) : Reader × Bool :=
  if reader.showing && isText c then (afterShown interruption reader.mode c, true)
  else
    let (next, shown) := reader.mode.step c
    if shown then (afterShown interruption next c, true) else (⟨next, false⟩, false)

end Reader

/-- The characters that a reader shows. -/
def textFrom (interruption : Interruption) (reader : Reader) : List Char → List Char
  | [] => []
  | c :: rest =>
      let (after, shown) := reader.step interruption c
      if shown then c :: textFrom interruption after rest else textFrom interruption after rest

/-- A text without the characters that steer a terminal. -/
def plain (interruption : Interruption) (text : String) : String :=
  String.ofList (textFrom interruption .start text.toList)

example : plain .final "a\x1b[31;1mb\x01\tc\x1b]0;title\x07d" = "ab\tcd" := by decide

example : plain .final "\x1b[1\t\x012mz" = "\t2mz" := by decide

example : plain .passing "\x1b[1\t\x012mz" = "\tz" := by decide

end MaximalMunch.Text
