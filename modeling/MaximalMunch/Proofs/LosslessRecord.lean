/-
Module: MaximalMunch.Proofs.LosslessRecord
Layer: Proofs
Purpose: What a run writes is a record of its scan from which the scan can be told. With the log at its default
  each token is a line of the output and each error a line on standard error, and there are no others. A line
  determines what it shows: a name ends at the first space, a number where its digits end, a quoted text where
  its mark comes back, and what one part is and where the next one begins is therefore settled part by part
  (`Token.withoutLineColumn_eq_of_render_eq`). Only the column within the line is shown nowhere. That tokens
  and errors go separate ways loses nothing, because their columns tell how they followed each other
  (`Reading.merge_split`). The main result is `run_records`.
Imports: MaximalMunch.Proofs.Columns, MaximalMunch.Proofs.FailFast, MaximalMunch.Run.Account,
  MaximalMunch.Text.Unquoted, Mathlib.Data.List.Basic
Trusted boundary: none
Main exports: Reading.withoutLineColumn, Token.withoutLineColumn_eq_of_render_eq,
  LexicalError.withoutLineColumn_eq_of_message_eq, eq_of_unlines_eq, PlainRun, Records, run_records
Open obligations: none
-/
import MaximalMunch.Proofs.Columns
import MaximalMunch.Proofs.FailFast
import MaximalMunch.Run.Account
import MaximalMunch.Text.Unquoted
import Mathlib.Data.List.Basic

namespace MaximalMunch

open CommandLine (Arguments)
open Text (OneLine eq_of_quoteChar_append_eq eq_of_quoteString_append_eq)

/-!
### What a line shows
-/

/-- The position without the one count that is shown nowhere. -/
def Position.withoutLineColumn (p : Position) : Position := { p with lineColumn := 0 }

def Token.withoutLineColumn (t : Token) : Token := { t with position := t.position.withoutLineColumn }

def LexicalError.withoutLineColumn : LexicalError → LexicalError
  | .invalidStart c p => .invalidStart c p.withoutLineColumn
  | .unexpectedCharacter c p => .unexpectedCharacter c p.withoutLineColumn
  | .unterminatedString p => .unterminatedString p.withoutLineColumn

/-- The reading without the one count that is shown nowhere. -/
def Reading.withoutLineColumn : Reading → Reading
  | .token t => .token t.withoutLineColumn
  | .error e => .error e.withoutLineColumn

/-!
### Part by part

Each lemma takes two texts that begin in one form and are equal with whatever follows, and says that what is
shown is equal and so is what follows.
-/

section Parts

variable {rest beyond : List Char}

/-- A number ends where its digits end. -/
theorem eq_of_toString_append_eq {m n : Nat} (stops : rest.head?.any Char.isDigit = false)
    (otherStops : beyond.head?.any Char.isDigit = false)
    (same : (toString m).toList ++ rest = (toString n).toList ++ beyond) : m = n ∧ rest = beyond := by
  rw [Nat.toString_eq_repr, Nat.toString_eq_repr, Nat.toList_repr, Nat.toList_repr] at same
  have digits (k : Nat) : ∀ c ∈ Nat.toDigits 10 k, c.isDigit = true :=
    fun _ member => Nat.isDigit_of_mem_toDigits (by decide) (by decide) member
  obtain ⟨numbers, follows⟩ := eq_of_append_eq_of_stops (digits m) stops (digits n) otherStops same
  have values := congrArg (Nat.ofDigitChars 10 · 0) numbers
  simp only [Nat.ofDigitChars_ten_toDigits] at values
  exact ⟨values, follows⟩

/-- The name of a kind ends at the first space. -/
theorem Kind.eq_of_name_append_eq {one two : Kind}
    (same : one.name.toList ++ ' ' :: rest = two.name.toList ++ ' ' :: beyond) :
    one = two ∧ rest = beyond := by
  have all (kind : Kind) : kind.name.toList.all (fun c => c ≠ ' ') = true := by cases kind <;> decide
  have word (kind : Kind) : ∀ c ∈ kind.name.toList, (c ≠ ' ' : Bool) = true := List.all_eq_true.mp (all kind)
  obtain ⟨names, follows⟩ := eq_of_append_eq_of_stops (word one) rfl (word two) rfl same
  exact ⟨Kind.name_injective (String.toList_inj.mp names), (List.cons.inj follows).2⟩

end Parts

theorem Position.withoutLineColumn_eq_of_render_eq {p q : Position} (same : p.render = q.render) :
    p.withoutLineColumn = q.withoutLineColumn := by
  have chars := congrArg String.toList same
  simp only [render, String.toList_append, List.append_assoc] at chars
  obtain ⟨lines, behindLine⟩ := eq_of_toString_append_eq rfl rfl (List.append_cancel_left chars)
  have columns := List.append_cancel_left behindLine
  rw [← List.append_nil (toString p.column).toList, ← List.append_nil (toString q.column).toList] at columns
  obtain ⟨columns, _⟩ := eq_of_toString_append_eq rfl rfl columns
  rw [withoutLineColumn, withoutLineColumn, lines, columns]

/-- A token line determines the token but for the column within the line. -/
theorem Token.withoutLineColumn_eq_of_render_eq {one two : Token} (same : one.render = two.render) :
    one.withoutLineColumn = two.withoutLineColumn := by
  have chars := congrArg String.toList same
  simp only [render, String.toList_append, List.append_assoc] at chars
  obtain ⟨kinds, behindKind⟩ := Kind.eq_of_name_append_eq chars
  obtain ⟨lines, behindLine⟩ := eq_of_toString_append_eq rfl rfl behindKind
  obtain ⟨columns, behindColumn⟩ :=
    eq_of_toString_append_eq rfl rfl (List.append_cancel_left behindLine)
  have texts := List.append_cancel_left behindColumn
  rw [← List.append_nil (Text.quoteString one.text).toList,
    ← List.append_nil (Text.quoteString two.text).toList] at texts
  obtain ⟨texts, _⟩ := eq_of_quoteString_append_eq texts
  rw [withoutLineColumn, withoutLineColumn, Position.withoutLineColumn, Position.withoutLineColumn, kinds,
    lines, columns, texts]

/-- What is said of a character at a place determines both. -/
theorem eq_of_blame_eq {start : String} {c d : Char} {p q : Position}
    (same : start ++ Text.quoteChar c ++ " at " ++ p.render = start ++ Text.quoteChar d ++ " at " ++ q.render) :
    c = d ∧ p.withoutLineColumn = q.withoutLineColumn := by
  have chars := congrArg String.toList same
  simp only [String.toList_append, List.append_assoc] at chars
  obtain ⟨characters, behind⟩ := eq_of_quoteChar_append_eq (List.append_cancel_left chars)
  have places := String.toList_inj.mp (List.append_cancel_left behind)
  exact ⟨characters, Position.withoutLineColumn_eq_of_render_eq places⟩

/-- The letter at which the messages of the three sorts of errors part. -/
def LexicalError.thirdLetter : LexicalError → Char
  | .invalidStart _ _ => 'v'
  | .unexpectedCharacter _ _ => 'e'
  | .unterminatedString _ => 't'

theorem thirdLetter_append {start : String} {letter : Char} (long : start.toList[2]? = some letter)
    (rest : String) : (start ++ rest).toList[2]? = some letter := by
  obtain ⟨bound, _⟩ := List.getElem?_eq_some_iff.mp long
  rw [String.toList_append, List.getElem?_append_left bound, long]

theorem LexicalError.getElem?_message (error : LexicalError) :
    error.message.toList[2]? = some error.thirdLetter := by
  cases error with
  | invalidStart c p =>
      rw [message_invalidStart, String.append_assoc, String.append_assoc]
      apply thirdLetter_append
      rfl
  | unexpectedCharacter c p =>
      rw [message_unexpectedCharacter, String.append_assoc, String.append_assoc]
      apply thirdLetter_append
      rfl
  | unterminatedString p =>
      rw [message_unterminatedString]
      apply thirdLetter_append
      rfl

/-- A message determines the error but for the column within the line. -/
theorem LexicalError.withoutLineColumn_eq_of_message_eq {one two : LexicalError}
    (same : one.message = two.message) : one.withoutLineColumn = two.withoutLineColumn := by
  have letters : one.thirdLetter = two.thirdLetter := by
    apply Option.some.inj
    rw [← getElem?_message, ← getElem?_message, same]
  cases one with
  | invalidStart c p =>
      cases two with
      | invalidStart d q =>
          rw [message_invalidStart, message_invalidStart] at same
          obtain ⟨characters, places⟩ := eq_of_blame_eq same
          rw [withoutLineColumn, withoutLineColumn, characters, places]
      | unexpectedCharacter d q => exact absurd letters (show 'v' ≠ 'e' by decide)
      | unterminatedString q => exact absurd letters (show 'v' ≠ 't' by decide)
  | unexpectedCharacter c p =>
      cases two with
      | invalidStart d q => exact absurd letters (show 'e' ≠ 'v' by decide)
      | unexpectedCharacter d q =>
          rw [message_unexpectedCharacter, message_unexpectedCharacter] at same
          obtain ⟨characters, places⟩ := eq_of_blame_eq same
          rw [withoutLineColumn, withoutLineColumn, characters, places]
      | unterminatedString q => exact absurd letters (show 'e' ≠ 't' by decide)
  | unterminatedString p =>
      cases two with
      | invalidStart d q => exact absurd letters (show 't' ≠ 'v' by decide)
      | unexpectedCharacter d q => exact absurd letters (show 't' ≠ 'e' by decide)
      | unterminatedString q =>
          rw [message_unterminatedString, message_unterminatedString] at same
          have chars := congrArg String.toList same
          rw [String.toList_append, String.toList_append] at chars
          have places := String.toList_inj.mp (List.append_cancel_left chars)
          rw [withoutLineColumn, withoutLineColumn, Position.withoutLineColumn_eq_of_render_eq places]

theorem Token.oneLine_render (t : Token) : OneLine t.render := by
  have space : OneLine " " := by decide
  have colon : OneLine ":" := by decide
  have place : OneLine (toString t.position.line ++ ":" ++ toString t.position.column) :=
    ((Text.oneLine_toString _).append colon).append (Text.oneLine_toString _)
  have line := (((t.kind.oneLine_name.append space).append place).append space).append
    (Text.oneLine_quoteString t.text)
  simpa only [render, String.append_assoc] using line

/-!
### Lines and texts
-/

/-- A text has as many line feeds as lines. -/
theorem count_unlines {written : List String} (one : ∀ line ∈ written, OneLine line) :
    (unlines written).toList.count '\n' = written.length := by
  induction written with
  | nil => rfl
  | cons line more ih =>
      have later := ih fun other member => one other (List.mem_cons_of_mem line member)
      have none : line.toList.count '\n' = 0 := List.count_eq_zero.mpr (one line List.mem_cons_self)
      have text : unlines (line :: more) = line ++ "\n" ++ unlines more := by simp [unlines]
      rw [text, String.toList_append, String.toList_append, List.count_append, List.count_append, none, later,
        List.length_cons, Nat.add_comm]
      rfl

theorem eq_of_unlines_eq {written other : List String} (one : ∀ line ∈ written, OneLine line)
    (otherOne : ∀ line ∈ other, OneLine line) (same : unlines written = unlines other) :
    written = other := by
  have back := lines_unlines one
  rw [same, lines_unlines otherOne] at back
  exact (List.append_cancel_right back).symm

theorem oneLine_of_mem_map {α : Type} {write : α → String} (one : ∀ a, OneLine (write a)) (shown : List α) :
    ∀ line ∈ shown.map write, OneLine line := by
  intro line member
  obtain ⟨a, _, rfl⟩ := List.mem_map.mp member
  exact one a

/-- If each line determines what is seen in it, so do all of them, by induction on the lines. -/
theorem map_eq_of_map_eq {α β γ : Type} {write : α → β} {see : α → γ}
    (determined : ∀ {a b}, write a = write b → see a = see b) {shown other : List α}
    (same : shown.map write = other.map write) : shown.map see = other.map see := by
  induction shown generalizing other with
  | nil =>
      cases other with
      | nil => rfl
      | cons b other => cases same
  | cons a shown ih =>
      cases other with
      | nil => cases same
      | cons b other =>
          obtain ⟨first, later⟩ := List.cons.inj same
          rw [List.map_cons, List.map_cons, determined first, ih later]

/-- To forget the column within the line does not change how readings follow each other. -/
theorem Reading.map_merge_withoutLineColumn (tokens : List Token) (errors : List LexicalError) :
    (merge (tokens, errors)).map withoutLineColumn =
      merge (tokens.map Token.withoutLineColumn, errors.map LexicalError.withoutLineColumn) := by
  have columns (reading : Reading) : reading.withoutLineColumn.position.column = reading.position.column := by
    cases reading with
    | token t => rfl
    | error e => cases e <;> rfl
  rw [merge, List.map_merge (s := byColumn), merge, List.map_map, List.map_map, List.map_map, List.map_map]
  · rfl
  · intro first _ second _
    rw [byColumn, byColumn, columns, columns]

/-- Tokens and errors determine how they followed each other, also when a count of them is missing. -/
theorem readings_eq_of_split_eq {source other : String}
    (tokens : (tokenize source).1.map Token.withoutLineColumn =
      (tokenize other).1.map Token.withoutLineColumn)
    (errors : (tokenize source).2.map LexicalError.withoutLineColumn =
      (tokenize other).2.map LexicalError.withoutLineColumn) :
    (readings source.toList).map Reading.withoutLineColumn =
      (readings other.toList).map Reading.withoutLineColumn := by
  rw [← Reading.merge_split (increasing_readings source.toList),
    ← Reading.merge_split (increasing_readings other.toList)]
  have first := Reading.map_merge_withoutLineColumn (tokenize source).1 (tokenize source).2
  have second := Reading.map_merge_withoutLineColumn (tokenize other).1 (tokenize other).2
  rw [tokens, errors, ← second] at first
  exact first

/-!
### Runs
-/

/-- A run on a source without flags, with the log at its default and with a working output. -/
structure PlainRun (world : World) (words : List String) (input : Option String) (source : String) : Prop where
  understood : Arguments.parse words = .ok ⟨input, false, false⟩
  unset : world.setFilter? = none
  working : world.sink = .working
  readable : world.source ⟨input, false, false⟩ = .ok source

/-- What it means of a transcript that it records the scan of `source`: a line for each token, a line for
    each error, in order, and nothing else. It is of no consequence how records would be written. -/
structure Records (source : String) (transcript : Transcript) : Prop where
  output : transcript.output = unlines ((tokenize source).1.map Token.render)
  errors : ∀ format, transcript.errorText format = unlines ((tokenize source).2.map fun e => report e.message)
  /-- No token and no error adds a line feed to its line, or is without one. -/
  outputLines : lines transcript.output = (tokenize source).1.map Token.render ++ [""]
  errorLines : ∀ format,
    lines (transcript.errorText format) = ((tokenize source).2.map fun e => report e.message) ++ [""]
  outputFeeds : transcript.output.toList.count '\n' = (tokenize source).1.length
  errorFeeds : ∀ format, (transcript.errorText format).toList.count '\n' = (tokenize source).2.length

/-- Where only warnings pass an error has its report, and a token has nothing. -/
theorem Reading.account_of_default (reading : Reading) :
    reading.account (Log.admitsByDefault false) =
      (reading.error?.map fun e => Notice.report e.message).toList := by
  cases reading with
  | token t => rfl
  | error e => cases e <;> rfl

/-- With the log at its default there is a report of each error, and nothing else. -/
theorem notices_of_default (input : Option String) (source : String) :
    notices (Log.admitsByDefault false) (Event.ofSource ⟨input, false, false⟩ source) =
      ((tokenize source).2.map LexicalError.message).map .report := by
  rw [notices_ofSource, tokenize, Reading.split, List.map_map, List.map_filterMap,
    List.filterMap_eq_flatMap_toList]
  exact congrArg (readings source.toList).flatMap (funext Reading.account_of_default)

section Plain

variable {world : World} {words : List String} {input : Option String} {source : String}

/-- A plain run shows the tokens and reports the errors. -/
theorem PlainRun.run_eq (plain : PlainRun world words input source) :
    world.run words = ⟨if (tokenize source).2 = [] then 0 else 1,
      unlines ((tokenize source).1.map Token.render),
      ((tokenize source).2.map LexicalError.message).map .report⟩ := by
  have filter : world.admits ⟨input, false, false⟩ = Log.admitsByDefault false := by
    rw [World.admits, plain.unset]
    rfl
  have status := World.status_run plain.understood plain.working plain.readable
  have shown : outputLines (Event.ofSource ⟨input, false, false⟩ source) =
      (tokenize source).1.map Token.render := outputLines_ofSource rfl
  rw [World.run_of_readable plain.understood plain.working plain.readable, filter] at status ⊢
  rw [← status, ← notices_of_default input source, ← shown]
  rfl

theorem PlainRun.records (plain : PlainRun world words input source) : Records source (world.run words) := by
  have oneOutput := oneLine_of_mem_map Token.oneLine_render (tokenize source).1
  have oneErrors := oneLine_of_mem_map oneLine_report (tokenize source).2
  have text (format : Log.Format) : (world.run words).errorText format =
      unlines ((tokenize source).2.map fun e => report e.message) := by
    rw [plain.run_eq, Transcript.errorText, errorText_reports, unlines, List.map_map, List.map_map]
    rfl
  have output : (world.run words).output = unlines ((tokenize source).1.map Token.render) := by
    rw [plain.run_eq]
  constructor
  case output => exact output
  case errors => exact text
  case outputLines => rw [output]; exact lines_unlines oneOutput
  case errorLines => intro format; rw [text]; exact lines_unlines oneErrors
  case outputFeeds => rw [output]; exact (count_unlines oneOutput).trans (List.length_map _)
  case errorFeeds => intro format; rw [text]; exact (count_unlines oneErrors).trans (List.length_map _)

/-- A record determines the readings, but for their columns within the line. -/
theorem Records.readings_eq {other : String} {transcript otherTranscript : Transcript}
    {format otherFormat : Log.Format} (records : Records source transcript)
    (otherRecords : Records other otherTranscript) (sameOutput : transcript.output = otherTranscript.output)
    (sameErrors : transcript.errorText format = otherTranscript.errorText otherFormat) :
    (readings source.toList).map Reading.withoutLineColumn =
      (readings other.toList).map Reading.withoutLineColumn := by
  rw [records.output, otherRecords.output] at sameOutput
  rw [records.errors, otherRecords.errors] at sameErrors
  have tokenLines := eq_of_unlines_eq (oneLine_of_mem_map Token.oneLine_render _)
    (oneLine_of_mem_map Token.oneLine_render _) sameOutput
  have reportLines := eq_of_unlines_eq (oneLine_of_mem_map oneLine_report _)
    (oneLine_of_mem_map oneLine_report _) sameErrors
  apply readings_eq_of_split_eq
  · exact map_eq_of_map_eq Token.withoutLineColumn_eq_of_render_eq tokenLines
  · apply map_eq_of_map_eq _ reportLines
    intro one two reports
    have chars := congrArg String.toList reports
    rw [report, report, String.toList_append, String.toList_append] at chars
    have messages := String.toList_inj.mp (List.append_cancel_left chars)
    exact LexicalError.withoutLineColumn_eq_of_message_eq messages

/-- A run without flags records the scan of its source, and loses nothing of it: wherever the output and what
    stands on standard error are those of another such run, the two scans brought the same tokens and errors
    in the same order, with the same kinds, texts, characters and places, but for the columns within the
    line, which are shown nowhere. -/
theorem run_records (plain : PlainRun world words input source) :
    Records source (world.run words) ∧
    ∀ (others : World) (otherWords : List String) (otherInput : Option String) (other : String)
        (format otherFormat : Log.Format),
      PlainRun others otherWords otherInput other →
        (world.run words).output = (others.run otherWords).output →
        (world.run words).errorText format = (others.run otherWords).errorText otherFormat →
          (readings source.toList).map Reading.withoutLineColumn =
            (readings other.toList).map Reading.withoutLineColumn := by
  refine ⟨plain.records, ?_⟩
  intro others otherWords otherInput other format otherFormat otherPlain sameOutput sameErrors
  exact plain.records.readings_eq otherPlain.records sameOutput sameErrors

end Plain

/-- A world with a text in the file `/tmp/a.src`. -/
def plainWorld (text : String) : World := .ofFile "/tmp/a.src" text none .working

theorem plainRun_plainWorld (text : String) :
    PlainRun (plainWorld text) ["/tmp/a.src"] (some "/tmp/a.src") text :=
  ⟨rfl, rfl, rfl, World.source_ofFile (by decide) _ _ _ _ _⟩

/-- For instance a blank before a line feed and behind it: the two runs look alike, and the column within the
    line is all that differs. -/
theorem run_records_around_line_feed :
    PlainRun (plainWorld "\n !a") ["/tmp/a.src"] (some "/tmp/a.src") "\n !a" ∧
      PlainRun (plainWorld " \n!a") ["/tmp/a.src"] (some "/tmp/a.src") " \n!a" ∧
      Records "\n !a" ((plainWorld "\n !a").run ["/tmp/a.src"]) ∧
      ((plainWorld "\n !a").run ["/tmp/a.src"]).output = "ID 1:3 \"a\"\nEOF 1:4 \"\"\n" ∧
      (readings "\n !a".toList).map Reading.withoutLineColumn =
        (readings " \n!a".toList).map Reading.withoutLineColumn ∧
      readings "\n !a".toList ≠ readings " \n!a".toList := by
  have first := plainRun_plainWorld "\n !a"
  have second := plainRun_plainWorld " \n!a"
  obtain ⟨records, lossless⟩ := run_records first
  have sameOutput : ((plainWorld "\n !a").run ["/tmp/a.src"]).output =
      ((plainWorld " \n!a").run ["/tmp/a.src"]).output := by
    rw [first.records.output, second.records.output]
    decide +kernel
  have sameErrors : ((plainWorld "\n !a").run ["/tmp/a.src"]).errorText .plain =
      ((plainWorld " \n!a").run ["/tmp/a.src"]).errorText .plain := by
    rw [first.records.errors, second.records.errors]
    decide +kernel
  refine ⟨first, second, records, ?_, lossless _ _ _ _ _ _ second sameOutput sameErrors, by decide +kernel⟩
  rw [records.output]
  decide +kernel

end MaximalMunch
