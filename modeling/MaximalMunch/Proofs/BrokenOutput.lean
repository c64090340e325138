/-
Module: MaximalMunch.Proofs.BrokenOutput
Layer: Proofs
Purpose: What a run does whose output takes nothing. Every source has a token, if only the end of input, and
  at the first of them the run ends with a failure. Up to there it has written on standard error what it
  writes with a working output: the announcement, the account of the errors in front of that token, and the
  record of the token itself, which comes before the token is printed (`Event.ofSource_eq_append`). Behind
  that stands the failure, whatever its reason, and nothing of what comes later. Only a run that fails fast
  can end before, at an error in front of all tokens, and then it does not notice its output. The main result
  is `run_breaks`.
Imports: MaximalMunch.Proofs.Logging
Trusted boundary: none
Main exports: Event.ofSource_eq_append, Transcript.ofEvents_of_split, BreaksAtFirstToken, Breaks, run_breaks
Open obligations: none
-/
import MaximalMunch.Proofs.Logging

namespace MaximalMunch

open CommandLine (Arguments)

/-!
### The first token
-/

/-- In front of the first token there are errors. -/
theorem exists_first_token {readings : List Reading} {t : Token} (has : .token t ∈ readings) :
    ∃ (errors : List LexicalError) (first : Token) (later : List Reading),
      readings = errors.map Reading.error ++ .token first :: later := by
  induction readings with
  | nil => cases has
  | cons reading readings ih =>
      cases reading with
      | token first => exact ⟨[], first, readings, rfl⟩
      | error e =>
          have further : .token t ∈ readings := by
            cases has with
            | tail _ further => exact further
          obtain ⟨errors, first, later, rfl⟩ := ih further
          exact ⟨e :: errors, first, later, rfl⟩

/-- Every source has a first token, if only the end of input. -/
theorem readings_first_token (source : List Char) :
    ∃ (errors : List LexicalError) (first : Token) (later : List Reading),
      readings source = errors.map Reading.error ++ .token first :: later := by
  obtain ⟨results, split, _, _⟩ := readings_eq_concat source
  apply exists_first_token (t := .atEndOf source)
  rw [split]
  exact List.mem_append_right results List.mem_cons_self

/-!
### The events up to it
-/

/-- Nothing is printed on an error. -/
theorem Reading.isPrinted_of_mem_events {e : LexicalError} {event : Event}
    (member : event ∈ (Reading.error e).events) : event.isPrinted = false := by
  cases List.mem_append.mp member with
  | inl logged =>
      obtain ⟨record, _, rfl⟩ := List.mem_map.mp logged
      rfl
  | inr told =>
      cases List.mem_singleton.mp told
      rfl

variable {admits : Log.Heading → Bool} {arguments : Arguments} {source : String}

/-- Where there is a first token, nothing is printed before it; the log has spoken of it, and of all that
    stands in front of it. -/
theorem Event.ofSource_eq_append {errors : List LexicalError} {first : Token} {later : List Reading}
    (split : Event.ofReadings arguments.failFast (readings source.toList) =
      (errors.map Reading.error ++ .token first :: later).flatMap Reading.events) :
    ∃ front, Event.ofSource arguments source = front ++ .printed first :: later.flatMap Reading.events ∧
      (∀ event ∈ front, event.isPrinted = false) ∧
      ∀ admits, notices admits front =
        announcement admits arguments.input source.length ++
          (errors.map Reading.error ++ [Reading.token first]).flatMap (Reading.account admits) := by
  refine ⟨.logged (.scanning arguments.input source.length) ::
    ((errors.map Reading.error).flatMap Reading.events ++ [.logged (.token first)]), ?_, ?_, ?_⟩
  · rw [Event.ofSource, split, List.flatMap_append]
    simp [Reading.events]
  · intro event member
    cases member with
    | head => rfl
    | tail _ member =>
        cases List.mem_append.mp member with
        | inl inErrors =>
            obtain ⟨reading, isError, inEvents⟩ := List.mem_flatMap.mp inErrors
            obtain ⟨e, _, rfl⟩ := List.mem_map.mp isError
            exact Reading.isPrinted_of_mem_events inEvents
        | inr last =>
            cases List.mem_singleton.mp last
            rfl
  · intro admits
    rw [notices_logged_cons, notices_append, notices_flatMap, notices_logged_cons, List.flatMap_append,
      List.flatMap_singleton]
    exact congrArg _ (congrArg _ (List.append_nil _))

namespace Transcript

/-- An output that takes nothing is noticed at the first line that is printed. -/
theorem ofEvents_of_split {front rest : List Event} {first : Token} (cause : String)
    (silent : ∀ event ∈ front, event.isPrinted = false) :
    ofEvents admits (.refusing cause) (front ++ .printed first :: rest) =
      ⟨2, "", MaximalMunch.notices admits front ++ [.report (Failure.write cause).message]⟩ := by
  have prints : (front ++ .printed first :: rest).any Event.isPrinted = true := by
    rw [List.any_append, List.any_cons]
    exact Bool.or_true _
  have before : (front ++ .printed first :: rest).takeWhile (!·.isPrinted) = front := by
    rw [List.takeWhile_append_of_pos]
    · exact List.append_nil front
    · intro event member
      rw [silent event member]
      rfl
  rw [ofEvents, prints, if_pos rfl, before]

/-- If nothing is printed, it is not noticed that the output takes nothing. -/
theorem ofEvents_of_silent {events : List Event} (sink : Sink)
    (silent : events.any Event.isPrinted = false) :
    ofEvents admits sink events = ofAllEvents admits events := by
  cases sink with
  | working => rfl
  | refusing cause =>
      rw [ofEvents, silent]
      rfl

end Transcript

/-!
### A run with a broken output
-/

/-- The broken run is the working one up to the first token, and the failure. -/
structure BreaksAtFirstToken (admits : Log.Heading → Bool) (cause : String) (arguments : Arguments)
    (source : String) (working broken : Transcript) : Prop where
  status : broken.status = 2
  output : broken.output = ""
  errors : ∃ (errors : List LexicalError) (first : Token) (later : List Reading)
      (front : List Notice),
    readings source.toList = errors.map Reading.error ++ .token first :: later ∧
    front = announcement admits arguments.input source.length ++
      (errors.map Reading.error ++ [Reading.token first]).flatMap (Reading.account admits) ∧
    working.notices = front ++ later.flatMap (Reading.account admits) ∧
    broken.notices = front ++ [.report ("failed to write output: " ++ cause)] ∧
    ∀ format, (errorText format front).toList <+: (working.errorText format).toList ∧
      broken.errorText format =
        errorText format front ++ ("error: failed to write output: " ++ cause ++ "\n")

/-- What a run comes to whose output takes nothing. -/
structure Breaks (world : World) (cause : String) (words : List String) (arguments : Arguments)
    (source : String) : Prop where
  /-- Without the fail-fast option it ends at the first token. -/
  plain : arguments.failFast = false →
    BreaksAtFirstToken (world.admits arguments) cause arguments source
      (World.run { world with sink := .working } words) (world.run words)
  /-- With it, a run ends before at an error in front of all tokens, as it does with a working output. -/
  onError : arguments.failFast = true → ∀ e later, readings source.toList = .error e :: later →
    world.run words = World.run { world with sink := .working } words ∧ (world.run words).status = 1 ∧
      (world.run words).reports = [report e.message]
  /-- Else it ends at that token, and the option makes no difference. -/
  onToken : arguments.failFast = true → ∀ t later, readings source.toList = .token t :: later →
    world.run words = ⟨2, "", announcement (world.admits arguments) arguments.input source.length ++
      Reading.account (world.admits arguments) (.token t) ++
        [.report ("failed to write output: " ++ cause)]⟩ ∧
    ∀ plainWords, Arguments.parse plainWords = .ok { arguments with failFast := false } →
      world.run words = world.run plainWords

/-- Without the fail-fast option the events of a source break at the first token. -/
theorem breaksAtFirstToken_ofEvents (admits : Log.Heading → Bool) (cause : String)
    (off : arguments.failFast = false) :
    BreaksAtFirstToken admits cause arguments source
      (.ofAllEvents admits (Event.ofSource arguments source))
      (.ofEvents admits (.refusing cause) (Event.ofSource arguments source)) := by
  obtain ⟨errors, first, later, split⟩ := readings_first_token source.toList
  have whole : Event.ofReadings arguments.failFast (readings source.toList) =
      (errors.map Reading.error ++ .token first :: later).flatMap Reading.events := by
    rw [off, split]
    rfl
  obtain ⟨front, happens, silent, accounted⟩ := Event.ofSource_eq_append whole
  have all : notices admits (Event.ofSource arguments source) =
      notices admits front ++ later.flatMap (Reading.account admits) := by
    rw [happens, notices_append, notices_cons, notices_flatMap]
    rfl
  rw [happens, Transcript.ofEvents_of_split cause silent, ← happens]
  refine ⟨rfl, rfl, errors, first, later, notices admits front, split, accounted admits, all, rfl, ?_⟩
  intro format
  constructor
  · exact errorText_prefix format ⟨_, all.symm⟩
  · have words : report (Failure.write cause).message = "error: failed to write output: " ++ cause := by
      have front : "error: failed to write output: " = "error: " ++ "failed to write output: " := by decide
      rw [report, Failure.message_write, front, String.append_assoc]
    rw [Transcript.errorText, errorText_append_report, words]

section Run

variable {world : World} {words : List String} {cause : String}

/-- A run that fails fast at an error in front of all tokens does not notice its output. -/
theorem run_failFast_of_error {e : LexicalError} {later : List Reading}
    (understood : Arguments.parse words = .ok arguments) (readable : world.source arguments = .ok source)
    (on : arguments.failFast = true) (split : readings source.toList = .error e :: later) :
    world.run words = World.run { world with sink := .working } words ∧
      (world.run words).status = 1 ∧ (world.run words).reports = [report e.message] := by
  have happens : Event.ofSource arguments source =
      .logged (.scanning arguments.input source.length) :: (Reading.error e).events := by
    rw [Event.ofSource, on, split, Event.ofReadings_cons]
    rfl
  have silent : (Event.ofSource arguments source).any Event.isPrinted = false := by
    rw [happens, List.any_cons]
    apply List.any_eq_false.mpr
    intro event member
    rw [Reading.isPrinted_of_mem_events member]
    exact Bool.false_ne_true
  have complains : (Event.ofSource arguments source).any Event.isComplained = true := by
    rw [happens, List.any_cons, Reading.any_isComplained_events]
    rfl
  have readableWorking : World.source { world with sink := .working } arguments = .ok source := readable
  rw [World.run_of_source understood readable, World.run_of_source understood readableWorking,
    Transcript.ofEvents_of_silent _ silent]
  refine ⟨rfl, ?_, ?_⟩
  · rw [Transcript.ofAllEvents, complains]
    rfl
  · refine (reports_notices _ _).trans ?_
    rw [happens]
    cases e <;> rfl

/-- A source that begins with a token leaves no room for the option: it is at that token that the run ends. -/
theorem run_of_first_token {t : Token} {later : List Reading}
    (understood : Arguments.parse words = .ok arguments) (refusing : world.sink = .refusing cause)
    (readable : world.source arguments = .ok source) (split : readings source.toList = .token t :: later) :
    world.run words = ⟨2, "", announcement (world.admits arguments) arguments.input source.length ++
      Reading.account (world.admits arguments) (.token t) ++
        [.report ("failed to write output: " ++ cause)]⟩ := by
  have behind : ∃ behind, Event.ofReadings arguments.failFast (readings source.toList) =
      (([] : List LexicalError).map Reading.error ++ Reading.token t :: behind).flatMap Reading.events := by
    cases on : arguments.failFast with
    | false =>
        refine ⟨later, ?_⟩
        rw [split]
        rfl
    | true =>
        refine ⟨throughFirstError later, ?_⟩
        rw [split, Event.ofReadings, if_pos rfl, throughFirstError_cons]
        rfl
  obtain ⟨behind, whole⟩ := behind
  obtain ⟨front, happens, silent, accounted⟩ := Event.ofSource_eq_append whole
  rw [World.run_of_source understood readable, refusing, happens, Transcript.ofEvents_of_split cause silent,
    accounted, Failure.message_write, List.map_nil, List.nil_append, List.flatMap_singleton]

/-- Whatever the source, whatever is logged and for whatever reason the output takes nothing: the run ends at
    the first token, with what the run with a working output has written by then and the failure to write; a
    run that fails fast ends there too, or is the run with a working output if an error comes first. -/
theorem run_breaks (understood : Arguments.parse words = .ok arguments)
    (refusing : world.sink = .refusing cause) (readable : world.source arguments = .ok source) :
    Breaks world cause words arguments source := by
  have readableWorking : World.source { world with sink := .working } arguments = .ok source := readable
  constructor
  case plain =>
    intro off
    rw [World.run_of_source understood readable, refusing,
      World.run_of_readable understood rfl readableWorking]
    exact breaksAtFirstToken_ofEvents (world.admits arguments) cause off
  case onError =>
    intro on e later split
    exact run_failFast_of_error understood readable on split
  case onToken =>
    intro on t later split
    refine ⟨run_of_first_token understood refusing readable split, ?_⟩
    intro plainWords understoodPlain
    have readablePlain : world.source { arguments with failFast := false } = .ok source := readable
    rw [run_of_first_token understood refusing readable split,
      run_of_first_token understoodPlain refusing readablePlain split]
    rfl

/-- A world with `! a` in the file `/tmp/a.src`, a full device behind the output, and everything logged. -/
def fullWorld : World := .ofFile "/tmp/a.src" "! a" (some fun _ => true) .full

/-- For instance `! a`, where the error comes before the token. -/
theorem run_breaks_behind_bang :
    Arguments.parse ["/tmp/a.src"] = .ok ⟨some "/tmp/a.src", false, false⟩ ∧
      fullWorld.source ⟨some "/tmp/a.src", false, false⟩ = .ok "! a" ∧
      Breaks fullWorld "No space left on device (os error 28)" ["/tmp/a.src"]
        ⟨some "/tmp/a.src", false, false⟩ "! a" ∧
      (fullWorld.run ["/tmp/a.src"]).errors = unlines
        ["DEBUG scanning input=Some(\"/tmp/a.src\") chars=3",
          "DEBUG lexical error error=unexpected character '!' at line 0, column 0",
          "error: unexpected character '!' at line 0, column 0",
          "TRACE token kind=ID line=0 column=2 text=\"a\"",
          "error: failed to write output: No space left on device (os error 28)"] := by
  have readable : fullWorld.source ⟨some "/tmp/a.src", false, false⟩ = .ok "! a" :=
    World.source_ofFile (by decide) _ _ _ _ _
  have plain : Arguments.parse ["/tmp/a.src"] = .ok ⟨some "/tmp/a.src", false, false⟩ := rfl
  refine ⟨plain, readable, run_breaks plain rfl readable, ?_⟩
  rw [World.run_of_source plain readable]
  decide +kernel

end Run

end MaximalMunch
