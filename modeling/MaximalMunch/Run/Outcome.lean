/-
Module: MaximalMunch.Run.Outcome
Layer: Program
Purpose: What is seen of a run in a world. With an output that takes everything all events of the source leave
  their marks (`World.run_forM_of_working`); with one that refuses, the first token line is where they end
  (`World.run_forM_of_refusing`). Either way what can be seen of the run is the transcript of the events. A source
  that cannot be read and a command line that does not lead to a run have transcripts of their own, and there is
  nothing else that a run can come to (`World.run_eq`).
Imports: MaximalMunch.Run.Performance, MaximalMunch.Run.World
Trusted boundary: none
Main exports: World.run_forM_of_working, World.run_forM_of_refusing, World.run_of_source, World.run_eq,
  World.run_of_readable, World.status_run
Open obligations: none
-/
import MaximalMunch.Run.Performance
import MaximalMunch.Run.World

namespace MaximalMunch

open CommandLine (Arguments)

/-!
### The marks of events

A world is asked one thing after the other and keeps what is written. Events that need no output leave the same
marks in every world.
-/

namespace World

variable {world : World} {admits : Log.Heading → Bool}

/-- Events that need no output leave their notices, if they leave any. -/
theorem run_perform_of_not_printed {event : Event} (silent : event.isPrinted = false) (written : Written) :
    (world.host.perform admits event).run.run written =
      pure (.ok (), ⟨written.output, written.notices ++ (event.notice? admits).toList⟩) := by
  cases event with
  | printed t => cases silent
  | complained e => rfl
  | logged record =>
      rw [Host.perform, Host.log, Event.notice?]
      cases admits record.heading with
      | true => rfl
      | false =>
          rw [if_neg Bool.false_ne_true, if_neg Bool.false_ne_true, Option.toList_none, List.append_nil]
          rfl

/-- A working output takes the line of a token, so that every event leaves its marks. -/
theorem run_perform_of_working (working : world.sink = .working) (event : Event) (written : Written) :
    (world.host.perform admits event).run.run written =
      pure (.ok (), ⟨written.output ++ unlines event.outputLine?.toList,
        written.notices ++ (event.notice? admits).toList⟩) := by
  cases prints : event.isPrinted with
  | false =>
      rw [run_perform_of_not_printed prints, Event.outputLine?_of_not_printed prints, Option.toList_none,
        unlines_nil, String.append_empty]
  | true =>
      obtain ⟨t, rfl⟩ := Event.exists_of_isPrinted prints
      have line : unlines [t.render] = t.render ++ "\n" := by simp [unlines]
      simp only [Host.perform, Host.printToken, host, working, Event.outputLine?, Option.toList_some,
        line, Event.notice?, Option.toList_none, List.append_nil]
      rfl

/-- An output that refuses does not take the line, and says why. -/
theorem run_perform_printed_of_refusing {cause : String} (refusing : world.sink = .refusing cause) (t : Token)
    (written : Written) :
    (world.host.perform admits (.printed t)).run.run written = pure (.error (.write cause), written) := by
  simp only [Host.perform, Host.printToken, host, refusing]
  rfl

/-- With a working output all events leave their marks. -/
theorem run_forM_of_working (admits : Log.Heading → Bool) (working : world.sink = .working)
    (events : List Event) (written : Written) :
    (forM events (world.host.perform admits)).run.run written =
      pure (.ok (), ⟨written.output ++ unlines (outputLines events),
        written.notices ++ notices admits events⟩) := by
  induction events generalizing written with
  | nil => simp [outputLines, notices, unlines]
  | cons event events ih =>
      rw [List.forM_cons, ExceptT.run_bind, StateT.run_bind, run_perform_of_working working]
      simp only [pure_bind]
      rw [ih, outputLines_cons, notices_cons, unlines_append, String.append_assoc, List.append_assoc]

/-- With an output that refuses, the first line that is to be printed is where they end; nothing happens of what
    comes after. -/
theorem run_forM_of_refusing {cause : String} (admits : Log.Heading → Bool)
    (refusing : world.sink = .refusing cause) (events : List Event) (written : Written) :
    (forM events (world.host.perform admits)).run.run written =
      if events.any Event.isPrinted then
        pure (.error (.write cause),
          ⟨written.output, written.notices ++ notices admits (events.takeWhile (!·.isPrinted))⟩)
      else
        pure (.ok (), ⟨written.output ++ unlines (outputLines events),
          written.notices ++ notices admits events⟩) := by
  induction events generalizing written with
  | nil => simp [outputLines, notices, unlines]
  | cons event events ih =>
      rw [List.forM_cons, ExceptT.run_bind, StateT.run_bind, List.any_cons, List.takeWhile_cons]
      cases prints : event.isPrinted with
      | true =>
          -- The line is refused, and what stands behind it is not asked for.
          obtain ⟨t, rfl⟩ := Event.exists_of_isPrinted prints
          rw [run_perform_printed_of_refusing refusing, Bool.not_true, if_neg Bool.false_ne_true]
          simp only [pure_bind, notices, List.filterMap_nil, List.append_nil]
          rfl
      | false =>
          rw [run_perform_of_not_printed prints, Bool.false_or, Bool.not_false, if_pos rfl, outputLines_cons,
            Event.outputLine?_of_not_printed prints, notices_cons, notices_cons]
          simp only [pure_bind, ih, List.append_assoc, Option.toList_none, List.nil_append]

/-!
### From the words to the status

A command line is understood or not, a source is read or not, and then there are the events of it.
-/

variable {words : List String} {arguments : Arguments} {text : String}

/-- A scan that has come to its end decides the status. -/
theorem run_of_ended (understood : Arguments.parse words = .ok arguments) {clean : Bool} {written : Written}
    (ends : (world.host.scan arguments).run.run ⟨"", []⟩ = pure (.ok clean, written)) :
    world.run words = ⟨if clean then 0 else 1, written.output, written.notices⟩ := by
  rw [run, Host.run, understood]
  simp only [StateT.run_bind, ends, pure_bind]
  rfl

/-- A scan that fails is reported and has the status two. -/
theorem run_of_failed (understood : Arguments.parse words = .ok arguments) {failure : Failure}
    {written : Written}
    (fails : (world.host.scan arguments).run.run ⟨"", []⟩ = pure (.error failure, written)) :
    world.run words = ⟨2, written.output, written.notices ++ [.report failure.message]⟩ := by
  rw [run, Host.run, understood]
  simp only [StateT.run_bind, fails, pure_bind]
  rfl

/-- The filter of a world is at hand; to ask for it writes nothing. -/
theorem setFilter?_host (world : World) :
    (liftM world.host.setFilter? : ExceptT Failure (StateM Written) (Option (Log.Heading → Bool))) =
      pure world.setFilter? := rfl

/-- What the host of a world reads is the source of that world. -/
theorem source_host (world : World) (arguments : Arguments) :
    world.host.source arguments = ExceptT.mk (pure (world.source arguments)) := by
  rw [Host.source, source]
  cases Origin.ofArguments arguments <;> rfl

/-- Where there is a source a scan does the events of it, and comes to where they come to. -/
theorem run_scan_of_events (readable : world.source arguments = .ok text) {done : Except Failure Unit}
    {written : Written}
    (events : (forM (Event.ofSource arguments text) (world.host.perform (world.admits arguments))).run.run
      ⟨"", []⟩ = pure (done, written)) :
    (world.host.scan arguments).run.run ⟨"", []⟩ =
      pure (done.map fun _ => !(Event.ofSource arguments text).any Event.isComplained, written) := by
  have source : (ExceptT.mk (pure (.ok text)) : ExceptT Failure (StateM Written) String) = pure text := rfl
  rw [Host.scan_eq, setFilter?_host, pure_bind, source_host, readable, source, pure_bind, ← World.admits,
    ExceptT.run_bind, StateT.run_bind, events]
  cases done <;> rfl

/-- If all events of the source are done, all that can be seen of them is. -/
theorem run_of_events (understood : Arguments.parse words = .ok arguments)
    (readable : world.source arguments = .ok text)
    (events : (forM (Event.ofSource arguments text) (world.host.perform (world.admits arguments))).run.run
      ⟨"", []⟩ = pure (.ok (), ⟨"" ++ unlines (outputLines (Event.ofSource arguments text)),
        [] ++ notices (world.admits arguments) (Event.ofSource arguments text)⟩)) :
    world.run words = .ofAllEvents (world.admits arguments) (Event.ofSource arguments text) := by
  rw [run_of_ended understood (run_scan_of_events readable events), Transcript.ofAllEvents, String.empty_append,
    List.nil_append]
  cases (Event.ofSource arguments text).any Event.isComplained <;> rfl

/-- What is seen of a run on a source is what is to be seen of its events. -/
theorem run_of_source (understood : Arguments.parse words = .ok arguments)
    (readable : world.source arguments = .ok text) :
    world.run words = .ofEvents (world.admits arguments) world.sink (Event.ofSource arguments text) := by
  cases sink : world.sink with
  | working => exact run_of_events understood readable (run_forM_of_working _ sink _ _)
  | refusing cause =>
      have events := run_forM_of_refusing (world.admits arguments) sink (Event.ofSource arguments text)
        ⟨"", []⟩
      rw [Transcript.ofEvents]
      cases prints : (Event.ofSource arguments text).any Event.isPrinted with
      | true =>
          rw [prints, if_pos rfl] at events
          exact run_of_failed understood (run_scan_of_events readable events)
      | false =>
          rw [prints, if_neg Bool.false_ne_true] at events
          exact run_of_events understood readable events

/-- Where there is no source, that is all that is said. -/
theorem run_of_unreadable (understood : Arguments.parse words = .ok arguments) {failure : Failure}
    (unreadable : world.source arguments = .error failure) :
    world.run words = ⟨2, "", [.report failure.message]⟩ := by
  have fails : (world.host.scan arguments).run.run ⟨"", []⟩ = pure (.error failure, ⟨"", []⟩) := by
    rw [Host.scan, setFilter?_host, pure_bind, source_host, unreadable]
    rfl
  exact run_of_failed understood fails

/-- Where there are no arguments, it is said why. -/
theorem run_of_stop {stop : CommandLine.Stop} (stopped : Arguments.parse words = .error stop) :
    world.run words = .ofStop world.sink stop := by
  rw [run, Host.run, stopped, Transcript.ofStop]
  simp only [Host.dismiss]
  cases stop.isMistake with
  | true =>
      rw [Bool.not_true, Bool.and_false]
      rfl
  | false =>
      simp only [host]
      cases world.sink <;> rfl

/-- All that can be seen of a run, whatever the world and whatever the words. -/
theorem run_eq (world : World) (words : List String) :
    world.run words =
      match Arguments.parse words with
      | .error stop => .ofStop world.sink stop
      | .ok arguments =>
          match world.source arguments with
          | .error failure => ⟨2, "", [.report failure.message]⟩
          | .ok text => .ofEvents (world.admits arguments) world.sink (Event.ofSource arguments text) := by
  cases understood : Arguments.parse words with
  | error stop => exact run_of_stop understood
  | ok arguments =>
      cases readable : world.source arguments with
      | error failure => simpa only [readable] using run_of_unreadable understood readable
      | ok text => simpa only [readable] using run_of_source understood readable

/-- With a working output everything is seen. -/
theorem run_of_readable (understood : Arguments.parse words = .ok arguments) (working : world.sink = .working)
    (readable : world.source arguments = .ok text) :
    world.run words = .ofAllEvents (world.admits arguments) (Event.ofSource arguments text) := by
  rw [run_of_source understood readable, working, Transcript.ofEvents]

/-- With a working output the status says whether there is an error. -/
theorem status_run (understood : Arguments.parse words = .ok arguments) (working : world.sink = .working)
    (readable : world.source arguments = .ok text) :
    (world.run words).status = if (tokenize text).2 = [] then 0 else 1 := by
  rw [run_of_readable understood working readable]
  exact Transcript.status_ofAllEvents _ arguments text

end World

end MaximalMunch
