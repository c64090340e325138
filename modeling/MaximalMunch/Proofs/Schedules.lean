/-
Module: MaximalMunch.Proofs.Schedules
Layer: Proofs
Purpose: However a source is scanned, it is the same stream that is read. The stream of a source is what an
  iteration brings and then its end of input for ever, which is what pulling brings from the start
  (`nthReading_ofChars`). A scanner is known, all but for the flag of iteration, by how many elements of the
  stream have been read from it, and that flag by whether its past ended the iteration; `Traces` says so of
  one scanner and `Follows` of all scanners of a session. A step reads the next few elements, none, one or all
  up to the end of input (`exists_step_eq`), so every step keeps the bond between a session and its past
  (`follows_step`), and a script does by induction from its end (`follows_past`). The main result,
  `run_readsStream`, reads off what is promised to those who mix pulls, iteration and copies.
Imports: MaximalMunch.Proofs.Progress, MaximalMunch.Scanner.Past, Mathlib.Data.List.Induction
Trusted boundary: none
Main exports: stream, nthReading_ofChars, Session.Traces, exists_step_eq, Session.Follows, follows_step,
  mem_readings_of_mem_entries, Session.ReadsStream, run_readsStream
Open obligations: none
-/
import MaximalMunch.Proofs.Progress
import MaximalMunch.Scanner.Past
import Mathlib.Data.List.Induction

namespace MaximalMunch

/-- The stream of a source: all that an iteration brings, and then its end of input again and again. -/
def stream (source : List Char) (n : Nat) : Reading :=
  (readings source)[n]?.getD (.token (.atEndOf source))

/-- Where a scan of a source stands that has read `n` elements of its stream. -/
def placeAfter (source : List Char) (n : Nat) : Position :=
  (Scanner.afterPulls n (.ofChars source)).position

/-- Behind an end of input the stream has nothing else. -/
theorem stream_of_isEnd {source : List Char} {m n : Nat} (ending : (stream source m).isEnd = true)
    (behind : m ≤ n) : stream source n = .token (.atEndOf source) := by
  obtain ⟨results, split, noEnd, _⟩ := readings_eq_concat source
  have passed : results.length ≤ m := by
    rcases Nat.lt_or_ge m results.length with inside | outside
    · have found : stream source m = results[m] := by
        rw [stream, split, List.getElem?_append_left inside, List.getElem?_eq_getElem inside,
          Option.getD_some]
      rw [found, noEnd _ (List.getElem_mem inside)] at ending
      cases ending
    · exact outside
  rw [stream, split, List.getElem?_append_right (Nat.le_trans passed behind)]
  cases n - results.length <;> rfl

/-- Pulling from the start reads the stream. -/
theorem nthReading_ofChars (source : List Char) (n : Nat) :
    (Scanner.ofChars source).nthReading n = stream source n := by
  obtain ⟨last, ending, drained⟩ := (Scanner.ofChars source).exists_drain_eq rfl
  have brings : readings source = (List.range (last + 1)).map (Scanner.ofChars source).nthReading :=
    congrArg Prod.fst drained
  rcases Nat.lt_or_ge last n with behind | inside
  · have start : (Scanner.ofChars source).cursor.ReadsFrom source := Cursor.readsFrom_ofChars source
    have reads := Scanner.readsFrom_afterPulls start last
    have beyond := (Scanner.nthReading_of_isEnd reads ending (n - last)).1
    rw [Scanner.nthReading_afterPulls, Nat.add_sub_of_le (Nat.le_of_lt behind)] at beyond
    rw [beyond, stream, brings, List.getElem?_eq_none, Option.getD_none]
    rw [List.length_map, List.length_range]
    exact behind
  · rw [stream, brings, List.getElem?_map, List.getElem?_range (Nat.lt_succ_of_le inside)]
    rfl

/-- Every element of the stream is a reading of the source, the end of input for ever. -/
theorem stream_mem_readings (source : List Char) (n : Nat) : stream source n ∈ readings source := by
  rw [stream]
  cases found : (readings source)[n]? with
  | some reading => exact List.mem_of_getElem? found
  | none =>
      obtain ⟨results, split, _⟩ := readings_eq_concat source
      rw [split]
      exact List.mem_concat_self

namespace Session

variable {source : List Char}

/-!
### A session and its past

The bond between a scanner and its past is all that a step has to keep. A copy takes the bond along.
-/

/-- The scanner has come from the start of the source by this past: what the past brought is the first
    elements of the stream, and the scanner is what pulling as often leaves, but for the flag of iteration,
    which tells whether the past ended it. -/
structure Traces (source : List Char) (entries : List Entry) (scanner : Scanner) : Prop where
  reads : brought entries = (List.range (brought entries).length).map (stream source)
  state : scanner = (Scanner.afterPulls (brought entries).length (.ofChars source)).withFinished
    (ended entries)

/-- A fresh scanner has no past. -/
theorem traces_nil (source : List Char) : Traces source [] (.ofChars source) := ⟨rfl, rfl⟩

namespace Traces

variable {entries : List Entry} {scanner : Scanner}

/-- What a scanner brings next is the stream from where its past has come to. -/
theorem nthReading (traces : Traces source entries scanner) (n : Nat) :
    scanner.nthReading n = stream source ((brought entries).length + n) := by
  rw [traces.state, Scanner.nthReading_withFinished, Scanner.nthReading_afterPulls, nthReading_ofChars]

/-- Its iteration has ended exactly if its past says so. -/
theorem finished (traces : Traces source entries scanner) : scanner.finished = ended entries := by
  rw [traces.state]
  rfl

/-- Some pulls that are entered keep the bond. -/
theorem concat (traces : Traces source entries scanner) {entry : Entry} {n : Nat}
    (brings : entry.readings = (List.range n).map scanner.nthReading) :
    Traces source (entries ++ [entry])
      ((Scanner.afterPulls n scanner).withFinished (scanner.finished || entry.endsIteration)) := by
  have more : entry.readings = (List.range n).map fun i => stream source ((brought entries).length + i) := by
    rw [brings]
    exact List.map_congr_left fun i _ => traces.nthReading i
  have count : (brought (entries ++ [entry])).length = (brought entries).length + n := by
    rw [brought_concat, List.length_append, more, List.length_map, List.length_range]
  constructor
  case reads =>
    rw [count, List.range_add, List.map_append, List.map_map, ← traces.reads, brought_concat, more]
    rfl
  case state =>
    rw [count, ended_concat, traces.finished, Scanner.afterPulls_add]
    rw [traces.state, Scanner.afterPulls_withFinished]
    rfl

end Traces

/-- Each scanner of a session has come from the start of the source by its past. -/
structure Follows (source : List Char) (past : Past) (session : Session) : Prop where
  current : Traces source past.current session.scanner
  saved : List.Forall₂ (Traces source) past.saved session.saved

theorem Follows.concat {past : Past} {session : Session} (follows : Follows source past session)
    {step : Step} (noSave : step ≠ .save) (noRestore : step ≠ .restore) :
    Follows source { past with current := past.current ++ [⟨step, (session.step step).1⟩] }
      (session.step step).2 := by
  obtain ⟨n, brings, leaves⟩ := session.exists_step_eq noSave noRestore
  rw [leaves]
  exact ⟨follows.current.concat brings, follows.saved⟩

/-- Whatever step is taken, the session follows its past: a copy takes the past along that it was made with.
    -/
theorem follows_step {past : Past} {session : Session} (follows : Follows source past session)
    (step : Step) :
    Follows source (past.record ⟨step, (session.step step).1⟩) (session.step step).2 := by
  cases step with
  -- A copy takes its past along, and both stacks grow and shrink together.
  | save => exact ⟨follows.current, .cons follows.current follows.saved⟩
  | restore =>
      obtain ⟨scanner, saved⟩ := session
      obtain ⟨entries, copies⟩ := past
      obtain ⟨current, kept⟩ := follows
      cases kept with
      | nil => exact ⟨current, .nil⟩
      | cons newest older => exact ⟨newest, older⟩
  | pull | next | drain | position => exact follows.concat (by decide) (by decide)

/-- After every script a session follows its past. -/
theorem follows_past (source : List Char) (script : List Step) :
    Follows source ((ofChars source).past script) ((ofChars source).after script) := by
  induction script using List.reverseRecOn with
  | nil => exact ⟨traces_nil source, .nil⟩
  | append_singleton script step ih =>
      rw [past_concat, after_concat]
      exact follows_step ih step

/-- A session brings nothing that an iteration over its source does not bring. -/
theorem mem_readings_of_mem_entries {script : List Step} {entry : Entry}
    (member : entry ∈ (ofChars source).entries script) {reading : Reading}
    (brings : reading ∈ entry.readings) : reading ∈ readings source := by
  induction script using List.reverseRecOn with
  | nil => cases member
  | append_singleton script step ih =>
      rw [entries_concat] at member
      rcases List.mem_append.mp member with earlier | last
      · exact ih earlier
      · obtain rfl := List.mem_singleton.mp last
        obtain ⟨n, pulled⟩ := ((ofChars source).after script).exists_readings_eq step
        rw [pulled] at brings
        obtain ⟨i, _, rfl⟩ := List.mem_map.mp brings
        rw [(follows_past source script).current.nthReading]
        exact stream_mem_readings source _

/-!
### What is promised
-/

/-- In a session with this past the stream of the source is read on. -/
structure ReadsStream (source : List Char) (entries : List Entry) (session : Session) : Prop where
  /-- All that was brought is the first elements of the stream, each once and in order. -/
  reads : brought entries = (List.range (brought entries).length).map (stream source)
  /-- Where the session stands depends on how many they are. -/
  stands : session.scanner.position = placeAfter source (brought entries).length
  /-- The next pull brings the next element. -/
  pulls : (session.step .pull).1 = .reading (stream source (brought entries).length)
  /-- The iteration has nothing to bring exactly if the past ended it. -/
  exhausted : (session.step .next).1 = .exhausted ↔ ended entries = true
  /-- To ask for more then changes nothing. -/
  keeps : ended entries = true → (session.step .next).2 = session
  /-- To pull then brings the end of input. -/
  repeats : ended entries = true → (session.step .pull).1 = .reading (.token (.atEndOf source))
  /-- To pull never ends the iteration, whatever it brings. -/
  goesOn : ((session.step .pull).2.step .next).1 = .exhausted ↔ (session.step .next).1 = .exhausted
  /-- To drain always does. -/
  drains : ((session.step .drain).2.step .next).1 = .exhausted

/-- An iteration is exhausted exactly if it has ended. -/
theorem step_next_eq_exhausted_iff (session : Session) :
    (session.step .next).1 = .exhausted ↔ session.scanner.finished = true := by
  cases going : session.scanner.finished with
  | true => simp [step_next_of_finished going]
  | false => simp [step_next_of_going going]

/-- A past that ended the iteration has brought the end of input. -/
theorem exists_isEnd_of_ended {entries : List Entry} (done : ended entries = true) :
    ∃ reading ∈ brought entries, reading.isEnd = true := by
  obtain ⟨entry, member, ends⟩ := List.any_eq_true.mp done
  rw [Entry.endsIteration, Bool.and_eq_true] at ends
  obtain ⟨reading, inEntry, ending⟩ := List.any_eq_true.mp ends.2
  exact ⟨reading, List.mem_flatMap.mpr ⟨entry, member, inEntry⟩, ending⟩

/-- A scanner that has a past reads the stream from there. -/
theorem Traces.readsStream {entries : List Entry} {session : Session}
    (traces : Traces source entries session.scanner) : ReadsStream source entries session := by
  have pulls : (session.step .pull).1 = .reading (stream source (brought entries).length) := by
    rw [step_pull]
    exact congrArg Outcome.reading (traces.nthReading 0)
  constructor
  case reads => exact traces.reads
  case stands =>
    rw [traces.state]
    rfl
  case pulls => exact pulls
  case exhausted => rw [step_next_eq_exhausted_iff, traces.finished]
  case keeps =>
    intro done
    rw [step_next_of_finished (traces.finished.trans done)]
  case repeats =>
    intro done
    obtain ⟨reading, member, ending⟩ := exists_isEnd_of_ended done
    rw [traces.reads] at member
    obtain ⟨i, inRange, rfl⟩ := List.mem_map.mp member
    rw [pulls, stream_of_isEnd ending (Nat.le_of_lt (List.mem_range.mp inRange))]
  case goesOn =>
    have flag : (session.step .pull).2.scanner.finished = session.scanner.finished :=
      session.scanner.finished_pull
    rw [step_next_eq_exhausted_iff, step_next_eq_exhausted_iff, flag]
  case drains =>
    rw [step_next_eq_exhausted_iff]
    cases going : session.scanner.finished with
    | true =>
        rw [step_drain_of_finished going]
        exact going
    | false =>
        obtain ⟨n, _, drained⟩ := exists_step_drain_of_going going
        rw [drained]
        exact Bool.or_true _

/-- Whatever script of pulls, iteration and copies a session runs, its scanner reads the stream of the
    source from the start, one element after the other, along its own past; and the outcomes of the script
    come step by step, each with the place of the scanner after it. -/
theorem run_readsStream (source : List Char) (script : List Step) (step : Step) :
    (readings source).getLast? = some (.token (.atEndOf source)) ∧
    ReadsStream source ((ofChars source).past script).current ((ofChars source).after script) ∧
    ((ofChars source).run (script ++ [step])).1 =
      ((ofChars source).run script).1 ++
        [((((ofChars source).after script).step step).1,
          ((ofChars source).after (script ++ [step])).scanner.position)] := by
  refine ⟨?_, (follows_past source script).current.readsStream, ?_⟩
  · obtain ⟨results, split, _⟩ := readings_eq_concat source
    rw [split, List.getLast?_concat]
  · rw [run_concat, after_concat]

end Session

end MaximalMunch
