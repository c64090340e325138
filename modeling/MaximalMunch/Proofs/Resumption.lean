/-
Module: MaximalMunch.Proofs.Resumption
Layer: Proofs
Purpose: A scan has no memory. Outside of a malformed run all that further pulls bring is what a fresh scan of
  the unread text brings, moved to where the scanner stands; one pull restarts (`pull_restarts`), and behind
  it two scanners that differ in their place and their flag of iteration go on side by side
  (`nthReading_of_outsideRun`). Inside of a malformed run each further character of it is an error of its
  own, and behind the last the scanner is outside (`exhausts_run`, by induction on the rest of the run). The
  scanner that goes character by character brings the same, so neither what an error left in its buffer nor
  the place that it noted ever comes back. The main result, `resumes`, says all this of any state whatsoever.
Imports: MaximalMunch.Proofs.Buffering
Trusted boundary: none
Main exports: Scanner.nthReading_of_outsideRun, Scanner.exhausts_run, Buffered.Resumes, resumes
Open obligations: none
-/
import MaximalMunch.Proofs.Buffering

namespace MaximalMunch

open CharClass

namespace Scanner

/-- What further pulls bring depends on the cursor and on whether a malformed run goes on. -/
theorem nthReading_congr {one two : Scanner} (cursor : one.cursor = two.cursor)
    (run : one.inMalformedRun = two.inMalformedRun) (n : Nat) : one.nthReading n = two.nthReading n := by
  have same : one.withFinished two.finished = two := by
    rw [withFinished, cursor, run]
  rw [← nthReading_withFinished two.finished n one, same]

/-- Outside of a malformed run all further pulls are those of a fresh scan of the unread text. -/
theorem nthReading_of_outsideRun {scanner : Scanner} (outside : scanner.OutsideRun) (n : Nat) :
    scanner.nthReading n = ((ofChars scanner.cursor.unread).nthReading n).translate scanner.position := by
  have restarts := pull_restarts outside
  cases n with
  | zero => exact congrArg Prod.fst restarts
  | succ n =>
      rw [nthReading_succ, nthReading_succ, restarts, nthReading_withFinished, nthReading_translate]

/-- A malformed run is read off character by character, and where it ends the scanner is outside of it. -/
theorem exhausts_run {scanner : Scanner} {word rest : List Char} (run : scanner.inMalformedRun = true)
    (unread : scanner.cursor.unread = word ++ rest) (words : ∀ c ∈ word, isWord c = true) :
    ((List.range word.length).map scanner.nthReading =
      word.mapIdx fun i c => .error (.invalidStart c (scanner.position.advanceAll (word.take i)))) ∧
    afterPulls word.length scanner =
      ⟨⟨rest, scanner.position.advanceAll word⟩, true, scanner.finished⟩ := by
  induction word generalizing scanner with
  | nil =>
      refine ⟨rfl, ?_⟩
      rw [← run, Position.advanceAll_nil, ← show scanner.cursor.unread = rest from unread]
      rfl
  | cons c word ih =>
      -- One character of the run is read, and the scanner behind it is inside of the rest of the run.
      have pulled := pull_of_insideRun run unread (words c List.mem_cons_self)
      have state : scanner.pull.2 = ⟨⟨word ++ rest, scanner.position.advance c⟩, true, scanner.finished⟩ :=
        congrArg Prod.snd pulled
      obtain ⟨brings, leaves⟩ := @ih ⟨⟨word ++ rest, scanner.position.advance c⟩, true, scanner.finished⟩
        rfl rfl fun d member => words d (List.mem_cons_of_mem c member)
      constructor
      · have later : (List.range word.length).map (scanner.nthReading ∘ Nat.succ) =
            word.mapIdx fun i d =>
              .error (.invalidStart d ((scanner.position.advance c).advanceAll (word.take i))) := by
          change (List.range word.length).map scanner.pull.2.nthReading = _
          rw [state]
          exact brings
        rw [List.length_cons, List.range_succ_eq_map, List.map_cons, List.map_map, later, List.mapIdx_cons,
          nthReading_zero, pulled]
        rfl
      · rw [List.length_cons, afterPulls_succ, state, leaves]
        rfl

end Scanner

namespace Buffered

/-- What all further pulls of a state bring. -/
structure Resumes (state : Buffered) : Prop where
  /-- It is what they bring without buffer and note. -/
  unbuffered : ∀ n, state.nthReading n = state.toScanner.nthReading n
  /-- So it is for an iteration. -/
  iterates : state.next?.map (fun step => (step.1, step.2.toScanner)) = state.toScanner.next?
  /-- Outside of a malformed run it is what a fresh scan of the unread text brings, moved here. -/
  restarts : state.OutsideRun → ∀ n,
    state.nthReading n = ((ofChars state.cursor.unread).nthReading n).translate state.position
  /-- In any state it depends on what is unread, on the place, and on whether a malformed run goes on. -/
  forgets : ∀ other : Buffered, other.cursor = state.cursor →
    other.inMalformedRun = state.inMalformedRun → ∀ n, other.nthReading n = state.nthReading n
  /-- Behind a character that begins nothing it is a fresh scan. -/
  afterUnexpected : ∀ c position, state.pull.1 = .error (.unexpectedCharacter c position) → ∀ n,
    state.pull.2.nthReading n =
      ((ofChars state.pull.2.cursor.unread).nthReading n).translate state.pull.2.position
  /-- Behind the first character of a malformed run it is an error for each character more of it, and then a
      fresh scan of what follows the run. -/
  afterInvalid : ∀ c position, state.pull.1 = .error (.invalidStart c position) →
    ∃ word rest, state.pull.2.cursor.unread = word ++ rest ∧ (∀ c ∈ word, isWord c = true) ∧
      rest.head?.any isWord = false ∧
      ((List.range word.length).map state.pull.2.nthReading =
        word.mapIdx fun i c =>
          .error (.invalidStart c (state.pull.2.position.advanceAll (word.take i)))) ∧
      ∀ n, state.pull.2.nthReading (word.length + n) =
        ((ofChars rest).nthReading n).translate (state.pull.2.position.advanceAll word)

theorem nthReading_of_outsideRun {state : Buffered} (outside : state.OutsideRun) (n : Nat) :
    state.nthReading n = ((ofChars state.cursor.unread).nthReading n).translate state.position := by
  rw [nthReading_eq, nthReading_eq, Scanner.nthReading_of_outsideRun outside]
  rfl

/-- A character that begins nothing is no part of a malformed run. -/
theorem outsideRun_of_unexpected {state : Buffered} {c : Char} {position : Position}
    (brought : state.pull.1 = .error (.unexpectedCharacter c position)) : state.pull.2.OutsideRun := by
  left
  rw [Bool.eq_false_iff, state.pull_eq.2, Ne, state.toScanner.inMalformedRun_pull_iff,
    ← state.pull_eq.1, brought]
  rintro ⟨_, _, same⟩
  cases same

theorem exhausts_run {state : Buffered} {word rest : List Char} (run : state.inMalformedRun = true)
    (unread : state.cursor.unread = word ++ rest) (words : ∀ c ∈ word, isWord c = true)
    (stops : rest.head?.any isWord = false) :
    ((List.range word.length).map state.nthReading =
      word.mapIdx fun i c => .error (.invalidStart c (state.position.advanceAll (word.take i)))) ∧
    ∀ n, state.nthReading (word.length + n) =
      ((ofChars rest).nthReading n).translate (state.position.advanceAll word) := by
  obtain ⟨brings, leaves⟩ := Scanner.exhausts_run run unread words
  constructor
  · rw [← brings]
    exact List.map_congr_left fun i _ => state.nthReading_eq i
  · intro n
    have outside : (Scanner.afterPulls word.length state.toScanner).OutsideRun := by
      rw [leaves]
      exact Or.inr (by simpa [Cursor.peek?, Cursor.peekNth?, List.head?_eq_getElem?] using stops)
    rw [nthReading_eq, ← Scanner.nthReading_afterPulls, Scanner.nthReading_of_outsideRun outside, leaves,
      nthReading_eq]
    rfl

/-- Whatever has been read, whatever the buffer holds and whatever place was noted: all that further pulls
    bring is determined by the unread text, the place, and whether a malformed run goes on; and but for the
    rest of such a run it is what a fresh scan of the unread text brings, moved to that place. -/
theorem resumes (state : Buffered) : Resumes state := by
  constructor
  case unbuffered => exact state.nthReading_eq
  case iterates => exact state.next?_eq
  case restarts =>
    intro outside
    exact nthReading_of_outsideRun outside
  case forgets =>
    intro other cursor run n
    rw [nthReading_eq, nthReading_eq]
    exact Scanner.nthReading_congr cursor run n
  case afterUnexpected =>
    intro c position brought
    exact nthReading_of_outsideRun (outsideRun_of_unexpected brought)
  case afterInvalid =>
    intro c position brought
    have run : state.pull.2.inMalformedRun = true := by
      rw [state.pull_eq.2, state.toScanner.inMalformedRun_pull_iff, ← state.pull_eq.1, brought]
      exact ⟨c, position, rfl⟩
    obtain ⟨word, rest, unread, words, stops⟩ := exists_stop isWord state.pull.2.cursor.unread
    exact ⟨word, rest, unread, words, stops, exhausts_run run unread words stops⟩

/-- Behind a bare exclamation mark the buffer holds it still, and the scan restarts all the same. -/
theorem resumes_behind_bang :
    (ofChars "!1a b".toList).pull.2.lexeme = ['!'] ∧
      ∀ n, (ofChars "!1a b".toList).pull.2.nthReading n =
        ((ofChars "1a b".toList).nthReading n).translate ⟨0, 1, 1⟩ := by
  have outside : (ofChars "!1a b".toList).pull.2.OutsideRun := Or.inl (by decide +kernel)
  have unread : (ofChars "!1a b".toList).pull.2.cursor.unread = "1a b".toList := by decide +kernel
  have position : (ofChars "!1a b".toList).pull.2.position = ⟨0, 1, 1⟩ := by decide +kernel
  have restarts := (resumes (ofChars "!1a b".toList).pull.2).restarts outside
  rw [unread, position] at restarts
  exact ⟨by decide +kernel, restarts⟩

end Buffered

end MaximalMunch
