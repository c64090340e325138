/-
Module: MaximalMunch.Proofs.BlankBoundary
Layer: Proofs
Purpose: Blanks cut a source in two. What stands in front of a blank is settled without what stands behind
  it, unless it is an open string; and where only blanks are left, the scan goes on behind them as a fresh
  one, with positions counted from there, even if a malformed run was going on (`readings_extend_of_isEnd`).
  A pull does not change the place to which reading all that is unread leads (`advanceAll_unread_pull`), so
  the two facts join by induction on the readings of the first part. The main result,
  `readings_append_blank`, gives the readings of the whole, and its tokens and errors, from those of the two
  parts.
Imports: MaximalMunch.Proofs.Extension
Trusted boundary: none
Main exports: readings_extend_of_isEnd, readings_extend_of_blank, readings_append_blank
Open obligations: none
-/
import MaximalMunch.Proofs.Extension

namespace MaximalMunch

open CharClass

/-!
### Taking readings apart

Tokens and errors of several readings in a row are those of the first ones and those of the others.
-/

namespace Reading

theorem split_append (first second : List Reading) :
    split (first ++ second) =
      ((split first).1 ++ (split second).1, (split first).2 ++ (split second).2) := by
  simp only [split, List.filterMap_append]

theorem split_map_translate (base : Position) (readings : List Reading) :
    split (readings.map (.translate base)) =
      ((split readings).1.map (.translate base), (split readings).2.map (.translate base)) := by
  simp only [split, List.filterMap_map, List.map_filterMap, Function.comp_def, token?_translate,
    error?_translate]

/-- Without the end of input there are the same errors. -/
theorem split_filter_isEnd (readings : List Reading) :
    split (readings.filter (!·.isEnd)) =
      ((split readings).1.filter (!·.isEnd), (split readings).2) := by
  have tokens : ∀ reading : Reading, (if (!reading.isEnd) = true then reading.token? else none) =
      reading.token?.filter (!·.isEnd) := by
    intro reading
    cases reading with
    | token token => cases ending : token.isEnd <;> simp [isEnd, token?, ending, Option.filter]
    | error error => rfl
  have errors : ∀ reading : Reading, (if (!reading.isEnd) = true then reading.error? else none) =
      reading.error? := by
    intro reading
    cases reading with
    | token token => cases ending : token.isEnd <;> simp [isEnd, error?, ending]
    | error error => rfl
  simp only [split, List.filterMap_filter, List.filter_filterMap, tokens, errors]

end Reading

namespace Scanner

variable {scanner : Scanner} {gap second : List Char}

/-- A pull reads a part of what is unread, so reading all of it leads to the same place as before. -/
theorem advanceAll_unread_pull (scanner : Scanner) :
    scanner.pull.2.position.advanceAll scanner.pull.2.cursor.unread =
      scanner.position.advanceAll scanner.cursor.unread := by
  obtain ⟨gap, stretch, rest, extent⟩ := scanner.exists_extent
  rw [position, extent.after, extent.unread, ← List.append_assoc, Position.advanceAll_append _ _ rest]

theorem isBlank_head?_append (blank : IsBlank gap) (some : gap ≠ []) (second : List Char) :
    (gap ++ second).head?.any isBlank = true := by
  obtain ⟨c, rest, rfl⟩ := List.exists_cons_of_ne_nil some
  exact blank c List.mem_cons_self

/-- Where a source would end, the scan of a source that goes on with blanks is a fresh one of what follows
    the blanks. -/
theorem readings_extend_of_isEnd (blank : IsBlank gap) (some : gap ≠ []) (going : scanner.finished = false)
    (ending : scanner.pull.1.isEnd = true) :
    (scanner.extend (gap ++ second)).readings =
      (MaximalMunch.readings second).map
        (.translate (scanner.position.advanceAll (scanner.cursor.unread ++ gap))) := by
  obtain ⟨outside, blankLeft⟩ := scanner.isEnd_pull_iff.mp ending
  have still : (scanner.extend (gap ++ second)).OutsideRun :=
    outside.extend (Or.inr (isBlank_head?_append blank some second))
  have unread : (scanner.extend (gap ++ second)).cursor.unread =
      (scanner.cursor.unread ++ gap) ++ second := by
    rw [List.append_assoc]
    rfl
  have allBlank : IsBlank (scanner.cursor.unread ++ gap) := by
    intro c member
    rcases List.mem_append.mp member with inLeft | inGap
    · exact blankLeft c inLeft
    · exact blank c inGap
  have alike : (scanner.extend (gap ++ second)).finished = false := going
  rw [MaximalMunch.readings, ← readings_translate _ _ rfl, ofChars_translate]
  apply readings_eq_of_pull_eq alike rfl
  rw [pull_of_gap still unread allBlank, alike]
  rfl

/-- By induction on the readings of what stands in front of the blanks. -/
theorem readings_extend_of_blank (blank : IsBlank gap) (some : gap ≠ []) (going : scanner.finished = false)
    (closed : ∀ start, .error (.unterminatedString start) ∉ scanner.readings) :
    (scanner.extend (gap ++ second)).readings =
      scanner.readings.filter (!·.isEnd) ++
        (MaximalMunch.readings second).map
          (.translate (scanner.position.advanceAll (scanner.cursor.unread ++ gap))) := by
  refine readings_induction (motive := fun scanner readings =>
    (∀ start, .error (.unterminatedString start) ∉ readings) →
      (scanner.extend (gap ++ second)).readings =
        readings.filter (!·.isEnd) ++
          (MaximalMunch.readings second).map
            (.translate (scanner.position.advanceAll (scanner.cursor.unread ++ gap))))
    ?_ ?_ scanner going closed
  · intro scanner going ending _
    rw [readings_extend_of_isEnd blank some going ending]
    simp [ending]
  · intro scanner going noEnd ih closed
    have settled : scanner.Settled (gap ++ second) := by
      right
      refine ⟨isBlank_head?_append blank some second, noEnd, ?_⟩
      intro start opened
      apply closed start
      rw [opened]
      exact List.mem_cons_self
    have later := ih fun start member => closed start (List.mem_cons_of_mem _ member)
    rw [readings_extend_of_settled going noEnd settled, later, Position.advanceAll_append,
      advanceAll_unread_pull, ← Position.advanceAll_append]
    simp [noEnd]

end Scanner

/-- Blanks cut a source in two. If the first part leaves no string open, the readings of the whole are those
    of the first part without its end of input, and those of the second part with positions counted from
    where it stands. So it is with the tokens and with the errors. -/
theorem readings_append_blank {first gap second : List Char} (blank : IsBlank gap) (some : gap ≠ [])
    (closed : ∀ start, .error (.unterminatedString start) ∉ readings first) :
    readings (first ++ gap ++ second) =
        (readings first).filter (!·.isEnd) ++
          (readings second).map (.translate (.after (first ++ gap))) ∧
      (tokenize (String.ofList (first ++ gap ++ second))).1 =
        (tokenize (String.ofList first)).1.filter (!·.isEnd) ++
          (tokenize (String.ofList second)).1.map (.translate (.after (first ++ gap))) ∧
      (tokenize (String.ofList (first ++ gap ++ second))).2 =
        (tokenize (String.ofList first)).2 ++
          (tokenize (String.ofList second)).2.map (.translate (.after (first ++ gap))) := by
  have whole : readings (first ++ gap ++ second) =
      (readings first).filter (!·.isEnd) ++
        (readings second).map (.translate (.after (first ++ gap))) := by
    rw [List.append_assoc, ← Position.advanceAll_origin]
    exact @Scanner.readings_extend_of_blank (.ofChars first) gap second blank some rfl closed
  refine ⟨whole, ?_⟩
  simp only [tokenize, String.toList_ofList, whole, Reading.split_append, Reading.split_map_translate,
    Reading.split_filter_isEnd, and_self]

/-- For instance where the line break in front of `b` ends the malformed run of `1a`. -/
theorem readings_append_blank_behind_run :
    IsBlank ['\n'] ∧ ['\n'] ≠ [] ∧
      (∀ start, .error (.unterminatedString start) ∉ readings ['1', 'a']) ∧
      readings (['1', 'a'] ++ ['\n'] ++ ['b']) =
        (readings ['1', 'a']).filter (!·.isEnd) ++
          (readings ['b']).map (.translate (.after ['1', 'a', '\n'])) ∧
      (tokenize (String.ofList (['1', 'a'] ++ ['\n'] ++ ['b']))).1 =
        (tokenize (String.ofList ['1', 'a'])).1.filter (!·.isEnd) ++
          (tokenize (String.ofList ['b'])).1.map (.translate (.after ['1', 'a', '\n'])) ∧
      (tokenize (String.ofList (['1', 'a'] ++ ['\n'] ++ ['b']))).2 =
        (tokenize (String.ofList ['1', 'a'])).2 ++
          (tokenize (String.ofList ['b'])).2.map (.translate (.after ['1', 'a', '\n'])) := by
  have blank : IsBlank ['\n'] := by simp [IsBlank, isBlank]
  have closed : ∀ start, .error (.unterminatedString start) ∉ readings ['1', 'a'] := by
    have brought : readings ['1', 'a'] =
        [.error (.invalidStart '1' ⟨0, 0, 0⟩), .error (.invalidStart 'a' ⟨0, 1, 1⟩),
          .token ⟨.endOfInput, "", ⟨0, 2, 2⟩⟩] := by
      rw [readings, Scanner.readings_of_not_isEnd rfl rfl, Scanner.readings_of_not_isEnd rfl rfl,
        Scanner.readings_of_isEnd rfl rfl]
      rfl
    rw [brought]
    simp
  exact ⟨blank, by simp, closed, readings_append_blank blank (by simp) closed⟩

end MaximalMunch
