/-
Module: MaximalMunch.Proofs.Lookahead
Layer: Proofs
Purpose: The recognizer for integers measures before it takes. A first loop looks ahead, place by place, for the
  end of the digits, and nothing is read meanwhile; a second loop, which knows nothing of the first, reads the
  sign and the digits. `Looks` is the first loop look by look: it comes to an end, at one place
  (`looks_iff`, by induction on the looks), and no look goes further than one place behind the unread text
  (`column_add_le`). The place where it ends is where the integer ends, so what the second loop takes is what
  was measured (`takes_integer`); where a word character stands there the recognizer gives up, and all but one
  character is still unread (`refuses_integer`). The main result is `integer_measured`.
Imports: MaximalMunch.Proofs.Buffering, MaximalMunch.Proofs.LongestMatch, MaximalMunch.Scanner.Reachable,
  Mathlib.Algebra.Group.Nat.Defs
Trusted boundary: none
Main exports: Buffered.Reachable, arriving, CallsInteger, Looks, looks_iff, MeasuresInteger, integer_measured
Open obligations: none
-/
import Mathlib.Algebra.Group.Nat.Defs
import MaximalMunch.Proofs.Buffering
import MaximalMunch.Proofs.LongestMatch
import MaximalMunch.Scanner.Reachable

namespace MaximalMunch.Buffered

open CharClass

/-!
### Where the recognizer is called
-/

/-- The states in which a scan of `source` can be that goes character by character. -/
inductive Reachable (source : List Char) : Buffered → Prop where
  | start : Reachable source (.ofChars source)
  | pull {state : Buffered} (before : Reachable source state) : Reachable source state.pull.2
  | next {state after : Buffered} {reading : Reading} (before : Reachable source state)
      (step : state.next? = some (reading, after)) : Reachable source after

/-- Without buffer and note these are the states of the other scanner. -/
theorem Reachable.toScanner {source : List Char} {state : Buffered} (reachable : Reachable source state) :
    Scanner.Reachable source state.toScanner := by
  induction reachable with
  | start => exact .start
  | @pull state _ ih =>
      rw [state.pull_eq.2]
      exact .pull ih
  | @next state after reading _ step ih =>
      have stepped := state.next?_eq
      rw [step] at stepped
      exact .next ih stepped.symm

/-- Where a pull that is not inside of a malformed run comes to, before it calls a recognizer. -/
def arriving (state : Buffered) : Buffered :=
  ({ state with lexeme := [], inMalformedRun := false } : Buffered).skipBlanks.begin

/-- The next pull calls the recognizer for integers, at a digit or at a sign with a digit behind it. -/
structure CallsInteger (state : Buffered) (first : Char) : Prop where
  outside : state.malformedChar? = none
  current : state.arriving.cursor.peek? = some first
  begins : CharClass.of first = .digit ∨ CharClass.of first = .operator ∧ isSign first = true ∧
    state.arriving.cursor.peekNext?.any isDigit = true

variable {source : List Char} {state : Buffered} {first : Char} {rest : List Char}

/-- A pull arrives at its recognizer behind the blanks, with an empty buffer and its position noted. -/
theorem arriving_eq (state : Buffered) :
    state.arriving =
      { state with
        cursor := state.cursor.skipWhile isBlank
        inMalformedRun := false
        lexeme := []
        start := (state.cursor.skipWhile isBlank).position } := by
  rw [arriving, skipBlanks_eq]
  rfl

/-- A pull that calls the recognizer of integers brings what that one brings. -/
theorem CallsInteger.pull_eq (calls : state.CallsInteger first) :
    state.pull = state.arriving.integer first := by
  have outside : ({ state with lexeme := [] } : Buffered).malformedChar? = none := calls.outside
  have pulls : state.pull = state.arriving.recognize := by
    rw [pull]
    simp only [outside]
    rfl
  rw [pulls, recognize, calls.current]
  rcases calls.begins with digit | ⟨operator, sign, digit⟩
  · simp only [digit]
  · simp only [operator, sign, digit, Bool.and_self, if_true]

/-- The recognizer of integers is called where an integer may begin, and only there. -/
theorem CallsInteger.exists_ready (calls : state.CallsInteger first) :
    ∃ rest, state.arriving.Ready first rest ∧ Finding.BeginsInteger first rest := by
  obtain ⟨rest, unread⟩ := Cursor.peek?_eq_some_iff.mp calls.current
  refine ⟨rest, ⟨?_, ?_, unread⟩, ?_⟩
  · rw [arriving_eq]
  · rw [arriving_eq]
  · refine calls.begins.imp isDigit_iff.mpr ?_
    rintro ⟨_, sign, digit⟩
    rw [Cursor.peekNext?, Cursor.peekNth?, unread] at digit
    refine ⟨sign, ?_⟩
    rw [List.head?_eq_getElem?]
    exact digit

/-!
### The loop that looks ahead
-/

/-- Looking for the end of the digits from a place on: the places that are looked at, in order, and the place
    where it ends, which is the last of them. -/
inductive Looks (cursor : Cursor) : Nat → List Nat → Nat → Prop where
  | stops {place : Nat} (other : (cursor.peekNth? place).any isDigit = false) :
      Looks cursor place [place] place
  | goesOn {place stop : Nat} {places : List Nat} (digit : (cursor.peekNth? place).any isDigit = true)
      (later : Looks cursor (place + 1) places stop) : Looks cursor place (place :: places) stop

/-- At a digit the loop looks one place further. -/
theorem digitsEnd_of_digit {cursor : Cursor} {place : Nat}
    (digit : (cursor.peekNth? place).any isDigit = true) :
    digitsEnd cursor place = digitsEnd cursor (place + 1) := by
  rw [digitsEnd]
  split
  · next c current =>
      rw [current] at digit
      exact if_pos digit
  · next current =>
      rw [current] at digit
      cases digit

/-- Anywhere else the loop ends. -/
theorem digitsEnd_of_other {cursor : Cursor} {place : Nat}
    (other : (cursor.peekNth? place).any isDigit = false) : digitsEnd cursor place = place := by
  rw [digitsEnd]
  split
  · next c current =>
      rw [current] at other
      have other : isDigit c = false := other
      rw [if_neg (by simp [other])]
  · rfl

/-- The loop never goes back. -/
theorem le_digitsEnd (cursor : Cursor) (place : Nat) : place ≤ digitsEnd cursor place := by
  rw [digitsEnd_eq]
  exact Nat.le_add_right _ _

/-- The places of a loop that goes on are the first one and those of the rest. -/
theorem range'_of_lt {place stop : Nat} (further : place < stop) :
    List.range' place (stop + 1 - place) = place :: List.range' (place + 1) (stop + 1 - (place + 1)) := by
  rw [← List.range'_succ]
  congr 1
  omega

/-- The looks of the loop are at the places from its start to its end, one after the other. -/
theorem looks_digitsEnd (cursor : Cursor) (place : Nat) :
    Looks cursor place (List.range' place (digitsEnd cursor place + 1 - place)) (digitsEnd cursor place) := by
  fun_induction digitsEnd cursor place with
  | case1 place c current _ digit ih =>
      have later := le_digitsEnd cursor (place + 1)
      rw [range'_of_lt later]
      exact .goesOn (by rw [current]; exact digit) ih
  | case2 place c current _ other =>
      rw [Nat.add_sub_cancel_left]
      exact .stops (by rw [current]; exact Bool.eq_false_iff.mpr other)
  | case3 place current =>
      rw [Nat.add_sub_cancel_left]
      exact .stops (by rw [current]; rfl)

/-- The loop ends, at the one place that is counted, after one look at each place up to it. -/
theorem looks_iff {cursor : Cursor} {place stop : Nat} {places : List Nat} :
    Looks cursor place places stop ↔
      stop = digitsEnd cursor place ∧ places = List.range' place (stop + 1 - place) := by
  constructor
  · intro looks
    induction looks with
    | stops other =>
        rw [digitsEnd_of_other other]
        simp
    | @goesOn place stop places digit _ ih =>
        obtain ⟨rfl, rfl⟩ := ih
        exact ⟨(digitsEnd_of_digit digit).symm, (range'_of_lt (le_digitsEnd cursor (place + 1))).symm⟩
  · rintro ⟨rfl, rfl⟩
    exact looks_digitsEnd cursor place

/-!
### What was measured is what is taken
-/

/-- Digits, at least one, behind the sign `first` if that is a sign, and behind none if it is not. -/
def IsIntegerOf (first : Char) (text : List Char) : Prop :=
  ∃ digits, text = (if isSign first then [first] else []) ++ digits ∧ digits ≠ [] ∧
    ∀ c ∈ digits, isDigit c = true

/-- Where the loop that looks ahead ends when the recognizer is called with `first`. -/
def measured (called : Buffered) (first : Char) : Nat :=
  digitsEnd called.cursor (Finding.digitsStart first)

/-- The recognizer gives up: it reads one character and keeps none. -/
structure RefusesInteger (source : List Char) (called : Buffered) (first : Char) (result : Reading × Buffered) :
    Prop where
  reading : result.1 = .error (.invalidStart first called.position)
  one : result.2.cursor = .standingAt source (called.position.column + 1)
  empty : result.2.lexeme = []
  run : result.2.inMalformedRun = true

/-- The recognizer brings the integer that was measured. -/
structure TakesInteger (source : List Char) (called : Buffered) (first : Char) (result : Reading × Buffered) :
    Prop where
  cursor : (called.takeInteger first).cursor =
    .standingAt source (called.position.column + called.measured first)
  kept : (called.takeInteger first).lexeme = called.cursor.unread.take (called.measured first)
  brings : result = (called.takeInteger first).token .integer
  reading : result.1 =
    .token ⟨.integer, String.ofList (called.cursor.unread.take (called.measured first)), called.position⟩
  stops : result.2.cursor.peek?.any isWord = false

/-- What a call of the recognizer for integers with `first` looks at and does. The column of the cursor is the
    number of characters that have been read. -/
structure MeasuresInteger (source : List Char) (called : Buffered) (first : Char) : Prop where
  /-- The loop that looks ahead ends. -/
  ends : ∃ places, Looks called.cursor (Finding.digitsStart first) places (called.measured first)
  /-- It ends nowhere else, and the look behind the loop is at that place again. No look goes further than one
      place behind the source, so a machine word that can count the source can hold the place of every look. -/
  looks : ∀ places stop, Looks called.cursor (Finding.digitsStart first) places stop →
    stop = called.measured first ∧ ∀ place ∈ places ++ [stop],
      called.position.column + place ≤ source.length ∧
      ∀ width, source.length < 2 ^ width →
        (BitVec.ofNat width called.position.column + BitVec.ofNat width place).toNat =
          called.position.column + place
  /-- The integer is as long as was measured, and it is the longest. -/
  integer : IsIntegerOf first (called.cursor.unread.take (called.measured first))
  length : (called.cursor.unread.take (called.measured first)).length = called.measured first
  longest : ∀ other, IsIntegerOf first other → other <+: called.cursor.unread →
    other.length ≤ called.measured first
  refuses : (called.cursor.peekNth? (called.measured first)).any isWord = true →
    RefusesInteger source called first (called.integer first)
  takes : (called.cursor.peekNth? (called.measured first)).any isWord = false →
    TakesInteger source called first (called.integer first)

/-- What is said of integers by their first character is said of integers. -/
theorem isInteger_of_isIntegerOf {text : List Char} (integer : IsIntegerOf first text) : IsInteger text := by
  obtain ⟨digits, rfl, some, digital⟩ := integer
  refine ⟨_, digits, rfl, ?_, ?_, some, digital⟩
  · split <;> simp
  · split
    · next sign => simpa using sign
    · simp

theorem isIntegerOf_of_isInteger {more : List Char} (integer : IsInteger (first :: more)) :
    IsIntegerOf first (first :: more) := by
  obtain ⟨digit | ⟨sign, some⟩, digital⟩ := isInteger_cons_iff.mp integer
  · refine ⟨first :: more, ?_, List.cons_ne_nil _ _, List.forall_mem_cons.mpr ⟨digit, digital⟩⟩
    rw [isSign_eq_false_of_isDigit digit]
    rfl
  · refine ⟨more, ?_, some, digital⟩
    rw [sign]
    rfl

section Called

variable {called : Buffered}

/-- The loop ends where the integer does. -/
theorem Ready.measured_eq (ready : called.Ready first rest) (begins : Finding.BeginsInteger first rest) :
    called.measured first = (first :: rest.takeWhile isDigit).length := by
  rw [measured, digitsEnd_eq, ready.unread]
  exact Finding.integerEnd_eq_length (begins.imp_right And.left) rest

/-- As much as was measured is the sign or digit and all digits behind it. -/
theorem Ready.take_measured (ready : called.Ready first rest) (begins : Finding.BeginsInteger first rest) :
    called.cursor.unread.take (called.measured first) = first :: rest.takeWhile isDigit := by
  have split := split_takeWhile isDigit first rest
  rw [ready.measured_eq begins, ready.unread]
  exact (congrArg (List.take _) split).trans List.take_left

/-- A sum that counts no more than the source does not wrap around. -/
theorem toNat_add_of_le {read place length width : Nat} (within : read + place ≤ length)
    (counts : length < 2 ^ width) :
    (BitVec.ofNat width read + BitVec.ofNat width place).toNat = read + place := by
  rw [BitVec.toNat_add, BitVec.toNat_ofNat, BitVec.toNat_ofNat, ← Nat.add_mod]
  exact Nat.mod_eq_of_lt (by omega)

/-- No look is further than one place behind what is unread. -/
theorem column_add_le (reads : called.cursor.ReadsFrom source) (ready : called.Ready first rest)
    (begins : Finding.BeginsInteger first rest) {place : Nat} (near : place ≤ called.measured first) :
    called.position.column + place ≤ source.length := by
  have whole := reads.column_add_length
  have inside : (first :: rest.takeWhile isDigit).length ≤ called.cursor.unread.length := by
    rw [ready.unread, List.length_cons, List.length_cons]
    exact Nat.succ_le_succ (List.takeWhile_prefix isDigit).length_le
  rw [ready.measured_eq begins] at near
  have column : called.position.column = called.cursor.position.column := rfl
  omega

/-- If a word character follows what was measured, the call refuses the integer after one character. -/
theorem refuses_integer (reads : called.cursor.ReadsFrom source) (ready : called.Ready first rest)
    (noted : called.start = called.position)
    (runs : (called.cursor.peekNth? (called.measured first)).any isWord = true) :
    RefusesInteger source called first (called.integer first) := by
  have refused : called.integer first = called.malformed first := by
    rw [integer]
    exact if_pos runs
  rw [refused]
  constructor
  case reading =>
    rw [← noted]
    rfl
  case one =>
    change called.cursor.advanceBy 1 = _
    rw [reads.eq_standingAt, Cursor.advanceBy_standingAt]
    rfl
  case empty => exact ready.empty
  case run => rfl

/-- Otherwise it takes what was measured, and nothing else. -/
theorem takes_integer (reads : called.cursor.ReadsFrom source) (ready : called.Ready first rest)
    (begins : Finding.BeginsInteger first rest) (noted : called.start = called.position)
    (stops : (called.cursor.peekNth? (called.measured first)).any isWord = false) :
    TakesInteger source called first (called.integer first) := by
  have taken := ready.takeInteger_eq (begins.imp_right And.left)
  have text := ready.take_measured begins
  have brought : called.integer first = (called.takeInteger first).token .integer := by
    rw [integer]
    exact if_neg (Bool.eq_false_iff.mp stops)
  have split := ready.unread.trans (split_takeWhile isDigit first rest)
  have moved : (called.takeInteger first).cursor = called.cursor.advanceBy (called.measured first) := by
    rw [taken, ready.measured_eq begins, Cursor.advanceBy_of_unread split]
    rfl
  rw [brought]
  constructor
  case cursor =>
    rw [moved, reads.eq_standingAt, Cursor.advanceBy_standingAt]
    rfl
  case kept =>
    rw [text, taken]
    rfl
  case brings => rfl
  case reading =>
    rw [text, taken, ← noted]
    rfl
  case stops =>
    change (called.takeInteger first).cursor.peek?.any isWord = false
    rw [moved, Cursor.peek?, Cursor.peekNth?, Cursor.advanceBy, List.getElem?_drop]
    exact stops

/-- Everything that a call does, where the recognizer may be called. -/
theorem measuresInteger_of_ready (reads : called.cursor.ReadsFrom source) (ready : called.Ready first rest)
    (begins : Finding.BeginsInteger first rest) (noted : called.start = called.position) :
    MeasuresInteger source called first := by
  have text := ready.take_measured begins
  constructor
  case ends => exact ⟨_, looks_digitsEnd called.cursor (Finding.digitsStart first)⟩
  case looks =>
    intro places stop looks
    obtain ⟨rfl, rfl⟩ := looks_iff.mp looks
    refine ⟨rfl, ?_⟩
    intro place among
    -- The loop looks at the places up to its end, and the look behind it is at that end once more.
    have near : place ≤ called.measured first := by
      rcases List.mem_append.mp among with looked | last
      · have bounds := List.mem_range'_1.mp looked
        have start := le_digitsEnd called.cursor (Finding.digitsStart first)
        rw [measured]
        omega
      · exact Nat.le_of_eq (List.mem_singleton.mp last)
    have within := column_add_le reads ready begins near
    exact ⟨within, fun _ => toNat_add_of_le within⟩
  case integer =>
    rw [text]
    exact isIntegerOf_of_isInteger (Finding.isInteger_takeWhile begins)
  case length => rw [text, ready.measured_eq begins]
  case longest =>
    intro other integer front
    have longest := Finding.isLongest_integer begins
    rw [ready.unread] at front
    rw [ready.measured_eq begins]
    exact longest.2.2 other (Or.inr (Or.inl (isInteger_of_isIntegerOf integer))) front
  case refuses => exact refuses_integer reads ready noted
  case takes => exact takes_integer reads ready begins noted

end Called

/-- Where a pull calls the recognizer for integers, in every state of a scan: the loop that looks ahead ends
    where the longest integer ends and looks nowhere further than the end of the source; where a word character
    stands there, one character is read and none is kept, and otherwise what is read and kept is what was
    measured. -/
theorem integer_measured {source : List Char} {state : Buffered} {first : Char}
    (reachable : state.Reachable source) (calls : state.CallsInteger first) :
    state.pull = state.arriving.integer first ∧ MeasuresInteger source state.arriving first := by
  obtain ⟨rest, ready, begins⟩ := calls.exists_ready
  have reads : state.arriving.cursor.ReadsFrom source := by
    rw [arriving_eq]
    exact reachable.toScanner.readsFrom.skipWhile isBlank
  have noted : state.arriving.start = state.arriving.position := by
    rw [arriving_eq]
    rfl
  exact ⟨calls.pull_eq, measuresInteger_of_ready reads ready begins noted⟩

/-- Behind a word and a blank three places are measured, where a letter follows and where a mark does. -/
theorem integer_measured_behind_blank :
    ((∀ places stop, Looks (ofChars "x -12a".toList).pull.2.arriving.cursor 1 places stop → stop = 3) ∧
      (ofChars "x -12a".toList).pull.2.pull.2.cursor = .standingAt "x -12a".toList 3 ∧
      (ofChars "x -12a".toList).pull.2.pull.2.lexeme = [] ∧
      (ofChars "x -12a".toList).pull.2.pull.2.inMalformedRun = true) ∧
    (ofChars "x -12;".toList).pull.2.pull.1 = .token ⟨.integer, "-12", ⟨0, 2, 2⟩⟩ ∧
      (ofChars "x -12;".toList).pull.2.pull.2.cursor.peek?.any isWord = false := by
  have letter : (ofChars "x -12a".toList).pull.2.CallsInteger '-' :=
    ⟨by decide +kernel, by decide +kernel, Or.inr (by decide +kernel)⟩
  have mark : (ofChars "x -12;".toList).pull.2.CallsInteger '-' :=
    ⟨by decide +kernel, by decide +kernel, Or.inr (by decide +kernel)⟩
  obtain ⟨pullsLetter, beforeLetter⟩ := integer_measured (.pull .start) letter
  obtain ⟨pullsMark, beforeMark⟩ := integer_measured (.pull .start) mark
  have refused := beforeLetter.refuses (by decide +kernel)
  have taken := beforeMark.takes (by decide +kernel)
  have text : String.ofList ((ofChars "x -12;".toList).pull.2.arriving.cursor.unread.take
      ((ofChars "x -12;".toList).pull.2.arriving.measured '-')) = "-12" := by decide +kernel
  have three : (ofChars "x -12a".toList).pull.2.arriving.measured '-' = 3 := by decide +kernel
  have column : (ofChars "x -12a".toList).pull.2.arriving.position.column = 2 := by decide +kernel
  have position : (ofChars "x -12;".toList).pull.2.arriving.position = ⟨0, 2, 2⟩ := by decide +kernel
  rw [pullsLetter, pullsMark]
  refine ⟨⟨?_, ?_, refused.empty, refused.run⟩, ?_, taken.stops⟩
  · intro places stop looks
    exact (beforeLetter.looks places stop looks).1.trans three
  · rw [refused.one, column]
  · rw [taken.reading, text, position]

end MaximalMunch.Buffered
