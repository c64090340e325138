/-
Module: MaximalMunch.Proofs.StringLiterals
Layer: Proofs
Purpose: Where a string literal ends, said without reading it pair by pair. A mark or a line feed behind the
  opening mark counts if the number of backslashes right in front of it is even (`Unescaped`), and the first
  one that counts decides: a mark closes the literal, a line feed leaves it open. The search for the closing
  mark goes over the text from the left, and takes a backslash and the character behind it as a pair. It
  never stops inside of a pair, so at each of its stops the number of backslashes just passed is even and
  nothing that counts has been passed (`Passed`); with that as the invariant the two readings of a text
  agree (`closingMark?_of_passed`, by induction on the search). An open literal takes all that is left, and
  behind it there is only the end of input. The main result is `string_closes_by_parity`.
Imports: MaximalMunch.Proofs.Buffering, MaximalMunch.Proofs.Progress, MaximalMunch.Scanner.History
Trusted boundary: none
Main exports: slashesAtEnd, Unescaped, StopsAt, closingMark?_of_passed, Scanner.OpensAt, ClosesByParity,
  string_closes_by_parity
Open obligations: none
-/
import MaximalMunch.Proofs.Buffering
import MaximalMunch.Proofs.Progress
import MaximalMunch.Scanner.History

namespace MaximalMunch

open CharClass

/-!
### What counts
-/

/-- The number of backslashes with which a text ends. -/
def slashesAtEnd (text : List Char) : Nat := (text.reverse.takeWhile (· = '\\')).length

/-- A mark or a line feed stands at this place of a text, behind an even number of backslashes. -/
structure Unescaped (text : List Char) (place : Nat) : Prop where
  delimits : text[place]? = some '"' ∨ text[place]? = some '\n'
  even : slashesAtEnd (text.take place) % 2 = 0

/-- Of the places behind the opening mark at `opening`, `place` is the first that counts. Backslashes are
    counted from the opening mark on. -/
structure StopsAt (source : List Char) (opening place : Nat) : Prop where
  behind : opening < place
  unescaped : Unescaped (source.drop (opening + 1)) (place - (opening + 1))
  first : ∀ earlier, earlier < place → opening < earlier →
    ¬ Unescaped (source.drop (opening + 1)) (earlier - (opening + 1))

instance (text : List Char) (place : Nat) : Decidable (Unescaped text place) :=
  decidable_of_iff ((text[place]? = some '"' ∨ text[place]? = some '\n') ∧
      slashesAtEnd (text.take place) % 2 = 0)
    ⟨fun both => ⟨both.1, both.2⟩, fun counts => ⟨counts.delimits, counts.even⟩⟩

instance (source : List Char) (opening place : Nat) : Decidable (StopsAt source opening place) :=
  decidable_of_iff (opening < place ∧ Unescaped (source.drop (opening + 1)) (place - (opening + 1)) ∧
      ∀ earlier, earlier < place → opening < earlier →
        ¬ Unescaped (source.drop (opening + 1)) (earlier - (opening + 1)))
    ⟨fun all => ⟨all.1, all.2.1, all.2.2⟩, fun stops => ⟨stops.behind, stops.unescaped, stops.first⟩⟩

theorem slashesAtEnd_concat (text : List Char) (c : Char) :
    slashesAtEnd (text ++ [c]) = if c = '\\' then slashesAtEnd text + 1 else 0 := by
  by_cases slash : c = '\\' <;> simp [slashesAtEnd, slash]

/-!
### The search goes by parity

`done` is what the search has passed when it looks at `rest`.
-/

/-- Between two steps of the search nothing that counts has been passed, and the next character is not
    escaped. -/
structure Passed (done rest : List Char) : Prop where
  even : slashesAtEnd done % 2 = 0
  nothing : ∀ place, place < done.length → ¬ Unescaped (done ++ rest) place

namespace Passed

variable {done rest : List Char} {c : Char}

theorem start (rest : List Char) : Passed [] rest :=
  ⟨rfl, fun _ inside => absurd inside (Nat.not_lt_zero _)⟩

/-- The search stands at its place in the whole text. -/
theorem getElem?_length : (done ++ c :: rest)[done.length]? = some c := by
  rw [List.getElem?_append_right (Nat.le_refl _), Nat.sub_self]
  rfl

/-- A delimiter at which the search stands counts. -/
theorem unescaped (passed : Passed done (c :: rest)) (delimits : c = '"' ∨ c = '\n') :
    Unescaped (done ++ c :: rest) done.length := by
  constructor
  · rw [getElem?_length]
    exact delimits.imp (congrArg some) (congrArg some)
  · rw [List.take_left]
    exact passed.even

/-- One character more is passed that does not count. -/
theorem nothing_concat (nothing : ∀ place, place < done.length → ¬ Unescaped (done ++ c :: rest) place)
    (here : ¬ Unescaped (done ++ c :: rest) done.length) :
    ∀ place, place < (done ++ [c]).length → ¬ Unescaped (done ++ [c] ++ rest) place := by
  intro place inside
  rw [List.append_assoc]
  rw [List.length_append, List.length_singleton] at inside
  rcases Nat.lt_succ_iff_lt_or_eq.mp inside with before | rfl
  · exact nothing place before
  · exact here

/-- A character that is no delimiter does not count. -/
theorem not_unescaped (noMark : c ≠ '"') (noFeed : c ≠ '\n') :
    ¬ Unescaped (done ++ c :: rest) done.length := by
  intro counts
  have here := counts.delimits
  rw [getElem?_length] at here
  exact here.elim (fun same => noMark (Option.some.inj same)) fun same => noFeed (Option.some.inj same)

theorem plain (passed : Passed done (c :: rest)) (noMark : c ≠ '"') (noFeed : c ≠ '\n')
    (noSlash : c ≠ '\\') : Passed (done ++ [c]) rest := by
  constructor
  · rw [slashesAtEnd_concat, if_neg noSlash]
  · exact nothing_concat passed.nothing (not_unescaped noMark noFeed)

/-- Behind a backslash stands one backslash more, so whatever it is does not count; and if that is a
    backslash itself, the number is even again. -/
theorem pair (passed : Passed done ('\\' :: c :: rest)) : Passed (done ++ ['\\'] ++ [c]) rest := by
  have even := passed.even
  have odd : slashesAtEnd (done ++ ['\\']) % 2 = 1 := by
    rw [slashesAtEnd_concat, if_pos rfl]
    omega
  constructor
  · rw [slashesAtEnd_concat]
    split <;> omega
  · apply nothing_concat
    · exact nothing_concat passed.nothing (not_unescaped (by decide) (by decide))
    · intro counts
      have escaped := counts.even
      rw [List.take_left] at escaped
      omega

end Passed

/-- The search finds the first place that counts if it holds a mark, and else nothing. By induction on the
    search. -/
theorem closingMark?_of_passed {offset : Nat} {done rest : List Char} (passed : Passed done rest)
    (here : offset = done.length) :
    match Finding.closingMark? offset rest with
    | some place => Unescaped (done ++ rest) place ∧ (done ++ rest)[place]? = some '"' ∧
        ∀ earlier, earlier < place → ¬ Unescaped (done ++ rest) earlier
    | none => ∀ place, Unescaped (done ++ rest) place → (done ++ rest)[place]? = some '"' →
        ∃ earlier, earlier < place ∧ Unescaped (done ++ rest) earlier := by
  fun_induction Finding.closingMark? offset rest generalizing done with
  | case1 offset =>
      intro place counts mark
      rw [List.append_nil] at mark
      obtain ⟨inside, -⟩ := List.getElem?_eq_some_iff.mp mark
      exact absurd counts (passed.nothing place inside)
  | case2 offset rest =>
      subst here
      exact ⟨passed.unescaped (Or.inl rfl), Passed.getElem?_length, passed.nothing⟩
  | case3 offset rest =>
      -- The line feed is in front of every mark that counts.
      intro place counts mark
      refine ⟨done.length, ?_, passed.unescaped (Or.inr rfl)⟩
      apply Nat.lt_of_not_le
      intro inside
      rcases Nat.lt_or_eq_of_le inside with before | rfl
      · exact passed.nothing place before counts
      · rw [Passed.getElem?_length] at mark
        cases mark
  | case4 offset =>
      intro place counts mark
      have slash : ¬ Unescaped (done ++ ['\\']) done.length :=
        Passed.not_unescaped (by decide) (by decide)
      have passedAll := Passed.nothing_concat passed.nothing slash
      obtain ⟨inside, -⟩ := List.getElem?_eq_some_iff.mp mark
      rw [List.append_nil] at passedAll
      exact absurd counts (passedAll place inside)
  | case5 offset second beyond mark feed ih =>
      have split : done ++ '\\' :: second :: beyond = done ++ ['\\'] ++ [second] ++ beyond := by simp
      rw [split]
      exact ih passed.pair (by simp [here])
  | case6 offset c text mark feed slash ih =>
      have split : done ++ c :: text = done ++ [c] ++ text := by simp
      rw [split]
      exact ih (passed.plain mark feed slash) (by simp [here])

/-- Where the search finds a mark, it counts, and nothing before it does. -/
theorem unescaped_of_closingMark? {text : List Char} {place : Nat}
    (closed : Finding.closingMark? 0 text = some place) :
    Unescaped text place ∧ text[place]? = some '"' ∧ ∀ earlier, earlier < place → ¬ Unescaped text earlier := by
  have found := closingMark?_of_passed (Passed.start text) (show 0 = 0 from rfl)
  rw [closed] at found
  exact found

/-- Where the search finds none, something counts in front of every mark that does. -/
theorem exists_unescaped_of_closingMark? {text : List Char} {place : Nat}
    (isOpen : Finding.closingMark? 0 text = none) (counts : Unescaped text place)
    (mark : text[place]? = some '"') : ∃ earlier, earlier < place ∧ Unescaped text earlier := by
  have found := closingMark?_of_passed (Passed.start text) (show 0 = 0 from rfl)
  rw [isOpen] at found
  exact found place counts mark

section Search

variable {source : List Char} {opening place : Nat}

/-- The closing mark of a literal is the first place that counts, if a mark is. -/
theorem closingMark?_eq_some_of_stopsAt (stops : StopsAt source opening place)
    (mark : source[place]? = some '"') :
    Finding.closingMark? 0 (source.drop (opening + 1)) = some (place - (opening + 1)) := by
  have behind := stops.behind
  cases closed : Finding.closingMark? 0 (source.drop (opening + 1)) with
  | none =>
      have shifted : (source.drop (opening + 1))[place - (opening + 1)]? = some '"' := by
        rw [List.getElem?_drop, Nat.add_sub_cancel' behind, mark]
      obtain ⟨earlier, before, counts⟩ := exists_unescaped_of_closingMark? closed stops.unescaped shifted
      refine absurd ?_ (stops.first (opening + 1 + earlier) (by omega) (by omega))
      rw [Nat.add_sub_cancel_left]
      exact counts
  | some other =>
      obtain ⟨counts, -, first⟩ := unescaped_of_closingMark? closed
      rcases Nat.lt_trichotomy other (place - (opening + 1)) with before | same | after
      · refine absurd ?_ (stops.first (opening + 1 + other) (by omega) (by omega))
        rw [Nat.add_sub_cancel_left]
        exact counts
      · exact congrArg some same
      · exact absurd stops.unescaped (first _ after)

theorem closingMark?_eq_none_of_not_stopsAt
    (none : ¬ ∃ place, StopsAt source opening place ∧ source[place]? = some '"') :
    Finding.closingMark? 0 (source.drop (opening + 1)) = .none := by
  cases closed : Finding.closingMark? 0 (source.drop (opening + 1)) with
  | none => rfl
  | some place =>
      obtain ⟨counts, mark, first⟩ := unescaped_of_closingMark? closed
      have stops : StopsAt source opening (opening + 1 + place) := by
        constructor
        case behind => omega
        case unescaped =>
          rw [Nat.add_sub_cancel_left]
          exact counts
        case first =>
          intro earlier before _
          exact first _ (by omega)
      rw [List.getElem?_drop] at mark
      exact absurd ⟨_, stops, mark⟩ none

end Search

/-!
### A pull at an opening mark
-/

/-- What a pull that reads a string literal from the mark at `opening` brings, where it leaves the cursor,
    and what the next pull brings. -/
structure ClosesByParity (source : List Char) (opening : Nat) (reading : Reading) (after : Cursor)
    (next : Reading) : Prop where
  /-- The text of the token is all that stands between the marks, as it is written. -/
  closed : ∀ place, StopsAt source opening place → source[place]? = some '"' →
    reading = .token ⟨.string, String.ofList ((source.take place).drop (opening + 1)),
      .after (source.take opening)⟩ ∧
    after = .standingAt source (place + 1)
  /-- If a line feed counts first, or nothing does, all that is left is passed over. -/
  unclosed : (¬ ∃ place, StopsAt source opening place ∧ source[place]? = some '"') →
    reading = .error (.unterminatedString (.after (source.take opening))) ∧
    after = .standingAt source source.length ∧ next = .token (.atEndOf source)

namespace Scanner

/-- The next pull comes to the mark at `opening` and reads a string literal. -/
structure OpensAt (source : List Char) (opening : Nat) (scanner : Scanner) : Prop where
  outside : scanner.OutsideRun
  behind : scanner.position.column ≤ opening
  blank : IsBlank ((source.take opening).drop scanner.position.column)
  mark : source[opening]? = some '"'

variable {source : List Char} {scanner : Scanner} {opening : Nat}

theorem drop_of_opensAt (opens : scanner.OpensAt source opening) :
    source.drop opening = '"' :: source.drop (opening + 1) := by
  obtain ⟨inside, mark⟩ := List.getElem?_eq_some_iff.mp opens.mark
  rw [List.drop_eq_getElem_cons inside, mark]

/-- Behind the blanks the pull brings what is found behind the mark. -/
theorem pull_of_opensAt (reads : scanner.cursor.ReadsFrom source) (opens : scanner.OpensAt source opening)
    {finding : Finding} (found : Finding.ofString (source.drop (opening + 1)) = finding) :
    scanner.pull =
      (finding.reading '"' (.after (source.take opening)),
        ⟨finding.past (.standingAt source opening), finding.isMalformed, scanner.finished⟩) := by
  have mark := drop_of_opensAt opens
  have behind := opens.behind
  have split : (source.take opening).take scanner.position.column ++
      (source.take opening).drop scanner.position.column = source.take opening :=
    List.take_append_drop _ _
  rw [List.take_take, Nat.min_eq_left behind] at split
  have unread : scanner.cursor.unread =
      (source.take opening).drop scanner.position.column ++ source.drop opening := by
    have inside : opening ≤ source.length := by
      obtain ⟨less, -⟩ := List.getElem?_eq_some_iff.mp opens.mark
      exact Nat.le_of_lt less
    rw [← reads.drop_column, ← List.drop_append_of_le_length, List.take_append_drop]
    · rfl
    · rw [List.length_take_of_le inside]
      exact behind
  have place : scanner.position = .after (source.take scanner.position.column) :=
    congrArg Cursor.position reads.eq_standingAt
  have start : scanner.position.advanceAll ((source.take opening).drop scanner.position.column) =
      .after (source.take opening) := by
    rw [place, Position.advanceAll_after, ← place, split]
  rw [pull_of_outsideRun opens.outside unread opens.blank (by rw [mark]; rfl), start, readAt_of_cons mark,
    show Finding.of '"' (source.drop (opening + 1)) = .ofString (source.drop (opening + 1)) from rfl, found]
  rfl

theorem ofString_of_stopsAt {place : Nat} (stops : StopsAt source opening place)
    (mark : source[place]? = some '"') :
    Finding.ofString (source.drop (opening + 1)) =
      .lexeme .string ((source.take place).drop (opening + 1)) := by
  rw [Finding.ofString, closingMark?_eq_some_of_stopsAt stops mark, List.drop_take]

theorem ofString_of_not_stopsAt
    (none : ¬ ∃ place, StopsAt source opening place ∧ source[place]? = some '"') :
    Finding.ofString (source.drop (opening + 1)) = .unterminated := by
  rw [Finding.ofString, closingMark?_eq_none_of_not_stopsAt none]

/-- An open literal leaves nothing to read. -/
theorem unread_pull_of_unterminated {start : Position}
    (brings : scanner.pull.1 = .error (.unterminatedString start)) : scanner.pull.2.cursor.unread = [] := by
  obtain ⟨gap, stretch, rest, extent⟩ := scanner.exists_extent
  rw [extent.after, extent.jumps start brings]

theorem closesByParity_pull (reads : scanner.cursor.ReadsFrom source)
    (opens : scanner.OpensAt source opening) :
    ClosesByParity source opening scanner.pull.1 scanner.pull.2.cursor scanner.pull.2.pull.1 := by
  constructor
  case closed =>
    intro place stops mark
    have behind := stops.behind
    obtain ⟨inside, -⟩ := List.getElem?_eq_some_iff.mp mark
    have width : (Kind.string.lexeme ((source.take place).drop (opening + 1))).length =
        place + 1 - opening := by
      simp only [Kind.lexeme, if_true, List.length_append, List.length_cons, List.length_drop,
        List.length_take, List.length_nil]
      omega
    rw [pull_of_opensAt reads opens (ofString_of_stopsAt stops mark)]
    refine ⟨rfl, ?_⟩
    simp only [Finding.past]
    rw [width, Cursor.advanceBy_standingAt]
    exact congrArg _ (Nat.add_sub_cancel' (Nat.le_succ_of_le (Nat.le_of_lt behind)))
  case unclosed =>
    intro none
    obtain ⟨inside, -⟩ := List.getElem?_eq_some_iff.mp opens.mark
    have left : (Cursor.standingAt source opening).unread.length = source.length - opening :=
      List.length_drop
    have pulled := pull_of_opensAt reads opens (ofString_of_not_stopsAt none)
    have brings := congrArg Prod.fst pulled
    have atEnd : scanner.pull.2.cursor = .standingAt source source.length := by
      rw [pulled]
      simp only [Finding.past]
      rw [Cursor.advanceToEnd_eq_advanceBy, left, Cursor.advanceBy_standingAt]
      exact congrArg _ (Nat.add_sub_cancel' (Nat.le_of_lt inside))
    have ending := isEnd_pull_of_unread_eq_nil (unread_pull_of_unterminated brings)
    refine ⟨brings, atEnd, ?_⟩
    rw [pull_of_isEnd (readsFrom_pull reads) ending]

/-!
### Behind an open literal

There only the end of input comes. So there is one open literal at most, and it is the last of the errors.
-/

/-- Once nothing is unread all later calls bring the end of input. By induction on the number of calls. -/
theorem History.reading_of_unread_eq_nil {calls : List Call} (history : History source calls scanner)
    {index : Nat} {call : Call} (here : calls[index]? = some call) (done : call.after.cursor.unread = [])
    {more : Nat} {later : Call} (there : calls[index + 1 + more]? = some later) :
    later.reading = .token (.atEndOf source) ∧ later.after.cursor.unread = [] := by
  have step {earlier next : Call} {place : Nat} (before : calls[place]? = some earlier)
      (behind : calls[place + 1]? = some next) (empty : earlier.after.cursor.unread = []) :
      next.reading = .token (.atEndOf source) ∧ next.after.cursor.unread = [] := by
    obtain ⟨pulls, -, -⟩ := history.call behind
    rw [← history.before_succ before behind] at empty
    rw [pulls.reading, pulls.after, pull_of_isEnd (history.readsFrom_before behind)
      (isEnd_pull_of_unread_eq_nil empty)]
    exact ⟨rfl, rfl⟩
  induction more generalizing later with
  | zero => exact step here there done
  | succ more ih =>
      obtain ⟨inside, -⟩ := List.getElem?_eq_some_iff.mp there
      have between : calls[index + 1 + more]? = some calls[index + 1 + more] :=
        List.getElem?_eq_getElem (by omega)
      exact step between there (ih between).2

theorem History.reading_of_unterminated {calls : List Call} (history : History source calls scanner)
    {index : Nat} {call : Call} {start : Position} (here : calls[index]? = some call)
    (brings : call.reading = .error (.unterminatedString start)) {more : Nat} {later : Call}
    (there : calls[index + 1 + more]? = some later) : later.reading = .token (.atEndOf source) := by
  obtain ⟨pulls, -, -⟩ := history.call here
  have done : call.after.cursor.unread = [] := by
    rw [pulls.after]
    exact unread_pull_of_unterminated (pulls.reading ▸ brings)
  exact (history.reading_of_unread_eq_nil here done there).1

/-- Two calls that bring an open literal are one. -/
theorem History.unterminated_unique {calls : List Call} (history : History source calls scanner)
    {one two : Nat} {first second : Call} {start other : Position} (atOne : calls[one]? = some first)
    (atTwo : calls[two]? = some second) (firstOpen : first.reading = .error (.unterminatedString start))
    (secondOpen : second.reading = .error (.unterminatedString other)) : one = two := by
  have apart {low high : Nat} {earlier later : Call} {here there : Position}
      (atLow : calls[low]? = some earlier) (atHigh : calls[high]? = some later)
      (earlierOpen : earlier.reading = .error (.unterminatedString here))
      (laterOpen : later.reading = .error (.unterminatedString there)) : ¬ low < high := by
    intro before
    have index : high = low + 1 + (high - (low + 1)) := by omega
    rw [index] at atHigh
    rw [(history.reading_of_unterminated atLow earlierOpen atHigh)] at laterOpen
    cases laterOpen
  apply Nat.le_antisymm
  · exact Nat.le_of_not_lt (apart atTwo atOne secondOpen firstOpen)
  · exact Nat.le_of_not_lt (apart atOne atTwo firstOpen secondOpen)

/-- In an iteration, too, only the end of input comes behind an open literal. By induction on the readings. -/
theorem readings_of_unterminated (going : scanner.finished = false)
    (reads : scanner.cursor.ReadsFrom source) {before after : List Reading} {start : Position}
    (split : scanner.readings = before ++ .error (.unterminatedString start) :: after) :
    after = [.token (.atEndOf source)] := by
  refine readings_induction (motive := fun scanner readings => scanner.cursor.ReadsFrom source →
    ∀ before, readings = before ++ .error (.unterminatedString start) :: after →
      after = [.token (.atEndOf source)]) ?_ ?_ scanner going reads before split
  · intro scanner _ ending _ before split
    have last : Reading.error (.unterminatedString start) ∈ [scanner.pull.1] := by
      rw [split]
      exact List.mem_append_right _ List.mem_cons_self
    rw [← List.mem_singleton.mp last] at ending
    cases ending
  · intro scanner going _ later reads before split
    cases before with
    | nil =>
        obtain ⟨brings, rest⟩ := List.cons.inj split
        have goesOn : scanner.pull.2.finished = false := by rw [finished_pull, going]
        have ending := isEnd_pull_of_unread_eq_nil (unread_pull_of_unterminated brings)
        rw [← rest, readings_of_isEnd goesOn ending, pull_of_isEnd (readsFrom_pull reads) ending]
    | cons first before => exact later (readsFrom_pull reads) before (List.cons.inj split).2

end Scanner

/-- Whatever was called before: a pull that comes to an opening mark takes what stands behind it up to the
    first mark or line feed with an even number of backslashes in front of it, and it makes no difference
    that it does so character by character. If that is a mark, the token has all that stands between the two
    marks as it is written; if it is a line feed, or if there is none, the pull goes to the end of the source.
    So an open literal is brought once at most, and behind it nothing but the end of input. -/
theorem string_closes_by_parity {source : List Char} {calls : List Call} {scanner : Scanner}
    (history : Scanner.History source calls scanner) :
    (∀ opening, scanner.OpensAt source opening →
      ClosesByParity source opening scanner.pull.1 scanner.pull.2.cursor scanner.pull.2.pull.1 ∧
      ∀ state : Buffered, state.toScanner = scanner →
        ClosesByParity source opening state.pull.1 state.pull.2.cursor state.pull.2.pull.1) ∧
    (∀ index call start, calls[index]? = some call → call.reading = .error (.unterminatedString start) →
      (∀ more later, calls[index + 1 + more]? = some later → later.reading = .token (.atEndOf source)) ∧
      ∀ other second place, calls[other]? = some second →
        second.reading = .error (.unterminatedString place) → other = index) ∧
    (∀ before start after, readings source = before ++ .error (.unterminatedString start) :: after →
      after = [.token (.atEndOf source)] ∧ ∀ place, .error (.unterminatedString place) ∉ before) := by
  have reads := history.reachable.readsFrom
  refine ⟨?_, ?_, ?_⟩
  · intro opening opens
    have closes := Scanner.closesByParity_pull reads opens
    refine ⟨closes, ?_⟩
    rintro state rfl
    obtain ⟨brings, leaves⟩ := state.pull_eq
    rw [brings, state.pull.2.pull_eq.1, leaves]
    exact closes
  · intro index call start here brings
    constructor
    · intro more later there
      exact history.reading_of_unterminated here brings there
    · intro other second place there another
      exact history.unterminated_unique there here another brings
  · intro before start after split
    have reads := Cursor.readsFrom_ofChars source
    refine ⟨Scanner.readings_of_unterminated rfl reads split, ?_⟩
    intro place member
    obtain ⟨front, between, rfl⟩ := List.append_of_mem member
    have cut : readings source =
        front ++ .error (.unterminatedString place) :: (between ++ .error (.unterminatedString start) :: after) := by
      rw [split, List.append_assoc, List.cons_append]
    have last := Scanner.readings_of_unterminated rfl reads cut
    cases between with
    | nil => cases (List.cons.inj last).1
    | cons first between => cases between <;> cases (List.cons.inj last).2

/-- For instance where the literal has an escaped mark in it and a pair of backslashes at its end. -/
theorem string_closes_behind_pairs :
    Scanner.History "\"\\\"\\\\\"".toList [] (.ofString "\"\\\"\\\\\"") ∧
      StopsAt "\"\\\"\\\\\"".toList 0 5 ∧
      (Scanner.ofString "\"\\\"\\\\\"").pull.1 = .token ⟨.string, "\\\"\\\\", .origin⟩ ∧
      (Scanner.ofString "\"\\\"\\\\\"").pull.2.cursor = ⟨[], ⟨0, 6, 6⟩⟩ := by
  have history : Scanner.History "\"\\\"\\\\\"".toList [] (.ofString "\"\\\"\\\\\"") := .start
  have stops : StopsAt "\"\\\"\\\\\"".toList 0 5 := by decide
  have opens : (Scanner.ofString "\"\\\"\\\\\"").OpensAt "\"\\\"\\\\\"".toList 0 :=
    ⟨Or.inl rfl, Nat.le_refl 0, fun _ member => (List.not_mem_nil member).elim, by decide⟩
  have closes := ((string_closes_by_parity history).1 0 opens).1
  obtain ⟨brings, leaves⟩ := closes.closed 5 stops (by decide)
  exact ⟨history, stops, brings, leaves⟩

end MaximalMunch
