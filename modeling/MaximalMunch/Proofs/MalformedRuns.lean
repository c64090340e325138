/-
Module: MaximalMunch.Proofs.MalformedRuns
Layer: Proofs
Purpose: The calls that read a malformed run. A call that brings an error of a malformed run leaves the
  flag set and stands right behind the character it blames (`Call.blames_of_invalidStart`), so the next
  call blames the next character as long as that is one of a word (`Call.blames_of_flag`). By induction the
  calls after an opening blame the characters of the run one by one, up to the place where it ends
  (`History.blames_of_run`), and the call there is the first one of a scan of what follows
  (`Call.restarts_of_outsideRun`). The main result, `malformedRuns_of_history`, says this of every opening
  in a history, that no token reaches into a run, and that every error of a malformed run belongs to
  exactly one opening.
Imports: MaximalMunch.Proofs.Partition, MaximalMunch.Scanner.History
Trusted boundary: none
Main exports: RunEnds, Call.Blames, Call.Restarts, MalformedRun, InRunOf, malformedRuns_of_history
Open obligations: none
-/
import MaximalMunch.Proofs.Partition
import MaximalMunch.Scanner.History

namespace MaximalMunch

open CharClass

/-!
### Where a run ends

The character at which a run starts may be a sign. What ends the run is the first character behind it that
is not one of a word.
-/

/-- A malformed run at `start` ends at `stop`. -/
structure RunEnds (source : List Char) (start stop : Nat) : Prop where
  behind : start < stop
  within : stop ≤ source.length
  words : ∀ place c, start < place → place < stop → source[place]? = some c → isWord c = true
  ended : source[stop]?.any isWord = false

/-- Every run ends, with the source if nowhere else. -/
theorem exists_runEnds {source : List Char} {start : Nat} (inside : start < source.length) :
    ∃ stop, RunEnds source start stop := by
  obtain ⟨part, rest, split, all, stops⟩ := exists_stop isWord (source.drop (start + 1))
  have total := congrArg List.length split
  rw [List.length_drop, List.length_append] at total
  refine ⟨start + 1 + part.length, by omega, by omega, ?_, ?_⟩
  · intro place c behind before here
    have shifted : (source.drop (start + 1))[place - (start + 1)]? = some c := by
      rw [List.getElem?_drop, ← here]
      congr 1
      omega
    rw [split, List.getElem?_append_left (by omega)] at shifted
    exact all c (List.mem_of_getElem? shifted)
  · rw [← List.getElem?_drop, split, List.getElem?_append_right (Nat.le_refl _), Nat.sub_self,
      ← List.head?_eq_getElem?]
    exact stops

/-- A scan that stands at the end of a run is outside of it, whatever the flag says. -/
theorem RunEnds.outsideRun {source : List Char} {start stop : Nat} {scanner : Scanner}
    (ends : RunEnds source start stop) (stands : scanner.cursor = .standingAt source stop) :
    scanner.OutsideRun := by
  right
  rw [stands, Cursor.peek?, Cursor.peekNth?, Cursor.standingAt, List.getElem?_drop]
  exact ends.ended

/-!
### One call

What a call brought and the state before it are enough to know the state after it.
-/

/-- The call brings the error of a malformed run for the character at `place`, and leaves the scan right
    behind it with the flag set. -/
structure Call.Blames (source : List Char) (place : Nat) (call : Call) : Prop where
  reading : ∃ c, source[place]? = some c ∧
    call.reading = .error (.invalidStart c (.after (source.take place)))
  after : call.after = ⟨.standingAt source (place + 1), true, call.after.finished⟩

/-- The character that a call blames stands where the error says. -/
theorem Call.Blames.column {source : List Char} {place : Nat} {call : Call}
    (blames : call.Blames source place) : call.reading.position.column = place := by
  obtain ⟨c, here, brings⟩ := blames.reading
  obtain ⟨bound, -⟩ := List.getElem?_eq_some_iff.mp here
  rw [brings]
  exact Cursor.column_standingAt (Nat.le_of_lt bound)

/-- The call is the first one of a scan of what follows `place`, but for where positions are counted
    from. -/
structure Call.Restarts (source : List Char) (place : Nat) (call : Call) : Prop where
  reading : call.reading =
    (Scanner.ofChars (source.drop place)).pull.1.translate (.after (source.take place))
  after : call.after =
    ((Scanner.ofChars (source.drop place)).pull.2.translate (.after (source.take place))).withFinished
      call.after.finished

namespace Call

variable {source : List Char} {call : Call} {gap stretch rest : List Char}

/-- A call leaves the cursor where a pull does. -/
theorem cursor_after (pulls : call.Pulls) : call.after.cursor = call.before.pull.2.cursor := by
  rw [pulls.after]
  rfl

/-- A call ends behind the stretch of its reading. -/
theorem column_after (pulls : call.Pulls) (extent : call.before.Extent gap stretch rest) :
    call.after.position.column = call.before.position.column + gap.length + stretch.length := by
  rw [← extent.column_after, ← cursor_after pulls]
  rfl

/-- No call goes back. -/
theorem column_le (pulls : call.Pulls) :
    call.before.position.column ≤ call.after.position.column := by
  obtain ⟨gap, stretch, rest, extent⟩ := call.before.exists_extent
  rw [column_after pulls extent, Nat.add_assoc]
  exact Nat.le_add_right _ _

/-- No reading stands in front of where its call began. -/
theorem column_le_reading (pulls : call.Pulls) :
    call.before.position.column ≤ call.reading.position.column := by
  obtain ⟨gap, stretch, rest, extent⟩ := call.before.exists_extent
  rw [pulls.reading, extent.column]
  exact Nat.le_add_right _ _

/-- A call that brings a token ends where the token does. -/
theorem column_after_token (pulls : call.Pulls) {token : Token}
    (brings : call.reading = .token token) :
    call.after.position.column = token.position.column + token.lexeme.length := by
  obtain ⟨gap, stretch, rest, extent⟩ := call.before.exists_extent
  have pulled : call.before.pull.1 = .token token := pulls.reading.symm.trans brings
  have column := extent.column
  have covers := extent.covers
  rw [pulled] at column covers
  have column : token.position.column = call.before.position.column + gap.length := column
  have covers : stretch = token.lexeme := covers
  rw [column_after pulls extent, column, covers]

/-- After a call the flag is set exactly if the call brought a malformed start. -/
theorem flag_iff (pulls : call.Pulls) :
    call.after.inMalformedRun = true ↔
      ∃ c position, call.reading = .error (.invalidStart c position) := by
  rw [pulls.after, pulls.reading]
  exact call.before.inMalformedRun_pull_iff

/-- The character that is named in the error is the one that stands at its position in the source. -/
theorem blames_of_invalidStart (pulls : call.Pulls) (reads : call.before.cursor.ReadsFrom source)
    {c : Char} {position : Position} (brings : call.reading = .error (.invalidStart c position)) :
    position = .after (source.take position.column) ∧ call.Blames source position.column := by
  obtain ⟨gap, stretch, rest, extent⟩ := call.before.exists_extent
  have pulled : call.before.pull.1 = .error (.invalidStart c position) :=
    pulls.reading.symm.trans brings
  have starts := extent.starts
  have covers := extent.covers
  rw [pulled] at starts covers
  have starts : position = call.before.position.advanceAll gap := starts
  obtain rfl : stretch = [c] := covers
  have here : Cursor.ReadsFrom source ⟨c :: rest, position⟩ := by
    rw [starts]
    exact reads.step extent.unread
  have next : Cursor.ReadsFrom source ⟨rest, position.advance c⟩ := here.advanceBy 1
  have place : position = .after (source.take position.column) :=
    congrArg Cursor.position here.eq_standingAt
  refine ⟨place, ⟨c, ?_, brings.trans (by rw [← place])⟩, ?_⟩
  · have unread := congrArg List.head? here.drop_column
    rwa [List.head?_drop] at unread
  · have flag := (flag_iff pulls).mpr ⟨c, position, brings⟩
    have cursor : call.after.cursor = .standingAt source (position.column + 1) := by
      have column : (position.advance c).column = position.column + 1 :=
        position.column_advanceAll [c]
      rw [← column, ← next.eq_standingAt, cursor_after pulls, extent.after, starts,
        Position.advanceAll_append]
      rfl
    rw [← cursor, ← flag]

/-- Where the flag is set and a word character follows, that character is blamed. -/
theorem blames_of_flag (pulls : call.Pulls) (reads : call.before.cursor.ReadsFrom source) {place : Nat}
    {c : Char} (flagged : call.before = ⟨.standingAt source place, true, call.before.finished⟩)
    (here : source[place]? = some c) (word : isWord c = true) : call.Blames source place := by
  obtain ⟨bound, found⟩ := List.getElem?_eq_some_iff.mp here
  have unread : call.before.cursor.unread = c :: source.drop (place + 1) := by
    rw [flagged, ← found]
    exact List.drop_eq_getElem_cons bound
  have flag : call.before.inMalformedRun = true := by rw [flagged]
  have brings : call.reading = .error (.invalidStart c (.after (source.take place))) := by
    rw [pulls.reading, Scanner.pull_of_insideRun flag unread word, flagged]
    rfl
  have column : (Position.after (source.take place)).column = place :=
    Cursor.column_standingAt (Nat.le_of_lt bound)
  obtain ⟨-, blames⟩ := blames_of_invalidStart pulls reads brings
  rwa [column] at blames

/-- A call outside of a run goes on as if the source began where it stands. -/
theorem restarts_of_outsideRun (pulls : call.Pulls) (outside : call.before.OutsideRun) {place : Nat}
    (stands : call.before.cursor = .standingAt source place) : call.Restarts source place := by
  have unread : call.before.cursor.unread = source.drop place := by
    rw [stands]
    rfl
  have position : call.before.position = .after (source.take place) := by
    rw [Scanner.position, stands]
    rfl
  have restarts := Scanner.pull_restarts outside
  rw [unread, position] at restarts
  constructor
  · rw [pulls.reading, restarts]
  · rw [pulls.after, restarts]
    rfl

end Call

/-!
### All calls of a run

The calls of a history are known by their number. A run that opens with one call is read by those that
follow it, one character a call.
-/

/-- The calls from `opener` on read the malformed run of `source` from `start` to `stop`: the first opens
    it, those that follow blame its other characters, and the one behind them starts afresh. No token of
    the history reaches into the run. -/
structure MalformedRun (source : List Char) (calls : List Call) (opener start stop : Nat) : Prop where
  ends : RunEnds source start stop
  opens : ∃ call, calls[opener]? = some call ∧ call.before.OutsideRun ∧ call.Blames source start
  goesOn : ∀ n call, 0 < n → start + n < stop → calls[opener + n]? = some call →
    call.before = ⟨.standingAt source (start + n), true, call.before.finished⟩ ∧
      call.Blames source (start + n)
  resumes : ∀ call, calls[opener + (stop - start)]? = some call →
    call.before = ⟨.standingAt source stop, true, call.before.finished⟩ ∧ call.Restarts source stop
  apart : ∀ call ∈ calls, ∀ token, call.reading = .token token →
    token.position.column + token.lexeme.length ≤ start ∨ stop ≤ token.position.column

namespace Scanner.History

variable {source : List Char} {calls : List Call} {scanner : Scanner}

/-- Of two calls the earlier one ends before the later one begins. -/
theorem column_le_of_lt (history : History source calls scanner) {one two : Nat} {first second : Call}
    (order : one < two) (atOne : calls[one]? = some first) (atTwo : calls[two]? = some second) :
    first.after.position.column ≤ second.before.position.column := by
  induction two generalizing second with
  | zero => omega
  | succ two ih =>
      obtain ⟨bound, -⟩ := List.getElem?_eq_some_iff.mp atTwo
      have between : calls[two]? = some calls[two] := List.getElem?_eq_getElem (by omega)
      rw [history.before_succ between atTwo]
      rcases Nat.lt_or_ge one two with earlier | same
      · exact Nat.le_trans (ih earlier between) (Call.column_le (history.call between).1)
      · have same : one = two := by omega
        subst same
        rw [atOne] at between
        cases between
        exact Nat.le_refl _

/-- Later calls begin further on. -/
theorem column_le_of_le (history : History source calls scanner) {one two : Nat} {first second : Call}
    (order : one ≤ two) (atOne : calls[one]? = some first) (atTwo : calls[two]? = some second) :
    first.before.position.column ≤ second.before.position.column := by
  rcases Nat.lt_or_eq_of_le order with earlier | same
  · exact Nat.le_trans (Call.column_le (history.call atOne).1)
      (history.column_le_of_lt earlier atOne atTwo)
  · rw [same, atTwo] at atOne
    cases atOne
    exact Nat.le_refl _

/-- Behind a call that blames a character the next one stands behind that character, within the run. -/
theorem before_of_blames (history : History source calls scanner) {index place : Nat}
    {call later : Call} (here : calls[index]? = some call) (next : calls[index + 1]? = some later)
    (blames : call.Blames source place) :
    later.before = ⟨.standingAt source (place + 1), true, later.before.finished⟩ := by
  rw [history.before_succ here next]
  exact blames.after

section Run

variable {opener start stop : Nat} {first : Call}

/-- By induction on the calls that follow an opening: each leaves the scan where the next one blames. -/
theorem blames_of_run (history : History source calls scanner) (ends : RunEnds source start stop)
    (atOpener : calls[opener]? = some first) (blames : first.Blames source start) {n : Nat}
    {call : Call} (inside : start + n < stop) (here : calls[opener + n]? = some call) :
    call.Blames source (start + n) := by
  induction n generalizing call with
  | zero =>
      have same : first = call := Option.some.inj (atOpener.symm.trans here)
      rw [← same]
      exact blames
  | succ n ih =>
      obtain ⟨bound, -⟩ := List.getElem?_eq_some_iff.mp here
      have between : calls[opener + n]? = some calls[opener + n] :=
        List.getElem?_eq_getElem (by omega)
      have flagged := history.before_of_blames between here (ih (by omega) between)
      have within := ends.within
      have inSource : source[start + (n + 1)]? = some source[start + (n + 1)] :=
        List.getElem?_eq_getElem (by omega)
      have word := ends.words _ _ (by omega) inside inSource
      exact Call.blames_of_flag (history.call here).1 (history.readsFrom_before here) flagged inSource
        word

/-- So the flag is set before each of the calls up to the one behind the run. -/
theorem before_of_run (history : History source calls scanner) (ends : RunEnds source start stop)
    (atOpener : calls[opener]? = some first) (blames : first.Blames source start) {n : Nat}
    {call : Call} (positive : 0 < n) (inside : start + n ≤ stop)
    (here : calls[opener + n]? = some call) :
    call.before = ⟨.standingAt source (start + n), true, call.before.finished⟩ := by
  obtain ⟨n, rfl⟩ : ∃ earlier, n = earlier + 1 := ⟨n - 1, by omega⟩
  obtain ⟨bound, -⟩ := List.getElem?_eq_some_iff.mp here
  have between : calls[opener + n]? = some calls[opener + n] :=
    List.getElem?_eq_getElem (by omega)
  exact history.before_of_blames between here
    (history.blames_of_run ends atOpener blames (by omega) between)

/-- A run is over for all calls whose number says so. -/
theorem column_le_of_run (history : History source calls scanner) (ends : RunEnds source start stop)
    (atOpener : calls[opener]? = some first) (blames : first.Blames source start) {n : Nat}
    {call : Call} (beyond : stop ≤ start + n) (here : calls[opener + n]? = some call) :
    stop ≤ call.before.position.column := by
  have behind := ends.behind
  obtain ⟨bound, -⟩ := List.getElem?_eq_some_iff.mp here
  have resumed : calls[opener + (stop - start)]? = some calls[opener + (stop - start)] :=
    List.getElem?_eq_getElem (Nat.lt_of_le_of_lt (by omega) bound)
  have flagged := history.before_of_run ends atOpener blames (by omega) (by omega) resumed
  have column : calls[opener + (stop - start)].before.position.column = start + (stop - start) := by
    rw [flagged]
    exact Cursor.column_standingAt (by have := ends.within; omega)
  have later := history.column_le_of_le (by omega) resumed here
  omega

/-- A token of an earlier call ends before the run, and one of a later call begins behind it. -/
theorem apart_of_run (history : History source calls scanner) (ends : RunEnds source start stop)
    (atOpener : calls[opener]? = some first) (blames : first.Blames source start) {call : Call}
    (member : call ∈ calls) {token : Token} (brings : call.reading = .token token) :
    token.position.column + token.lexeme.length ≤ start ∨ stop ≤ token.position.column := by
  obtain ⟨index, here⟩ := List.mem_iff_getElem?.mp member
  have pulls := (history.call here).1
  rcases Nat.lt_or_ge index opener with before | behind
  · left
    have order := history.column_le_of_lt before here atOpener
    have opens := Call.column_le_reading (history.call atOpener).1
    have ended := Call.column_after_token pulls brings
    rw [blames.column] at opens
    omega
  · right
    obtain ⟨n, rfl⟩ : ∃ n, index = opener + n := ⟨index - opener, by omega⟩
    rcases Nat.lt_or_ge (start + n) stop with inside | beyond
    · obtain ⟨c, -, blamed⟩ := (history.blames_of_run ends atOpener blames inside here).reading
      rw [brings] at blamed
      cases blamed
    · have low : call.before.position.column ≤ token.position.column := by
        have low := Call.column_le_reading pulls
        rwa [brings] at low
      exact Nat.le_trans (history.column_le_of_run ends atOpener blames beyond here) low

/-- An opening is followed by the calls of its run. -/
theorem exists_malformedRun (history : History source calls scanner)
    (atOpener : calls[opener]? = some first) (outside : first.before.OutsideRun) {c : Char}
    {position : Position} (brings : first.reading = .error (.invalidStart c position)) :
    ∃ stop, MalformedRun source calls opener position.column stop := by
  obtain ⟨-, blames⟩ := Call.blames_of_invalidStart (history.call atOpener).1
    (history.readsFrom_before atOpener) brings
  obtain ⟨_, here, -⟩ := blames.reading
  obtain ⟨inside, -⟩ := List.getElem?_eq_some_iff.mp here
  obtain ⟨stop, ends⟩ := exists_runEnds inside
  have behind := ends.behind
  refine ⟨stop, ends, ⟨first, atOpener, outside, blames⟩, ?_, ?_, ?_⟩
  · intro n call positive inRun here
    exact ⟨history.before_of_run ends atOpener blames positive (Nat.le_of_lt inRun) here,
      history.blames_of_run ends atOpener blames inRun here⟩
  · intro call here
    have flagged := history.before_of_run ends atOpener blames (by omega) (by omega) here
    rw [Nat.add_sub_cancel' (Nat.le_of_lt behind)] at flagged
    have stands : call.before.cursor = .standingAt source stop := by rw [flagged]
    exact ⟨flagged, Call.restarts_of_outsideRun (history.call here).1
      (ends.outsideRun stands) stands⟩
  · intro call member token brings
    exact history.apart_of_run ends atOpener blames member brings

end Run

end Scanner.History

namespace MalformedRun

variable {source : List Char} {calls : List Call} {opener start stop : Nat}

/-- Behind its opening, no call of a run opens another. -/
theorem not_outsideRun (run : MalformedRun source calls opener start stop) {n : Nat} {call : Call}
    (positive : 0 < n) (inside : start + n < stop) (here : calls[opener + n]? = some call) :
    ¬ call.before.OutsideRun := by
  obtain ⟨flagged, blames⟩ := run.goesOn n call positive inside here
  obtain ⟨c, inSource, -⟩ := blames.reading
  have word := run.ends.words _ c (by omega) inside inSource
  rw [flagged]
  rintro (flag | stops)
  · cases flag
  · rw [Cursor.peek?, Cursor.peekNth?, Cursor.standingAt, List.getElem?_drop, Nat.add_zero,
      inSource] at stops
    exact absurd word (by simpa using stops)

/-- No run is opened within another. -/
theorem opener_le {opener' start' stop' index : Nat} (run : MalformedRun source calls opener start stop)
    (other : MalformedRun source calls opener' start' stop') (low : opener' ≤ index)
    (high : index < opener + (stop - start)) : opener' ≤ opener := by
  rcases Nat.lt_or_ge opener opener' with behind | before
  · obtain ⟨n, rfl⟩ : ∃ n, opener' = opener + n := ⟨opener' - opener, by omega⟩
    obtain ⟨call, here, outside, -⟩ := other.opens
    exact absurd outside (run.not_outsideRun (by omega) (by omega) here)
  · exact before

end MalformedRun

/-- The call with this index reads a character of the malformed run that the call `opener` opens. -/
def InRunOf (source : List Char) (calls : List Call) (opener index : Nat) : Prop :=
  ∃ start stop, MalformedRun source calls opener start stop ∧ opener ≤ index ∧
    index < opener + (stop - start)

namespace Scanner.History

variable {source : List Char} {calls : List Call} {scanner : Scanner}

/-- A malformed start outside of a run opens one. -/
theorem inRunOf_self (history : History source calls scanner) {index : Nat} {call : Call} {c : Char}
    {position : Position} (here : calls[index]? = some call) (outside : call.before.OutsideRun)
    (brings : call.reading = .error (.invalidStart c position)) :
    InRunOf source calls index index := by
  obtain ⟨stop, run⟩ := history.exists_malformedRun here outside brings
  have behind := run.ends.behind
  exact ⟨position.column, stop, run, Nat.le_refl _, by omega⟩

/-- Going back from an error of a malformed run, the flag was set by the call before, which brought one
    as well, until a call is outside of a run and opens it. -/
theorem exists_inRunOf (history : History source calls scanner) {index : Nat} {call : Call} {c : Char}
    {position : Position} (here : calls[index]? = some call)
    (brings : call.reading = .error (.invalidStart c position)) :
    ∃ opener, InRunOf source calls opener index := by
  induction index generalizing call c position with
  | zero =>
      have outside : call.before.OutsideRun := by
        rw [history.before_zero here]
        exact Or.inl rfl
      exact ⟨0, history.inRunOf_self here outside brings⟩
  | succ index ih =>
      by_cases outside : call.before.OutsideRun
      · exact ⟨index + 1, history.inRunOf_self here outside brings⟩
      · obtain ⟨bound, -⟩ := List.getElem?_eq_some_iff.mp here
        have between : calls[index]? = some calls[index] := List.getElem?_eq_getElem (by omega)
        have flag : call.before.inMalformedRun = true := by
          cases flag : call.before.inMalformedRun with
          | true => rfl
          | false => exact absurd (Or.inl flag) outside
        rw [history.before_succ between here] at flag
        obtain ⟨earlier, place, brought⟩ := (Call.flag_iff (history.call between).1).mp flag
        obtain ⟨opener, start, stop, run, low, high⟩ := ih between brought
        refine ⟨opener, start, stop, run, by omega, ?_⟩
        rcases Nat.lt_or_ge (index + 1) (opener + (stop - start)) with inside | beyond
        · exact inside
        · have last : index + 1 = opener + (stop - start) := by omega
          obtain ⟨flagged, -⟩ := run.resumes call (last ▸ here)
          exact absurd (run.ends.outsideRun (by rw [flagged])) outside

theorem flag_iff (history : History source calls scanner) :
    scanner.inMalformedRun = true ↔ ∃ call c position, calls.getLast? = some call ∧
      call.reading = .error (.invalidStart c position) := by
  cases last : calls.getLast? with
  | none =>
      rw [history.eq_ofChars (List.getLast?_eq_none_iff.mp last)]
      simp [Scanner.ofChars]
  | some call =>
      rw [List.getLast?_eq_getElem?] at last
      rw [← history.after_getLast? (by rw [List.getLast?_eq_getElem?, last]),
        Call.flag_iff (history.call last).1]
      simp

end Scanner.History

/-- The malformed runs of a scan. The flag is set exactly if the last call brought an error of a malformed
    run; such an error brought outside of a run opens one, which the calls that follow read to its end; and
    every such error belongs to exactly one run. -/
theorem malformedRuns_of_history {source : List Char} {calls : List Call} {scanner : Scanner}
    (history : Scanner.History source calls scanner) :
    (scanner.inMalformedRun = true ↔ ∃ call c position, calls.getLast? = some call ∧
      call.reading = .error (.invalidStart c position)) ∧
    (∀ opener call c position, calls[opener]? = some call → call.before.OutsideRun →
      call.reading = .error (.invalidStart c position) →
        ∃ stop, MalformedRun source calls opener position.column stop) ∧
    (∀ index call c position, calls[index]? = some call →
      call.reading = .error (.invalidStart c position) →
        ∃! opener, InRunOf source calls opener index) := by
  refine ⟨history.flag_iff, ?_, ?_⟩
  · intro opener call c position here outside brings
    exact history.exists_malformedRun here outside brings
  · intro index call c position here brings
    obtain ⟨opener, start, stop, run, low, high⟩ := history.exists_inRunOf here brings
    refine ⟨opener, ⟨start, stop, run, low, high⟩, ?_⟩
    rintro other ⟨start', stop', otherRun, otherLow, otherHigh⟩
    exact Nat.le_antisymm (run.opener_le otherRun otherLow high) (otherRun.opener_le run low otherHigh)

/-- For instance the two calls on `1a`: the first opens a run, and the second belongs to it. -/
theorem malformedRuns_of_one_a :
    ∃ calls scanner, Scanner.History ['1', 'a'] calls scanner ∧ scanner.inMalformedRun = true ∧
      (∃ stop, MalformedRun ['1', 'a'] calls 0 0 stop) ∧
      ∃! opener, InRunOf ['1', 'a'] calls opener 1 := by
  have history : Scanner.History ['1', 'a'] _ _ := .pull (.pull .start)
  obtain ⟨flag, opens, belongs⟩ := malformedRuns_of_history history
  refine ⟨_, _, history, flag.mpr ⟨_, 'a', ⟨0, 1, 1⟩, rfl, rfl⟩, ?_, ?_⟩
  · exact opens 0 _ '1' ⟨0, 0, 0⟩ rfl (Or.inl rfl) rfl
  · exact belongs 1 _ 'a' ⟨0, 1, 1⟩ rfl rfl

end MaximalMunch
