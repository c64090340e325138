/-
Module: MaximalMunch.Proofs.CommandLines
Layer: Proofs
Purpose: Reading a command line from left to right accepts exactly the command lines of the grammar. A reading may
  fail late, where an empty word is settled, and an early mistake hides a later one; so the statement is made of
  a reading that has come to some point and reads the rest to the end (`Progress.complete`). From any point it
  succeeds exactly if the flags and the positional words of what was read and of what is left can be requested
  together (`Requests`): each word is looked at once (`give_step`, `take_step`), and the rest is an induction on
  the words (`complete_eq_ok_iff`). What can be requested is counted, and counting does not see the order, so
  the grammar and what it asks for are the same for every arrangement of the words in front of the dashes. The
  main result is `parse_follows_grammar`.
Imports: MaximalMunch.CommandLine.Grammar, MaximalMunch.CommandLine.Prefixed
Trusted boundary: none
Main exports: Progress.complete, Requests, complete_eq_ok_iff, parse_eq_ok_iff, Divides.unique,
  parse_follows_grammar
Open obligations: none
-/
import MaximalMunch.CommandLine.Grammar
import MaximalMunch.CommandLine.Prefixed

namespace MaximalMunch.CommandLine

/-- Flags, and positional words, that lead together to a run with these arguments. -/
structure Requests (flags : List Flag) (inputs : List String) (arguments : Arguments) : Prop where
  once : flags.Nodup
  one : inputs.length ≤ 1
  nonempty : "" ∉ inputs
  failFast : arguments.failFast = flags.contains .failFast
  verbose : arguments.verbose = flags.contains .verbose
  input : arguments.input.toList = inputs

/-!
### Which words are understood
-/

/-- Three words give a setting. -/
theorem isSome_setting?_iff {word : String} :
    (setting? word).isSome = true ↔ word = "--fail-fast" ∨ word = "--verbose" ∨ word = "-v" := by
  simp [Option.isSome_iff_exists, setting?_eq_some_iff, exists_or]

theorem isSetting_of_setting? {word : String} {flag : Flag} (setting : setting? word = some flag) :
    flag.isSetting = true := by
  rcases setting?_eq_some_iff.mp setting with ⟨rfl, _⟩ | ⟨rfl, _⟩ <;> rfl

/-- None of them can be positional. -/
theorem not_isPositional_of_setting? {word : String} {flag : Flag} (setting : setting? word = some flag) :
    ¬ IsPositional word := by
  rcases setting?_eq_some_iff.mp setting with ⟨_, rfl⟩ | ⟨_, rfl | rfl⟩ <;> decide

namespace Progress

variable {progress after : Progress}

/-- To act on the word of a setting is to give the flag. -/
theorem act_of_setting? {word : String} {flag : Flag} (setting : setting? word = some flag) :
    progress.act word = progress.give flag := by
  rcases setting?_eq_some_iff.mp setting with ⟨rfl, rfl⟩ | ⟨rfl, rfl | rfl⟩
  · rfl
  · rfl
  · exact bind_pure _

/-- To act on a positional word is to take it. -/
theorem act_of_isPositional {word : String} (positional : IsPositional word) :
    progress.act word = progress.take word := by
  rw [act, Word.ofText_eq_positional_iff.mpr positional]

/-- Help and the version end the reading. -/
theorem isSetting_of_give {flag : Flag} (given : progress.give flag = .ok after) : flag.isSetting = true := by
  obtain ⟨settled, settles, rest⟩ := bind_eq_ok given
  cases flag with
  | failFast => rfl
  | verbose => rfl
  | help => cases rest
  | version => cases rest

/-- A flag that is given was not given before. -/
theorem mem_flags_of_give {flag : Flag} (given : progress.give flag = .ok after) :
    flag ∉ progress.flags ∧ flag ∈ after.flags := by
  have setting := isSetting_of_give given
  obtain ⟨settled, settles, _⟩ := bind_eq_ok given
  rw [give_of_settle settles] at given
  rw [← (settle_eq_ok settles).1]
  cases flag with
  | help => cases setting
  | version => cases setting
  | failFast | verbose =>
      simp only at given
      split at given
      · cases given
      · next fresh =>
          cases given
          exact ⟨fresh, by simp⟩

/-- One short flag is understood, once. -/
theorem giveShort_eq_ok {name : Char} (given : progress.giveShort name = .ok after) :
    name = 'v' ∧ Flag.verbose ∉ progress.flags ∧ Flag.verbose ∈ after.flags := by
  rw [giveShort] at given
  cases found : Flag.ofShort? name with
  | none =>
      rw [found] at given
      cases given
  | some flag =>
      rw [found] at given
      have named := Flag.ofShort?_eq_some_iff.mp found
      have setting := isSetting_of_give given
      cases flag with
      | failFast => cases named
      | verbose => exact ⟨(Option.some.inj named).symm, mem_flags_of_give given⟩
      | help => cases setting
      | version => cases setting

/-- Of the clusters only the one of a single flag is read to its end: a second flag in it is either unknown, or
    no setting, or given again. -/
theorem eq_of_cluster_eq_ok {names : List Char} (some : names ≠ [])
    (given : names.foldlM giveShort progress = .ok after) : names = ['v'] := by
  cases names with
  | nil => exact absurd rfl some
  | cons first others =>
      rw [List.foldlM_cons] at given
      obtain ⟨middle, one, rest⟩ := bind_eq_ok given
      obtain ⟨named, _, verbose⟩ := giveShort_eq_ok one
      cases others with
      | nil => rw [named]
      | cons second others =>
          rw [List.foldlM_cons] at rest
          obtain ⟨_, two, _⟩ := bind_eq_ok rest
          exact absurd verbose (giveShort_eq_ok two).2.1

/-- Two long flags are understood, both without a value. -/
theorem giveLong_eq_ok {name : String} {value? : Option String}
    (given : progress.giveLong name value? = .ok after) :
    value? = none ∧ (name = "fail-fast" ∨ name = "verbose") := by
  simp only [giveLong] at given
  cases found : Flag.ofLong? name with
  | none =>
      rw [found] at given
      cases given
  | some flag =>
      rw [found] at given
      have named := Flag.ofLong?_eq_some_iff.mp found
      cases value? with
      | some value => cases given
      | none =>
          have setting := isSetting_of_give given
          cases flag with
          | failFast => exact ⟨rfl, Or.inl named.symm⟩
          | verbose => exact ⟨rfl, Or.inr named.symm⟩
          | help => cases setting
          | version => cases setting

/-- Before the dashes no other words are understood than those of the grammar. -/
theorem shape_of_act {word : String} (acted : progress.act word = .ok after) (dashes : word ≠ "--") :
    (setting? word).isSome = true ∨ IsPositional word := by
  have written := Word.render_ofText word
  rw [act] at acted
  rw [isSome_setting?_iff]
  cases shape : Word.ofText word with
  | endOfFlags =>
      rw [shape] at written
      exact absurd written.symm dashes
  | long name value? =>
      rw [shape] at acted written
      obtain ⟨rfl, rfl | rfl⟩ := giveLong_eq_ok acted
      · exact Or.inl (Or.inl written.symm)
      · exact Or.inl (Or.inr (Or.inl written.symm))
  | cluster names =>
      rw [shape] at acted written
      have some : names ≠ [] := by
        rintro rfl
        have dash : word = "-" := written.symm
        rw [dash] at shape
        cases shape
      rw [eq_of_cluster_eq_ok some acted] at written
      exact Or.inl (Or.inr (Or.inr written.symm))
  | positional text =>
      rw [shape] at written
      have same : text = word := written
      rw [same] at shape
      exact Or.inr (Word.ofText_eq_positional_iff.mp shape)

/-!
### Reading on to the end
-/

/-- The positional words taken so far, settled or not. -/
def taken (progress : Progress) : List String := progress.input.toList ++ progress.pending.toList

/-- What holds at each point of a reading. -/
structure Sound (progress : Progress) : Prop where
  once : progress.flags.Nodup
  one : progress.taken.length ≤ 1
  settled : progress.input ≠ some ""

/-- Read the rest of a command line, which is divided into `before` and `after`. -/
def complete (progress : Progress) (before after : List String) : Except Stop Arguments := do
  let flagged ← before.foldlM act progress
  let positioned ← after.foldlM take flagged
  positioned.finish

theorem sound_start : start.Sound := ⟨List.nodup_nil, Nat.zero_le 1, (Option.some_ne_none "").symm⟩

/-- In front of the dashes every word is acted on. -/
theorem complete_cons (word : String) (before after : List String) :
    progress.complete (word :: before) after = (progress.act word >>= (·.complete before after)) := by
  rw [complete, List.foldlM_cons]
  cases progress.act word <;> rfl

/-- Behind the dashes every word is positional. -/
theorem complete_nil_cons (word : String) (after : List String) :
    progress.complete [] (word :: after) = (progress.take word >>= (·.complete [] after)) := by
  change ((word :: after).foldlM take progress >>= finish) = _
  rw [List.foldlM_cons]
  cases progress.take word <;> rfl

/-- To settle the input shows whether it is empty, and changes nothing else. -/
theorem settle_cases (sound : progress.Sound) :
    ("" ∈ progress.taken ∧ ∃ stop, progress.settle = .error stop) ∨
      ∃ settled, progress.settle = .ok settled ∧ settled.Sound ∧ settled.pending = none ∧
        settled.flags = progress.flags ∧ settled.taken = progress.taken := by
  obtain ⟨flags, input, pending⟩ := progress
  cases pending with
  | none => exact Or.inr ⟨_, rfl, sound, rfl, rfl, rfl⟩
  | some text =>
      have alone : input = none := by
        cases input with
        | none => rfl
        | some other => exact absurd sound.one (by simp [taken])
      subst alone
      by_cases empty : text = ""
      · subst empty
        exact Or.inl ⟨List.mem_cons_self, _, rfl⟩
      · right
        refine ⟨⟨flags, some text, none⟩, ?_, ⟨sound.once, Nat.le_refl 1, ?_⟩, rfl, rfl, rfl⟩
        · have given : text.isEmpty = false := by simpa using empty
          simp [settle, given]
        · simpa using empty

/-- At the end what has been given and taken is requested. -/
theorem finish_eq_ok_iff (sound : progress.Sound) {arguments : Arguments} :
    progress.finish = .ok arguments ↔ Requests progress.flags progress.taken arguments := by
  rcases settle_cases sound with ⟨empty, stop, refused⟩ | ⟨settled, settles, settledSound, idle, flags, same⟩
  · rw [finish, refused]
    constructor
    · intro finished
      cases finished
    · intro requests
      exact absurd empty requests.nonempty
  · have input : settled.input.toList = progress.taken := by
      rw [← same, taken, idle]
      simp
    have finishes : progress.finish =
        .ok ⟨settled.input, progress.flags.contains .failFast, progress.flags.contains .verbose⟩ := by
      rw [finish, settles, ← flags]
      rfl
    rw [finishes]
    constructor
    · rintro ⟨⟩
      refine ⟨sound.once, sound.one, ?_, rfl, rfl, input⟩
      rw [← input]
      intro empty
      exact settledSound.settled (Option.mem_toList.mp empty)
    · intro requests
      obtain ⟨path, failFast, verbose⟩ := arguments
      have path : settled.input = path := by
        ext text
        rw [← Option.mem_toList, ← Option.mem_toList, input, requests.input]
      have failFast : failFast = progress.flags.contains .failFast := requests.failFast
      have verbose : verbose = progress.flags.contains .verbose := requests.verbose
      rw [path, failFast, verbose]

section Steps

variable {next : Progress → Except Stop Arguments} {arguments : Arguments} {shapes : Prop}
  {flags : List Flag} {inputs : List String}

/-- A positional word is one more of them. A second one is refused at once, an empty one later. -/
theorem take_step (sound : progress.Sound) (word : String)
    (goesOn : ∀ {later : Progress}, later.Sound → (next later = .ok arguments ↔
      shapes ∧ Requests (later.flags ++ flags) (later.taken ++ inputs) arguments)) :
    (progress.take word >>= next) = .ok arguments ↔
      shapes ∧ Requests (progress.flags ++ flags) (progress.taken ++ word :: inputs) arguments := by
  obtain ⟨given, input, pending⟩ := progress
  rw [take]
  cases full : input.isSome || pending.isSome with
  | true =>
      rw [if_pos rfl]
      constructor
      · intro refused
        cases refused
      · rintro ⟨_, requests⟩
        have more : 1 ≤ (taken ⟨given, input, pending⟩).length := by
          cases input <;> cases pending <;> simp_all [taken]
        have one := requests.one
        rw [List.length_append, List.length_cons] at one
        omega
  | false =>
      obtain ⟨rfl, rfl⟩ : input = none ∧ pending = none := by simpa using full
      rw [if_neg Bool.false_ne_true]
      have sound : Sound ⟨given, none, some word⟩ := ⟨sound.once, Nat.le_refl 1, (Option.some_ne_none "").symm⟩
      exact goesOn sound

/-- A setting is one flag more. If it was given before it is refused, and so is an empty word in front of it. -/
theorem give_step (sound : progress.Sound) {flag : Flag} (setting : flag.isSetting = true)
    (goesOn : ∀ {later : Progress}, later.Sound → (next later = .ok arguments ↔
      shapes ∧ Requests (later.flags ++ flags) (later.taken ++ inputs) arguments)) :
    (progress.give flag >>= next) = .ok arguments ↔
      shapes ∧ Requests (progress.flags ++ flag :: flags) (progress.taken ++ inputs) arguments := by
  rcases settle_cases sound with ⟨empty, stop, refused⟩ | ⟨settled, settles, settledSound, _, same, takes⟩
  · rw [give, refused]
    constructor
    · intro given
      cases given
    · rintro ⟨_, requests⟩
      exact absurd (List.mem_append_left inputs empty) requests.nonempty
  · have given : progress.give flag =
        if flag ∈ settled.flags then .error (.mistake (.repeatedFlag flag))
        else .ok { settled with flags := settled.flags ++ [flag] } := by
      rw [give_of_settle settles]
      cases flag with
      | failFast | verbose => rfl
      | help | version => cases setting
    rw [given, ← same, ← takes]
    by_cases again : flag ∈ settled.flags
    · rw [if_pos again]
      constructor
      · intro refused
        cases refused
      · rintro ⟨_, requests⟩
        have apart := (List.nodup_append.mp requests.once).2.2
        exact absurd rfl (apart flag again flag List.mem_cons_self)
    · rw [if_neg again]
      have sound : Sound { settled with flags := settled.flags ++ [flag] } := by
        refine ⟨?_, settledSound.one, settledSound.settled⟩
        rw [List.nodup_append]
        refine ⟨settledSound.once, by simp, ?_⟩
        intro one member other last
        rw [List.mem_singleton.mp last]
        exact fun equal => again (equal ▸ member)
      have goesOn := goesOn sound
      rw [List.append_assoc] at goesOn
      exact goesOn

end Steps

variable {arguments : Arguments}

/-- Behind the dashes every word is positional. -/
theorem complete_nil_eq_ok_iff (sound : progress.Sound) (after : List String) :
    progress.complete [] after = .ok arguments ↔
      Requests progress.flags (progress.taken ++ after) arguments := by
  induction after generalizing progress with
  | nil =>
      rw [List.append_nil]
      exact finish_eq_ok_iff sound
  | cons word after ih =>
      rw [complete_nil_cons]
      have step : (progress.take word >>= (·.complete [] after)) = .ok arguments ↔
          True ∧ Requests (progress.flags ++ []) (progress.taken ++ word :: after) arguments := by
        apply take_step sound word
        intro later sound
        simpa using ih sound
      simpa using step

/-- From any point a reading succeeds exactly if all words in front of the dashes are words of the grammar and
    the flags and positional words, those read before and those to come, can be requested together. By
    induction on the words in front of the dashes. -/
theorem complete_eq_ok_iff (sound : progress.Sound) {before : List String} (dashes : "--" ∉ before)
    (after : List String) :
    progress.complete before after = .ok arguments ↔
      (∀ word ∈ before, (setting? word).isSome = true ∨ IsPositional word) ∧
        Requests (progress.flags ++ before.filterMap setting?) (progress.taken ++ positionals before after)
          arguments := by
  induction before generalizing progress with
  | nil =>
      rw [complete_nil_eq_ok_iff sound]
      simp [positionals]
  | cons word before ih =>
      obtain ⟨noDashes, dashes⟩ : "--" ≠ word ∧ "--" ∉ before := by simpa using dashes
      have goesOn : ∀ {later : Progress}, later.Sound → (later.complete before after = .ok arguments ↔ _) :=
        fun sound => ih sound dashes
      rw [complete_cons, List.forall_mem_cons]
      cases setting : setting? word with
      | some flag =>
          have positional := not_isPositional_of_setting? setting
          rw [act_of_setting? setting, List.filterMap_cons_some setting, positionals_cons_of_neg positional,
            give_step sound (isSetting_of_setting? setting) goesOn]
          simp
      | none =>
          rw [List.filterMap_cons_none setting]
          by_cases positional : IsPositional word
          · rw [act_of_isPositional positional, positionals_cons_of_pos positional,
              take_step sound word goesOn]
            simp [positional]
          · -- No such word is read, so nothing has to be said of what comes after it.
            constructor
            · intro completed
              obtain ⟨later, acted, _⟩ := bind_eq_ok completed
              rcases shape_of_act acted noDashes.symm with known | known
              · rw [setting] at known
                cases known
              · exact absurd known positional
            · rintro ⟨⟨known | known, _⟩, _⟩
              · cases known
              · exact absurd known positional

end Progress

/-!
### What is requested is counted

A setting is requested once exactly if its spellings occur once, all of them together.
-/

section Counting

variable {words before other after : List String} {arguments : Arguments}

/-- The fail-fast setting has a single spelling. -/
theorem count_failFast (before : List String) :
    (before.filterMap setting?).count .failFast = before.count "--fail-fast" := by
  rw [List.count_filterMap, List.count]
  exact List.countP_congr fun word _ => by simp [setting?_eq_some_iff]

/-- The verbose setting has two spellings, which count together. -/
theorem count_verbose (before : List String) :
    (before.filterMap setting?).count .verbose = before.count "--verbose" + before.count "-v" := by
  rw [List.count_filterMap]
  induction before with
  | nil => rfl
  | cons word before ih =>
      rw [List.countP_cons, List.count_cons, List.count_cons, ih]
      simp only [beq_iff_eq, setting?_eq_some_iff, reduceCtorEq, false_and, true_and, false_or]
      by_cases long : word = "--verbose"
      · subst long
        simp
        omega
      · by_cases short : word = "-v"
        · simp [short]
          omega
        · simp [long, short]

/-- The settings that are requested are those of which a spelling occurs. -/
theorem failFast_mem_iff : Flag.failFast ∈ before.filterMap setting? ↔ "--fail-fast" ∈ before := by
  simp [List.mem_filterMap, setting?_eq_some_iff]

theorem verbose_mem_iff :
    Flag.verbose ∈ before.filterMap setting? ↔ "--verbose" ∈ before ∨ "-v" ∈ before := by
  rw [← List.count_pos_iff, count_verbose, Nat.add_pos_iff_pos_or_pos, List.count_pos_iff, List.count_pos_iff]

/-- No setting is requested twice exactly if the spellings of each occur at most once together. -/
theorem nodup_filterMap_setting?_iff :
    (before.filterMap setting?).Nodup ↔
      before.count "--fail-fast" ≤ 1 ∧ before.count "--verbose" + before.count "-v" ≤ 1 := by
  rw [List.nodup_iff_count, ← count_failFast, ← count_verbose]
  constructor
  · intro once
    exact ⟨once .failFast, once .verbose⟩
  · rintro ⟨failFast, verbose⟩ flag
    by_cases given : flag ∈ before.filterMap setting?
    · obtain ⟨word, _, setting⟩ := List.mem_filterMap.mp given
      have isSetting := isSetting_of_setting? setting
      cases flag with
      | failFast => exact failFast
      | verbose => exact verbose
      | help => cases isSetting
      | version => cases isSetting
    · rw [List.count_eq_zero.mpr given]
      exact Nat.zero_le 1

/-- What a command line of the grammar gives can be requested, and it requests what it asks for. -/
theorem requests_iff :
    ((∀ word ∈ before, (setting? word).isSome = true ∨ IsPositional word) ∧
        Requests (before.filterMap setting?) (positionals before after) arguments) ↔
      Grammatical before after ∧ AskedBy before after arguments := by
  simp only [isSome_setting?_iff, or_assoc]
  constructor
  · rintro ⟨shapes, requests⟩
    obtain ⟨failFast, verbose⟩ := nodup_filterMap_setting?_iff.mp requests.once
    refine ⟨⟨shapes, failFast, verbose, requests.one, requests.nonempty⟩, ?_, ?_, requests.input⟩
    · rw [requests.failFast, List.contains_iff_mem, failFast_mem_iff]
    · rw [requests.verbose, List.contains_iff_mem, verbose_mem_iff]
  · rintro ⟨grammatical, asked⟩
    have once := nodup_filterMap_setting?_iff.mpr ⟨grammatical.failFast, grammatical.verbose⟩
    refine ⟨grammatical.shapes, once, grammatical.input, grammatical.nonempty, ?_, ?_, asked.input⟩
    · rw [Bool.eq_iff_iff, asked.failFast, List.contains_iff_mem, failFast_mem_iff]
    · rw [Bool.eq_iff_iff, asked.verbose, List.contains_iff_mem, verbose_mem_iff]

/-- There is one place at which a command line is divided. -/
theorem Divides.unique (divides : Divides words before after) :
    Arguments.beforeDashes words = before ∧ Arguments.afterDashes words = after := by
  have all : ∀ word ∈ before, decide (word ≠ "--") = true := by
    intro word member
    have other : word ≠ "--" := fun dashes => divides.first (dashes ▸ member)
    simpa using other
  rw [Arguments.beforeDashes, Arguments.afterDashes]
  rcases divides.whole with ⟨rfl, rfl⟩ | rfl
  · rw [← List.append_nil words, List.takeWhile_append_of_pos all, List.dropWhile_append_of_pos all]
    simp
  · rw [List.takeWhile_append_of_pos all, List.dropWhile_append_of_pos all]
    simp

/-- A command line is understood, and as these arguments, exactly if it is of the grammar and asks for them. -/
theorem parse_eq_ok_iff (divides : Divides words before after) :
    Arguments.parse words = .ok arguments ↔ Grammatical before after ∧ AskedBy before after arguments := by
  obtain ⟨rfl, rfl⟩ := divides.unique
  rw [← requests_iff]
  exact Progress.complete_eq_ok_iff Progress.sound_start divides.first _

/-- A grammatical command line has at most one positional word. -/
theorem Grammatical.positionals_eq (grammatical : Grammatical before after) :
    positionals before after = [] ∨ ∃ word, positionals before after = [word] := by
  rcases Nat.le_one_iff_eq_zero_or_eq_one.mp grammatical.input with zero | one
  · exact Or.inl (List.eq_nil_of_length_eq_zero zero)
  · exact Or.inr (List.length_eq_one_iff.mp one)

/-- Something is asked for by every command line of the grammar. -/
theorem Grammatical.exists_askedBy (grammatical : Grammatical before after) :
    ∃ arguments, AskedBy before after arguments := by
  refine ⟨⟨(positionals before after).head?, "--fail-fast" ∈ before, "--verbose" ∈ before ∨ "-v" ∈ before⟩,
    ?_, ?_, ?_⟩
  · simp
  · simp
  · rcases grammatical.positionals_eq with none | ⟨word, one⟩
    · rw [none]
      rfl
    · rw [one]
      rfl

/-!
### The order in front of the dashes
-/

/-- The words in front of the dashes may be given in any order, and the positional ones are the same. -/
theorem positionals_perm (rearranged : other.Perm before) (after : List String) :
    (positionals other after).Perm (positionals before after) :=
  (rearranged.filter _).append_right after

/-- Whether a command line is grammatical does not depend on the order of the words in front of the dashes. -/
theorem Grammatical.perm (grammatical : Grammatical before after) (rearranged : other.Perm before) :
    Grammatical other after := by
  have same := positionals_perm rearranged after
  constructor
  case shapes => exact fun word member => grammatical.shapes word (rearranged.mem_iff.mp member)
  case failFast =>
    rw [rearranged.count_eq]
    exact grammatical.failFast
  case verbose =>
    rw [rearranged.count_eq, rearranged.count_eq]
    exact grammatical.verbose
  case input =>
    rw [same.length_eq]
    exact grammatical.input
  case nonempty => exact fun empty => grammatical.nonempty (same.mem_iff.mp empty)

/-- The positional words are rearranged as well, but there is only one. -/
theorem AskedBy.perm (asked : AskedBy before after arguments) (grammatical : Grammatical before after)
    (rearranged : other.Perm before) : AskedBy other after arguments := by
  have same : positionals other after = positionals before after := by
    have perm := positionals_perm rearranged after
    rcases grammatical.positionals_eq with none | ⟨word, one⟩
    · rw [none] at perm ⊢
      exact perm.eq_nil
    · rw [one] at perm ⊢
      exact List.perm_singleton.mp perm
  constructor
  case failFast => rw [asked.failFast, rearranged.mem_iff]
  case verbose => rw [asked.verbose, rearranged.mem_iff, rearranged.mem_iff]
  case input => rw [asked.input, same]

/-- A command line is understood exactly if, in front of the first two dashes alone, it has nothing but settings
    and positional words, each setting once at most, whichever its spelling, and if there is at most one
    positional word, counting all that stand behind the dashes, and it is not empty. It then asks for just the
    settings and the word that occur. So a command line that is understood can be rearranged in front of the
    dashes, and it is understood as before. -/
theorem parse_follows_grammar (words : List String) :
    (∃ before after, Divides words before after) ∧
      ∀ before after, Divides words before after →
        ((∃ arguments, Arguments.parse words = .ok arguments) ↔ Grammatical before after) ∧
        ∀ arguments, Arguments.parse words = .ok arguments →
          AskedBy before after arguments ∧
          ∀ other rearranged, other.Perm before → Divides rearranged other after →
            Arguments.parse rearranged = .ok arguments := by
  refine ⟨⟨_, _, divides_beforeDashes words⟩, ?_⟩
  intro before after divides
  refine ⟨?_, ?_⟩
  · constructor
    · rintro ⟨arguments, understood⟩
      exact ((parse_eq_ok_iff divides).mp understood).1
    · intro grammatical
      obtain ⟨arguments, asked⟩ := grammatical.exists_askedBy
      exact ⟨arguments, (parse_eq_ok_iff divides).mpr ⟨grammatical, asked⟩⟩
  · intro arguments understood
    obtain ⟨grammatical, asked⟩ := (parse_eq_ok_iff divides).mp understood
    refine ⟨asked, ?_⟩
    intro other rearranged perm dividesToo
    exact (parse_eq_ok_iff dividesToo).mpr ⟨grammatical.perm perm, asked.perm grammatical perm⟩

/-- Behind the dashes a flag is an input, also where the flag itself is given in front of them. -/
example : Arguments.parse ["-v", "--", "-v"] = .ok ⟨some "-v", false, true⟩ := rfl

end Counting

end MaximalMunch.CommandLine
