/-
Module: MaximalMunch.Text.Similarity
Layer: Text
Purpose: How alike two words are, as a number from zero to one: the Jaro similarity. Two equal characters
  match if they stand no further apart than half the longer word, less one; each character of either word
  is matched at most once, and a character of the first word takes the first free partner. The similarity
  is the mean of three shares: matches in the first word, matches in the second, and matches that stand in
  the same order in both. Of the matches that do not, every two count as one transposition.
Imports: none
Trusted boundary: human-reviewed spec
Main exports: partners, jaro
Open obligations: none
-/

namespace MaximalMunch.Text

/-- How far apart two characters may stand and still match, in words of the given lengths. -/
def matchWindow (first second : Nat) : Nat := max first second / 2 - 1

/-- The least place of `second`, from `start` on and below `stop`, that holds `c` and is not taken. -/
def partner? (second : List Char) (taken : List Nat) (c : Char) (start stop : Nat) : Option Nat :=
  (List.range stop).find? fun place =>
    start ≤ place && second[place]? = some c && !taken.contains place

/-- The matched places of the second word, in the order of their partners in the first word. -/
def partners (first second : List Char) : List Nat :=
  let window := matchWindow first.length second.length
  first.zipIdx.foldl (fun taken (c, place) =>
    match partner? second taken c (place - window) (min second.length (place + window + 1)) with
    | some found => taken ++ [found]
    | none => taken) []

/-- How many matches stand elsewhere than the matched characters of the second word in their order. -/
def misplaced (second : List Char) (matched : List Nat) : Nat :=
  let inOrder := (List.range second.length).filter matched.contains
  (matched.zip inOrder).countP fun (here, there) => second[here]? ≠ second[there]?

/-- The Jaro similarity of two words. -/
def jaro (first second : List Char) : Float :=
  if first.isEmpty && second.isEmpty then 1.0
  else
    let matched := partners first second
    let count := matched.length
    if count = 0 then 0.0
    else
      let ordered := count - misplaced second matched / 2
      (count.toFloat / first.length.toFloat + count.toFloat / second.length.toFloat +
        ordered.toFloat / count.toFloat) / 3.0

example : partners "fail".toList "fail-fast".toList = [0, 1, 2, 3] := by decide

example : misplaced "martha".toList (partners "marhta".toList "martha".toList) = 2 := by decide

end MaximalMunch.Text
