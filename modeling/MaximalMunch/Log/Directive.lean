/-
Module: MaximalMunch.Log.Directive
Layer: Logging
Purpose: The items of a log setting. A directive sets a threshold for some records: for those whose target
  begins with a given text, and, if it has a condition, only for those that have a given detail, or that
  are made within a span of work. The program marks no spans, so the last sort of directive is for none of
  its records; a test of a value counts among them, because only a span keeps values. In writing, the
  target stands first, the condition in brackets after it, and the threshold after an equals sign; each of
  the three may be missing. A word alone is a threshold if it can be read as one, and else a target that
  is let through entirely. White space in front of an item is taken for a part of its name, which no record
  has, and an item that has it cannot have a threshold.
Imports: MaximalMunch.Log.Heading, MaximalMunch.Text.Alphanumeric, MaximalMunch.Text.Pattern,
  MaximalMunch.Text.Space
Trusted boundary: human-reviewed spec
Main exports: Condition, Directive, Directive.covers, Directive.ofText?
Open obligations: none
-/
import MaximalMunch.Log.Heading
import MaximalMunch.Text.Alphanumeric
import MaximalMunch.Text.Pattern
import MaximalMunch.Text.Space

namespace MaximalMunch.Log

/-- What else a directive asks of a record. -/
inductive Condition where
  /-- Nothing. -/
  | always
  /-- That it has a detail of this name. -/
  | detail (name : String)
  /-- That it is made within a span of work. -/
  | span
deriving DecidableEq, Repr, Inhabited

namespace Condition

/-- Whether a record meets the condition. -/
def holds (heading : Heading) : Condition → Bool
  | always => true
  | detail name => heading.details.contains name
  | span => false

/-- The name of the detail that is asked for; without one, the empty text, which is the least. -/
def detailName : Condition → String
  | detail name => name
  | _ => ""

end Condition

/-- A threshold for some records. -/
structure Directive where
  /-- What the target begins with; without it, any target will do. -/
  target? : Option String
  condition : Condition
  threshold : Threshold
deriving DecidableEq, Repr, Inhabited

/-- The parts of a directive as they are written. -/
structure Wording where
  /-- What stands in front of brackets and threshold. -/
  name : List Char
  condition? : Option Condition
  /-- What stands behind the equals sign. -/
  threshold? : Option (List Char)
deriving DecidableEq, Repr, Inhabited

namespace Wording

/-- Whether a name may begin with `c`. -/
def beginsName (c : Char) : Bool := c = '_' || c = ':' || c = '-' || Text.isAlphanumeric c

/-- Whether a text is digits with at most one point among or beside them, and at least one digit. -/
def isDecimal (text : List Char) : Bool :=
  text.any Char.isDigit && text.all (fun c => c.isDigit || c = '.') && text.count '.' ≤ 1

/-- Whether a text is a number without a sign: a decimal, perhaps with an exponent of ten, or the word for
    what is no finite number. -/
def isNumber (text : List Char) : Bool :=
  let mantissa := text.takeWhile fun c => c ≠ 'e' && c ≠ 'E'
  match text.dropWhile fun c => c ≠ 'e' && c ≠ 'E' with
  | [] =>
      isDecimal mantissa ||
        ["inf", "infinity", "nan"].any fun word => text.map Char.toLower = word.toList
  | _ :: exponent =>
      let digits := if exponent.head?.any (fun c => c = '+' || c = '-') then exponent.tail else exponent
      isDecimal mantissa && !digits.isEmpty && digits.all Char.isDigit

/-- Whether a text can be tested for as a value: it is a pattern, or a number with a plus sign, which
    would be none. -/
def isValue (text : List Char) : Bool :=
  Text.isPattern text || text.head? = some '+' && isNumber text.tail

/-- The condition in braces: the name of a detail, which may be followed by an equals sign and a value. -/
def conditionOfBraces? (text : List Char) : Option Condition :=
  if text.isEmpty then none
  else
    let name := text.takeWhile (· ≠ '=')
    match text.dropWhile (· ≠ '=') with
    | [] => some (.detail (String.ofList name))
    | _ :: value => if isValue (value.takeWhile (· ≠ '=')) then some .span else none

/-- The condition at the front of a text behind an opening bracket, and what follows the closing one. A
    span is named first, and a detail stands in braces after it. -/
def conditionOfBrackets? (text : List Char) : Option (Condition × List Char) :=
  let span := text.takeWhile fun c => c ≠ ']' && c ≠ '\x7b'
  match text.dropWhile fun c => c ≠ ']' && c ≠ '\x7b' with
  | [] => none
  | ']' :: rest => some (.span, rest)
  | _ :: rest =>
      match rest.dropWhile (· ≠ '\x7d') with
      | _ :: ']' :: beyond =>
          (conditionOfBraces? (rest.takeWhile (· ≠ '\x7d'))).map fun condition =>
            (if span.isEmpty then condition else .span, beyond)
      | _ => none

/-- The parts of a directive that begins with no white space. -/
def ofTrimmed? (text : List Char) : Option Wording :=
  if text.head?.any fun c => beginsName c || c = '[' then
    let name := text.takeWhile fun c => c ≠ '=' && c ≠ '['
    match text.dropWhile fun c => c ≠ '=' && c ≠ '[' with
    | [] => some ⟨name, none, none⟩
    | '=' :: threshold => some ⟨name, none, some threshold⟩
    | _ :: rest =>
        match conditionOfBrackets? rest with
        | none => none
        | some (condition, '=' :: threshold) => some ⟨name, some condition, some threshold⟩
        | some (condition, beyond) =>
            if beyond.all Text.isSpace then some ⟨name, some condition, none⟩ else none
  else none

/-- The parts of a directive. -/
def ofText? (text : List Char) : Option Wording :=
  match text.takeWhile Text.isSpace with
  | [] => ofTrimmed? text
  | space =>
      match ofTrimmed? (text.dropWhile Text.isSpace) with
      | some ⟨name, condition?, none⟩ => some ⟨space ++ name, condition?, none⟩
      | _ => none

end Wording

namespace Directive

/-- Whether the directive has a say about a record. -/
def covers (directive : Directive) (heading : Heading) : Bool :=
  (directive.target?.all fun start => start.toList.isPrefixOf heading.target.toList) &&
    directive.condition.holds heading

/-- How much of a target the directive names. Any text is more than none. -/
def reach (directive : Directive) : Nat :=
  match directive.target? with
  | none => 0
  | some start => start.length + 1

/-- Whether the first directive is at most as specific as the second: it names less of the target, or the
    same, and then it asks for no detail or for one whose name comes first or is the same. -/
def atMost (first second : Directive) : Bool :=
  first.reach < second.reach ||
    first.reach = second.reach && first.condition.detailName ≤ second.condition.detailName

/-- The threshold after the equals sign. Nothing there means that everything is let through. -/
def thresholdOfText? (text : List Char) : Option Threshold :=
  if text.isEmpty then some (.upTo .trace) else Threshold.ofText? text

/-- The directive that is worded so. -/
def ofWording? (wording : Wording) : Option Directive :=
  let target? := if wording.name.isEmpty then none else some (String.ofList wording.name)
  match wording.condition?, wording.threshold? with
  | none, none =>
      match Threshold.ofText? wording.name with
      | some threshold => some ⟨none, .always, threshold⟩
      | none => some ⟨target?, .always, .upTo .trace⟩
  | condition?, threshold? =>
      (thresholdOfText? (threshold?.getD [])).map fun threshold =>
        ⟨target?, condition?.getD .always, threshold⟩

/-- Read one directive. -/
def ofText? (text : List Char) : Option Directive := (Wording.ofText? text).bind ofWording?

end Directive

end MaximalMunch.Log
