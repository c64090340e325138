/-
Module: MaximalMunch.Log.Filter
Layer: Logging
Purpose: Which log records are written. A filter is a list of directives, and for each record the most
  specific directive that covers it decides: the longer target wins, any target wins over none, a detail
  that is asked for wins over none, and of two equally specific directives the later one counts. A record
  that no directive covers is not written. Filters have a written form, a list of directives with commas
  between them. A list with a directive that cannot be read is refused as a whole.
Imports: MaximalMunch.Log.Directive, MaximalMunch.Text.Pieces
Trusted boundary: human-reviewed spec
Main exports: Filter, Filter.ofText?, Filter.admits, Filter.ofSetting?
Open obligations: none
-/
import MaximalMunch.Log.Directive
import MaximalMunch.Text.Pieces

namespace MaximalMunch.Log

/-- The directives in force, in the order in which they were given. -/
structure Filter where
  directives : List Directive
deriving DecidableEq, Repr, Inhabited

namespace Filter

/-- The filter with one threshold for every record. -/
def uniform (threshold : Threshold) : Filter := ⟨[⟨none, .always, threshold⟩]⟩

/-- Of two directives the more specific one, and of equally specific ones the second. -/
def prefer (best : Option Directive) (next : Directive) : Option Directive :=
  match best with
  | none => some next
  | some held => if held.atMost next then some next else some held

/-- The directive that decides about a record. -/
def deciding? (filter : Filter) (heading : Heading) : Option Directive :=
  (filter.directives.filter (·.covers heading)).foldl prefer none

/-- Whether a record with this heading is written. -/
def admits (filter : Filter) (heading : Heading) : Bool :=
  (filter.deciding? heading).any (·.threshold.admits heading.level)

/-- Read a list of directives. Empty items are passed over; if there are no others, only errors pass. -/
def ofText? (text : String) : Option Filter :=
  match (Text.pieces ',' text.toList).filter (!·.isEmpty) with
  | [] => some (uniform (.upTo .error))
  | items => (items.mapM Directive.ofText?).map fun directives => ⟨directives⟩

/-- The filter that a setting spells, if there is a setting and it can be read. -/
def ofSetting? (setting : Option String) : Option (Heading → Bool) := (setting.bind ofText?).map admits

example : (ofSetting? (some "warn,tokscan::lexer=debug")).map (· ⟨"tokscan::lexer", .debug, []⟩) =
    some true := by decide

example : (ofSetting? (some "tokscan=loud")).isNone = true := by decide

end Filter

end MaximalMunch.Log
