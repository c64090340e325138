/-
Module: MaximalMunch.Kind
Layer: Data
Purpose: The kinds of tokens. Four kinds are reserved words and nineteen are symbols; each of these has
  exactly one spelling, and the two spelling functions below are the only place where it is written
  down. Looking a spelling up is searching for the kind that has it, so that reading and writing cannot
  disagree: `ofReservedWord?_eq_some_iff` and `ofSymbol?_eq_some_iff` say so. The test for reserved words lists
  them once more, without their spellings, and agrees with it (`isKeyword_iff`). Identifiers, integers and
  string literals have many spellings, and the end of input has none. Every kind also has a name in
  upper case, which is how output refers to it. Kinds are declared in the alphabetical order of their
  names, and that order is the order of kinds.
Imports: none
Trusted boundary: human-reviewed spec
Main exports: Kind, Kind.all, name, ofName?, reservedWord?, ofReservedWord?, symbol?, ofSymbol?,
  isKeyword, rank, compare, sort
Open obligations: none
-/

namespace MaximalMunch

/-- What a token is. -/
inductive Kind where
  | comma
  | divide
  | endOfInput
  | equalEqual
  | equal
  | falseWord
  | greaterEqual
  | greater
  | identifier
  | integer
  | leftBracket
  | leftCurly
  | lessEqual
  | leftParen
  | less
  | minus
  | moduleWord
  | notEqual
  | plus
  | rightBracket
  | rightCurly
  | returnWord
  | rightParen
  | semicolon
  | string
  | times
  | whileWord
deriving DecidableEq, Repr, Inhabited

namespace Kind

/-- Every kind, in order. -/
def all : List Kind :=
  [.comma, .divide, .endOfInput, .equalEqual, .equal, .falseWord, .greaterEqual, .greater,
   .identifier, .integer, .leftBracket, .leftCurly, .lessEqual, .leftParen, .less, .minus,
   .moduleWord, .notEqual, .plus, .rightBracket, .rightCurly, .returnWord, .rightParen, .semicolon,
   .string, .times, .whileWord]

/-- The name of a kind in output. -/
def name : Kind → String
  | comma => "COMMA"
  | divide => "DIV"
  | endOfInput => "EOF"
  | equalEqual => "EQEQ"
  | equal => "EQL"
  | falseWord => "FALSE"
  | greaterEqual => "GEQ"
  | greater => "GT"
  | identifier => "ID"
  | integer => "INT_LITERAL"
  | leftBracket => "LBRACKET"
  | leftCurly => "LCURLY"
  | lessEqual => "LEQ"
  | leftParen => "LPAREN"
  | less => "LT"
  | minus => "MINUS"
  | moduleWord => "MODULE"
  | notEqual => "NEQ"
  | plus => "PLUS"
  | rightBracket => "RBRACKET"
  | rightCurly => "RCURLY"
  | returnWord => "RETURN"
  | rightParen => "RPAREN"
  | semicolon => "SEMICOLON"
  | string => "STRING_LITERAL"
  | times => "TIMES"
  | whileWord => "WHILE"

/-- The kind of a given name. -/
def ofName? (name : String) : Option Kind := all.find? fun kind => kind.name = name

/-- The spelling of a reserved word. -/
def reservedWord? : Kind → Option String
  | falseWord => some "false"
  | moduleWord => some "module"
  | returnWord => some "return"
  | whileWord => some "while"
  | _ => none

/-- The reserved word that a whole word spells, case included. -/
def ofReservedWord? (word : String) : Option Kind :=
  all.find? fun kind => kind.reservedWord? = some word

/-- Whether a kind is a reserved word. -/
def isKeyword : Kind → Bool
  | falseWord => true
  | moduleWord => true
  | returnWord => true
  | whileWord => true
  | _ => false

/-- The spelling of an operator or of a punctuation mark. -/
def symbol? : Kind → Option (List Char)
  | comma => some [',']
  | leftBracket => some ['[']
  | rightBracket => some [']']
  | leftCurly => some ['\x7b']
  | rightCurly => some ['\x7d']
  | leftParen => some ['(']
  | rightParen => some [')']
  | semicolon => some [';']
  | plus => some ['+']
  | minus => some ['-']
  | times => some ['*']
  | divide => some ['/']
  | greater => some ['>']
  | greaterEqual => some ['>', '=']
  | less => some ['<']
  | lessEqual => some ['<', '=']
  | equal => some ['=']
  | equalEqual => some ['=', '=']
  | notEqual => some ['!', '=']
  | _ => none

/-- The operator or punctuation mark that is spelled so. -/
def ofSymbol? (spelling : List Char) : Option Kind :=
  all.find? fun kind => kind.symbol? = some spelling

/-- The place of a kind in the order of kinds. -/
def rank (kind : Kind) : Nat := kind.ctorIdx

/-- Kinds are ordered as they are declared. -/
def compare (first second : Kind) : Ordering := Ord.compare first.rank second.rank

instance : Ord Kind := ⟨compare⟩

/-- The same kinds, in increasing order. -/
def sort (kinds : List Kind) : List Kind :=
  kinds.mergeSort fun first second => first.rank ≤ second.rank

/-!
### The tables agree with themselves

There are finitely many kinds, so each of these facts is a check of all of them: no kind is missing
from `all`, no two kinds share a name or a spelling, and the order is that of the names.
-/

theorem mem_all (kind : Kind) : kind ∈ all := by cases kind <;> decide

theorem ofName?_name (kind : Kind) : ofName? kind.name = some kind := by cases kind <;> decide

/-- No two kinds share a name. -/
theorem name_injective {first second : Kind} (h : first.name = second.name) : first = second := by
  simpa [ofName?_name] using congrArg ofName? h

theorem getElem?_rank (kind : Kind) : all[kind.rank]? = some kind := by cases kind <;> rfl

/-- No two kinds share a place in the order. -/
theorem rank_injective {first second : Kind} (h : first.rank = second.rank) : first = second := by
  simpa [getElem?_rank] using congrArg (all[·]?) h

/-- The order of kinds is the alphabetical order of their names. -/
theorem rank_lt_iff_name_lt (first second : Kind) :
    first.rank < second.rank ↔ first.name < second.name := by
  cases first <;> cases second <;> decide

/-- Looking up a reserved word finds the kind that spells it, and no other. -/
theorem ofReservedWord?_eq_some_iff {word : String} {kind : Kind} :
    ofReservedWord? word = some kind ↔ kind.reservedWord? = some word := by
  constructor
  · intro h
    simpa using List.find?_some h
  · intro h
    cases kind <;> cases h <;> decide

/-- Looking up a symbol finds the kind that spells it, and no other. -/
theorem ofSymbol?_eq_some_iff {spelling : List Char} {kind : Kind} :
    ofSymbol? spelling = some kind ↔ kind.symbol? = some spelling := by
  constructor
  · intro h
    simpa using List.find?_some h
  · intro h
    cases kind <;> cases h <;> decide

/-- The second character of a symbol, if it has one, is an equals sign. -/
theorem symbol?_eq_some_cons_cons {kind : Kind} {first second : Char} {more : List Char}
    (spelled : kind.symbol? = some (first :: second :: more)) : second :: more = ['='] := by
  cases kind <;> cases spelled <;> rfl

/-- Of the symbols of two characters there are only those that end in an equals sign. -/
theorem ofSymbol?_pair_eq_none {first second : Char} (other : second ≠ '=') :
    ofSymbol? [first, second] = none := by
  cases found : ofSymbol? [first, second] with
  | none => rfl
  | some kind =>
      have tail := symbol?_eq_some_cons_cons (ofSymbol?_eq_some_iff.mp found)
      exact absurd (List.cons.inj tail).1 other

/-- A keyword is a kind that some word spells. The two tables say the same. -/
theorem isKeyword_iff {kind : Kind} :
    kind.isKeyword = true ↔ ∃ word, kind.reservedWord? = some word := by
  cases kind <;> simp [isKeyword, reservedWord?]

end Kind

end MaximalMunch
