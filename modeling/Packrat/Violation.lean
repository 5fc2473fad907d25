import Packrat.Memo.Key

/-! Broken contracts. They are mistakes in a grammar or in a caller, not in the text, so no parser
recovers from one. -/

namespace Packrat

inductive Violation where
  /-- A sequence of no parsers. -/
  | emptySequence
  /-- A choice without alternatives. -/
  | emptyChoice
  /-- A predictive choice without alternatives. -/
  | emptyPrediction
  /-- A literal without characters. -/
  | emptyLiteral
  /-- A set without characters to choose from. -/
  | emptyCharacterSet
  /-- A cached success is final. -/
  | finalSuccess (key : Memo.Key)
  /-- A cached outcome was looked up at another type. -/
  | outcomeType (key : Memo.Key) (position : Nat)
  /-- A slice that ends before it starts. -/
  | reversedSlice
  /-- A slice that ends after its buffer. -/
  | sliceBeyondBuffer
  /-- A slice that cuts through a character. -/
  | brokenCharacter
  /-- A number outside its range. -/
  | overflow
  /-- A reference to a parser that nobody defined. -/
  | undefinedParser
  deriving DecidableEq, Repr

/-- The wording of a violation, where it has one. -/
def Violation.message? : Violation → Option String
  | .emptySequence => some "sequence requires at least one parser"
  | .emptyChoice => some "ordered_choice requires at least one alternative"
  | .emptyPrediction => some "predictive_choice requires at least one alternative"
  | .emptyLiteral => some "string literal must not be empty"
  | .emptyCharacterSet => some "one_of requires at least one character"
  | .finalSuccess key =>
    some ("memo table: successful entry for " ++ key.label ++ " cannot be replaced")
  | .outcomeType key position =>
    some ("memo table: entry for " ++ key.label ++ " at " ++ toString position ++
      " has a different type")
  | .reversedSlice => some "assertion failed: start <= end"
  | .sliceBeyondBuffer => some "assertion failed: end <= buffer.len()"
  | .brokenCharacter => none
  | .overflow => none
  | .undefinedParser => none

/-- Positions, lines and columns are counted below this number. -/
def positionBound : Nat := Nat.pow 2 64

/-- The number itself, if it can be a position. -/
def checkedPosition (n : Nat) : Except Violation Nat :=
  if n < positionBound then .ok n else .error .overflow

end Packrat
