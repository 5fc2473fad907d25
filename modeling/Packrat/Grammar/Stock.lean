import Packrat.Grammar.Basic
import Packrat.Grammar.Leaf

/-! The stock of tests, filters and transformations that grammars are written with. Integers are
words of 64 bits, and arithmetic must stay within them. -/

namespace Packrat.Grammar

/-- The integer itself, if it is a signed word of 64 bits. -/
def checkedWord (n : Int) : Except Violation Int :=
  if -Int.pow 2 63 ≤ n ∧ n < Int.pow 2 63 then .ok n else .error .overflow

/-- A test of an item by its number: its code point or itself. -/
inductive ItemTest where
  | any
  | none
  | even
  | among (numbers : List Int)
  | equal (number : Int)
  | unequal (number : Int)
  | below (number : Int)
  | above (number : Int)
  deriving DecidableEq, Repr

def ItemTest.accepts : ItemTest → Int → Bool
  | any, _ => true
  | none, _ => false
  | even, n => n % 2 == 0
  | among numbers, n => numbers.contains n
  | equal number, n => n == number
  | unequal number, n => n != number
  | below number, n => n < number
  | above number, n => n > number

def codePoint (c : Char) : Int := c.toNat

inductive CharFilter where
  | lower
  | upper
  | fold
  | substitute (old new : Char)
  deriving DecidableEq, Repr

/-- What the filter makes of a character. Lower and upper case are those of ASCII. -/
def CharFilter.image : CharFilter → Char → Except Violation Char
  | lower, c => .ok c.toLower
  | upper, c => .ok c.toUpper
  | fold, c => .ok (Text.foldCase c)
  | substitute old new, c => .ok (if c = old then new else c)

/-- All filters of the stock are functions of one type. -/
def CharFilter.apply (filter : CharFilter) : Filter Char := ⟨"stock", filter.image⟩

inductive IntFilter where
  | negate
  | absolute
  | add (n : Int)
  deriving DecidableEq, Repr

def IntFilter.image : IntFilter → Int → Except Violation Int
  | negate, n => checkedWord (-n)
  | absolute, n => checkedWord n.natAbs
  | add k, n => checkedWord (n + k)

def IntFilter.apply (filter : IntFilter) : Filter Int := ⟨"stock", filter.image⟩

inductive ValueMap where
  | join
  | size
  | upper
  | tag (label : Value)
  | replace (value : Value)
  | item (index : Nat)

def ValueMap.apply : ValueMap → Value → Value
  | join, value => .text value.joined
  | size, value => .int value.size
  | upper, value => .text value.joined.toUpper
  | tag label, value => .list [label, value]
  | replace new, _ => new
  | item index, value => value.item index

inductive FailureMap where
  | wrap (tag : String)
  | replace (tag : String)
  deriving DecidableEq, Repr

def FailureMap.apply : FailureMap → Failure → Failure
  | wrap tag, failure => .wrapped tag 0 failure
  | replace tag, _ => .custom tag

inductive PayloadStep where
  | add (n : Int)
  | multiply (n : Int)
  deriving DecidableEq, Repr

def PayloadStep.image : PayloadStep → Int → Int
  | add n, value => value + n
  | multiply n, value => value * n

/-- The payload after the change; the table stays in reach as it was. -/
def PayloadStep.apply (step : PayloadStep) (data : Payload) : Except Violation Payload :=
  (checkedWord (step.image data.value)).map fun value => { data with value := value }

/-- Literal keywords with the grammars they select. All failures are those of parsers of text. -/
def keywords {κ ρ : Type} (entries : List (String × Grammar Char TextLeaf κ ρ)) :
    Grammar Char TextLeaf κ ρ :=
  dispatchOf <| entries.map fun (key, grammar) =>
    (.string key, .mapError (fun failure => .text failure.toTextError) grammar)

end Packrat.Grammar
