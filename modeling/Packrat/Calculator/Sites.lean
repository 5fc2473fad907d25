import Std.Data.TreeMap

/-! Where the rules of the calculator refer back to earlier ones. Each reference is a deferred parser,
and the one around it tells two references of the same kind apart. Building a deferred parser gives it
a number, counted from one in the order of building; zero is the grammar itself. -/

namespace Packrat.Calculator

/-- The references of a grammar's rules. -/
inductive Turn where
  /-- From a parenthesis to an expression. -/
  | group
  /-- From a minus to the operand behind it. -/
  | negation
  /-- From a `^` to the exponent. -/
  | exponent
  deriving DecidableEq, Repr

/-- Numbers for the turns, all below three. -/
def Turn.index : Turn → Nat
  | group => 0
  | negation => 1
  | exponent => 2

/-- The deferred parsers built so far. -/
structure Sites where
  numbers : Std.TreeMap Nat Nat

namespace Sites

def empty : Sites := ⟨∅⟩

def entry (site : Nat) (turn : Turn) : Nat := 3 * site + turn.index

/-- The number of the deferred parser behind a turn, once it is built. -/
def find? (sites : Sites) (site : Nat) (turn : Turn) : Option Nat :=
  sites.numbers[entry site turn]?

def build (sites : Sites) (site : Nat) (turn : Turn) : Nat × Sites :=
  let number := sites.numbers.size + 1
  (number, ⟨sites.numbers.insert (entry site turn) number⟩)

@[simp] theorem find?_empty (site : Nat) (turn : Turn) : empty.find? site turn = none := by
  simp [find?, empty]

end Sites

end Packrat.Calculator
