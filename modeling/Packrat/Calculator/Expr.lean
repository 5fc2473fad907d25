import Packrat.Decimal.Real

/-! Arithmetic expressions and what they are worth. -/

namespace Packrat.Calculator

inductive BinaryOp where
  | add
  | subtract
  | multiply
  | divide
  | power
  deriving DecidableEq, Repr

namespace BinaryOp

def symbol : BinaryOp → String
  | add => "+"
  | subtract => "-"
  | multiply => "*"
  | divide => "/"
  | power => "^"

def apply : BinaryOp → Float → Float → Float
  | add, x, y => x + y
  | subtract, x, y => x - y
  | multiply, x, y => x * y
  | divide, x, y => x / y
  | power, x, y => x ^ y

end BinaryOp

/-- An expression. Every node has the byte offset of the token it comes from: the number, the
operator, the minus or the opening parenthesis. -/
inductive Expr where
  | number (value : Float) (position : Nat)
  | binary (op : BinaryOp) (left right : Expr) (position : Nat)
  | negation (operand : Expr) (position : Nat)
  | group (inner : Expr) (position : Nat)
  deriving Repr

namespace Expr

/-- The offset of the token the expression comes from. -/
def position : Expr → Nat
  | number _ position => position
  | binary _ _ _ position => position
  | negation _ position => position
  | group _ position => position

def evaluate : Expr → Float
  | number value _ => value
  | binary op left right _ => op.apply left.evaluate right.evaluate
  | negation operand _ => -operand.evaluate
  | group inner _ => inner.evaluate

/-- Prefix notation: `3+4*5` is shown as `(+ 3 (* 4 5))`. Groups are not shown. -/
def display : Expr → String
  | number value _ => Decimal.render value
  | binary op left right _ =>
    "(" ++ op.symbol ++ " " ++ left.display ++ " " ++ right.display ++ ")"
  | negation operand _ => "(- " ++ operand.display ++ ")"
  | group inner _ => inner.display

/-- The expression as an indented tree, one node a line. -/
def outline (indent : Nat) : Expr → List String
  | number value _ => [margin indent ++ "Number(" ++ Decimal.render value ++ ")"]
  | binary op left right _ =>
    (margin indent ++ "Binary(" ++ op.symbol ++ ")") ::
      (left.outline (indent + 1) ++ right.outline (indent + 1))
  | negation operand _ => (margin indent ++ "Unary(-)") :: operand.outline (indent + 1)
  | group inner _ => (margin indent ++ "Group") :: inner.outline (indent + 1)
where
  /-- Two spaces for every level. -/
  margin (indent : Nat) : String := String.ofList (List.replicate (2 * indent) ' ')

end Expr

/-- Why a text is not an expression, and where. -/
inductive SyntaxError where
  | missingOperand (offset : Nat)
  | unclosedGroup (offset : Nat)
  | unexpectedInput (offset : Nat)
  deriving DecidableEq, Repr

namespace SyntaxError

def offset : SyntaxError → Nat
  | missingOperand offset => offset
  | unclosedGroup offset => offset
  | unexpectedInput offset => offset

def message : SyntaxError → String
  | missingOperand offset => "missing operand at offset " ++ toString offset
  | unclosedGroup offset => "expected ')' at offset " ++ toString offset
  | unexpectedInput offset => "unexpected input at offset " ++ toString offset

end SyntaxError

end Packrat.Calculator
