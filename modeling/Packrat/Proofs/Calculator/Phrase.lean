import Packrat.Calculator.Expr
import Packrat.Decimal.Real
import Packrat.Text.Character

/-! The language of arithmetic expressions, apart from any way of parsing it: which texts are which
phrases, and the tree of each. Offsets count bytes. -/

namespace Packrat.Calculator

def bytes (text : List Char) : Nat := Metric.utf8.span text

@[simp] theorem bytes_nil : bytes [] = 0 := rfl

@[simp] theorem bytes_cons (c : Char) (text : List Char) :
    bytes (c :: text) = c.utf8Size + bytes text := rfl

@[simp] theorem bytes_append (text more : List Char) :
    bytes (text ++ more) = bytes text + bytes more :=
  Metric.span_append ..

def Blank (text : List Char) : Prop := ∀ c ∈ text, Text.isBlank c

def Digits (text : List Char) : Prop := text ≠ [] ∧ ∀ c ∈ text, Text.isDigit c

/-- The spelling of a number: digits, or digits on both sides of a point. -/
inductive Numeral : List Char → Prop where
  | whole (digits : Digits text) : Numeral text
  | fraction (whole : Digits text) (fraction : Digits more) : Numeral (text ++ '.' :: more)

def BinaryOp.sign : BinaryOp → Char
  | add => '+'
  | subtract => '-'
  | multiply => '*'
  | divide => '/'
  | power => '^'

@[simp] theorem BinaryOp.utf8Size_sign (op : BinaryOp) : op.sign.utf8Size = 1 := by
  cases op <;> rfl

theorem BinaryOp.sign_inj {op other : BinaryOp} (same : op.sign = other.sign) : op = other := by
  cases op <;> cases other <;> first | rfl | cases same

/-- The operators that join to the left, in two levels. -/
inductive Level where
  | sum
  | product

def Level.operators : Level → List BinaryOp
  | sum => [.add, .subtract]
  | product => [.multiply, .divide]

theorem Level.operators_ne_nil (level : Level) : level.operators ≠ [] := by
  cases level <;> simp [operators]

inductive Phrase where
  /-- Operands with operators of one level between them. -/
  | chain (level : Level)
  /-- What follows the first operands of a chain, which are joined already. -/
  | tail (level : Level) (left : Expr)
  | power
  | unary
  | atom

/-- Sums and differences of terms. -/
abbrev Phrase.expression : Phrase := .chain .sum

/-- Products and quotients of powers. -/
abbrev Phrase.term : Phrase := .chain .product

def Level.operand : Level → Phrase
  | sum => .term
  | product => .power

/-- The text is a phrase of this kind with this tree, if it stands at the offset. -/
inductive Derives : Phrase → Nat → List Char → Expr → Prop where
  | chain (first : Derives level.operand offset text left)
      (rest : Derives (.tail level left) (offset + bytes text) more expr) :
      Derives (.chain level) offset (text ++ more) expr
  | tailEnd : Derives (.tail level left) offset [] left
  | tailStep (member : op ∈ level.operators) (blank : Blank blanks)
      (operand : Derives level.operand (offset + 1 + bytes blanks) text right)
      (rest : Derives (.tail level (.binary op left right offset))
        (offset + 1 + bytes blanks + bytes text) more expr) :
      Derives (.tail level left) offset (op.sign :: (blanks ++ (text ++ more))) expr
  | base (operand : Derives .unary offset text expr) : Derives .power offset text expr
  | raised (base : Derives .unary offset text left) (blank : Blank blanks)
      (exponent : Derives .power (offset + bytes text + 1 + bytes blanks) more right) :
      Derives .power offset (text ++ '^' :: (blanks ++ more))
        (.binary .power left right (offset + bytes text))
  | negation (blank : Blank blanks)
      (operand : Derives .unary (offset + 1 + bytes blanks) text expr) :
      Derives .unary offset ('-' :: (blanks ++ text)) (.negation expr offset)
  | operand (atom : Derives .atom offset text expr) : Derives .unary offset text expr
  | number (numeral : Numeral text) (blank : Blank blanks) :
      Derives .atom offset (text ++ blanks) (.number (Decimal.read (String.ofList text)) offset)
  | group (blank : Blank blanks)
      (inner : Derives .expression (offset + 1 + bytes blanks) text expr) (after : Blank more) :
      Derives .atom offset ('(' :: (blanks ++ (text ++ ')' :: more))) (.group expr offset)

/-- The source is an expression with this tree, after any number of blanks. -/
def Sentence (source : String) (expr : Expr) : Prop :=
  ∃ blanks text, Blank blanks ∧ source.toList = blanks ++ text ∧
    Derives .expression (bytes blanks) text expr

end Packrat.Calculator
