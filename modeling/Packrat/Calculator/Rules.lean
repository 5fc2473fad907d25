import Packrat.Calculator.Expr
import Packrat.Calculator.Sites
import Packrat.Parser.Memoized
import Packrat.Parser.Position
import Packrat.Text.Cursor
import Packrat.Text.Keyword
import Packrat.Text.Numeral

/-! The grammar of arithmetic expressions:

    expression := term   (('+' | '-') term)*
    term       := power  (('*' | '/') power)*
    power      := unary  ('^' power)?
    unary      := '-' unary | atom
    atom       := number | '(' expression ')'

Blanks may follow any token. The rules that refer back to an earlier one do so through deferred
parsers, which are built at their first run; every one of them is a site of its own. -/

namespace Packrat.Calculator

/-- A session remembers operands, and the deferred parsers already built. -/
abbrev Recall : Memory := ⟨SyntaxError, Expr, Sites⟩

/-- The payload says whether the table of operands is in reach. -/
abbrev Rule (α : Type) := Parser Char Bool Recall SyntaxError α

/-- The errors of text do not matter to the rules: each is replaced by one of their own. -/
abbrev Lexeme (α : Type) := Text.TextParser Bool Recall α

def skipBlanks : Rule Unit := Parser.map (fun _ => ()) (Parser.many Text.whitespace)

/-- The offset of the character `c`; `error` tells what its absence means. -/
def symbol (c : Char) (error : Nat → SyntaxError) : Rule Nat :=
  Parser.token (Text.char c) (fun _ start _ => start) fun _ start => error start

def operator (operators : List BinaryOp) : Rule (BinaryOp × Nat) :=
  Parser.skip
    (Parser.token
      (Text.stringChoice (operators.map fun op => (op.symbol, Parser.constant op)) : Lexeme BinaryOp)
      (fun op start _ => (op, start)) fun _ start => .unexpectedInput start)
    skipBlanks

/-- Operators with their right operands, joined to the left. -/
def joinLeft (first : Expr) (rest : List ((BinaryOp × Nat) × Expr)) : Expr :=
  rest.foldl (fun left ((op, position), right) => .binary op left right position) first

/-- Operands with operators between them, joined to the left. Behind an operator an operand is
required. -/
def chain (operators : List BinaryOp) (operand : Rule Expr) : Rule Expr :=
  Parser.pair operand
    (Parser.repeatWhile (Parser.peek (operator operators))
      (Parser.andThen (operator operators) operand))
    joinLeft

def literal : Rule Expr :=
  Parser.skip
    (Parser.token Text.number (fun text start _ => Expr.number (Decimal.read text) start)
      fun _ start => .missingOperand start)
    skipBlanks

/-- The deferred parser of a rule, behind a turn inside a site. Building it is worth a line in the
log. -/
def deferred (rule : Nat → Rule Expr) (site : Nat) (turn : Turn) : Rule Expr :=
  fun cursor session =>
    match session.extra.find? site turn with
    | some number => rule number cursor session
    | none =>
      let (number, sites) := session.extra.build site turn
      rule number cursor { session.note .deferredBuilt with extra := sites }

/-- The rules that others refer back to, at every site. -/
structure Rules where
  expression : Nat → Rule Expr
  unary : Nat → Rule Expr
  power : Nat → Rule Expr

namespace Rules

variable (memoized : Bool) (inner : Rules) (site : Nat)

def group : Rule Expr :=
  (symbol '(' .missingOperand).inspect fun position =>
    skipBlanks.inspect fun _ =>
      (deferred inner.expression site .group).inspect fun expr =>
        (symbol ')' .unclosedGroup).inspect fun _ =>
          skipBlanks.map fun _ => .group expr position

/-- A group or a number, as the next character tells. -/
def atom : Rule Expr :=
  Parser.predictiveChoice
    [((symbol '(' .missingOperand).peek.map fun _ => (), inner.group site),
      ((Parser.token Text.digit (fun c _ _ => c) fun _ start => .missingOperand start).peek.map
        fun _ => (), literal)]

def negation : Rule Expr :=
  (symbol '-' .missingOperand).inspect fun position =>
    skipBlanks.inspect fun _ =>
      (deferred inner.unary site .negation).map fun operand =>
        .negation operand position

/-- An operand with the minuses before it. All operands share one name in the table, because every
occurrence of the rule parses the same language. -/
def operand : Rule Expr :=
  let parser := Parser.predictiveChoice
    [((symbol '-' .missingOperand).peek.map fun _ => (), inner.negation site),
      (Parser.constant (), inner.atom site)]
  if memoized then Parser.memoize id (.named "unary") false parser else parser

/-- An operand, raised to a power if `^` follows. -/
def exponentiation : Rule Expr :=
  Parser.pair (inner.operand memoized site)
    ((operator [.power]).softSequence (deferred inner.power site .exponent)
      fun (_, position) right => (position, right))
    fun base exponent? =>
      match exponent? with
      | some (position, right) => .binary .power base right position
      | none => base

def term : Rule Expr := chain [.multiply, .divide] (inner.exponentiation memoized site)

def sum : Rule Expr := chain [.add, .subtract] (inner.term memoized site)

end Rules

def rules (memoized : Bool) : (depth : Nat) → Rules
  | 0 =>
    ⟨fun _ => Parser.halt .exhausted, fun _ => Parser.halt .exhausted,
      fun _ => Parser.halt .exhausted⟩
  | depth + 1 =>
    let inner := rules memoized depth
    ⟨inner.sum memoized, inner.operand memoized, inner.exponentiation memoized⟩

end Packrat.Calculator
