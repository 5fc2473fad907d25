import Packrat.Calculator.Rules
import Packrat.Text.LineTable

/-! The calculator: parsing a whole text as one expression. -/

namespace Packrat

structure Calculator where
  /-- Operands are cached by position for the duration of a parse. -/
  memoized : Bool
  deriving DecidableEq, Repr

namespace Calculator

/-- What parsing an expression answers, with the session it leaves. -/
abbrev Answer := Reply (Cursor Char Bool) SyntaxError Expr × Session Char Bool Recall

/-- The rule `expression`, for texts of at most `length` bytes: every deferred parser runs behind
the one around it, so no more than `length` of them run inside each other. -/
def expression (calculator : Calculator) (length : Nat) : Rule Expr :=
  (rules calculator.memoized (length + 1)).expression 0

def start (table : Bool) (cursor : Cursor Char Bool) : Session Char Bool Recall :=
  (Session.new (if table then some .empty else none) Sites.empty).makeRoom cursor

/-- Runs the rule `expression` at the start of a text, with a table in reach. What follows the
expression is left over. -/
def parseFront (calculator : Calculator) (source : String) : Answer :=
  let cursor := Cursor.ofText source true
  calculator.expression cursor.extent cursor (start true cursor)

def summarize (session : Session Char Bool Recall) : Session Char Bool Recall :=
  match session.table with
  | some table => session.note (.tableSummary table.positionCount table.size)
  | none => session

def parse (calculator : Calculator) (source : String) : Answer :=
  let cursor := Cursor.ofText source calculator.memoized
  let whole := skipBlanks.inspect fun _ => calculator.expression cursor.extent
  match whole cursor (start calculator.memoized cursor) with
  | (.done expr rest, session) =>
    if rest.isAtEnd then (.done expr rest, summarize session)
    else (.fail (.unexpectedInput rest.position), summarize session)
  | (.fail error, session) => (.fail error, session)
  | (.halt cause, session) => (.halt cause, session)

/-- The place of an error in its text, as messages show it. -/
def errorPlace? (source : String) (error : SyntaxError) : Option String :=
  match (Text.LineTable.ofSource source).locate error.offset with
  | .ok location => location.display.toOption
  | .error _ => none

end Calculator

end Packrat
