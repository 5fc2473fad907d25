import Packrat.Session

/-! Parsers: functions from a cursor and the shared session to a reply. A reply is a value with the
cursor after it, an error, or a halt; a halt ends the whole parse and nothing recovers from it. -/

namespace Packrat

/-- Why a parse was broken off. -/
inductive Halt where
  /-- Somebody broke a contract. -/
  | violation (cause : Violation)
  /-- A loop or a recursion was given too little room. -/
  | exhausted
  deriving DecidableEq, Repr

inductive Reply (σ ε α : Type) where
  | done (value : α) (rest : σ)
  | fail (error : ε)
  | halt (cause : Halt)

/-- A parser of items `ι` with payload `δ`, errors `ε` and values `α`, run in sessions that
remember `M`. -/
abbrev Parser (ι δ : Type) (M : Memory) (ε α : Type) :=
  Cursor ι δ → Session ι δ M → Reply (Cursor ι δ) ε α × Session ι δ M

namespace Parser

variable {ι δ : Type} {M : Memory} {ε ε' α β γ : Type}

def constant (value : α) : Parser ι δ M ε α := fun cursor session =>
  (.done value cursor, session)

def failWith (error : ε) : Parser ι δ M ε α := fun _ session => (.fail error, session)

def halt (cause : Halt) : Parser ι δ M ε α := fun _ session => (.halt cause, session)

/-- Goes on after both outcomes of `parser`: after a value from the cursor it left, after an error
from the cursor it started on. -/
def handle (parser : Parser ι δ M ε α) (onValue : α → Parser ι δ M ε' β)
    (onError : ε → Parser ι δ M ε' β) : Parser ι δ M ε' β := fun cursor session =>
  match parser cursor session with
  | (.done value rest, session) => onValue value rest session
  | (.fail error, session) => onError error cursor session
  | (.halt cause, session) => (.halt cause, session)

/-- Runs what `next` makes of the value, after it. -/
def inspect (parser : Parser ι δ M ε α) (next : α → Parser ι δ M ε β) : Parser ι δ M ε β :=
  parser.handle next failWith

/-- Runs what `next` makes of the error, in place of the parser that failed. -/
def recover (parser : Parser ι δ M ε α) (next : ε → Parser ι δ M ε' α) : Parser ι δ M ε' α :=
  parser.handle constant next

def map (f : α → β) (parser : Parser ι δ M ε α) : Parser ι δ M ε β :=
  parser.inspect fun value => constant (f value)

def mapError (f : ε → ε') (parser : Parser ι δ M ε α) : Parser ι δ M ε' α :=
  parser.recover fun error => failWith (f error)

/-- Looks ahead: the value of `parser`, with nothing consumed. -/
def peek (parser : Parser ι δ M ε α) : Parser ι δ M ε α := fun cursor session =>
  match parser cursor session with
  | (.done value _, session) => (.done value cursor, session)
  | (.fail error, session) => (.fail error, session)
  | (.halt cause, session) => (.halt cause, session)

/-- An absent value where `parser` fails. -/
def maybe (parser : Parser ι δ M ε α) : Parser ι δ M ε' (Option α) :=
  parser.handle (fun value => constant (some value)) fun _ => constant none

/-- An optional group: absent if `first` fails, but once `first` matched `second` is required. -/
def softSequence (first : Parser ι δ M ε α) (second : Parser ι δ M ε' β) (combine : α → β → γ) :
    Parser ι δ M ε' (Option γ) :=
  first.handle (fun a => second.map fun b => some (combine a b)) fun _ => constant none

/-- Swaps value and error, and consumes nothing either way. -/
def negate (parser : Parser ι δ M ε α) : Parser ι δ M α ε :=
  parser.peek.handle failWith constant

/-- Runs the parser made for the position it starts at. -/
def located (parser : Nat → Parser ι δ M ε α) : Parser ι δ M ε α := fun cursor session =>
  parser cursor.position cursor session

end Parser

end Packrat
