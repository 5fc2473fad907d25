import Packrat.Parser.Basic

/-! Sequences and choices of any length. None of them may be empty: that is a broken contract, not
a failure of the text. -/

namespace Packrat.Parser

variable {ι δ : Type} {M : Memory} {ε α β γ : Type}

/-- Runs parsers one after the other and collects their values. -/
def collect : List (Parser ι δ M ε α) → Parser ι δ M ε (List α)
  | [] => constant []
  | parser :: parsers => parser.inspect fun value => (collect parsers).map (value :: ·)

/-- Runs parsers one after the other; the first failure ends the sequence. -/
def sequence : List (Parser ι δ M ε α) → Parser ι δ M ε (List α)
  | [] => halt (.violation .emptySequence)
  | parsers => collect parsers

/-- Sequences are shorter than this number: a longer one has no room in memory. -/
def sequenceBound : Nat := Nat.pow 2 59

def times (count : Nat) (parser : Parser ι δ M ε α) : Parser ι δ M ε (List α) :=
  if count < sequenceBound then sequence (List.replicate count parser)
  else halt (.violation .overflow)

def pair (first : Parser ι δ M ε α) (second : Parser ι δ M ε β) (combine : α → β → γ) :
    Parser ι δ M ε γ :=
  first.inspect fun a => second.map fun b => combine a b

def andThen (first : Parser ι δ M ε α) (second : Parser ι δ M ε β) : Parser ι δ M ε (α × β) :=
  pair first second Prod.mk

/-- Runs two parsers one after the other and keeps the first value. -/
def skip (first : Parser ι δ M ε α) (second : Parser ι δ M ε β) : Parser ι δ M ε α :=
  pair first second fun a _ => a

/-- Runs two parsers one after the other and keeps the second value. -/
def skipLeft (first : Parser ι δ M ε α) (second : Parser ι δ M ε β) : Parser ι δ M ε β :=
  pair first second fun _ b => b

/-- Tries parsers on the same input; the first success wins, and the last failure stands for all. -/
def orderedChoice : List (Parser ι δ M ε α) → Parser ι δ M ε α
  | [] => halt (.violation .emptyChoice)
  | [parser] => parser
  | parser :: next :: parsers =>
    parser.recover fun _ => orderedChoice (next :: parsers)

def orElse (first second : Parser ι δ M ε α) : Parser ι δ M ε α := orderedChoice [first, second]

/-- Commits to the first pair whose lookahead succeeds: its continuation runs after the lookahead
and has the last word. -/
def predictiveChoice : List (Parser ι δ M ε α × Parser ι δ M ε β) → Parser ι δ M ε β
  | [] => halt (.violation .emptyPrediction)
  | [(lookahead, continuation)] => lookahead.inspect fun _ => continuation
  | (lookahead, continuation) :: next :: pairs =>
    lookahead.handle (fun _ => continuation) fun _ => predictiveChoice (next :: pairs)

end Packrat.Parser
