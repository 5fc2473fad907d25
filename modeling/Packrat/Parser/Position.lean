import Packrat.Parser.Basic
import Packrat.Token

/-! Parsers that observe where they stand. -/

namespace Packrat.Parser

variable {ι δ : Type} {M : Memory} {ε ε' α β : Type}

def position : Parser ι δ M ε Nat := located constant

/-- Value and error both with the position where `parser` started. -/
def withPosition (parser : Parser ι δ M ε α) :
    Parser ι δ M (Positioned ε) (Positioned α) :=
  located fun start =>
    parser.handle (fun value => constant ⟨start, value⟩) fun error => failWith ⟨start, error⟩

/-- Hands the value to `onValue` with the positions where it starts and stops, and the error to
`onError` with the position where it starts. -/
def token (parser : Parser ι δ M ε α) (onValue : α → Nat → Nat → β) (onError : ε → Nat → ε') :
    Parser ι δ M ε' β :=
  located fun start =>
    parser.handle (fun value => located fun stop => constant (onValue value start stop))
      fun error => failWith (onError error start)

end Packrat.Parser
