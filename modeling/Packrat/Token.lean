import Packrat.Violation

/-! Values that know where they were read. -/

namespace Packrat

/-- Something with the position where reading it began. -/
structure Positioned (α : Type) where
  position : Nat
  value : α
  deriving DecidableEq, Repr

/-- A lexical token: a kind, a value and the positions where it starts and where it stops. -/
structure Token (κ α : Type) where
  kind : κ
  value : α
  start : Nat
  stop : Nat
  deriving DecidableEq, Repr

namespace Token

variable {κ α : Type}

/-- The length of the token. A token that stops before it starts has none. -/
def length (token : Token κ α) : Except Violation Nat :=
  if token.start ≤ token.stop then .ok (token.stop - token.start) else .error .overflow

def isEmpty (token : Token κ α) : Bool := token.start == token.stop

end Token

end Packrat
