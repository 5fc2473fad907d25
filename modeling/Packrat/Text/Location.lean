import Packrat.Violation

/-! Places in a source text, by line and column. -/

namespace Packrat.Text

/-- A byte offset with its line and its column in bytes, all counted from zero. -/
structure Location where
  line : Nat
  column : Nat
  offset : Nat
  deriving DecidableEq, Repr

namespace Location

def start : Location := ⟨0, 0, 0⟩

/-- Line and column counted from one, as messages give them. -/
def oneBased (location : Location) : Except Violation (Nat × Nat) :=
  match checkedPosition (location.line + 1), checkedPosition (location.column + 1) with
  | .ok line, .ok column => .ok (line, column)
  | .error violation, _ => .error violation
  | _, .error violation => .error violation

def display (location : Location) : Except Violation String :=
  location.oneBased.map fun (line, column) => toString line ++ ":" ++ toString column

end Location

/-- An offset after the end of a source has no location. -/
structure InvalidPosition where
  offset : Nat
  length : Nat
  deriving DecidableEq, Repr

def InvalidPosition.message (error : InvalidPosition) : String :=
  "offset " ++ toString error.offset ++ " is outside the source (length " ++
    toString error.length ++ ")"

end Packrat.Text
