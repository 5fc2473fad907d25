import Packrat.Parser.Basic

/-! The parsers that touch the cursor: one item, the end, the payload, a filter. -/

namespace Packrat

/-- What every stream of items can lack or have too much of. -/
inductive StreamError where
  /-- An item was required and none was left. -/
  | endOfInput
  /-- Items were left where none may be. -/
  | endExpected
  deriving DecidableEq, Repr

def StreamError.message : StreamError → String
  | .endOfInput => "unexpected end of input"
  | .endExpected => "end of input expected"

/-- Errors that say all that a stream of items has to say. -/
class OfStreamError (ε : Type) where
  ofStreamError : StreamError → ε

export OfStreamError (ofStreamError)

instance : OfStreamError StreamError := ⟨id⟩

namespace Parser

variable {ι δ : Type} {M : Memory} {ε α : Type}

/-- The next item, whatever it is. -/
def anyItem [OfStreamError ε] : Parser ι δ M ε ι := fun cursor session =>
  match cursor.advance with
  | .ok (some (item, rest)) => (.done item rest, session)
  | .ok none => (.fail (ofStreamError .endOfInput), session)
  | .error violation => (.halt (.violation violation), session)

/-- The next item if `accepts` holds of it, else `error`. -/
def satisfy [OfStreamError ε] (accepts : ι → Bool) (error : ε) : Parser ι δ M ε ι :=
  anyItem.inspect fun item => if accepts item then constant item else failWith error

/-- Succeeds at the end of the items only. -/
def endOfInput [OfStreamError ε] : Parser ι δ M ε Unit := fun cursor session =>
  if cursor.isAtEnd then (.done () cursor, session)
  else (.fail (ofStreamError .endExpected), session)

/-- The parser followed by the end of the items. -/
def terminated [OfStreamError ε] (parser : Parser ι δ M ε α) : Parser ι δ M ε α :=
  parser.inspect fun value => endOfInput.map fun _ => value

def getData : Parser ι δ M ε δ := fun cursor session => (.done cursor.data cursor, session)

/-- Replaces the payload for all that follows. -/
def setData (data : δ) : Parser ι δ M ε Unit := fun cursor session =>
  (.done () (cursor.withData data), session)

/-- Replaces the payload by its image, which is also the value. -/
def modifyData (f : δ → Except Violation δ) : Parser ι δ M ε δ := fun cursor session =>
  match f cursor.data with
  | .ok data => (.done data (cursor.withData data), session)
  | .error violation => (.halt (.violation violation), session)

/-- Runs `parser` on a view of the items through `filter`; what follows sees the items themselves
again. -/
def withFilter (filter : Filter ι) (parser : Parser ι δ M ε α) : Parser ι δ M ε α :=
  fun cursor session =>
    match parser (cursor.filtered filter) session with
    | (.done value rest, session) => (.done value rest.unfiltered, session)
    | (.fail error, session) => (.fail error, session)
    | (.halt cause, session) => (.halt cause, session)

end Parser

end Packrat
