import Packrat.Cursor
import Packrat.Memo.Table

/-! What parsers share while they run: the memoization table, the log and the room that loops have.
Everything else about a parse is in the cursor. -/

namespace Packrat

/-- What is worth a line in the log. -/
inductive Event where
  /-- A repetition ended because its parser succeeded without moving. -/
  | repetitionStalled (position : Nat)
  /-- A conditional loop ended because its body succeeded without moving. -/
  | loopStalled (position : Nat)
  /-- A cached outcome was used. -/
  | memoHit (key : Memo.Key) (position : Nat)
  /-- A cached failure was not trusted. -/
  | failureReplaced (key : Memo.Key) (position : Nat)
  /-- A memoized parser ran without a table. -/
  | tableUnreachable (key : Memo.Key)
  /-- A deferred parser is built. -/
  | deferredBuilt
  /-- The outline of the table after a parse. -/
  | tableSummary (positions entries : Nat)
  deriving DecidableEq, Repr

def Event.line : Event → String
  | .repetitionStalled position =>
    "DEBUG repetition stopped without progress at " ++ toString position
  | .loopStalled position =>
    "DEBUG repeat_while stopped without progress at " ++ toString position
  | .memoHit key position => "TRACE memo hit for " ++ key.label ++ " at " ++ toString position
  | .failureReplaced key position =>
    "TRACE replacing cached failure for " ++ key.label ++ " at " ++ toString position
  | .tableUnreachable key =>
    "TRACE no memo table reachable, parsing " ++ key.label ++ " uncached"
  | .deferredBuilt => "DEBUG building deferred parser"
  | .tableSummary positions entries =>
    "DEBUG memo table after parse: " ++ Memo.Table.summary positions entries

/-- What a session remembers: the errors and values of its memoized parsers, and a state of the
grammar's own. -/
structure Memory where
  Failure : Type
  Value : Type
  Extra : Type

/-- The state shared by all parsers of a grammar, over all branches and all texts parsed so far. -/
structure Session (ι δ : Type) (M : Memory) where
  /-- The table, while somebody owns one. Values and errors have one type each, so the type of an
  entry is told by the view that it was stored from. -/
  table : Option (Memo.Table ViewType M.Failure (M.Value × Cursor ι δ))
  /-- Events, latest first. -/
  log : List Event
  /-- The greatest length among the texts parsed so far: no cursor stands after it. -/
  reach : Nat
  extra : M.Extra

namespace Session

variable {ι δ : Type} {M : Memory}

def new (table : Option (Memo.Table ViewType M.Failure (M.Value × Cursor ι δ))) (extra : M.Extra) :
    Session ι δ M :=
  ⟨table, [], 0, extra⟩

def note (session : Session ι δ M) (event : Event) : Session ι δ M :=
  { session with log := event :: session.log }

def makeRoom (session : Session ι δ M) (cursor : Cursor ι δ) : Session ι δ M :=
  { session with reach := max session.reach cursor.extent }

def logLines (session : Session ι δ M) : List String := session.log.reverse.map Event.line

end Session

end Packrat
