import Packrat.Parser.Basic

/-! Memoized parsers. An outcome is cached with the cursor it ended on, at the position it started
from. Who reaches the table is decided by the payload, so a grammar can hide it. -/

namespace Packrat

/-- A reply as an outcome to cache; a halt is none. -/
def Reply.outcome? {σ ε α : Type} : Reply σ ε α → Option (Except ε (α × σ))
  | .done value rest => some (.ok (value, rest))
  | .fail error => some (.error error)
  | .halt _ => none

/-- A cached outcome as a reply. -/
def Reply.ofOutcome {σ ε α : Type} : Except ε (α × σ) → Reply σ ε α
  | .ok (value, rest) => .done value rest
  | .error error => .fail error

namespace Parser

variable {ι δ : Type} {M : Memory}

/-- Runs `parser` and caches its outcome. -/
def runAndStore (key : Memo.Key) (parser : Parser ι δ M M.Failure M.Value) :
    Parser ι δ M M.Failure M.Value := fun cursor session =>
  let (reply, session) := parser cursor session
  match reply.outcome?, session.table with
  | some outcome, some table =>
    match table.write cursor.position ⟨key, cursor.type, outcome⟩ with
    | .ok () table => (reply, { session with table := some table })
    | .error violation table =>
      (.halt (.violation violation), { session with table := some table })
  | _, _ => (reply, session)

/-- Looks for an outcome before running `parser`. With `replace` a cached failure does not count.
Without a table in reach the parser just runs. -/
def memoize (reaches : δ → Bool) (key : Memo.Key) (replace : Bool)
    (parser : Parser ι δ M M.Failure M.Value) : Parser ι δ M M.Failure M.Value :=
  fun cursor session =>
    match (if reaches cursor.data then session.table else none) with
    | none => parser cursor (session.note (.tableUnreachable key))
    | some table =>
      match table.lookup cursor.position key cursor.type with
      | .error violation => (.halt (.violation violation), session)
      | .ok none => runAndStore key parser cursor session
      | .ok (some outcome) =>
        if Memo.succeeded outcome || !replace then
          (.ofOutcome outcome, session.note (.memoHit key cursor.position))
        else
          runAndStore key parser cursor (session.note (.failureReplaced key cursor.position))

end Parser

end Packrat
