import Packrat.Grammar.Value
import Packrat.Text.LineTable
import Packrat.Parser.Repetition

/-! Grammars as data. A grammar over items `ι` is a tree whose nodes are the parsers of this library.
It is used at two stages: as a blueprint its memoized nodes name a strategy and its references a
rule, and once built they have a key and an identity. -/

namespace Packrat

/-- What cursors of grammars carry: whether the memoization table is in reach, and an integer. -/
structure Payload where
  linked : Bool
  value : Int
  deriving DecidableEq, Repr

/-- A grammar over items `ι` with basic parsers `Leaf`, memoized nodes marked by `κ` and references
`ρ`.

Where a node continues with a parser that depends on a value, it has `n` branches and a function that
selects one. Finitely many lose nothing, for `n` is arbitrary and a node is handed only finitely many
values in however many runs. The memoized and deferred parsers in a branch are those that the
continuation hands out each time. One that it makes anew has a new identity for every value, nothing
is ever found under that, and so it answers as the parser inside it. -/
inductive Grammar (ι Leaf κ ρ : Type) where
  | anyItem
  | satisfy (accepts : ι → Bool) (failure : Failure)
  | endOfInput
  | constant (value : Value)
  | failWith (failure : Failure)
  | getData
  | setData (data : Payload)
  | modifyData (f : Payload → Except Violation Payload)
  | position
  | leaf (basic : Leaf)
  | many (element : Grammar ι Leaf κ ρ)
  | oneOrMore (element : Grammar ι Leaf κ ρ)
  | repeatWhile (condition body : Grammar ι Leaf κ ρ)
  | separatedBy (form : Parser.ListForm) (element separator : Grammar ι Leaf κ ρ)
  | peek (inner : Grammar ι Leaf κ ρ)
  | maybe (inner : Grammar ι Leaf κ ρ)
  | softSequence (first second : Grammar ι Leaf κ ρ)
  | negate (inner : Grammar ι Leaf κ ρ)
  | terminated (inner : Grammar ι Leaf κ ρ)
  | recover (inner : Grammar ι Leaf κ ρ) (n : Nat) (select : Failure → Fin n)
      (branches : Fin n → Grammar ι Leaf κ ρ)
  | recoverWith (inner : Grammar ι Leaf κ ρ) (f : Failure → Value)
  | inspect (inner : Grammar ι Leaf κ ρ) (n : Nat) (select : Value → Fin n)
      (branches : Fin n → Grammar ι Leaf κ ρ)
  | inspectTimes (inner : Grammar ι Leaf κ ρ) (count : Value → Nat) (element : Grammar ι Leaf κ ρ)
  | inspectLeaf (inner : Grammar ι Leaf κ ρ) (select : Value → Leaf)
  | sequence (n : Nat) (parts : Fin n → Grammar ι Leaf κ ρ)
  | orderedChoice (n : Nat) (alternatives : Fin n → Grammar ι Leaf κ ρ)
  | predictiveChoice (n : Nat) (lookaheads continuations : Fin n → Grammar ι Leaf κ ρ)
  | dispatch (n : Nat) (keys : Fin n → Leaf) (branches : Fin n → Grammar ι Leaf κ ρ)
  | map (f : Value → Value) (inner : Grammar ι Leaf κ ρ)
  | mapError (f : Failure → Failure) (inner : Grammar ι Leaf κ ρ)
  | withPosition (inner : Grammar ι Leaf κ ρ)
  | token (kind : String) (inner : Grammar ι Leaf κ ρ)
  | lineColumn (table : Text.LineTable)
  | withFilter (filter : Filter ι) (inner : Grammar ι Leaf κ ρ)
  | counted (name : String) (inner : Grammar ι Leaf κ ρ)
  | memoize (replace : Bool) (mark : κ) (inner : Grammar ι Leaf κ ρ)
  | reference (target : ρ)

namespace Grammar

variable {ι Leaf κ ρ : Type}

/-- A reference of a blueprint. -/
inductive Link where
  /-- Every occurrence becomes a deferred parser of its own. -/
  | rule (name : String)
  /-- Every occurrence is the one parser of this name. -/
  | shared (name : String)
  deriving DecidableEq, Repr

/-- A deferred parser: it builds its rule at its first run. -/
structure Deferred where
  id : Nat
  rule : String
  deriving DecidableEq, Repr

abbrev Blueprint (ι Leaf : Type) := Grammar ι Leaf Memo.Strategy Link

/-- A grammar whose parsers have identities. -/
abbrev Built (ι Leaf : Type) := Grammar ι Leaf Memo.Key Deferred

def sequenceOf (parts : List (Grammar ι Leaf κ ρ)) : Grammar ι Leaf κ ρ :=
  .sequence parts.length fun i => parts[i]

def choiceOf (alternatives : List (Grammar ι Leaf κ ρ)) : Grammar ι Leaf κ ρ :=
  .orderedChoice alternatives.length fun i => alternatives[i]

def predictionOf (pairs : List (Grammar ι Leaf κ ρ × Grammar ι Leaf κ ρ)) : Grammar ι Leaf κ ρ :=
  .predictiveChoice pairs.length (fun i => pairs[i].1) fun i => pairs[i].2

def dispatchOf (entries : List (Leaf × Grammar ι Leaf κ ρ)) : Grammar ι Leaf κ ρ :=
  .dispatch entries.length (fun i => entries[i].1) fun i => entries[i].2

/-- Two grammars one after the other; the value has both values. -/
def andThen (first second : Grammar ι Leaf κ ρ) : Grammar ι Leaf κ ρ := sequenceOf [first, second]

/-- Two grammars one after the other; the first value is kept. -/
def skip (first second : Grammar ι Leaf κ ρ) : Grammar ι Leaf κ ρ :=
  .map (Value.item 0) (andThen first second)

/-- Two grammars one after the other; the second value is kept. -/
def skipLeft (first second : Grammar ι Leaf κ ρ) : Grammar ι Leaf κ ρ :=
  .map (Value.item 1) (andThen first second)

def orElse (first second : Grammar ι Leaf κ ρ) : Grammar ι Leaf κ ρ := choiceOf [first, second]

end Grammar

end Packrat
