import Packrat.Grammar.Basic
import Packrat.Grammar.Leaf

/-! Building a blueprint. Every memoized node and every deferred parser gets an identity that no
other node has, except that all occurrences of a shared parser are the same parser. A broken
contract ends the building. -/

namespace Packrat.Grammar

variable {ι Leaf : Type}

/-- Steps that take identities, counted upwards, and may find a broken contract. -/
abbrev Construction := StateT Nat (Except Violation)

namespace Construction

def fresh : Construction Nat := fun next => .ok (next, next + 1)

/-- Refuses with `violation` unless the contract holds. -/
def demand (holds : Bool) (violation : Violation) : Construction Unit :=
  if holds then pure () else throw violation

def refuse : Option Violation → Construction Unit
  | none => pure ()
  | some violation => throw violation

def each {β : Type} : (n : Nat) → (Fin n → Construction β) → Construction (Fin n → β)
  | 0, _ => pure Fin.elim0
  | n + 1, step => do
    let head ← step 0
    let tail ← each n fun i => step i.succ
    pure (Fin.cases head tail)

end Construction

open Construction

/-- Builds the parsers of a blueprint, inner ones first. References to `shared` parsers become those
parsers; references to rules become deferred parsers. -/
def build [Lexicon ι Leaf] (shared : List (String × Built ι Leaf)) :
    Blueprint ι Leaf → Construction (Built ι Leaf)
  | .anyItem => pure .anyItem
  | .satisfy accepts failure => pure (.satisfy accepts failure)
  | .endOfInput => pure .endOfInput
  | .constant value => pure (.constant value)
  | .failWith failure => pure (.failWith failure)
  | .getData => pure .getData
  | .setData data => pure (.setData data)
  | .modifyData f => pure (.modifyData f)
  | .position => pure .position
  | .leaf basic => do
    refuse (Lexicon.defect ι basic)
    pure (.leaf basic)
  | .many element => return .many (← build shared element)
  | .oneOrMore element => return .oneOrMore (← build shared element)
  | .repeatWhile condition body =>
    return .repeatWhile (← build shared condition) (← build shared body)
  | .separatedBy form element separator =>
    return .separatedBy form (← build shared element) (← build shared separator)
  | .peek inner => return .peek (← build shared inner)
  | .maybe inner => return .maybe (← build shared inner)
  | .softSequence first second =>
    return .softSequence (← build shared first) (← build shared second)
  | .negate inner => return .negate (← build shared inner)
  | .terminated inner => return .terminated (← build shared inner)
  | .recover inner n select branches => do
    let inner ← build shared inner
    return .recover inner n select (← each n fun i => build shared (branches i))
  | .recoverWith inner f => return .recoverWith (← build shared inner) f
  | .inspect inner n select branches => do
    let inner ← build shared inner
    return .inspect inner n select (← each n fun i => build shared (branches i))
  | .inspectTimes inner count element =>
    return .inspectTimes (← build shared inner) count (← build shared element)
  | .inspectLeaf inner select => return .inspectLeaf (← build shared inner) select
  | .sequence n parts => do
    let parts ← each n fun i => build shared (parts i)
    demand (n != 0) .emptySequence
    return .sequence n parts
  | .orderedChoice n alternatives => do
    let alternatives ← each n fun i => build shared (alternatives i)
    demand (n != 0) .emptyChoice
    return .orderedChoice n alternatives
  | .predictiveChoice n lookaheads continuations => do
    let pairs ← each n fun i =>
      return (← build shared (lookaheads i), ← build shared (continuations i))
    demand (n != 0) .emptyPrediction
    return .predictiveChoice n (fun i => (pairs i).1) fun i => (pairs i).2
  | .dispatch n keys branches => do
    let branches ← each n fun i => build shared (branches i)
    let _ ← each n fun i => refuse (Lexicon.defect ι (keys i))
    demand (n != 0) .emptyPrediction
    return .dispatch n keys branches
  | .map f inner => return .map f (← build shared inner)
  | .mapError f inner => return .mapError f (← build shared inner)
  | .withPosition inner => return .withPosition (← build shared inner)
  | .token kind inner => return .token kind (← build shared inner)
  | .lineColumn table => pure (.lineColumn table)
  | .withFilter filter inner => return .withFilter filter (← build shared inner)
  | .counted name inner => return .counted name (← build shared inner)
  | .memoize replace strategy inner => do
    let inner ← build shared inner
    return .memoize replace (strategy.key (← fresh)) inner
  | .reference (.rule name) => return .reference ⟨← fresh, name⟩
  | .reference (.shared name) =>
    match shared.lookup name with
    | some parser => pure parser
    | none => throw .undefinedParser

end Packrat.Grammar
