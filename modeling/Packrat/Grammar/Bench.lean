import Packrat.Grammar.Run

/-! A bench: one built grammar, the parsers it refers to, and the session in which it parses one text
after another. The table is emptied or given up between texts only. -/

namespace Packrat.Grammar

variable {ι Leaf : Type}

/-- How deep deferred parsers run inside each other at most. -/
def recursionLimit : Nat := Nat.pow 2 24

structure Bench (ι Leaf : Type) where
  library : Library ι Leaf
  parser : Built ι Leaf
  session : Session ι Payload (Recall ι Leaf)

namespace Bench

/-- Builds shared parsers in order, each with those before it. -/
def buildShared [Lexicon ι Leaf] :
    List (String × Blueprint ι Leaf) → List (String × Built ι Leaf) →
      Construction (List (String × Built ι Leaf))
  | [], shared => pure shared
  | (name, blueprint) :: rest, shared => do
    let parser ← blueprint.build shared
    buildShared rest ((name, parser) :: shared)

/-- A bench for a grammar, with a table if parsers are to be memoized. -/
def assemble [Lexicon ι Leaf] (rules shared : List (String × Blueprint ι Leaf))
    (grammar : Blueprint ι Leaf) (memoized : Bool) : Except Violation (Bench ι Leaf) := do
  let (shared, next) ← buildShared shared [] 0
  let (parser, next) ← grammar.build shared next
  let table := if memoized then some .empty else none
  return ⟨⟨rules, shared⟩, parser, .new table ⟨next, ∅, []⟩⟩

def parse [Lexicon ι Leaf] (bench : Bench ι Leaf) (cursor : Cursor ι Payload) :
    Reply (Cursor ι Payload) Failure Value × Bench ι Leaf :=
  let (reply, session) :=
    runWithin bench.library recursionLimit bench.parser cursor (bench.session.makeRoom cursor)
  (reply, { bench with session := session })

def clearTable (bench : Bench ι Leaf) : Bench ι Leaf :=
  { bench with session := { bench.session with table := bench.session.table.map fun _ => .empty } }

def dropTable (bench : Bench ι Leaf) : Bench ι Leaf :=
  { bench with session := { bench.session with table := none } }

end Bench

end Packrat.Grammar
