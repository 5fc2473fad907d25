import Packrat.Text.Quoted

/-! Keys of cached outcomes. The position is the first half of a key; the second half says whose
outcome it is: one parser's own, or that of every parser sharing a name. -/

namespace Packrat.Memo

/-- How a memoized parser keys its entries. -/
inductive Strategy where
  /-- Each memoized parser has an identity of its own. -/
  | byParser
  /-- Every parser memoized under one name shares entries. -/
  | byName (name : String)
  deriving DecidableEq, Repr

/-- The settings parsers are memoized with. With `replaceFailures` a cached failure is not trusted:
the parser runs again and the newer outcome takes its place. -/
structure Policy where
  strategy : Strategy
  replaceFailures : Bool
  deriving DecidableEq, Repr

/-- Settings that trust cached failures. -/
def Policy.new (strategy : Strategy) : Policy := ⟨strategy, false⟩

def Policy.replacing (policy : Policy) (replace : Bool) : Policy :=
  { policy with replaceFailures := replace }

/-- Whose outcome an entry holds. -/
inductive Key where
  /-- The parser with this identity. -/
  | parser (id : Nat)
  /-- Any parser of this name. -/
  | named (name : String)
  deriving DecidableEq, Repr

/-- The key as messages show it; identities stay anonymous. -/
def Key.label : Key → String
  | .parser _ => "Parser(ParserId(_))"
  | .named name => "Named(" ++ Text.quote name ++ ")"

/-- The key of a parser under a strategy, given the identity it would have of its own. -/
def Strategy.key (id : Nat) : Strategy → Key
  | .byParser => .parser id
  | .byName name => .named name

end Packrat.Memo
