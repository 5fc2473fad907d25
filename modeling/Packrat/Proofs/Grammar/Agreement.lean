import Packrat.Proofs.Grammar.Coupling
import Packrat.Proofs.Parser.Agreement

/-! Two ways to run a grammar agree if they agree on the nodes that reach beyond their parts: those
that change the payload, the memoized ones and the references. -/

namespace Packrat

open Packrat.Parser

/-- Basic parsers read items and nothing else, so they agree with themselves in every accord. -/
class LawfulLexicon (ι Leaf : Type) [Lexicon ι Leaf] : Prop where
  agree {δ : Type} {M : Memory} (accord : Accord ι δ M) (stable : accord.Stable)
    (filters : List (Filter ι)) (leaf : Leaf) :
    Agree accord filters (Lexicon.parser leaf) (Lexicon.parser leaf)

instance {ι Leaf : Type} [Lexicon ι Leaf] [UniformLexicon ι Leaf] : LawfulLexicon ι Leaf where
  agree accord stable filters leaf :=
    agree_iff_coupled.mpr (UniformLexicon.coupled accord.coupling stable.coupling filters leaf)

namespace Grammar

variable {ι Leaf κ ρ J : Type} [Lexicon ι Leaf] {accord : J → Accord ι Payload (Recall ι Leaf)}
  {memoize memoize' : Bool → κ → Rule ι Leaf → Rule ι Leaf} {resolve resolve' : ρ → Rule ι Leaf}
  {filters : List (Filter ι)}

/-- What becomes of memoized parsers where a table is to be used. -/
abbrev cached (replace : Bool) (key : Memo.Key) (parser : Rule ι Leaf) : Rule ι Leaf :=
  Parser.memoize Payload.linked key replace parser

/-- What becomes of memoized parsers where nothing is to be memoized. -/
abbrev uncached (_ : Bool) (_ : κ) (parser : Rule ι Leaf) : Rule ι Leaf := parser

/-- A family of accords covers what a grammar's nodes do beyond running their parts. -/
structure Supports (accord : J → Accord ι Payload (Recall ι Leaf))
    (memoize memoize' : Bool → κ → Rule ι Leaf → Rule ι Leaf) (resolve resolve' : ρ → Rule ι Leaf)
    (filters : List (Filter ι)) (grammar : Grammar ι Leaf κ ρ) : Prop where
  stable : ∀ j, (accord j).Stable
  counted : ∀ j session session', (accord j).sessions session session' → ∀ name,
    (accord j).sessions
      { session with extra := { session.extra with counts := countOne name session.extra.counts } }
      { session' with
        extra := { session'.extra with counts := countOne name session'.extra.counts } }
  setData : Part grammar more (.setData data) → ∀ j cursor,
    (accord j).cursors (more ++ filters) cursor →
      (accord j).cursors (more ++ filters) (cursor.withData data)
  modifyData : Part grammar more (.modifyData f) → ∀ j cursor data,
    (accord j).cursors (more ++ filters) cursor →
      (accord j).cursors (more ++ filters) (cursor.withData data)
  memoized {inner} : Part grammar more (.memoize replace mark inner) →
    (∀ j, Agree (accord j) (more ++ filters) (inner.runWith memoize resolve)
      (inner.runWith memoize' resolve')) →
    ∀ j, Agree (accord j) (more ++ filters) (memoize replace mark (inner.runWith memoize resolve))
      (memoize' replace mark (inner.runWith memoize' resolve'))
  reference : Part grammar more (.reference target) →
    ∀ j, Agree (accord j) (more ++ filters) (resolve target) (resolve' target)

theorem Supports.upholds [LawfulLexicon ι Leaf] {grammar : Grammar ι Leaf κ ρ}
    (supports : Supports accord memoize memoize' resolve resolve' filters grammar) :
    Upholds (fun j => (accord j).coupling) memoize memoize' resolve resolve' filters grammar where
  stable j := (supports.stable j).coupling
  counted := supports.counted
  leaf j filters leaf :=
    agree_iff_coupled.mp (LawfulLexicon.agree (accord j) (supports.stable j) filters leaf)
  observed _ _ _ _ _ place := congrArg Cursor.position place.1
  getData _ j := coupled_getData fun _ _ place => congrArg Cursor.data place.1
  setData part j := by
    apply coupled_setData
    rintro cursor _ ⟨rfl, place⟩
    exact ⟨rfl, supports.setData part j cursor place⟩
  modifyData part j := by
    apply coupled_modifyData
    · exact fun _ _ place => congrArg Cursor.data place.1
    · exact fun _ _ _ => trivial
    · rintro cursor _ data ⟨rfl, place⟩
      exact ⟨rfl, supports.modifyData part j cursor data place⟩
  withFilter _ _ := trivial
  memoized part coupled j :=
    agree_iff_coupled.mp (supports.memoized part (fun j => agree_iff_coupled.mpr (coupled j)) j)
  reference part j := agree_iff_coupled.mp (supports.reference part j)

/-- What is covered node by node is covered as a whole. -/
theorem runWith_agree [LawfulLexicon ι Leaf] (grammar : Grammar ι Leaf κ ρ) :
    ∀ filters, Supports accord memoize memoize' resolve resolve' filters grammar →
      ∀ j, Agree (accord j) filters (grammar.runWith memoize resolve)
        (grammar.runWith memoize' resolve') :=
  fun filters supports j =>
    agree_iff_coupled.mpr (runWith_coupled grammar filters supports.upholds j)

end Grammar

end Packrat
