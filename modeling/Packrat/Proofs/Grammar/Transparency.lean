import Packrat.Grammar.Bench
import Packrat.Proofs.Grammar.Agreement
import Packrat.Proofs.Parser.Transparency
import Packrat.Proofs.Standing

/-! Memoization changes no outcome of a grammar: what the table claims for a node at a position is
what its parser replies there without any memoization. -/

namespace Packrat.Grammar

open Packrat.Parser

variable {ι Leaf : Type}

/-- No references, and no change of the payload. -/
structure Plain (grammar : Built ι Leaf) : Prop where
  no_reference : ¬ Part grammar filters (.reference target)
  no_setData : ¬ Part grammar filters (.setData data)
  no_modifyData : ¬ Part grammar filters (.modifyData f)

/-- Memoized nodes with one key memoize the same parser behind the same filters, and none of them
stands inside another. -/
structure Keyed (grammar : Built ι Leaf) : Prop where
  same_filters {inner inner'} : Part grammar filters (.memoize replace key inner) →
    Part grammar filters' (.memoize replace' key inner') → filters = filters'
  same_inner {inner inner'} : Part grammar filters (.memoize replace key inner) →
    Part grammar filters' (.memoize replace' key inner') → inner.erase = inner'.erase
  apart {inner inner'} : Part grammar filters (.memoize replace key inner) →
    ¬ Part inner filters' (.memoize replace' key inner')

theorem Plain.inside {grammar inner : Built ι Leaf} {filters : List (Filter ι)}
    (plain : Plain grammar) (part : Part grammar filters inner) : Plain inner where
  no_reference deep := plain.no_reference (part.trans deep)
  no_setData deep := plain.no_setData (part.trans deep)
  no_modifyData deep := plain.no_modifyData (part.trans deep)

theorem Plain.unwrap {inner : Built ι Leaf} (plain : Plain (.memoize replace key inner)) :
    Plain inner :=
  plain.inside (.inside List.mem_cons_self .here)

variable [Lexicon ι Leaf] {grammar inner : Built ι Leaf} {resolve : Deferred → Rule ι Leaf}
  {filters : List (Filter ι)} {replace : Bool} {key : Memo.Key}

section

variable [LawfulLexicon ι Leaf]

/-- Without memoization the reply depends on the cursor and the room in the session only. -/
theorem runWith_uncached_eq (plain : Plain grammar) (cursor : Cursor ι Payload)
    (session session' : Session ι Payload (Recall ι Leaf)) (room : session.reach = session'.reach) :
    (grammar.runWith uncached resolve cursor session).1 =
      (grammar.runWith uncached resolve cursor session').1 := by
  let accord : Unit → Accord ι Payload (Recall ι Leaf) := fun _ =>
    ⟨fun _ _ => True, fun session session' => session.reach = session'.reach⟩
  have supports : Supports accord uncached uncached resolve resolve [] grammar := by
    constructor
    · exact fun _ => ⟨id, fun same _ => same, fun _ _ => trivial, fun _ _ => trivial,
        fun _ => trivial⟩
    · exact fun _ _ _ same _ => same
    · exact fun _ _ _ _ => trivial
    · exact fun _ _ _ _ _ => trivial
    · exact fun _ agree => agree
    · exact fun part => absurd part plain.no_reference
  exact (runWith_agree grammar [] supports () cursor session session' trivial room).1

/-- A run stores nothing under a key that no node of the grammar has. -/
theorem run_recalled (closed : ∀ filters target, ¬ Part grammar filters (.reference target))
    (absent : ∀ filters replace inner, ¬ Part grammar filters (.memoize replace key inner))
    (cursor : Cursor ι Payload) (session : Session ι Payload (Recall ι Leaf)) (position : Nat) :
    (grammar.run resolve cursor session).2.recalled position key =
      session.recalled position key := by
  let accord : Unit → Accord ι Payload (Recall ι Leaf) := fun _ =>
    ⟨fun _ _ => True, fun later later' =>
      later = later' ∧ later.recalled position key = session.recalled position key⟩
  have supports : Supports accord cached cached resolve resolve [] grammar := by
    constructor
    · exact fun _ => ⟨fun shared => congrArg _ shared.1,
        fun shared event => ⟨congrArg (Session.note · event) shared.1, shared.2⟩,
        fun _ _ => trivial, fun _ _ => trivial, fun _ => trivial⟩
    · rintro _ later _ ⟨rfl, kept⟩ name
      exact ⟨rfl, kept⟩
    · exact fun _ _ _ _ => trivial
    · exact fun _ _ _ _ _ => trivial
    · intro more replace mark inner part agree _
      rintro start later _ _ ⟨rfl, kept⟩
      have other : key ≠ mark := by
        rintro rfl
        exact absent _ _ _ part
      refine ⟨rfl, ⟨rfl, (recalled_memoize other fun last same => ?_).trans kept⟩,
        fun _ _ _ => trivial⟩
      have run := agree () start last last trivial ⟨rfl, by rw [same]; exact kept⟩
      exact run.2.1.2.trans kept.symm
    · exact fun part => absurd part (closed _ _)
  exact (runWith_agree grammar [] supports () cursor session session trivial ⟨rfl, rfl⟩).2.1.2

end

/-- What an entry says is what its parser, without memoization, replies at the position. -/
def Explained (grammar : Built ι Leaf) (resolve : Deferred → Rule ι Leaf) (home : Cursor ι Payload)
    (room : Nat) : Claims ι Payload (Recall ι Leaf) := fun position key entry =>
  ∃ filters replace inner cursor, Part grammar filters (.memoize replace key inner) ∧
    home.Beside filters cursor ∧ cursor.position = position ∧ entry.type = cursor.type ∧
    ∀ session : Session ι Payload (Recall ι Leaf), session.reach = room →
      (inner.runWith uncached resolve cursor session).1 = .ofOutcome entry.outcome

variable {home : Cursor ι Payload} {room : Nat}

/-- What is recalled at a cursor for a memoized node is what the node replies there. -/
theorem explained_for (keyed : Keyed grammar)
    (part : Part grammar filters (.memoize replace key inner)) :
    Claims.For (Explained grammar resolve home room) key room (inner.runWith uncached resolve)
      (home.Beside filters) where
  holds cursor entry beside explained := by
    obtain ⟨filters', replace', inner', cursor', part', beside', level, type, outcome⟩ := explained
    cases keyed.same_filters part part'
    cases beside.eq_of_position beside' level.symm
    refine ⟨type, fun session reach => ?_⟩
    have same := keyed.same_inner part part'
    rw [← runWith_erase uncached resolve inner, same, runWith_erase uncached resolve inner']
    exact outcome session reach
  made cursor outcome beside reply :=
    ⟨filters, replace, inner, cursor, part, beside, rfl, rfl, reply⟩

/-- A run that starts with an empty table replies as the run without memoization. -/
theorem run_eq_uncached [LawfulLexicon ι Leaf] (plain : Plain grammar) (keyed : Keyed grammar)
    (cursor : Cursor ι Payload) (session : Session ι Payload (Recall ι Leaf))
    (empty : ∀ position key, session.recalled position key = none) :
    (grammar.run resolve cursor session).1 =
      (grammar.runWith uncached resolve cursor session).1 := by
  -- Only the first run's table counts: without memoization nothing looks at the second one's.
  let accord : Unit → Accord ι Payload (Recall ι Leaf) := fun _ =>
    transparent cursor.Beside session.reach (Explained grammar resolve cursor session.reach)
  have supports : Supports accord cached uncached resolve resolve [] grammar := by
    constructor
    · exact fun _ => ⟨fun shared => shared.1.trans shared.2.1.symm, fun shared _ => shared,
        fun beside ahead => beside.past ahead, fun beside filter => beside.filtered filter,
        fun beside => beside.unfiltered⟩
    · exact fun _ _ _ shared _ => shared
    · exact fun part => absurd part plain.no_setData
    · exact fun part => absurd part plain.no_modifyData
    · intro more replace key inner part agree _
      rw [List.append_nil] at agree ⊢
      have below := plain.inside part
      refine agree_memoize_plain (explained_for keyed part) (agree ())
        (runWith_uncached_eq below.unwrap) fun start later => ?_
      exact run_recalled (fun _ _ => below.unwrap.no_reference) (fun _ _ _ => keyed.apart part) start
        later start.position
    · exact fun part => absurd part plain.no_reference
  refine (runWith_agree grammar [] supports () cursor session session (.refl cursor) ?_).1
  refine ⟨rfl, rfl, fun position key entry found => ?_⟩
  rw [empty] at found
  cases found

end Packrat.Grammar
