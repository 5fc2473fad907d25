import Packrat.Proofs.Grammar.Agreement
import Packrat.Proofs.Parser.Payload
import Packrat.Text.Cursor

/-! A grammar that leaves the payload alone, memoized by position and parser. All calls at a
position reply with the value or the error that is due, and end where they should, but with the
payload of the first of them: the table knows calls by their position only. -/

namespace Packrat.Grammar

open Packrat.Parser

variable {ι Leaf : Type}

/-- The grammar neither reads nor writes the payload, memoizes nothing and refers to nothing. -/
structure Inert (grammar : Built ι Leaf) : Prop where
  no_getData : ¬ Part grammar filters .getData
  no_setData : ¬ Part grammar filters (.setData data)
  no_modifyData : ¬ Part grammar filters (.modifyData f)
  no_memoize {inner} : ¬ Part grammar filters (.memoize replace key inner)
  no_reference : ¬ Part grammar filters (.reference target)

/-- A cursor and the same with another payload, in sessions with equal room; the first one's table
stays as it is. -/
def repaid (data : Payload) (room : Nat)
    (table : Option (Memo.Table ViewType Failure (Value × Cursor ι Payload))) :
    Coupling ι Payload (Recall ι Leaf) where
  cursors _ cursor cursor' := cursor' = cursor.withData data
  sessions session session' :=
    session.reach = room ∧ session'.reach = room ∧ session.table = table
  causes _ := True
  admits _ := True
  onward := False

variable {data : Payload} {room : Nat}
  {table : Option (Memo.Table ViewType Failure (Value × Cursor ι Payload))}

theorem repaid_stable : (repaid data room table : Coupling ι Payload (Recall ι Leaf)).Stable where
  advance place := by
    cases place
    exact shown_of_same rfl (fun _ => rfl) (fun _ _ _ => trivial) fun _ _ _ => rfl
  ordinary _ := trivial
  total _ := trivial
  filtered place _ := congrArg (Cursor.filtered · _) place
  unfiltered place := congrArg Cursor.unfiltered place
  rounds coupled := by
    apply coupled.rounds_of_level
    · exact fun _ _ place => place ▸ rfl
    · exact fun _ _ shared => shared.1.trans shared.2.1.symm
    · exact fun _ _ shared _ => shared
    · trivial

variable [Lexicon ι Leaf] [UniformLexicon ι Leaf] {grammar : Built ι Leaf}
  {resolve : Deferred → Rule ι Leaf}

theorem Inert.coupled (inert : Inert grammar) :
    Coupled (repaid data room table) [] (grammar.run resolve) (grammar.run resolve) := by
  have upholds : Upholds (fun _ : Unit => repaid data room table) cached cached resolve resolve []
      grammar := by
    constructor
    · exact fun _ => repaid_stable
    · exact fun _ _ _ shared _ => shared
    · exact fun _ => UniformLexicon.coupled _ repaid_stable
    · exact fun _ _ _ _ _ place => place ▸ rfl
    · exact fun part => absurd part inert.no_getData
    · exact fun part => absurd part inert.no_setData
    · exact fun part => absurd part inert.no_modifyData
    · exact fun _ _ => trivial
    · exact fun part => absurd part inert.no_memoize
    · exact fun part => absurd part inert.no_reference
  exact runWith_coupled grammar [] upholds ()

theorem Inert.oblivious (inert : Inert grammar) : Oblivious (grammar.run resolve) := by
  have coupled (data : Payload) (session : Session ι Payload (Recall ι Leaf)) :
      Coupled (repaid data session.reach session.table) [] (grammar.run resolve)
        (grammar.run resolve) :=
    inert.coupled
  constructor
  · intro cursor data session session' same
    obtain ⟨paired, _⟩ := coupled data session cursor _ session session' rfl ⟨rfl, same.symm, rfl⟩
    generalize (grammar.run resolve cursor session).1 = reply at paired ⊢
    generalize (grammar.run resolve (cursor.withData data) session').1 = reply' at paired ⊢
    cases paired with
    | done ends =>
      cases ends.place
      rfl
    | fail => rfl
    | halt _ => rfl
  · intro cursor session
    exact (coupled cursor.data session cursor cursor session session rfl ⟨rfl, rfl, rfl⟩).2.2.2
  · intro cursor session
    exact (coupled cursor.data session cursor cursor session session rfl ⟨rfl, rfl, rfl⟩).2.1

section Calls

variable {metric : Metric ι} {items : List ι} {filters : List (Filter ι)} {number : Nat}
  {cursors : List (Cursor ι Payload)} {session : Session ι Payload (Recall ι Leaf)}

/-- The cursors stand in one sequence behind the same filters, and the table is within reach. -/
def Within (metric : Metric ι) (items : List ι) (filters : List (Filter ι))
    (cursors : List (Cursor ι Payload)) : Prop :=
  ∀ cursor ∈ cursors, cursor.Over metric items ∧ cursor.filters = filters ∧ cursor.data.linked

omit [Lexicon ι Leaf] [UniformLexicon ι Leaf] in
theorem Within.alike (within : Within metric items filters cursors) :
    ∀ first ∈ cursors, ∀ cursor ∈ cursors, first.position = cursor.position →
      first = cursor.withData first.data := by
  intro first earlier cursor member level
  obtain ⟨lies, behind, _⟩ := within first earlier
  obtain ⟨lies', behind', _⟩ := within cursor member
  exact lies.eq_withData lies' (behind.trans behind'.symm) level

/-- Calls of one memoized parser anywhere in one text, with any payloads that reach the table: each
replies as the parser itself does, but with the payload of the first call at its position. -/
theorem successive_cached (inert : Inert grammar) (within : Within metric items filters cursors)
    (live : ∃ table, session.table = some table)
    (fresh : ∀ position, session.recalled position (.parser number) = none) :
    successive ((memoize false (.parser number) grammar : Built ι Leaf).run resolve) cursors
        session =
      cursors.map fun cursor => (grammar.run resolve cursor session).1.carrying
        ((Cursor.earliest cursor.position cursors).getD cursor).data := by
  have oblivious : Oblivious (grammar.run resolve) := inert.oblivious
  have remembers : Remembers (grammar.run resolve) (.parser number) session [] session :=
    ⟨live, rfl, fresh⟩
  exact remembers.calls oblivious cursors (fun cursor member => (within cursor member).2.2)
    within.alike

/-- Memoizing a parser that leaves the payload alone makes no difference to any of its calls if and
only if the calls that succeed at one position have one payload. -/
theorem successive_cached_eq_iff (inert : Inert grammar)
    (within : Within metric items filters cursors) (live : ∃ table, session.table = some table)
    (fresh : ∀ position, session.recalled position (.parser number) = none) :
    successive ((memoize false (.parser number) grammar : Built ι Leaf).run resolve) cursors
          session =
        cursors.map (fun cursor => (grammar.run resolve cursor session).1) ↔
      ∀ cursor ∈ cursors, ∀ other ∈ cursors, cursor.position = other.position →
        (∃ value rest, (grammar.run resolve cursor session).1 = .done value rest) →
          cursor.data = other.data := by
  have oblivious : Oblivious (grammar.run resolve) := inert.oblivious
  rw [successive_cached inert within live fresh]
  exact oblivious.map_carrying_eq_iff within.alike

end Calls

def blank : Session Char Payload (Recall Char TextLeaf) := .new (some .empty) ⟨1, ∅, []⟩

theorem inert_letter : Inert (.leaf .letter : Built Char TextLeaf) := by
  constructor
  all_goals
    intros
    intro part
    cases part with
    | inside child => cases child

/-- One payload at each of two positions. -/
theorem successive_cached_letters :
    successive ((memoize false (.parser 0) (.leaf .letter) : Built Char TextLeaf).run
        fun _ => Parser.constant .unit)
      [.ofText "ab" ⟨true, 7⟩, (Cursor.ofText "ab" ⟨true, 0⟩).skip 1] blank =
    [.ofText "ab" ⟨true, 7⟩, (Cursor.ofText "ab" ⟨true, 0⟩).skip 1].map fun cursor =>
      ((.leaf .letter : Built Char TextLeaf).run (fun _ => Parser.constant .unit) cursor
        blank).1 := by
  have within : Within .utf8 "ab".toList []
      [.ofText "ab" ⟨true, 7⟩, (Cursor.ofText "ab" ⟨true, 0⟩).skip 1] := by
    intro cursor member
    simp only [List.mem_cons, List.not_mem_nil, or_false] at member
    rcases member with rfl | rfl <;> exact ⟨⟨rfl, rfl⟩, rfl, rfl⟩
  apply (successive_cached_eq_iff inert_letter within ⟨.empty, rfl⟩ fun _ => rfl).mpr
  intro cursor member other among level
  simp only [List.mem_cons, List.not_mem_nil, or_false] at member among
  rcases member with rfl | rfl <;> rcases among with rfl | rfl
  · exact fun _ => rfl
  · cases level
  · cases level
  · exact fun _ => rfl

/-- Two payloads at one position: the second call ends with that of the first. -/
theorem successive_cached_letter_ne :
    successive ((memoize false (.parser 0) (.leaf .letter) : Built Char TextLeaf).run
        fun _ => Parser.constant .unit)
      [.ofText "a" ⟨true, 7⟩, .ofText "a" ⟨true, 0⟩] blank ≠
    [.ofText "a" ⟨true, 7⟩, .ofText "a" ⟨true, 0⟩].map fun cursor =>
      ((.leaf .letter : Built Char TextLeaf).run (fun _ => Parser.constant .unit) cursor
        blank).1 := by
  intro same
  have numbers := congrArg (List.map fun reply => match reply with
    | Reply.done _ rest => some rest.data.value
    | _ => none) same
  revert numbers
  decide +kernel

end Packrat.Grammar
