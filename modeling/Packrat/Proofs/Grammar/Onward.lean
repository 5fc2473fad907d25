import Packrat.Proofs.Grammar.Agreement
import Packrat.Proofs.Grammar.Construction
import Packrat.Proofs.Parser.Memoization
import Packrat.Proofs.Standing
import Packrat.Text.Cursor

/-! Parsers never go back. A cached success ends on a cursor made elsewhere, so this holds together
with the table: what is cached at a position ends at that position or behind it. -/

namespace Packrat

open Packrat.Parser

variable {ι δ : Type} {M : Memory}

/-- Every success cached at a position ends there or behind it, on a cursor with the property. -/
def Session.Onward (property : Cursor ι δ → Prop) (session : Session ι δ M) : Prop :=
  ∀ table, session.table = some table → ∀ position, ∀ entry ∈ table.bucket position,
    ∀ value rest, entry.outcome = .ok (value, rest) → position ≤ rest.position ∧ property rest

/-- No parser takes the property from a cursor. -/
structure Cursor.Lasting (property : Cursor ι δ → Prop) : Prop where
  past : property cursor → cursor.ahead = item :: rest → property (cursor.past item rest)
  filtered : property cursor → ∀ filter, property (cursor.filtered filter)
  unfiltered : property cursor → property cursor.unfiltered
  withData : property cursor → ∀ data, property (cursor.withData data)

theorem Cursor.lasting_over (metric : Metric ι) (items : List ι) :
    Cursor.Lasting fun cursor : Cursor ι δ => cursor.Over metric items where
  past lies ahead := lies.past ahead
  filtered lies _ := ⟨lies.metric_eq, lies.source_eq⟩
  unfiltered lies := ⟨lies.metric_eq, lies.source_eq⟩
  withData lies _ := ⟨lies.metric_eq, lies.source_eq⟩

namespace Parser

/-- One session without cached successes that go back, and cursors with the property that are not
before a position. -/
def onward (property : Cursor ι δ → Prop) (position : Nat) : Accord ι δ M where
  cursors _ cursor := position ≤ cursor.position ∧ property cursor
  sessions session session' := session = session' ∧ session.Onward property

variable {property : Cursor ι δ → Prop} {key : Memo.Key} {cursor : Cursor ι δ}

theorem onward_stable (lasting : Cursor.Lasting property) (position : Nat) :
    (onward property position : Accord ι δ M).Stable where
  reach_eq shared := congrArg Session.reach shared.1
  note shared event := ⟨congrArg (Session.note · event) shared.1, shared.2⟩
  past place ahead :=
    ⟨Nat.le_trans place.1 (Nat.le_of_lt (Cursor.position_lt_past ..)), lasting.past place.2 ahead⟩
  filtered place filter := ⟨place.1, lasting.filtered place.2 filter⟩
  unfiltered place := ⟨place.1, lasting.unfiltered place.2⟩

/-- The reply does not go back behind a position, and ends with the property. -/
def Proceeds (property : Cursor ι δ → Prop) (position : Nat)
    (result : Reply (Cursor ι δ) M.Failure M.Value × Session ι δ M) : Prop :=
  (∀ value rest, result.1 = .done value rest → position ≤ rest.position ∧ property rest) ∧
    result.2.Onward property

theorem Proceeds.caches (caches : Caches key cursor run result)
    (proceeds : Proceeds property cursor.position run) :
    Proceeds property cursor.position result := by
  cases caches with
  | halted => exact proceeds
  | tableless none => exact proceeds
  | @stored session outcome table stored shared accepted =>
    refine ⟨proceeds.1, ?_⟩
    rintro _ ⟨⟩ position entry member value rest success
    rcases Memo.Table.mem_bucket_store accepted member with ⟨rfl, same⟩ | member
    · exact proceeds.1 value rest (by rw [← same, success]; rfl)
    · exact proceeds.2 _ shared position entry member value rest success
  | refused shared rejected => exact ⟨nofun, proceeds.2⟩

theorem agree_memoize {reaches : δ → Bool} {replace : Bool}
    {parser : Parser ι δ M M.Failure M.Value} {filters : List (Filter ι)}
    (agree : ∀ position, Agree (onward property position) filters parser parser) (position : Nat) :
    Agree (onward property position) filters (memoize reaches key replace parser)
      (memoize reaches key replace parser) := by
  rintro cursor session _ ⟨far, holds⟩ ⟨rfl, kept⟩
  have proceed (later : Session ι δ M) (kept : later.Onward property) :
      Proceeds property cursor.position (parser cursor later) := by
    obtain ⟨_, sessions, within⟩ :=
      agree cursor.position cursor later later ⟨Nat.le_refl _, holds⟩ ⟨rfl, kept⟩
    exact ⟨within, sessions.2⟩
  have memoizes := memoizes_memoize reaches key replace parser cursor session
  have proceeds : Proceeds property cursor.position
      (memoize reaches key replace parser cursor session) := by
    generalize memoize reaches key replace parser cursor session = result at memoizes ⊢
    cases memoizes with
    | unreachable => exact proceed _ kept
    | mismatched found other => exact ⟨nofun, kept⟩
    -- The stream of a hit was made elsewhere: where it stands is known from the table alone.
    | hit found same =>
      obtain ⟨table, shared, found⟩ := Session.table_of_recalled found
      refine ⟨fun value rest success => ?_, kept⟩
      exact kept table shared _ _ (List.mem_of_find?_eq_some found) value rest
        (Reply.ofOutcome_eq_done.mp success)
    | missed absent caches => exact .caches caches (proceed session kept)
    | replaced found failed replacing caches => exact .caches caches (proceed _ kept)
  refine ⟨rfl, ⟨rfl, proceeds.2⟩, fun value rest done => ?_⟩
  obtain ⟨later, holds⟩ := proceeds.1 value rest done
  exact ⟨Nat.le_trans far later, holds⟩

end Parser

namespace Grammar

variable {ι Leaf : Type}

inductive Bench.Step (ι : Type) where
  | parse (cursor : Cursor ι Payload)
  | clear
  | drop

def Bench.perform [Lexicon ι Leaf] (bench : Bench ι Leaf) : Bench.Step ι → Bench ι Leaf
  | .parse cursor => (bench.parse cursor).2
  | .clear => bench.clearTable
  | .drop => bench.dropTable

variable [Lexicon ι Leaf] [LawfulLexicon ι Leaf] {property : Cursor ι Payload → Prop}

theorem runWithin_onward (lasting : Cursor.Lasting property) (library : Library ι Leaf)
    (depth : Nat) : ∀ grammar filters position,
      Agree (onward property position) filters (runWithin library depth grammar)
        (runWithin library depth grammar) := by
  have supports {grammar : Built ι Leaf} {filters} {resolve : Deferred → Rule ι Leaf}
      (reference : ∀ target filters position,
        Agree (onward property position) filters (resolve target) (resolve target)) :
      Supports (onward property) cached cached resolve resolve filters grammar := by
    constructor
    · exact onward_stable lasting
    · rintro position session _ ⟨rfl, kept⟩ name
      exact ⟨rfl, kept⟩
    · exact fun _ position cursor place => ⟨place.1, lasting.withData place.2 _⟩
    · exact fun _ position cursor data place => ⟨place.1, lasting.withData place.2 data⟩
    · exact fun _ agree => agree_memoize agree
    · exact fun _ position => reference _ _ position
  induction depth with
  | zero =>
    intro grammar filters
    exact runWith_agree grammar filters (supports fun _ _ _ => agree_halt _)
  | succ depth ih =>
    intro grammar filters
    refine runWith_agree grammar filters (supports ?_)
    rintro deferred filters position cursor session _ place ⟨rfl, kept⟩
    dsimp only
    split
    · exact ih _ _ _ cursor session session place ⟨rfl, kept⟩
    · split
      · exact ⟨rfl, ⟨rfl, kept⟩, nofun⟩
      · exact ih _ _ _ cursor _ _ place ⟨rfl, kept⟩

omit [Lexicon ι Leaf] [LawfulLexicon ι Leaf] in
theorem onward_of_empty {session : Session ι Payload (Recall ι Leaf)}
    (empty : ∀ table, session.table = some table → table = .empty) : session.Onward property := by
  intro table shared position entry member
  cases empty table shared
  rw [Memo.Table.bucket_empty] at member
  cases member

omit [LawfulLexicon ι Leaf] in
theorem onward_assemble {rules shared : List (String × Blueprint ι Leaf)}
    {blueprint : Blueprint ι Leaf} {table : Bool} {bench : Bench ι Leaf}
    (assembled : Bench.assemble rules shared blueprint table = .ok bench) :
    bench.session.Onward property := by
  obtain ⟨_, _, _, _, _, _, rfl⟩ := assemble_ok assembled
  refine onward_of_empty fun held present => ?_
  cases table with
  | false => cases present
  | true => exact (Option.some.inj present).symm

theorem onward_perform {bench : Bench ι Leaf} (onward : bench.session.Onward fun _ => True)
    (step : Bench.Step ι) : (bench.perform step).session.Onward fun _ => True := by
  cases step with
  | parse cursor =>
    have lasting : Cursor.Lasting fun _ : Cursor ι Payload => True := by constructor <;> simp
    obtain ⟨_, kept, _⟩ := runWithin_onward lasting bench.library recursionLimit bench.parser []
      cursor.position cursor (bench.session.makeRoom cursor) _ ⟨Nat.le_refl _, trivial⟩
      ⟨rfl, onward⟩
    exact kept.2
  | clear =>
    refine onward_of_empty fun table present => ?_
    obtain ⟨_, _, same⟩ := Option.map_eq_some_iff.mp present
    exact same.symm
  | drop => exact onward_of_empty nofun

theorem onward_steps {bench : Bench ι Leaf} (onward : bench.session.Onward fun _ => True)
    (steps : List (Bench.Step ι)) :
    (steps.foldl Bench.perform bench).session.Onward fun _ => True := by
  induction steps generalizing bench with
  | nil => exact onward
  | cons step steps ih => exact ih (onward_perform onward step)

/-- No success ends before its start, and no run leaves one in the table that does: neither one run
in a table of any origin, nor the runs of a bench from one text to the next. In a table of one text,
all successes end inside that text. -/
theorem success_never_goes_back (library : Library ι Leaf) (depth : Nat) (grammar : Built ι Leaf)
    (cursor : Cursor ι Payload) (session : Session ι Payload (Recall ι Leaf))
    (onward : session.Onward fun _ => True) :
    ((∀ value rest, (runWithin library depth grammar cursor session).1 = .done value rest →
        cursor.position ≤ rest.position) ∧
      (runWithin library depth grammar cursor session).2.Onward fun _ => True) ∧
    (∀ metric items, cursor.Over metric items →
      (session.Onward fun rest => rest.Over metric items) →
      (∀ value rest, (runWithin library depth grammar cursor session).1 = .done value rest →
          rest.Inside metric items) ∧
        (runWithin library depth grammar cursor session).2.Onward fun rest =>
          rest.Inside metric items) ∧
    ∀ (rules shared : List (String × Blueprint ι Leaf)) (blueprint : Blueprint ι Leaf) table bench,
      Bench.assemble rules shared blueprint table = .ok bench →
      ∀ steps : List (Bench.Step ι),
        (steps.foldl Bench.perform bench).session.Onward fun _ => True := by
  refine ⟨?_, ?_, ?_⟩
  · have lasting : Cursor.Lasting fun _ : Cursor ι Payload => True := by constructor <;> simp
    obtain ⟨_, kept, within⟩ := runWithin_onward lasting library depth grammar [] cursor.position
      cursor session session ⟨Nat.le_refl _, trivial⟩ ⟨rfl, onward⟩
    exact ⟨fun value rest done => (within value rest done).1, kept.2⟩
  · intro metric items lies covered
    obtain ⟨_, kept, within⟩ := runWithin_onward (Cursor.lasting_over metric items) library depth
      grammar [] cursor.position cursor session session ⟨Nat.le_refl _, lies⟩ ⟨rfl, covered⟩
    refine ⟨fun value rest done => (within value rest done).2.inside, ?_⟩
    intro table shared position entry member value rest success
    obtain ⟨later, lies⟩ := kept.2 table shared position entry member value rest success
    exact ⟨later, lies.inside⟩
  · intro rules shared blueprint table bench assembled steps
    exact onward_steps (onward_assemble assembled) steps

theorem success_never_goes_back_at_b :
    (Session.new (some .empty) ⟨0, ∅, []⟩ : Session Char Payload (Recall Char TextLeaf)).Onward
        (fun _ => True) ∧
      ∀ value rest, (runWithin ⟨[], []⟩ 1 (.memoize false (.named "letter") (.leaf .letter))
          ((Cursor.ofText "ab" ⟨true, 0⟩).skip 1)
          (Session.new (some .empty) ⟨0, ∅, []⟩ : Session Char Payload (Recall Char TextLeaf))).1 =
            .done value rest → 1 ≤ rest.position := by
  have onward : (Session.new (some .empty) ⟨0, ∅, []⟩ :
      Session Char Payload (Recall Char TextLeaf)).Onward (fun _ => True) :=
    onward_of_empty fun _ present => (Option.some.inj present).symm
  exact ⟨onward, (success_never_goes_back _ _ _ _ _ onward).1.1⟩

end Grammar

end Packrat
