import Packrat.Proofs.Grammar.Contract
import Packrat.Proofs.Grammar.Deferral
import Packrat.Proofs.Memo.Correspondence
import Packrat.Text.Cursor

/-! What the payload has no part in. Two runs of a grammar that does not read the payload, from
cursors that differ in nothing else, go the same way; the table gets the same entries in both, though
the cursors cached in it carry the payloads of their own run. -/

namespace Packrat

open Packrat.Parser

variable {ι δ : Type} {M : Memory}

/-- One place in one text, with payloads that are alike. -/
inductive Cursor.Twin (alike : δ → δ → Prop) (cursor : Cursor ι δ) : Cursor ι δ → Prop where
  | payload {other : δ} (like : alike cursor.data other) : Twin alike cursor (cursor.withData other)

theorem Cursor.Twin.position_eq {alike : δ → δ → Prop} {cursor cursor' : Cursor ι δ}
    (twin : cursor.Twin alike cursor') : cursor'.position = cursor.position := by
  cases twin
  rfl

theorem Cursor.Twin.type_eq {alike : δ → δ → Prop} {cursor cursor' : Cursor ι δ}
    (twin : cursor.Twin alike cursor') : cursor'.type = cursor.type := by
  cases twin
  rfl

/-- Outcomes of one value on twin cursors, or of one error. -/
def Memo.Twin {ε α : Type} (alike : δ → δ → Prop) (outcome outcome' : Except ε (α × Cursor ι δ)) :
    Prop :=
  Paired (Cursor.Twin alike) (fun _ => True) (Reply.ofOutcome outcome) (Reply.ofOutcome outcome')

theorem Memo.Twin.succeeded_eq {ε α : Type} {alike : δ → δ → Prop}
    {outcome outcome' : Except ε (α × Cursor ι δ)} (twin : Memo.Twin alike outcome outcome') :
    Memo.succeeded outcome = Memo.succeeded outcome' := by
  unfold Memo.Twin at twin
  cases outcome <;> cases outcome' <;> first | rfl | cases twin

/-- Sessions that differ in nothing but the payloads of the cursors they have cached. -/
structure Session.Twin (alike : δ → δ → Prop) (session session' : Session ι δ M) : Prop where
  table : Option.Rel (Memo.Table.Corresponds (Memo.Twin alike)) session.table session'.table
  log_eq : session.log = session'.log
  reach_eq : session.reach = session'.reach
  extra_eq : session.extra = session'.extra

theorem Session.Twin.note {alike : δ → δ → Prop} {session session' : Session ι δ M}
    (twin : session.Twin alike session') (event : Event) :
    (session.note event).Twin alike (session'.note event) :=
  ⟨twin.table, congrArg (event :: ·) twin.log_eq, twin.reach_eq, twin.extra_eq⟩

namespace Parser

/-- Twin cursors and twin sessions, where the grammar's own state has a property. -/
def twins (alike : δ → δ → Prop) (property : M.Extra → Prop) : Coupling ι δ M where
  cursors _ := Cursor.Twin alike
  sessions session session' := session.Twin alike session' ∧ property session.extra
  causes _ := True
  admits _ := True
  onward := False

variable {alike : δ → δ → Prop} {property : M.Extra → Prop} {filters : List (Filter ι)}

theorem twins_stable : (twins alike property : Coupling ι δ M).Stable where
  advance place := by
    cases place with
    | payload like =>
      exact shown_of_same rfl (fun _ => rfl) (fun _ _ _ => trivial) fun _ _ _ => .payload like
  ordinary _ := trivial
  total _ := trivial
  filtered place _ := by
    cases place with
    | payload like => exact .payload like
  unfiltered place := by
    cases place with
    | payload like => exact .payload like
  rounds coupled := by
    apply coupled.rounds_of_level
    · rintro cursor _ ⟨like⟩
      rfl
    · exact fun _ _ shared => shared.1.reach_eq
    · exact fun _ _ shared event => ⟨shared.1.note event, shared.2⟩
    · trivial

theorem coupled_setData_twins {ε : Type} {data : δ} (like : alike data data) :
    Coupled (twins alike property) filters (setData data : Parser ι δ M ε Unit) (setData data) := by
  apply coupled_setData
  rintro cursor _ ⟨_⟩
  exact .payload like

theorem Coupled.runAndStore_twins {parser parser' : Parser ι δ M M.Failure M.Value}
    (coupled : Coupled (twins alike property) filters parser parser') (key : Memo.Key) :
    Coupled (twins alike property) filters (runAndStore key parser) (runAndStore key parser') := by
  intro cursor cursor' session session' place shared
  obtain ⟨paired, kept, holds⟩ := coupled cursor cursor' session session' place shared
  simp only [runAndStore_eq]
  rcases answer : parser cursor session with ⟨reply, later⟩
  rcases answer' : parser' cursor' session' with ⟨reply', later'⟩
  simp only [answer, answer', place.position_eq, place.type_eq] at paired kept holds ⊢
  have tables := kept.table
  generalize held : later.table = table, held' : later'.table = table' at tables
  cases tables with
  | none =>
    cases reply.outcome? <;> cases reply'.outcome? <;> exact ⟨paired, kept, holds⟩
  | @some table table' corresponds =>
    rcases reply.outcome_or_halt with ⟨outcome, rfl⟩ | ⟨cause, rfl⟩
    · rcases reply'.outcome_or_halt with ⟨outcome', rfl⟩ | ⟨cause', rfl⟩
      · have alike : Memo.Twin alike outcome outcome' := paired.mono fun _ _ ends => ends.place
        simp only [Reply.outcome?_ofOutcome]
        rcases corresponds.store (fun _ _ => Memo.Twin.succeeded_eq) cursor.position key
            cursor.type alike with
          ⟨violation, refused, refused'⟩ | ⟨stored, stored', accepted, accepted', again⟩
        · simp only [refused, refused']
          exact ⟨.halt trivial, kept, holds⟩
        · simp only [accepted, accepted']
          exact ⟨paired, ⟨.some again, kept.log_eq, kept.reach_eq, kept.extra_eq⟩, holds⟩
      · cases outcome <;> cases paired
    · cases paired with
      | halt blamed => exact ⟨.halt blamed, kept, holds⟩

/-- Where the payload decides alike whether the table is in reach, twin runs are cached as twins. -/
theorem Coupled.memoize_twins {reaches : δ → Bool}
    (level : ∀ data other, alike data other → reaches data = reaches other) {key : Memo.Key}
    {replace : Bool} {parser parser' : Parser ι δ M M.Failure M.Value}
    (coupled : Coupled (twins alike property) filters parser parser') :
    Coupled (twins alike property) filters (memoize reaches key replace parser)
      (memoize reaches key replace parser') := by
  have stores := coupled.runAndStore_twins key
  intro cursor cursor' session session' place shared
  obtain ⟨twin, holds⟩ := shared
  have like : reaches cursor.data = reaches cursor'.data := by
    cases place with
    | payload like => exact level _ _ like
  unfold memoize
  rw [← like]
  cases reaches cursor.data with
  | false => exact coupled _ _ _ _ place ⟨twin.note _, holds⟩
  | true =>
    have tables := twin.table
    generalize held : session.table = table, held' : session'.table = table' at tables
    cases tables with
    | none => exact coupled _ _ _ _ place ⟨twin.note _, holds⟩
    | @some table table' corresponds =>
      have entries := corresponds.find? cursor.position key
      simp only [if_true, Memo.Table.lookup, place.position_eq, place.type_eq]
      generalize table.find? cursor.position key = found,
        table'.find? cursor.position key = found' at entries
      cases entries with
      | none => exact stores _ _ _ _ place ⟨twin, holds⟩
      | @some entry entry' same =>
        simp only [← same.type_eq]
        by_cases typed : entry.type = cursor.type
        · simp only [if_pos typed, ← same.outcome.succeeded_eq]
          split
          · exact ⟨same.outcome.mono fun _ _ twin => ⟨twin, False.elim⟩, twin.note _, holds⟩
          · exact stores _ _ _ _ place ⟨twin.note _, holds⟩
        · simp only [if_neg typed]
          exact ⟨.halt trivial, twin, holds⟩

end Parser

namespace Grammar

variable {ι Leaf κ ρ : Type} {alike : Payload → Payload → Prop}

/-- The grammar does not read the payload, neither to have it as a value nor to modify it. -/
structure Unread (grammar : Grammar ι Leaf κ ρ) : Prop where
  getData : ∀ filters, ¬ Part grammar filters .getData
  modifyData : ∀ filters f, ¬ Part grammar filters (.modifyData f)

def Unset (grammar : Grammar ι Leaf κ ρ) : Prop :=
  ∀ filters data, ¬ Part grammar filters (.setData data)

/-- The grammar does not read the payload, and what it sets the payload to is like itself. -/
structure Indifferent (alike : Payload → Payload → Prop) (grammar : Grammar ι Leaf κ ρ) : Prop
    extends Unread grammar where
  setData : ∀ filters data, Part grammar filters (.setData data) → alike data data

/-- All deferred parsers built so far have the property. -/
def Workshop.Throughout (property : Built ι Leaf → Prop) (workshop : Workshop ι Leaf) : Prop :=
  ∀ (id : Nat) held, workshop.built[id]? = some held → property held

theorem Workshop.Throughout.insert {property : Built ι Leaf → Prop} {workshop : Workshop ι Leaf}
    (throughout : workshop.Throughout property) {parser : Built ι Leaf} (holds : property parser)
    (id next : Nat) :
    Workshop.Throughout property
      { workshop with nextId := next, built := workshop.built.insert id parser } := by
  intro other held found
  rw [Std.TreeMap.getElem?_insert] at found
  split at found
  · cases found
    exact holds
  · exact throughout other held found

variable [Lexicon ι Leaf] [UniformLexicon ι Leaf] {library : Library ι Leaf}

/-- Runs of indifferent grammars go the same way, with the rules they build on the way. -/
theorem runWithin_twins (linked : ∀ data other, alike data other → data.linked = other.linked)
    (rules : ∀ rule start parser next, library.buildRule rule start = .ok (parser, next) →
      Indifferent alike parser) (depth : Nat) :
    ∀ grammar filters, Indifferent alike grammar →
      Coupled (twins alike (Workshop.Throughout (Indifferent alike))) filters
        (runWithin library depth grammar) (runWithin library depth grammar) := by
  have upholds {grammar : Built ι Leaf} {filters : List (Filter ι)}
      {resolve : Deferred → Rule ι Leaf} (indifferent : Indifferent alike grammar)
      (reference : ∀ target filters,
        Coupled (twins alike (Workshop.Throughout (Indifferent alike))) filters (resolve target)
          (resolve target)) :
      Upholds (fun _ : Unit => twins alike (Workshop.Throughout (Indifferent alike))) cached cached
        resolve resolve filters grammar := by
    constructor
    · exact fun _ => twins_stable
    · rintro _ session session' ⟨twin, throughout⟩ name
      refine ⟨⟨twin.table, twin.log_eq, twin.reach_eq, ?_⟩, throughout⟩
      simp only [twin.extra_eq]
    · exact fun _ => UniformLexicon.coupled _ twins_stable
    · rintro _ _ _ _ _ cursor _ ⟨_⟩
      rfl
    · exact fun part => absurd part (indifferent.getData _)
    · exact fun part _ => coupled_setData_twins (indifferent.setData _ _ part)
    · exact fun part => absurd part (indifferent.modifyData _ _)
    · exact fun _ _ => trivial
    · exact fun _ coupled _ => (coupled ()).memoize_twins linked
    · exact fun _ _ => reference _ _
  induction depth with
  | zero =>
    intro grammar filters indifferent
    exact runWith_coupled grammar filters (upholds indifferent fun _ _ => coupled_halt trivial) ()
  | succ depth ih =>
    intro grammar filters indifferent
    refine runWith_coupled grammar filters (upholds indifferent fun target filters => ?_) ()
    rintro cursor cursor' session session' place ⟨twin, throughout⟩
    dsimp only
    rw [← twin.extra_eq]
    split
    · rename_i held found
      exact ih held filters (throughout _ _ found) _ _ _ _ place ⟨twin, throughout⟩
    · have noted := twin.note .deferredBuilt
      have extra_eq : (session'.note .deferredBuilt).extra = (session.note .deferredBuilt).extra :=
        noted.extra_eq.symm
      rw [extra_eq]
      split
      · exact ⟨.halt trivial, noted, throughout⟩
      · rename_i parser next built
        have holds := rules _ _ _ _ built
        refine ih parser filters holds _ _ _ _ place ⟨?_, throughout.insert holds _ _⟩
        exact ⟨noted.table, noted.log_eq, noted.reach_eq, rfl⟩

section Benches

variable {rules shared : List (String × Blueprint ι Leaf)} {blueprint : Blueprint ι Leaf}
  {table : Bool} {bench : Bench ι Leaf}

/-- On a new bench, runs from payloads that are alike reply alike and leave twin sessions. -/
theorem parse_twins (assembled : Bench.assemble rules shared blueprint table = .ok bench)
    (linked : ∀ data other, alike data other → data.linked = other.linked)
    (indifferent : bench.Throughout (Indifferent alike)) (cursor : Cursor ι Payload)
    (data other : Payload) (like : alike data other) :
    Paired (Cursor.Twin alike) (fun _ => True) (bench.parse (cursor.withData data)).1
        (bench.parse (cursor.withData other)).1 ∧
      (bench.parse (cursor.withData data)).2.session.Twin alike
        (bench.parse (cursor.withData other)).2.session := by
  have fresh : bench.session.Twin alike bench.session ∧
      bench.session.extra.Throughout (Indifferent alike) := by
    obtain ⟨_, _, _, _, _, _, rfl⟩ := assemble_ok assembled
    refine ⟨⟨?_, rfl, rfl, rfl⟩, fun id held found => ?_⟩
    · cases table with
      | false => exact .none
      | true => exact .some Memo.Table.corresponds_empty
    · simp [Session.new] at found
  have roomy : (bench.session.makeRoom (cursor.withData data)).Twin alike
      (bench.session.makeRoom (cursor.withData other)) :=
    ⟨fresh.1.table, fresh.1.log_eq, rfl, fresh.1.extra_eq⟩
  obtain ⟨paired, twin, _⟩ := runWithin_twins linked indifferent.rules recursionLimit bench.parser []
    indifferent.parser (cursor.withData data) (cursor.withData other) _ _ (.payload like)
    ⟨roomy, fresh.2⟩
  exact ⟨paired.mono fun _ _ ends => ends.place, twin⟩

/-- A grammar that does not read the payload parses the same whatever integer the payload has. Two
runs break off for the same cause, fail with the same error, or succeed with the same value at the
same place, and the same keys are held at the same positions with the same marks. If the grammar does
not set the payload either, a run that succeeds ends with the payload it started with. -/
theorem parse_of_unread (assembled : Bench.assemble rules shared blueprint table = .ok bench)
    (unread : bench.Throughout Unread) (cursor : Cursor ι Payload) (linked : Bool)
    (integer integer' : Int) :
    let run := bench.parse (cursor.withData ⟨linked, integer⟩)
    let run' := bench.parse (cursor.withData ⟨linked, integer'⟩)
    Paired (fun rest rest' => rest.position = rest'.position ∧ ∃ data, rest' = rest.withData data)
        (fun _ => True) run.1 run'.1 ∧
      run.2.session.table.map Memo.Table.marks = run'.2.session.table.map Memo.Table.marks ∧
      (bench.Throughout Unset →
        ∀ value rest, run.1 = .done value rest → rest.data = ⟨linked, integer⟩) := by
  intro run run'
  have indifferent : bench.Throughout (Indifferent fun data other => data.linked = other.linked) :=
    ⟨⟨unread.parser, fun _ _ _ => rfl⟩, fun _ _ _ _ built => ⟨unread.rules _ _ _ _ built,
      fun _ _ _ => rfl⟩⟩
  obtain ⟨paired, twin⟩ := parse_twins assembled (fun _ _ same => same) indifferent cursor
    ⟨linked, integer⟩ ⟨linked, integer'⟩ rfl
  refine ⟨paired.mono ?_, ?_, fun unset value rest success => ?_⟩
  · rintro rest _ ⟨_⟩
    exact ⟨rfl, _, rfl⟩
  · have tables := twin.table
    change run.2.session.table.map _ = run'.2.session.table.map _
    generalize run.2.session.table = held, run'.2.session.table = held' at tables
    cases tables with
    | none => rfl
    | some corresponds =>
      exact congrArg some (corresponds.marks_eq fun _ _ => Memo.Twin.succeeded_eq)
  -- The payload is kept because a run is its own twin where only the first payload is like itself.
  · have still : bench.Throughout (Indifferent fun data other =>
        data = ⟨linked, integer⟩ ∧ other = ⟨linked, integer⟩) :=
      ⟨⟨unread.parser, fun _ _ part => absurd part (unset.parser _ _)⟩, fun _ _ _ _ built =>
        ⟨unread.rules _ _ _ _ built, fun _ _ part => absurd part (unset.rules _ _ _ _ built _ _)⟩⟩
    obtain ⟨paired, _⟩ := parse_twins assembled (fun _ _ same => by rw [same.1, same.2]) still
      cursor _ _ ⟨rfl, rfl⟩
    change Paired _ _ run.1 run.1 at paired
    rw [success] at paired
    obtain ⟨_, ⟨same⟩⟩ := paired.of_done
    exact same.1

end Benches

theorem unread_builtNamesakes : Unread builtNamesakes := by
  constructor
  · intro _ part
    rcases (part_builtNamesakes part).2 with same | ⟨_, rfl | rfl, same | ⟨_, same⟩⟩ <;> cases same
  · intro _ _ part
    rcases (part_builtNamesakes part).2 with same | ⟨_, rfl | rfl, same | ⟨_, same⟩⟩ <;> cases same

/-- A letter and a parser that sets the payload, cached under one name. -/
theorem parse_of_unread_namesakes :
    ∃ bench, Bench.assemble [] [] namesakes true = .ok bench ∧ bench.Throughout Unread ∧
      (bench.parse (.ofText "ab" ⟨true, 3⟩)).2.session.table.map Memo.Table.marks =
        (bench.parse (.ofText "ab" ⟨true, -5⟩)).2.session.table.map Memo.Table.marks := by
  let bench : Bench Char TextLeaf :=
    ⟨⟨[], []⟩, builtNamesakes, .new (some .empty) ⟨2, ∅, []⟩⟩
  have assembled : Bench.assemble [] [] namesakes true = .ok bench := rfl
  have unread : bench.Throughout Unread := by
    refine ⟨unread_builtNamesakes, fun rule start parser next built => ?_⟩
    cases built
  exact ⟨bench, assembled, unread,
    (parse_of_unread assembled unread (.ofText "ab" ⟨true, 3⟩) true 3 (-5)).2.1⟩

end Grammar

end Packrat
