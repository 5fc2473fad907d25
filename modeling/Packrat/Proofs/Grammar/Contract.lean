import Packrat.Proofs.Grammar.Erasure
import Packrat.Proofs.Grammar.Onward

/-! The contract of the table. Between the lookup and the store of a memoized parser lies a run that
may fill the table itself. As long as it cannot come by the same key, and every key is used on views
of one type, no success is ever replaced and no outcome is found at another type. -/

namespace Packrat

open Packrat.Parser

variable {ι δ : Type}

/-- A filter that refuses an item does not blame the table for it. -/
def Impartial (filter : Filter ι) : Prop :=
  ∀ item violation, filter.image item = .error violation → ¬ violation.OfTable

/-- The cursor is on a view of this type, and none of its filters blames the table. -/
structure Cursor.Through (view : ViewType) (cursor : Cursor ι δ) : Prop where
  type_eq : cursor.type = view
  impartial : ∀ filter ∈ cursor.filters, Impartial filter

namespace Cursor.Through

variable {view : ViewType} {cursor : Cursor ι δ}

theorem read (through : cursor.Through view) {item : ι} {violation : Violation}
    (refused : cursor.read item = .error violation) : ¬ violation.OfTable := by
  have impartial := through.impartial
  unfold Cursor.read at refused
  generalize cursor.filters = filters at impartial refused
  induction filters generalizing violation with
  | nil => cases refused
  | cons filter filters ih =>
    rw [List.foldr_cons] at refused
    -- The filters behind the first one see the item before it does.
    have earlier := fun violation => @ih violation fun filter member =>
      impartial filter (List.mem_cons_of_mem _ member)
    generalize List.foldr _ _ filters = seen at earlier refused
    cases seen with
    | error violation =>
      cases refused
      exact earlier violation rfl
    | ok image => exact impartial filter List.mem_cons_self image violation refused

theorem filtered (through : cursor.Through view) {filter : Filter ι}
    (impartial : Impartial filter) : (cursor.filtered filter).Through (filter.type :: view) := by
  constructor
  · exact congrArg (filter.type :: ·) through.type_eq
  · intro other member
    rcases List.mem_cons.mp member with same | member
    · exact same ▸ impartial
    · exact through.impartial other member

theorem unfiltered {type : String} (through : cursor.Through (type :: view)) :
    cursor.unfiltered.Through view := by
  constructor
  · rw [Cursor.type, Cursor.unfiltered, List.map_tail]
    exact congrArg List.tail through.type_eq
  · exact fun filter member => through.impartial filter (List.mem_of_mem_tail member)

end Cursor.Through

namespace Grammar

variable {ι Leaf : Type}

/-- Memoized nodes of one name stand behind filters of the same types, none of them stands inside
another, and nothing is referred to. -/
structure Orderly (grammar : Built ι Leaf) : Prop where
  same_types {inner inner'} : Part grammar filters (.memoize replace (.named name) inner) →
    Part grammar filters' (.memoize replace' (.named name) inner') →
      filters.map Filter.type = filters'.map Filter.type
  apart {inner inner'} : Part grammar filters (.memoize replace (.named name) inner) →
    ¬ Part inner filters' (.memoize replace' (.named name) inner')
  no_reference : ¬ Part grammar filters (.reference target)

/-- The same with the number of the filters in place of their types. -/
structure Tiered (grammar : Built ι Leaf) : Prop where
  same_depth {inner inner'} : Part grammar filters (.memoize replace (.named name) inner) →
    Part grammar filters' (.memoize replace' (.named name) inner') →
      filters.length = filters'.length
  apart {inner inner'} : Part grammar filters (.memoize replace (.named name) inner) →
    ¬ Part inner filters' (.memoize replace' (.named name) inner')
  no_reference : ¬ Part grammar filters (.reference target)

/-- No filter and no change of the payload blames the table. -/
structure Blameless (grammar : Built ι Leaf) : Prop where
  withFilter {inner} : Part grammar filters (.withFilter filter inner) → Impartial filter
  modifyData : Part grammar filters (.modifyData f) →
    ∀ data violation, f data = .error violation → ¬ violation.OfTable

/-- What a session recalls for a key was stored by a node with that key, at the type of the cursors
there, which are on views of the type `level` outside the grammar. -/
def Typed (grammar : Built ι Leaf) (level : ViewType) (session : Session ι Payload (Recall ι Leaf)) :
    Prop :=
  ∀ position key entry, session.recalled position key = some entry →
    ∃ filters replace inner, Part grammar filters (.memoize replace key inner) ∧
      entry.type = filters.map Filter.type ++ level ∧
      ∀ value rest, entry.outcome = .ok (value, rest) →
        rest.Through (filters.map Filter.type ++ level)

variable {grammar inner : Built ι Leaf} {level view : ViewType} {place : Nat} {key : Memo.Key}
  {replace : Bool} {session : Session ι Payload (Recall ι Leaf)} {filters : List (Filter ι)}

theorem typed_of_nothing (nothing : ∀ position key, session.recalled position key = none) :
    Typed grammar level session := by
  intro position key entry found
  rw [nothing] at found
  cases found

theorem Orderly.same_types_of_key (orderly : Orderly grammar) (wellTyped : WellTyped grammar)
    {inner' : Built ι Leaf} (part : Part grammar filters (.memoize replace key inner))
    (part' : Part grammar filters' (.memoize replace' key inner')) :
    filters.map Filter.type = filters'.map Filter.type := by
  cases key with
  | parser number => exact wellTyped part part'
  | named name => exact orderly.same_types part part'

/-- What is recalled for a node has its type. -/
theorem Orderly.recalled (orderly : Orderly grammar) (wellTyped : WellTyped grammar)
    (typed : Typed grammar level session)
    (part : Part grammar filters (.memoize replace key inner))
    (found : session.recalled place key = some entry) :
    entry.type = filters.map Filter.type ++ level ∧
      ∀ value rest, entry.outcome = .ok (value, rest) →
        rest.Through (filters.map Filter.type ++ level) := by
  obtain ⟨filters', _, _, part', type, rests⟩ := typed place key entry found
  rw [orderly.same_types_of_key wellTyped part part']
  exact ⟨type, rests⟩

/-- The reply ends on the same view and does not blame the table, and the session stays
typed. -/
structure Keeps (grammar : Built ι Leaf) (level view : ViewType)
    (result : Reply (Cursor ι Payload) Failure Value × Session ι Payload (Recall ι Leaf)) :
    Prop where
  rest : ∀ value rest, result.1 = .done value rest → rest.Through view
  cause : ∀ cause, result.1 = .halt cause → ¬ cause.OfTable
  typed : Typed grammar level result.2

/-- One session that is typed, and cursors behind the filters of the grammar; the table is not to
blame for anything. -/
def contract (grammar : Built ι Leaf) (level : ViewType) :
    Coupling ι Payload (Recall ι Leaf) where
  cursors filters cursor cursor' :=
    cursor = cursor' ∧ cursor.Through (filters.map Filter.type ++ level)
  sessions session session' := session = session' ∧ Typed grammar level session
  causes cause := ¬ cause.OfTable
  admits := Impartial
  onward := False

theorem contract_stable (grammar : Built ι Leaf) (level : ViewType) :
    (contract grammar level).Stable where
  advance place := by
    obtain ⟨rfl, through⟩ := place
    exact shown_of_same rfl (fun _ => rfl) (fun _ _ => through.read)
      fun _ _ _ => ⟨rfl, through.type_eq, through.impartial⟩
  ordinary blameless := blameless
  total succeeds := by
    intro item violation refused
    obtain ⟨seen, shown⟩ := succeeds item
    rw [shown] at refused
    cases refused
  filtered {filters} _ _ filter place impartial := by
    refine ⟨congrArg (Cursor.filtered · filter) place.1, ?_⟩
    exact place.2.filtered impartial
  unfiltered {filter filters} _ _ place := by
    refine ⟨congrArg Cursor.unfiltered place.1, ?_⟩
    exact Cursor.Through.unfiltered place.2
  rounds coupled := by
    apply coupled.rounds_of_level
    · exact fun _ _ place => congrArg Cursor.position place.1
    · exact fun _ _ shared => congrArg Session.reach shared.1
    · exact fun _ _ shared event => ⟨congrArg (Session.note · event) shared.1, shared.2⟩
    · exact id

theorem coupled_contract_iff {rule : Rule ι Leaf} :
    Coupled (contract grammar level) filters rule rule ↔
      ∀ cursor session, cursor.Through (filters.map Filter.type ++ level) →
        Typed grammar level session →
        Keeps grammar level (filters.map Filter.type ++ level) (rule cursor session) := by
  constructor
  · intro coupled cursor session through typed
    obtain ⟨paired, kept⟩ := coupled cursor cursor session session ⟨rfl, through⟩ ⟨rfl, typed⟩
    generalize rule cursor session = result at paired kept
    obtain ⟨reply, later⟩ := result
    refine ⟨?_, ?_, kept.2⟩
    · rintro value rest ⟨⟩
      cases paired with
      | done ends => exact ends.place.2
    · rintro cause ⟨⟩
      cases paired with
      | halt blameless => exact blameless
  · rintro keeps cursor _ session _ ⟨rfl, through⟩ ⟨rfl, typed⟩
    have kept := keeps cursor session through typed
    refine ⟨?_, rfl, kept.typed⟩
    cases reply : (rule cursor session).1 with
    | done value rest => exact .done ⟨⟨rfl, kept.rest value rest reply⟩, False.elim⟩
    | fail error => exact .fail
    | halt cause => exact .halt (kept.cause cause reply)

/-- Caching an outcome keeps the contract if no success is held in its place. -/
theorem Keeps.caches {cursor : Cursor ι Payload}
    (caches : Caches (M := Recall ι Leaf) key cursor ran result)
    (part : Part grammar filters (.memoize replace key inner))
    (through : cursor.Through (filters.map Filter.type ++ level))
    (mutable : ∀ entry, ran.2.recalled cursor.position key = some entry →
      Memo.succeeded entry.outcome = false)
    (keeps : Keeps grammar level (filters.map Filter.type ++ level) ran) :
    Keeps grammar level (filters.map Filter.type ++ level) result := by
  cases caches with
  | halted => exact keeps
  | tableless none => exact keeps
  | stored shared accepted =>
    refine ⟨keeps.rest, keeps.cause, ?_⟩
    intro position name entry found
    rw [Session.recalled_store shared accepted] at found
    split at found
    · rename_i here
      cases found
      rw [here.2]
      refine ⟨filters, replace, inner, part, through.type_eq, ?_⟩
      intro value rest success
      exact keeps.rest value rest (Reply.ofOutcome_eq_done.mpr success)
    · exact keeps.typed position name entry found
  | refused shared rejected =>
    obtain ⟨entry, found, succeeded⟩ := success_of_refused shared rejected
    rw [mutable entry found] at succeeded
    cases succeeded

/-- A memoized node keeps the contract, if what it memoizes does and leaves its own key alone. -/
theorem coupled_memoize {rule : Rule ι Leaf} (orderly : Orderly grammar)
    (wellTyped : WellTyped grammar) (part : Part grammar filters (.memoize replace key inner))
    (frame : ∀ cursor session position,
      (rule cursor session).2.recalled position key = session.recalled position key)
    (coupled : Coupled (contract grammar level) filters rule rule) :
    Coupled (contract grammar level) filters (cached replace key rule)
      (cached replace key rule) := by
  rw [coupled_contract_iff] at coupled ⊢
  intro cursor session through typed
  have memoizes := memoizes_memoize Payload.linked key replace rule cursor session
  unfold cached
  generalize Parser.memoize Payload.linked key replace rule cursor session = result at memoizes ⊢
  cases memoizes with
  | unreachable => exact coupled cursor _ through typed
  | mismatched found other =>
    exact absurd ((orderly.recalled wellTyped typed part found).1.trans through.type_eq.symm) other
  | @hit entry found same =>
    refine ⟨?_, ?_, typed⟩
    · intro value rest success
      exact (orderly.recalled wellTyped typed part found).2 value rest
        (Reply.ofOutcome_eq_done.mp success)
    · intro cause halted
      exact absurd halted (Reply.ofOutcome_ne_halt _ cause)
  -- The run leaves the key alone, so what is held after it was held before: nothing, or a failure.
  | missed absent caches =>
    apply Keeps.caches caches part through ?_ (coupled cursor session through typed)
    intro entry found
    rw [frame, absent] at found
    cases found
  | replaced found failed replacing caches =>
    apply Keeps.caches caches part through ?_ (coupled cursor _ through typed)
    intro entry held
    rw [frame] at held
    cases found.symm.trans held
    exact failed

section Bench

variable [Lexicon ι Leaf] [UniformLexicon ι Leaf] {rules shared : List (String × Blueprint ι Leaf)}
  {blueprint : Blueprint ι Leaf} {table : Bool} {bench : Bench ι Leaf}

omit [UniformLexicon ι Leaf] in
theorem Orderly.apart_of_key (orderly : Orderly bench.parser)
    (assembled : Bench.assemble rules shared blueprint table = .ok bench)
    (part : Part bench.parser filters (.memoize replace key inner)) :
    ¬ Part inner filters' (.memoize replace' key inner') := by
  cases key with
  | parser number => exact apart_of_identity assembled part
  | named name => exact orderly.apart part

/-- One run of a grammar keeps the contract. -/
theorem run_keeps (assembled : Bench.assemble rules shared blueprint table = .ok bench)
    (orderly : Orderly bench.parser) (wellTyped : WellTyped bench.parser)
    (blameless : Blameless bench.parser)
    (resolve : Deferred → Rule ι Leaf) (cursor : Cursor ι Payload)
    (session : Session ι Payload (Recall ι Leaf)) (through : cursor.Through level)
    (typed : Typed bench.parser level session) :
    Keeps bench.parser level level (bench.parser.run resolve cursor session) := by
  have upholds : Upholds (fun _ : Unit => contract bench.parser level) cached cached resolve resolve
      [] bench.parser := by
    constructor
    · exact fun _ => contract_stable bench.parser level
    · rintro _ later _ ⟨rfl, kept⟩ name
      exact ⟨rfl, kept⟩
    · exact fun _ => UniformLexicon.coupled _ (contract_stable bench.parser level)
    · exact fun _ _ _ _ _ place => congrArg Cursor.position place.1
    · exact fun _ _ => coupled_getData fun _ _ place => congrArg Cursor.data place.1
    · intro more data part _
      apply coupled_setData
      rintro start _ ⟨rfl, through⟩
      exact ⟨rfl, through.type_eq, through.impartial⟩
    · intro more f part _
      apply coupled_modifyData
      · exact fun _ _ place => congrArg Cursor.data place.1
      · exact blameless.modifyData part
      · rintro start _ data ⟨rfl, through⟩
        exact ⟨rfl, through.type_eq, through.impartial⟩
    · exact fun part _ => blameless.withFilter part
    · intro more replace mark inner part coupled _
      rw [List.append_nil] at coupled ⊢
      apply coupled_memoize orderly wellTyped part ?_ (coupled ())
      apply run_recalled
      · intro filters target deep
        exact orderly.no_reference (part.trans (.inside List.mem_cons_self deep))
      · exact fun _ _ _ => orderly.apart_of_key assembled part
    · exact fun part => absurd part orderly.no_reference
  have coupled := coupled_contract_iff.mp (runWith_coupled bench.parser [] upholds ())
  rw [List.map_nil, List.nil_append] at coupled
  exact coupled cursor session through typed

theorem parse_keeps (assembled : Bench.assemble rules shared blueprint table = .ok bench)
    (orderly : Orderly bench.parser) (wellTyped : WellTyped bench.parser)
    (blameless : Blameless bench.parser)
    (session : Session ι Payload (Recall ι Leaf)) (cursor : Cursor ι Payload)
    (through : cursor.Through level) (typed : Typed bench.parser level session) :
    Keeps bench.parser level level
      (({ bench with session := session }.parse cursor).1,
        ({ bench with session := session }.parse cursor).2.session) := by
  obtain ⟨resolve, runs⟩ := runWithin_eq_run bench.library recursionLimit
  simp only [Bench.parse, runs]
  exact run_keeps assembled orderly wellTyped blameless resolve cursor (session.makeRoom cursor)
    through typed

/-- A step from one text to the next changes the session only, and keeps it typed. -/
theorem perform_typed (assembled : Bench.assemble rules shared blueprint table = .ok bench)
    (orderly : Orderly bench.parser) (wellTyped : WellTyped bench.parser)
    (blameless : Blameless bench.parser) (step : Bench.Step ι)
    (input : ∀ cursor, step = .parse cursor → cursor.Through level)
    (typed : Typed bench.parser level session) :
    ∃ later, ({ bench with session := session } : Bench ι Leaf).perform step =
        { bench with session := later } ∧ Typed bench.parser level later := by
  cases step with
  | parse cursor =>
    refine ⟨_, rfl, ?_⟩
    have keeps := parse_keeps assembled orderly wellTyped blameless session cursor
      (input cursor rfl) typed
    exact keeps.typed
  | clear =>
    refine ⟨_, rfl, typed_of_nothing ?_⟩
    intro position key
    cases session.table with
    | none => simp [Session.recalled]
    | some held => simp [Session.recalled]
  | drop => exact ⟨_, rfl, typed_of_nothing fun _ _ => rfl⟩

theorem steps_typed (assembled : Bench.assemble rules shared blueprint table = .ok bench)
    (orderly : Orderly bench.parser) (wellTyped : WellTyped bench.parser)
    (blameless : Blameless bench.parser)
    (steps : List (Bench.Step ι)) (inputs : ∀ cursor, .parse cursor ∈ steps → cursor.Through level)
    (typed : Typed bench.parser level session) :
    ∃ later, steps.foldl Bench.perform { bench with session := session } =
        { bench with session := later } ∧ Typed bench.parser level later := by
  induction steps generalizing session with
  | nil => exact ⟨session, rfl, typed⟩
  | cons step steps ih =>
    obtain ⟨later, performed, typed⟩ := perform_typed assembled orderly wellTyped blameless step
      (fun cursor same => inputs cursor (same ▸ List.mem_cons_self)) typed
    rw [List.foldl_cons, performed]
    exact ih (fun cursor member => inputs cursor (List.mem_cons_of_mem _ member)) typed

omit [UniformLexicon ι Leaf] in
theorem recalled_assemble (assembled : Bench.assemble rules shared blueprint table = .ok bench)
    (position : Nat) (key : Memo.Key) : bench.session.recalled position key = none := by
  obtain ⟨_, _, _, _, _, _, rfl⟩ := assemble_ok assembled
  cases table with
  | false => rfl
  | true => exact Memo.Table.find?_empty position key

/-- From an empty table on, whatever texts are parsed and whenever the table is emptied or given up,
no parse ends because a success was to be replaced or an outcome was found at another type. -/
theorem table_never_refuses (assembled : Bench.assemble rules shared blueprint table = .ok bench)
    (orderly : Orderly bench.parser) (wellTyped : WellTyped bench.parser)
    (blameless : Blameless bench.parser) (level : ViewType)
    (steps : List (Bench.Step ι)) (inputs : ∀ cursor, .parse cursor ∈ steps → cursor.Through level)
    (cursor : Cursor ι Payload) (input : cursor.Through level) (key : Memo.Key) (place : Nat) :
    ((steps.foldl Bench.perform bench).parse cursor).1 ≠
        .halt (.violation (.finalSuccess key)) ∧
      ((steps.foldl Bench.perform bench).parse cursor).1 ≠
        .halt (.violation (.outcomeType key place)) := by
  have nothing : Typed bench.parser level bench.session :=
    typed_of_nothing (recalled_assemble assembled)
  obtain ⟨later, performed, typed⟩ :=
    steps_typed assembled orderly wellTyped blameless steps inputs nothing
  have keeps := parse_keeps assembled orderly wellTyped blameless later cursor input typed
  rw [performed]
  constructor
  · intro halted
    exact keeps.cause _ halted trivial
  · intro halted
    exact keeps.cause _ halted trivial

end Bench

/-- A letter, and behind it a parser of the same name that puts the table out of reach. -/
def namesakes : Blueprint Char TextLeaf :=
  .softSequence (.memoize false (.byName "item") (.leaf .letter))
    (.memoize true (.byName "item") (.setData ⟨false, 1⟩))

def builtNamesakes : Built Char TextLeaf :=
  .softSequence (.memoize false (.named "item") (.leaf .letter))
    (.memoize true (.named "item") (.setData ⟨false, 1⟩))

theorem part_builtNamesakes {filters : List (Filter Char)} {node : Built Char TextLeaf}
    (part : Part builtNamesakes filters node) : filters = [] ∧
    (node = builtNamesakes ∨ ∃ inner, (inner = .leaf .letter ∨ inner = .setData ⟨false, 1⟩) ∧
      (node = inner ∨ ∃ replace, node = .memoize replace (.named "item") inner)) := by
  have below {replace inner filters node} (childless : inner.children = [])
      (part : Part (.memoize replace (.named "item") inner : Built Char TextLeaf) filters node) :
      filters = [] ∧ (node = inner ∨ ∃ replace, node = .memoize replace (.named "item") inner) := by
    rcases part.around rfl with ⟨rfl, same⟩ | ⟨_, rfl, within⟩
    · exact ⟨rfl, .inr ⟨replace, same⟩⟩
    · obtain ⟨rfl, same⟩ := within.alone childless
      exact ⟨rfl, .inl same⟩
  rcases part.either rfl with ⟨rfl, same⟩ | part | part
  · exact ⟨rfl, .inl same⟩
  · obtain ⟨rfl, found⟩ := below rfl part
    exact ⟨rfl, .inr ⟨_, .inl rfl, found⟩⟩
  · obtain ⟨rfl, found⟩ := below rfl part
    exact ⟨rfl, .inr ⟨_, .inr rfl, found⟩⟩

theorem orderly_builtNamesakes : Orderly builtNamesakes := by
  constructor
  · intro _ _ _ _ _ _ _ part part'
    rw [(part_builtNamesakes part).1, (part_builtNamesakes part').1]
  · intro _ _ _ _ _ _ _ part deeper
    rcases (part_builtNamesakes part).2 with same | ⟨inner, leaf | change, same | ⟨_, same⟩⟩
    · cases same
    · rw [leaf] at same
      cases same
    · cases same
      rw [leaf] at deeper
      cases (deeper.alone rfl).2
    · rw [change] at same
      cases same
    · cases same
      rw [change] at deeper
      cases (deeper.alone rfl).2
  · intro _ _ part
    rcases (part_builtNamesakes part).2 with same | ⟨_, rfl | rfl, same | ⟨_, same⟩⟩ <;> cases same

theorem blameless_builtNamesakes : Blameless builtNamesakes := by
  constructor
  · intro _ _ _ part
    rcases (part_builtNamesakes part).2 with same | ⟨_, rfl | rfl, same | ⟨_, same⟩⟩ <;> cases same
  · intro _ _ part
    rcases (part_builtNamesakes part).2 with same | ⟨_, rfl | rfl, same | ⟨_, same⟩⟩ <;> cases same

theorem table_never_refuses_namesakes :
    ∃ bench, Bench.assemble [] [] namesakes true = .ok bench ∧ Orderly bench.parser ∧
      WellTyped bench.parser ∧ Blameless bench.parser ∧
      (([.parse (.ofText "ab" ⟨true, 0⟩), .parse (.ofText "a1" ⟨true, 2⟩), .clear,
          .parse (.ofText "b" ⟨false, 0⟩)].foldl Bench.perform bench).parse
            (.ofText "ba" ⟨true, 0⟩)).1 ≠ .halt (.violation (.finalSuccess (.named "item"))) ∧
      (([.parse (.ofText "ab" ⟨true, 0⟩), .parse (.ofText "a1" ⟨true, 2⟩), .clear,
          .parse (.ofText "b" ⟨false, 0⟩)].foldl Bench.perform bench).parse
            (.ofText "ba" ⟨true, 0⟩)).1 ≠
        .halt (.violation (.outcomeType (.named "item") 1)) := by
  let bench : Bench Char TextLeaf :=
    ⟨⟨[], []⟩, builtNamesakes, .new (some .empty) ⟨2, ∅, []⟩⟩
  have assembled : Bench.assemble [] [] namesakes true = .ok bench := rfl
  have bare (text : String) (data : Payload) : (Cursor.ofText text data).Through [] := ⟨rfl, nofun⟩
  have orderly : Orderly bench.parser := orderly_builtNamesakes
  have wellTyped : WellTyped bench.parser := by
    intro _ _ _ _ _ _ _ part part'
    rw [(part_builtNamesakes part).1, (part_builtNamesakes part').1]
  have blameless : Blameless bench.parser := blameless_builtNamesakes
  refine ⟨bench, assembled, orderly, wellTyped, blameless, ?_⟩
  apply table_never_refuses assembled orderly wellTyped blameless [] _ ?_ _ (bare "ba" ⟨true, 0⟩)
  intro cursor member
  simp only [List.mem_cons, Bench.Step.parse.injEq, reduceCtorEq, List.not_mem_nil, or_false,
    false_or] at member
  rcases member with rfl | rfl | rfl <;> exact bare _ _

/-- A filter that changes nothing, as a function of a type of its own. -/
def idle : Filter Char := ⟨"idle", .ok⟩

def twoViews : Blueprint Char TextLeaf :=
  twice (charFunction id) idle (.memoize false (.byName "item") .anyItem)

def builtTwoViews : Built Char TextLeaf :=
  twice (charFunction id) idle (.memoize false (.named "item") .anyItem)

/-- The number of filters is not enough: an outcome is looked for behind a filter of another type. -/
theorem table_refuses_two_views :
    ∃ bench, Bench.assemble [] [] twoViews true = .ok bench ∧ Tiered bench.parser ∧
      WellTyped bench.parser ∧ Blameless bench.parser ∧
      (bench.parse (.ofText "a" ⟨true, 0⟩)).1 =
        .halt (.violation (.outcomeType (.named "item") 0)) := by
  let bench : Bench Char TextLeaf :=
    ⟨⟨[], []⟩, builtTwoViews, .new (some .empty) ⟨2, ∅, []⟩⟩
  have assembled : Bench.assemble [] [] twoViews true = .ok bench := rfl
  have named {filters replace name inner}
      (part : Part bench.parser filters (.memoize replace (.named name) inner)) :
      filters.length = 1 ∧ inner = .anyItem := by
    obtain ⟨_, inside, rfl | rfl⟩ := memoize_of_part_twice part
    · exact ⟨rfl, inside⟩
    · exact ⟨rfl, inside⟩
  have tiered : Tiered bench.parser := by
    refine ⟨fun part part' => (named part).1.trans (named part').1.symm, fun part deeper => ?_,
      fun part => ?_⟩
    · rw [(named part).2] at deeper
      cases (deeper.alone rfl).2
    · rcases part_twice part with same | ⟨_, same⟩ | ⟨_, _, same⟩ | ⟨_, same | same⟩ <;> cases same
  have wellTyped : WellTyped bench.parser := by
    intro _ _ _ _ _ _ _ part
    cases (memoize_of_part_twice part).1
  have blameless : Blameless bench.parser := by
    refine ⟨fun part => ?_, fun part => ?_⟩
    · rcases part_twice part with same | ⟨_, same⟩ | ⟨_, rfl | rfl, same⟩ | ⟨_, same | same⟩ <;>
        cases same
      · exact fun _ _ => nofun
      · exact fun _ _ => nofun
    · rcases part_twice part with same | ⟨_, same⟩ | ⟨_, _, same⟩ | ⟨_, same | same⟩ <;> cases same
  exact ⟨bench, assembled, tiered, wellTyped, blameless, rfl⟩

end Grammar

end Packrat
