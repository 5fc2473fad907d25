import Packrat.Proofs.Grammar.Identity
import Packrat.Proofs.Grammar.Transparency
import Packrat.Text.Cursor

/-! Taking the memoization out of a grammar at work. Nodes of one name have to memoize one parser;
nodes with identities of their own do so by the way they are built. -/

namespace Packrat.Grammar

variable {ι Leaf : Type}

/-- Memoized nodes of one name stand behind the same filters and memoize the same parser, and none of
them stands inside another. -/
structure Coherent (grammar : Built ι Leaf) : Prop where
  same_filters {inner inner'} : Part grammar filters (.memoize replace (.named name) inner) →
    Part grammar filters' (.memoize replace' (.named name) inner') → filters = filters'
  same_inner {inner inner'} : Part grammar filters (.memoize replace (.named name) inner) →
    Part grammar filters' (.memoize replace' (.named name) inner') → inner.erase = inner'.erase
  apart {inner inner'} : Part grammar filters (.memoize replace (.named name) inner) →
    ¬ Part inner filters' (.memoize replace' (.named name) inner')

/-- A memoized node with an identity is one parser and of one type, so wherever a shared parser brings
it, the filters have the same types. Grammars are not typed in this respect, so it is a condition. -/
def WellTyped (grammar : Built ι Leaf) : Prop :=
  ∀ {filters filters' replace replace' number inner inner'},
    Part grammar filters (.memoize replace (.parser number) inner) →
      Part grammar filters' (.memoize replace' (.parser number) inner') →
        filters.map Filter.type = filters'.map Filter.type

/-- A memoized node with an identity stands behind the same filters wherever a shared parser brings
it. Filters of the same types may be different functions, so its type does not see to that. -/
def Placed (grammar : Built ι Leaf) : Prop :=
  ∀ {filters filters' replace replace' number inner inner'},
    Part grammar filters (.memoize replace (.parser number) inner) →
      Part grammar filters' (.memoize replace' (.parser number) inner') → filters = filters'

variable [Lexicon ι Leaf] {rules shared : List (String × Blueprint ι Leaf)}
  {blueprint : Blueprint ι Leaf} {table : Bool} {bench : Bench ι Leaf}

theorem Coherent.keyed (coherent : Coherent bench.parser) (placed : Placed bench.parser)
    (assembled : Bench.assemble rules shared blueprint table = .ok bench) :
    Keyed bench.parser where
  same_filters := by
    intro _ _ key _ _ _ _ part part'
    cases key with
    | parser number => exact placed part part'
    | named name => exact coherent.same_filters part part'
  same_inner := by
    intro _ _ key _ _ _ _ part part'
    cases key with
    | parser number => rw [same_of_identity assembled part part']
    | named name => exact coherent.same_inner part part'
  apart := by
    intro _ _ key _ _ _ _ part
    cases key with
    | parser number => exact apart_of_identity assembled part
    | named name => exact coherent.apart part

theorem runWithin_eq_run (library : Library ι Leaf) (depth : Nat) :
    ∃ resolve, ∀ grammar, runWithin library depth grammar = grammar.run resolve := by
  cases depth with
  | zero => exact ⟨_, fun _ => rfl⟩
  | succ depth => exact ⟨_, fun _ => rfl⟩

/-- A bench whose table is empty replies to every cursor as the bench without any memoized parser. -/
theorem parse_erase [LawfulLexicon ι Leaf]
    (assembled : Bench.assemble rules shared blueprint table = .ok bench)
    (plain : Plain bench.parser) (coherent : Coherent bench.parser)
    (placed : Placed bench.parser) (session : Session ι Payload (Recall ι Leaf))
    (empty : ∀ position key, session.recalled position key = none) (cursor : Cursor ι Payload) :
    ({ bench with session := session }.parse cursor).1 =
      ({ bench with parser := bench.parser.erase, session := session }.parse cursor).1 := by
  obtain ⟨resolve, runs⟩ := runWithin_eq_run bench.library recursionLimit
  have keyed := coherent.keyed placed assembled
  have memoized : (bench.parser.run resolve cursor (session.makeRoom cursor)).1 =
      (bench.parser.runWith uncached resolve cursor (session.makeRoom cursor)).1 :=
    run_eq_uncached plain keyed cursor (session.makeRoom cursor) empty
  have erased : bench.parser.erase.run resolve = bench.parser.runWith uncached resolve :=
    runWith_erase cached resolve bench.parser
  simp only [Bench.parse, runs]
  rw [memoized, erased]

/-- Two letters, each memoized as a letter, the second one by a shared parser too. -/
def letterPair : Blueprint Char TextLeaf :=
  .softSequence (.memoize false (.byName "letter") (.leaf .letter))
    (.memoize true (.byName "letter") (.reference (.shared "letter")))

def sharedLetter : Built Char TextLeaf := .memoize false (.parser 0) (.leaf .letter)

def builtPair : Built Char TextLeaf :=
  .softSequence (.memoize false (.named "letter") (.leaf .letter))
    (.memoize true (.named "letter") sharedLetter)

theorem part_builtPair (part : Part builtPair filters node) : filters = [] ∧
    (node = builtPair ∨ node = sharedLetter ∨ node = .leaf .letter ∨
      ∃ replace inner, node = .memoize replace (.named "letter") inner ∧
        (inner = sharedLetter ∨ inner = .leaf .letter)) := by
  rcases part.either rfl with ⟨rfl, same⟩ | part | part
  · exact ⟨rfl, .inl same⟩
  · rcases part.around rfl with ⟨rfl, same⟩ | ⟨_, rfl, within⟩
    · exact ⟨rfl, .inr (.inr (.inr ⟨_, _, same, .inr rfl⟩))⟩
    · obtain ⟨rfl, same⟩ := within.alone rfl
      exact ⟨rfl, .inr (.inr (.inl same))⟩
  · rcases part.around rfl with ⟨rfl, same⟩ | ⟨_, rfl, within⟩
    · exact ⟨rfl, .inr (.inr (.inr ⟨_, _, same, .inl rfl⟩))⟩
    · rcases within.around rfl with ⟨rfl, same⟩ | ⟨_, rfl, innermost⟩
      · exact ⟨rfl, .inr (.inl same)⟩
      · obtain ⟨rfl, same⟩ := innermost.alone rfl
        exact ⟨rfl, .inr (.inr (.inl same))⟩

theorem parse_erase_of_pair :
    ∃ bench, Bench.assemble [] [("letter", .memoize false .byParser (.leaf .letter))] letterPair
        true = .ok bench ∧ Plain bench.parser ∧ Coherent bench.parser ∧ Placed bench.parser ∧
      (∀ position key, bench.session.recalled position key = none) ∧
      (bench.parse (.ofText "ab" ⟨true, 0⟩)).1 =
        ({ bench with parser := bench.parser.erase }.parse (.ofText "ab" ⟨true, 0⟩)).1 := by
  let bench : Bench Char TextLeaf :=
    ⟨⟨[], [("letter", sharedLetter)]⟩, builtPair, .new (some .empty) ⟨3, ∅, []⟩⟩
  have assembled : Bench.assemble [] [("letter", .memoize false .byParser (.leaf .letter))]
      letterPair true = .ok bench := rfl
  have named {filters replace name inner}
      (part : Part builtPair filters (.memoize replace (.named name) inner)) :
      inner = sharedLetter ∨ inner = .leaf .letter := by
    rcases (part_builtPair part).2 with same | same | same | ⟨_, _, same, inner⟩
    · cases same
    · cases same
    · cases same
    · cases same
      exact inner
  have plain : Plain bench.parser := by
    refine ⟨fun part => ?_, fun part => ?_, fun part => ?_⟩
    all_goals
      rcases (part_builtPair part).2 with same | same | same | ⟨_, _, same, _⟩ <;> cases same
  have coherent : Coherent bench.parser := by
    refine ⟨fun part part' => ?_, fun part part' => ?_, fun part deeper => ?_⟩
    · exact (part_builtPair part).1.trans (part_builtPair part').1.symm
    · rcases named part with rfl | rfl <;> rcases named part' with rfl | rfl <;> rfl
    · rcases named part with rfl | rfl
      · cases deeper with
        | inside child deeper =>
          cases List.mem_singleton.mp child
          cases deeper with
          | inside child => cases child
      · cases deeper with
        | inside child => cases child
  have placed : Placed bench.parser :=
    fun part part' => (part_builtPair part).1.trans (part_builtPair part').1.symm
  have empty (position : Nat) (key : Memo.Key) : bench.session.recalled position key = none :=
    Memo.Table.find?_empty position key
  exact ⟨bench, assembled, plain, coherent, placed, empty,
    parse_erase assembled plain coherent placed bench.session empty _⟩

/-- A filter of the type of functions from characters to characters. -/
def charFunction (image : Char → Char) : Filter Char := ⟨"char to char", fun c => .ok (image c)⟩

/-- What a grammar shows behind one filter and then, at the same place, behind another. -/
def twice (first second : Filter Char) (inner : Grammar Char TextLeaf κ ρ) :
    Grammar Char TextLeaf κ ρ :=
  .softSequence (.peek (.withFilter first inner)) (.withFilter second inner)

theorem part_twice {first second : Filter Char} {key : Memo.Key}
    (part : Part (twice first second (.memoize false key .anyItem)) filters node) :
    node = twice first second (.memoize false key .anyItem) ∨ (∃ inner, node = .peek inner) ∨
      (∃ filter, (filter = first ∨ filter = second) ∧
        node = .withFilter filter (.memoize false key .anyItem)) ∨
      (filters = [first] ∨ filters = [second]) ∧
        (node = .memoize false key .anyItem ∨ node = .anyItem) := by
  have viewed {filter filters} (one : filter = first ∨ filter = second)
      (part : Part (.withFilter filter (.memoize false key .anyItem)) filters node) :
      (∃ filter, (filter = first ∨ filter = second) ∧
        node = .withFilter filter (.memoize false key .anyItem)) ∨
      (filters = [first] ∨ filters = [second]) ∧
        (node = .memoize false key .anyItem ∨ node = .anyItem) := by
    rcases part.around rfl with ⟨rfl, same⟩ | ⟨_, rfl, within⟩
    · exact .inl ⟨filter, one, same⟩
    · refine .inr ?_
      rcases within.around rfl with ⟨rfl, same⟩ | ⟨_, rfl, innermost⟩
      · exact ⟨one.imp (congrArg List.singleton) (congrArg List.singleton), .inl same⟩
      · obtain ⟨rfl, same⟩ := innermost.alone rfl
        exact ⟨one.imp (congrArg List.singleton) (congrArg List.singleton), .inr same⟩
  rcases part.either rfl with ⟨rfl, same⟩ | part | part
  · exact .inl same
  · rcases part.around rfl with ⟨rfl, same⟩ | ⟨_, rfl, within⟩
    · exact .inr (.inl ⟨_, same⟩)
    · rw [List.append_nil]
      exact .inr (.inr (viewed (.inl rfl) within))
  · exact .inr (.inr (viewed (.inr rfl) part))

theorem memoize_of_part_twice {first second : Filter Char} {key key' : Memo.Key}
    {inner : Built Char TextLeaf}
    (part : Part (twice first second (.memoize false key .anyItem)) filters
      (.memoize replace key' inner)) :
    key' = key ∧ inner = .anyItem ∧ (filters = [first] ∨ filters = [second]) := by
  rcases part_twice part with same | ⟨_, same⟩ | ⟨_, _, same⟩ | ⟨behind, same | same⟩ <;> cases same
  exact ⟨rfl, rfl, behind⟩

/-- A shared character, read in capital letters and then as it is. -/
def sharedTwice : Blueprint Char TextLeaf :=
  twice (charFunction Char.toUpper) (charFunction id) (.reference (.shared "item"))

def builtTwice : Built Char TextLeaf :=
  twice (charFunction Char.toUpper) (charFunction id) (.memoize false (.parser 0) .anyItem)

/-- Names alone are not enough: the character is found in the table as the first filter showed it. -/
theorem parse_erase_ne_of_two_filters :
    ∃ bench, Bench.assemble [] [("item", .memoize false .byParser .anyItem)] sharedTwice true =
        .ok bench ∧ Plain bench.parser ∧ Coherent bench.parser ∧ WellTyped bench.parser ∧
      ¬ Placed bench.parser ∧ (∀ position key, bench.session.recalled position key = none) ∧
      ∃ rest rest',
        (bench.parse (.ofText "a" ⟨true, 0⟩)).1 =
          .done (.present (.list [.char 'A', .char 'A'])) rest ∧
        ({ bench with parser := bench.parser.erase }.parse (.ofText "a" ⟨true, 0⟩)).1 =
          .done (.present (.list [.char 'A', .char 'a'])) rest' := by
  let bench : Bench Char TextLeaf :=
    ⟨⟨[], [("item", .memoize false (.parser 0) .anyItem)]⟩, builtTwice,
      .new (some .empty) ⟨1, ∅, []⟩⟩
  have assembled : Bench.assemble [] [("item", .memoize false .byParser .anyItem)] sharedTwice
      true = .ok bench := rfl
  have plain : Plain bench.parser := by
    refine ⟨fun part => ?_, fun part => ?_, fun part => ?_⟩
    all_goals
      rcases part_twice part with same | ⟨_, same⟩ | ⟨_, _, same⟩ | ⟨_, same | same⟩ <;> cases same
  have unnamed {filters replace name inner}
      (part : Part bench.parser filters (.memoize replace (.named name) inner)) : False := by
    cases (memoize_of_part_twice part).1
  have coherent : Coherent bench.parser :=
    ⟨fun part => (unnamed part).elim, fun part => (unnamed part).elim,
      fun part => (unnamed part).elim⟩
  have viewed {filters replace number inner}
      (part : Part bench.parser filters (.memoize replace (.parser number) inner)) :
      filters.map Filter.type = ["char to char"] := by
    rcases (memoize_of_part_twice part).2.2 with rfl | rfl <;> rfl
  have wellTyped : WellTyped bench.parser :=
    fun part part' => (viewed part).trans (viewed part').symm
  have misplaced : ¬ Placed bench.parser := by
    intro placed
    have behind (filter : Filter Char) :
        Part (.withFilter filter (.memoize false (.parser 0) .anyItem)) ([] ++ [filter])
          (.memoize false (.parser 0) .anyItem : Built Char TextLeaf) :=
      .inside List.mem_cons_self .here
    have capital : Part bench.parser (([charFunction Char.toUpper] ++ []) ++ []) _ :=
      .inside List.mem_cons_self (.inside List.mem_cons_self (behind (charFunction Char.toUpper)))
    have plainly : Part bench.parser ([charFunction id] ++ []) _ :=
      .inside (List.mem_cons_of_mem _ List.mem_cons_self) (behind (charFunction id))
    have same : (charFunction Char.toUpper).image = (charFunction id).image :=
      congrArg Filter.image (List.head_eq_of_cons_eq (placed capital plainly))
    cases congrFun same 'a'
  exact ⟨bench, assembled, plain, coherent, wellTyped, misplaced, Memo.Table.find?_empty, _, _, rfl,
    rfl⟩

end Packrat.Grammar
