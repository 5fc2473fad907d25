import Packrat.Proofs.Grammar.Erasure
import Packrat.Proofs.Grammar.Onward

/-! Deferred parsers. A deferred parser is built at its first run and stays the same parser, so what
is built depends on what ran before. Without memoization this makes no difference: the parsers of a
rule differ in their identities only, and it is as if a rule were built anew for every run. -/

namespace Packrat.Grammar

open Packrat.Parser Construction

variable {ι Leaf α β γ γ' : Type}

/-! Building one blueprint from different numbers. -/

/-- From whatever numbers they count, the steps give values of one meaning, or refuse for the same
reason. -/
def Uniform (of : β → γ) (step step' : Construction β) : Prop :=
  ∀ low low', (step low).map (fun result => of result.1) =
    (step' low').map fun result => of result.1

theorem uniform_pure {of : β → γ} {value value' : β} (same : of value = of value') :
    Uniform of (pure value) (pure value') :=
  fun _ _ => congrArg Except.ok same

theorem Uniform.bind {of : α → γ} {of' : β → γ'} {step step' : Construction α}
    {next next' : α → Construction β} (first : Uniform of step step')
    (second : ∀ value value', of value = of value' → Uniform of' (next value) (next' value')) :
    Uniform of' (step >>= next) (step' >>= next') := by
  intro low low'
  change (step low >>= fun (value, mid) => next value mid).map _ =
    (step' low' >>= fun (value, mid) => next' value mid).map _
  have same := first low low'
  generalize step low = result, step' low' = result' at same
  cases result with
  | error violation =>
    cases result' with
    | error violation' => cases same; rfl
    | ok built' => cases same
  | ok built =>
    cases result' with
    | error violation' => cases same
    | ok built' => exact second _ _ (Except.ok.inj same) _ _

theorem uniform_pair {of : α → γ} {of' : β → γ'} {first first' : Construction α}
    {second second' : Construction β} (uniform : Uniform of first first')
    (uniform' : Uniform of' second second') :
    Uniform (fun pair => (of pair.1, of' pair.2)) (do return (← first, ← second))
      (do return (← first', ← second')) :=
  uniform.bind fun _ _ same => uniform'.bind fun _ _ same' => uniform_pure (Prod.ext same same')

theorem uniform_each {of : β → γ} {n : Nat} {step step' : Fin n → Construction β}
    (uniform : ∀ i, Uniform of (step i) (step' i)) :
    Uniform (fun parts i => of (parts i)) (each n step) (each n step') := by
  induction n with
  | zero => exact uniform_pure (funext nofun)
  | succ n ih =>
    refine (uniform 0).bind fun head head' same => ?_
    refine (ih fun i => uniform i.succ).bind fun tail tail' alike => uniform_pure ?_
    funext i
    induction i using Fin.cases with
    | zero => exact same
    | succ i => exact congrFun alike i

theorem uniform_demand (holds : Bool) (violation : Violation) :
    Uniform (fun _ => ()) (demand holds violation) (demand holds violation) := by
  unfold demand
  split
  · exact uniform_pure rfl
  · exact fun _ _ => rfl

theorem uniform_refuse (violation : Option Violation) :
    Uniform (fun _ => ()) (refuse violation) (refuse violation) := by
  cases violation with
  | none => exact uniform_pure rfl
  | some violation => exact fun _ _ => rfl

variable [Lexicon ι Leaf] {resolve : String → Rule ι Leaf}

/-- What a grammar means where nothing is memoized and a reference means its rule. -/
abbrev meaning (resolve : String → Rule ι Leaf) (grammar : Built ι Leaf) : Rule ι Leaf :=
  grammar.runWith uncached fun deferred => resolve deferred.rule

/-- The parsers of a blueprint all mean the same. -/
theorem uniform_build (shared : List (String × Built ι Leaf)) (blueprint : Blueprint ι Leaf) :
    Uniform (meaning resolve) (blueprint.build shared) (blueprint.build shared) := by
  induction blueprint with
  | many _ ih | oneOrMore _ ih | peek _ ih | maybe _ ih | negate _ ih | terminated _ ih
  | recoverWith _ _ ih | inspectLeaf _ _ ih | map _ _ ih | mapError _ _ ih | withPosition _ ih
  | token _ _ ih | withFilter _ _ ih | counted _ _ ih =>
    exact ih.bind fun _ _ same => uniform_pure (by simp only [meaning, runWith, same])
  | repeatWhile _ _ ih ih' | separatedBy _ _ _ ih ih' | softSequence _ _ ih ih'
  | inspectTimes _ _ _ ih ih' =>
    exact ih.bind fun _ _ same => ih'.bind fun _ _ same' =>
      uniform_pure (by simp only [meaning, runWith, same, same'])
  | recover _ _ _ _ ih ih' | inspect _ _ _ _ ih ih' =>
    refine ih.bind fun _ _ same => (uniform_each ih').bind fun _ _ same' => uniform_pure ?_
    have branch i := congrFun same' i
    simp only [meaning, runWith, same, branch]
  | sequence _ _ ih | orderedChoice _ _ ih =>
    refine (uniform_each ih).bind fun _ _ same => ?_
    refine (uniform_demand _ _).bind fun _ _ _ => uniform_pure ?_
    have part i := congrFun same i
    simp only [meaning, runWith, part]
  | predictiveChoice _ _ _ ih ih' =>
    refine (uniform_each fun i => uniform_pair (ih i) (ih' i)).bind fun _ _ same => ?_
    refine (uniform_demand _ _).bind fun _ _ _ => uniform_pure ?_
    have part i := congrFun same i
    simp only [Prod.mk.injEq] at part
    simp only [meaning, runWith, part]
  | dispatch _ _ _ ih =>
    refine (uniform_each ih).bind fun _ _ same => ?_
    refine (uniform_each fun i => uniform_refuse _).bind fun _ _ _ => ?_
    refine (uniform_demand _ _).bind fun _ _ _ => uniform_pure ?_
    have part i := congrFun same i
    simp only [meaning, runWith, part]
  | leaf basic => exact (uniform_refuse _).bind fun _ _ _ => uniform_pure rfl
  | memoize replace strategy _ ih =>
    have numbers : Uniform (fun _ => ()) fresh fresh := fun _ _ => rfl
    exact ih.bind fun _ _ same => numbers.bind fun _ _ _ => uniform_pure same
  | reference link =>
    cases link with
    | rule name => exact fun _ _ => rfl
    | shared name =>
      cases found : shared.lookup name <;> simp only [build, found]
      · exact fun _ _ => rfl
      · exact uniform_pure rfl
  | _ => exact uniform_pure rfl

/-! Running a grammar, with its rules built on the way or anew each time. -/

/-- The parser of a rule, built anew for every run, with rules inside rules up to a depth. Nothing is
memoized. -/
def Library.parser (library : Library ι Leaf) : (depth : Nat) → (rule : String) → Rule ι Leaf
  | 0, _ => Parser.halt .exhausted
  | depth + 1, rule =>
    match library.buildRule rule 0 with
    | .error violation => Parser.halt (.violation violation)
    | .ok (grammar, _) => meaning (library.parser depth) grammar

/-- What a grammar does where every rule is built anew for every run. -/
abbrev afresh (library : Library ι Leaf) (depth : Nat) (grammar : Built ι Leaf) : Rule ι Leaf :=
  meaning (library.parser depth) grammar

variable {library : Library ι Leaf} {rule : String} {start next depth : Nat}
  {parser grammar : Built ι Leaf} {old needed : Nodes ι Leaf} {workshop : Workshop ι Leaf}

theorem Library.uniform_buildRule (library : Library ι Leaf) (resolve : String → Rule ι Leaf)
    (rule : String) :
    Uniform (meaning resolve) (library.buildRule rule) (library.buildRule rule) := by
  cases found : library.rules.lookup rule with
  | none => simp only [Uniform, buildRule, found, implies_true]
  | some blueprint =>
    simp only [Uniform, buildRule, found]
    exact uniform_build library.shared blueprint

theorem Library.parser_of_built (built : library.buildRule rule start = .ok (parser, next)) :
    library.parser (depth + 1) rule = afresh library depth parser := by
  have same := library.uniform_buildRule (library.parser depth) rule 0 start
  rw [built] at same
  unfold Library.parser
  cases first : library.buildRule rule 0 with
  | error violation => rw [first] at same; cases same
  | ok built => rw [first] at same; exact Except.ok.inj same

theorem Library.parser_of_refused {violation : Violation}
    (refused : library.buildRule rule start = .error violation) :
    library.parser (depth + 1) rule = Parser.halt (.violation violation) := by
  have same := library.uniform_buildRule (library.parser depth) rule 0 start
  rw [refused] at same
  unfold Library.parser
  cases first : library.buildRule rule 0 with
  | error violation => rw [first] at same; cases same; rfl
  | ok built => rw [first] at same; cases same

/-- A workshop knows nodes by their identities, those of shared parsers among them. What it has built
under an identity is the rule of the reference that has the identity, and its nodes are known too. -/
structure Sound (library : Library ι Leaf) (old : Nodes ι Leaf) (workshop : Workshop ι Leaf) :
    Prop where
  settled : Settled workshop.nextId old
  shared : ∀ number node, sharedNodes library.shared number node → old number node
  origin {id : Nat} {held : Built ι Leaf} : workshop.built[id]? = some held → ∃ rule start next,
    old id (.reference ⟨id, rule⟩) ∧ library.buildRule rule start = .ok (held, next) ∧
      ∀ number node, nodes held number node → old number node

/-- A rule built next gets identities of its own. -/
theorem Sound.numbered (sound : Sound library old workshop)
    (built : library.buildRule rule workshop.nextId = .ok (parser, next)) :
    workshop.nextId ≤ next ∧ Numbered workshop.nextId next old (nodes parser) := by
  unfold Library.buildRule at built
  split at built
  · rename_i blueprint _
    exact numbers_build blueprint old sound.shared _ _ _ sound.settled built
  · cases built

/-- A workshop stays sound when it builds a rule for a reference. -/
theorem Sound.insert (sound : Sound library old workshop)
    (built : library.buildRule rule workshop.nextId = .ok (parser, next))
    (known : old number (.reference ⟨number, rule⟩)) :
    Sound library (fun number node => old number node ∨ nodes parser number node)
      { workshop with nextId := next, built := workshop.built.insert number parser } := by
  obtain ⟨up, numbered⟩ := sound.numbered built
  refine ⟨Settled.union sound.settled numbered up, ?_, ?_⟩
  · exact fun _ _ member => .inl (sound.shared _ _ member)
  intro id held found
  rw [Std.TreeMap.getElem?_insert] at found
  split at found
  · rename_i same
    cases found
    obtain rfl : number = id := by simpa using same
    exact ⟨rule, _, _, .inl known, built, fun _ _ => .inr⟩
  · obtain ⟨rule, start, next, member, built, inside⟩ := sound.origin found
    exact ⟨rule, start, next, .inl member, built, fun _ _ node => .inl (inside _ _ node)⟩

def Unmemoized {κ ρ : Type} (grammar : Grammar ι Leaf κ ρ) : Prop :=
  ∀ filters replace mark inner, ¬ Part grammar filters (.memoize replace mark inner)

/-- Sessions with equal room, the first of them in a sound workshop that knows the nodes needed. -/
def knowing (library : Library ι Leaf) (needed : Nodes ι Leaf) :
    Accord ι Payload (Recall ι Leaf) where
  cursors _ _ := True
  sessions session session' := session.reach = session'.reach ∧ ∃ old,
    (∀ number node, needed number node → old number node) ∧ Sound library old session.extra

/-- Rules built on the way reply as rules built anew. -/
theorem runWithin_afresh [LawfulLexicon ι Leaf]
    (rules : ∀ rule start parser next, library.buildRule rule start = .ok (parser, next) →
      Unmemoized parser) (depth : Nat) :
    ∀ grammar needed filters, Unmemoized grammar →
      (∀ number node, nodes grammar number node → needed number node) →
      Agree (knowing library needed) filters (runWithin library depth grammar)
        (afresh library depth grammar) := by
  have supports {grammar : Built ι Leaf} {needed filters} {resolve resolve' : Deferred → Rule ι Leaf}
      (unmemoized : Unmemoized grammar)
      (reference : ∀ {more target}, Part grammar more (.reference target) →
        Agree (knowing library needed) (more ++ filters) (resolve target) (resolve' target)) :
      Supports (fun _ : Unit => knowing library needed) cached uncached resolve resolve' filters
        grammar := by
    constructor
    · exact fun _ => ⟨fun shared => shared.1, fun shared _ => shared, fun _ _ => trivial,
        fun _ _ => trivial, fun _ => trivial⟩
    · rintro _ session session' ⟨room, old, more, sound⟩ name
      exact ⟨room, old, more, sound.settled, sound.shared, sound.origin⟩
    · exact fun _ _ _ _ => trivial
    · exact fun _ _ _ _ _ => trivial
    · exact fun part => absurd part (unmemoized _ _ _ _)
    · exact fun part _ => reference part
  induction depth with
  | zero =>
    intro grammar needed filters unmemoized known
    exact runWith_agree grammar filters (supports unmemoized fun _ => agree_halt _) ()
  | succ depth ih =>
    intro grammar needed filters unmemoized known
    refine runWith_agree grammar filters (supports unmemoized fun {more target} part => ?_) ()
    rintro cursor session session' _ ⟨room, old, more, sound⟩
    obtain ⟨id, rule⟩ := target
    have member : old id (.reference ⟨id, rule⟩) :=
      more _ _ (known _ _ ⟨_, _, part, .reference⟩)
    dsimp only
    split
    · rename_i parser found
      obtain ⟨rule, start, next, member', built, inside⟩ := sound.origin found
      cases sound.settled.same member' member
      rw [Library.parser_of_built built]
      obtain ⟨same, ⟨room', later, more', sound'⟩, _⟩ := ih parser old [] (rules _ _ _ _ built)
        inside cursor session session' trivial ⟨room, old, fun _ _ held => held, sound⟩
      exact ⟨same, ⟨room', later, fun _ _ needs => more' _ _ (more _ _ needs), sound'⟩,
        fun _ _ _ => trivial⟩
    · split
      · rename_i violation refused
        rw [Library.parser_of_refused refused]
        exact ⟨rfl, ⟨room, old, more, sound⟩, nofun⟩
      · rename_i parser next built
        rw [Library.parser_of_built built]
        have extended := sound.insert built member
        obtain ⟨same, ⟨room', later, more', sound'⟩, _⟩ := ih parser
          (fun number node => old number node ∨ nodes parser number node) []
          (rules _ _ _ _ built) (fun _ _ => .inr) cursor
          { session with
            log := .deferredBuilt :: session.log
            extra :=
              { session.extra with
                nextId := next
                built := session.extra.built.insert id parser } }
          session' trivial ⟨room, _, fun _ _ held => held, extended⟩
        exact ⟨same, ⟨room', later, fun _ _ needs => more' _ _ (.inl (more _ _ needs)), sound'⟩,
          fun _ _ _ => trivial⟩

/-! Benches. -/

/-- Every parser that a bench can come to run has the property: its own and those of its rules. -/
structure Bench.Throughout (property : Built ι Leaf → Prop) (bench : Bench ι Leaf) : Prop where
  parser : property bench.parser
  rules : ∀ rule start parser next, bench.library.buildRule rule start = .ok (parser, next) →
    property parser

/-- The bench as some steps have left it: it is for the same grammar, in a sound workshop. -/
structure Bench.Follows (bench later : Bench ι Leaf) : Prop where
  library_eq : later.library = bench.library
  parser_eq : later.parser = bench.parser
  sound : ∃ old, (∀ number node, nodes bench.parser number node → old number node) ∧
    Sound bench.library old later.session.extra

section Steps

variable {rules shared : List (String × Blueprint ι Leaf)} {blueprint : Blueprint ι Leaf}
  {table : Bool} {bench later : Bench ι Leaf}

theorem Bench.follows_assemble
    (assembled : Bench.assemble rules shared blueprint table = .ok bench) :
    bench.Follows bench := by
  have settled := settled_assemble assembled
  obtain ⟨_, _, _, _, _, _, rfl⟩ := assemble_ok assembled
  refine ⟨rfl, rfl, _, fun _ _ => .inr, settled, fun _ _ => .inl, ?_⟩
  intro id held found
  simp [Session.new] at found

variable [LawfulLexicon ι Leaf]

theorem Bench.Follows.perform (follows : bench.Follows later)
    (unmemoized : bench.Throughout Unmemoized) (step : Bench.Step ι) :
    bench.Follows (later.perform step) := by
  obtain ⟨library, parser, old, known, sound⟩ := follows
  cases step with
  | parse cursor =>
    refine ⟨library, parser, ?_⟩
    obtain ⟨_, ⟨_, old', more, sound'⟩, _⟩ := runWithin_afresh unmemoized.rules recursionLimit
      bench.parser (nodes bench.parser) [] unmemoized.parser (fun _ _ member => member) cursor
      (later.session.makeRoom cursor) (later.session.makeRoom cursor) trivial
      ⟨rfl, old, known, sound⟩
    rw [← library, ← parser] at sound'
    exact ⟨old', more, library ▸ sound'⟩
  | clear => exact ⟨library, parser, old, known, sound⟩
  | drop => exact ⟨library, parser, old, known, sound⟩

theorem Bench.Follows.steps (follows : bench.Follows later)
    (unmemoized : bench.Throughout Unmemoized) (steps : List (Bench.Step ι)) :
    bench.Follows (steps.foldl Bench.perform later) := by
  induction steps generalizing later with
  | nil => exact follows
  | cons step steps ih => exact ih (follows.perform unmemoized step)

/-- What was parsed before has no part in a reply without memoization. -/
theorem parse_afresh (assembled : Bench.assemble rules shared blueprint table = .ok bench)
    (unmemoized : bench.Throughout Unmemoized) (steps : List (Bench.Step ι))
    (cursor : Cursor ι Payload) :
    ∃ session, cursor.extent ≤ session.reach ∧
      ((steps.foldl Bench.perform bench).parse cursor).1 =
        (afresh bench.library recursionLimit bench.parser cursor session).1 := by
  obtain ⟨library, parser, old, known, sound⟩ :=
    (Bench.follows_assemble assembled).steps unmemoized steps
  let session := (steps.foldl Bench.perform bench).session.makeRoom cursor
  refine ⟨session, Nat.le_max_right _ _, ?_⟩
  unfold Bench.parse
  rw [library, parser]
  exact (runWithin_afresh unmemoized.rules recursionLimit bench.parser (nodes bench.parser) []
    unmemoized.parser (fun _ _ member => member) cursor session session trivial
    ⟨rfl, old, known, sound⟩).1

end Steps

end Packrat.Grammar
