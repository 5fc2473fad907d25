import Packrat.Proofs.Grammar.View
import Packrat.Proofs.Parser.Steady

/-! Grammars whose calls are direct: no parser in reach is memoized. Such a grammar is steady, and
on every bench it replies what its parts make it reply. -/

namespace Packrat.Grammar

open Construction

variable {ι Leaf κ ρ : Type}

instance : Inhabited (Recall ι Leaf).Extra := ⟨(⟨0, ∅, []⟩ : Workshop ι Leaf)⟩

/-! What has no memoized parser inside. -/

def isMemoized : Grammar ι Leaf κ ρ → Bool
  | .memoize .. => true
  | _ => false

theorem not_unmemoized_memoize {replace : Bool} {mark : κ} {inner : Grammar ι Leaf κ ρ} :
    ¬ Unmemoized (.memoize replace mark inner) :=
  fun unmemoized => unmemoized _ _ _ _ .here

theorem unmemoized_iff {grammar : Grammar ι Leaf κ ρ} (plain : grammar.isMemoized = false) :
    Unmemoized grammar ↔ ∀ child ∈ grammar.children, Unmemoized child.2 := by
  constructor
  · intro unmemoized child member filters replace mark inner part
    exact unmemoized _ _ _ _ (.inside member part)
  · intro inside filters replace mark inner part
    cases part with
    | here => cases plain
    | inside child part => exact inside _ child _ _ _ _ part

/-- Only what stands directly inside counts. -/
theorem unmemoized_congr {grammar grammar' : Grammar ι Leaf κ ρ}
    (plain : grammar.isMemoized = false) (plain' : grammar'.isMemoized = false)
    (same : grammar.children.map (fun child => Unmemoized child.2) =
      grammar'.children.map fun child => Unmemoized child.2) :
    Unmemoized grammar = Unmemoized grammar' := by
  have told (grammar : Grammar ι Leaf κ ρ) : (∀ child ∈ grammar.children, Unmemoized child.2) ↔
      ∀ holds ∈ grammar.children.map (fun child => Unmemoized child.2), holds :=
    (List.forall_mem_map (P := id)).symm
  rw [unmemoized_iff plain, unmemoized_iff plain', told, told, same]

variable [Lexicon ι Leaf]

/-- The parsers of a blueprint are all free of memoization, or none is. -/
theorem uniform_unmemoized (shared : List (String × Built ι Leaf)) (blueprint : Blueprint ι Leaf) :
    Uniform Unmemoized (blueprint.build shared) (blueprint.build shared) := by
  induction blueprint with
  | many _ ih | oneOrMore _ ih | peek _ ih | maybe _ ih | negate _ ih | terminated _ ih
  | recoverWith _ _ ih | inspectLeaf _ _ ih | map _ _ ih | mapError _ _ ih | withPosition _ ih
  | token _ _ ih | withFilter _ _ ih | counted _ _ ih =>
    refine ih.bind fun _ _ same => uniform_pure (unmemoized_congr rfl rfl ?_)
    simp only [children, List.map_cons, same]
  | repeatWhile _ _ ih ih' | separatedBy _ _ _ ih ih' | softSequence _ _ ih ih'
  | inspectTimes _ _ _ ih ih' =>
    refine ih.bind fun _ _ same => ih'.bind fun _ _ same' =>
      uniform_pure (unmemoized_congr rfl rfl ?_)
    simp only [children, List.map_cons, same, same']
  | recover _ _ _ _ ih ih' | inspect _ _ _ _ ih ih' =>
    refine ih.bind fun _ _ same => (uniform_each ih').bind fun _ _ same' =>
      uniform_pure (unmemoized_congr rfl rfl ?_)
    have branch i := congrFun same' i
    simp only [children, List.map_cons, List.map_ofFn, Function.comp_def, same, branch]
  | sequence _ _ ih | orderedChoice _ _ ih =>
    refine (uniform_each ih).bind fun _ _ same => ?_
    refine (uniform_demand _ _).bind fun _ _ _ => uniform_pure (unmemoized_congr rfl rfl ?_)
    have part i := congrFun same i
    simp only [children, List.map_ofFn, Function.comp_def, part]
  | predictiveChoice _ _ _ ih ih' =>
    refine (uniform_each fun i => uniform_pair (ih i) (ih' i)).bind fun _ _ same => ?_
    refine (uniform_demand _ _).bind fun _ _ _ => uniform_pure (unmemoized_congr rfl rfl ?_)
    have part i := congrFun same i
    simp only [Prod.mk.injEq] at part
    simp only [children, List.map_append, List.map_ofFn, Function.comp_def, part]
  | dispatch _ _ _ ih =>
    refine (uniform_each ih).bind fun _ _ same => ?_
    refine (uniform_each fun i => uniform_refuse _).bind fun _ _ _ => ?_
    refine (uniform_demand _ _).bind fun _ _ _ => uniform_pure (unmemoized_congr rfl rfl ?_)
    have part i := congrFun same i
    simp only [children, List.map_ofFn, Function.comp_def, part]
  | leaf basic => exact (uniform_refuse _).bind fun _ _ _ => uniform_pure rfl
  | memoize replace strategy _ ih =>
    have numbers : Uniform (fun _ => ()) fresh fresh := fun _ _ => rfl
    refine ih.bind fun _ _ same => numbers.bind fun _ _ _ => uniform_pure ?_
    exact propext (iff_of_false not_unmemoized_memoize not_unmemoized_memoize)
  | reference link =>
    cases link with
    | rule name =>
      have numbers : Uniform (fun _ => ()) fresh fresh := fun _ _ => rfl
      exact numbers.bind fun _ _ _ => uniform_pure (unmemoized_congr rfl rfl rfl)
    | shared name =>
      cases found : shared.lookup name <;> simp only [build, found]
      · exact fun _ _ => rfl
      · exact uniform_pure rfl
  | _ => exact uniform_pure rfl

/-! What a grammar does with nothing memoized. -/

section Steady

omit [Lexicon ι Leaf] in
/-- On one and the same ground positions are the same. -/
theorem discreet_self (ground : Ground ι) (grammar : Grammar ι Leaf κ ρ) :
    Discreet ground ground grammar :=
  fun _ _ _ _ _ _ _ abreast =>
    (abreast.on.lies.position_eq_iff abreast.on'.lies).mpr abreast.length_eq

/-- Cursors abreast on one and the same ground are the same. -/
theorem eq_of_abreast {ground : Ground ι} {filters : List (Filter ι)}
    {cursor cursor' : Cursor ι Payload}
    (abreast : Cursor.Abreast ground ground filters cursor cursor') : cursor = cursor' := by
  have beside : cursor'.Beside [] cursor := by
    refine ⟨⟨?_, ?_⟩, ?_, abreast.data_eq⟩
    · exact abreast.on.lies.metric_eq.trans abreast.on'.lies.metric_eq.symm
    · exact abreast.on.lies.source_eq.trans abreast.on'.lies.source_eq.symm
    · exact abreast.on.filters_eq.trans abreast.on'.filters_eq.symm
  exact beside.eq_of_position (.refl _)
    ((abreast.on.lies.position_eq_iff abreast.on'.lies).mpr abreast.length_eq)

/-- What is built anew for every run and memoizes nothing does not depend on what was parsed
before. -/
theorem steady_afresh [UniformLexicon ι Leaf] (library : Library ι Leaf) (depth : Nat)
    (grammar : Built ι Leaf) :
    (afresh library depth grammar).Steady := by
  intro extent room room' fits fits' cursor cursor' session session' place shared
  obtain ⟨rfl, rfl⟩ := place
  let ground : Ground ι := ⟨cursor.metric, cursor.source, cursor.filters⟩
  have abreast : Cursor.Abreast ground ground [] cursor cursor :=
    ⟨⟨⟨rfl, rfl⟩, rfl⟩, ⟨⟨rfl, rfl⟩, rfl⟩, rfl, rfl⟩
  rw [cursor.extent_eq_span] at fits fits'
  have rules : ∀ rule filters, Parser.Coupled (Parser.view ground ground room room') filters
      (library.parser depth rule) (library.parser depth rule) :=
    coupled_rule fits fits' (fun _ _ _ _ _ => discreet_self _ _) depth
  obtain ⟨paired, kept⟩ := coupled_meaning fits fits' (discreet_self _ grammar) [] rules cursor
    cursor session session' abreast shared
  refine ⟨paired.mono fun rest rest' ends => ⟨⟨eq_of_abreast ends.place, ?_⟩, ends.onward⟩, kept⟩
  rw [ends.place.on.lies.extent_eq, cursor.extent_eq_span]

end Steady

/-! What a blueprint means in a library. -/

/-- From whatever identities it starts, the blueprint is built, to a parser that does as the rule
and memoizes nothing. -/
def Means (library : Library ι Leaf) (blueprint : Blueprint ι Leaf) (rule : Rule ι Leaf) : Prop :=
  ∀ start, ∃ parser last, blueprint.build library.shared start = .ok (parser, last) ∧
    Unmemoized parser ∧ afresh library recursionLimit parser = rule

section Means

variable {library : Library ι Leaf} {blueprint blueprint' outer : Blueprint ι Leaf}
  {rule rule' : Rule ι Leaf} {α β : Type}

theorem Means.steady [UniformLexicon ι Leaf] (means : Means library blueprint rule) :
    rule.Steady := by
  obtain ⟨parser, _, _, _, rfl⟩ := means 0
  exact steady_afresh library recursionLimit parser

omit [Lexicon ι Leaf] in
theorem bind_of_ok {step : Construction α} {next : α → Construction β} {start mid : Nat}
    {value : α} (built : step start = .ok (value, mid)) :
    (step >>= next) start = next value mid := by
  change (step start >>= fun (value, mid) => next value mid) = _
  rw [built]
  rfl

/-- A node with one grammar inside does what it makes of that one's meaning. -/
theorem Means.node (wrap : Built ι Leaf → Built ι Leaf) (of : Rule ι Leaf → Rule ι Leaf)
    (means : Means library blueprint rule)
    (builds : outer.build library.shared = do return wrap (← blueprint.build library.shared))
    (inside : ∀ inner, (wrap inner).children = [([], inner)])
    (plain : ∀ inner, (wrap inner).isMemoized = false)
    (runs : ∀ inner, afresh library recursionLimit (wrap inner) =
      of (afresh library recursionLimit inner)) :
    Means library outer (of rule) := by
  intro start
  obtain ⟨parser, last, built, unmemoized, rfl⟩ := means start
  refine ⟨wrap parser, last, ?_, ?_, runs parser⟩
  · rw [builds, bind_of_ok built]
    rfl
  · rw [unmemoized_iff (plain parser), inside]
    simpa using unmemoized

/-- So does a node with two grammars inside. -/
theorem Means.node₂ (wrap : Built ι Leaf → Built ι Leaf → Built ι Leaf)
    (of : Rule ι Leaf → Rule ι Leaf → Rule ι Leaf) (means : Means library blueprint rule)
    (means' : Means library blueprint' rule')
    (builds : outer.build library.shared =
      do return wrap (← blueprint.build library.shared) (← blueprint'.build library.shared))
    (inside : ∀ inner inner', (wrap inner inner').children = [([], inner), ([], inner')])
    (plain : ∀ inner inner', (wrap inner inner').isMemoized = false)
    (runs : ∀ inner inner', afresh library recursionLimit (wrap inner inner') =
      of (afresh library recursionLimit inner) (afresh library recursionLimit inner')) :
    Means library outer (of rule rule') := by
  intro start
  obtain ⟨parser, mid, built, unmemoized, rfl⟩ := means start
  obtain ⟨parser', last, built', unmemoized', rfl⟩ := means' mid
  refine ⟨wrap parser parser', last, ?_, ?_, runs parser parser'⟩
  · rw [builds, bind_of_ok built, bind_of_ok built']
    rfl
  · rw [unmemoized_iff (plain parser parser'), inside]
    simpa using ⟨unmemoized, unmemoized'⟩

theorem Means.many (means : Means library blueprint rule) :
    Means library (.many blueprint) (Parser.map .list (Parser.many rule)) :=
  means.node .many (fun rule => Parser.map .list (Parser.many rule)) rfl
    (fun _ => rfl) (fun _ => rfl) fun _ => rfl

theorem Means.oneOrMore (means : Means library blueprint rule) :
    Means library (.oneOrMore blueprint) (Parser.map .list (Parser.oneOrMore rule)) :=
  means.node .oneOrMore (fun rule => Parser.map .list (Parser.oneOrMore rule)) rfl
    (fun _ => rfl) (fun _ => rfl) fun _ => rfl

theorem Means.maybe (means : Means library blueprint rule) :
    Means library (.maybe blueprint) (Parser.map Value.ofOption (Parser.maybe rule)) :=
  means.node .maybe (fun rule => Parser.map Value.ofOption (Parser.maybe rule)) rfl
    (fun _ => rfl) (fun _ => rfl) fun _ => rfl

theorem Means.map (means : Means library blueprint rule) (f : Value → Value) :
    Means library (.map f blueprint) (Parser.map f rule) :=
  means.node (.map f) (Parser.map f) rfl (fun _ => rfl) (fun _ => rfl) fun _ => rfl

theorem Means.repeatWhile (means : Means library blueprint rule)
    (means' : Means library blueprint' rule') :
    Means library (.repeatWhile blueprint blueprint')
      (Parser.map .list (Parser.repeatWhile rule rule')) :=
  means.node₂ .repeatWhile
    (fun rule rule' => Parser.map .list (Parser.repeatWhile rule rule')) means' rfl
    (fun _ _ => rfl) (fun _ _ => rfl) fun _ _ => rfl

theorem Means.separatedBy (form : Parser.ListForm) (means : Means library blueprint rule)
    (means' : Means library blueprint' rule') :
    Means library (.separatedBy form blueprint blueprint')
      (Parser.map .list (Parser.separatedBy form rule rule')) :=
  means.node₂ (.separatedBy form)
    (fun rule rule' => Parser.map .list (Parser.separatedBy form rule rule')) means' rfl
    (fun _ _ => rfl) (fun _ _ => rfl) fun _ _ => rfl

theorem each_ok {n : Nat} {step : Fin n → Construction β} {property : Fin n → β → Prop}
    (ok : ∀ i start, ∃ value last, step i start = .ok (value, last) ∧ property i value) :
    ∀ start, ∃ values last, each n step start = .ok (values, last) ∧
      ∀ i, property i (values i) := by
  induction n with
  | zero => exact fun start => ⟨_, start, rfl, nofun⟩
  | succ n ih =>
    intro start
    obtain ⟨head, mid, first, holds⟩ := ok 0 start
    obtain ⟨tail, last, more, hold⟩ := ih (fun i => ok i.succ) mid
    refine ⟨Fin.cases head tail, last, ?_, Fin.cases holds hold⟩
    unfold each
    rw [bind_of_ok first, bind_of_ok more]
    rfl

theorem Means.sequence {n : Nat} {parts : Fin (n + 1) → Blueprint ι Leaf}
    (rules : Fin (n + 1) → Rule ι Leaf) (means : ∀ i, Means library (parts i) (rules i)) :
    Means library (.sequence (n + 1) parts)
      (Parser.map .list (Parser.sequence (List.ofFn rules))) := by
  intro start
  obtain ⟨parsers, last, built, holds⟩ := each_ok means start
  refine ⟨.sequence (n + 1) parsers, last, ?_, ?_, ?_⟩
  · unfold build
    rw [bind_of_ok built]
    rfl
  · rw [unmemoized_iff rfl]
    intro child member
    obtain ⟨i, rfl⟩ := List.mem_ofFn.mp member
    exact (holds i).1
  · have same : (fun i => afresh library recursionLimit (parsers i)) = rules :=
      funext fun i => (holds i).2
    rw [← same]
    rfl

/-- A sequence of listed grammars means the sequence of their meanings. -/
theorem Means.sequenceOf (parts : List (Blueprint ι Leaf × Rule ι Leaf)) (some : parts ≠ [])
    (means : ∀ part ∈ parts, Means library part.1 part.2) :
    Means library (sequenceOf (parts.map Prod.fst))
      (Parser.map .list (Parser.sequence (parts.map Prod.snd))) := by
  cases parts with
  | nil => exact absurd rfl some
  | cons part parts =>
    let rules (i : Fin ((parts.map Prod.fst).length + 1)) : Rule ι Leaf :=
      ((part :: parts).get ⟨i.val, by simpa using i.isLt⟩).2
    have listed : List.ofFn rules = (part :: parts).map Prod.snd := by
      apply List.ext_getElem
      · simp
      · intro i _ _
        rw [List.getElem_ofFn, List.getElem_map]
        rfl
    rw [← listed]
    apply Means.sequence rules
    intro i
    have within : i.val < (part :: parts).length := by simpa using i.isLt
    have named : ((part :: parts).map Prod.fst)[i] = ((part :: parts)[i.val]).1 :=
      List.getElem_map _
    exact named.symm ▸ means _ (List.getElem_mem within)

end Means

section Benches

variable {rules shared : List (String × Blueprint ι Leaf)} {library : Library ι Leaf}
  {blueprint blueprint' : Blueprint ι Leaf} {rule rule' : Rule ι Leaf}
  {cursor : Cursor ι Payload} {reply reply' : Reply (Cursor ι Payload) Failure Value}

/-- The grammar can be built, and no parser that it can come to run is memoized. -/
def Direct (rules shared : List (String × Blueprint ι Leaf)) (blueprint : Blueprint ι Leaf) :
    Prop :=
  ∃ bench, Bench.assemble rules shared blueprint false = .ok bench ∧ bench.Throughout Unmemoized

/-- On a bench for the grammar, with a table or without, whatever was parsed there before, the reply
at the cursor is this one. -/
def Replies (rules shared : List (String × Blueprint ι Leaf)) (blueprint : Blueprint ι Leaf)
    (cursor : Cursor ι Payload) (reply : Reply (Cursor ι Payload) Failure Value) : Prop :=
  ∀ table, ∃ bench, Bench.assemble rules shared blueprint table = .ok bench ∧
    ∀ steps : List (Bench.Step ι), ((steps.foldl Bench.perform bench).parse cursor).1 = reply

/-- Two grammars have one reply at the cursor. -/
def Concur (rules shared : List (String × Blueprint ι Leaf))
    (blueprint blueprint' : Blueprint ι Leaf) (cursor : Cursor ι Payload) : Prop :=
  ∃ reply, Replies rules shared blueprint cursor reply ∧
    Replies rules shared blueprint' cursor reply

theorem Replies.unique (replies : Replies rules shared blueprint cursor reply)
    (replies' : Replies rules shared blueprint cursor reply') : reply = reply' := by
  obtain ⟨bench, assembled, replied⟩ := replies false
  obtain ⟨bench', assembled', replied'⟩ := replies' false
  cases assembled.symm.trans assembled'
  exact (replied []).symm.trans (replied' [])

/-- The library of these rules and shared parsers, with no rule that memoizes. -/
structure Shelf (rules shared : List (String × Blueprint ι Leaf)) (library : Library ι Leaf) :
    Prop where
  rules_eq : library.rules = rules
  built : ∃ next, Bench.buildShared shared [] 0 = .ok (library.shared, next)
  unmemoized : ∀ rule start parser next, library.buildRule rule start = .ok (parser, next) →
    Unmemoized parser

theorem Shelf.unique {library' : Library ι Leaf} (shelf : Shelf rules shared library)
    (shelf' : Shelf rules shared library') : library = library' := by
  obtain ⟨next, built⟩ := shelf.built
  obtain ⟨next', built'⟩ := shelf'.built
  have same := built.symm.trans built'
  have rules := shelf.rules_eq.trans shelf'.rules_eq.symm
  cases library
  cases library'
  simp_all

/-- A grammar whose calls are direct has a meaning in its library. -/
theorem Direct.means (direct : Direct rules shared blueprint) :
    ∃ library rule, Shelf rules shared library ∧ Means library blueprint rule := by
  obtain ⟨bench, assembled, unmemoized⟩ := direct
  obtain ⟨built, next, parser, last, first, second, rfl⟩ := assemble_ok assembled
  refine ⟨⟨rules, built⟩, afresh ⟨rules, built⟩ recursionLimit parser,
    ⟨rfl, ⟨next, first⟩, unmemoized.rules⟩, ?_⟩
  intro start
  let resolve := Library.parser ⟨rules, built⟩ recursionLimit
  have uniform : Uniform (meaning resolve) (blueprint.build built) (blueprint.build built) :=
    uniform_build built blueprint
  have alike := uniform next start
  have alike' := uniform_unmemoized built blueprint next start
  rw [second] at alike alike'
  cases again : blueprint.build built start with
  | error violation => rw [again] at alike; cases alike
  | ok result =>
    rw [again] at alike alike'
    refine ⟨result.1, result.2, rfl, ?_, (Except.ok.inj alike).symm⟩
    have kept : Unmemoized parser = Unmemoized result.1 := Except.ok.inj alike'
    exact kept.mp unmemoized.parser

/-- There is a bench for a grammar with a meaning. -/
theorem Means.assemble (shelf : Shelf rules shared library) (means : Means library blueprint rule)
    (table : Bool) :
    ∃ bench, Bench.assemble rules shared blueprint table = .ok bench ∧ bench.library = library ∧
      bench.Throughout Unmemoized ∧ afresh library recursionLimit bench.parser = rule := by
  obtain ⟨next, first⟩ := shelf.built
  obtain ⟨parser, last, second, unmemoized, same⟩ := means next
  refine ⟨⟨library, parser, .new (if table then some .empty else none) ⟨last, ∅, []⟩⟩, ?_, rfl,
    ⟨unmemoized, shelf.unmemoized⟩, same⟩
  unfold Bench.assemble
  rw [first]
  change (blueprint.build library.shared next >>= _) = _
  rw [second]
  cases shelf.rules_eq
  rfl

theorem Means.direct (shelf : Shelf rules shared library) (means : Means library blueprint rule) :
    Direct rules shared blueprint := by
  obtain ⟨bench, assembled, _, unmemoized, _⟩ := means.assemble shelf false
  exact ⟨bench, assembled, unmemoized⟩

variable [UniformLexicon ι Leaf]

theorem Means.replies (shelf : Shelf rules shared library) (means : Means library blueprint rule)
    (cursor : Cursor ι Payload) :
    Replies rules shared blueprint cursor (rule.replyFrom cursor) := by
  intro table
  obtain ⟨bench, assembled, rfl, unmemoized, same⟩ := means.assemble shelf table
  refine ⟨bench, assembled, fun steps => ?_⟩
  obtain ⟨session, fits, replied⟩ := parse_afresh assembled unmemoized steps cursor
  rw [replied, same]
  exact means.steady.replyFrom_eq fits

/-- What a grammar replies is what its meaning replies. -/
theorem Means.replies_iff (shelf : Shelf rules shared library)
    (means : Means library blueprint rule) :
    Replies rules shared blueprint cursor reply ↔ rule.replyFrom cursor = reply := by
  constructor
  · exact (means.replies shelf cursor).unique
  · intro same
    exact same ▸ means.replies shelf cursor

theorem Means.concur (shelf : Shelf rules shared library) (means : Means library blueprint rule)
    (means' : Means library blueprint' rule')
    (same : rule.replyFrom cursor = rule'.replyFrom cursor) :
    Concur rules shared blueprint blueprint' cursor :=
  ⟨_, means.replies shelf cursor, same ▸ means'.replies shelf cursor⟩

end Benches

end Packrat.Grammar
