import Packrat.Grammar.Run

/-! The parts of a grammar, each with the filters it stands behind, the grammar without its
memoization, and the grammar with another in place of its references. -/

namespace Packrat.Grammar

variable {ι Leaf κ ρ : Type}

/-- The grammars directly inside a grammar, each with the filter in between. -/
def children : Grammar ι Leaf κ ρ → List (List (Filter ι) × Grammar ι Leaf κ ρ)
  | .many inner | .oneOrMore inner | .peek inner | .maybe inner | .negate inner
  | .terminated inner | .recoverWith inner _ | .inspectLeaf inner _ | .map _ inner
  | .mapError _ inner | .withPosition inner | .token _ inner | .counted _ inner
  | .memoize _ _ inner => [([], inner)]
  | .repeatWhile first second | .separatedBy _ first second | .softSequence first second
  | .inspectTimes first _ second => [([], first), ([], second)]
  | .recover inner _ _ branches | .inspect inner _ _ branches =>
    ([], inner) :: List.ofFn fun i => ([], branches i)
  | .sequence _ parts | .orderedChoice _ parts | .dispatch _ _ parts =>
    List.ofFn fun i => ([], parts i)
  | .predictiveChoice _ lookaheads continuations =>
    (List.ofFn fun i => ([], lookaheads i)) ++ List.ofFn fun i => ([], continuations i)
  | .withFilter filter inner => [([filter], inner)]
  | _ => []

/-- A property passes from the grammars directly inside a grammar to the grammar. -/
theorem inwards {motive : Grammar ι Leaf κ ρ → Prop}
    (step : ∀ grammar, (∀ child ∈ grammar.children, motive child.2) → motive grammar)
    (grammar : Grammar ι Leaf κ ρ) : motive grammar := by
  have one {more : List (Filter ι)} {inner} (ih : motive inner) :
      ∀ child ∈ [(more, inner)], motive child.2 := by
    simp [ih]
  have two {first second} (ih : motive first) (ih' : motive second) :
      ∀ child ∈ [(([] : List (Filter ι)), first), ([], second)], motive child.2 := by
    simp [ih, ih']
  have family {n : Nat} {parts : Fin n → Grammar ι Leaf κ ρ} (ih : ∀ i, motive (parts i)) :
      ∀ child ∈ List.ofFn fun i => (([] : List (Filter ι)), parts i), motive child.2 := by
    simp [List.mem_ofFn, ih]
  induction grammar with
  | many _ ih | oneOrMore _ ih | peek _ ih | maybe _ ih | negate _ ih | terminated _ ih
  | recoverWith _ _ ih | inspectLeaf _ _ ih | map _ _ ih | mapError _ _ ih | withPosition _ ih
  | token _ _ ih | withFilter _ _ ih | counted _ _ ih | memoize _ _ _ ih =>
    exact step _ (one ih)
  | repeatWhile _ _ ih ih' | separatedBy _ _ _ ih ih' | softSequence _ _ ih ih'
  | inspectTimes _ _ _ ih ih' => exact step _ (two ih ih')
  | recover _ _ _ _ ih ih' | inspect _ _ _ _ ih ih' =>
    exact step _ (List.forall_mem_cons.mpr ⟨ih, family ih'⟩)
  | sequence _ _ ih | orderedChoice _ _ ih | dispatch _ _ _ ih => exact step _ (family ih)
  | predictiveChoice _ _ _ ih ih' =>
    exact step _ (List.forall_mem_append.mpr ⟨family ih, family ih'⟩)
  | _ => exact step _ nofun

/-- A grammar stands somewhere inside another, behind these filters. -/
inductive Part : Grammar ι Leaf κ ρ → List (Filter ι) → Grammar ι Leaf κ ρ → Prop where
  | here : Part grammar [] grammar
  | inside {inner} (child : (more, inner) ∈ grammar.children) (part : Part inner filters node) :
      Part grammar (filters ++ more) node

theorem Part.trans {grammar middle node : Grammar ι Leaf κ ρ} {filters more : List (Filter ι)}
    (outer : Part grammar more middle) (inner : Part middle filters node) :
    Part grammar (filters ++ more) node := by
  induction outer generalizing filters with
  | here => rwa [List.append_nil]
  | inside child part ih => rw [← List.append_assoc]; exact .inside child (ih inner)

/-- With nothing inside, a grammar is its only part. -/
theorem Part.alone {grammar node : Grammar ι Leaf κ ρ} {filters : List (Filter ι)}
    (part : Part grammar filters node) (bare : grammar.children = []) :
    filters = [] ∧ node = grammar := by
  cases part with
  | here => exact ⟨rfl, rfl⟩
  | inside child => rw [bare] at child; cases child

/-- With one grammar inside, the parts are itself and the parts of that one. -/
theorem Part.around {grammar inner node : Grammar ι Leaf κ ρ} {filters more : List (Filter ι)}
    (part : Part grammar filters node) (only : grammar.children = [(more, inner)]) :
    (filters = [] ∧ node = grammar) ∨ ∃ front, filters = front ++ more ∧ Part inner front node := by
  cases part with
  | here => exact .inl ⟨rfl, rfl⟩
  | inside child part =>
    rw [only] at child
    cases List.mem_singleton.mp child
    exact .inr ⟨_, rfl, part⟩

/-- With two grammars inside, the parts are itself and the parts of either. -/
theorem Part.either {grammar first second node : Grammar ι Leaf κ ρ} {filters : List (Filter ι)}
    (part : Part grammar filters node) (two : grammar.children = [([], first), ([], second)]) :
    (filters = [] ∧ node = grammar) ∨ Part first filters node ∨ Part second filters node := by
  cases part with
  | here => exact .inl ⟨rfl, rfl⟩
  | inside child part =>
    rw [two] at child
    rcases List.mem_cons.mp child with same | child
    · cases same
      rw [List.append_nil]
      exact .inr (.inl part)
    · cases List.mem_singleton.mp child
      rw [List.append_nil]
      exact .inr (.inr part)

def Closed (grammar : Grammar ι Leaf κ ρ) : Prop :=
  ∀ filters target, ¬ Part grammar filters (.reference target)

theorem Closed.child {grammar inner : Grammar ι Leaf κ ρ} {more : List (Filter ι)}
    (closed : Closed grammar) (child : (more, inner) ∈ grammar.children) : Closed inner :=
  fun _ _ part => closed _ _ (.inside child part)

/-- The grammar with every memoized node replaced by what it memoizes. -/
def erase : Grammar ι Leaf κ ρ → Grammar ι Leaf κ ρ
  | .many element => .many (erase element)
  | .oneOrMore element => .oneOrMore (erase element)
  | .repeatWhile condition body => .repeatWhile (erase condition) (erase body)
  | .separatedBy form element separator => .separatedBy form (erase element) (erase separator)
  | .peek inner => .peek (erase inner)
  | .maybe inner => .maybe (erase inner)
  | .softSequence first second => .softSequence (erase first) (erase second)
  | .negate inner => .negate (erase inner)
  | .terminated inner => .terminated (erase inner)
  | .recover inner n select branches => .recover (erase inner) n select fun i => erase (branches i)
  | .recoverWith inner f => .recoverWith (erase inner) f
  | .inspect inner n select branches => .inspect (erase inner) n select fun i => erase (branches i)
  | .inspectTimes inner count element => .inspectTimes (erase inner) count (erase element)
  | .inspectLeaf inner select => .inspectLeaf (erase inner) select
  | .sequence n parts => .sequence n fun i => erase (parts i)
  | .orderedChoice n alternatives => .orderedChoice n fun i => erase (alternatives i)
  | .predictiveChoice n lookaheads continuations =>
    .predictiveChoice n (fun i => erase (lookaheads i)) fun i => erase (continuations i)
  | .dispatch n keys branches => .dispatch n keys fun i => erase (branches i)
  | .map f inner => .map f (erase inner)
  | .mapError f inner => .mapError f (erase inner)
  | .withPosition inner => .withPosition (erase inner)
  | .token kind inner => .token kind (erase inner)
  | .withFilter filter inner => .withFilter filter (erase inner)
  | .counted name inner => .counted name (erase inner)
  | .memoize _ _ inner => erase inner
  | grammar => grammar

/-- To run the grammar without its memoization is to run the grammar and memoize nothing. -/
theorem runWith_erase [Lexicon ι Leaf] (memoize : Bool → κ → Rule ι Leaf → Rule ι Leaf)
    (resolve : ρ → Rule ι Leaf) (grammar : Grammar ι Leaf κ ρ) :
    runWith memoize resolve grammar.erase = runWith (fun _ _ parser => parser) resolve grammar := by
  induction grammar <;> simp_all [erase, runWith]

/-- The grammar with another in place of its references. -/
def fill : (context content : Grammar ι Leaf κ ρ) → Grammar ι Leaf κ ρ
  | .many element, content => .many (fill element content)
  | .oneOrMore element, content => .oneOrMore (fill element content)
  | .repeatWhile condition body, content =>
    .repeatWhile (fill condition content) (fill body content)
  | .separatedBy form element separator, content =>
    .separatedBy form (fill element content) (fill separator content)
  | .peek inner, content => .peek (fill inner content)
  | .maybe inner, content => .maybe (fill inner content)
  | .softSequence first second, content =>
    .softSequence (fill first content) (fill second content)
  | .negate inner, content => .negate (fill inner content)
  | .terminated inner, content => .terminated (fill inner content)
  | .recover inner n select branches, content =>
    .recover (fill inner content) n select fun i => fill (branches i) content
  | .recoverWith inner f, content => .recoverWith (fill inner content) f
  | .inspect inner n select branches, content =>
    .inspect (fill inner content) n select fun i => fill (branches i) content
  | .inspectTimes inner count element, content =>
    .inspectTimes (fill inner content) count (fill element content)
  | .inspectLeaf inner select, content => .inspectLeaf (fill inner content) select
  | .sequence n parts, content => .sequence n fun i => fill (parts i) content
  | .orderedChoice n alternatives, content =>
    .orderedChoice n fun i => fill (alternatives i) content
  | .predictiveChoice n lookaheads continuations, content =>
    .predictiveChoice n (fun i => fill (lookaheads i) content) fun i =>
      fill (continuations i) content
  | .dispatch n keys branches, content => .dispatch n keys fun i => fill (branches i) content
  | .map f inner, content => .map f (fill inner content)
  | .mapError f inner, content => .mapError f (fill inner content)
  | .withPosition inner, content => .withPosition (fill inner content)
  | .token kind inner, content => .token kind (fill inner content)
  | .withFilter filter inner, content => .withFilter filter (fill inner content)
  | .counted name inner, content => .counted name (fill inner content)
  | .memoize replace mark inner, content => .memoize replace mark (fill inner content)
  | .reference _, content => content
  | context, _ => context

/-- To run the filled grammar is to run the grammar and resolve its references by the content. -/
theorem runWith_fill [Lexicon ι Leaf] (memoize : Bool → κ → Rule ι Leaf → Rule ι Leaf)
    (resolve : ρ → Rule ι Leaf) (context content : Grammar ι Leaf κ ρ) :
    runWith memoize resolve (context.fill content) =
      runWith memoize (fun _ => runWith memoize resolve content) context := by
  induction context <;> simp_all [fill, runWith]

/-- Filling passes to the grammars directly inside. -/
theorem child_fill {context inner : Grammar ι Leaf κ ρ} {more : List (Filter ι)}
    (child : (more, inner) ∈ context.children) (content : Grammar ι Leaf κ ρ) :
    (more, inner.fill content) ∈ (context.fill content).children := by
  have filled : (context.fill content).children =
      context.children.map fun child => (child.1, child.2.fill content) := by
    cases context with
    | reference => cases child
    | _ => simp [fill, children, List.map_ofFn, Function.comp_def]
  rw [filled]
  exact List.mem_map.mpr ⟨_, child, rfl⟩

/-- Where a reference stood, the parts of the content are parts now. -/
theorem Part.fill {context content node : Grammar ι Leaf κ ρ} {filters more : List (Filter ι)}
    {target : ρ} (hole : Part context filters (.reference target)) (part : Part content more node) :
    Part (context.fill content) (more ++ filters) node := by
  generalize same : Grammar.reference target = reference at hole
  induction hole with
  | here =>
    subst same
    rwa [List.append_nil]
  | inside child _ ih =>
    rw [← List.append_assoc]
    exact .inside (child_fill child content) (ih same)

end Packrat.Grammar
