import Packrat.Proofs.Grammar.Construction
import Packrat.Proofs.Grammar.Parts

/-! Identities of memoized nodes and of deferred parsers. Building counts upwards and inner parsers
come first, so two nodes with one identity are the same node, and no node stands inside another of
its identity. -/

namespace Packrat.Grammar

variable {ι Leaf α β : Type}

/-- The node has an identity: a memoized one for what it memoizes, a reference for itself. -/
inductive Carries : Built ι Leaf → Nat → Built ι Leaf → Prop where
  | memoize {inner : Built ι Leaf} : Carries (.memoize replace (.parser number) inner) number inner
  | reference : Carries (.reference ⟨number, rule⟩) number (.reference ⟨number, rule⟩)

/-- Nodes with identities, told by what each has its identity for. -/
abbrev Nodes (ι Leaf : Type) : Type := Nat → Built ι Leaf → Prop

def nodes (grammar : Built ι Leaf) : Nodes ι Leaf := fun number node =>
  ∃ filters whole, Part grammar filters whole ∧ Carries whole number node

/-- Nodes that are old or have identities between two numbers, and tell what they are for. -/
structure Numbered (low high : Nat) (old new : Nodes ι Leaf) : Prop where
  range : new number node → old number node ∨ low ≤ number ∧ number < high
  same : new number node → new number node' → node = node'
  below {inner} : new number node → Part node filters (.memoize replace (.parser number') inner) →
    number' < number

/-- Nodes that all have identities below a number. -/
abbrev Settled (next : Nat) (old : Nodes ι Leaf) : Prop := Numbered 0 next (fun _ _ => False) old

variable {low mid high : Nat} {old new new' : Nodes ι Leaf}

theorem Settled.id_lt {number : Nat} (settled : Settled low old) (member : old number node) :
    number < low := by
  rcases settled.range member with impossible | between
  · exact impossible.elim
  · exact between.2

theorem Numbered.mono (numbered : Numbered low high old new)
    (fewer : ∀ number node, new' number node → new number node) : Numbered low high old new' where
  range member := numbered.range (fewer _ _ member)
  same member member' := numbered.same (fewer _ _ member) (fewer _ _ member')
  below member := numbered.below (fewer _ _ member)

theorem Settled.numbered (settled : Settled low old)
    (known : ∀ number node, new number node → old number node) : Numbered low low old new where
  range member := .inl (known _ _ member)
  same member member' := settled.same (known _ _ member) (known _ _ member')
  below member := settled.below (known _ _ member)

/-- Nodes numbered one after the other share old ones only. -/
theorem Numbered.union (first : Numbered low mid old new) (second : Numbered mid high old new')
    (settled : Settled low old) (ascending : low ≤ mid ∧ mid ≤ high) :
    Numbered low high old fun number node => new number node ∨ new' number node := by
  -- What both have is old, since each takes its new identities from a range of its own.
  have across {number node node'} (member : new number node) (member' : new' number node') :
      node = node' := by
    rcases first.range member with known | between
    · rcases second.range member' with known' | between'
      · exact settled.same known known'
      · have early := settled.id_lt known
        omega
    · rcases second.range member' with known' | between'
      · have early := settled.id_lt known'
        omega
      · omega
  constructor
  · rintro number node (member | member)
    · exact (first.range member).imp_right fun between => ⟨between.1, by omega⟩
    · exact (second.range member).imp_right fun between => ⟨by omega, between.2⟩
  · rintro number node node' (member | member) (member' | member')
    · exact first.same member member'
    · exact across member member'
    · exact (across member' member).symm
    · exact second.same member member'
  · rintro number node _ _ _ _ (member | member)
    · exact first.below member
    · exact second.below member

theorem Numbered.settled (numbered : Numbered low high old new) (settled : Settled low old)
    (up : low ≤ high) : Settled high new where
  range member := by
    rcases numbered.range member with known | between
    · exact .inr ⟨Nat.zero_le _, Nat.lt_of_lt_of_le (settled.id_lt known) up⟩
    · exact .inr ⟨Nat.zero_le _, between.2⟩
  same := numbered.same
  below := numbered.below

theorem Settled.union (settled : Settled low old) (numbered : Numbered low high old new)
    (up : low ≤ high) : Settled high fun number node => old number node ∨ new number node := by
  have kept : Numbered low low old old := settled.numbered fun _ _ member => member
  exact (kept.union numbered settled ⟨Nat.le_refl _, up⟩).settled settled up

theorem nodes_of_part {grammar : Built ι Leaf} {number : Nat}
    (member : nodes grammar number node) :
    Carries grammar number node ∨ ∃ child ∈ grammar.children, nodes child.2 number node := by
  obtain ⟨filters, whole, part, carries⟩ := member
  cases part with
  | here => exact .inl carries
  | inside child part => exact .inr ⟨_, child, _, _, part, carries⟩

/-- Where a node has no identity, its nodes are those of its children. -/
theorem nodes_of_children {grammar : Built ι Leaf}
    (bare : ∀ number inner, ¬ Carries grammar number inner)
    (covers : ∀ child ∈ grammar.children, ∀ number node,
      nodes child.2 number node → new number node) :
    ∀ number node, nodes grammar number node → new number node := by
  intro number node member
  rcases nodes_of_part member with carries | ⟨child, among, deeper⟩
  · exact absurd carries (bare _ _)
  · exact covers child among number node deeper

/-- The step counts upwards and numbers the nodes of its value. -/
def Numbers (old : Nodes ι Leaf) (step : Construction β) (of : β → Nodes ι Leaf) : Prop :=
  ∀ low value high, Settled low old → step low = .ok (value, high) →
    low ≤ high ∧ Numbered low high old (of value)

open Construction

theorem numbers_pure {of : β → Nodes ι Leaf} {value : β}
    (covers : ∀ number node, of value number node → old number node) :
    Numbers old (pure value) of := by
  intro low result high settled built
  cases pure_ok built
  exact ⟨Nat.le_refl _, settled.numbered covers⟩

/-- What a step numbers is old for the steps after it. -/
theorem Numbers.bind {of : α → Nodes ι Leaf} {of' : β → Nodes ι Leaf} {step : Construction α}
    {next : α → Construction β} (first : Numbers old step of)
    (second : ∀ value,
      Numbers (fun number node => old number node ∨ of value number node) (next value) of') :
    Numbers old (step >>= next) of' := by
  intro low result high settled built
  obtain ⟨value, mid, built, built'⟩ := bind_ok built
  obtain ⟨up, numbered⟩ := first _ _ _ settled built
  obtain ⟨up', numbered'⟩ := second _ _ _ _ (settled.union numbered up) built'
  refine ⟨Nat.le_trans up up', ⟨fun member => ?_, numbered'.same, numbered'.below⟩⟩
  rcases numbered'.range member with (known | earlier) | between
  · exact .inl known
  · exact (numbered.range earlier).imp_right fun between => ⟨between.1, by omega⟩
  · exact .inr ⟨by omega, between.2⟩

theorem numbers_each {of : β → Nodes ι Leaf} {n : Nat} {step : Fin n → Construction β}
    (numbers : ∀ i old', (∀ number node, old number node → old' number node) →
      Numbers old' (step i) of) :
    Numbers old (each n step) fun parts number node => ∃ i, of (parts i) number node := by
  induction n generalizing old with
  | zero => exact numbers_pure fun _ _ ⟨i, _⟩ => i.elim0
  | succ n ih =>
    refine (numbers 0 old fun _ _ known => known).bind fun head => ?_
    refine (ih fun i old' more => ?_).bind fun tail => numbers_pure ?_
    · exact numbers i.succ old' fun _ _ known => more _ _ (.inl known)
    · rintro number node ⟨i, member⟩
      induction i using Fin.cases with
      | zero => exact .inl (.inr member)
      | succ i => exact .inr ⟨i, member⟩

theorem numbers_pair {of : α → Nodes ι Leaf} {of' : β → Nodes ι Leaf} {first : Construction α}
    {second : Construction β} (numbers : Numbers old first of)
    (numbers' : ∀ value,
      Numbers (fun number node => old number node ∨ of value number node) second of') :
    Numbers old (do return (← first, ← second)) fun pair number node =>
      of pair.1 number node ∨ of' pair.2 number node := by
  refine numbers.bind fun value => (numbers' value).bind fun value' => numbers_pure ?_
  rintro number node (member | member)
  · exact .inl (.inr member)
  · exact .inr member

theorem numbers_refuse (violation : Option Violation) :
    Numbers old (refuse violation) fun _ _ _ => False := by
  intro low value high settled built
  cases refuse_ok built
  exact ⟨Nat.le_refl _, settled.numbered fun _ _ => False.elim⟩

theorem numbers_demand (holds : Bool) (violation : Violation) :
    Numbers old (demand holds violation) fun _ _ _ => False := by
  intro low value high settled built
  cases demand_ok built
  exact ⟨Nat.le_refl _, settled.numbered fun _ _ => False.elim⟩

/-- The identity a node gets is greater than those inside it. -/
theorem Numbered.memoize {low mid : Nat} {old : Nodes ι Leaf} {grammar : Built ι Leaf}
    (numbered : Numbered low mid old (nodes grammar)) (settled : Settled low old)
    (up : low ≤ mid) (replace : Bool) (strategy : Memo.Strategy) :
    Numbered low (mid + 1) old (nodes (.memoize replace (strategy.key mid) grammar)) := by
  have early {number node} (member : nodes grammar number node) : number < mid := by
    rcases numbered.range member with known | between
    · exact Nat.lt_of_lt_of_le (settled.id_lt known) up
    · exact between.2
  have cases {number node}
      (member : nodes (.memoize replace (strategy.key mid) grammar) number node) :
      (number = mid ∧ node = grammar) ∨ nodes grammar number node := by
    rcases nodes_of_part member with carries | ⟨child, among, deeper⟩
    · cases strategy with
      | byParser => cases carries; exact .inl ⟨rfl, rfl⟩
      | byName name => cases carries
    · cases List.mem_singleton.mp among
      exact .inr deeper
  constructor
  · intro number node member
    rcases cases member with ⟨rfl, rfl⟩ | member
    · exact .inr ⟨up, Nat.lt_succ_self _⟩
    · exact (numbered.range member).imp_right fun between => ⟨between.1, by omega⟩
  · intro number node node' member member'
    rcases cases member with ⟨rfl, rfl⟩ | member <;>
      rcases cases member' with ⟨same, rfl⟩ | member'
    · rfl
    · exact absurd (early member') (Nat.lt_irrefl _)
    · exact absurd (early member) (same ▸ Nat.lt_irrefl _)
    · exact numbered.same member member'
  · intro number node _ _ _ _ member deeper
    rcases cases member with ⟨rfl, rfl⟩ | member
    · exact early ⟨_, _, deeper, .memoize⟩
    · exact numbered.below member deeper

/-- A reference gets an identity of its own. -/
theorem numbered_reference {old : Nodes ι Leaf} (rule : String) :
    Numbered low (low + 1) old (nodes (.reference ⟨low, rule⟩)) := by
  have only {number} {node : Built ι Leaf} (member : nodes (.reference ⟨low, rule⟩) number node) :
      number = low ∧ node = .reference ⟨low, rule⟩ := by
    rcases nodes_of_part member with carries | ⟨child, among, _⟩
    · cases carries
      exact ⟨rfl, rfl⟩
    · cases among
  constructor
  · intro number node member
    obtain ⟨rfl, _⟩ := only member
    exact .inr ⟨Nat.le_refl _, Nat.lt_succ_self _⟩
  · intro number node node' member member'
    exact (only member).2.trans (only member').2.symm
  · intro number node _ _ _ _ member deeper
    obtain ⟨_, rfl⟩ := only member
    cases deeper with
    | inside child => cases child

def sharedNodes (shared : List (String × Built ι Leaf)) : Nodes ι Leaf := fun number node =>
  ∃ entry ∈ shared, nodes entry.2 number node

theorem sharedNodes_of_lookup {shared : List (String × Built ι Leaf)} {parser : Built ι Leaf}
    (found : shared.lookup name = some parser) :
    ∀ number node, nodes parser number node → sharedNodes shared number node := by
  intro number node member
  obtain ⟨front, back, rfl, _⟩ := List.lookup_eq_some_iff.mp found
  exact ⟨(name, parser), by simp, member⟩

/-- Building a blueprint numbers its nodes, where those of the shared parsers are old. -/
theorem numbers_build [Lexicon ι Leaf] {shared : List (String × Built ι Leaf)}
    (blueprint : Blueprint ι Leaf) :
    ∀ old, (∀ number node, sharedNodes shared number node → old number node) →
      Numbers old (blueprint.build shared) nodes := by
  induction blueprint with
  | many _ ih | oneOrMore _ ih | peek _ ih | maybe _ ih | negate _ ih | terminated _ ih
  | recoverWith _ _ ih | inspectLeaf _ _ ih | map _ _ ih | mapError _ _ ih | withPosition _ ih
  | token _ _ ih | withFilter _ _ ih | counted _ _ ih =>
    intro old known
    refine (ih _ known).bind fun inner => numbers_pure ?_
    exact nodes_of_children nofun (List.forall_mem_singleton.mpr fun _ _ => .inr)
  | repeatWhile _ _ ih ih' | separatedBy _ _ _ ih ih' | softSequence _ _ ih ih'
  | inspectTimes _ _ _ ih ih' =>
    intro old known
    refine (ih _ known).bind fun inner => ?_
    refine (ih' _ fun _ _ member => .inl (known _ _ member)).bind fun inner' => numbers_pure ?_
    refine nodes_of_children nofun (List.forall_mem_cons.mpr ⟨fun _ _ member => ?_, ?_⟩)
    · exact .inl (.inr member)
    · exact List.forall_mem_singleton.mpr fun _ _ => .inr
  | recover _ _ _ _ ih ih' | inspect _ _ _ _ ih ih' =>
    intro old known
    refine (ih _ known).bind fun inner => ?_
    refine (numbers_each fun i old' more =>
      ih' i old' fun _ _ member => more _ _ (.inl (known _ _ member))).bind fun branches => ?_
    refine numbers_pure (nodes_of_children nofun (List.forall_mem_cons.mpr ⟨?_, ?_⟩))
    · exact fun _ _ member => .inl (.inr member)
    · intro _ among number node member
      obtain ⟨i, rfl⟩ := List.mem_ofFn.mp among
      exact .inr ⟨i, member⟩
  | sequence _ _ ih | orderedChoice _ _ ih =>
    intro old known
    refine (numbers_each fun i old' more =>
      ih i old' fun _ _ member => more _ _ (known _ _ member)).bind fun parts => ?_
    refine (numbers_demand _ _).bind fun _ => numbers_pure (nodes_of_children nofun ?_)
    intro _ among number node member
    obtain ⟨i, rfl⟩ := List.mem_ofFn.mp among
    exact .inl (.inr ⟨i, member⟩)
  | predictiveChoice _ _ _ ih ih' =>
    intro old known
    refine (numbers_each fun i old' more =>
      numbers_pair (ih i old' fun _ _ member => more _ _ (known _ _ member)) fun _ =>
        ih' i _ fun _ _ member => .inl (more _ _ (known _ _ member))).bind fun pairs => ?_
    refine (numbers_demand _ _).bind fun _ => numbers_pure (nodes_of_children nofun ?_)
    intro _ among number node member
    rcases List.mem_append.mp among with among | among
    · obtain ⟨i, rfl⟩ := List.mem_ofFn.mp among
      exact .inl (.inr ⟨i, .inl member⟩)
    · obtain ⟨i, rfl⟩ := List.mem_ofFn.mp among
      exact .inl (.inr ⟨i, .inr member⟩)
  | dispatch _ _ _ ih =>
    intro old known
    refine (numbers_each fun i old' more =>
      ih i old' fun _ _ member => more _ _ (known _ _ member)).bind fun parts => ?_
    refine (numbers_each fun i _ _ => numbers_refuse _).bind fun _ => ?_
    refine (numbers_demand _ _).bind fun _ => numbers_pure (nodes_of_children nofun ?_)
    intro _ among number node member
    obtain ⟨i, rfl⟩ := List.mem_ofFn.mp among
    exact .inl (.inl (.inr ⟨i, member⟩))
  | leaf basic =>
    intro old known
    exact (numbers_refuse _).bind fun _ => numbers_pure (nodes_of_children nofun nofun)
  | memoize replace strategy _ ih =>
    intro old known low value high settled built
    obtain ⟨inner, mid, first, built⟩ := bind_ok built
    obtain ⟨number, last, second, built⟩ := bind_ok built
    cases second
    cases pure_ok built
    obtain ⟨up, numbered⟩ := ih _ known _ _ _ settled first
    -- The identity comes after all those inside, whether or not the strategy makes use of it.
    exact ⟨Nat.le_succ_of_le up, numbered.memoize settled up replace strategy⟩
  | reference link =>
    intro old known
    cases link with
    | rule name =>
      intro low value high settled built
      obtain ⟨number, last, first, built⟩ := bind_ok built
      cases first
      cases pure_ok built
      exact ⟨Nat.le_succ _, numbered_reference name⟩
    | shared name =>
      cases found : shared.lookup name with
      | none =>
        intro low value high settled built
        simp only [build, found] at built
        cases built
      | some parser =>
        simp only [build, found]
        exact numbers_pure fun _ _ member => known _ _ (sharedNodes_of_lookup found _ _ member)
  | _ =>
    intro old known
    exact numbers_pure (nodes_of_children nofun nofun)

theorem settled_buildShared [Lexicon ι Leaf] {blueprints : List (String × Blueprint ι Leaf)}
    {shared result : List (String × Built ι Leaf)} {low high : Nat}
    (settled : Settled low (sharedNodes shared))
    (built : Bench.buildShared blueprints shared low = .ok (result, high)) :
    Settled high (sharedNodes result) := by
  induction blueprints generalizing shared low with
  | nil =>
    cases pure_ok built
    exact settled
  | cons entry blueprints ih =>
    obtain ⟨parser, mid, built, next⟩ := bind_ok built
    obtain ⟨up, numbered⟩ := numbers_build entry.2 _ (fun _ _ => id) _ _ _ settled built
    refine ih ((settled.union numbered up).mono ?_) next
    intro number node member
    obtain ⟨_, among, member⟩ := member
    rcases List.mem_cons.mp among with rfl | among
    · exact .inr member
    · exact .inl ⟨_, among, member⟩

section Assembled

variable [Lexicon ι Leaf] {rules shared : List (String × Blueprint ι Leaf)}
  {blueprint : Blueprint ι Leaf} {table : Bool} {bench : Bench ι Leaf}
  (assembled : Bench.assemble rules shared blueprint table = .ok bench)
include assembled

/-- No identity is handed out twice, to nodes of the bench's parser or of those that are shared. -/
theorem settled_assemble : Settled bench.session.extra.nextId fun number node =>
    sharedNodes bench.library.shared number node ∨ nodes bench.parser number node := by
  obtain ⟨parsers, next, parser, last, first, second, rfl⟩ := assemble_ok assembled
  have nothing : Settled 0 (sharedNodes ([] : List (String × Built ι Leaf))) := by
    constructor <;> exact fun ⟨_, among, _⟩ => (List.not_mem_nil among).elim
  have settled := settled_buildShared nothing first
  obtain ⟨up, numbered⟩ := numbers_build blueprint _ (fun _ _ => id) _ _ _ settled second
  exact settled.union numbered up

/-- Memoized nodes with one identity are one node. -/
theorem same_of_identity {number : Nat} {inner inner' : Built ι Leaf}
    (part : Part bench.parser filters (.memoize replace (.parser number) inner))
    (part' : Part bench.parser filters' (.memoize replace' (.parser number) inner')) :
    inner = inner' := by
  have member : nodes bench.parser number inner := ⟨_, _, part, .memoize⟩
  have member' : nodes bench.parser number inner' := ⟨_, _, part', .memoize⟩
  exact (settled_assemble assembled).same (.inr member) (.inr member')

/-- No memoized node stands inside another with its identity. -/
theorem apart_of_identity {number : Nat} {inner inner' : Built ι Leaf}
    (part : Part bench.parser filters (.memoize replace (.parser number) inner)) :
    ¬ Part inner filters' (.memoize replace' (.parser number) inner') := by
  intro deeper
  have member : nodes bench.parser number inner := ⟨_, _, part, .memoize⟩
  exact Nat.lt_irrefl _ ((settled_assemble assembled).below (.inr member) deeper)

end Assembled

end Packrat.Grammar
