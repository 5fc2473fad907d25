import Mathlib.Data.List.Pairwise
import Packrat.Proofs.Grammar.Construction
import Packrat.Proofs.Grammar.Parts

/-! The places where identities stand. Building hands an identity out once, so two places have one
identity only inside shared parsers, which every occurrence repeats. -/

namespace Packrat.Grammar

variable {ι Leaf α β : Type}

/-- The node's own identity, if it has one, with the node. -/
def own : Built ι Leaf → List (Nat × Built ι Leaf)
  | .memoize replace (.parser number) inner => [(number, .memoize replace (.parser number) inner)]
  | .reference target => [(target.id, .reference target)]
  | _ => []

/-- The identities in a grammar with their nodes, once for every place where one stands, inner ones
first. -/
def roster : Built ι Leaf → List (Nat × Built ι Leaf)
  | .many inner | .oneOrMore inner | .peek inner | .maybe inner | .negate inner
  | .terminated inner | .recoverWith inner _ | .inspectLeaf inner _ | .map _ inner
  | .mapError _ inner | .withPosition inner | .token _ inner | .counted _ inner
  | .withFilter _ inner => roster inner
  | .repeatWhile first second | .separatedBy _ first second | .softSequence first second
  | .inspectTimes first _ second => roster first ++ roster second
  | .recover inner _ _ branches | .inspect inner _ _ branches =>
    roster inner ++ (List.ofFn fun i => roster (branches i)).flatten
  | .sequence _ parts | .orderedChoice _ parts | .dispatch _ _ parts =>
    (List.ofFn fun i => roster (parts i)).flatten
  | .predictiveChoice _ lookaheads continuations =>
    (List.ofFn fun i => roster (lookaheads i) ++ roster (continuations i)).flatten
  | .memoize replace key inner => roster inner ++ own (.memoize replace key inner)
  | .reference target => own (.reference target)
  | _ => []

def rosters (grammars : List (Built ι Leaf)) : List (Nat × Built ι Leaf) := grammars.flatMap roster

theorem mem_roster_child {grammar : Built ι Leaf} {child : List (Filter ι) × Built ι Leaf}
    {bearer : Nat × Built ι Leaf} (among : child ∈ grammar.children)
    (member : bearer ∈ roster child.2) : bearer ∈ roster grammar := by
  cases grammar with
  | many | oneOrMore | peek | maybe | negate | terminated | recoverWith | inspectLeaf | map
  | mapError | withPosition | token | counted | withFilter =>
    cases List.mem_singleton.mp among
    exact member
  | repeatWhile | separatedBy | softSequence | inspectTimes =>
    simp only [children, List.mem_cons, List.not_mem_nil, or_false] at among
    rcases among with rfl | rfl <;> simp [roster, member]
  | recover | inspect =>
    simp only [children, List.mem_cons, List.mem_ofFn] at among
    rcases among with rfl | ⟨i, rfl⟩
    · exact List.mem_append_left _ member
    · exact List.mem_append_right _ (List.mem_flatten.mpr ⟨_, List.mem_ofFn.mpr ⟨i, rfl⟩, member⟩)
  | sequence | orderedChoice | dispatch =>
    obtain ⟨i, rfl⟩ := List.mem_ofFn.mp among
    exact List.mem_flatten.mpr ⟨_, List.mem_ofFn.mpr ⟨i, rfl⟩, member⟩
  | predictiveChoice =>
    simp only [children, List.mem_append, List.mem_ofFn] at among
    rcases among with ⟨i, rfl⟩ | ⟨i, rfl⟩ <;>
      exact List.mem_flatten.mpr ⟨_, List.mem_ofFn.mpr ⟨i, rfl⟩, by simp [member]⟩
  | memoize =>
    cases List.mem_singleton.mp among
    exact List.mem_append_left _ member
  | _ => cases among

theorem mem_roster_own {grammar : Built ι Leaf} {bearer : Nat × Built ι Leaf}
    (member : bearer ∈ own grammar) : bearer ∈ roster grammar := by
  cases grammar with
  | memoize => exact List.mem_append_right _ member
  | reference => exact member
  | _ => cases member

/-- A node with an identity is in the roster wherever it stands. -/
theorem Part.mem_roster {grammar node : Built ι Leaf} {filters : List (Filter ι)}
    {bearer : Nat × Built ι Leaf} (part : Part grammar filters node) (member : bearer ∈ own node) :
    bearer ∈ roster grammar := by
  induction part with
  | here => exact mem_roster_own member
  | inside child _ ih => exact mem_roster_child child (ih member)

/-- No two places have one identity, but for places that are carried over. -/
def Apart (carried bearers : List (Nat × Built ι Leaf)) : Prop :=
  bearers.Pairwise fun bearer other => bearer.1 = other.1 → bearer ∈ carried ∧ other ∈ carried

/-- One identity is the identity of one node. -/
def Determined (bearers : List (Nat × Built ι Leaf)) : Prop :=
  ∀ bearer ∈ bearers, ∀ other ∈ bearers, bearer.1 = other.1 → bearer = other

/-- The places are carried over, or have identities of their own between two numbers. -/
structure Enrolled (carried : List (Nat × Built ι Leaf)) (low high : Nat)
    (bearers : List (Nat × Built ι Leaf)) : Prop where
  le : low ≤ high
  range : bearer ∈ bearers → bearer ∈ carried ∨ low ≤ bearer.1 ∧ bearer.1 < high
  apart : Apart carried bearers

def Below (next : Nat) (bearers : List (Nat × Built ι Leaf)) : Prop :=
  ∀ bearer ∈ bearers, bearer.1 < next

variable {carried front bearers : List (Nat × Built ι Leaf)} {low mid high : Nat}

theorem Enrolled.nil (carried : List (Nat × Built ι Leaf)) (low : Nat) :
    Enrolled carried low low [] := ⟨Nat.le_refl _, nofun, .nil⟩

theorem Enrolled.below (enrolled : Enrolled carried low high bearers) (below : Below low carried) :
    Below high bearers := by
  intro bearer member
  rcases enrolled.range member with known | between
  · exact Nat.lt_of_lt_of_le (below bearer known) enrolled.le
  · exact between.2

/-- What is carried over may stand anywhere. -/
theorem Enrolled.carry (enrolled : Enrolled carried low high front) (below : Below low carried)
    (known : ∀ bearer ∈ bearers, bearer ∈ carried) :
    Enrolled carried low high (front ++ bearers) := by
  refine ⟨enrolled.le, fun member => ?_, List.pairwise_append.mpr ⟨enrolled.apart, ?_, ?_⟩⟩
  · rcases List.mem_append.mp member with member | member
    · exact enrolled.range member
    · exact .inl (known _ member)
  · exact List.pairwise_of_forall_mem_list fun _ member _ member' _ =>
      ⟨known _ member, known _ member'⟩
  · intro bearer member other member' same
    refine ⟨?_, known other member'⟩
    rcases enrolled.range member with known' | between
    · exact known'
    · have early := below other (known other member')
      omega

/-- The next identity stands in no place yet. -/
theorem Enrolled.fresh (enrolled : Enrolled carried low mid front) (below : Below low carried)
    (node : Built ι Leaf) : Enrolled carried low (mid + 1) (front ++ [(mid, node)]) := by
  have early := enrolled.below below
  have le := enrolled.le
  refine ⟨by omega, fun member => ?_, List.pairwise_append.mpr
    ⟨enrolled.apart, List.pairwise_singleton .., ?_⟩⟩
  · rcases List.mem_append.mp member with member | member
    · exact (enrolled.range member).imp_right fun between => ⟨between.1, by omega⟩
    · cases List.mem_singleton.mp member
      exact .inr ⟨le, Nat.lt_succ_self _⟩
  · intro bearer member other member' same
    cases List.mem_singleton.mp member'
    have earlier := early bearer member
    simp only at same
    omega

/-- An identity may be left out. -/
theorem Enrolled.skip (enrolled : Enrolled carried low mid bearers) :
    Enrolled carried low (mid + 1) bearers :=
  ⟨Nat.le_succ_of_le enrolled.le, fun member =>
    (enrolled.range member).imp_right fun between => ⟨between.1, Nat.lt_succ_of_lt between.2⟩,
    enrolled.apart⟩

/-- The step adds identities of its own to those in front. -/
def Enrolls (carried front : List (Nat × Built ι Leaf)) (step : Construction β)
    (of : β → List (Nat × Built ι Leaf)) : Prop :=
  ∀ start low value high, Below start carried → Enrolled carried start low front →
    step low = .ok (value, high) → Enrolled carried start high (of value)

open Construction

theorem enrolls_pure {of : β → List (Nat × Built ι Leaf)} {value : β} (same : of value = front) :
    Enrolls carried front (pure value) of := by
  intro start low result high below enrolled built
  cases pure_ok built
  rwa [same]

theorem Enrolls.bind {of : α → List (Nat × Built ι Leaf)} {of' : β → List (Nat × Built ι Leaf)}
    {step : Construction α} {next : α → Construction β} (first : Enrolls carried front step of)
    (second : ∀ value, Enrolls carried (of value) (next value) of') :
    Enrolls carried front (step >>= next) of' := by
  intro start low result high below enrolled built
  obtain ⟨value, mid, built, built'⟩ := bind_ok built
  exact second value _ _ _ _ below (first _ _ _ _ below enrolled built) built'

theorem enrolls_pair (lookahead continuation : Built ι Leaf) :
    Enrolls carried (front ++ roster lookahead ++ roster continuation)
      (pure (lookahead, continuation)) fun pair => front ++ (roster pair.1 ++ roster pair.2) :=
  enrolls_pure (List.append_assoc ..).symm

theorem enrolls_refuse (violation : Option Violation) :
    Enrolls carried front (refuse violation) fun _ => front ++ [] := by
  intro start low value high below enrolled built
  cases refuse_ok built
  rwa [List.append_nil]

theorem enrolls_demand (holds : Bool) (violation : Violation) :
    Enrolls carried front (demand holds violation) fun _ => front := by
  intro start low value high below enrolled built
  cases demand_ok built
  exact enrolled

theorem enrolls_each {of : β → List (Nat × Built ι Leaf)} {n : Nat}
    {step : Fin n → Construction β}
    (enrolls : ∀ i front, Enrolls carried front (step i) fun value => front ++ of value) :
    Enrolls carried front (each n step) fun parts =>
      front ++ (List.ofFn fun i => of (parts i)).flatten := by
  induction n generalizing front with
  | zero => exact enrolls_pure (by simp)
  | succ n ih =>
    refine (enrolls 0 front).bind fun head => ?_
    refine (ih fun i front => enrolls i.succ front).bind fun tail => enrolls_pure ?_
    simp [List.ofFn_succ]

abbrev sharedRoster (shared : List (String × Built ι Leaf)) : List (Nat × Built ι Leaf) :=
  rosters (shared.map Prod.snd)

/-- Building a blueprint hands out identities of its own, and carries over those of shared
parsers. -/
theorem enrolls_build [Lexicon ι Leaf] {shared : List (String × Built ι Leaf)}
    (blueprint : Blueprint ι Leaf) : ∀ front,
      Enrolls (sharedRoster shared) front (blueprint.build shared) fun parser =>
        front ++ roster parser := by
  induction blueprint with
  | many _ ih | oneOrMore _ ih | peek _ ih | maybe _ ih | negate _ ih | terminated _ ih
  | recoverWith _ _ ih | inspectLeaf _ _ ih | map _ _ ih | mapError _ _ ih | withPosition _ ih
  | token _ _ ih | withFilter _ _ ih | counted _ _ ih =>
    exact fun front => (ih front).bind fun _ => enrolls_pure rfl
  | repeatWhile _ _ ih ih' | separatedBy _ _ _ ih ih' | softSequence _ _ ih ih'
  | inspectTimes _ _ _ ih ih' =>
    exact fun front => (ih front).bind fun _ => (ih' _).bind fun _ =>
      enrolls_pure (List.append_assoc ..).symm
  | recover _ _ _ _ ih ih' | inspect _ _ _ _ ih ih' =>
    exact fun front => (ih front).bind fun _ => (enrolls_each ih').bind fun _ =>
      enrolls_pure (List.append_assoc ..).symm
  | sequence _ _ ih | orderedChoice _ _ ih =>
    exact fun front => (enrolls_each ih).bind fun _ => (enrolls_demand _ _).bind fun _ =>
      enrolls_pure rfl
  | predictiveChoice _ _ _ ih ih' =>
    intro front
    have pair i front := (ih i front).bind fun lookahead => (ih' i _).bind fun continuation =>
      enrolls_pair lookahead continuation
    exact (enrolls_each pair).bind fun _ => (enrolls_demand _ _).bind fun _ => enrolls_pure rfl
  | dispatch _ keys _ ih =>
    intro front
    refine (enrolls_each ih).bind fun _ => ?_
    refine (enrolls_each fun i _ => enrolls_refuse _).bind fun _ => ?_
    exact (enrolls_demand _ _).bind fun _ => enrolls_pure (by simp [roster])
  | leaf basic => exact fun front => (enrolls_refuse _).bind fun _ => enrolls_pure rfl
  | memoize replace strategy _ ih =>
    intro front start low value high below enrolled built
    obtain ⟨inner, mid, first, built⟩ := bind_ok built
    obtain ⟨number, last, second, built⟩ := bind_ok built
    cases second
    cases pure_ok built
    have inside := ih front _ _ _ _ below enrolled first
    cases strategy with
    | byParser =>
      change Enrolled _ _ _ (front ++ (roster inner ++ [_]))
      rw [← List.append_assoc]
      exact inside.fresh below _
    | byName name =>
      change Enrolled _ _ _ (front ++ (roster inner ++ []))
      rw [List.append_nil]
      exact inside.skip
  | reference link =>
    cases link with
    | rule name =>
      intro front start low value high below enrolled built
      obtain ⟨number, last, first, built⟩ := bind_ok built
      cases first
      cases pure_ok built
      exact enrolled.fresh below (.reference ⟨low, name⟩)
    | shared name =>
      intro front start low value high below enrolled built
      cases found : shared.lookup name with
      | none =>
        simp only [build, found] at built
        cases built
      | some parser =>
        simp only [build, found] at built
        cases pure_ok built
        obtain ⟨before, after, rfl, _⟩ := List.lookup_eq_some_iff.mp found
        refine enrolled.carry below fun bearer member => ?_
        exact List.mem_flatMap.mpr ⟨_, by simp, member⟩
  | _ => exact fun front => enrolls_pure (List.append_nil _)

theorem Apart.determined (apart : Apart carried bearers) (determined : Determined carried) :
    Determined bearers := by
  have : Std.Symm fun bearer other : Nat × Built ι Leaf => bearer.1 = other.1 → bearer = other :=
    ⟨fun _ _ implies same => (implies same.symm).symm⟩
  have pairwise : bearers.Pairwise fun bearer other => bearer.1 = other.1 → bearer = other :=
    apart.imp fun {bearer other} implies same =>
      determined bearer (implies same).1 other (implies same).2 same
  exact fun _ member _ member' => pairwise.forall_of_forall (fun _ _ _ => rfl) member member'

/-- The places that are carried over have no identity in common with the others. -/
theorem Enrolled.determined (enrolled : Enrolled carried low high bearers)
    (below : Below low carried) (determined : Determined carried) :
    Determined (carried ++ bearers) := by
  have across {bearer other : Nat × Built ι Leaf} (known : bearer ∈ carried)
      (member : other ∈ bearers) (same : bearer.1 = other.1) : bearer = other := by
    rcases enrolled.range member with known' | between
    · exact determined _ known _ known' same
    · have early := below bearer known
      omega
  intro bearer member other member' same
  rcases List.mem_append.mp member with known | member <;>
    rcases List.mem_append.mp member' with known' | member'
  · exact determined _ known _ known' same
  · exact across known member' same
  · exact (across known' member same.symm).symm
  · exact enrolled.apart.determined determined _ member _ member' same

/-- In every shared parser, no two places have one identity but for those in parsers shared before
it. -/
def Shelved : List (String × Built ι Leaf) → Prop
  | [] => True
  | (_, parser) :: shared => Apart (sharedRoster shared) (roster parser) ∧ Shelved shared

theorem shelved_buildShared [Lexicon ι Leaf] {blueprints : List (String × Blueprint ι Leaf)}
    {shared result : List (String × Built ι Leaf)} (shelved : Shelved shared)
    (determined : Determined (sharedRoster shared)) (below : Below low (sharedRoster shared))
    (built : Bench.buildShared blueprints shared low = .ok (result, high)) :
    Shelved result ∧ Determined (sharedRoster result) ∧ Below high (sharedRoster result) := by
  induction blueprints generalizing shared low with
  | nil =>
    cases pure_ok built
    exact ⟨shelved, determined, below⟩
  | cons entry blueprints ih =>
    obtain ⟨parser, mid, built, next⟩ := bind_ok built
    have enrolled : Enrolled (sharedRoster shared) low mid (roster parser) :=
      enrolls_build entry.2 [] _ _ _ _ below (.nil _ _) built
    have both : ∀ bearer ∈ sharedRoster ((entry.1, parser) :: shared),
        bearer ∈ sharedRoster shared ++ roster parser := by
      intro bearer member
      exact List.mem_append.mpr (List.mem_append.mp member).symm
    have longer : Shelved ((entry.1, parser) :: shared) := ⟨enrolled.apart, shelved⟩
    refine ih longer ?_ ?_ next
    · exact fun _ member _ member' =>
        enrolled.determined below determined _ (both _ member) _ (both _ member')
    · intro bearer member
      rcases List.mem_append.mp member with member | member
      · exact enrolled.below below bearer member
      · exact Nat.lt_of_lt_of_le (below bearer member) enrolled.le

theorem Library.enrolled_buildRule [Lexicon ι Leaf] {library : Library ι Leaf} {rule : String}
    {parser : Built ι Leaf} {start : Nat} (below : Below start (sharedRoster library.shared))
    (enrolled : Enrolled (sharedRoster library.shared) start mid front)
    (built : library.buildRule rule mid = .ok (parser, high)) :
    Enrolled (sharedRoster library.shared) start high (front ++ roster parser) := by
  unfold Library.buildRule at built
  split at built
  · exact enrolls_build _ _ _ _ _ _ below enrolled built
  · cases built

/-- When a bench is assembled, its parsers are enrolled one after the other. -/
theorem enrolled_assemble [Lexicon ι Leaf] {rules shared : List (String × Blueprint ι Leaf)}
    {blueprint : Blueprint ι Leaf} {table : Bool} {bench : Bench ι Leaf}
    (assembled : Bench.assemble rules shared blueprint table = .ok bench) :
    Shelved bench.library.shared ∧ Determined (sharedRoster bench.library.shared) ∧
      ∃ start, Below start (sharedRoster bench.library.shared) ∧
        Enrolled (sharedRoster bench.library.shared) start bench.session.extra.nextId
          (roster bench.parser) := by
  obtain ⟨parsers, next, parser, last, first, second, rfl⟩ := assemble_ok assembled
  have empty : Shelved ([] : List (String × Built ι Leaf)) := trivial
  obtain ⟨shelved, determined, below⟩ := shelved_buildShared empty nofun nofun first
  exact ⟨shelved, determined, next, below,
    enrolls_build blueprint [] _ _ _ _ below (.nil _ _) second⟩

end Packrat.Grammar
