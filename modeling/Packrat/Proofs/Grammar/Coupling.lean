import Packrat.Proofs.Grammar.Parts
import Packrat.Proofs.Parser.Coupling

/-! Two ways to run a grammar are coupled if they are coupled at the nodes that do more than run
their parts: those that observe positions, those that touch the payload, the filters, the memoized
ones and the references. -/

namespace Packrat

open Packrat.Parser

/-- Basic parsers read items and nothing else, so every stable coupling holds between one and
itself. -/
class UniformLexicon (ι Leaf : Type) [Lexicon ι Leaf] : Prop where
  coupled {δ : Type} {M : Memory} (coupling : Coupling ι δ M) (stable : coupling.Stable)
    (filters : List (Filter ι)) (leaf : Leaf) :
    Coupled coupling filters (Lexicon.parser leaf) (Lexicon.parser leaf)

namespace TextLeaf

variable {δ : Type} {M : Memory} {coupling : Coupling Char δ M} {filters : List (Filter Char)}

theorem coupled_lift {α : Type} {parser : Text.TextParser δ M α} (value : α → Value)
    (coupled : Coupled coupling filters parser parser) :
    Coupled coupling filters (lift value parser) (lift value parser) :=
  (coupled.map value).mapError Failure.text

variable (stable : coupling.Stable)
include stable

theorem coupled_spelled (text : String) (characters : List Char) :
    Coupled coupling filters (Text.spelled text characters : Text.TextParser δ M Unit)
      (Text.spelled text characters) := by
  induction characters with
  | nil => exact coupled_constant ()
  | cons c characters ih => exact (coupled_satisfy stable _ _).inspect fun _ => ih

theorem coupled_string (text : String) :
    Coupled coupling filters (Text.string text : Text.TextParser δ M String) (Text.string text) := by
  unfold Text.string
  split
  · exact coupled_halt (stable.ordinary nofun)
  · exact (coupled_spelled stable _ _).handle (fun _ => coupled_constant _)
      fun _ => coupled_failWith _

theorem coupled_integer :
    Coupled coupling filters (Text.integer : Text.TextParser δ M String) Text.integer :=
  (Coupled.oneOrMore stable (coupled_satisfy stable _ _)).map _

theorem coupled_leaf (leaf : TextLeaf) :
    Coupled coupling filters (parser leaf : Parser Char δ M Failure Value) (parser leaf) := by
  cases leaf with
  | string text => exact coupled_lift _ (coupled_string stable text)
  | stringInsensitive text =>
    have folds : coupling.admits Text.caseFilter := stable.total fun _ => ⟨_, rfl⟩
    exact coupled_lift _ (Coupled.withFilter stable folds (coupled_string stable _))
  | oneOf chars =>
    apply coupled_lift
    unfold Text.oneOf
    split
    · exact coupled_halt (stable.ordinary nofun)
    · exact coupled_satisfy stable _ _
  | anyChar => exact coupled_lift _ (coupled_anyItem stable)
  | identifier =>
    exact coupled_lift _ ((coupled_satisfy stable _ _).inspect fun _ =>
      (Coupled.many stable (coupled_satisfy stable _ _)).map _)
  | integer => exact coupled_lift _ (coupled_integer stable)
  | float =>
    exact coupled_lift _ ((coupled_integer stable).inspect fun _ =>
      (coupled_satisfy stable _ _).inspect fun _ => (coupled_integer stable).map _)
  | number =>
    exact coupled_lift _ ((coupled_integer stable).inspect fun _ =>
      ((coupled_satisfy stable _ _).softSequence _ (coupled_integer stable)).map _)
  | endOfText => exact coupled_lift _ (coupled_endOfInput stable)
  | _ => exact coupled_lift _ (coupled_satisfy stable _ _)

end TextLeaf

instance : UniformLexicon Char TextLeaf where
  coupled _ stable _ leaf := TextLeaf.coupled_leaf stable leaf

instance : UniformLexicon Int Empty where
  coupled _ _ _ leaf := leaf.elim

namespace Grammar

variable {ι Leaf κ ρ J : Type} [Lexicon ι Leaf] {coupling : J → Coupling ι Payload (Recall ι Leaf)}
  {memoize memoize' : Bool → κ → Rule ι Leaf → Rule ι Leaf} {resolve resolve' : ρ → Rule ι Leaf}
  {filters : List (Filter ι)}

/-- The node observes the position it stands at. -/
def Observes : Grammar ι Leaf κ ρ → Prop
  | .position | .withPosition _ | .token _ _ | .lineColumn _ => True
  | _ => False

/-- A family of couplings holds at what a grammar's nodes do beyond running their parts. -/
structure Upholds (coupling : J → Coupling ι Payload (Recall ι Leaf))
    (memoize memoize' : Bool → κ → Rule ι Leaf → Rule ι Leaf) (resolve resolve' : ρ → Rule ι Leaf)
    (filters : List (Filter ι)) (grammar : Grammar ι Leaf κ ρ) : Prop where
  stable : ∀ j, (coupling j).Stable
  counted : ∀ j session session', (coupling j).sessions session session' → ∀ name,
    (coupling j).sessions
      { session with extra := { session.extra with counts := countOne name session.extra.counts } }
      { session' with
        extra := { session'.extra with counts := countOne name session'.extra.counts } }
  leaf : ∀ j filters (leaf : Leaf),
    Coupled (coupling j) filters (Lexicon.parser leaf) (Lexicon.parser leaf)
  observed {node} : Part grammar more node → node.Observes → ∀ j cursor cursor',
    (coupling j).cursors (more ++ filters) cursor cursor' → cursor.position = cursor'.position
  getData : Part grammar more .getData →
    ∀ j, Coupled (coupling j) (more ++ filters)
      (Parser.getData : Parser ι Payload (Recall ι Leaf) Failure Payload) Parser.getData
  setData : Part grammar more (.setData data) →
    ∀ j, Coupled (coupling j) (more ++ filters)
      (Parser.setData data : Parser ι Payload (Recall ι Leaf) Failure Unit) (Parser.setData data)
  modifyData : Part grammar more (.modifyData f) →
    ∀ j, Coupled (coupling j) (more ++ filters)
      (Parser.modifyData f : Parser ι Payload (Recall ι Leaf) Failure Payload)
      (Parser.modifyData f)
  withFilter {inner} : Part grammar more (.withFilter filter inner) → ∀ j, (coupling j).admits filter
  memoized {inner} : Part grammar more (.memoize replace mark inner) →
    (∀ j, Coupled (coupling j) (more ++ filters) (inner.runWith memoize resolve)
      (inner.runWith memoize' resolve')) →
    ∀ j, Coupled (coupling j) (more ++ filters)
      (memoize replace mark (inner.runWith memoize resolve))
      (memoize' replace mark (inner.runWith memoize' resolve'))
  reference : Part grammar more (.reference target) →
    ∀ j, Coupled (coupling j) (more ++ filters) (resolve target) (resolve' target)

theorem Upholds.inside {grammar inner : Grammar ι Leaf κ ρ} {more : List (Filter ι)}
    (upholds : Upholds coupling memoize memoize' resolve resolve' filters grammar)
    (child : (more, inner) ∈ grammar.children) :
    Upholds coupling memoize memoize' resolve resolve' (more ++ filters) inner where
  stable := upholds.stable
  counted := upholds.counted
  leaf := upholds.leaf
  observed part := List.append_assoc .. ▸ upholds.observed (.inside child part)
  getData part := List.append_assoc .. ▸ upholds.getData (.inside child part)
  setData part := List.append_assoc .. ▸ upholds.setData (.inside child part)
  modifyData part := List.append_assoc .. ▸ upholds.modifyData (.inside child part)
  withFilter part := upholds.withFilter (.inside child part)
  memoized part := List.append_assoc .. ▸ upholds.memoized (.inside child part)
  reference part := List.append_assoc .. ▸ upholds.reference (.inside child part)

theorem ofFn_eq_map {α : Type} {n : Nat} (f : Fin n → α) :
    List.ofFn f = (List.ofFn id).map f := by
  rw [List.map_ofFn]
  rfl

/-- The one induction over grammars: what holds node by node holds of the whole. -/
theorem runWith_coupled (grammar : Grammar ι Leaf κ ρ) :
    ∀ filters, Upholds coupling memoize memoize' resolve resolve' filters grammar →
      ∀ j, Coupled (coupling j) filters (grammar.runWith memoize resolve)
        (grammar.runWith memoize' resolve') := by
  induction grammar using inwards with
  | step grammar ih =>
  intro filters upholds j
  have stable := upholds.stable j
  have inner {more : List (Filter ι)} {child : Grammar ι Leaf κ ρ}
      (member : (more, child) ∈ grammar.children) :
      Coupled (coupling j) (more ++ filters) (child.runWith memoize resolve)
        (child.runWith memoize' resolve') :=
    ih _ member _ (upholds.inside member) j
  cases grammar with
  | anyItem => exact (coupled_anyItem stable).map _
  | satisfy accepts failure => exact (coupled_satisfy stable _ _).map _
  | endOfInput => exact (coupled_endOfInput stable).map _
  | constant value => exact coupled_constant value
  | failWith failure => exact coupled_failWith failure
  | getData => exact (upholds.getData .here j).map _
  | setData data => exact (upholds.setData .here j).map _
  | modifyData f => exact (upholds.modifyData .here j).map _
  | position => exact (coupled_position (upholds.observed .here trivial j)).map _
  | leaf basic => exact upholds.leaf j filters basic
  | many element => exact (Coupled.many stable (inner List.mem_cons_self)).map _
  | oneOrMore element => exact (Coupled.oneOrMore stable (inner List.mem_cons_self)).map _
  | repeatWhile condition body =>
    exact (Coupled.repeatWhile stable (inner List.mem_cons_self)
      (inner (List.mem_cons_of_mem _ List.mem_cons_self))).map _
  | separatedBy form element separator =>
    exact (Coupled.separatedBy stable form (inner List.mem_cons_self)
      (inner (List.mem_cons_of_mem _ List.mem_cons_self))).map _
  | peek parser => exact (inner List.mem_cons_self).peek
  | maybe parser => exact (inner List.mem_cons_self).maybe.map _
  | softSequence first second =>
    exact (Coupled.softSequence _ (inner List.mem_cons_self)
      (inner (List.mem_cons_of_mem _ List.mem_cons_self))).map _
  | negate parser => exact ((inner List.mem_cons_self).negate.map _).mapError _
  | terminated parser => exact (inner List.mem_cons_self).terminated stable
  | recover parser n select branches =>
    exact (inner List.mem_cons_self).recover fun failure =>
      inner (List.mem_cons_of_mem _ (List.mem_ofFn.mpr ⟨select failure, rfl⟩))
  | recoverWith parser f => exact (inner List.mem_cons_self).recover fun _ => coupled_constant _
  | inspect parser n select branches =>
    exact (inner List.mem_cons_self).inspect fun value =>
      inner (List.mem_cons_of_mem _ (List.mem_ofFn.mpr ⟨select value, rfl⟩))
  | inspectTimes parser count element =>
    exact (inner List.mem_cons_self).inspect fun value =>
      (Coupled.times stable _ (inner (List.mem_cons_of_mem _ List.mem_cons_self))).map _
  | inspectLeaf parser select =>
    exact (inner List.mem_cons_self).inspect fun value => upholds.leaf j filters (select value)
  | sequence n parts =>
    apply Coupled.map
    rw [ofFn_eq_map fun i => (parts i).runWith memoize resolve,
      ofFn_eq_map fun i => (parts i).runWith memoize' resolve']
    exact Coupled.sequence stable (fun i => inner (List.mem_ofFn.mpr ⟨i, rfl⟩)) _
  | orderedChoice n parts =>
    unfold runWith
    rw [ofFn_eq_map fun i => (parts i).runWith memoize resolve,
      ofFn_eq_map fun i => (parts i).runWith memoize' resolve']
    exact Coupled.orderedChoice stable (fun i => inner (List.mem_ofFn.mpr ⟨i, rfl⟩)) _
  | predictiveChoice n lookaheads continuations =>
    unfold runWith
    rw [ofFn_eq_map fun i =>
        ((lookaheads i).runWith memoize resolve, (continuations i).runWith memoize resolve),
      ofFn_eq_map fun i =>
        ((lookaheads i).runWith memoize' resolve', (continuations i).runWith memoize' resolve')]
    exact Coupled.predictiveChoice stable
      (fun i => inner (List.mem_append_left _ (List.mem_ofFn.mpr ⟨i, rfl⟩)))
      (fun i => inner (List.mem_append_right _ (List.mem_ofFn.mpr ⟨i, rfl⟩))) _
  | dispatch n keys branches =>
    have looks (entry : String × Fin n) := upholds.leaf j filters (keys entry.2)
    have goes (entry : String × Fin n) := inner (List.mem_ofFn.mpr ⟨entry.2, rfl⟩)
    exact Coupled.predictiveChoice stable looks goes _
  | map f parser => exact (inner List.mem_cons_self).map f
  | mapError f parser => exact (inner List.mem_cons_self).mapError f
  | withPosition parser =>
    have level := upholds.observed .here trivial j
    exact ((Coupled.withPosition level (inner List.mem_cons_self)).map _).mapError _
  | token kind parser =>
    have level := upholds.observed .here trivial j
    exact Coupled.token level _ _ (inner List.mem_cons_self)
  | lineColumn table =>
    have level := upholds.observed .here trivial j
    exact ((coupled_lineColumn level table).map _).mapError _
  | withFilter filter parser =>
    exact Coupled.withFilter stable (upholds.withFilter .here j) (inner List.mem_cons_self)
  | counted name parser =>
    exact fun cursor cursor' _ _ place shared =>
      inner List.mem_cons_self cursor cursor' _ _ place (upholds.counted j _ _ shared name)
  | memoize replace mark parser =>
    exact upholds.memoized .here (ih _ List.mem_cons_self _ (upholds.inside List.mem_cons_self)) j
  | reference target => exact upholds.reference .here j

end Grammar

end Packrat
