import Mathlib.Algebra.BigOperators.Group.Finset.Basic
import Mathlib.Data.Finmap
import Packrat.Proofs.Memo.Table

/-! A table is a partial map from positions and keys to types and outcomes. The map knows nothing of
buckets; whatever is asked of a table, in any order and with refusals in between, the map answers the
same. -/

namespace Packrat.Memo

variable {τ ε α : Type}

inductive Operation (τ ε α : Type) where
  | store (position : Nat) (key : Key) (type : τ) (outcome : Except ε α)
  | lookup (position : Nat) (key : Key) (type : τ)
  | size
  | isEmpty
  | bucketSize (position : Nat)
  | clear

/-- What is answered. A refusal names the contract that the request breaks. -/
inductive Response (ε α : Type) where
  | done
  | found (outcome : Option (Except ε α))
  | number (n : Nat)
  | truth (holds : Bool)
  | refused (violation : Violation)

/-- The responses to one request after the other, and the state after the last. -/
def converse {σ : Type} (perform : σ → Operation τ ε α → Response ε α × σ) :
    σ → List (Operation τ ε α) → List (Response ε α) × σ
  | state, [] => ([], state)
  | state, operation :: operations =>
    let (response, next) := perform state operation
    let (responses, last) := converse perform next operations
    (response :: responses, last)

/-- A request to a table, and the table as the request leaves it, also where it is refused. -/
def Table.perform [DecidableEq τ] (table : Table τ ε α) :
    Operation τ ε α → Response ε α × Table τ ε α
  | .store position key type outcome =>
    match table.write position ⟨key, type, outcome⟩ with
    | .ok () stored => (.done, stored)
    | .error violation left => (.refused violation, left)
  | .lookup position key type =>
    match table.lookup position key type with
    | .ok outcome => (.found outcome, table)
    | .error violation => (.refused violation, table)
  | .size => (.number table.size, table)
  | .isEmpty => (.truth table.isEmpty, table)
  | .bucketSize position => (.number (table.bucketSize position), table)
  | .clear => (.done, .empty)

/-- The partial map: a type and an outcome for some pairs of a position and a key. -/
abbrev Contents (τ ε α : Type) : Type := Finmap fun _ : Nat × Key => τ × Except ε α

namespace Contents

def bucketSize (contents : Contents τ ε α) (position : Nat) : Nat :=
  (contents.keys.filter fun place => place.1 = position).card

def positions (contents : Contents τ ε α) : Finset Nat := contents.keys.image Prod.fst

def size (contents : Contents τ ε α) : Nat :=
  ∑ position ∈ contents.positions, contents.bucketSize position

/-- A request to the map. An outcome takes the place of an earlier one at its position and key unless
that one is a success; asking at another type than the last one's is refused. -/
def perform [DecidableEq τ] (contents : Contents τ ε α) :
    Operation τ ε α → Response ε α × Contents τ ε α
  | .store position key type outcome =>
    if (contents.lookup (position, key)).any fun held => succeeded held.2 then
      (.refused (.finalSuccess key), contents)
    else (.done, contents.insert (position, key) (type, outcome))
  | .lookup position key type =>
    match contents.lookup (position, key) with
    | none => (.found none, contents)
    | some (held, outcome) =>
      if held = type then (.found (some outcome), contents)
      else (.refused (.outcomeType key position), contents)
  | .size => (.number contents.size, contents)
  | .isEmpty => (.truth (contents.size == 0), contents)
  | .bucketSize position => (.number (contents.bucketSize position), contents)
  | .clear => (.done, ∅)

end Contents

/-- No bucket is empty, and no key is twice in one. -/
structure Table.WellFormed (table : Table τ ε α) : Prop where
  nonempty : ∀ (position : Nat) (held : Bucket τ ε α),
    table.buckets[position]? = some held → held.entries ≠ []
  distinct : ∀ position : Nat, ((table.bucket position).map Entry.key).Nodup

/-- The table has the entries of the map, in buckets that are well formed. -/
structure Represents (table : Table τ ε α) (contents : Contents τ ε α) : Prop where
  wellFormed : table.WellFormed
  lookup_eq : ∀ (position : Nat) (key : Key), contents.lookup (position, key) =
    (table.find? position key).map fun entry => (entry.type, entry.outcome)

section Put

variable (new : Entry τ ε α) (entries : List (Entry τ ε α))

theorem Bucket.put_ne_nil : Bucket.put new entries ≠ [] := by
  cases entries with
  | nil => simp [put]
  | cons entry entries =>
    unfold put
    split <;> simp

theorem Bucket.keys_put : (Bucket.put new entries).map Entry.key =
    if new.key ∈ entries.map Entry.key then entries.map Entry.key
    else entries.map Entry.key ++ [new.key] := by
  induction entries with
  | nil => simp [put]
  | cons entry entries ih =>
    by_cases same : entry.key = new.key
    · simp [put, same]
    · have other : ¬ new.key = entry.key := Ne.symm same
      rw [put, if_neg same, List.map_cons, ih]
      by_cases member : new.key ∈ entries.map Entry.key
      · simp [member]
      · simp [member, other]

end Put

namespace Table

variable {table stored : Table τ ε α}

theorem WellFormed.empty : (Table.empty : Table τ ε α).WellFormed := by
  constructor
  · intro position held found
    simp [Table.empty] at found
  · intro position
    simp

/-- Storing keeps every key once in its bucket, whatever becomes of the bucket. -/
theorem WellFormed.store {outcome : Except ε α} (wellFormed : table.WellFormed)
    (accepted : table.store position key type outcome = .ok stored) : stored.WellFormed := by
  constructor
  · intro at' held found
    obtain ⟨result, buckets, entries⟩ := buckets_store accepted
    rw [buckets, Std.ExtTreeMap.getElem?_insert] at found
    split at found
    · cases found
      rw [entries]
      exact Bucket.put_ne_nil _ _
    · exact wellFormed.nonempty at' held found
  · intro at'
    rw [bucket_store accepted]
    by_cases here : at' = position
    · have distinct := wellFormed.distinct position
      rw [if_pos here, Bucket.keys_put]
      split
      · exact distinct
      · rename_i absent
        simp only [List.nodup_append, List.nodup_singleton, List.mem_singleton]
        refine ⟨distinct, trivial, ?_⟩
        intro key member other same
        subst same
        intro same
        exact absent (same ▸ member)
    · rw [if_neg here]
      exact wellFormed.distinct at'

/-- Where every bucket has one entry, the positions are what the table's outline shows. -/
theorem occupancy_eq_map {positions : List Nat} (ascending : positions.Pairwise (· < ·))
    (sizes : ∀ position : Nat, (table.buckets[position]?).map (fun held => held.entries.length) =
      if position ∈ positions then some 1 else none) :
    table.occupancy = positions.map fun position => (position, 1) := by
  have members (position : Nat) : position ∈ table.buckets.keys ↔ position ∈ positions := by
    rw [Std.ExtTreeMap.mem_keys, Std.ExtTreeMap.mem_iff_isSome_getElem?, ← Option.isSome_map, sizes]
    split <;> simp [*]
  have sorted : table.buckets.keys.Pairwise (· < ·) :=
    Std.ExtTreeMap.ordered_keys.imp Nat.compare_eq_lt.mp
  have distinct : positions.Nodup := ascending.imp Nat.ne_of_lt
  have keys : table.buckets.keys = positions :=
    ((List.perm_ext_iff_of_nodup Std.ExtTreeMap.nodup_keys distinct).mpr members).eq_of_pairwise
      (fun _ _ _ _ less more => absurd more (Nat.lt_asymm less)) sorted ascending
  rw [← keys, ← Std.ExtTreeMap.map_fst_toList_eq_keys, occupancy, List.map_map]
  apply List.map_congr_left
  intro (position, held) member
  have size := sizes position
  rw [Std.ExtTreeMap.mem_toList_iff_getElem?_eq_some.mp member, Option.map_some] at size
  split at size
  · exact congrArg (Prod.mk position) (Option.some.inj size)
  · cases size

end Table

namespace Represents

variable {table stored : Table τ ε α} {contents : Contents τ ε α}

theorem empty : Represents (Table.empty : Table τ ε α) ∅ := by
  constructor
  · exact .empty
  · intro position key
    simp

theorem store {outcome : Except ε α} (represents : Represents table contents)
    (accepted : table.store position key type outcome = .ok stored) :
    Represents stored (contents.insert (position, key) (type, outcome)) := by
  constructor
  · exact represents.wellFormed.store accepted
  · intro at' name
    rw [Table.find?_store accepted]
    by_cases here : at' = position ∧ name = key
    · obtain ⟨rfl, rfl⟩ := here
      simp
    · have other : (at', name) ≠ (position, key) := by
        intro same
        exact here (Prod.mk.inj same)
      rw [if_neg here, Finmap.lookup_insert_of_ne _ other, represents.lookup_eq]

theorem mem_keys_iff (represents : Represents table contents) (position : Nat) (key : Key) :
    (position, key) ∈ contents.keys ↔ key ∈ (table.bucket position).map Entry.key := by
  rw [Finmap.mem_keys, ← Finmap.lookup_isSome, represents.lookup_eq, Option.isSome_map,
    Table.find?, List.find?_isSome]
  simp

theorem bucketSize_eq (represents : Represents table contents) (position : Nat) :
    table.bucketSize position = contents.bucketSize position := by
  have keys : (contents.keys.filter fun place => place.1 = position) =
      ((table.bucket position).map Entry.key).toFinset.image (Prod.mk position) := by
    ext ⟨at', key⟩
    simp only [Finset.mem_filter, Finset.mem_image, List.mem_toFinset, Prod.mk.injEq]
    constructor
    · intro ⟨member, same⟩
      subst same
      exact ⟨key, (represents.mem_keys_iff at' key).mp member, rfl, rfl⟩
    · intro ⟨name, member, same, same'⟩
      subst same same'
      exact ⟨(represents.mem_keys_iff position name).mpr member, rfl⟩
  rw [Contents.bucketSize, keys, Finset.card_image_of_injective _ (Prod.mk_right_injective position),
    List.toFinset_card_of_nodup (represents.wellFormed.distinct position), List.length_map]
  rfl

theorem positions_eq (represents : Represents table contents) :
    contents.positions = table.buckets.keys.toFinset := by
  ext position
  simp only [Contents.positions, Finset.mem_image, List.mem_toFinset, Std.ExtTreeMap.mem_keys]
  constructor
  · intro ⟨⟨at', key⟩, member, same⟩
    subst same
    obtain ⟨entry, present, _⟩ := List.mem_map.mp ((represents.mem_keys_iff at' key).mp member)
    by_contra vacant
    rw [Table.bucket_of_vacant (Std.ExtTreeMap.getElem?_eq_none vacant)] at present
    cases present
  · intro member
    have some := Std.ExtTreeMap.mem_iff_isSome_getElem?.mp member
    obtain ⟨held, found⟩ := Option.isSome_iff_exists.mp some
    obtain ⟨entry, rest, cut⟩ :=
      List.exists_cons_of_ne_nil (represents.wellFormed.nonempty position held found)
    refine ⟨(position, entry.key), (represents.mem_keys_iff position entry.key).mpr ?_, rfl⟩
    rw [Table.bucket_of_getElem found, cut]
    simp

/-- The entries are counted bucket by bucket, and every bucket once. -/
theorem size_eq (represents : Represents table contents) : table.size = contents.size := by
  have counted : table.size = (table.buckets.keys.map table.bucketSize).sum := by
    have each : table.occupancy.map Prod.snd = table.buckets.keys.map table.bucketSize := by
      rw [← Std.ExtTreeMap.map_fst_toList_eq_keys, Table.occupancy, List.map_map, List.map_map]
      apply List.map_congr_left
      intro (position, held) member
      have found := Std.ExtTreeMap.mem_toList_iff_getElem?_eq_some.mp member
      simp [Table.bucketSize, Table.bucket_of_getElem found]
    rw [← each, List.sum_eq_foldl, List.foldl_map]
    rfl
  rw [counted, Contents.size, represents.positions_eq, List.sum_toFinset _ Std.ExtTreeMap.nodup_keys]
  exact congrArg List.sum (List.map_congr_left fun position _ => represents.bucketSize_eq position)

theorem isEmpty_eq (represents : Represents table contents) :
    table.isEmpty = (contents.size == 0) := by
  rw [Bool.eq_iff_iff, beq_iff_eq, Contents.size, Finset.sum_eq_zero_iff, Table.isEmpty,
    ← Std.ExtTreeMap.isEmpty_keys, List.isEmpty_iff, represents.positions_eq]
  constructor
  · intro none
    simp [none]
  · intro vacant
    apply List.eq_nil_iff_forall_not_mem.mpr
    intro position member
    have kept := List.mem_toFinset.mpr member
    rw [← represents.positions_eq] at kept
    obtain ⟨place, among, same⟩ := Finset.mem_image.mp kept
    have some : 0 < contents.bucketSize position := by
      apply Finset.card_pos.mpr
      exact ⟨place, Finset.mem_filter.mpr ⟨among, same⟩⟩
    have zero := vacant position (List.mem_toFinset.mpr member)
    omega

/-- One request: table and map answer the same, and go on to represent each other. -/
theorem perform [DecidableEq τ] (represents : Represents table contents)
    (operation : Operation τ ε α) :
    (table.perform operation).1 = (contents.perform operation).1 ∧
      Represents (table.perform operation).2 (contents.perform operation).2 := by
  cases operation with
  | store position key type outcome =>
    simp only [Table.perform, Contents.perform, Table.write_eq_store, represents.lookup_eq]
    cases accepted : table.store position key type outcome with
    | ok stored =>
      have mutable : ¬ ((table.find? position key).map fun entry =>
          (entry.type, entry.outcome)).any (fun held => succeeded held.2) = true := by
        cases present : table.find? position key with
        | none => simp
        | some entry =>
          intro success
          rw [Table.store_of_success present (by simpa using success)] at accepted
          cases accepted
      rw [if_neg mutable]
      exact ⟨rfl, represents.store accepted⟩
    | error violation =>
      obtain ⟨entry, present, success⟩ := Table.success_of_rejected accepted
      rw [Table.store_of_success present success] at accepted
      cases accepted
      simp [present, success, represents]
  | lookup position key type =>
    simp only [Table.perform, Contents.perform, Table.lookup, represents.lookup_eq]
    cases table.find? position key with
    | none => exact ⟨rfl, represents⟩
    | some entry =>
      by_cases same : entry.type = type
      · simp [same, represents]
      · simp [same, represents]
  | size => exact ⟨congrArg Response.number represents.size_eq, represents⟩
  | isEmpty => exact ⟨congrArg Response.truth represents.isEmpty_eq, represents⟩
  | bucketSize position =>
    exact ⟨congrArg Response.number (represents.bucketSize_eq position), represents⟩
  | clear => exact ⟨rfl, .empty⟩

/-- Any number of requests, one after the other. -/
theorem converse [DecidableEq τ] (represents : Represents table contents)
    (operations : List (Operation τ ε α)) :
    (converse Table.perform table operations).1 =
        (converse Contents.perform contents operations).1 ∧
      Represents (converse Table.perform table operations).2
        (converse Contents.perform contents operations).2 := by
  induction operations generalizing table contents with
  | nil => exact ⟨rfl, represents⟩
  | cons operation operations ih =>
    obtain ⟨same, next⟩ := represents.perform operation
    obtain ⟨rest, last⟩ := ih next
    constructor
    · simp only [Memo.converse, same, rest]
    · exact last

end Represents

/-- From empty on, a table answers every request as the map does, and in the end holds for each
position and key what the map has there. -/
theorem converse_eq_contents [DecidableEq τ] (operations : List (Operation τ ε α)) :
    (converse Table.perform Table.empty operations).1 =
        (converse Contents.perform ∅ operations).1 ∧
      ∀ position key, ((converse Table.perform Table.empty operations).2.find? position key).map
          (fun entry => (entry.type, entry.outcome)) =
        (converse Contents.perform ∅ operations).2.lookup (position, key) := by
  obtain ⟨same, last⟩ := Represents.empty.converse operations
  constructor
  · exact same
  · intro position key
    exact (last.lookup_eq position key).symm

end Packrat.Memo
