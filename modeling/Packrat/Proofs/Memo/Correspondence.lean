import Packrat.Proofs.Memo.Table
import Mathlib.Data.List.Forall2

/-! Tables that correspond: at the same positions they have entries of the same keys and types in the
same order, with outcomes that correspond. Asking and storing show no difference but that of the
outcomes. -/

namespace Packrat.Memo

variable {τ ε α : Type} {like : Except ε α → Except ε α → Prop}

/-- Entries of one key and one type, with outcomes that correspond. -/
structure Entry.Corresponds (like : Except ε α → Except ε α → Prop) (entry entry' : Entry τ ε α) :
    Prop where
  key_eq : entry.key = entry'.key
  type_eq : entry.type = entry'.type
  outcome : like entry.outcome entry'.outcome

/-- Buckets whose entries correspond one by one. -/
def Bucket.Corresponds (like : Except ε α → Except ε α → Prop) (bucket bucket' : Bucket τ ε α) :
    Prop :=
  List.Forall₂ (Entry.Corresponds like) bucket.entries bucket'.entries

/-- Tables with corresponding buckets at the same positions. -/
def Table.Corresponds (like : Except ε α → Except ε α → Prop) (table table' : Table τ ε α) : Prop :=
  ∀ position : Nat, Option.Rel (Bucket.Corresponds like) table.buckets[position]?
    table'.buckets[position]?

/-- The keys held at a position, in order, each with whether it is held with a success. -/
def Table.marks (table : Table τ ε α) (position : Nat) : Option (List (Key × Bool)) :=
  table.buckets[position]?.map fun bucket =>
    bucket.entries.map fun entry => (entry.key, succeeded entry.outcome)

theorem Table.corresponds_empty : (empty : Table τ ε α).Corresponds like empty := by
  intro position
  simp [empty]

theorem find?_corresponds {entries entries' : List (Entry τ ε α)}
    (corresponds : List.Forall₂ (Entry.Corresponds like) entries entries') (key : Key) :
    Option.Rel (Entry.Corresponds like) (entries.find? fun entry => entry.key = key)
      (entries'.find? fun entry => entry.key = key) := by
  induction corresponds with
  | nil => exact .none
  | @cons entry entry' entries entries' first rest ih =>
    rw [List.find?_cons, List.find?_cons, first.key_eq]
    by_cases same : entry'.key = key
    · simpa [same] using Option.Rel.some first
    · simpa [same] using ih

theorem Bucket.put_corresponds {new new' : Entry τ ε α} {entries entries' : List (Entry τ ε α)}
    (fresh : new.Corresponds like new')
    (corresponds : List.Forall₂ (Entry.Corresponds like) entries entries') :
    List.Forall₂ (Entry.Corresponds like) (put new entries) (put new' entries') := by
  induction corresponds with
  | nil => exact .cons fresh .nil
  | @cons entry entry' entries entries' first rest ih =>
    unfold put
    rw [first.key_eq, fresh.key_eq]
    split
    · exact .cons fresh rest
    · exact .cons first ih

namespace Table.Corresponds

variable {table table' : Table τ ε α} {outcome outcome' : Except ε α}

theorem bucket (corresponds : table.Corresponds like table') (position : Nat) :
    List.Forall₂ (Entry.Corresponds like) (table.bucket position) (table'.bucket position) := by
  have here := corresponds position
  unfold Table.bucket
  generalize table.buckets[position]? = held, table'.buckets[position]? = held' at here
  cases here with
  | none => exact .nil
  | some entries => exact entries

theorem find? (corresponds : table.Corresponds like table') (position : Nat) (key : Key) :
    Option.Rel (Entry.Corresponds like) (table.find? position key) (table'.find? position key) :=
  find?_corresponds (corresponds.bucket position) key

/-- Storing is refused by both tables, or accepted by both and they correspond again. -/
theorem store (corresponds : table.Corresponds like table')
    (level : ∀ outcome outcome', like outcome outcome' → succeeded outcome = succeeded outcome')
    (position : Nat) (key : Key) (type : τ) (alike : like outcome outcome') :
    (∃ violation, table.store position key type outcome = .error violation ∧
        table'.store position key type outcome' = .error violation) ∨
      ∃ stored stored', table.store position key type outcome = .ok stored ∧
        table'.store position key type outcome' = .ok stored' ∧ stored.Corresponds like stored' := by
  have held := corresponds.find? position key
  by_cases settled : ∃ entry, table.find? position key = some entry ∧ succeeded entry.outcome
  · obtain ⟨entry, present, success⟩ := settled
    rw [present] at held
    generalize present' : table'.find? position key = found at held
    cases held with
    | some same =>
      have success' := level _ _ same.outcome ▸ success
      exact .inl ⟨_, store_of_success present success, store_of_success present' success'⟩
  · have settled' :
        ¬ ∃ entry, table'.find? position key = some entry ∧ succeeded entry.outcome := by
      rintro ⟨entry', present', success'⟩
      rw [present'] at held
      generalize present : table.find? position key = found at held
      cases held with
      | some same => exact settled ⟨_, present, (level _ _ same.outcome).symm ▸ success'⟩
    obtain ⟨stored, accepted⟩ := store_of_unsettled settled type outcome
    obtain ⟨stored', accepted'⟩ := store_of_unsettled settled' type outcome'
    refine .inr ⟨stored, stored', accepted, accepted', fun at' => ?_⟩
    obtain ⟨held, buckets, entries⟩ := buckets_store accepted
    obtain ⟨held', buckets', entries'⟩ := buckets_store accepted'
    rw [buckets, buckets', Std.ExtTreeMap.getElem?_insert, Std.ExtTreeMap.getElem?_insert]
    split
    · refine .some ?_
      rw [Bucket.Corresponds, entries, entries']
      exact Bucket.put_corresponds ⟨rfl, rfl, alike⟩ (corresponds.bucket position)
    · exact corresponds at'

theorem marks_eq (corresponds : table.Corresponds like table')
    (level : ∀ outcome outcome', like outcome outcome' → succeeded outcome = succeeded outcome') :
    table.marks = table'.marks := by
  funext position
  have here := corresponds position
  unfold marks
  generalize table.buckets[position]? = held, table'.buckets[position]? = held' at here
  cases here with
  | none => rfl
  | @some bucket bucket' entries =>
    refine congrArg some (List.forall₂_eq_eq_eq ▸ List.forall₂_map_left_iff.mpr ?_)
    refine List.forall₂_map_right_iff.mpr (entries.imp fun entry entry' same => ?_)
    rw [same.key_eq, level _ _ same.outcome]

end Table.Corresponds

end Packrat.Memo
