import Packrat.Memo.Table

/-! What a table answers about the entry it has for a key at a position, or does not have, and what
storing an outcome makes of its buckets. -/

namespace Packrat.Memo

variable {τ ε α : Type}

namespace Bucket

/-- Entries with a new one in the place of its key, or else at the end. -/
def put (new : Entry τ ε α) : List (Entry τ ε α) → List (Entry τ ε α)
  | [] => [new]
  | entry :: entries => if entry.key = new.key then new :: entries else entry :: put new entries

theorem put_of_absent {new : Entry τ ε α} {entries : List (Entry τ ε α)}
    (absent : entries.find? (fun entry => entry.key = new.key) = none) :
    put new entries = entries ++ [new] := by
  induction entries with
  | nil => rfl
  | cons entry entries ih =>
    by_cases same : entry.key = new.key
    · simp [same] at absent
    · simp [same] at absent ih
      simp [put, same, ih absent]

theorem put_of_present {new existing : Entry τ ε α} {entries : List (Entry τ ε α)}
    (present : entries.find? (fun entry => entry.key = new.key) = some existing) :
    put new entries = replaceFirst new entries := by
  induction entries with
  | nil => cases present
  | cons entry entries ih =>
    by_cases same : entry.key = new.key
    · simp [put, replaceFirst, same]
    · simp only [List.find?_cons, same, decide_false] at present
      simp [put, replaceFirst, same, ih present]

theorem entries_replace {new existing : Entry τ ε α} {bucket : Bucket τ ε α}
    (present : bucket.entries.find? (fun entry => entry.key = new.key) = some existing) :
    (bucket.replace new).entries = replaceFirst new bucket.entries := by
  cases bucket with
  | single entry =>
    by_cases same : entry.key = new.key
    · simp [replace, entries, replaceFirst, same]
    · simp [entries, same] at present
  | chain entries => rfl

/-- The check comes before the change, so a bucket that refuses an entry is left as it was. -/
theorem overwrite_eq (new existing : Entry τ ε α) (bucket : Bucket τ ε α) :
    bucket.overwrite new existing =
      if succeeded existing.outcome then .error (.finalSuccess new.key) bucket
      else .ok () (bucket.replace new) := by
  unfold overwrite
  split <;> rfl

theorem append_eq (new : Entry τ ε α) (bucket : Bucket τ ε α) :
    bucket.append new = .ok () (chain (bucket.entries ++ [new])) := rfl

theorem insert_eq (new : Entry τ ε α) (bucket : Bucket τ ε α) :
    bucket.insert new =
      (match bucket.entries.find? fun (entry : Entry τ ε α) => entry.key = new.key with
      | some existing => overwrite new existing
      | none => append new) bucket := rfl

/-- A bucket that accepts an entry has it in the place of its key, or at the end: neither the turn
into a chain nor a replacement loses another entry. -/
theorem entries_insert {new : Entry τ ε α} {bucket inserted : Bucket τ ε α}
    (accepted : bucket.insert new = .ok () inserted) :
    inserted.entries = put new bucket.entries := by
  cases place : bucket.entries.find? fun entry => entry.key = new.key with
  | some existing =>
    simp only [insert_eq, place, overwrite_eq] at accepted
    split at accepted
    · cases accepted
    · cases accepted
      rw [entries_replace place, put_of_present place]
  | none =>
    simp only [insert_eq, place, append_eq] at accepted
    cases accepted
    rw [put_of_absent place]
    rfl

/-- A bucket refuses an entry only for a success that it holds, and stays as it was. -/
theorem success_of_insert_refused {new : Entry τ ε α} {bucket left : Bucket τ ε α}
    {violation : Violation} (refused : bucket.insert new = .error violation left) :
    left = bucket ∧ ∃ entry, bucket.entries.find? (fun entry => entry.key = new.key) = some entry ∧
      succeeded entry.outcome := by
  cases place : bucket.entries.find? fun entry => entry.key = new.key with
  | some existing =>
    simp only [insert_eq, place, overwrite_eq] at refused
    split at refused
    · rename_i success
      cases refused
      exact ⟨rfl, existing, rfl, success⟩
    · cases refused
  | none =>
    simp only [insert_eq, place, append_eq] at refused
    cases refused

theorem insert_of_success {new entry : Entry τ ε α} {bucket : Bucket τ ε α}
    (present : bucket.entries.find? (fun entry => entry.key = new.key) = some entry)
    (success : succeeded entry.outcome) :
    bucket.insert new = .error (.finalSuccess new.key) bucket := by
  simp only [insert_eq, present, overwrite_eq, if_pos success]

theorem find?_put_self (new : Entry τ ε α) (entries : List (Entry τ ε α)) :
    (put new entries).find? (fun entry => entry.key = new.key) = some new := by
  induction entries with
  | nil => simp [put]
  | cons entry entries ih => by_cases same : entry.key = new.key <;> simp [put, same, ih]

theorem find?_put_other (new : Entry τ ε α) (entries : List (Entry τ ε α)) (key : Key)
    (other : key ≠ new.key) :
    (put new entries).find? (fun entry => entry.key = key) =
      entries.find? (fun entry => entry.key = key) := by
  induction entries with
  | nil => simp [put, other.symm]
  | cons entry entries ih =>
    by_cases same : entry.key = new.key
    · simp [put, same, other.symm]
    · rw [put, if_neg same, List.find?_cons, List.find?_cons, ih]

theorem mem_put {new entry : Entry τ ε α} {entries : List (Entry τ ε α)}
    (member : entry ∈ put new entries) : entry = new ∨ entry ∈ entries := by
  induction entries with
  | nil => exact .inl (List.mem_singleton.mp member)
  | cons first entries ih =>
    unfold put at member
    split at member
    · rcases List.mem_cons.mp member with same | member
      · exact .inl same
      · exact .inr (List.mem_cons_of_mem _ member)
    · rcases List.mem_cons.mp member with same | member
      · exact .inr (same ▸ List.mem_cons_self)
      · exact (ih member).imp_right (List.mem_cons_of_mem _)

end Bucket

namespace Table

open Bucket

variable {table : Table τ ε α} {position : Nat} {key : Key} {type : τ}

theorem lookup_of_absent [DecidableEq τ] (absent : table.find? position key = none) :
    table.lookup position key type = .ok none := by
  rw [lookup, absent]

theorem lookup_of_present [DecidableEq τ] {entry : Entry τ ε α}
    (present : table.find? position key = some entry) (same : entry.type = type) :
    table.lookup position key type = .ok (some entry.outcome) := by
  simp only [lookup, present, if_pos same]

theorem key_of_find? {entry : Entry τ ε α} (found : table.find? position key = some entry) :
    entry.key = key := by
  simpa using List.find?_some found

theorem mem_bucket_of_lookup [DecidableEq τ] {outcome : Except ε α}
    (found : table.lookup position key type = .ok (some outcome)) :
    ∃ entry ∈ table.bucket position, entry.outcome = outcome := by
  unfold lookup at found
  split at found
  · cases found
  · rename_i entry present
    split at found
    · cases found
      exact ⟨entry, List.mem_of_find?_eq_some present, rfl⟩
    · cases found

theorem bucket_of_getElem {held : Bucket τ ε α} (found : table.buckets[position]? = some held) :
    table.bucket position = held.entries := by
  simp [bucket, found]

theorem bucket_of_vacant (vacant : table.buckets[position]? = none) :
    table.bucket position = [] := by
  simp [bucket, vacant]

theorem write_of_vacant (vacant : table.buckets[position]? = none) (new : Entry τ ε α) :
    table.write position new = .ok () ⟨table.buckets.insert position (.single new)⟩ := by
  simp only [write, vacant]

/-- A table that accepts an entry has it in the bucket of its position, and all other buckets as they
were. -/
theorem buckets_write {new : Entry τ ε α} {stored : Table τ ε α}
    (accepted : table.write position new = .ok () stored) :
    ∃ held : Bucket τ ε α, stored.buckets = table.buckets.insert position held ∧
      held.entries = put new (table.bucket position) := by
  unfold write at accepted
  split at accepted
  · rename_i held found
    split at accepted
    · rename_i result inserted
      cases accepted
      exact ⟨result, rfl, by rw [entries_insert inserted, bucket_of_getElem found]⟩
    · cases accepted
  · rename_i vacant
    cases accepted
    exact ⟨_, rfl, by rw [bucket_of_vacant vacant]; rfl⟩

/-- A table refuses an entry only where a success is held, and stays as it was. -/
theorem success_of_write_refused {new : Entry τ ε α} {violation : Violation} {left : Table τ ε α}
    (refused : table.write position new = .error violation left) :
    left = table ∧ ∃ entry, table.find? position new.key = some entry ∧ succeeded entry.outcome := by
  unfold write at refused
  split at refused
  · rename_i held found
    split at refused
    · cases refused
    · rename_i reason result inserted
      obtain ⟨same, success⟩ := success_of_insert_refused inserted
      have unchanged : table.buckets.insert position result = table.buckets := by
        apply Std.ExtTreeMap.ext_getElem?
        intro at'
        rw [Std.ExtTreeMap.getElem?_insert]
        split
        · rename_i here
          rw [← Std.compare_eq_iff_eq.mp here, found, same]
        · rfl
      cases refused
      rw [find?, bucket_of_getElem found, unchanged]
      exact ⟨rfl, success⟩
  · cases refused

/-- Where a success is held, an entry is refused. -/
theorem write_of_success {new entry : Entry τ ε α}
    (present : table.find? position new.key = some entry) (success : succeeded entry.outcome) :
    ∃ left, table.write position new = .error (.finalSuccess new.key) left := by
  unfold write
  split
  · rename_i held found
    rw [find?, bucket_of_getElem found] at present
    rw [insert_of_success present success]
    exact ⟨_, rfl⟩
  · rename_i vacant
    rw [find?, bucket_of_vacant vacant] at present
    cases present

/-- Storing is writing, with the table as it was where that is refused. -/
theorem write_eq_store (table : Table τ ε α) (position : Nat) (key : Key) (type : τ)
    (outcome : Except ε α) :
    table.write position ⟨key, type, outcome⟩ =
      match table.store position key type outcome with
      | .ok stored => .ok () stored
      | .error violation => .error violation table := by
  unfold store
  cases written : table.write position ⟨key, type, outcome⟩ with
  | ok done stored => rfl
  | error violation left =>
    obtain ⟨rfl, _⟩ := success_of_write_refused written
    rfl

theorem buckets_store {stored : Table τ ε α} {outcome : Except ε α}
    (accepted : table.store position key type outcome = .ok stored) :
    ∃ held : Bucket τ ε α, stored.buckets = table.buckets.insert position held ∧
      held.entries = put ⟨key, type, outcome⟩ (table.bucket position) :=
  buckets_write (by rw [write_eq_store, accepted])

/-- A table that accepts an outcome has it in the bucket of its position, and all other buckets as
they were. -/
theorem bucket_store {stored : Table τ ε α} {outcome : Except ε α}
    (accepted : table.store position key type outcome = .ok stored) (at' : Nat) :
    stored.bucket at' =
      if at' = position then put ⟨key, type, outcome⟩ (table.bucket position)
      else table.bucket at' := by
  obtain ⟨held, buckets, entries⟩ := buckets_store accepted
  by_cases here : at' = position
  · subst here
    rw [if_pos rfl, ← entries]
    simp [bucket, buckets]
  · simp [bucket, buckets, Std.ExtTreeMap.getElem?_insert, here, Ne.symm here]

/-- A table that accepts an outcome holds it, and every other entry it held before. -/
theorem find?_store {stored : Table τ ε α} {outcome : Except ε α}
    (accepted : table.store position key type outcome = .ok stored) (at' : Nat) (name : Key) :
    stored.find? at' name =
      if at' = position ∧ name = key then some ⟨key, type, outcome⟩ else table.find? at' name := by
  unfold find?
  rw [bucket_store accepted]
  by_cases here : at' = position
  · subst here
    by_cases same : name = key
    · subst same
      simpa using find?_put_self ⟨name, type, outcome⟩ _
    · simpa [same] using find?_put_other ⟨key, type, outcome⟩ _ name same
  · simp [here]

/-- Storing is refused only where a success is held. -/
theorem success_of_rejected {outcome : Except ε α} {violation : Violation}
    (rejected : table.store position key type outcome = .error violation) :
    ∃ entry, table.find? position key = some entry ∧ succeeded entry.outcome := by
  have refused : table.write position ⟨key, type, outcome⟩ = .error violation table := by
    rw [write_eq_store, rejected]
  exact (success_of_write_refused refused).2

/-- Where no success is held, storing is accepted. -/
theorem store_of_unsettled
    (unsettled : ¬ ∃ entry, table.find? position key = some entry ∧ succeeded entry.outcome)
    (type : τ) (outcome : Except ε α) :
    ∃ stored, table.store position key type outcome = .ok stored := by
  cases accepted : table.store position key type outcome with
  | ok stored => exact ⟨stored, rfl⟩
  | error violation => exact absurd (success_of_rejected accepted) unsettled

/-- Where a success is held, storing is refused. -/
theorem store_of_success {outcome : Except ε α} {entry : Entry τ ε α}
    (present : table.find? position key = some entry) (success : succeeded entry.outcome) :
    table.store position key type outcome = .error (.finalSuccess key) := by
  have rejected : ∃ left, table.write position ⟨key, type, outcome⟩ =
      .error (.finalSuccess key) left := write_of_success present success
  obtain ⟨left, refused⟩ := rejected
  rw [store, refused]

theorem find?_of_vacant (vacant : table.buckets[position]? = none) (key : Key) :
    table.find? position key = none := by
  rw [find?, bucket_of_vacant vacant]
  rfl

/-- A position without a bucket gets one with a single entry. -/
theorem store_of_vacant (vacant : table.buckets[position]? = none) (key : Key) (type : τ)
    (outcome : Except ε α) :
    table.store position key type outcome =
      .ok ⟨table.buckets.insert position (.single ⟨key, type, outcome⟩)⟩ := by
  rw [store, write_of_vacant vacant]

/-- Nothing but the new entry is in a table that was not there before. -/
theorem mem_bucket_store {stored : Table τ ε α} {outcome : Except ε α} {entry : Entry τ ε α}
    (accepted : table.store position key type outcome = .ok stored)
    (member : entry ∈ stored.bucket at') :
    (at' = position ∧ entry.outcome = outcome) ∨ entry ∈ table.bucket at' := by
  rw [bucket_store accepted] at member
  split at member
  · rename_i here
    subst here
    rcases mem_put member with same | member
    · exact .inl ⟨rfl, same ▸ rfl⟩
    · exact .inr member
  · exact .inr member

end Table

end Packrat.Memo
