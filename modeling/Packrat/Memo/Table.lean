import Packrat.Violation
import Std.Data.ExtTreeMap

/-! The memoization table: outcomes by position and key, each with the type it was stored at.
A success is final; a failure may be replaced. -/

namespace Packrat.Memo

structure Entry (τ ε α : Type) where
  key : Key
  type : τ
  outcome : Except ε α

/-- Whether a result is a value. -/
def succeeded {ε α : Type} : Except ε α → Bool
  | .ok _ => true
  | .error _ => false

/-- The entries at one position: a single one, or a chain from the second key on, oldest key
first. -/
inductive Bucket (τ ε α : Type) where
  | single (entry : Entry τ ε α)
  | chain (entries : List (Entry τ ε α))

namespace Bucket

variable {τ ε α : Type}

def entries : Bucket τ ε α → List (Entry τ ε α)
  | single entry => [entry]
  | chain entries => entries

/-- Entries with a new one in the place of the first that has its key. -/
def replaceFirst (new : Entry τ ε α) : List (Entry τ ε α) → List (Entry τ ε α)
  | [] => []
  | entry :: entries =>
    if entry.key = new.key then new :: entries else entry :: replaceFirst new entries

/-- The bucket with the entry of a key replaced, still in its place. -/
def replace (new : Entry τ ε α) : Bucket τ ε α → Bucket τ ε α
  | single _ => single new
  | chain entries => chain (replaceFirst new entries)

/-- Writes an entry over the one of its key. A success is not written over. -/
def overwrite (new existing : Entry τ ε α) : EStateM Violation (Bucket τ ε α) Unit := do
  if succeeded existing.outcome then throw (.finalSuccess new.key)
  modify (replace new)

/-- Turns a bucket into a chain, with an entry at its end. -/
def append (new : Entry τ ε α) : EStateM Violation (Bucket τ ε α) Unit := do
  let previous ← getModify fun _ => chain []
  set (chain (previous.entries ++ [new]))

/-- Puts an entry in the place of its key, or else at the end. A refusal leaves the bucket as far as
the changes have come. -/
def insert (new : Entry τ ε α) : EStateM Violation (Bucket τ ε α) Unit := do
  match (← get).entries.find? fun entry => entry.key = new.key with
  | some existing => overwrite new existing
  | none => append new

end Bucket

/-- The outcomes cached so far: at each position a bucket with one entry for every key. -/
structure Table (τ ε α : Type) where
  buckets : Std.ExtTreeMap Nat (Bucket τ ε α)

namespace Table

variable {τ ε α : Type}

def empty : Table τ ε α := ⟨∅⟩

instance : EmptyCollection (Table τ ε α) := ⟨empty⟩

def bucket (table : Table τ ε α) (position : Nat) : List (Entry τ ε α) :=
  (table.buckets[position]?.map Bucket.entries).getD []

def find? (table : Table τ ε α) (position : Nat) (key : Key) : Option (Entry τ ε α) :=
  (table.bucket position).find? fun entry => entry.key = key

/-- The outcome cached for a key at a position. Asking at a type other than the stored one breaks
the contract: one name is then shared by parsers of different types. -/
def lookup [DecidableEq τ] (table : Table τ ε α) (position : Nat) (key : Key) (type : τ) :
    Except Violation (Option (Except ε α)) :=
  match table.find? position key with
  | none => .ok none
  | some entry =>
    if entry.type = type then .ok (some entry.outcome) else .error (.outcomeType key position)

/-- Records an entry in the bucket of its position, or in a new one. A bucket is changed where it
stands, so what becomes of it in a refusal is in the table too. -/
def write (position : Nat) (new : Entry τ ε α) : EStateM Violation (Table τ ε α) Unit := fun table =>
  match table.buckets[position]? with
  | some bucket =>
    match bucket.insert new with
    | .ok () bucket => .ok () ⟨table.buckets.insert position bucket⟩
    | .error violation bucket => .error violation ⟨table.buckets.insert position bucket⟩
  | none => .ok () ⟨table.buckets.insert position (.single new)⟩

/-- The table with an outcome recorded, where that is not refused. -/
def store (table : Table τ ε α) (position : Nat) (key : Key) (type : τ) (outcome : Except ε α) :
    Except Violation (Table τ ε α) :=
  match table.write position ⟨key, type, outcome⟩ with
  | .ok () stored => .ok stored
  | .error violation _ => .error violation

/-- The positions with entries, ascending, each with the number of its entries. -/
def occupancy (table : Table τ ε α) : List (Nat × Nat) :=
  table.buckets.toList.map fun (position, bucket) => (position, bucket.entries.length)

def size (table : Table τ ε α) : Nat :=
  table.occupancy.foldl (fun total (_, entries) => total + entries) 0

def positionCount (table : Table τ ε α) : Nat := table.buckets.size

def isEmpty (table : Table τ ε α) : Bool := table.buckets.isEmpty

def bucketSize (table : Table τ ε α) (position : Nat) : Nat := (table.bucket position).length

def summary (positions entries : Nat) : String :=
  "MemoTable \x7b positions: " ++ toString positions ++ ", entries: " ++ toString entries ++ " \x7d"

def describe (table : Table τ ε α) : String := summary table.positionCount table.size

/-! What the operations do to entries. -/

@[simp] theorem bucket_empty (position : Nat) : (empty : Table τ ε α).bucket position = [] := by
  simp [bucket, empty]

@[simp] theorem find?_empty (position : Nat) (key : Key) :
    (empty : Table τ ε α).find? position key = none := by
  simp [find?]

end Table

end Packrat.Memo
