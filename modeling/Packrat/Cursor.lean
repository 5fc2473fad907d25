import Packrat.Metric
import Packrat.Violation

/-! Cursors: where a parser stands in a sequence of items. A cursor is a value. Advancing gives
another one and keeps the first, so backtracking is taking up an earlier cursor again. -/

namespace Packrat

/-- How an item looks to those who read it. A filter that has no image for an item breaks a contract
when the item is read, and not before. The type of the function is kept by name: a stream seen
through a filter is of a type of its own for every type of filter. -/
structure Filter (ι : Type) where
  type : String
  image : ι → Except Violation ι

/-- The type of a stream as far as it depends on filters: their types, the last filter first. -/
abbrev ViewType := List String

/-- A place in a sequence of items of type `ι`, with a payload of type `δ` that parsers carry along.
The position is the width of what lies behind. Items pass through the `filters` when they are read,
the last filter first. -/
structure Cursor (ι δ : Type) where
  metric : Metric ι
  /-- The items already read, latest first. -/
  behind : List ι
  /-- The items still to be read. -/
  ahead : List ι
  position : Nat
  position_eq : position = metric.span behind
  filters : List (Filter ι)
  data : δ

namespace Cursor

variable {ι δ : Type}

def ofList (metric : Metric ι) (items : List ι) (data : δ) : Cursor ι δ :=
  ⟨metric, [], items, 0, rfl, [], data⟩

/-- The whole sequence the cursor stands in. -/
def source (cursor : Cursor ι δ) : List ι := cursor.behind.reverse ++ cursor.ahead

def extent (cursor : Cursor ι δ) : Nat := cursor.position + cursor.metric.span cursor.ahead

def isAtEnd (cursor : Cursor ι δ) : Bool := cursor.ahead.isEmpty

/-- An item as the cursor's filters show it. -/
def read (cursor : Cursor ι δ) (item : ι) : Except Violation ι :=
  cursor.filters.foldr (fun filter seen => seen.bind filter.image) (.ok item)

/-- The cursor with `item` behind it and `rest` ahead. -/
def past (cursor : Cursor ι δ) (item : ι) (rest : List ι) : Cursor ι δ :=
  { cursor with
    behind := item :: cursor.behind
    ahead := rest
    position := cursor.position + cursor.metric.width item
    position_eq := by rw [Metric.span_cons, cursor.position_eq, Nat.add_comm] }

/-- The next item and the cursor after it; nothing at the end. -/
def advance (cursor : Cursor ι δ) : Except Violation (Option (ι × Cursor ι δ)) :=
  match cursor.ahead with
  | [] => .ok none
  | item :: rest => (cursor.read item).map fun seen => some (seen, cursor.past item rest)

/-- The cursor after the next `count` items, or at the end. None of them is read. -/
def skip (cursor : Cursor ι δ) : (count : Nat) → Cursor ι δ
  | 0 => cursor
  | count + 1 =>
    match cursor.ahead with
    | [] => cursor
    | item :: rest => (cursor.past item rest).skip count

def withData (cursor : Cursor ι δ) (data : δ) : Cursor ι δ := { cursor with data := data }

/-- A view of the same place through one more filter. -/
def filtered (cursor : Cursor ι δ) (filter : Filter ι) : Cursor ι δ :=
  { cursor with filters := filter :: cursor.filters }

/-- The view without its latest filter. -/
def unfiltered (cursor : Cursor ι δ) : Cursor ι δ :=
  { cursor with filters := cursor.filters.tail }

def depth (cursor : Cursor ι δ) : Nat := cursor.filters.length

def type (cursor : Cursor ι δ) : ViewType := cursor.filters.map Filter.type

theorem position_le_extent (cursor : Cursor ι δ) : cursor.position ≤ cursor.extent :=
  Nat.le_add_right _ _

theorem read_of_no_filters {cursor : Cursor ι δ} (bare : cursor.filters = []) (item : ι) :
    cursor.read item = .ok item := by
  simp [read, bare]

theorem position_lt_past (cursor : Cursor ι δ) (item : ι) (rest : List ι) :
    cursor.position < (cursor.past item rest).position :=
  Nat.lt_add_of_pos_right (cursor.metric.width_pos item)

theorem extent_past {cursor : Cursor ι δ} {item : ι} {rest : List ι}
    (ahead : cursor.ahead = item :: rest) : (cursor.past item rest).extent = cursor.extent := by
  simp [extent, past, ahead, Nat.add_assoc]

/-- To advance is to step past the item that is next, which is read on the way. -/
theorem advance_eq_some {cursor next : Cursor ι δ} {seen : ι}
    (advanced : cursor.advance = .ok (some (seen, next))) :
    ∃ item rest, cursor.ahead = item :: rest ∧ cursor.read item = .ok seen ∧
      next = cursor.past item rest := by
  unfold advance at advanced
  split at advanced
  · cases advanced
  · rename_i item rest ahead
    cases shown : cursor.read item with
    | error violation => simp [shown, Except.map] at advanced
    | ok image =>
      simp only [shown, Except.map, Except.ok.injEq, Option.some.injEq, Prod.mk.injEq] at advanced
      exact ⟨item, rest, ahead, by rw [shown, advanced.1], advanced.2.symm⟩

theorem isAtEnd_iff_advance (cursor : Cursor ι δ) :
    cursor.isAtEnd ↔ cursor.advance = .ok none := by
  unfold isAtEnd advance
  cases cursor.ahead with
  | nil => simp
  | cons item rest => cases shown : cursor.read item <;> simp [shown, Except.map]

theorem position_lt_of_advance {cursor next : Cursor ι δ} {item : ι}
    (advanced : cursor.advance = .ok (some (item, next))) : cursor.position < next.position := by
  obtain ⟨_, _, _, _, rfl⟩ := advance_eq_some advanced
  exact position_lt_past ..

end Cursor

end Packrat
