import Packrat.Cursor

/-! Streams as values over shared data. A stream of items has the sequence and the index of the next
item; a filtered stream has a stream and the filter that its items pass. Parsers run on cursors,
which have the items behind and those ahead in place of an index. -/

namespace Packrat

variable {ι δ σ : Type}

/-- What any stream of items `ι` with a payload `δ` can do. -/
class Streaming (σ : Type) (ι δ : outParam Type) where
  /-- The next item and the stream after it; nothing at the end. -/
  advance : σ → Except Violation (Option (ι × σ))
  position : σ → Nat
  data : σ → δ
  withData : σ → δ → σ
  isAtEnd : σ → Bool

instance : Streaming (Cursor ι δ) ι δ where
  advance := Cursor.advance
  position := Cursor.position
  data := Cursor.data
  withData := Cursor.withData
  isAtEnd := Cursor.isAtEnd

/-- A place in a shared sequence. -/
structure ItemStream (ι δ : Type) where
  items : Array ι
  index : Nat
  data : δ

namespace ItemStream

def ofItems (items : Array ι) (data : δ) : ItemStream ι δ := ⟨items, 0, data⟩

def advance (stream : ItemStream ι δ) : Option (ι × ItemStream ι δ) :=
  stream.items[stream.index]?.map fun item => (item, { stream with index := stream.index + 1 })

def isAtEnd (stream : ItemStream ι δ) : Bool := stream.items.size ≤ stream.index

/-- The items from the index on; there is no such part after the end. -/
def remaining? (stream : ItemStream ι δ) : Option (List ι) :=
  if stream.index ≤ stream.items.size then some (stream.items.toList.drop stream.index) else none

end ItemStream

instance : Streaming (ItemStream ι δ) ι δ where
  advance stream := .ok stream.advance
  position := ItemStream.index
  data := ItemStream.data
  withData stream data := { stream with data := data }
  isAtEnd := ItemStream.isAtEnd

/-- A stream seen through a filter. -/
structure Filtered (ι σ : Type) where
  inner : σ
  filter : Filter ι

namespace Filtered

variable [Streaming σ ι δ]

/-- The next item of the stream inside, as the filter shows it. -/
def advance (view : Filtered ι σ) : Except Violation (Option (ι × Filtered ι σ)) :=
  match Streaming.advance view.inner with
  | .error violation => .error violation
  | .ok none => .ok none
  | .ok (some (item, rest)) =>
    (view.filter.image item).map fun seen => some (seen, { view with inner := rest })

end Filtered

/-- Only the items are seen through the filter; the rest is that of the stream inside. -/
instance [Streaming σ ι δ] : Streaming (Filtered ι σ) ι δ where
  advance := Filtered.advance
  position view := Streaming.position view.inner
  data view := Streaming.data view.inner
  withData view data := { view with inner := Streaming.withData view.inner data }
  isAtEnd view := Streaming.isAtEnd view.inner

end Packrat
