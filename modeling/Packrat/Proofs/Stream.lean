import Packrat.Proofs.Text.Walk
import Packrat.Text.CharStream

/-! Cursors refine streams. A cursor shows at every place what the stream over the shared data shows
there, and the two stay together whatever is done to both: advancing, changing the payload and
looking through filters. -/

namespace Packrat

variable {ι δ σ τ : Type}

namespace Streaming

/-- Attempts to advance that show the same: the end, one item before related streams, or one
violation. -/
inductive Abreast (related : σ → τ → Prop) :
    Except Violation (Option (ι × σ)) → Except Violation (Option (ι × τ)) → Prop where
  | ended : Abreast related (.ok none) (.ok none)
  | item (next : related stream other) :
      Abreast related (.ok (some (item, stream))) (.ok (some (item, other)))
  | refused : Abreast related (.error violation) (.error violation)

/-- Related streams show the same, and stay related. -/
structure Refines [Streaming σ ι δ] [Streaming τ ι δ] (related : σ → τ → Prop) : Prop where
  advance : related stream other → Abreast related (advance stream) (advance other)
  position : related stream other → position stream = position other
  data : related stream other → data stream = data other
  isAtEnd : related stream other → isAtEnd stream = isAtEnd other
  withData : related stream other → ∀ data,
    related (withData stream data) (withData other data)

/-- What can be done to a stream. -/
inductive Move (δ : Type) where
  | advance
  | withData (data : δ)

/-- What a stream shows where it stands. -/
structure Sight (ι δ : Type) where
  position : Nat
  data : δ
  isAtEnd : Bool
  item : Except Violation (Option ι)

variable [Streaming σ ι δ] [Streaming τ ι δ] {related : σ → τ → Prop} {stream : σ} {other : τ}

def sight (stream : σ) : Sight ι δ :=
  ⟨position stream, data stream, isAtEnd stream, (advance stream).map (·.map Prod.fst)⟩

/-- What a stream shows along its way, which ends where it cannot advance. -/
def sights : List (Move δ) → σ → List (Sight ι δ)
  | [], stream => [sight stream]
  | .withData data :: moves, stream => sight stream :: sights moves (withData stream data)
  | .advance :: moves, stream =>
    sight stream ::
      match advance stream with
      | .ok (some (_, next)) => sights moves next
      | _ => []

theorem Refines.sight (refines : Refines related) (stands : related stream other) :
    sight stream = sight other := by
  unfold Streaming.sight
  rw [refines.position stands, refines.data stands, refines.isAtEnd stands]
  congr 1
  have abreast := refines.advance stands
  generalize Streaming.advance stream = step, Streaming.advance other = step' at abreast ⊢
  cases abreast <;> rfl

/-- Whatever is done to related streams, they show the same all the way. -/
theorem Refines.sights (refines : Refines related) (stands : related stream other)
    (moves : List (Move δ)) : sights moves stream = sights moves other := by
  induction moves generalizing stream other with
  | nil => exact congrArg (fun sight => [sight]) (refines.sight stands)
  | cons move moves ih =>
    cases move with
    | withData data =>
      unfold Streaming.sights
      rw [refines.sight stands, ih (refines.withData stands data)]
    | advance =>
      unfold Streaming.sights
      rw [refines.sight stands]
      have abreast := refines.advance stands
      generalize Streaming.advance stream = step, Streaming.advance other = step' at abreast ⊢
      cases abreast with
      | ended => rfl
      | item next => exact congrArg _ (ih next)
      | refused => rfl

end Streaming

open Packrat.Streaming

variable {cursor : Cursor ι δ}

/-- The relation behind one more filter on either side. -/
def Filtered.Over (filter : Filter ι) (related : σ → Cursor ι δ → Prop) (view : Filtered ι σ)
    (cursor : Cursor ι δ) : Prop :=
  view.filter = filter ∧ ∃ inner, related view.inner inner ∧ cursor = inner.filtered filter

theorem Cursor.advance_filtered (cursor : Cursor ι δ) (filter : Filter ι) :
    (cursor.filtered filter).advance =
      match cursor.advance with
      | .error violation => .error violation
      | .ok none => .ok none
      | .ok (some (item, rest)) =>
        (filter.image item).map fun seen => some (seen, rest.filtered filter) := by
  unfold advance
  cases ahead : cursor.ahead with
  | nil => simp only [filtered, ahead]
  | cons item rest =>
    simp only [filtered, ahead]
    change Except.map _ ((cursor.read item).bind filter.image) = _
    cases cursor.read item <;> rfl

/-- A cursor behind a filter refines the stream behind the filter, if it does so without. -/
theorem Streaming.Refines.filtered [Streaming σ ι δ] {related : σ → Cursor ι δ → Prop}
    (refines : Refines related) (filter : Filter ι) : Refines (Filtered.Over filter related) where
  advance {view _} stands := by
    obtain ⟨rfl, inner, stands, rfl⟩ := stands
    change Abreast _ view.advance (inner.filtered view.filter).advance
    rw [Cursor.advance_filtered, Filtered.advance]
    have abreast : Abreast related (Streaming.advance view.inner) inner.advance :=
      refines.advance stands
    generalize Streaming.advance view.inner = step, inner.advance = step' at abreast
    cases abreast with
    | ended => exact .ended
    | refused => exact .refused
    | @item rest rest' item next =>
      cases shown : view.filter.image item with
      | error violation =>
        simp only [shown]
        exact .refused
      | ok seen =>
        simp only [shown]
        exact .item ⟨rfl, _, next, rfl⟩
  position {view _} stands := by
    obtain ⟨_, inner, stands, rfl⟩ := stands
    change Streaming.position view.inner = inner.position
    exact refines.position stands
  data {view _} stands := by
    obtain ⟨_, inner, stands, rfl⟩ := stands
    change Streaming.data view.inner = inner.data
    exact refines.data stands
  isAtEnd {view _} stands := by
    obtain ⟨_, inner, stands, rfl⟩ := stands
    change Streaming.isAtEnd view.inner = inner.isAtEnd
    exact refines.isAtEnd stands
  withData stands data := by
    obtain ⟨same, inner, stands, rfl⟩ := stands
    exact ⟨same, _, refines.withData stands data, rfl⟩

/-- The cursor stands at this place of the items, without filters, and has this payload. -/
structure Cursor.Marks (metric : Metric ι) (items : List ι) (position : Nat) (data : δ)
    (cursor : Cursor ι δ) : Prop where
  lies : cursor.Over metric items
  bare : cursor.filters = []
  position_eq : position = cursor.position
  data_eq : data = cursor.data

namespace Cursor.Marks

variable {metric : Metric ι} {items : List ι} {place : Nat} {data : δ}

theorem past {item : ι} {rest : List ι} (marks : cursor.Marks metric items place data)
    (ahead : cursor.ahead = item :: rest) :
    (cursor.past item rest).Marks metric items (place + metric.width item) data := by
  refine ⟨marks.lies.past ahead, marks.bare, ?_, marks.data_eq⟩
  rw [marks.position_eq, ← marks.lies.metric_eq]
  rfl

theorem withData (marks : cursor.Marks metric items place data) (data' : δ) :
    (cursor.withData data').Marks metric items place data' :=
  ⟨⟨marks.lies.metric_eq, marks.lies.source_eq⟩, marks.bare, marks.position_eq, rfl⟩

theorem isAtEnd_iff (marks : cursor.Marks metric items place data) :
    cursor.isAtEnd ↔ metric.span items ≤ place := by
  rw [isAtEnd_iff_extent_le, marks.lies.extent_eq, marks.position_eq]

end Cursor.Marks

/-- The cursor of a stream over items. -/
def ItemStream.At (stream : ItemStream ι δ) : Cursor ι δ → Prop :=
  Cursor.Marks .unit stream.items.toList stream.index stream.data

namespace ItemStream

variable {stream : ItemStream ι δ}

theorem at_ofItems (items : Array ι) (data : δ) :
    (ofItems items data).At (.ofList .unit items.toList data) := ⟨⟨rfl, rfl⟩, rfl, rfl, rfl⟩

theorem At.drop_eq (stands : stream.At cursor) :
    stream.items.toList.drop stream.index = cursor.ahead := by
  rw [stands.position_eq, stands.lies.position_unit.2]

theorem At.remaining_eq (stands : stream.At cursor) : stream.remaining? = some cursor.ahead := by
  have inside : stream.index ≤ stream.items.size := by
    have count := stands.lies.position_unit.1
    rw [Array.length_toList, ← stands.position_eq] at count
    omega
  rw [remaining?, if_pos inside, stands.drop_eq]

theorem refines : Refines (At : ItemStream ι δ → Cursor ι δ → Prop) where
  advance {stream cursor} stands := by
    change Abreast _ (.ok stream.advance) cursor.advance
    have found : stream.items[stream.index]? = cursor.ahead.head? := by
      rw [← stands.drop_eq, List.head?_drop, Array.getElem?_toList]
    unfold ItemStream.advance
    rw [found]
    cases ahead : cursor.ahead with
    | nil =>
      rw [Cursor.advance_at_end ahead]
      exact .ended
    | cons item rest =>
      rw [Cursor.advance_of_bare stands.bare ahead]
      exact .item (stands.past ahead)
  position stands := stands.position_eq
  data stands := stands.data_eq
  isAtEnd {stream cursor} stands := by
    apply Bool.eq_iff_iff.mpr
    change stream.isAtEnd ↔ cursor.isAtEnd
    rw [stands.isAtEnd_iff, Metric.span_unit, Array.length_toList]
    exact decide_eq_true_iff
  withData stands data := stands.withData data

/-- From the start of the items, with a filter or without, stream and cursor show the same whatever
is done to both. -/
theorem sights_ofItems (items : Array ι) (data : δ) (filter : Filter ι) (moves : List (Move δ)) :
    let cursor := Cursor.ofList .unit items.toList data
    sights moves (ofItems items data) = sights moves cursor ∧
      sights moves (⟨ofItems items data, filter⟩ : Filtered ι (ItemStream ι δ)) =
        sights moves (cursor.filtered filter) := by
  constructor
  · exact refines.sights (at_ofItems items data) moves
  · exact (refines.filtered filter).sights ⟨rfl, _, at_ofItems items data, rfl⟩ moves

end ItemStream

namespace Text

/-- The cursor of a stream over a buffer. -/
def CharStream.At (stream : CharStream δ) : Cursor Char δ → Prop :=
  Cursor.Marks .utf8 stream.buffer.toList stream.offset stream.data

namespace CharStream

variable {stream other : CharStream δ} {cursor later : Cursor Char δ}

theorem at_ofText (text : String) (data : δ) : (ofText text data).At (.ofText text data) :=
  ⟨⟨rfl, rfl⟩, rfl, rfl, rfl⟩

theorem At.text_eq (stands : stream.At cursor) : cursor.text = stream.buffer := by
  rw [Cursor.text, stands.lies.source_eq, String.ofList_toList]

theorem At.remaining_eq (stands : stream.At cursor) : stream.remaining = cursor.remaining := by
  rw [remaining, Cursor.remaining, stands.text_eq, stands.position_eq]

theorem At.sliceTo_eq (stands : stream.At cursor) (stands' : other.At later) :
    stream.sliceTo other = cursor.sliceTo later := by
  rw [sliceTo, Cursor.sliceTo, stands.text_eq, stands.position_eq, stands'.position_eq]

/-- The buffer can be cut at the offset, and what is behind the cut is ahead. -/
theorem At.dropBytes_eq (stands : stream.At cursor) :
    dropBytes? stream.offset stream.buffer.toList = some cursor.ahead := by
  obtain ⟨whole, position⟩ := stands.lies.cut
  rw [whole, stands.position_eq, position, dropBytes?_span]

theorem refines : Refines (At : CharStream δ → Cursor Char δ → Prop) where
  advance {stream cursor} stands := by
    change Abreast _ stream.advance cursor.advance
    unfold CharStream.advance
    rw [stands.dropBytes_eq]
    cases ahead : cursor.ahead with
    | nil =>
      rw [Cursor.advance_at_end ahead]
      exact .ended
    | cons c rest =>
      rw [Cursor.advance_of_bare stands.bare ahead]
      exact .item (stands.past ahead)
  position stands := stands.position_eq
  data stands := stands.data_eq
  isAtEnd {stream cursor} stands := by
    apply Bool.eq_iff_iff.mpr
    change stream.isAtEnd ↔ cursor.isAtEnd
    rw [stands.isAtEnd_iff]
    exact decide_eq_true_iff
  withData stands data := stands.withData data

/-- From the start of a text, with a filter or without, stream and cursor show the same whatever is
done to both. -/
theorem sights_ofText (text : String) (data : δ) (filter : Filter Char) (moves : List (Move δ)) :
    sights moves (ofText text data) = sights moves (Cursor.ofText text data) ∧
      sights moves (⟨ofText text data, filter⟩ : Filtered Char (CharStream δ)) =
        sights moves ((Cursor.ofText text data).filtered filter) := by
  constructor
  · exact refines.sights (at_ofText text data) moves
  · exact (refines.filtered filter).sights ⟨rfl, _, at_ofText text data, rfl⟩ moves

end CharStream

end Text

end Packrat
