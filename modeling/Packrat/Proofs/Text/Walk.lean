import Packrat.Proofs.Text.Scanning
import Packrat.Text.Cursor

/-! Walks through a text. Whoever advances a cursor and changes its payload stays between characters
of the text: what was read on the way, followed by what remains, is the text, and the slice between
two cursors is what is read from one to the other. -/

namespace Packrat.Cursor

variable {ι δ : Type}

/-- From one cursor to another by advancing and by changing the payload, with the items that were
read on the way. -/
inductive Walks (start : Cursor ι δ) : List ι → Cursor ι δ → Prop
  | here : Walks start [] start
  | advance {read : List ι} {cursor next : Cursor ι δ} {item : ι} (walk : Walks start read cursor)
      (advanced : cursor.advance = .ok (some (item, next))) : Walks start (read ++ [item]) next
  | withData {read : List ι} {cursor : Cursor ι δ} (walk : Walks start read cursor) (data : δ) :
      Walks start read (cursor.withData data)

/-- All that advancing yields, and the cursor where it ends. -/
def drain (cursor : Cursor ι δ) : Except Violation (List ι × Cursor ι δ) :=
  match _advanced : cursor.advance with
  | .error violation => .error violation
  | .ok none => .ok ([], cursor)
  | .ok (some (item, next)) => next.drain.map fun (items, last) => (item :: items, last)
termination_by cursor.ahead.length
decreasing_by
  obtain ⟨_, _, ahead, _, rfl⟩ := advance_eq_some _advanced
  simp [ahead]

/-- One cursor stands behind another in the same sequence, with these items between them. -/
structure Reached (start : Cursor ι δ) (read : List ι) (cursor : Cursor ι δ) : Prop where
  metric_eq : cursor.metric = start.metric
  filters_eq : cursor.filters = start.filters
  behind_eq : cursor.behind = read.reverse ++ start.behind
  ahead_eq : start.ahead = read ++ cursor.ahead

section

variable {start mid cursor other : Cursor ι δ} {read more : List ι}

theorem Walks.trans (walk : start.Walks read mid) (onward : mid.Walks more cursor) :
    start.Walks (read ++ more) cursor := by
  induction onward with
  | here => simpa using walk
  | advance onward advanced ih => simpa using ih.advance advanced
  | withData onward data ih => exact ih.withData data

theorem Walks.reached (bare : start.filters = []) (walk : start.Walks read cursor) :
    start.Reached read cursor := by
  induction walk with
  | here => exact ⟨rfl, rfl, rfl, rfl⟩
  | @advance read cursor next item walk advanced ih =>
    obtain ⟨first, rest, ahead, shown, rfl⟩ := advance_eq_some advanced
    -- Without filters an item is read as it is.
    rw [read_of_no_filters (ih.filters_eq.trans bare)] at shown
    cases shown
    refine ⟨ih.metric_eq, ih.filters_eq, ?_, ?_⟩
    · simp [past, ih.behind_eq]
    · simp [past, ih.ahead_eq, ahead]
  | withData walk data ih => exact ⟨ih.metric_eq, ih.filters_eq, ih.behind_eq, ih.ahead_eq⟩

theorem Reached.over (reached : start.Reached read cursor) :
    cursor.Over start.metric start.source := by
  refine ⟨reached.metric_eq, ?_⟩
  simp [source, reached.behind_eq, reached.ahead_eq]

theorem Reached.position_eq (reached : start.Reached read cursor) :
    cursor.position = start.position + start.metric.span read := by
  rw [cursor.position_eq, start.position_eq, reached.behind_eq, reached.metric_eq]
  simp [Nat.add_comm]

/-- Of two cursors behind one start, the one that is not before the other stands behind it. -/
theorem Reached.between (reached : start.Reached read cursor) (reached' : start.Reached more other)
    (le : cursor.position ≤ other.position) :
    ∃ middle, more = read ++ middle ∧ cursor.Reached middle other := by
  have shorter : start.metric.span read ≤ start.metric.span more := by
    rw [reached.position_eq, reached'.position_eq] at le
    omega
  have whole : read ++ cursor.ahead = more ++ other.ahead :=
    reached.ahead_eq.symm.trans reached'.ahead_eq
  obtain ⟨middle, rfl, ahead⟩ : ∃ middle, more = read ++ middle ∧
      cursor.ahead = middle ++ other.ahead := by
    obtain further | ⟨middle, rfl, ahead⟩ := List.append_eq_append_iff.mp whole
    · exact further
    · -- Then nothing is between them, as it would have a width.
      have none : start.metric.span middle = 0 := by
        rw [Metric.span_append] at shorter
        omega
      obtain rfl := Metric.eq_nil_of_span _ none
      exact ⟨[], by simp, ahead.symm⟩
  refine ⟨middle, rfl, reached'.metric_eq.trans reached.metric_eq.symm,
    reached'.filters_eq.trans reached.filters_eq.symm, ?_, ahead⟩
  simp [reached.behind_eq, reached'.behind_eq]

theorem walks_skip (bare : start.filters = []) (cut : start.ahead = read ++ more) :
    start.Walks read (start.skip read.length) := by
  induction read generalizing start with
  | nil => exact .here
  | cons item read ih =>
    have first : start.Walks [item] (start.past item (read ++ more)) :=
      Walks.here.advance (advance_of_bare bare cut)
    have free : (start.past item (read ++ more)).filters = [] := bare
    have rest := ih free rfl
    rw [List.length_cons, skip_succ cut]
    exact first.trans rest

/-- To stand further on in the same sequence is to be reached by a walk. -/
theorem walks_iff_reached (bare : start.filters = []) :
    start.Walks read cursor ↔ start.Reached read cursor := by
  refine ⟨Walks.reached bare, fun reached => ?_⟩
  have walk := walks_skip bare reached.ahead_eq
  have stop := walk.reached bare
  have same := reached.over.eq_withData stop.over (reached.filters_eq.trans stop.filters_eq.symm)
    (reached.position_eq.trans stop.position_eq.symm)
  rw [same]
  exact walk.withData cursor.data

theorem drain_at_end (ended : cursor.advance = .ok none) : cursor.drain = .ok ([], cursor) := by
  rw [drain]
  split
  · simp_all
  · rfl
  · simp_all

theorem drain_of_advance {item : ι} (advanced : cursor.advance = .ok (some (item, mid))) :
    cursor.drain = mid.drain.map fun (items, last) => (item :: items, last) := by
  rw [drain]
  split
  · simp_all
  · simp_all
  · rename_i other next found
    cases found.symm.trans advanced
    rfl

theorem drain_of_bare (bare : cursor.filters = []) :
    cursor.drain = .ok (cursor.ahead, cursor.skip cursor.ahead.length) := by
  induction ahead : cursor.ahead generalizing cursor with
  | nil => exact drain_at_end (advance_at_end ahead)
  | cons item rest ih =>
    have free : (cursor.past item rest).filters = [] := bare
    rw [drain_of_advance (advance_of_bare bare ahead), ih free rfl, List.length_cons,
      skip_succ ahead]
    rfl

theorem isAtEnd_iff_extent_le (cursor : Cursor ι δ) :
    cursor.isAtEnd ↔ cursor.extent ≤ cursor.position := by
  unfold isAtEnd extent
  cases cursor.ahead with
  | nil => simp
  | cons item rest =>
    have positive := cursor.metric.width_pos item
    simp
    omega

end

/-! Cursors on text. -/

/-- The cursor stands on text as it is: it counts bytes, and no filter changes what it reads. -/
structure OnText (cursor : Cursor Char δ) : Prop where
  utf8 : cursor.metric = .utf8
  bare : cursor.filters = []

section

open Text (byteLength dropBytes? Slice)

variable {source : String} {data data' : δ} {read read' middle rest : List Char}
  {cursor other : Cursor Char δ}

theorem onText_ofText (source : String) (data : δ) : (ofText source data).OnText := ⟨rfl, rfl⟩

theorem OnText.reached (onText : cursor.OnText) (reached : cursor.Reached read other) :
    other.OnText :=
  ⟨reached.metric_eq.trans onText.utf8, reached.filters_eq.trans onText.bare⟩

namespace OnText

variable (onText : cursor.OnText)
include onText

theorem position_eq : cursor.position = Metric.utf8.span cursor.behind.reverse := by
  rw [cursor.position_eq, onText.utf8, Metric.span_reverse]

theorem byteLength_text :
    byteLength cursor.text = cursor.position + Metric.utf8.span cursor.ahead := by
  simp [byteLength, text, source, onText.position_eq]

/-- A slice from the cursor on is what is ahead. -/
theorem text_slice {stop : Nat} (cut : cursor.ahead = middle ++ rest)
    (stops : stop = cursor.position + Metric.utf8.span middle) :
    (Slice.new cursor.text cursor.position stop).bind Slice.text =
      .ok (String.ofList middle) := by
  have whole : cursor.text.toList = cursor.behind.reverse ++ (middle ++ rest) := by
    simp [text, source, cut]
  exact Slice.text_new whole onText.position_eq stops

theorem text_remaining :
    cursor.remaining.bind Slice.text = .ok (String.ofList cursor.ahead) :=
  onText.text_slice (List.append_nil _).symm onText.byteLength_text

theorem text_sliceTo (reached : cursor.Reached middle other) :
    (cursor.sliceTo other).bind Slice.text = .ok (String.ofList middle) := by
  apply onText.text_slice reached.ahead_eq
  rw [reached.position_eq, onText.utf8]
  omega

theorem text_sliceTo_of_lt (before : other.position < cursor.position) :
    (cursor.sliceTo other).bind Slice.text = .ok "" := by
  apply onText.text_slice (List.nil_append _).symm
  simp
  omega

end OnText

/-! Cursors that a walk from the start of a text leads to. -/

/-- With which payload the walk started makes no difference. -/
theorem reached_ofText (walk : (ofText source data').Walks read cursor) (data : δ) :
    (ofText source data).Reached read cursor := by
  obtain ⟨metric, filters, behind, ahead⟩ := walk.reached rfl
  exact ⟨metric, filters, behind, ahead⟩

/-- Such cursors are all those that stand on text. -/
theorem onText_iff_walks : cursor.OnText ↔
    ∃ source data read, (ofText source data).Walks read cursor := by
  constructor
  · intro onText
    refine ⟨cursor.text, cursor.data, cursor.behind.reverse, ?_⟩
    rw [walks_iff_reached rfl]
    refine ⟨onText.utf8, onText.bare, ?_, ?_⟩
    · simp [ofText, ofList]
    · simp [ofText, ofList, text, source]
  · rintro ⟨source, data, read, walk⟩
    exact (onText_ofText source data).reached (reached_ofText walk data)

/-- A cursor that walks from the start of a text lead to stands between characters of it. Advancing
and slicing never fail there: what was read and what remains make up the text, advancing to the end
yields what remains, and a slice to another such cursor is what a walk to it reads, or empty if it
stands before. -/
theorem walks_through_text (walk : (ofText source data).Walks read cursor)
    (walk' : (ofText source data').Walks read' other) :
    cursor.text = source ∧ cursor.Inside .utf8 source.toList ∧
    (∃ rest last, source = String.ofList (read ++ rest) ∧
      cursor.position = byteLength (String.ofList read) ∧
      dropBytes? cursor.position source.toList = some rest ∧
      cursor.advance = .ok (rest.head?.map fun c => (c, cursor.skip 1)) ∧
      cursor.remaining.bind Slice.text = .ok (String.ofList rest) ∧
      cursor.drain = .ok (rest, last) ∧ last.position = byteLength source) ∧
    (cursor.isAtEnd ↔ byteLength source ≤ cursor.position) ∧
    (cursor.isAtEnd ↔ cursor.advance = .ok none) ∧
    (∃ last, (ofText source data).drain = .ok (source.toList, last) ∧
      last.position = byteLength source) ∧
    (cursor.position ≤ other.position → ∃ middle, read' = read ++ middle ∧
      cursor.Walks middle other ∧
      (cursor.sliceTo other).bind Slice.text = .ok (String.ofList middle)) ∧
    (other.position < cursor.position → (cursor.sliceTo other).bind Slice.text = .ok "") := by
  have reached := reached_ofText walk data
  have onText := (onText_ofText source data).reached reached
  have whole : source.toList = read ++ cursor.ahead := reached.ahead_eq
  have stands : cursor.Over .utf8 source.toList := reached.over
  have position : cursor.position = Metric.utf8.span read :=
    reached.position_eq.trans (Nat.zero_add _)
  have extent : cursor.extent = byteLength source := stands.extent_eq
  have text : cursor.text = source := by rw [Cursor.text, stands.source_eq, String.ofList_toList]
  refine ⟨text, stands.inside, ⟨cursor.ahead, _, ?whole, ?offset, ?boundary, ?next,
    onText.text_remaining, drain_of_bare onText.bare, ?ends⟩, ?atEnd, isAtEnd_iff_advance cursor,
    ⟨_, drain_of_bare rfl, ?stops⟩, ?onward, onText.text_sliceTo_of_lt⟩
  case whole => rw [← whole, String.ofList_toList]
  case offset => rw [position, byteLength, String.toList_ofList]
  case boundary => rw [whole, position, Text.dropBytes?_span]
  case next =>
    cases ahead : cursor.ahead with
    | nil => exact advance_at_end ahead
    | cons c rest =>
      rw [advance_of_bare onText.bare ahead, past_eq_skip ahead]
      rfl
  case ends => rw [position_skip_length, extent]
  case atEnd => rw [← extent]; exact isAtEnd_iff_extent_le cursor
  case stops => exact (position_skip_length _).trans (extent_ofText source data)
  case onward =>
    intro le
    obtain ⟨middle, more, between⟩ := reached.between (reached_ofText walk' data) le
    exact ⟨middle, more, (walks_iff_reached onText.bare).mpr between, onText.text_sliceTo between⟩

end

/-- The second character is two bytes wide; before it is read the payload is changed. -/
theorem walks_through_text_accent :
    let start := ofText "aé!" 0
    let first := start.skip 1
    let second := (first.withData 7).skip 1
    start.Walks ['a'] first ∧ start.Walks ['a', 'é'] second ∧ second.position = 3 ∧
      (first.sliceTo second).bind Text.Slice.text = .ok "é" ∧
      (second.sliceTo first).bind Text.Slice.text = .ok "" := by
  intro start first second
  have walk : start.Walks ['a'] first := .advance .here rfl
  have walk' : start.Walks (['a'] ++ ['é']) second := .advance (walk.withData 7) rfl
  obtain ⟨_, _, _, _, _, _, onward, _⟩ := walks_through_text walk walk'
  obtain ⟨_, _, _, _, _, _, _, back⟩ := walks_through_text walk' walk
  obtain ⟨middle, more, _, slice⟩ := onward (by decide)
  cases more
  exact ⟨walk, walk', rfl, slice, back (by decide)⟩

end Packrat.Cursor
