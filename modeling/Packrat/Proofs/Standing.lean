import Packrat.Cursor

/-! Cursors that stand in one sequence. Widths are positive, so such a cursor is known by its
position, the filters it reads through and its payload. -/

namespace Packrat.Cursor

variable {ι δ : Type}

/-- The cursor stands in these items, measured by this metric. -/
structure Over (metric : Metric ι) (items : List ι) (cursor : Cursor ι δ) : Prop where
  metric_eq : cursor.metric = metric
  source_eq : cursor.source = items

/-- The cursor stands in the items of `home` with the payload of `home`, behind these filters and
then those of `home`. -/
structure Beside (home : Cursor ι δ) (filters : List (Filter ι)) (cursor : Cursor ι δ) : Prop where
  lies : cursor.Over home.metric home.source
  filters_eq : cursor.filters = filters ++ home.filters
  data_eq : cursor.data = home.data

@[simp] theorem ahead_past (cursor : Cursor ι δ) (item : ι) (rest : List ι) :
    (cursor.past item rest).ahead = rest := rfl

theorem extent_eq_span (cursor : Cursor ι δ) :
    cursor.extent = cursor.metric.span cursor.source := by
  simp [extent, source, cursor.position_eq]

theorem source_past {cursor : Cursor ι δ} {item : ι} {rest : List ι}
    (ahead : cursor.ahead = item :: rest) : (cursor.past item rest).source = cursor.source := by
  simp [source, past, ahead]

/-- Of two beginnings of one list that are equally wide, neither is longer. -/
theorem append_inj_of_span (metric : Metric ι) {front front' back back' : List ι}
    (whole : front ++ back = front' ++ back') (wide : metric.span front = metric.span front') :
    front = front' ∧ back = back' := by
  induction front generalizing front' with
  | nil =>
    cases front' with
    | nil => exact ⟨rfl, by simpa using whole⟩
    | cons item front' =>
      have positive := metric.width_pos item
      simp at wide
      omega
  | cons item front ih =>
    cases front' with
    | nil =>
      have positive := metric.width_pos item
      simp at wide
      omega
    | cons other front' =>
      simp only [List.cons_append, List.cons.injEq] at whole
      obtain ⟨rfl, whole⟩ := whole
      obtain ⟨rfl, rfl⟩ := ih whole (by simpa using wide)
      exact ⟨rfl, rfl⟩

/-- The cursor stands between two items of this sequence, or at one of its ends. -/
structure Inside (metric : Metric ι) (items : List ι) (cursor : Cursor ι δ) : Prop where
  lies : cursor.Over metric items
  boundary : ∃ front back, items = front ++ back ∧ cursor.position = metric.span front
  position_le : cursor.position ≤ metric.span items

namespace Over

variable {metric : Metric ι} {items : List ι} {cursor : Cursor ι δ}

theorem past {item : ι} {rest : List ι} (lies : cursor.Over metric items)
    (ahead : cursor.ahead = item :: rest) : (cursor.past item rest).Over metric items :=
  ⟨lies.metric_eq, (source_past ahead).trans lies.source_eq⟩

/-- A cursor cuts its sequence in two, and its position is the width of the first part. -/
theorem cut (lies : cursor.Over metric items) :
    items = cursor.behind.reverse ++ cursor.ahead ∧
      cursor.position = metric.span cursor.behind.reverse :=
  ⟨lies.source_eq.symm, by rw [cursor.position_eq, lies.metric_eq, Metric.span_reverse]⟩

theorem extent_eq (lies : cursor.Over metric items) : cursor.extent = metric.span items := by
  rw [extent_eq_span, lies.metric_eq, lies.source_eq]

theorem position_le (lies : cursor.Over metric items) : cursor.position ≤ metric.span items :=
  lies.extent_eq ▸ cursor.position_le_extent

theorem inside (lies : cursor.Over metric items) : cursor.Inside metric items :=
  ⟨lies, ⟨_, _, lies.cut⟩, lies.position_le⟩

theorem same_cut {other : Cursor ι δ} (lies : cursor.Over metric items)
    (lies' : other.Over metric items) (level : cursor.position = other.position) :
    cursor.behind = other.behind ∧ cursor.ahead = other.ahead := by
  have whole := lies.cut.1.symm.trans lies'.cut.1
  have wide := lies.cut.2.symm.trans (level.trans lies'.cut.2)
  have same := append_inj_of_span metric whole wide
  exact ⟨List.reverse_inj.mp same.1, same.2⟩

/-- Cursors in one sequence behind the same filters differ in position and payload only. -/
theorem eq_withData {other : Cursor ι δ} (lies : cursor.Over metric items)
    (lies' : other.Over metric items) (filters : cursor.filters = other.filters)
    (level : cursor.position = other.position) : cursor = other.withData cursor.data := by
  obtain ⟨behind, ahead⟩ := lies.same_cut lies' level
  have metric := lies.metric_eq.trans lies'.metric_eq.symm
  cases cursor
  cases other
  simp_all [Cursor.withData]

/-- Where every item counts for one, positions are indices. -/
theorem position_unit (lies : cursor.Over .unit items) :
    cursor.position + cursor.ahead.length = items.length ∧
      cursor.ahead = items.drop cursor.position := by
  obtain ⟨whole, position⟩ := lies.cut
  rw [Metric.span_unit] at position
  have long := congrArg List.length whole
  rw [List.length_append, ← position] at long
  refine ⟨long.symm, ?_⟩
  rw [whole, position, List.drop_left]

end Over

namespace Beside

variable {home cursor other : Cursor ι δ} {filters : List (Filter ι)}

theorem refl (home : Cursor ι δ) : home.Beside [] home := ⟨⟨rfl, rfl⟩, rfl, rfl⟩

theorem past {item : ι} {rest : List ι} (beside : home.Beside filters cursor)
    (ahead : cursor.ahead = item :: rest) : home.Beside filters (cursor.past item rest) :=
  ⟨beside.lies.past ahead, beside.filters_eq, beside.data_eq⟩

theorem filtered (filter : Filter ι) (beside : home.Beside filters cursor) :
    home.Beside (filter :: filters) (cursor.filtered filter) :=
  ⟨⟨beside.lies.metric_eq, beside.lies.source_eq⟩,
    congrArg (filter :: ·) beside.filters_eq, beside.data_eq⟩

theorem unfiltered {filter : Filter ι} (beside : home.Beside (filter :: filters) cursor) :
    home.Beside filters cursor.unfiltered :=
  ⟨⟨beside.lies.metric_eq, beside.lies.source_eq⟩,
    congrArg List.tail beside.filters_eq, beside.data_eq⟩

theorem type_eq (beside : home.Beside filters cursor) :
    cursor.type = filters.map Filter.type ++ home.type := by
  rw [type, beside.filters_eq, List.map_append, type]

theorem eq_of_position (beside : home.Beside filters cursor) (beside' : home.Beside filters other)
    (level : cursor.position = other.position) : cursor = other := by
  obtain ⟨behind, ahead⟩ := beside.lies.same_cut beside'.lies level
  have metric := beside.lies.metric_eq.trans beside'.lies.metric_eq.symm
  have filters := beside.filters_eq.trans beside'.filters_eq.symm
  have data := beside.data_eq.trans beside'.data_eq.symm
  cases cursor
  cases other
  simp_all

end Beside

/-! Skipping. -/

@[simp] theorem skip_zero (cursor : Cursor ι δ) : cursor.skip 0 = cursor := rfl

theorem skip_succ {cursor : Cursor ι δ} {item : ι} {rest : List ι}
    (ahead : cursor.ahead = item :: rest) (count : Nat) :
    cursor.skip (count + 1) = (cursor.past item rest).skip count := by
  rw [skip]
  split
  · rename_i none
    simp [ahead] at none
  · rename_i other rest' cut
    obtain ⟨rfl, rfl⟩ := List.cons.inj (ahead.symm.trans cut)
    rfl

theorem skip_at_end {cursor : Cursor ι δ} (finished : cursor.ahead = []) (count : Nat) :
    cursor.skip count = cursor := by
  cases count with
  | zero => rfl
  | succ count => rw [skip]; simp [finished]

theorem past_eq_skip {cursor : Cursor ι δ} {item : ι} {rest : List ι}
    (ahead : cursor.ahead = item :: rest) : cursor.past item rest = cursor.skip 1 :=
  (skip_succ ahead 0).symm

theorem skip_add (cursor : Cursor ι δ) (count more : Nat) :
    cursor.skip (count + more) = (cursor.skip count).skip more := by
  induction count generalizing cursor with
  | zero => rw [Nat.zero_add, skip_zero]
  | succ count ih =>
    cases ahead : cursor.ahead with
    | nil => rw [skip_at_end ahead, skip_at_end ahead, skip_at_end ahead]
    | cons item rest => rw [Nat.succ_add, skip_succ ahead, skip_succ ahead, ih]

@[simp] theorem ahead_skip (cursor : Cursor ι δ) (count : Nat) :
    (cursor.skip count).ahead = cursor.ahead.drop count := by
  induction count generalizing cursor with
  | zero => rfl
  | succ count ih =>
    cases ahead : cursor.ahead with
    | nil => rw [skip_at_end ahead, ahead, List.drop_nil]
    | cons item rest => rw [skip_succ ahead, ih]; simp [past]

theorem position_skip (cursor : Cursor ι δ) (count : Nat) :
    (cursor.skip count).position =
      cursor.position + cursor.metric.span (cursor.ahead.take count) := by
  induction count generalizing cursor with
  | zero => simp
  | succ count ih =>
    cases ahead : cursor.ahead with
    | nil => simp [skip_at_end ahead]
    | cons item rest => rw [skip_succ ahead, ih]; simp [past, Nat.add_assoc]

theorem position_lt_skip {cursor : Cursor ι δ} {item : ι} {rest : List ι}
    (ahead : cursor.ahead = item :: rest) (count : Nat) :
    cursor.position < (cursor.skip (count + 1)).position := by
  rw [skip_succ ahead, position_skip]
  exact Nat.lt_of_lt_of_le (position_lt_past ..) (Nat.le_add_right ..)

theorem ahead_skip_front {cursor : Cursor ι δ} {front back : List ι}
    (cut : cursor.ahead = front ++ back) : (cursor.skip front.length).ahead = back := by
  simp [cut]

theorem position_skip_front {cursor : Cursor ι δ} {front back : List ι}
    (cut : cursor.ahead = front ++ back) :
    (cursor.skip front.length).position = cursor.position + cursor.metric.span front := by
  simp [position_skip, cut]

theorem position_skip_length (cursor : Cursor ι δ) :
    (cursor.skip cursor.ahead.length).position = cursor.extent := by
  rw [position_skip, List.take_length, extent]

@[simp] theorem filters_skip (cursor : Cursor ι δ) (count : Nat) :
    (cursor.skip count).filters = cursor.filters := by
  induction count generalizing cursor with
  | zero => rfl
  | succ count ih =>
    cases ahead : cursor.ahead with
    | nil => rw [skip_at_end ahead]
    | cons item rest => rw [skip_succ ahead, ih]; rfl

@[simp] theorem extent_skip (cursor : Cursor ι δ) (count : Nat) :
    (cursor.skip count).extent = cursor.extent := by
  induction count generalizing cursor with
  | zero => rfl
  | succ count ih =>
    cases ahead : cursor.ahead with
    | nil => rw [skip_at_end ahead]
    | cons item rest => rw [skip_succ ahead, ih, extent_past ahead]

theorem Beside.skip {home cursor : Cursor ι δ} {filters : List (Filter ι)}
    (beside : home.Beside filters cursor) (count : Nat) :
    home.Beside filters (cursor.skip count) := by
  induction count generalizing cursor with
  | zero => exact beside
  | succ count ih =>
    cases ahead : cursor.ahead with
    | nil => rwa [skip_at_end ahead]
    | cons item rest => rw [skip_succ ahead]; exact ih (beside.past ahead)

/-- The cursor after the longest run of items that pass the test. -/
def skipWhile (accepts : ι → Bool) (cursor : Cursor ι δ) : Cursor ι δ :=
  cursor.skip (cursor.ahead.takeWhile accepts).length

theorem skipWhile_of_accepts {cursor : Cursor ι δ} {accepts : ι → Bool} {item : ι} {rest : List ι}
    (ahead : cursor.ahead = item :: rest) (accepted : accepts item) :
    cursor.skipWhile accepts = (cursor.past item rest).skipWhile accepts := by
  simp only [skipWhile, ahead, List.takeWhile_cons, accepted, if_true, List.length_cons]
  exact skip_succ ahead _

theorem skipWhile_of_refuses {cursor : Cursor ι δ} {accepts : ι → Bool}
    (none : cursor.ahead.takeWhile accepts = []) : cursor.skipWhile accepts = cursor := by
  simp [skipWhile, none]

@[simp] theorem ahead_skipWhile (cursor : Cursor ι δ) (accepts : ι → Bool) :
    (cursor.skipWhile accepts).ahead = cursor.ahead.dropWhile accepts :=
  ahead_skip_front List.takeWhile_append_dropWhile.symm

@[simp] theorem filters_skipWhile (cursor : Cursor ι δ) (accepts : ι → Bool) :
    (cursor.skipWhile accepts).filters = cursor.filters := filters_skip ..

@[simp] theorem extent_skipWhile (cursor : Cursor ι δ) (accepts : ι → Bool) :
    (cursor.skipWhile accepts).extent = cursor.extent := extent_skip ..

theorem position_skipWhile (cursor : Cursor ι δ) (accepts : ι → Bool) :
    (cursor.skipWhile accepts).position =
      cursor.position + cursor.metric.span (cursor.ahead.takeWhile accepts) :=
  position_skip_front List.takeWhile_append_dropWhile.symm

end Packrat.Cursor
