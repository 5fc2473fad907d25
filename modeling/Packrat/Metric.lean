/-! Units of length. A metric gives every item a positive width, so a position that counts widths
grows with each item read. -/

namespace Packrat

/-- A positive width for every item. -/
structure Metric (ι : Type) where
  width : ι → Nat
  width_pos : ∀ item, 0 < width item

namespace Metric

variable {ι : Type} (metric : Metric ι)

def unit : Metric ι := ⟨fun _ => 1, fun _ => Nat.one_pos⟩

/-- Every character counts for its bytes in UTF-8. -/
def utf8 : Metric Char := ⟨Char.utf8Size, Char.utf8Size_pos⟩

/-- The width of a run of items. -/
def span : List ι → Nat
  | [] => 0
  | item :: items => metric.width item + span items

@[simp] theorem span_nil : metric.span [] = 0 := rfl

@[simp] theorem span_cons (item : ι) (items : List ι) :
    metric.span (item :: items) = metric.width item + metric.span items := rfl

@[simp] theorem span_append (front back : List ι) :
    metric.span (front ++ back) = metric.span front + metric.span back := by
  induction front with
  | nil => simp
  | cons item items ih => simp [ih, Nat.add_assoc]

@[simp] theorem span_reverse (items : List ι) : metric.span items.reverse = metric.span items := by
  induction items with
  | nil => rfl
  | cons item items ih => simp [ih, Nat.add_comm]

theorem eq_nil_of_span {items : List ι} (none : metric.span items = 0) : items = [] := by
  cases items with
  | nil => rfl
  | cons item items =>
    have positive := metric.width_pos item
    rw [span_cons] at none
    omega

theorem span_unit (items : List ι) : (unit : Metric ι).span items = items.length := by
  induction items with
  | nil => rfl
  | cons item items ih => rw [span_cons, ih, List.length_cons, Nat.add_comm]; rfl

end Metric

end Packrat
