import Packrat.Metric

/-! Byte offsets into text. An offset is usable only between two characters; the two cutting
functions have no answer at any other. -/

namespace Packrat.Text

def byteLength (text : String) : Nat := Metric.utf8.span text.toList

/-- The characters after the first `offset` bytes. -/
def dropBytes? : (offset : Nat) → List Char → Option (List Char)
  | 0, text => some text
  | _ + 1, [] => none
  | offset + 1, c :: text =>
    if c.utf8Size ≤ offset + 1 then dropBytes? (offset + 1 - c.utf8Size) text else none

/-- The characters in the first `count` bytes. -/
def takeBytes? : (count : Nat) → List Char → Option (List Char)
  | 0, _ => some []
  | _ + 1, [] => none
  | count + 1, c :: text =>
    if c.utf8Size ≤ count + 1 then (takeBytes? (count + 1 - c.utf8Size) text).map (c :: ·) else none

theorem span_ofList (text : List Char) :
    Metric.utf8.span text = (String.ofList text).utf8ByteSize := by
  induction text with
  | nil => simp
  | cons c text ih =>
    have split : String.ofList (c :: text) = String.singleton c ++ String.ofList text := by
      rw [String.singleton_eq_ofList, ← String.ofList_append]
      rfl
    rw [Metric.span_cons, ih, split, String.utf8ByteSize_append, String.utf8ByteSize_singleton]
    rfl

/-- The length is that of the string's own encoding. -/
theorem byteLength_eq (text : String) : byteLength text = text.utf8ByteSize := by
  rw [byteLength, span_ofList, String.ofList_toList]

theorem dropBytes?_span (front back : List Char) :
    dropBytes? (Metric.utf8.span front) (front ++ back) = some back := by
  induction front with
  | nil => simp [dropBytes?]
  | cons c front ih =>
    have positive : 0 < c.utf8Size := c.utf8Size_pos
    obtain ⟨n, size⟩ : ∃ n, c.utf8Size + Metric.utf8.span front = n + 1 :=
      ⟨c.utf8Size + Metric.utf8.span front - 1, by omega⟩
    have rest : n + 1 - c.utf8Size = Metric.utf8.span front := by omega
    have fits : c.utf8Size ≤ n + 1 := by omega
    simp only [Metric.span_cons, List.cons_append]
    rw [show Metric.utf8.width c = c.utf8Size from rfl, size, dropBytes?, if_pos fits, rest, ih]

theorem takeBytes?_span (front back : List Char) :
    takeBytes? (Metric.utf8.span front) (front ++ back) = some front := by
  induction front with
  | nil => simp [takeBytes?]
  | cons c front ih =>
    have positive : 0 < c.utf8Size := c.utf8Size_pos
    obtain ⟨n, size⟩ : ∃ n, c.utf8Size + Metric.utf8.span front = n + 1 :=
      ⟨c.utf8Size + Metric.utf8.span front - 1, by omega⟩
    have rest : n + 1 - c.utf8Size = Metric.utf8.span front := by omega
    have fits : c.utf8Size ≤ n + 1 := by omega
    simp only [Metric.span_cons, List.cons_append]
    rw [show Metric.utf8.width c = c.utf8Size from rfl, size, takeBytes?, if_pos fits, rest, ih]
    rfl

end Packrat.Text
