import Packrat.Text.Bytes
import Packrat.Violation

/-! Slices of a shared text, by byte range. A slice always lies inside its buffer; whether its ends
fall between characters shows when it is read. -/

namespace Packrat.Text

/-- The bytes of `buffer` from `start` up to `stop`. -/
structure Slice where
  buffer : String
  start : Nat
  stop : Nat
  start_le_stop : start ≤ stop
  stop_le_byteLength : stop ≤ byteLength buffer

namespace Slice

/-- The slice with these ends, if they are in order and inside the buffer. -/
def new (buffer : String) (start stop : Nat) : Except Violation Slice :=
  if ordered : start ≤ stop then
    if inside : stop ≤ byteLength buffer then .ok ⟨buffer, start, stop, ordered, inside⟩
    else .error .sliceBeyondBuffer
  else .error .reversedSlice

def whole (buffer : String) : Slice := ⟨buffer, 0, byteLength buffer, Nat.zero_le _, Nat.le_refl _⟩

def length (slice : Slice) : Nat := slice.stop - slice.start

def isEmpty (slice : Slice) : Bool := slice.length == 0

/-- The characters between two byte offsets of a text, if both lie between characters. -/
def charsBetween? (text : List Char) (start stop : Nat) : Option (List Char) :=
  (dropBytes? start text).bind (takeBytes? (stop - start))

def chars (slice : Slice) : Except Violation (List Char) :=
  match charsBetween? slice.buffer.toList slice.start slice.stop with
  | some text => .ok text
  | none => .error .brokenCharacter

def text (slice : Slice) : Except Violation String := slice.chars.map String.ofList

variable {front middle back : List Char}

/-- A slice with its ends between characters shows the characters between them. -/
theorem text_of_cut {slice : Slice} (cut : slice.buffer.toList = front ++ (middle ++ back))
    (start : slice.start = Metric.utf8.span front)
    (stop : slice.stop = slice.start + Metric.utf8.span middle) :
    slice.text = .ok (String.ofList middle) := by
  have wide : slice.stop - slice.start = Metric.utf8.span middle := by omega
  have found : charsBetween? slice.buffer.toList slice.start slice.stop = some middle := by
    rw [charsBetween?, cut, wide, start, dropBytes?_span]
    exact takeBytes?_span middle back
  rw [text, chars, found]
  rfl

theorem text_new {buffer : String} {start stop : Nat}
    (cut : buffer.toList = front ++ (middle ++ back)) (starts : start = Metric.utf8.span front)
    (stops : stop = start + Metric.utf8.span middle) :
    (new buffer start stop).bind text = .ok (String.ofList middle) := by
  have ordered : start ≤ stop := by omega
  have inside : stop ≤ byteLength buffer := by
    simp only [byteLength, cut, Metric.span_append]
    omega
  simp only [new, dif_pos ordered, dif_pos inside, Except.bind]
  exact text_of_cut cut starts stops

end Slice

end Packrat.Text
