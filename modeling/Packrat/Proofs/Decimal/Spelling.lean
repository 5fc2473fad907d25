import Packrat.Proofs.Calculator.Phrase

/-! How numbers are spelled: a finite one as a numeral, digits or digits on both sides of a point,
with at most a minus before it. -/

namespace Packrat.Decimal

open Calculator

theorem digits_toDigits (n : Nat) : Digits (Nat.toDigits 10 n) := by
  refine ⟨Nat.toDigits_ne_nil, ?_⟩
  intro c member
  have digit : c.isDigit = true := Nat.isDigit_of_mem_toDigits (by decide) (by decide) member
  exact digit

theorem isDigit_of_mem_zeros {count : Nat} {c : Char} (member : c ∈ List.replicate count '0') :
    Text.isDigit c := by
  rw [List.eq_of_mem_replicate member]
  rfl

/-- A fraction without digits is dropped together with its point. -/
theorem numeral_pointed {whole fraction : List Char} (digits : Digits whole)
    (more : ∀ c ∈ fraction, Text.isDigit c) :
    Numeral (if fraction.isEmpty then whole else whole ++ '.' :: fraction) := by
  cases fraction with
  | nil => exact .whole digits
  | cons c rest => exact .fraction digits ⟨nofun, more⟩

section

variable {padded : List Char} (all : ∀ c ∈ padded, Text.isDigit c)
include all

theorem digits_take {places : Nat} (long : places < padded.length) :
    Digits (padded.take (padded.length - places)) := by
  constructor
  · apply List.ne_nil_of_length_pos
    rw [List.length_take]
    omega
  · exact fun c member => all c (List.mem_of_mem_take member)

theorem isDigit_of_mem_trimmed {count : Nat} {c : Char}
    (member : c ∈ ((padded.drop count).reverse.dropWhile (· == '0')).reverse) :
    Text.isDigit c := by
  have kept := List.dropWhile_subset _ (List.mem_reverse.mp member)
  exact all c (List.mem_of_mem_drop (List.mem_reverse.mp kept))

end

theorem numeral_positional (number : Scientific) : Numeral number.positional.toList := by
  have digits := digits_toDigits number.digits
  unfold Scientific.positional
  by_cases whole : 0 ≤ number.exponent
  · simp only [if_pos whole, String.toList_ofList]
    refine .whole ⟨List.append_ne_nil_of_left_ne_nil digits.1 _, ?_⟩
    intro c member
    exact (List.mem_append.mp member).elim (digits.2 c) isDigit_of_mem_zeros
  · simp only [if_neg whole, String.toList_ofList]
    have all (count : Nat) :
        ∀ c ∈ List.replicate count '0' ++ Nat.toDigits 10 number.digits, Text.isDigit c := by
      intro c member
      exact (List.mem_append.mp member).elim isDigit_of_mem_zeros (digits.2 c)
    apply numeral_pointed
    · apply digits_take (all _)
      -- The zeros put in front leave a digit before the point.
      rw [List.length_append, List.length_replicate]
      omega
    · exact fun c member => isDigit_of_mem_trimmed (all _) member

/-- The text of a number without its sign. -/
def IsSize (text : String) : Prop := text = "inf" ∨ Numeral text.toList

/-- The text of a number: the word for none, or a size with at most a minus before it. -/
def Spelled (text : String) : Prop :=
  text = "NaN" ∨ ∃ size, IsSize size ∧ (text = size ∨ text = "-" ++ size)

theorem spelled_signed {negative : Prop} [Decidable negative] {text : String}
    (size : IsSize text) : Spelled ((if negative then "-" else "") ++ text) := by
  refine .inr ⟨text, size, ?_⟩
  by_cases minus : negative
  · right
    rw [if_pos minus]
  · left
    rw [if_neg minus, String.empty_append]

theorem render_spelled (x : Float) : Spelled (render x) := by
  unfold render
  dsimp only
  split
  · split
    · exact spelled_signed (.inl rfl)
    · exact .inl rfl
  · split
    · have zero : Digits "0".toList := ⟨nofun, by simp; rfl⟩
      exact spelled_signed (.inr (.whole zero))
    · exact spelled_signed (.inr (numeral_positional _))

end Packrat.Decimal
