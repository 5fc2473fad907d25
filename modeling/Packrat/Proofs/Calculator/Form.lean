import Packrat.Proofs.Calculator.Lexeme
import Packrat.Proofs.Calculator.Recognition
import Packrat.Proofs.Decimal.Spelling

/-! Prefix notation is uniquely readable. What it shows of an expression is the form: the tree
without groups and offsets, and with the texts of its numbers for the numbers. Of these texts nothing
is used but that they are words. -/

namespace Packrat.Calculator

/-! Words. -/

/-- The characters that stand between words. -/
def isDelimiter (c : Char) : Bool := c == ' ' || c == '(' || c == ')'

/-- The text is not empty and has neither blanks nor parentheses. -/
structure IsWord (text : String) : Prop where
  nonempty : text.toList ≠ []
  unbroken : ∀ c ∈ text.toList, isDelimiter c = false

abbrev Word := { text : String // IsWord text }

/-- A word may end here: nothing follows, or a delimiter. -/
def Delimited (rest : List Char) : Prop := ∀ c, rest.head? = some c → isDelimiter c

theorem delimited_nil : Delimited [] := nofun

theorem delimited_cons {c : Char} (delimiter : isDelimiter c) (rest : List Char) :
    Delimited (c :: rest) := by
  rintro other ⟨⟩
  exact delimiter

section

variable {rest rest' : List Char}

theorem IsWord.cut {text : String} (word : IsWord text) (delimited : Delimited rest) :
    (text.toList ++ rest).takeWhile (fun c => !isDelimiter c) = text.toList ∧
      (text.toList ++ rest).dropWhile (fun c => !isDelimiter c) = rest := by
  apply takeWhile_front
  · intro c member
    simp [word.unbroken c member]
  · intro c head
    simp [delimited c head]

/-- A word is told from the text behind it. -/
theorem Word.append_inj {word other : Word} (delimited : Delimited rest)
    (delimited' : Delimited rest') (same : word.1.toList ++ rest = other.1.toList ++ rest') :
    word = other ∧ rest = rest' := by
  obtain ⟨front, back⟩ := word.2.cut delimited
  obtain ⟨front', back'⟩ := other.2.cut delimited'
  rw [same, front'] at front
  rw [same, back'] at back
  exact ⟨Subtype.ext (String.toList_inj.mp front.symm), back.symm⟩

theorem Word.append_ne_cons {word : Word} {c : Char} (delimiter : isDelimiter c) :
    word.1.toList ++ rest ≠ c :: rest' := by
  intro same
  obtain ⟨first, letters, start⟩ := List.exists_cons_of_ne_nil word.2.nonempty
  have plain : isDelimiter first = false := word.2.unbroken first (by simp [start])
  rw [start, List.cons_append, List.cons.injEq] at same
  rw [same.1, delimiter] at plain
  cases plain

end

/-! Numbers are shown by words. -/

theorem not_isDelimiter_of_isDigit {c : Char} (digit : Text.isDigit c) : isDelimiter c = false := by
  cases delimiter : isDelimiter c with
  | false => rfl
  | true =>
    simp only [isDelimiter, Bool.or_eq_true, beq_iff_eq] at delimiter
    rcases delimiter with (rfl | rfl) | rfl <;> exact absurd digit (by decide)

theorem Numeral.unbroken {text : List Char} (numeral : Numeral text) :
    ∀ c ∈ text, isDelimiter c = false := by
  cases numeral with
  | whole digits => exact fun c member => not_isDelimiter_of_isDigit (digits.2 c member)
  | fraction whole fraction =>
    intro c member
    rcases List.mem_append.mp member with before | behind
    · exact not_isDelimiter_of_isDigit (whole.2 c before)
    · rcases List.mem_cons.mp behind with rfl | after
      · rfl
      · exact not_isDelimiter_of_isDigit (fraction.2 c after)

theorem isWord_of_isSize {text : String} (size : Decimal.IsSize text) : IsWord text := by
  rcases size with rfl | numeral
  · exact ⟨by simp, by simp [isDelimiter]⟩
  · obtain ⟨c, rest, start, _⟩ := numeral.head
    exact ⟨by simp [start], numeral.unbroken⟩

theorem IsWord.minus {text : String} (word : IsWord text) : IsWord ("-" ++ text) := by
  constructor
  · rw [String.toList_append]
    exact List.append_ne_nil_of_right_ne_nil _ word.nonempty
  · intro c member
    rw [String.toList_append, List.mem_append] at member
    rcases member with minus | behind
    · obtain rfl : c = '-' := by simpa using minus
      rfl
    · exact word.unbroken c behind

theorem isWord_of_spelled {text : String} (spelled : Decimal.Spelled text) : IsWord text := by
  rcases spelled with rfl | ⟨size, isSize, rfl | rfl⟩
  · exact ⟨by simp, by simp [isDelimiter]⟩
  · exact isWord_of_isSize isSize
  · exact (isWord_of_isSize isSize).minus

/-! Forms. -/

/-- What prefix notation shows of an expression. -/
inductive Form where
  | number (word : Word)
  | binary (op : BinaryOp) (left right : Form)
  | negation (operand : Form)
  deriving DecidableEq, Repr

def Expr.form : Expr → Form
  | number value _ =>
    .number ⟨Decimal.render value, isWord_of_spelled (Decimal.render_spelled value)⟩
  | binary op left right _ => .binary op left.form right.form
  | negation operand _ => .negation operand.form
  | group inner _ => inner.form

namespace Form

/-- The text of a form, in prefix notation. -/
def text : Form → List Char
  | number word => word.1.toList
  | binary op left right => '(' :: op.sign :: ' ' :: (left.text ++ ' ' :: (right.text ++ [')']))
  | negation operand => '(' :: '-' :: ' ' :: (operand.text ++ [')'])

section

variable {op : BinaryOp} {operand left right : Form} {rest rest' : List Char}

theorem binary_append : (binary op left right).text ++ rest =
    '(' :: op.sign :: ' ' :: (left.text ++ ' ' :: (right.text ++ ')' :: rest)) := by
  simp [text]

theorem negation_append :
    (negation operand).text ++ rest = '(' :: '-' :: ' ' :: (operand.text ++ ')' :: rest) := by
  simp [text]

/-- A form is told from the text behind it. The induction is on one form, for every other and every
text behind the two: a first operand ends at a blank under an operator with two operands, and at a
parenthesis under a negation. -/
theorem append_inj {form other : Form} (delimited : Delimited rest) (delimited' : Delimited rest')
    (same : form.text ++ rest = other.text ++ rest') : form = other ∧ rest = rest' := by
  induction form generalizing other rest rest' with
  | number word =>
    cases other with
    | number word' =>
      obtain ⟨rfl, behind⟩ := Word.append_inj delimited delimited' same
      exact ⟨rfl, behind⟩
    | binary op' left' right' => exact absurd same (Word.append_ne_cons rfl)
    | negation operand' => exact absurd same (Word.append_ne_cons rfl)
  | binary op left right ihLeft ihRight =>
    cases other with
    | number word' => exact absurd same.symm (Word.append_ne_cons rfl)
    | binary op' left' right' =>
      simp only [binary_append, List.cons.injEq, true_and] at same
      obtain ⟨sign, operands⟩ := same
      obtain ⟨rfl, second⟩ := ihLeft (delimited_cons rfl _) (delimited_cons rfl _) operands
      have shown := (List.cons.inj second).2
      obtain ⟨rfl, behind⟩ := ihRight (delimited_cons rfl _) (delimited_cons rfl _) shown
      rw [BinaryOp.sign_inj sign]
      exact ⟨rfl, (List.cons.inj behind).2⟩
    | negation operand' =>
      simp only [binary_append, negation_append, List.cons.injEq, true_and] at same
      obtain ⟨-, behind⟩ := ihLeft (delimited_cons rfl _) (delimited_cons rfl _) same.2
      cases behind
  | negation operand ih =>
    cases other with
    | number word' => exact absurd same.symm (Word.append_ne_cons rfl)
    | binary op' left' right' =>
      simp only [binary_append, negation_append, List.cons.injEq, true_and] at same
      obtain ⟨-, behind⟩ := ih (delimited_cons rfl _) (delimited_cons rfl _) same.2
      cases behind
    | negation operand' =>
      simp only [negation_append, List.cons.injEq, true_and] at same
      obtain ⟨rfl, behind⟩ := ih (delimited_cons rfl _) (delimited_cons rfl _) same
      exact ⟨rfl, (List.cons.inj behind).2⟩

/-- Nothing behind the two makes up for the operand that a negation lacks. -/
theorem negation_append_ne_binary :
    (negation operand).text ++ rest ≠ (binary op left right).text ++ rest' := by
  intro same
  simp only [binary_append, negation_append, List.cons.injEq, true_and] at same
  obtain ⟨-, behind⟩ := append_inj (delimited_cons rfl _) (delimited_cons rfl _) same.2
  cases behind

end

end Form

/-! Expressions. -/

theorem Expr.toList_display (expr : Expr) : expr.display.toList = expr.form.text := by
  induction expr with
  | number value position => rfl
  | binary op left right position ihLeft ihRight =>
    simp [display, form, Form.text, BinaryOp.toList_symbol, ihLeft, ihRight]
  | negation operand position ih => simp [display, form, Form.text, ih]
  | group inner position ih => exact ih

/-- Two expressions are shown by the same text exactly if they have the same form. Where a negation
stands in a text, whatever surrounds it, there stands no operator with two operands. -/
theorem display_eq_iff_form_eq (a b : Expr) :
    (a.display = b.display ↔ a.form = b.form) ∧
      ∀ op operand left right position position' (before rest rest' : String),
        before ++ (Expr.negation operand position).display ++ rest ≠
          before ++ (Expr.binary op left right position').display ++ rest' := by
  constructor
  · rw [← String.toList_inj, Expr.toList_display, Expr.toList_display]
    constructor
    · intro same
      have shown : a.form.text ++ [] = b.form.text ++ [] := by rw [same]
      exact (Form.append_inj delimited_nil delimited_nil shown).1
    · exact congrArg Form.text
  · intro op operand left right position position' before rest rest' same
    have letters := congrArg String.toList same
    simp only [String.toList_append, List.append_assoc] at letters
    have behind := List.append_cancel_left letters
    rw [Expr.toList_display, Expr.toList_display] at behind
    exact Form.negation_append_ne_binary behind

end Packrat.Calculator
