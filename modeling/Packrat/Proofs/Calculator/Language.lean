import Packrat.Proofs.Calculator.Rules

/-! The language of the calculator: a text parses to a tree exactly if it is a sentence with that
tree, and operands in a table change nothing about it. -/

namespace Packrat.Calculator

open Packrat.Parser

/-- What becomes of a whole text: a tree if one expression takes all of it, or an error. -/
inductive Verdict (source : String) : Except SyntaxError Expr → Prop where
  | whole (reads : Reads .expression (Place.blanks ⟨0, source.toList⟩) (.ok (expr, next)))
      (finished : next.ahead = []) : Verdict source (.ok expr)
  | surplus (reads : Reads .expression (Place.blanks ⟨0, source.toList⟩) (.ok (expr, next)))
      (left : next.ahead ≠ []) : Verdict source (.error (.unexpectedInput next.offset))
  | broken (reads : Reads .expression (Place.blanks ⟨0, source.toList⟩) (.error error)) :
      Verdict source (.error error)

theorem Verdict.unique (first : Verdict source verdict) (second : Verdict source other) :
    verdict = other := by
  cases first with
  | whole reads finished =>
    cases second with
    | whole reads' _ => cases reads.unique reads'; rfl
    | surplus reads' left => cases reads.unique reads'; exact absurd finished left
    | broken reads' => cases reads.unique reads'
  | surplus reads left =>
    cases second with
    | whole reads' finished => cases reads.unique reads'; exact absurd finished left
    | surplus reads' _ => cases reads.unique reads'; rfl
    | broken reads' => cases reads.unique reads'
  | broken reads =>
    cases second with
    | whole reads' _ => cases reads.unique reads'
    | surplus reads' _ => cases reads.unique reads'
    | broken reads' => cases reads.unique reads'; rfl

/-- The sentences are the texts that one expression takes whole. -/
theorem sentence_iff : Sentence source expr ↔ Verdict source (.ok expr) := by
  constructor
  · rintro ⟨blanks, text, blank, cut, derived⟩
    have read := derived.reads [] (Phrase.stops_nil _)
    rw [List.append_nil] at read
    have place : Place.blanks ⟨0, source.toList⟩ = ⟨bytes blanks, text⟩ := by
      rw [cut, Place.blanks_eq blank (derived.opens nofun).stop, Nat.zero_add]
    exact .whole (place ▸ read) rfl
  · intro verdict
    cases verdict with
    | whole reads finished =>
      obtain ⟨blanks, blank, front, start⟩ := Place.blanks_cut ⟨0, source.toList⟩
      obtain ⟨text, cut, _, derived⟩ := reads.derives _ _ rfl
      rw [finished, List.append_nil] at cut
      rw [Nat.zero_add] at start
      exact ⟨blanks, text, blank, by rw [← cut]; exact front, start ▸ derived⟩

theorem length_le_span {ι : Type} (metric : Metric ι) (items : List ι) :
    items.length ≤ metric.span items := by
  induction items with
  | nil => exact Nat.le_refl _
  | cons item items ih =>
    have positive := metric.width_pos item
    rw [Metric.span_cons, List.length_cons]
    omega

theorem length_ahead_le_extent {ι δ : Type} (cursor : Cursor ι δ) :
    cursor.ahead.length ≤ cursor.extent :=
  Nat.le_trans (length_le_span cursor.metric _) (Nat.le_add_left _ _)

theorem recalls_start (source : String) (data table : Bool) (earlier) :
    Recalls source data 0 earlier (start table (Cursor.ofText source data)) := by
  have nothing (position : Nat) (key : Memo.Key) :
      (start table (Cursor.ofText source data)).recalled position key = none := by
    cases table with
    | false => rfl
    | true => exact Memo.Table.find?_empty position key
  refine ⟨Nat.zero_max _, fun position key entry held => ?_, fun _ => nofun⟩
  rw [nothing] at held
  cases held

/-- Blanks and then one expression, read from the start of a text. -/
theorem ensures_front (calculator : Calculator) (source : String) (data : Bool) (earlier) :
    Ensures (Recalls source data 0 earlier)
      (skipBlanks.inspect fun _ => calculator.expression (Cursor.ofText source data).extent)
      (Cursor.ofText source data)
      (Describes source data .expression
        ((Cursor.ofText source data).skipWhile Text.isBlank)) := by
  have home : In source data (Cursor.ofText source data) := .refl _
  have fewer := length_ahead_le_extent ((Cursor.ofText source data).skipWhile Text.isBlank)
  rw [Cursor.extent_skipWhile] at fewer
  refine (In.answers_skipBlanks home).inspect_done ?_
  exact (rules_follow calculator.memoized _).expression 0 _ (home.skip _) (Nat.lt_succ_of_le fewer)
    0 (Nat.zero_le _) earlier

/-- Parsing ends with the verdict on the text, and never breaks off. -/
theorem parse_verdict (calculator : Calculator) (source : String) :
    (∃ expr rest, (calculator.parse source).1 = .done expr rest ∧ Verdict source (.ok expr)) ∨
      ∃ error, (calculator.parse source).1 = .fail error ∧ Verdict source (.error error) := by
  have start := recalls_start source calculator.memoized calculator.memoized fun _ _ => none
  obtain ⟨describes, _⟩ := ensures_front calculator source calculator.memoized _ _ start
  have place : ((Cursor.ofText source calculator.memoized).skipWhile Text.isBlank).place =
      Place.blanks ⟨0, source.toList⟩ := place_skipWhile rfl
  unfold Calculator.parse
  rcases answer : (skipBlanks.inspect fun _ =>
      calculator.expression (Cursor.ofText source calculator.memoized).extent)
      (Cursor.ofText source calculator.memoized)
      (Calculator.start calculator.memoized (Cursor.ofText source calculator.memoized)) with
    ⟨⟨expr, rest⟩ | error | cause, session⟩ <;>
    simp only [answer, Describes, place] at describes ⊢
  · cases ahead : rest.ahead with
    | nil =>
      refine .inl ⟨expr, rest, ?_, .whole describes.2 ahead⟩
      simp [Cursor.isAtEnd, ahead]
    | cons c more =>
      refine .inr ⟨_, ?_, .surplus describes.2 (by simp [Cursor.place, ahead])⟩
      simp [Cursor.isAtEnd, ahead, Cursor.place]
  · exact .inr ⟨error, rfl, .broken describes⟩

/-- A text parses to a tree exactly if it is a sentence with that tree, and no sentence has two. -/
theorem parse_iff_sentence (calculator : Calculator) (source : String) (expr : Expr) :
    ((∃ rest, (calculator.parse source).1 = .done expr rest) ↔ Sentence source expr) ∧
      ∀ other, Sentence source expr → Sentence source other → expr = other := by
  constructor
  · constructor
    · rintro ⟨rest, done⟩
      rcases parse_verdict calculator source with ⟨expr', rest', done', verdict⟩ | ⟨_, fail, _⟩
      · rw [done] at done'
        cases done'
        exact sentence_iff.mpr verdict
      · rw [done] at fail
        cases fail
    · intro sentence
      have expected := sentence_iff.mp sentence
      rcases parse_verdict calculator source with ⟨expr', rest, done, verdict⟩ | ⟨_, _, verdict⟩
      · cases expected.unique verdict
        exact ⟨rest, done⟩
      · cases expected.unique verdict
  · intro other sentence sentence'
    exact Except.ok.inj ((sentence_iff.mp sentence).unique (sentence_iff.mp sentence'))

/-- Operands in a table change neither the tree nor the error of any text. -/
theorem parse_memoized (source : String) :
    (∃ expr rest rest', (Calculator.parse ⟨true⟩ source).1 = .done expr rest ∧
        (Calculator.parse ⟨false⟩ source).1 = .done expr rest') ∨
      ∃ error, (Calculator.parse ⟨true⟩ source).1 = .fail error ∧
        (Calculator.parse ⟨false⟩ source).1 = .fail error := by
  rcases parse_verdict ⟨true⟩ source with ⟨expr, rest, done, verdict⟩ | ⟨error, fail, verdict⟩ <;>
    rcases parse_verdict ⟨false⟩ source with
      ⟨expr', rest', done', verdict'⟩ | ⟨error', fail', verdict'⟩ <;>
    cases verdict.unique verdict'
  · exact .inl ⟨expr, rest, rest', done, done'⟩
  · exact .inr ⟨error, fail, fail'⟩

end Packrat.Calculator
