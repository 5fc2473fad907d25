import Packrat.Calculator.Rules
import Packrat.Proofs.Calculator.Reading

/-! What the parsers of single tokens answer on a cursor without filters, in every session that has
room for the text. A token takes the blanks behind it along. -/

namespace Packrat

open Packrat.Parser

/-- Where a cursor stands in its text. -/
def Cursor.place {δ : Type} (cursor : Cursor Char δ) : Calculator.Place :=
  ⟨cursor.position, cursor.ahead⟩

namespace Calculator

theorem place_skip {cursor : Cursor Char Bool} {front back : List Char}
    (utf8 : cursor.metric = .utf8) (cut : cursor.ahead = front ++ back) :
    (cursor.skip front.length).place = cursor.place.behind front back := by
  simp only [Cursor.place, Place.behind, Cursor.position_skip_front cut, utf8,
    Cursor.ahead_skip_front cut, bytes]

theorem place_skipWhile {cursor : Cursor Char Bool} (utf8 : cursor.metric = .utf8) :
    (cursor.skipWhile Text.isBlank).place = cursor.place.blanks :=
  place_skip utf8 List.takeWhile_append_dropWhile.symm

theorem place_token {cursor : Cursor Char Bool} (utf8 : cursor.metric = .utf8) (c : Char)
    (rest : List Char) :
    ((cursor.past c rest).skipWhile Text.isBlank).place = cursor.place.token c rest := by
  have utf8' : (cursor.past c rest).metric = .utf8 := utf8
  rw [place_skipWhile utf8', Place.token]
  simp only [Cursor.place, Cursor.past, Place.behind, utf8, bytes_cons, bytes_nil]
  rfl

variable {invariant : Session Char Bool Recall → Prop} {cursor : Cursor Char Bool}

/-! Symbols. -/

theorem answers_symbol {c : Char} {error : Nat → SyntaxError} {rest : List Char}
    (bare : cursor.filters = []) (ahead : cursor.ahead = c :: rest) :
    Answers invariant (symbol c error) cursor (.done cursor.position (cursor.past c rest)) :=
  Answers.token_done (Text.answers_char bare ahead)

theorem fails_symbol {c : Char} {error : Nat → SyntaxError} (bare : cursor.filters = [])
    (lacks : cursor.place.Lacks c) :
    Answers invariant (symbol c error) cursor (.fail (error cursor.position)) :=
  Fails.token (Text.fails_char bare lacks)

theorem answers_lookahead {c : Char} {error : Nat → SyntaxError} {rest : List Char}
    (bare : cursor.filters = []) (ahead : cursor.ahead = c :: rest) :
    Answers invariant ((symbol c error).peek.map fun _ => ()) cursor (.done () cursor) :=
  (Answers.peek_done (answers_symbol bare ahead)).map_done

theorem fails_lookahead {c : Char} {error : Nat → SyntaxError} (bare : cursor.filters = [])
    (lacks : cursor.place.Lacks c) :
    Fails invariant ((symbol c error).peek.map fun _ => ()) cursor :=
  (Answers.peek_fail (fails_symbol bare lacks)).fails.inspect

/-! The literal of an operator is one character. -/

theorem BinaryOp.toList_symbol (op : BinaryOp) : op.symbol.toList = [op.sign] := by
  cases op <;> rfl

theorem string_symbol (op : BinaryOp) :
    (Text.string op.symbol : Lexeme String) =
      (Text.spelled op.symbol [op.sign]).handle (fun _ => constant op.symbol) fun _ =>
        failWith (.stringMismatch op.symbol) := by
  rw [Text.string, BinaryOp.toList_symbol, if_neg]
  cases op <;> decide

theorem answers_string {op : BinaryOp} {rest : List Char} (bare : cursor.filters = [])
    (ahead : cursor.ahead = op.sign :: rest) :
    Answers invariant (Text.string op.symbol : Lexeme String) cursor
      (.done op.symbol (cursor.past op.sign rest)) := by
  rw [string_symbol]
  have spelled : Answers invariant (Text.spelled op.symbol [op.sign]) cursor
      (.done () (cursor.past op.sign rest)) :=
    (answers_satisfy bare ahead (by simp)).inspect_done (ensures_constant rfl)
  exact spelled.handle_done (ensures_constant rfl)

theorem fails_string {op : BinaryOp} (bare : cursor.filters = [])
    (lacks : cursor.place.Lacks op.sign) :
    Answers invariant (Text.string op.symbol : Lexeme String) cursor
      (.fail (.stringMismatch op.symbol)) := by
  rw [string_symbol]
  have refused : cursor.ahead.takeWhile (· == op.sign) = [] := by
    cases ahead : cursor.ahead with
    | nil => rfl
    | cons c rest =>
      have unlike : c ≠ op.sign := fun same => lacks (by rw [Cursor.place, ahead, same]; rfl)
      simp [unlike]
  have spelled : Fails invariant (Text.spelled op.symbol [op.sign]) cursor :=
    (fails_satisfy bare refused).fails.inspect
  exact spelled.handle fun _ => ensures_failWith rfl

/-- The literals of the operators with what they stand for, in the order they are tried. -/
def trials (operators : List BinaryOp) : List (Lexeme String × Lexeme BinaryOp) :=
  operators.map fun op => (Text.string op.symbol, constant op)

/-- Literals of operators are tried in some order. -/
theorem stringChoice_operators (operators : List BinaryOp) :
    ∃ ordered, (∀ op, op ∈ ordered ↔ op ∈ operators) ∧
      (Text.stringChoice (operators.map fun op => (op.symbol, constant op)) : Lexeme BinaryOp) =
        predictiveChoice (trials ordered) := by
  refine ⟨operators.mergeSort fun left right => !decide (left.symbol < right.symbol),
    fun op => List.mem_mergeSort, ?_⟩
  rw [Text.stringChoice, Text.keywordOrder, trials, ← List.map_mergeSort, List.map_map]
  · rfl
  · intros
    rfl

theorem answers_trials {operators : List BinaryOp} {op : BinaryOp} {rest : List Char}
    (member : op ∈ operators) (bare : cursor.filters = [])
    (ahead : cursor.ahead = op.sign :: rest) :
    Answers invariant (predictiveChoice (trials operators)) cursor
      (.done op (cursor.past op.sign rest)) := by
  induction operators with
  | nil => cases member
  | cons first more ih =>
    by_cases same : first = op
    · subst same
      cases more with
      | nil => exact (answers_string bare ahead).inspect_done (ensures_constant rfl)
      | cons next more => exact (answers_string bare ahead).handle_done (ensures_constant rfl)
    · have lacks : cursor.place.Lacks first.sign := by
        rw [Place.Lacks, Cursor.place, ahead]
        intro head
        exact same (BinaryOp.sign_inj (Option.some.inj head).symm)
      have member : op ∈ more := (List.mem_cons.mp member).resolve_left (Ne.symm same)
      cases more with
      | nil => cases member
      | cons next more => exact (fails_string bare lacks).handle_fail (ih member)

theorem fails_trials {operators : List BinaryOp} (some : operators ≠ [])
    (bare : cursor.filters = []) (lacks : ∀ op ∈ operators, cursor.place.Lacks op.sign) :
    Fails invariant (predictiveChoice (trials operators)) cursor := by
  induction operators with
  | nil => exact absurd rfl some
  | cons first more ih =>
    have lacking := lacks first List.mem_cons_self
    cases more with
    | nil => exact (fails_string bare lacking).fails.inspect
    | cons next more =>
      refine (fails_string bare lacking).handle_fail (ih nofun ?_)
      exact fun op member => lacks op (List.mem_cons_of_mem _ member)

/-! Tokens with the blanks behind them. -/

variable (roomy : ∀ session, invariant session → session.reach = room)
include roomy

theorem answers_skipBlanks (bare : cursor.filters = []) (inside : cursor.extent ≤ room) :
    Answers invariant skipBlanks cursor (.done () (cursor.skipWhile Text.isBlank)) :=
  Answers.map_done (answers_many_satisfy roomy bare inside)

theorem answers_operator {operators : List BinaryOp} {op : BinaryOp} {rest : List Char}
    (member : op ∈ operators) (bare : cursor.filters = []) (inside : cursor.extent ≤ room)
    (ahead : cursor.ahead = op.sign :: rest) :
    Answers invariant (operator operators) cursor
      (.done (op, cursor.position) ((cursor.past op.sign rest).skipWhile Text.isBlank)) := by
  obtain ⟨ordered, members, choice⟩ := stringChoice_operators operators
  have free : (cursor.past op.sign rest).filters = [] := bare
  have blanks := answers_skipBlanks roomy free (by rwa [Cursor.extent_past ahead])
  rw [operator, choice]
  exact (Answers.token_done (answers_trials ((members op).mpr member) bare ahead)).inspect_done
    blanks.map_done

omit roomy in
theorem fails_operator {operators : List BinaryOp} (some : operators ≠ [])
    (bare : cursor.filters = []) (lacks : ∀ op ∈ operators, cursor.place.Lacks op.sign) :
    Answers invariant (operator operators) cursor (.fail (.unexpectedInput cursor.position)) := by
  obtain ⟨ordered, members, choice⟩ := stringChoice_operators operators
  have nonempty : ordered ≠ [] := by
    rintro rfl
    obtain ⟨op, rest, rfl⟩ := List.exists_cons_of_ne_nil some
    exact absurd ((members op).mpr List.mem_cons_self) List.not_mem_nil
  rw [operator, choice]
  exact Answers.inspect_fail (Fails.token
    (fails_trials nonempty bare fun op member => lacks op ((members op).mp member)))

theorem answers_literal {lexeme rest : List Char} (bare : cursor.filters = [])
    (inside : cursor.extent ≤ room)
    (numeral : Text.numeral? cursor.ahead = some (lexeme, rest)) :
    Answers invariant literal cursor
      (.done (.number (Decimal.read (String.ofList lexeme)) cursor.position)
        ((cursor.skip lexeme.length).skipWhile Text.isBlank)) := by
  have number := Text.ensures_number roomy bare inside
  rw [numeral] at number
  have free : (cursor.skip lexeme.length).filters = [] := by rwa [Cursor.filters_skip]
  have blanks := answers_skipBlanks roomy free (by rwa [Cursor.extent_skip])
  exact (Answers.token_done number).inspect_done blanks.map_done

theorem fails_literal (bare : cursor.filters = []) (inside : cursor.extent ≤ room)
    (none : Text.numeral? cursor.ahead = none) :
    Answers invariant literal cursor (.fail (.missingOperand cursor.position)) := by
  have number := Text.ensures_number roomy bare inside
  rw [none] at number
  exact Answers.inspect_fail (Fails.token number)

end Calculator

end Packrat
