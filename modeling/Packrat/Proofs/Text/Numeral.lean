import Packrat.Proofs.Text.Scanning
import Packrat.Text.Numeral

/-! What the parsers of numerals answer where nothing filters the characters: the longest numeral. -/

namespace Packrat.Text

open Packrat.Parser

/-- The longest numeral a text starts with, and what follows it. A point behind the digits needs
digits behind it. -/
def numeral? (text : List Char) : Option (List Char × List Char) :=
  let whole := text.takeWhile isDigit
  if whole = [] then none
  else
    match text.dropWhile isDigit with
    | '.' :: rest =>
      let fraction := rest.takeWhile isDigit
      if fraction = [] then none else some (whole ++ '.' :: fraction, rest.dropWhile isDigit)
    | rest => some (whole, rest)

variable {δ : Type} {M : Memory} {invariant : Session Char δ M → Prop} {cursor : Cursor Char δ}

/-! The three ways a numeral goes. -/

theorem head_of_takeWhile {text : List Char} (some : text.takeWhile isDigit ≠ []) :
    ∃ digit rest, text = digit :: rest ∧ isDigit digit := by
  cases text with
  | nil => exact absurd rfl some
  | cons c rest =>
    cases fit : isDigit c with
    | true => exact ⟨c, rest, rfl, fit⟩
    | false => simp [fit] at some

theorem numeral_ways (text : List Char) :
    text.takeWhile isDigit = [] ∨ text.takeWhile isDigit ≠ [] ∧
      ((text.dropWhile isDigit).head? ≠ some '.' ∨
        ∃ rest, text.dropWhile isDigit = '.' :: rest) := by
  by_cases none : text.takeWhile isDigit = []
  · exact .inl none
  · refine .inr ⟨none, ?_⟩
    rw [← List.head?_eq_some_iff]
    exact (Classical.em _).symm

theorem numeral?_of_no_digit {text : List Char} (none : text.takeWhile isDigit = []) :
    numeral? text = .none := by
  simp [numeral?, none]

theorem numeral?_of_no_point {text : List Char} (some : text.takeWhile isDigit ≠ [])
    (pointless : (text.dropWhile isDigit).head? ≠ .some '.') :
    numeral? text = .some (text.takeWhile isDigit, text.dropWhile isDigit) := by
  rw [numeral?, if_neg some]
  split
  · rename_i rest point
    simp [point] at pointless
  · rfl

theorem numeral?_of_point {text rest : List Char} (some : text.takeWhile isDigit ≠ [])
    (point : text.dropWhile isDigit = '.' :: rest) :
    numeral? text =
      if rest.takeWhile isDigit = [] then none
      else .some (text.takeWhile isDigit ++ '.' :: rest.takeWhile isDigit,
        rest.dropWhile isDigit) := by
  simp only [numeral?, if_neg some, point]

theorem append_of_numeral? {text lexeme rest : List Char}
    (split : numeral? text = some (lexeme, rest)) : text = lexeme ++ rest := by
  have cut := List.takeWhile_append_dropWhile (p := isDigit) (l := text)
  obtain none | ⟨some, pointless | ⟨after, point⟩⟩ := numeral_ways text
  · rw [numeral?_of_no_digit none] at split
    cases split
  · rw [numeral?_of_no_point some pointless] at split
    cases split
    exact cut.symm
  · rw [numeral?_of_point some point] at split
    split at split
    · cases split
    · cases split
      rw [point] at cut
      rw [List.append_assoc, List.cons_append, List.takeWhile_append_dropWhile, cut]

/-! The parsers. -/

theorem fails_char {expected : Char} (bare : cursor.filters = [])
    (other : cursor.ahead.head? ≠ some expected) :
    Fails invariant (char expected : TextParser δ M Char) cursor := by
  have refused : cursor.ahead.takeWhile (· == expected) = [] := by
    cases ahead : cursor.ahead with
    | nil => rfl
    | cons c rest =>
      have unlike : c ≠ expected := fun same => other (by rw [ahead, same]; rfl)
      simp [unlike]
  exact (fails_satisfy bare refused).fails

theorem answers_char {expected : Char} {rest : List Char} (bare : cursor.filters = [])
    (ahead : cursor.ahead = expected :: rest) :
    Answers invariant (char expected : TextParser δ M Char) cursor
      (.done expected (cursor.past expected rest)) :=
  answers_satisfy bare ahead (by simp)

/-- Behind the digits after the point is behind the whole numeral. -/
theorem skipWhile_fraction {rest : List Char}
    (point : (cursor.skipWhile isDigit).ahead = '.' :: rest) :
    ((cursor.skipWhile isDigit).past '.' rest).skipWhile isDigit =
      cursor.skip (cursor.ahead.takeWhile isDigit ++ '.' :: rest.takeWhile isDigit).length := by
  change ((cursor.skipWhile isDigit).past '.' rest).skip (rest.takeWhile isDigit).length = _
  rw [Cursor.past_eq_skip point, Cursor.skipWhile, List.length_append, List.length_cons,
    Nat.add_comm (List.length _) 1, Cursor.skip_add, Cursor.skip_add]

variable {room : Nat} (roomy : ∀ session, invariant session → session.reach = room)
include roomy

theorem answers_integer (bare : cursor.filters = []) (inside : cursor.extent ≤ room)
    (some : cursor.ahead.takeWhile isDigit ≠ []) :
    Answers invariant (integer : TextParser δ M String) cursor
      (.done (String.ofList (cursor.ahead.takeWhile isDigit)) (cursor.skipWhile isDigit)) := by
  obtain ⟨c, rest, ahead, first⟩ := head_of_takeWhile some
  have free : (cursor.past c rest).filters = [] := bare
  have more : Answers invariant (many digit : TextParser δ M (List Char)) (cursor.past c rest)
      (.done (rest.takeWhile isDigit) ((cursor.past c rest).skipWhile isDigit)) :=
    answers_many_satisfy roomy free (by rwa [Cursor.extent_past ahead])
  have digits : Answers invariant (oneOrMore digit : TextParser δ M (List Char)) cursor
      (.done (c :: rest.takeWhile isDigit) ((cursor.past c rest).skipWhile isDigit)) :=
    (answers_satisfy bare ahead first).inspect_done more.map_done
  rw [Cursor.skipWhile_of_accepts ahead first, ahead, List.takeWhile_cons_of_pos first]
  exact digits.map_done

omit roomy in
theorem fails_integer (bare : cursor.filters = []) (none : cursor.ahead.takeWhile isDigit = []) :
    Fails invariant (integer : TextParser δ M String) cursor := by
  have first : Fails invariant (digit : TextParser δ M Char) cursor :=
    (fails_satisfy bare none).fails
  exact first.inspect.inspect

/-- Behind the digits and the point more digits are required. -/
theorem ensures_fraction {rest : List Char} (bare : cursor.filters = [])
    (inside : cursor.extent ≤ room) (point : (cursor.skipWhile isDigit).ahead = '.' :: rest) :
    Ensures invariant (integer : TextParser δ M String) ((cursor.skipWhile isDigit).past '.' rest)
      fun reply =>
        if rest.takeWhile isDigit = [] then ∃ error, reply = .fail error
        else reply = .done (String.ofList (rest.takeWhile isDigit)) (cursor.skip
          (cursor.ahead.takeWhile isDigit ++ '.' :: rest.takeWhile isDigit).length) := by
  have free : ((cursor.skipWhile isDigit).past '.' rest).filters = [] :=
    (Cursor.filters_skipWhile ..).trans bare
  by_cases short : rest.takeWhile isDigit = []
  · simp only [if_pos short]
    exact fails_integer free short
  · have within : ((cursor.skipWhile isDigit).past '.' rest).extent ≤ room := by
      rwa [Cursor.extent_past point, Cursor.extent_skipWhile]
    simp only [if_neg short]
    rw [← skipWhile_fraction point]
    exact answers_integer roomy free within short

/-- A number is the longest numeral; where there is none the parser fails. -/
theorem ensures_number (bare : cursor.filters = []) (inside : cursor.extent ≤ room) :
    Ensures invariant (number : TextParser δ M String) cursor fun reply =>
      match numeral? cursor.ahead with
      | some (lexeme, _) => reply = .done (String.ofList lexeme) (cursor.skip lexeme.length)
      | none => ∃ error, reply = .fail error := by
  have free : (cursor.skipWhile isDigit).filters = [] := by rwa [Cursor.filters_skipWhile]
  obtain none | ⟨some, way⟩ := numeral_ways cursor.ahead
  · rw [numeral?_of_no_digit none]
    exact Fails.inspect (fails_integer bare none)
  refine (answers_integer roomy bare inside some).inspect_done ?_
  obtain pointless | ⟨rest, point⟩ := way
  · rw [numeral?_of_no_point some pointless]
    have fails : Fails invariant (char '.' : TextParser δ M Char) (cursor.skipWhile isDigit) :=
      fails_char free (by simpa using pointless)
    exact Ensures.map (fails.handle fun _ => ensures_constant rfl)
  · have ahead : (cursor.skipWhile isDigit).ahead = '.' :: rest := by simpa using point
    rw [numeral?_of_point some point]
    refine Ensures.map ((answers_char free ahead).handle_done (Ensures.map ?_))
    refine (ensures_fraction roomy bare inside ahead).weaken ?_
    intro reply answered
    split at answered
    · rename_i short
      obtain ⟨error, rfl⟩ := answered
      rw [if_pos short]
      exact ⟨error, rfl⟩
    · rename_i short
      subst answered
      rw [if_neg short]
      simp [Reply.map, withFraction, String.append_assoc]

end Packrat.Text
