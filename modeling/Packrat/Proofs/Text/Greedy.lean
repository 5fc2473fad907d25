import Packrat.Proofs.Text.Numeral
import Packrat.Proofs.Text.Walk

/-! Numerals and identifiers are greedy. Each parser takes the longest lexeme of its kind that the
text starts with, and its value, though put together from parts, is the text that was passed. -/

namespace Packrat.Text

open Packrat.Parser

def Begins (accepts : Char → Bool) (text : List Char) : Prop :=
  ∃ c rest, text = c :: rest ∧ accepts c

/-- The longest run of digits a text starts with, if there is one. -/
def integer? (text : List Char) : Option (List Char) :=
  if text.takeWhile isDigit = [] then none else some (text.takeWhile isDigit)

/-- The longest digits a text starts with, a point, and the longest digits behind it. -/
def float? (text : List Char) : Option (List Char) :=
  (integer? text).bind fun whole =>
    match text.dropWhile isDigit with
    | '.' :: rest => (integer? rest).map fun fraction => whole ++ '.' :: fraction
    | _ => none

/-- The longest digits a text starts with, and if a point follows, the longest digits behind it. -/
def number? (text : List Char) : Option (List Char) := (numeral? text).map Prod.fst

/-- A letter a text starts with and the longest run of identifier characters behind it. -/
def identifier? : List Char → Option (List Char)
  | [] => none
  | c :: rest => if isLetter c then some (c :: rest.takeWhile isIdentifierChar) else none

variable {accepts : Char → Bool} {text rest lexeme : List Char}

theorem takeWhile_eq_nil_iff : text.takeWhile accepts = [] ↔ ¬ Begins accepts text := by
  cases text with
  | nil => simp [Begins]
  | cons c rest => cases fit : accepts c <;> simp [Begins, fit]

/-! The longest lexemes. -/

theorem integer?_of_digits (some : text.takeWhile isDigit ≠ []) :
    integer? text = .some (text.takeWhile isDigit) := if_neg some

theorem integer?_of_no_digit (none : text.takeWhile isDigit = []) : integer? text = .none :=
  if_pos none

theorem integer?_eq_none_iff : integer? text = none ↔ ¬ Begins isDigit text := by
  rw [← takeWhile_eq_nil_iff]
  simp [integer?]

theorem float?_of_no_digit (none : text.takeWhile isDigit = []) : float? text = .none := by
  rw [float?, integer?_of_no_digit none, Option.bind_none]

theorem float?_of_no_point (pointless : (text.dropWhile isDigit).head? ≠ some '.') :
    float? text = none := by
  rw [float?, Option.bind_eq_none_iff]
  intro whole _
  split
  · rename_i point
    simp [point] at pointless
  · rfl

theorem float?_of_point (some : text.takeWhile isDigit ≠ [])
    (point : text.dropWhile isDigit = '.' :: rest) :
    float? text =
      (integer? rest).map fun fraction => text.takeWhile isDigit ++ '.' :: fraction := by
  simp only [float?, integer?_of_digits some, Option.bind_some, point]

/-- A numeral with a point in it is the longest numeral, if that has one. -/
theorem float?_eq (text : List Char) :
    float? text = (number? text).filter (·.contains '.') := by
  unfold number?
  obtain none | ⟨some, pointless | ⟨rest, point⟩⟩ := numeral_ways text
  · rw [float?_of_no_digit none, numeral?_of_no_digit none]
    rfl
  · rw [float?_of_no_point pointless, numeral?_of_no_point some pointless]
    have digits : '.' ∉ text.takeWhile isDigit := by
      intro member
      have digit : isDigit '.' = true := List.all_eq_true.mp List.all_takeWhile _ member
      cases digit
    simp [Option.filter_some, digits]
  · rw [float?_of_point some point, numeral?_of_point some point]
    by_cases short : rest.takeWhile isDigit = []
    · rw [integer?_of_no_digit short, if_pos short]
      rfl
    · rw [integer?_of_digits short, if_neg short]
      simp [Option.filter_some]

/-- Digits, a point and a digit have to follow in turn. -/
theorem float?_eq_none_iff : float? text = none ↔ ¬ ∃ whole rest, whole ≠ [] ∧
    (∀ c ∈ whole, isDigit c) ∧ text = whole ++ '.' :: rest ∧ Begins isDigit rest := by
  constructor
  · rintro none ⟨whole, rest, some, digits, rfl, fraction⟩
    have front : (whole ++ '.' :: rest).takeWhile isDigit = whole := by
      rw [List.takeWhile_append_of_pos digits]
      simp [isDigit]
    have point : (whole ++ '.' :: rest).dropWhile isDigit = '.' :: rest := by
      rw [List.dropWhile_append_of_pos digits]
      simp [isDigit]
    rw [float?_of_point (front.symm ▸ some) point, Option.map_eq_none_iff,
      integer?_eq_none_iff] at none
    exact none fraction
  · intro missing
    obtain none | ⟨some, pointless | ⟨rest, point⟩⟩ := numeral_ways text
    · exact float?_of_no_digit none
    · exact float?_of_no_point pointless
    · rw [float?_of_point some point, Option.map_eq_none_iff, integer?_eq_none_iff]
      intro fraction
      have whole : text = text.takeWhile isDigit ++ '.' :: rest := by
        rw [← point, List.takeWhile_append_dropWhile]
      exact missing ⟨_, rest, some, fun _ member => List.all_eq_true.mp List.all_takeWhile _ member,
        whole, fraction⟩

/-- Once a point follows the digits, a digit has to follow the point. -/
theorem number?_eq_none_iff : number? text = none ↔ ¬ Begins isDigit text ∨
    ∃ rest, text.dropWhile isDigit = '.' :: rest ∧ ¬ Begins isDigit rest := by
  simp only [number?, Option.map_eq_none_iff, ← takeWhile_eq_nil_iff]
  obtain none | ⟨some, pointless | ⟨rest, point⟩⟩ := numeral_ways text
  · simp [numeral?_of_no_digit none, none]
  · rw [numeral?_of_no_point some pointless]
    have no_point : ∀ rest, text.dropWhile isDigit ≠ '.' :: rest := by
      intro rest point
      exact pointless (by rw [point]; rfl)
    simp [some, no_point]
  · simp [numeral?_of_point some point, some, point]

theorem identifier?_eq_none_iff : identifier? text = none ↔ ¬ Begins isLetter text := by
  cases text with
  | nil => simp [identifier?, Begins]
  | cons c rest => simp [identifier?, Begins]

theorem identifier?_begins (found : identifier? text = some lexeme) : lexeme <+: text := by
  cases text with
  | nil => cases found
  | cons c rest =>
    rw [identifier?] at found
    split at found
    · cases found
      exact (List.prefix_cons_inj c).mpr (List.takeWhile_prefix _)
    · cases found

theorem number?_begins (found : number? text = some lexeme) : lexeme <+: text := by
  obtain ⟨⟨_, rest⟩, split, rfl⟩ := Option.map_eq_some_iff.mp found
  exact ⟨rest, (append_of_numeral? split).symm⟩

theorem float?_begins (found : float? text = some lexeme) : lexeme <+: text := by
  rw [float?_eq] at found
  exact number?_begins (Option.filter_eq_some_iff.mp found).1

theorem integer?_begins (found : integer? text = some lexeme) : lexeme <+: text := by
  unfold integer? at found
  split at found
  · cases found
  · cases found
    exact List.takeWhile_prefix _

/-! The parsers. -/

variable {δ : Type} {M : Memory} {cursor rest : Cursor Char δ} {session : Session Char δ M}
  {parser : TextParser δ M String} {reply : Reply (Cursor Char δ) TextError String}
  {lexeme? : Option (List Char)} {value : String}

/-- The reply of a parser that takes a lexeme, or fails where there is none. -/
def Scanned (cursor : Cursor Char δ) :
    Option (List Char) → Reply (Cursor Char δ) TextError String → Prop
  | some lexeme, reply => reply = .done (String.ofList lexeme) (cursor.skip lexeme.length)
  | none, reply => ∃ error, reply = .fail error

theorem Scanned.fail_iff (scanned : Scanned cursor lexeme? reply) :
    (∃ error, reply = .fail error) ↔ lexeme? = none := by
  cases lexeme? with
  | none => exact iff_of_true scanned rfl
  | some lexeme =>
    obtain rfl := scanned
    simp

theorem Scanned.done_iff (scanned : Scanned cursor lexeme? reply) :
    reply = .done value rest ↔ ∃ lexeme, lexeme? = some lexeme ∧ String.ofList lexeme = value ∧
      cursor.skip lexeme.length = rest := by
  cases lexeme? with
  | none =>
    obtain ⟨error, rfl⟩ := scanned
    simp
  | some lexeme =>
    obtain rfl := scanned
    simp

section

variable {invariant : Session Char δ M → Prop} {room : Nat}
  (roomy : ∀ session, invariant session → session.reach = room)
include roomy

theorem scanned_integer (bare : cursor.filters = []) (inside : cursor.extent ≤ room) :
    Ensures invariant (integer : TextParser δ M String) cursor
      (Scanned cursor (integer? cursor.ahead)) := by
  by_cases none : cursor.ahead.takeWhile isDigit = []
  · rw [integer?_of_no_digit none]
    exact fails_integer bare none
  · rw [integer?_of_digits none]
    exact answers_integer roomy bare inside none

theorem scanned_float (bare : cursor.filters = []) (inside : cursor.extent ≤ room) :
    Ensures invariant (float : TextParser δ M String) cursor
      (Scanned cursor (float? cursor.ahead)) := by
  have free : (cursor.skipWhile isDigit).filters = [] := by rwa [Cursor.filters_skipWhile]
  obtain none | ⟨some, way⟩ := numeral_ways cursor.ahead
  · rw [float?_of_no_digit none]
    exact Fails.inspect (fails_integer bare none)
  refine (answers_integer roomy bare inside some).inspect_done ?_
  obtain pointless | ⟨rest, point⟩ := way
  · rw [float?_of_no_point pointless]
    have fails : Fails invariant (char '.' : TextParser δ M Char) (cursor.skipWhile isDigit) :=
      fails_char free (by simpa using pointless)
    exact fails.inspect
  · have ahead : (cursor.skipWhile isDigit).ahead = '.' :: rest := by simpa using point
    rw [float?_of_point some point]
    refine (answers_char free ahead).inspect_done (Ensures.map ?_)
    refine (ensures_fraction roomy bare inside ahead).weaken ?_
    intro reply answered
    split at answered
    · rename_i short
      obtain ⟨error, rfl⟩ := answered
      rw [integer?_of_no_digit short]
      exact ⟨error, rfl⟩
    · rename_i short
      subst answered
      rw [integer?_of_digits short]
      simp [Scanned, Reply.map, withFraction, String.append_assoc]

theorem scanned_number (bare : cursor.filters = []) (inside : cursor.extent ≤ room) :
    Ensures invariant (number : TextParser δ M String) cursor
      (Scanned cursor (number? cursor.ahead)) := by
  refine (ensures_number roomy bare inside).weaken ?_
  intro reply answered
  cases split : numeral? cursor.ahead <;> simpa [number?, split, Scanned] using answered

theorem scanned_identifier (bare : cursor.filters = []) (inside : cursor.extent ≤ room) :
    Ensures invariant (identifier : TextParser δ M String) cursor
      (Scanned cursor (identifier? cursor.ahead)) := by
  by_cases begins : Begins isLetter cursor.ahead
  · obtain ⟨c, rest, ahead, first⟩ := begins
    have free : (cursor.past c rest).filters = [] := bare
    have within : (cursor.past c rest).extent ≤ room := by rwa [Cursor.extent_past ahead]
    have more : Answers invariant (many identifierChar : TextParser δ M (List Char))
        (cursor.past c rest) (.done (rest.takeWhile isIdentifierChar)
          ((cursor.past c rest).skipWhile isIdentifierChar)) :=
      answers_many_satisfy roomy free within
    rw [ahead, identifier?, if_pos first]
    refine (answers_satisfy bare ahead first).inspect_done (more.map_done.weaken ?_)
    rintro _ rfl
    rw [Scanned, List.length_cons, Cursor.skip_succ ahead]
    rfl
  · have fails : Fails invariant (letter : TextParser δ M Char) cursor :=
      (fails_satisfy bare (takeWhile_eq_nil_iff.mpr begins)).fails
    rw [identifier?_eq_none_iff.mpr begins]
    exact fails.inspect

end

/-- The parser takes the longest lexeme at the cursor, and its value is the text it has passed. -/
structure Greedy (parser : TextParser δ M String) (longest? : List Char → Option (List Char))
    (cursor : Cursor Char δ) (session : Session Char δ M) : Prop where
  scanned : Scanned cursor (longest? cursor.ahead) (parser cursor session).1
  passed : ∀ value rest, (parser cursor session).1 = .done value rest →
    (cursor.sliceTo rest).bind Slice.text = .ok value

theorem greedy_of_scanned {longest? : List Char → Option (List Char)} (onText : cursor.OnText)
    (begins : ∀ lexeme, longest? cursor.ahead = some lexeme → lexeme <+: cursor.ahead)
    (scanned : Scanned cursor (longest? cursor.ahead) (parser cursor session).1) :
    Greedy parser longest? cursor session := by
  refine ⟨scanned, ?_⟩
  intro value rest done
  obtain ⟨lexeme, found, rfl, rfl⟩ := scanned.done_iff.mp done
  obtain ⟨behind, cut⟩ := begins lexeme found
  exact onText.text_sliceTo ((Cursor.walks_skip onText.bare cut.symm).reached onText.bare)

/-- Numerals and identifiers are the longest ones at the cursor, and their values are the text they
have passed. An integer or a number needs a digit first, and a number a digit behind a point that
follows its digits; a float needs digits, a point and a digit in turn, and an identifier a letter
first. So a float is a number with a point in it. -/
theorem lexemes_greedy (onText : cursor.OnText) (fits : cursor.extent ≤ session.reach) :
    let text := cursor.ahead
    Greedy integer integer? cursor session ∧
    Greedy float float? cursor session ∧
    Greedy number number? cursor session ∧
    Greedy identifier identifier? cursor session ∧
    ((∃ error, (integer cursor session).1 = .fail error) ↔ ¬ Begins isDigit text) ∧
    ((∃ error, (float cursor session).1 = .fail error) ↔
      ¬ ∃ whole rest, whole ≠ [] ∧ (∀ c ∈ whole, isDigit c) ∧ text = whole ++ '.' :: rest ∧
        Begins isDigit rest) ∧
    ((∃ error, (number cursor session).1 = .fail error) ↔ ¬ Begins isDigit text ∨
      ∃ rest, text.dropWhile isDigit = '.' :: rest ∧ ¬ Begins isDigit rest) ∧
    ((∃ error, (identifier cursor session).1 = .fail error) ↔ ¬ Begins isLetter text) ∧
    ∀ value rest, (float cursor session).1 = .done value rest ↔
      (number cursor session).1 = .done value rest ∧ '.' ∈ value.toList := by
  intro text
  have same (other : Session Char δ M) (room : other.reach = session.reach) :
      other.reach = session.reach := room
  have scannedInteger := (scanned_integer same onText.bare fits session rfl).1
  have scannedFloat := (scanned_float same onText.bare fits session rfl).1
  have scannedNumber := (scanned_number same onText.bare fits session rfl).1
  have scannedIdentifier := (scanned_identifier same onText.bare fits session rfl).1
  refine ⟨greedy_of_scanned onText (fun _ => integer?_begins) scannedInteger,
    greedy_of_scanned onText (fun _ => float?_begins) scannedFloat,
    greedy_of_scanned onText (fun _ => number?_begins) scannedNumber,
    greedy_of_scanned onText (fun _ => identifier?_begins) scannedIdentifier,
    scannedInteger.fail_iff.trans integer?_eq_none_iff,
    scannedFloat.fail_iff.trans float?_eq_none_iff,
    scannedNumber.fail_iff.trans number?_eq_none_iff,
    scannedIdentifier.fail_iff.trans identifier?_eq_none_iff, ?_⟩
  intro value rest
  rw [scannedFloat.done_iff, scannedNumber.done_iff, float?_eq]
  constructor
  · rintro ⟨lexeme, found, rfl, rfl⟩
    obtain ⟨found, point⟩ := Option.filter_eq_some_iff.mp found
    exact ⟨⟨lexeme, found, rfl, rfl⟩, by simpa using point⟩
  · rintro ⟨⟨lexeme, found, rfl, rfl⟩, point⟩
    exact ⟨lexeme, Option.filter_eq_some_iff.mpr ⟨found, by simpa using point⟩, rfl, rfl⟩

/-- A digit of another script ends a numeral. -/
theorem lexemes_greedy_price :
    let cursor := Cursor.ofText "7.50\u0663" ()
    cursor.OnText ∧ ∃ session : Session Char Unit ⟨Unit, Unit, Unit⟩,
      cursor.extent ≤ session.reach ∧
      (integer cursor session).1 = .done "7" (cursor.skip 1) ∧
      (float cursor session).1 = .done "7.50" (cursor.skip 4) ∧
      (number cursor session).1 = .done "7.50" (cursor.skip 4) ∧
      ∃ error, (identifier cursor session).1 = .fail error := by
  intro cursor
  have onText : cursor.OnText := Cursor.onText_ofText ..
  let session : Session Char Unit ⟨Unit, Unit, Unit⟩ := (Session.new none ()).makeRoom cursor
  have fits : cursor.extent ≤ session.reach := Nat.le_max_right _ _
  obtain ⟨whole, float, _, _, _, _, _, letterless, same⟩ := lexemes_greedy onText fits
  have price := (same "7.50" (cursor.skip 4)).mp float.scanned
  exact ⟨onText, session, fits, whole.scanned, float.scanned, price.1,
    letterless.mpr (takeWhile_eq_nil_iff.mp (by decide))⟩

end Packrat.Text
