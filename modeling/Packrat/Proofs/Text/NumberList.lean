import Packrat.Proofs.Calculator.Recognition
import Packrat.Proofs.Parser.Repetition
import Packrat.Text.Cursor

/-! Lists of numbers read back. A number stops at the comma behind it, and the four kinds of lists
differ in a comma after the last number and in the empty list. -/

namespace Packrat.Text

open Packrat.Parser Calculator

/-- Lexemes with commas between them, and one after them if it trails. -/
def commaList (lexemes : List (List Char)) (trailing : Bool) : List Char :=
  [','].intercalate lexemes ++ if trailing then [','] else []

/-- Lexemes with a comma before each, and one after them if it trails. -/
def commaTail (lexemes : List (List Char)) (trailing : Bool) : List Char :=
  lexemes.flatMap (',' :: ·) ++ if trailing then [','] else []

theorem commaList_cons (lexeme : List Char) (lexemes : List (List Char)) (trailing : Bool) :
    commaList (lexeme :: lexemes) trailing = lexeme ++ commaTail lexemes trailing := by
  unfold commaList commaTail
  induction lexemes generalizing lexeme with
  | nil => simp
  | cons next lexemes ih =>
    rw [List.intercalate_cons_cons, List.append_assoc, List.append_assoc, ih next]
    simp

theorem commaTail_cons (lexeme : List Char) (lexemes : List (List Char)) (trailing : Bool) :
    commaTail (lexeme :: lexemes) trailing = ',' :: (lexeme ++ commaTail lexemes trailing) := by
  simp [commaTail]

/-- Behind a lexeme stands a comma, if anything. -/
theorem head_commaTail {lexemes : List (List Char)} {trailing : Bool} {c : Char}
    (head : (commaTail lexemes trailing).head? = some c) : c = ',' := by
  cases lexemes with
  | nil =>
    cases trailing with
    | false => cases head
    | true => exact (Option.some.inj head).symm
  | cons lexeme lexemes =>
    rw [commaTail_cons] at head
    exact (Option.some.inj head).symm

variable {δ : Type} {M : Memory} {cursor : Cursor Char δ} {lexeme : List Char}
  {lexemes : List (List Char)} {trailing : Bool}

/-- The values with the end of the text, or the failure of a number that is missing there. -/
def listReply (values : List String) (refused : Bool) (cursor : Cursor Char δ) :
    Reply (Cursor Char δ) TextError (List String) :=
  if refused then .fail .endOfInput else .done values (cursor.skip cursor.ahead.length)

theorem listReply_ne_halt (values : List String) (refused : Bool) (cause : Halt) :
    listReply values refused cursor ≠ .halt cause := by
  cases refused <;> nofun

theorem map_listReply (value : String) (values : List String) (refused : Bool) {count : Nat}
    (within : count ≤ cursor.ahead.length) :
    (listReply values refused (cursor.skip count)).map (value :: ·) =
      listReply (value :: values) refused cursor := by
  cases refused with
  | true => rfl
  | false =>
    have whole : count + (cursor.ahead.length - count) = cursor.ahead.length := by omega
    simp [listReply, Reply.map, ← Cursor.skip_add, whole]

section

variable {invariant : Session Char δ M → Prop}

theorem number_missing (bare : cursor.filters = []) (finished : cursor.ahead = []) :
    Answers invariant (number : TextParser δ M String) cursor (.fail .endOfInput) := by
  have first : Answers invariant (digit : TextParser δ M Char) cursor (.fail .endOfInput) := by
    have refused : cursor.ahead.takeWhile isDigit = [] := by simp [finished]
    have failed : Answers invariant (digit : TextParser δ M Char) cursor _ :=
      fails_satisfy bare refused
    rwa [if_pos finished] at failed
  exact first.inspect_fail.inspect_fail.inspect_fail

/-- A comma at the end is allowed or not. -/
theorem following_missing (allowTrailing : Bool) (bare : cursor.filters = [])
    (ahead : cursor.ahead = [',']) :
    Answers invariant
      (following allowTrailing number (char ',') : TextParser δ M (Option String)) cursor
      (if allowTrailing then .done none (cursor.skip 1) else .fail .endOfInput) := by
  have missing : Answers invariant (number : TextParser δ M String) (cursor.past ',' [])
      (.fail .endOfInput) := number_missing bare rfl
  apply (answers_char bare ahead).handle_done
  apply missing.handle_fail
  cases allowTrailing with
  | true =>
    rw [Cursor.past_eq_skip ahead]
    exact ensures_constant rfl
  | false => exact ensures_failWith rfl

variable {room : Nat} (roomy : ∀ session, invariant session → session.reach = room)
include roomy

theorem answers_number (numeral : Numeral lexeme) (bare : cursor.filters = [])
    (inside : cursor.extent ≤ room) (ahead : cursor.ahead = lexeme ++ commaTail lexemes trailing) :
    Answers invariant (number : TextParser δ M String) cursor
      (.done (String.ofList lexeme) (cursor.skip lexeme.length)) := by
  have split : numeral? cursor.ahead = some (lexeme, commaTail lexemes trailing) := by
    rw [ahead]
    apply numeral?_of_numeral numeral
    · intro c head
      rw [head_commaTail head]
      rfl
    · intro _ head
      exact absurd (head_commaTail head) (by decide)
  have ensured := ensures_number roomy bare inside
  rwa [split] at ensured

theorem following_number (allowTrailing : Bool) (numeral : Numeral lexeme)
    (bare : cursor.filters = []) (inside : cursor.extent ≤ room)
    (ahead : cursor.ahead = ',' :: (lexeme ++ commaTail lexemes trailing)) :
    Answers invariant
      (following allowTrailing number (char ',') : TextParser δ M (Option String)) cursor
      (.done (some (String.ofList lexeme)) (cursor.skip (1 + lexeme.length))) := by
  have within : (cursor.past ',' (lexeme ++ commaTail lexemes trailing)).extent ≤ room := by
    rwa [Cursor.extent_past ahead]
  have first : Answers invariant (number : TextParser δ M String)
      (cursor.past ',' (lexeme ++ commaTail lexemes trailing)) _ :=
    answers_number roomy numeral bare within rfl
  apply (answers_char bare ahead).handle_done
  apply first.handle_done
  rw [Cursor.past_eq_skip ahead, ← Cursor.skip_add]
  exact ensures_constant rfl

/-- Behind the first number, the rounds take all further ones. -/
theorem answers_commaTail (allowTrailing : Bool) (numerals : ∀ lexeme ∈ lexemes, Numeral lexeme)
    (bare : cursor.filters = []) (inside : cursor.extent ≤ room)
    (ahead : cursor.ahead = commaTail lexemes trailing) :
    Answers invariant
      (rounds none (following allowTrailing number (char ',')) : TextParser δ M (List String))
      cursor (listReply (lexemes.map String.ofList) (trailing && !allowTrailing) cursor) := by
  induction lexemes generalizing cursor with
  | nil =>
    cases trailing with
    | false =>
      have finished : cursor.ahead = [] := ahead
      have round : Answers invariant
          (following allowTrailing number (char ',') : TextParser δ M (Option String)) cursor
          (.done none cursor) :=
        (fails_char bare (by simp [finished])).handle fun _ => ensures_constant rfl
      refine Ensures.rounds roomy round ?_ nofun nofun nofun
      intro rest same
      cases same
      simp [listReply, finished]
    | true =>
      have comma : cursor.ahead = [','] := ahead
      have round : Answers invariant
          (following allowTrailing number (char ',') : TextParser δ M (Option String)) cursor _ :=
        following_missing allowTrailing bare comma
      cases allowTrailing with
      | true =>
        refine Ensures.rounds roomy round ?_ nofun nofun nofun
        intro rest same
        cases same
        simp [listReply, comma]
      | false =>
        refine Ensures.rounds roomy round nofun nofun ?_ nofun
        intro error same
        cases same
        rfl
  | cons lexeme lexemes ih =>
    rw [commaTail_cons] at ahead
    have round : Answers invariant
        (following allowTrailing number (char ',') : TextParser δ M (Option String)) cursor _ :=
      following_number roomy allowTrailing (numerals lexeme List.mem_cons_self) bare inside ahead
    refine Ensures.rounds roomy round nofun ?_ nofun nofun
    intro value rest same
    cases same
    have free : (cursor.skip (1 + lexeme.length)).filters = [] := by simpa using bare
    have within : (cursor.skip (1 + lexeme.length)).extent ≤ room := by simpa using inside
    have behind : (cursor.skip (1 + lexeme.length)).ahead = commaTail lexemes trailing := by
      simp [ahead, Nat.add_comm 1]
    have rest := ih (fun other member => numerals other (List.mem_cons_of_mem _ member)) free within
      behind
    refine ⟨?_, Nat.le_trans (Cursor.position_le_extent _) within, rest.weaken ?_⟩
    · rw [Nat.add_comm]
      exact Cursor.position_lt_skip ahead _
    · intro reply same
      subst same
      refine ⟨listReply_ne_halt _ _ _, map_listReply _ _ _ ?_⟩
      rw [ahead, List.length_cons, List.length_append]
      omega

/-- A list that is not empty is read to its end, unless a comma after it is refused. -/
theorem answers_commaList (form : ListForm) (some : lexemes ≠ [])
    (numerals : ∀ lexeme ∈ lexemes, Numeral lexeme) (bare : cursor.filters = [])
    (inside : cursor.extent ≤ room) (ahead : cursor.ahead = commaList lexemes trailing) :
    Answers invariant (separatedBy form number (char ',') : TextParser δ M (List String)) cursor
      (listReply (lexemes.map String.ofList) (trailing && !form.allowTrailing) cursor) := by
  cases lexemes with
  | nil => exact absurd rfl some
  | cons lexeme lexemes =>
    rw [commaList_cons] at ahead
    have first : Answers invariant (number : TextParser δ M String) cursor _ :=
      answers_number roomy (numerals lexeme List.mem_cons_self) bare inside ahead
    have free : (cursor.skip lexeme.length).filters = [] := by simpa using bare
    have within : (cursor.skip lexeme.length).extent ≤ room := by simpa using inside
    have behind : (cursor.skip lexeme.length).ahead = commaTail lexemes trailing :=
      Cursor.ahead_skip_front ahead
    have rest := answers_commaTail roomy form.allowTrailing
      (fun other member => numerals other (List.mem_cons_of_mem _ member)) free within behind
    apply first.handle_done
    apply Ensures.map
    refine rest.weaken ?_
    intro reply same
    subst same
    apply map_listReply
    rw [ahead, List.length_append]
    omega

omit roomy in
/-- Without a number, the list is empty or fails. -/
theorem answers_no_number (form : ListForm) (bare : cursor.filters = [])
    (finished : cursor.ahead = []) :
    Answers invariant (separatedBy form number (char ',') : TextParser δ M (List String)) cursor
      (listReply [] (!form.allowZero) cursor) := by
  apply (number_missing bare finished).handle_fail
  cases form.allowZero with
  | true =>
    apply ensures_constant
    simp [listReply, finished]
  | false => exact ensures_failWith rfl

end

/-- Numbers with commas between them are read back, whatever the kind of list. A comma after the
last one is consumed where it is allowed, and else a number is missing behind it; no number at all
is an empty list where that is allowed, and else a number is missing. -/
theorem separated_numbers (numerals : ∀ lexeme ∈ lexemes, Numeral lexeme)
    (bare : cursor.filters = []) (ahead : cursor.ahead = commaList lexemes trailing)
    {session : Session Char δ M} (fits : cursor.extent ≤ session.reach) :
    (cursor.skip cursor.ahead.length).isAtEnd ∧
    (lexemes ≠ [] → trailing = false → ∀ form,
      (separatedBy form number (char ',') cursor session).1 =
        .done (lexemes.map String.ofList) (cursor.skip cursor.ahead.length)) ∧
    (lexemes ≠ [] → trailing = true →
      (separatedTrailing number (char ',') cursor session).1 =
          .done (lexemes.map String.ofList) (cursor.skip cursor.ahead.length) ∧
        (separatedTrailingAllowZero number (char ',') cursor session).1 =
          .done (lexemes.map String.ofList) (cursor.skip cursor.ahead.length) ∧
        (separated number (char ',') cursor session).1 = .fail .endOfInput ∧
        (separatedAllowZero number (char ',') cursor session).1 = .fail .endOfInput) ∧
    (lexemes = [] → trailing = false →
      (separatedAllowZero number (char ',') cursor session).1 = .done [] cursor ∧
        (separatedTrailingAllowZero number (char ',') cursor session).1 = .done [] cursor ∧
        (separated number (char ',') cursor session).1 = .fail .endOfInput ∧
        (separatedTrailing number (char ',') cursor session).1 = .fail .endOfInput) := by
  have some (form : ListForm) (present : lexemes ≠ []) :
      (separatedBy form number (char ',') cursor session).1 =
        listReply (lexemes.map String.ofList) (trailing && !form.allowTrailing) cursor :=
    (answers_commaList (fun _ room => room) form present numerals bare fits ahead session rfl).1
  refine ⟨by simp [Cursor.isAtEnd], ?_, ?_, ?_⟩
  · intro present plain form
    rw [some form present, plain]
    rfl
  · intro present trails
    subst trails
    exact ⟨some _ present, some _ present, some _ present, some _ present⟩
  · intro absent plain
    subst absent plain
    have finished : cursor.ahead = [] := ahead
    have none (form : ListForm) :
        (separatedBy form number (char ',') cursor session).1 =
          listReply [] (!form.allowZero) cursor := by
      have answers : Answers (fun other : Session Char δ M => other.reach = session.reach)
          (separatedBy form number (char ',')) cursor _ := answers_no_number form bare finished
      exact (answers session rfl).1
    have empty : listReply [] false cursor = .done [] cursor := by simp [listReply, finished]
    exact ⟨(none _).trans empty, (none _).trans empty, none _, none _⟩

/-- Two numbers and a comma. -/
theorem separated_numbers_two :
    (∀ lexeme ∈ [['1', '2'], ['3', '.', '4']], Numeral lexeme) ∧
    (Cursor.ofText "12,3.4," ()).ahead = commaList [['1', '2'], ['3', '.', '4']] true ∧
    ∃ session : Session Char Unit ⟨Unit, Unit, Unit⟩,
      (Cursor.ofText "12,3.4," ()).extent ≤ session.reach ∧
      (separatedTrailing number (char ',') (Cursor.ofText "12,3.4," ()) session).1 =
        .done ["12", "3.4"] ((Cursor.ofText "12,3.4," ()).skip 7) ∧
      (separated number (char ',') (Cursor.ofText "12,3.4," ()) session).1 =
        .fail .endOfInput := by
  have digits {text : List Char} (some : text ≠ []) (all : text.all isDigit = true) : Digits text :=
    ⟨some, by simpa using all⟩
  have numerals : ∀ lexeme ∈ [['1', '2'], ['3', '.', '4']], Numeral lexeme := by
    intro lexeme member
    simp only [List.mem_cons, List.not_mem_nil, or_false] at member
    obtain rfl | rfl := member
    · exact .whole (digits nofun rfl)
    · have whole : Digits ['3'] := digits nofun rfl
      have fraction : Digits ['4'] := digits nofun rfl
      exact .fraction whole fraction
  let session : Session Char Unit ⟨Unit, Unit, Unit⟩ :=
    (Session.new none ()).makeRoom (Cursor.ofText "12,3.4," ())
  have fits : (Cursor.ofText "12,3.4," ()).extent ≤ session.reach := Nat.le_max_right _ _
  have read := (separated_numbers numerals rfl rfl fits).2.2.1 nofun rfl
  exact ⟨numerals, rfl, session, fits, read.1, read.2.2.1⟩

end Packrat.Text
