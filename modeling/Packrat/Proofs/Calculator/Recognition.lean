import Packrat.Proofs.Calculator.Reading

/-! Reading recognizes the language: what it reads is a phrase with the tree it gives, and a phrase
is read to its end where what follows cannot continue it. -/

namespace Packrat.Calculator

/-! Blanks and numerals. -/

theorem blank_takeWhile (text : List Char) : Blank (text.takeWhile Text.isBlank) :=
  fun _ member => List.all_eq_true.mp List.all_takeWhile _ member

theorem digits_takeWhile {text : List Char} (some : text.takeWhile Text.isDigit ≠ []) :
    Digits (text.takeWhile Text.isDigit) :=
  ⟨some, fun _ member => List.all_eq_true.mp List.all_takeWhile _ member⟩

theorem takeWhile_front {accepts : Char → Bool} {front back : List Char}
    (inside : ∀ c ∈ front, accepts c) (outside : ∀ c, back.head? = some c → accepts c = false) :
    (front ++ back).takeWhile accepts = front ∧ (front ++ back).dropWhile accepts = back := by
  have stop : back.takeWhile accepts = [] ∧ back.dropWhile accepts = back := by
    cases back with
    | nil => exact ⟨rfl, rfl⟩
    | cons c rest => simp [outside c rfl]
  constructor
  · rw [List.takeWhile_append_of_pos inside, stop.1, List.append_nil]
  · rw [List.dropWhile_append_of_pos inside, stop.2]

theorem numeral_of_numeral? {text lexeme rest : List Char}
    (split : Text.numeral? text = some (lexeme, rest)) : Numeral lexeme := by
  by_cases some : text.takeWhile Text.isDigit = []
  · rw [Text.numeral?_of_no_digit some] at split
    cases split
  · by_cases pointless : (text.dropWhile Text.isDigit).head? = .some '.'
    · obtain ⟨after, point⟩ := List.head?_eq_some_iff.mp pointless
      rw [Text.numeral?_of_point some point] at split
      split at split
      · cases split
      · rename_i more
        cases split
        exact .fraction (digits_takeWhile some) (digits_takeWhile more)
    · rw [Text.numeral?_of_no_point some pointless] at split
      cases split
      exact .whole (digits_takeWhile some)

/-- A numeral is the longest one where no digit follows, and behind digits alone no point. -/
theorem numeral?_of_numeral {lexeme rest : List Char} (numeral : Numeral lexeme)
    (digitless : ∀ c, rest.head? = some c → Text.isDigit c = false)
    (pointless : Digits lexeme → rest.head? ≠ some '.') :
    Text.numeral? (lexeme ++ rest) = some (lexeme, rest) := by
  cases numeral with
  | whole digits =>
    obtain ⟨front, back⟩ := takeWhile_front digits.2 digitless
    have pointless := pointless digits
    rw [Text.numeral?_of_no_point (by rw [front]; exact digits.1) (by rwa [back]), front, back]
  | @fraction text more whole fraction =>
    have point : ∀ c, ('.' :: (more ++ rest)).head? = some c → Text.isDigit c = false := by
      rintro c ⟨⟩
      rfl
    obtain ⟨front, back⟩ := takeWhile_front whole.2 point
    obtain ⟨front', back'⟩ := takeWhile_front fraction.2 digitless
    rw [List.append_assoc, List.cons_append,
      Text.numeral?_of_point (by rw [front]; exact whole.1) back, front, front', back',
      if_neg fraction.1]

namespace Place

theorem blanks_cut (place : Place) : ∃ text, Blank text ∧
    place.ahead = text ++ place.blanks.ahead ∧
    place.blanks.offset = place.offset + bytes text :=
  ⟨_, blank_takeWhile place.ahead, List.takeWhile_append_dropWhile.symm, rfl⟩

theorem blanks_eq {text rest : List Char} (blank : Blank text)
    (stop : ∀ c, rest.head? = some c → Text.isBlank c = false) (offset : Nat) :
    blanks ⟨offset, text ++ rest⟩ = ⟨offset + bytes text, rest⟩ := by
  obtain ⟨front, back⟩ := takeWhile_front blank stop
  simp only [blanks, behind, front, back]

/-- A token is its character and the blanks that follow. -/
theorem token_cut {place : Place} {c : Char} {rest : List Char} (ahead : place.ahead = c :: rest) :
    ∃ text, Blank text ∧ place.ahead = c :: (text ++ (place.token c rest).ahead) ∧
      (place.token c rest).offset = place.offset + c.utf8Size + bytes text := by
  obtain ⟨text, blank, cut, offset⟩ := (place.behind [c] rest).blanks_cut
  exact ⟨text, blank, by rw [ahead]; exact congrArg (c :: ·) cut, offset⟩

theorem numeral_cut {place : Place} {digits rest : List Char}
    (numeral : Text.numeral? place.ahead = some (digits, rest)) :
    ∃ text, Blank text ∧ place.ahead = digits ++ (text ++ (place.behind digits rest).blanks.ahead) ∧
      (place.behind digits rest).blanks.offset = place.offset + bytes digits + bytes text := by
  obtain ⟨text, blank, cut, offset⟩ := (place.behind digits rest).blanks_cut
  exact ⟨text, blank, by rw [Text.append_of_numeral? numeral, ← cut]; rfl, offset⟩

theorem token_eq {c : Char} {text rest : List Char} (narrow : c.utf8Size = 1) (blank : Blank text)
    (stop : ∀ c, rest.head? = some c → Text.isBlank c = false) (place : Place) :
    place.token c (text ++ rest) = ⟨place.offset + 1 + bytes text, rest⟩ := by
  rw [token, behind, blanks_eq blank stop]
  simp [narrow]

end Place

/-- What is read is a phrase with the tree that reading gives, up to the place behind it. -/
theorem Reads.derives (reads : Reads phrase place outcome) :
    ∀ expr next, outcome = .ok (expr, next) →
      ∃ text, place.ahead = text ++ next.ahead ∧ next.offset = place.offset + bytes text ∧
        Derives phrase place.offset text expr := by
  induction reads with
  | chain first rest ihFirst ihRest =>
    intro expr next done
    obtain ⟨text, cut, offset, derived⟩ := ihFirst _ _ rfl
    obtain ⟨more, cut', offset', derived'⟩ := ihRest _ _ done
    refine ⟨text ++ more, ?_, ?_, .chain derived (offset ▸ derived')⟩
    · rw [cut, cut', List.append_assoc]
    · rw [offset', offset, bytes_append, Nat.add_assoc]
  | tailEnd lacks =>
    rintro expr next ⟨⟩
    exact ⟨[], rfl, rfl, .tailEnd⟩
  | tailStep member ahead operand rest ihOperand ihRest =>
    intro expr next done
    obtain ⟨blanks, blank, cut, offset⟩ := Place.token_cut ahead
    obtain ⟨text, cut', offset', derived⟩ := ihOperand _ _ rfl
    obtain ⟨more, cut'', offset'', derived'⟩ := ihRest _ _ done
    rw [BinaryOp.utf8Size_sign] at offset
    rw [offset] at derived offset'
    rw [offset'] at derived' offset''
    refine ⟨_, ?_, ?_, .tailStep member blank derived derived'⟩
    · rw [cut, cut', cut'']
      simp
    · rw [offset'']
      simp [Nat.add_assoc]
  | base operand lacks ih =>
    rintro expr next ⟨⟩
    obtain ⟨text, cut, offset, derived⟩ := ih _ _ rfl
    exact ⟨text, cut, offset, .base derived⟩
  | raised base ahead exponent ihBase ihExponent =>
    rintro expr next ⟨⟩
    obtain ⟨text, cut, offset, derived⟩ := ihBase _ _ rfl
    obtain ⟨blanks, blank, cut', offset'⟩ := Place.token_cut ahead
    obtain ⟨more, cut'', offset'', derived'⟩ := ihExponent _ _ rfl
    rw [offset', offset] at derived' offset''
    rw [offset]
    refine ⟨_, ?_, ?_, .raised derived blank derived'⟩
    · rw [cut, cut', cut'']
      simp
    · rw [offset'']
      simp [Nat.add_assoc]
  | negation ahead operand ih =>
    rintro expr next ⟨⟩
    obtain ⟨blanks, blank, cut, offset⟩ := Place.token_cut ahead
    obtain ⟨text, cut', offset', derived⟩ := ih _ _ rfl
    rw [offset] at derived offset'
    refine ⟨_, ?_, ?_, .negation blank derived⟩
    · rw [cut, cut']
      simp
    · rw [offset']
      simp [Nat.add_assoc]
  | operand lacks atom ih =>
    intro expr next done
    obtain ⟨text, cut, offset, derived⟩ := ih _ _ done
    exact ⟨text, cut, offset, .operand derived⟩
  | number numeral =>
    rintro expr next ⟨⟩
    obtain ⟨blanks, blank, cut, offset⟩ := Place.numeral_cut numeral
    refine ⟨_, ?_, ?_, .number (numeral_of_numeral? numeral) blank⟩
    · rw [List.append_assoc, ← cut]
    · rw [offset, bytes_append, Nat.add_assoc]
  | group ahead inner closed ih =>
    rintro expr next ⟨⟩
    obtain ⟨blanks, blank, cut, offset⟩ := Place.token_cut ahead
    obtain ⟨text, cut', offset', derived⟩ := ih _ _ rfl
    obtain ⟨more, after, cut'', offset''⟩ := Place.token_cut closed
    rw [offset] at derived offset'
    refine ⟨_, ?_, ?_, .group blank derived after⟩
    · rw [cut, cut', cut'']
      simp
    · rw [offset'', offset']
      simp [Nat.add_assoc]
  | _ => rintro _ _ ⟨⟩

/-! What may stand behind a phrase. -/

/-- The characters that close a chain: a parenthesis, and the operators that bind less. -/
def Level.closers : Level → List Char
  | sum => [')']
  | product => [')', '+', '-']

def Phrase.closers : Phrase → List Char
  | .chain level | .tail level _ => level.closers
  | .power => [')', '+', '-', '*', '/']
  | .unary | .atom => [')', '+', '-', '*', '/', '^']

/-- The text does not continue a phrase of this kind. -/
def Phrase.Stops (phrase : Phrase) (rest : List Char) : Prop :=
  ∀ c, rest.head? = some c → c ∈ phrase.closers

theorem Phrase.stops_nil (phrase : Phrase) : phrase.Stops [] := nofun

theorem Phrase.stops_cons {phrase : Phrase} {c : Char} (member : c ∈ phrase.closers)
    (rest : List Char) : phrase.Stops (c :: rest) := by
  rintro other ⟨⟩
  exact member

theorem Phrase.Stops.widen {phrase wider : Phrase} {rest : List Char} (stops : phrase.Stops rest)
    (more : ∀ c ∈ phrase.closers, c ∈ wider.closers) : wider.Stops rest :=
  fun c head => more c (stops c head)

theorem Phrase.closers_subset (phrase : Phrase) : ∀ c ∈ phrase.closers, c ∈ Phrase.atom.closers := by
  cases phrase with
  | chain level | tail level left => cases level <;> simp [closers, Level.closers]
  | _ => simp [closers]

theorem Phrase.Stops.plain {phrase : Phrase} {rest : List Char} (stops : phrase.Stops rest) :
    ∀ c, rest.head? = some c → Text.isBlank c = false ∧ Text.isDigit c = false ∧ c ≠ '.' := by
  have plain : ∀ c ∈ Phrase.atom.closers,
      Text.isBlank c = false ∧ Text.isDigit c = false ∧ c ≠ '.' := by
    simp [closers, Text.isBlank, Text.isDigit]
  exact fun c head => plain c (phrase.closers_subset c (stops c head))

theorem Level.closers_operand (level : Level) :
    (∀ c ∈ level.closers, c ∈ level.operand.closers) ∧
      (∀ op ∈ level.operators, op.sign ∈ level.operand.closers) ∧
      ∀ op ∈ level.operators, op.sign ∉ level.closers := by
  cases level <;> simp [closers, operand, operators, Phrase.closers, BinaryOp.sign]

/-! What a phrase starts with. -/

theorem isBlank_of_isDigit {c : Char} (digit : Text.isDigit c) : Text.isBlank c = false := by
  cases blank : Text.isBlank c with
  | false => rfl
  | true =>
    simp only [Text.isBlank, Bool.or_eq_true, beq_iff_eq] at blank
    rcases blank with ((rfl | rfl) | rfl) | rfl <;> exact absurd digit (by decide)

theorem Blank.plain {blanks rest : List Char} (blank : Blank blanks)
    (plain : ∀ c, rest.head? = some c → Text.isDigit c = false ∧ c ≠ '.') :
    ∀ c, (blanks ++ rest).head? = some c → Text.isDigit c = false ∧ c ≠ '.' := by
  cases blanks with
  | nil => exact plain
  | cons first more =>
    rintro c ⟨⟩
    have blank := blank first List.mem_cons_self
    constructor
    · cases digit : Text.isDigit first with
      | false => rfl
      | true =>
        rw [isBlank_of_isDigit digit] at blank
        cases blank
    · rintro rfl
      exact absurd blank (by decide)

/-- The text starts with a character that is not blank. -/
def Opens (text : List Char) : Prop :=
  ∃ c rest, text = c :: rest ∧ Text.isBlank c = false

theorem Opens.append {text : List Char} (opens : Opens text) (more : List Char) :
    Opens (text ++ more) := by
  obtain ⟨c, rest, rfl, plain⟩ := opens
  exact ⟨c, rest ++ more, rfl, plain⟩

theorem Opens.stop {text : List Char} (opens : Opens text) :
    ∀ c, text.head? = some c → Text.isBlank c = false := by
  obtain ⟨c, rest, rfl, plain⟩ := opens
  rintro other ⟨⟩
  exact plain

theorem Numeral.head {text : List Char} (numeral : Numeral text) :
    ∃ c rest, text = c :: rest ∧ Text.isDigit c := by
  have first {digits : List Char} (all : Digits digits) :
      ∃ c rest, digits = c :: rest ∧ Text.isDigit c := by
    obtain ⟨c, rest, rfl⟩ := List.exists_cons_of_ne_nil all.1
    exact ⟨c, rest, rfl, all.2 c List.mem_cons_self⟩
  cases numeral with
  | whole digits => exact first digits
  | fraction digits _ =>
    obtain ⟨c, rest, rfl, digit⟩ := first digits
    exact ⟨c, _, rfl, digit⟩

theorem Level.operand_ne_tail (level inner : Level) (left : Expr) :
    level.operand ≠ .tail inner left := by
  cases level <;> nofun

theorem Derives.opens (derives : Derives phrase offset text expr)
    (first : ∀ level left, phrase ≠ .tail level left) : Opens text := by
  induction derives with
  | chain _ _ ih _ => exact (ih (Level.operand_ne_tail _)).append _
  | tailEnd => exact absurd rfl (first _ _)
  | tailStep => exact absurd rfl (first _ _)
  | base _ ih => exact ih nofun
  | raised _ _ _ ih _ => exact (ih nofun).append _
  | negation => exact ⟨'-', _, rfl, rfl⟩
  | operand _ ih => exact ih nofun
  | number numeral _ =>
    obtain ⟨c, rest, rfl, digit⟩ := numeral.head
    exact ⟨c, _, rfl, isBlank_of_isDigit digit⟩
  | group => exact ⟨'(', _, rfl, rfl⟩

theorem Derives.atom_lacks (derives : Derives .atom offset text expr) (rest : List Char) :
    (Place.mk offset (text ++ rest)).Lacks '-' := by
  cases derives with
  | number numeral _ =>
    obtain ⟨c, more, rfl, digit⟩ := numeral.head
    rintro ⟨⟩
    exact absurd digit (by decide)
  | group => nofun

/-- A tail is empty, or it starts with an operator of its level. -/
theorem Derives.tail_head (derives : Derives (.tail level left) offset text expr) :
    text = [] ∨ ∃ op ∈ level.operators, text.head? = some op.sign := by
  cases derives with
  | tailEnd => exact .inl rfl
  | tailStep member _ _ _ => exact .inr ⟨_, member, rfl⟩

theorem Derives.operand_stops (derives : Derives (.tail level left) offset text expr)
    (stops : (Phrase.chain level).Stops rest) : level.operand.Stops (text ++ rest) := by
  rcases derives.tail_head with rfl | ⟨op, member, head⟩
  · exact stops.widen level.closers_operand.1
  · intro c first
    rw [List.head?_append, head] at first
    cases first
    exact level.closers_operand.2.1 op member

/-- A phrase is read to its end where what follows cannot continue it. -/
theorem Derives.reads (derives : Derives phrase offset text expr) :
    ∀ rest, phrase.Stops rest →
      Reads phrase ⟨offset, text ++ rest⟩ (.ok (expr, ⟨offset + bytes text, rest⟩)) := by
  induction derives with
  | chain first more ihFirst ihMore =>
    intro rest stops
    have operand := ihFirst _ (more.operand_stops stops)
    have tail := ihMore rest stops
    rw [List.append_assoc, bytes_append, ← Nat.add_assoc]
    exact .chain operand tail
  | @tailEnd level left offset =>
    intro rest stops
    refine .tailEnd ?_
    intro op member head
    exact level.closers_operand.2.2 op member (stops _ head)
  | tailStep member blank operand after ihOperand ihAfter =>
    intro rest stops
    have read := ihOperand _ (after.operand_stops stops)
    have opens := (operand.opens (Level.operand_ne_tail _)).append
    rw [← Place.token_eq (BinaryOp.utf8Size_sign _) blank (opens _).stop ⟨_, []⟩] at read
    simp only [List.cons_append, List.append_assoc, bytes_cons, bytes_append,
      BinaryOp.utf8Size_sign, ← Nat.add_assoc]
    exact .tailStep member rfl read (ihAfter rest stops)
  | base operand ih =>
    intro rest stops
    refine .base (ih rest (stops.widen (by simp [Phrase.closers]))) ?_
    intro head
    exact absurd (stops _ head) (by decide)
  | raised base blank exponent ihBase ihExponent =>
    intro rest stops
    have read := ihExponent rest stops
    have opens := (exponent.opens nofun).append
    rw [← Place.token_eq (c := '^') rfl blank (opens _).stop ⟨_, []⟩] at read
    simp only [List.cons_append, List.append_assoc, bytes_cons, bytes_append, ← Nat.add_assoc]
    exact .raised (ihBase _ (Phrase.stops_cons (by decide) _)) rfl read
  | negation blank operand ih =>
    intro rest stops
    have read := ih rest stops
    have opens := (operand.opens nofun).append
    rw [← Place.token_eq (c := '-') rfl blank (opens _).stop ⟨_, []⟩] at read
    simp only [List.cons_append, List.append_assoc, bytes_cons, bytes_append, ← Nat.add_assoc]
    exact .negation rfl read
  | operand atom ih => exact fun rest stops => .operand (atom.atom_lacks rest) (ih rest stops)
  | @number text blanks offset numeral blank =>
    intro rest stops
    have plain := blank.plain fun c head => (stops.plain c head).2
    have split := numeral?_of_numeral numeral (fun c head => (plain c head).1)
      fun _ head => (plain _ head).2 rfl
    have behind := Place.blanks_eq blank (fun c head => (stops.plain c head).1) (offset + bytes text)
    rw [List.append_assoc, bytes_append, ← Nat.add_assoc, ← behind]
    exact .number split
  | @group blanks offset text expr more blank inner after ih =>
    intro rest stops
    have read := ih (')' :: (more ++ rest)) (Phrase.stops_cons (by decide) _)
    have opens := (inner.opens nofun).append
    rw [← Place.token_eq (c := '(') rfl blank (opens _).stop ⟨offset, []⟩] at read
    have closed := Place.token_eq (c := ')') rfl after (fun c head => (stops.plain c head).1)
      ⟨offset + 1 + bytes blanks + bytes text, ')' :: (more ++ rest)⟩
    simp only [List.cons_append, List.append_assoc, bytes_cons, bytes_append, ← Nat.add_assoc]
    rw [show Char.utf8Size ')' = 1 from rfl, show Char.utf8Size '(' = 1 from rfl, ← closed]
    exact .group rfl read rfl

end Packrat.Calculator
