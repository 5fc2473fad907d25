import Packrat.Proofs.Calculator.Recognition

/-! One character of lookahead. Reading depends on the text up to the place that it comes to and on
the character there, and on nothing behind that. -/

namespace Packrat.Calculator

/-! What may change about the text that is left. -/

/-- The other text is at its end, or starts as this one does. -/
def Alike (text other : List Char) : Prop := ∀ c, other.head? = some c → text.head? = some c

theorem Alike.nil (text : List Char) : Alike text [] := nofun

theorem Alike.cons (c : Char) (text other : List Char) : Alike (c :: text) (c :: other) :=
  fun _ head => head

theorem Alike.append (alike : Alike text other) (front : List Char) :
    Alike (front ++ text) (front ++ other) := by
  cases front with
  | nil => exact alike
  | cons c front => exact .cons c _ _

theorem Alike.stop {accepts : Char → Bool} (alike : Alike text other)
    (stop : ∀ c, text.head? = some c → accepts c = false) :
    ∀ c, other.head? = some c → accepts c = false :=
  fun c head => stop c (alike c head)

theorem Alike.lacks {c : Char} (alike : Alike text other) (lacks : (Place.mk offset text).Lacks c) :
    (Place.mk offset' other).Lacks c :=
  fun head => lacks (alike c head)

theorem head_dropWhile {accepts : Char → Bool} (text : List Char) :
    ∀ c, (text.dropWhile accepts).head? = some c → accepts c = false := by
  intro c head
  have stopped := List.head?_dropWhile_not accepts text
  rw [head] at stopped
  simpa using stopped

/-- Behind the longest numeral no digit follows, and behind digits alone no point. -/
theorem follow_of_numeral? {text digits rest : List Char}
    (split : Text.numeral? text = some (digits, rest)) :
    (∀ c, rest.head? = some c → Text.isDigit c = false) ∧
      (Digits digits → rest.head? ≠ some '.') := by
  by_cases some : text.takeWhile Text.isDigit = []
  · rw [Text.numeral?_of_no_digit some] at split
    cases split
  · by_cases pointless : (text.dropWhile Text.isDigit).head? = .some '.'
    · obtain ⟨after, point⟩ := List.head?_eq_some_iff.mp pointless
      rw [Text.numeral?_of_point some point] at split
      split at split
      · cases split
      · cases split
        constructor
        · exact head_dropWhile after
        · intro digits
          have digit := digits.2 '.' (by simp)
          exact absurd digit (by decide)
    · rw [Text.numeral?_of_no_point some pointless] at split
      cases split
      exact ⟨head_dropWhile text, fun _ => pointless⟩

theorem numeral?_alike {text digits rest other : List Char}
    (split : Text.numeral? text = some (digits, rest)) (alike : Alike rest other) :
    Text.numeral? (digits ++ other) = some (digits, other) := by
  obtain ⟨digitless, pointless⟩ := follow_of_numeral? split
  apply numeral?_of_numeral (numeral_of_numeral? split)
  · exact alike.stop digitless
  · intro digits head
    exact pointless digits (alike _ head)

/-! The way from one place to another. -/

namespace Place

/-- The text leads from this place to the next. -/
structure Leads (place : Place) (text : List Char) (next : Place) : Prop where
  ahead_eq : place.ahead = text ++ next.ahead
  offset_eq : next.offset = place.offset + bytes text

namespace Leads

theorem refl (place : Place) : place.Leads [] place := ⟨rfl, rfl⟩

theorem trans {place next last : Place} (leads : place.Leads text next)
    (more : next.Leads text' last) : place.Leads (text ++ text') last := by
  constructor
  · rw [leads.ahead_eq, more.ahead_eq, List.append_assoc]
  · rw [more.offset_eq, leads.offset_eq, bytes_append, Nat.add_assoc]

/-- A token leads past its character and the blanks that follow; another text behind the blanks
does not change that. -/
theorem token {place : Place} {c : Char} {rest : List Char} (ahead : place.ahead = c :: rest) :
    ∃ blanks, Blank blanks ∧ place.Leads (c :: blanks) (place.token c rest) ∧
      ∀ other, Alike (place.token c rest).ahead other → ∀ text,
        (Place.mk place.offset text).token c (blanks ++ other) =
          ⟨(place.token c rest).offset, other⟩ := by
  obtain ⟨blanks, blank, cut, offset⟩ := (place.behind [c] rest).blanks_cut
  refine ⟨blanks, blank, ⟨?_, ?_⟩, ?_⟩
  · rw [ahead]
    exact congrArg (c :: ·) cut
  · rw [bytes_cons, ← Nat.add_assoc]
    exact offset
  · intro other alike text
    rw [Place.token, behind, blanks_eq blank (alike.stop (head_dropWhile rest))]
    exact congrArg (Place.mk · other) offset.symm

end Leads

end Place

/-- The text between two places is the only one. -/
theorem Place.Leads.unique {place next next' : Place} (leads : place.Leads text next)
    (leads' : place.Leads text' next') (same : next.offset = next'.offset) : text = text' := by
  have cut := leads.ahead_eq.symm.trans leads'.ahead_eq
  have width : bytes text = bytes text' := by
    have start := leads.offset_eq
    have start' := leads'.offset_eq
    omega
  rcases List.append_eq_append_iff.mp cut with ⟨more, longer, _⟩ | ⟨more, longer, _⟩ <;>
    rw [longer, bytes_append] at width
  · have none : bytes more = 0 := by omega
    rw [longer, Metric.eq_nil_of_span _ none, List.append_nil]
  · have none : bytes more = 0 := by omega
    rw [longer, Metric.eq_nil_of_span _ none, List.append_nil]

/-! What reading depends on. -/

/-- The text does not supply what the error misses. -/
def Unmet (rest : List Char) : SyntaxError → Prop
  | .missingOperand _ => Text.numeral? rest = none
  | .unclosedGroup _ => True
  | .unexpectedInput _ => False

/-- The outcome is reached at this place: the phrase ends there, or the error is there. -/
def EndsAt : Outcome → Place → Prop
  | .ok (_, next), place => next = place
  | .error error, place => error.offset = place.offset ∧ Unmet place.ahead error

/-- The outcome where another text is left. -/
def leaving (rest : List Char) : Outcome → Outcome
  | .ok (expr, next) => .ok (expr, ⟨next.offset, rest⟩)
  | .error error => .error error

/-- Reading a phrase gives the same outcome if the text changes behind the place of the outcome. -/
def Settled (phrase : Phrase) (place : Place) (outcome : Outcome) : Prop :=
  ∃ text last, place.Leads text last ∧ EndsAt outcome last ∧
    ∀ rest, Alike last.ahead rest → (∀ error, outcome = .error error → Unmet rest error) →
      Reads phrase ⟨place.offset, text ++ rest⟩ (leaving rest outcome)

/-- The same of a phrase behind a character and the blanks after it. -/
theorem Settled.behindToken {place : Place} {c : Char} {more : List Char}
    (settled : Settled phrase (place.token c more) outcome) (ahead : place.ahead = c :: more) :
    ∃ text last, place.Leads (c :: text) last ∧ EndsAt outcome last ∧
      ∀ rest, Alike last.ahead rest → (∀ error, outcome = .error error → Unmet rest error) →
        ∀ whole, Reads phrase ((Place.mk place.offset whole).token c (text ++ rest))
          (leaving rest outcome) := by
  obtain ⟨blanks, blank, leads, token⟩ := Place.Leads.token ahead
  obtain ⟨text, last, leads', ends, swap⟩ := settled
  refine ⟨blanks ++ text, last, leads.trans leads', ends, ?_⟩
  intro rest alike unmet whole
  have alike' := leads'.ahead_eq ▸ alike.append text
  rw [List.append_assoc, token _ alike' whole]
  exact swap _ alike unmet

theorem Reads.settled (reads : Reads phrase place outcome) : Settled phrase place outcome := by
  induction reads with
  | chain first rest ihFirst ihRest =>
    obtain ⟨text, next, leads, rfl, swap⟩ := ihFirst
    obtain ⟨text', last, leads', ends, swap'⟩ := ihRest
    refine ⟨text ++ text', last, leads.trans leads', ends, ?_⟩
    intro other alike unmet
    rw [List.append_assoc]
    refine .chain (swap _ ?_ nofun) (swap' _ alike unmet)
    rw [leads'.ahead_eq]
    exact alike.append text'
  | chainError first ih =>
    obtain ⟨text, last, leads, ends, swap⟩ := ih
    refine ⟨text, last, leads, ends, ?_⟩
    intro other alike unmet
    exact .chainError (swap _ alike unmet)
  | tailEnd lacks =>
    refine ⟨[], _, .refl _, rfl, ?_⟩
    intro other alike unmet
    refine .tailEnd ?_
    intro op member
    exact alike.lacks (lacks op member)
  | tailStep member ahead operand rest ihOperand ihRest =>
    obtain ⟨text, next, leads, rfl, swap⟩ := ihOperand.behindToken ahead
    obtain ⟨text', last, leads', ends, swap'⟩ := ihRest
    refine ⟨_, last, leads.trans leads', ends, ?_⟩
    intro other alike unmet
    have alike' := leads'.ahead_eq ▸ alike.append text'
    rw [List.append_assoc]
    exact .tailStep member rfl (swap _ alike' nofun _) (swap' _ alike unmet)
  | tailError member ahead operand ih =>
    obtain ⟨text, last, leads, ends, swap⟩ := ih.behindToken ahead
    refine ⟨_, last, leads, ends, ?_⟩
    intro other alike unmet
    exact .tailError member rfl (swap _ alike unmet _)
  | base operand lacks ih =>
    obtain ⟨text, last, leads, rfl, swap⟩ := ih
    refine ⟨text, _, leads, rfl, ?_⟩
    intro other alike unmet
    exact .base (swap _ alike nofun) (alike.lacks lacks)
  | baseError operand ih =>
    obtain ⟨text, last, leads, ends, swap⟩ := ih
    refine ⟨text, last, leads, ends, ?_⟩
    intro other alike unmet
    exact .baseError (swap _ alike unmet)
  | @raised place left next more right last base ahead exponent ihBase ihExponent =>
    obtain ⟨text, _, leads, rfl, swap⟩ := ihBase
    obtain ⟨text', _, leads', rfl, swap'⟩ := ihExponent.behindToken ahead
    refine ⟨_, _, leads.trans leads', rfl, ?_⟩
    intro other alike unmet
    have base' := swap ('^' :: (text' ++ other)) (ahead ▸ .cons _ _ _) nofun
    have whole := Reads.raised base' rfl (swap' _ alike nofun _)
    rw [List.append_assoc]
    exact whole
  | raisedError base ahead exponent ihBase ihExponent =>
    obtain ⟨text, _, leads, rfl, swap⟩ := ihBase
    obtain ⟨text', last, leads', ends, swap'⟩ := ihExponent.behindToken ahead
    refine ⟨_, last, leads.trans leads', ends, ?_⟩
    intro other alike unmet
    have base' := swap ('^' :: (text' ++ other)) (ahead ▸ .cons _ _ _) nofun
    rw [List.append_assoc]
    exact .raisedError base' rfl (swap' _ alike unmet _)
  | negation ahead operand ih =>
    obtain ⟨text, last, leads, rfl, swap⟩ := ih.behindToken ahead
    refine ⟨_, _, leads, rfl, ?_⟩
    intro other alike unmet
    exact .negation rfl (swap _ alike nofun _)
  | negationError ahead operand ih =>
    obtain ⟨text, last, leads, ends, swap⟩ := ih.behindToken ahead
    refine ⟨_, last, leads, ends, ?_⟩
    intro other alike unmet
    exact .negationError rfl (swap _ alike unmet _)
  | operand lacks atom ih =>
    obtain ⟨text, last, leads, ends, swap⟩ := ih
    refine ⟨text, last, leads, ends, ?_⟩
    intro other alike unmet
    have alike' := leads.ahead_eq ▸ alike.append text
    exact .operand (alike'.lacks lacks) (swap _ alike unmet)
  | @number digits more place numeral =>
    obtain ⟨blanks, blank, cut, offset⟩ := (place.behind digits more).blanks_cut
    refine ⟨digits ++ blanks, _, ⟨?_, ?_⟩, rfl, ?_⟩
    · rw [Text.append_of_numeral? numeral, List.append_assoc, ← cut]
      rfl
    · rw [offset, bytes_append, ← Nat.add_assoc]
      rfl
    · intro other alike unmet
      have after : more = blanks ++ (place.behind digits more).blanks.ahead := cut
      have alike' : Alike more (blanks ++ other) := by
        rw [after]
        exact alike.append blanks
      have behind := Place.blanks_eq blank (alike.stop (head_dropWhile more))
        (place.offset + bytes digits)
      rw [List.append_assoc]
      simp only [leaving]
      rw [offset]
      simp only [Place.behind, ← behind]
      exact .number (numeral?_alike numeral alike')
  | missing lacks numeral =>
    refine ⟨[], _, .refl _, ⟨rfl, numeral⟩, ?_⟩
    intro other alike unmet
    exact .missing (alike.lacks lacks) (unmet _ rfl)
  | @group more expr next last place ahead inner closed ih =>
    obtain ⟨text, _, leads, rfl, swap⟩ := ih.behindToken ahead
    obtain ⟨blanks, blank, leads', token⟩ := Place.Leads.token closed
    refine ⟨_, _, leads.trans leads', rfl, ?_⟩
    intro other alike unmet
    have alike' : Alike next.ahead (')' :: (blanks ++ other)) := by
      rw [closed]
      exact .cons _ _ _
    rw [List.append_assoc, leaving, ← token _ alike]
    exact .group rfl (swap _ alike' nofun _) rfl
  | @unclosed more expr next place ahead inner lacks ih =>
    obtain ⟨text, _, leads, rfl, swap⟩ := ih.behindToken ahead
    refine ⟨_, _, leads, ⟨rfl, trivial⟩, ?_⟩
    intro other alike unmet
    have lacks' : (Place.mk next.offset other).Lacks ')' := alike.lacks lacks
    have whole := Reads.unclosed rfl (swap _ alike nofun ('(' :: (text ++ other))) lacks'
    exact whole
  | groupError ahead inner ih =>
    obtain ⟨text, last, leads, ends, swap⟩ := ih.behindToken ahead
    refine ⟨_, last, leads, ends, ?_⟩
    intro other alike unmet
    exact .groupError rfl (swap _ alike unmet _)

end Packrat.Calculator
