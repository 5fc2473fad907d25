import Packrat.Proofs.Calculator.Language
import Packrat.Proofs.Calculator.Lookahead

/-! Where a text is rejected: at the first place that no sentence agrees with. What stands before an
error can be completed, and what stands there cannot follow it. -/

namespace Packrat.Calculator

/-! What is read before an error starts a phrase: an operand in its place, and a parenthesis for
every group that is open, complete it. -/

theorem blank_nil : Blank [] := nofun

theorem derives_one (offset : Nat) :
    Derives .atom offset ['1'] (.number (Decimal.read (String.ofList ['1'])) offset) := by
  have one : Digits ['1'] := by simp [Digits, Text.isDigit]
  exact .number (.whole one) blank_nil

/-- By induction on the reading: the phrases around the one that broke off end with it. -/
theorem Reads.viable (reads : Reads phrase place outcome) :
    ∀ error, outcome = .error error →
      ∃ text last more expr, place.Leads text last ∧ error.offset = last.offset ∧
        Derives phrase place.offset (text ++ more) expr := by
  induction reads with
  | chain first rest ihFirst ihRest =>
    intro error broken
    obtain ⟨text, cut, offset, derived⟩ := first.derives _ _ rfl
    obtain ⟨text', last, more, expr, leads, ends, derived'⟩ := ihRest _ broken
    rw [offset] at derived'
    refine ⟨text ++ text', last, more, expr, .trans ⟨cut, offset⟩ leads, ends, ?_⟩
    rw [List.append_assoc]
    exact .chain derived derived'
  | chainError first ih =>
    intro error broken
    obtain ⟨text, last, more, expr, leads, ends, derived⟩ := ih _ broken
    refine ⟨text, last, more, expr, leads, ends, ?_⟩
    have whole := Derives.chain derived .tailEnd
    rwa [List.append_nil] at whole
  | tailStep member ahead operand rest ihOperand ihRest =>
    intro error broken
    obtain ⟨blanks, blank, leads, _⟩ := Place.Leads.token ahead
    obtain ⟨text, cut, offset, derived⟩ := operand.derives _ _ rfl
    obtain ⟨text', last, more, expr, leads', ends, derived'⟩ := ihRest _ broken
    refine ⟨_, last, more, expr, (leads.trans ⟨cut, offset⟩).trans leads', ends, ?_⟩
    rw [offset] at derived'
    simp only [leads.offset_eq, bytes_cons, BinaryOp.utf8Size_sign, ← Nat.add_assoc] at derived
    simp only [leads.offset_eq, bytes_cons, BinaryOp.utf8Size_sign, ← Nat.add_assoc] at derived'
    simpa only [List.append_assoc, List.cons_append] using
      Derives.tailStep member blank derived derived'
  | @tailError op rest error level left place member ahead operand ih =>
    intro error broken
    obtain ⟨blanks, blank, leads, _⟩ := Place.Leads.token ahead
    obtain ⟨text, last, more, expr, leads', ends, derived⟩ := ih _ broken
    refine ⟨_, last, more, .binary op left expr place.offset, leads.trans leads', ends, ?_⟩
    simp only [leads.offset_eq, bytes_cons, BinaryOp.utf8Size_sign, ← Nat.add_assoc] at derived
    simpa only [List.append_assoc, List.cons_append, List.append_nil] using
      Derives.tailStep member blank derived .tailEnd
  | baseError operand ih =>
    intro error broken
    obtain ⟨text, last, more, expr, leads, ends, derived⟩ := ih _ broken
    exact ⟨text, last, more, expr, leads, ends, .base derived⟩
  | @raisedError place left next rest error base ahead exponent ihBase ihExponent =>
    intro error broken
    obtain ⟨text, cut, offset, derived⟩ := base.derives _ _ rfl
    obtain ⟨blanks, blank, leads, _⟩ := Place.Leads.token ahead
    obtain ⟨text', last, more, expr, leads', ends, derived'⟩ := ihExponent _ broken
    refine ⟨_, last, more, .binary .power left expr (place.offset + bytes text),
      (Place.Leads.trans ⟨cut, offset⟩ leads).trans leads', ends, ?_⟩
    simp only [leads.offset_eq, offset, bytes_cons, ← Nat.add_assoc] at derived'
    simpa only [List.append_assoc, List.cons_append] using Derives.raised derived blank derived'
  | @negationError rest error place ahead operand ih =>
    intro error broken
    obtain ⟨blanks, blank, leads, _⟩ := Place.Leads.token ahead
    obtain ⟨text, last, more, expr, leads', ends, derived⟩ := ih _ broken
    refine ⟨_, last, more, .negation expr place.offset, leads.trans leads', ends, ?_⟩
    simp only [leads.offset_eq, bytes_cons, ← Nat.add_assoc] at derived
    simpa only [List.append_assoc, List.cons_append] using Derives.negation blank derived
  | operand lacks atom ih =>
    intro error broken
    obtain ⟨text, last, more, expr, leads, ends, derived⟩ := ih _ broken
    exact ⟨text, last, more, expr, leads, ends, .operand derived⟩
  | @missing place lacks numeral =>
    rintro error ⟨⟩
    exact ⟨[], place, ['1'], _, .refl place, rfl, derives_one place.offset⟩
  | @unclosed rest expr next place ahead inner lacks ih =>
    rintro error ⟨⟩
    obtain ⟨blanks, blank, leads, _⟩ := Place.Leads.token ahead
    obtain ⟨text, cut, offset, derived⟩ := inner.derives _ _ rfl
    refine ⟨_, next, [')'], .group expr place.offset, leads.trans ⟨cut, offset⟩, rfl, ?_⟩
    simp only [leads.offset_eq, bytes_cons, ← Nat.add_assoc] at derived
    simpa only [List.append_assoc, List.cons_append] using Derives.group blank derived blank_nil
  | @groupError rest error place ahead inner ih =>
    intro error broken
    obtain ⟨blanks, blank, leads, _⟩ := Place.Leads.token ahead
    obtain ⟨text, last, more, expr, leads', ends, derived⟩ := ih _ broken
    refine ⟨_, last, more ++ [')'], .group expr place.offset, leads.trans leads', ends, ?_⟩
    simp only [leads.offset_eq, bytes_cons, ← Nat.add_assoc] at derived
    simpa only [List.append_assoc, List.cons_append] using Derives.group blank derived blank_nil
  | _ => nofun

/-- Every offset up to the end of a source has a location. -/
theorem locate_of_le {source : String} {offset : Nat} (inside : offset ≤ Text.byteLength source) :
    ∃ location, (Text.LineTable.ofSource source).locate offset = .ok location := by
  have within : ¬ (Text.LineTable.ofSource source).length < offset := Nat.not_lt.mpr inside
  rw [Text.LineTable.locate, if_neg within]
  exact ⟨_, rfl⟩

/-! Whole texts. -/

def Accepts (calculator : Calculator) (text : List Char) : Prop :=
  ∃ expr rest, (calculator.parse (String.ofList text)).1 = .done expr rest

theorem accepts_of_verdict (calculator : Calculator) {text : List Char}
    (verdict : Verdict (String.ofList text) (.ok expr)) : calculator.Accepts text := by
  rcases parse_verdict calculator (String.ofList text) with
    ⟨expr, rest, done, _⟩ | ⟨error, _, verdict'⟩
  · exact ⟨expr, rest, done⟩
  · cases verdict.unique verdict'

theorem not_accepts_of_verdict (calculator : Calculator) {text : List Char}
    (verdict : Verdict (String.ofList text) (.error error)) : ¬ calculator.Accepts text := by
  intro ⟨expr, rest, done⟩
  rcases parse_verdict calculator (String.ofList text) with
    ⟨_, _, _, verdict'⟩ | ⟨error, fail, _⟩
  · cases verdict.unique verdict'
  · rw [done] at fail
    cases fail

/-- Blanks lead to the start of the expression, also if the text behind them is another. -/
theorem start_leads (source : String) :
    ∃ blanks, Blank blanks ∧
      (Place.mk 0 source.toList).Leads blanks (Place.blanks ⟨0, source.toList⟩) ∧
      ∀ other, Alike (Place.blanks ⟨0, source.toList⟩).ahead other →
        Place.blanks ⟨0, (String.ofList (blanks ++ other)).toList⟩ =
          ⟨(Place.blanks ⟨0, source.toList⟩).offset, other⟩ := by
  obtain ⟨blanks, blank, cut, offset⟩ := Place.blanks_cut ⟨0, source.toList⟩
  refine ⟨blanks, blank, ⟨cut, offset⟩, ?_⟩
  intro other alike
  rw [String.toList_ofList, Place.blanks_eq blank (alike.stop (head_dropWhile source.toList)),
    offset]

/-- Digits and a point, without a digit behind the point. -/
def BrokenNumeral (text : List Char) : Prop :=
  ∃ digits rest, text = digits ++ '.' :: rest ∧ Digits digits ∧
    ∀ c, rest.head? = some c → Text.isDigit c = false

/-- What an error says about a text, cut in two at the offset of the error. -/
structure Leftmost (calculator : Calculator) (front back : List Char) (error : SyntaxError) :
    Prop where
  /-- The error is between the two parts. -/
  offset_eq : error.offset = bytes front
  /-- Something behind the first part makes it acceptable. -/
  viable : ∃ more, calculator.Accepts (front ++ more)
  /-- The first part is acceptable by itself exactly if the error is that more follows. -/
  surplus : (∃ offset, error = .unexpectedInput offset) ↔ calculator.Accepts front
  /-- The character at the error bars every completion. -/
  barred : ¬ BrokenNumeral back → ∀ c after, back = c :: after →
    ∀ more, ¬ calculator.Accepts (front ++ c :: more)

/-- Where no numeral starts, none starts with the same character, unless one broke off. -/
theorem numeral?_barred {c : Char} {after : List Char} (none : Text.numeral? (c :: after) = none)
    (intact : ¬ BrokenNumeral (c :: after)) (more : List Char) :
    Text.numeral? (c :: more) = .none := by
  by_cases digit : Text.isDigit c
  · exfalso
    have some : (c :: after).takeWhile Text.isDigit ≠ [] := by simp [digit]
    by_cases pointless : ((c :: after).dropWhile Text.isDigit).head? = .some '.'
    · obtain ⟨rest, point⟩ := List.head?_eq_some_iff.mp pointless
      rw [Text.numeral?_of_point some point] at none
      split at none
      · rename_i short
        refine intact ⟨_, rest, ?_, digits_takeWhile some, ?_⟩
        · rw [← point, List.takeWhile_append_dropWhile]
        · have stop : ∀ c, (rest.dropWhile Text.isDigit).head? = .some c → Text.isDigit c = false :=
            head_dropWhile rest
          have same := List.takeWhile_append_dropWhile (p := Text.isDigit) (l := rest)
          rw [short, List.nil_append] at same
          rwa [same] at stop
      · cases none
    · rw [Text.numeral?_of_no_point some pointless] at none
      cases none
  · exact Text.numeral?_of_no_digit (by simp [digit])

theorem Unmet.nil (unmet : Unmet rest error) : Unmet [] error := by
  cases error with
  | missingOperand => exact Text.numeral?_of_no_digit rfl
  | unclosedGroup => trivial
  | unexpectedInput => exact unmet

theorem Unmet.barred {c : Char} {after : List Char} (unmet : Unmet (c :: after) error)
    (intact : ¬ BrokenNumeral (c :: after)) (more : List Char) : Unmet (c :: more) error := by
  cases error with
  | missingOperand => exact numeral?_barred unmet intact more
  | unclosedGroup => trivial
  | unexpectedInput => exact unmet

/-- Input that is left over starts where the longest sentence ends. -/
theorem leftmost_of_surplus (calculator : Calculator) {source : String}
    (reads : Reads .expression (Place.blanks ⟨0, source.toList⟩) (.ok (expr, next))) :
    ∃ front back, source.toList = front ++ back ∧
      Leftmost calculator front back (.unexpectedInput next.offset) := by
  obtain ⟨blanks, blank, leads, start⟩ := start_leads source
  obtain ⟨text, _, leads', rfl, swap⟩ := reads.settled
  have whole := leads.trans leads'
  have reads' (rest : List Char) (alike : Alike next.ahead rest) :
      Reads .expression (Place.blanks ⟨0, (String.ofList (blanks ++ text ++ rest)).toList⟩)
        (.ok (expr, ⟨next.offset, rest⟩)) := by
    rw [List.append_assoc, start _ (leads'.ahead_eq ▸ alike.append text)]
    exact swap rest alike nofun
  have accepted : calculator.Accepts (blanks ++ text) := by
    have verdict := Verdict.whole (reads' [] (.nil _)) rfl
    rw [List.append_nil] at verdict
    exact accepts_of_verdict calculator verdict
  refine ⟨blanks ++ text, next.ahead, whole.ahead_eq, ?_⟩
  constructor
  · simpa [SyntaxError.offset] using whole.offset_eq
  · exact ⟨[], by rwa [List.append_nil]⟩
  · exact ⟨fun _ => accepted, fun _ => ⟨_, rfl⟩⟩
  · intro _ c after cut more
    have alike : Alike next.ahead (c :: more) := cut ▸ .cons c after more
    exact not_accepts_of_verdict calculator (.surplus (reads' _ alike) nofun)

/-- Where reading breaks off, the text up to there is the start of a sentence but no sentence. -/
theorem leftmost_of_broken (calculator : Calculator) {source : String}
    (reads : Reads .expression (Place.blanks ⟨0, source.toList⟩) (.error error)) :
    ∃ front back, source.toList = front ++ back ∧ Leftmost calculator front back error := by
  obtain ⟨blanks, blank, leads, start⟩ := start_leads source
  obtain ⟨text, last, leads', ⟨ends, unmet⟩, swap⟩ := reads.settled
  obtain ⟨text', last', more, expr, leads'', ends', derived⟩ := reads.viable error rfl
  cases leads'.unique leads'' (ends.symm.trans ends')
  have whole := leads.trans leads'
  have rejected (rest : List Char) (alike : Alike last.ahead rest) (unmet : Unmet rest error) :
      ¬ calculator.Accepts (blanks ++ text ++ rest) := by
    apply not_accepts_of_verdict
    apply Verdict.broken
    rw [List.append_assoc, start _ (leads'.ahead_eq ▸ alike.append text)]
    refine swap rest alike ?_
    rintro _ ⟨⟩
    exact unmet
  refine ⟨blanks ++ text, last.ahead, whole.ahead_eq, ?_⟩
  constructor
  · rw [ends, whole.offset_eq, Nat.zero_add]
  · have sentence : Sentence (String.ofList (blanks ++ text ++ more)) expr := by
      refine ⟨blanks, text ++ more, blank, ?_, ?_⟩
      · rw [String.toList_ofList, List.append_assoc]
      · rwa [leads.offset_eq, Nat.zero_add] at derived
    exact ⟨more, accepts_of_verdict calculator (sentence_iff.mp sentence)⟩
  · constructor
    · intro ⟨offset, same⟩
      rw [same] at unmet
      exact unmet.elim
    · intro accepted
      rw [← List.append_nil (blanks ++ text)] at accepted
      exact (rejected [] (.nil _) unmet.nil accepted).elim
  · intro intact c after cut more
    rw [cut] at unmet intact
    exact rejected _ (cut ▸ .cons c after more) (unmet.barred intact more)

/-- A text is parsed, or the error stands at the leftmost place that no sentence agrees with: at an
offset of the text that has a line and a column, behind a part that can be completed, and before a
character that cannot follow it. -/
theorem parse_or_leftmost (calculator : Calculator) (source : String) :
    (∃ expr rest, (calculator.parse source).1 = .done expr rest) ∨
      ∃ error front back, (calculator.parse source).1 = .fail error ∧
        source.toList = front ++ back ∧ Leftmost calculator front back error ∧
        error.offset ≤ Text.byteLength source ∧
        ∃ location, (Text.LineTable.ofSource source).locate error.offset = .ok location := by
  rcases parse_verdict calculator source with ⟨expr, rest, done, _⟩ | ⟨error, fail, verdict⟩
  · exact .inl ⟨expr, rest, done⟩
  · right
    have cut : ∃ front back, source.toList = front ++ back ∧
        Leftmost calculator front back error := by
      cases verdict with
      | surplus reads _ => exact leftmost_of_surplus calculator reads
      | broken reads => exact leftmost_of_broken calculator reads
    obtain ⟨front, back, cut, leftmost⟩ := cut
    have inside : error.offset ≤ Text.byteLength source := by
      have width : Text.byteLength source = bytes source.toList := rfl
      rw [width, cut, bytes_append, leftmost.offset_eq]
      exact Nat.le_add_right _ _
    refine ⟨error, front, back, fail, cut, leftmost, inside, ?_⟩
    exact locate_of_le inside

end Packrat.Calculator
