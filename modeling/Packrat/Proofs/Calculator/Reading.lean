import Packrat.Proofs.Calculator.Phrase
import Packrat.Proofs.Text.Numeral

/-! Reading a phrase from left to right, without sessions or cursors. Every place has exactly one
outcome: a tree and the place after the phrase, or the error and where it is. -/

namespace Packrat.Calculator

/-- An offset and the text from there on. -/
structure Place where
  offset : Nat
  ahead : List Char

namespace Place

def behind (place : Place) (text rest : List Char) : Place := ⟨place.offset + bytes text, rest⟩

def blanks (place : Place) : Place :=
  place.behind (place.ahead.takeWhile Text.isBlank) (place.ahead.dropWhile Text.isBlank)

/-- The place behind one character and all blanks after it. -/
def token (place : Place) (c : Char) (rest : List Char) : Place := (place.behind [c] rest).blanks

def Lacks (place : Place) (c : Char) : Prop := place.ahead.head? ≠ some c

end Place

/-- The outcome of reading a phrase: its tree and the place after it, or an error. -/
abbrev Outcome := Except SyntaxError (Expr × Place)

/-- Reading a phrase at a place has this outcome. -/
inductive Reads : Phrase → Place → Outcome → Prop where
  | chain (first : Reads level.operand place (.ok (left, next)))
      (rest : Reads (.tail level left) next outcome) : Reads (.chain level) place outcome
  | chainError (first : Reads level.operand place (.error error)) :
      Reads (.chain level) place (.error error)
  | tailEnd (lacks : ∀ op ∈ level.operators, place.Lacks op.sign) :
      Reads (.tail level left) place (.ok (left, place))
  | tailStep (member : op ∈ level.operators) (ahead : place.ahead = op.sign :: more)
      (operand : Reads level.operand (place.token op.sign more) (.ok (right, next)))
      (rest : Reads (.tail level (.binary op left right place.offset)) next outcome) :
      Reads (.tail level left) place outcome
  | tailError (member : op ∈ level.operators) (ahead : place.ahead = op.sign :: more)
      (operand : Reads level.operand (place.token op.sign more) (.error error)) :
      Reads (.tail level left) place (.error error)
  | base (operand : Reads .unary place (.ok (expr, next))) (lacks : next.Lacks '^') :
      Reads .power place (.ok (expr, next))
  | baseError (operand : Reads .unary place (.error error)) : Reads .power place (.error error)
  | raised (base : Reads .unary place (.ok (left, next))) (ahead : next.ahead = '^' :: more)
      (exponent : Reads .power (next.token '^' more) (.ok (right, last))) :
      Reads .power place (.ok (.binary .power left right next.offset, last))
  | raisedError (base : Reads .unary place (.ok (left, next))) (ahead : next.ahead = '^' :: more)
      (exponent : Reads .power (next.token '^' more) (.error error)) :
      Reads .power place (.error error)
  | negation (ahead : place.ahead = '-' :: more)
      (operand : Reads .unary (place.token '-' more) (.ok (expr, next))) :
      Reads .unary place (.ok (.negation expr place.offset, next))
  | negationError (ahead : place.ahead = '-' :: more)
      (operand : Reads .unary (place.token '-' more) (.error error)) :
      Reads .unary place (.error error)
  | operand (lacks : place.Lacks '-') (atom : Reads .atom place outcome) :
      Reads .unary place outcome
  | number (numeral : Text.numeral? place.ahead = some (digits, more)) :
      Reads .atom place
        (.ok (.number (Decimal.read (String.ofList digits)) place.offset,
          (place.behind digits more).blanks))
  | missing (lacks : place.Lacks '(') (numeral : Text.numeral? place.ahead = none) :
      Reads .atom place (.error (.missingOperand place.offset))
  | group (ahead : place.ahead = '(' :: more)
      (inner : Reads .expression (place.token '(' more) (.ok (expr, next)))
      (closed : next.ahead = ')' :: last) :
      Reads .atom place (.ok (.group expr place.offset, next.token ')' last))
  | unclosed (ahead : place.ahead = '(' :: more)
      (inner : Reads .expression (place.token '(' more) (.ok (expr, next)))
      (lacks : next.Lacks ')') :
      Reads .atom place (.error (.unclosedGroup next.offset))
  | groupError (ahead : place.ahead = '(' :: more)
      (inner : Reads .expression (place.token '(' more) (.error error)) :
      Reads .atom place (.error error)

theorem Place.Lacks.not_ahead {place : Place} (lacks : place.Lacks c)
    (ahead : place.ahead = c :: rest) : False :=
  lacks (by rw [ahead]; rfl)

theorem numeral?_of_open {rest : List Char} : Text.numeral? ('(' :: rest) = none :=
  Text.numeral?_of_no_digit rfl

/-- Reading has at most one outcome. -/
theorem Reads.unique (first : Reads phrase place outcome) (second : Reads phrase place other) :
    outcome = other := by
  induction first generalizing other with
  | chain first rest ihFirst ihRest =>
    cases second with
    | chain first' rest' => cases ihFirst first'; exact ihRest rest'
    | chainError first' => cases ihFirst first'
  | chainError first ih =>
    cases second with
    | chain first' _ => cases ih first'
    | chainError first' => exact ih first'
  | tailEnd lacks =>
    cases second with
    | tailEnd _ => rfl
    | tailStep member ahead _ _ => exact ((lacks _ member).not_ahead ahead).elim
    | tailError member ahead _ => exact ((lacks _ member).not_ahead ahead).elim
  | tailStep member ahead operand rest ihOperand ihRest =>
    cases second with
    | tailEnd lacks => exact ((lacks _ member).not_ahead ahead).elim
    | tailStep member' ahead' operand' rest' =>
      obtain ⟨sign, rfl⟩ := List.cons.inj (ahead.symm.trans ahead')
      cases BinaryOp.sign_inj sign
      cases ihOperand operand'
      exact ihRest rest'
    | tailError member' ahead' operand' =>
      obtain ⟨sign, rfl⟩ := List.cons.inj (ahead.symm.trans ahead')
      cases BinaryOp.sign_inj sign
      cases ihOperand operand'
  | tailError member ahead operand ih =>
    cases second with
    | tailEnd lacks => exact ((lacks _ member).not_ahead ahead).elim
    | tailStep member' ahead' operand' rest' =>
      obtain ⟨sign, rfl⟩ := List.cons.inj (ahead.symm.trans ahead')
      cases BinaryOp.sign_inj sign
      cases ih operand'
    | tailError member' ahead' operand' =>
      obtain ⟨sign, rfl⟩ := List.cons.inj (ahead.symm.trans ahead')
      cases BinaryOp.sign_inj sign
      exact ih operand'
  | base operand lacks ih =>
    cases second with
    | base operand' _ => exact ih operand'
    | baseError operand' => cases ih operand'
    | raised base' ahead' _ => cases ih base'; exact (lacks.not_ahead ahead').elim
    | raisedError base' ahead' _ => cases ih base'; exact (lacks.not_ahead ahead').elim
  | baseError operand ih =>
    cases second with
    | base operand' _ => cases ih operand'
    | baseError operand' => exact ih operand'
    | raised base' _ _ => cases ih base'
    | raisedError base' _ _ => cases ih base'
  | raised base ahead exponent ihBase ihExponent =>
    cases second with
    | base operand' lacks => cases ihBase operand'; exact (lacks.not_ahead ahead).elim
    | baseError operand' => cases ihBase operand'
    | raised base' ahead' exponent' =>
      cases ihBase base'
      cases ahead.symm.trans ahead'
      cases ihExponent exponent'
      rfl
    | raisedError base' ahead' exponent' =>
      cases ihBase base'
      cases ahead.symm.trans ahead'
      cases ihExponent exponent'
  | raisedError base ahead exponent ihBase ihExponent =>
    cases second with
    | base operand' lacks => cases ihBase operand'; exact (lacks.not_ahead ahead).elim
    | baseError operand' => cases ihBase operand'
    | raised base' ahead' exponent' =>
      cases ihBase base'
      cases ahead.symm.trans ahead'
      cases ihExponent exponent'
    | raisedError base' ahead' exponent' =>
      cases ihBase base'
      cases ahead.symm.trans ahead'
      exact ihExponent exponent'
  | negation ahead operand ih =>
    cases second with
    | negation ahead' operand' => cases ahead.symm.trans ahead'; cases ih operand'; rfl
    | negationError ahead' operand' => cases ahead.symm.trans ahead'; cases ih operand'
    | operand lacks _ => exact (lacks.not_ahead ahead).elim
  | negationError ahead operand ih =>
    cases second with
    | negation ahead' operand' => cases ahead.symm.trans ahead'; cases ih operand'
    | negationError ahead' operand' => cases ahead.symm.trans ahead'; exact ih operand'
    | operand lacks _ => exact (lacks.not_ahead ahead).elim
  | operand lacks atom ih =>
    cases second with
    | negation ahead _ => exact (lacks.not_ahead ahead).elim
    | negationError ahead _ => exact (lacks.not_ahead ahead).elim
    | operand _ atom' => exact ih atom'
  | number numeral =>
    cases second with
    | number numeral' => cases numeral.symm.trans numeral'; rfl
    | missing _ numeral' => cases numeral.symm.trans numeral'
    | group ahead _ _ => rw [ahead, numeral?_of_open] at numeral; cases numeral
    | unclosed ahead _ _ => rw [ahead, numeral?_of_open] at numeral; cases numeral
    | groupError ahead _ => rw [ahead, numeral?_of_open] at numeral; cases numeral
  | missing lacks numeral =>
    cases second with
    | number numeral' => cases numeral.symm.trans numeral'
    | missing _ _ => rfl
    | group ahead _ _ => exact (lacks.not_ahead ahead).elim
    | unclosed ahead _ _ => exact (lacks.not_ahead ahead).elim
    | groupError ahead _ => exact (lacks.not_ahead ahead).elim
  | group ahead inner closed ih =>
    cases second with
    | number numeral => rw [ahead, numeral?_of_open] at numeral; cases numeral
    | missing lacks _ => exact (lacks.not_ahead ahead).elim
    | group ahead' inner' closed' =>
      cases ahead.symm.trans ahead'
      cases ih inner'
      cases closed.symm.trans closed'
      rfl
    | unclosed ahead' inner' lacks =>
      cases ahead.symm.trans ahead'
      cases ih inner'
      exact (lacks.not_ahead closed).elim
    | groupError ahead' inner' => cases ahead.symm.trans ahead'; cases ih inner'
  | unclosed ahead inner lacks ih =>
    cases second with
    | number numeral => rw [ahead, numeral?_of_open] at numeral; cases numeral
    | missing lacks' _ => exact (lacks'.not_ahead ahead).elim
    | group ahead' inner' closed' =>
      cases ahead.symm.trans ahead'
      cases ih inner'
      exact (lacks.not_ahead closed').elim
    | unclosed ahead' inner' _ =>
      cases ahead.symm.trans ahead'
      cases ih inner'
      rfl
    | groupError ahead' inner' => cases ahead.symm.trans ahead'; cases ih inner'
  | groupError ahead inner ih =>
    cases second with
    | number numeral => rw [ahead, numeral?_of_open] at numeral; cases numeral
    | missing lacks _ => exact (lacks.not_ahead ahead).elim
    | group ahead' inner' _ => cases ahead.symm.trans ahead'; cases ih inner'
    | unclosed ahead' inner' _ => cases ahead.symm.trans ahead'; cases ih inner'
    | groupError ahead' inner' => cases ahead.symm.trans ahead'; exact ih inner'

end Packrat.Calculator
