import Packrat.Parser.Basic

/-! Repetition. There is one loop. A round either yields an element or says that the loop is over;
a round that yields an element without moving ends the loop too, and leaves no trace, or a parser
that accepts nothing would repeat forever. -/

namespace Packrat.Parser

variable {ι δ : Type} {M : Memory} {ε ε' α β : Type}

/-- At most `budget` rounds. `onStall` is the event of a round that did not move. -/
def loop (onStall : Option (Nat → Event)) (round : Parser ι δ M ε (Option α)) :
    (budget : Nat) → Cursor ι δ → Session ι δ M →
      Reply (Cursor ι δ) ε (List α) × Session ι δ M
  | 0, _, session => (.halt .exhausted, session)
  | budget + 1, cursor, session =>
    match round cursor session with
    | (.done none rest, session) => (.done [] rest, session)
    | (.done (some value) rest, session) =>
      if rest.position = cursor.position then
        match onStall with
        | some event => (.done [] cursor, session.note (event cursor.position))
        | none => (.done [] cursor, session)
      else
        match loop onStall round budget rest session with
        | (.done values last, session) => (.done (value :: values) last, session)
        | (.fail error, session) => (.fail error, session)
        | (.halt cause, session) => (.halt cause, session)
    | (.fail error, session) => (.fail error, session)
    | (.halt cause, session) => (.halt cause, session)

/-- Rounds until one ends the loop. Every other round moves, so there are no more of them than
positions left, and one. -/
def rounds (onStall : Option (Nat → Event)) (round : Parser ι δ M ε (Option α)) :
    Parser ι δ M ε (List α) := fun cursor session =>
  loop onStall round (session.reach - cursor.position + 1) cursor session

/-- Zero or more: the values of `parser` until it fails. -/
def many (parser : Parser ι δ M ε α) : Parser ι δ M ε' (List α) :=
  rounds (some .repetitionStalled) parser.maybe

/-- One or more: the first must succeed. -/
def oneOrMore (parser : Parser ι δ M ε α) : Parser ι δ M ε (List α) :=
  parser.inspect fun first => (many parser).map (first :: ·)

/-- The values of `body`, as long as `condition` matches before it. Once it matched, `body` is
required. -/
def repeatWhile (condition : Parser ι δ M ε' β) (body : Parser ι δ M ε α) :
    Parser ι δ M ε (List α) :=
  rounds (some .loopStalled) <|
    condition.handle (fun _ => body.map some) fun _ => constant none

/-- What a list allows besides elements with separators between them. -/
structure ListForm where
  /-- No element at all. -/
  allowZero : Bool
  /-- A separator after the last element, which is consumed. -/
  allowTrailing : Bool
  deriving DecidableEq, Repr

def separatedBy (form : ListForm) (element : Parser ι δ M ε α) (separator : Parser ι δ M ε' β) :
    Parser ι δ M ε (List α) :=
  element.handle
    (fun first => (rounds none (separator.handle
      (fun _ => element.handle (fun value => constant (some value)) fun error =>
        if form.allowTrailing then constant none else failWith error)
      fun _ => constant none)).map (first :: ·))
    fun error => if form.allowZero then constant [] else failWith error

/-- At least one element and no trailing separator. -/
def separated (element : Parser ι δ M ε α) (separator : Parser ι δ M ε' β) :
    Parser ι δ M ε (List α) :=
  separatedBy ⟨false, false⟩ element separator

/-- The empty list is accepted. -/
def separatedAllowZero (element : Parser ι δ M ε α) (separator : Parser ι δ M ε' β) :
    Parser ι δ M ε (List α) :=
  separatedBy ⟨true, false⟩ element separator

/-- A trailing separator is accepted. -/
def separatedTrailing (element : Parser ι δ M ε α) (separator : Parser ι δ M ε' β) :
    Parser ι δ M ε (List α) :=
  separatedBy ⟨false, true⟩ element separator

/-- The empty list and a trailing separator are accepted. -/
def separatedTrailingAllowZero (element : Parser ι δ M ε α) (separator : Parser ι δ M ε' β) :
    Parser ι δ M ε (List α) :=
  separatedBy ⟨true, true⟩ element separator

end Packrat.Parser
