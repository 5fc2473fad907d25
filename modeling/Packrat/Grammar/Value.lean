import Packrat.Text.Error
import Packrat.Token

/-! The values and failures of grammars that are put together at run time. They are one type each,
so that any parser of a grammar can stand in any place. A failure can hold a value and a value a
failure, because a parser may swap the two. -/

namespace Packrat

open Text (TextError Location)

mutual

/-- What a parser of a grammar yields. -/
inductive Value where
  | unit
  | char (c : Char)
  | text (text : String)
  | int (n : Int)
  | list (values : List Value)
  | absent
  | present (value : Value)
  | positioned (position : Nat) (value : Value)
  | token (kind : String) (value : Value) (start stop : Nat)
  | location (location : Location)
  | error (failure : Failure)

/-- How a parser of a grammar fails. -/
inductive Failure where
  | stream (error : StreamError)
  | text (error : TextError)
  | custom (tag : String)
  | positioned (position : Nat) (failure : Failure)
  | wrapped (tag : String) (start : Nat) (failure : Failure)
  | value (value : Value)

end

instance : Inhabited Value := ⟨.unit⟩

namespace Value

def ofOption : Option Value → Value
  | none => absent
  | some value => present value

def ofPositioned (value : Positioned Value) : Value := positioned value.position value.value

mutual

/-- All text inside a value, numbers in decimal; what a location or a failure says is left out. -/
def joined : Value → String
  | unit => ""
  | char c => c.toString
  | .text spelling => spelling
  | int n => toString n
  | list values => joinedAll values
  | absent => ""
  | present value => joined value
  | positioned _ value => joined value
  | token _ value _ _ => joined value
  | location _ => ""
  | error _ => ""

def joinedAll : List Value → String
  | [] => ""
  | value :: values => joined value ++ joinedAll values

end

/-- The length of a list; of anything else the number of characters inside. -/
def size : Value → Nat
  | list values => values.length
  | value => value.joined.length

/-- An element of a list; unit where there is none. -/
def item (index : Nat) : Value → Value
  | list values => values[index]?.getD unit
  | _ => unit

/-- The number a text spells in decimal digits, after an optional plus sign, if it is a position. -/
def decimal? (text : List Char) : Option Nat :=
  let digits := match text with
    | '+' :: rest => rest
    | rest => rest
  if digits.isEmpty || !digits.all Char.isDigit then none
  else
    let n := digits.foldl (fun n c => 10 * n + (c.toNat - '0'.toNat)) 0
    if n < positionBound then some n else none

/-- The number that the text inside a value spells, or zero. -/
def count (value : Value) : Nat := (decimal? value.joined.toList).getD 0

end Value

namespace Failure

def ofPositioned (failure : Positioned Failure) : Failure :=
  positioned failure.position failure.value

/-- The failure as parsers of text report it. -/
def toTextError : Failure → TextError
  | stream error => ofStreamError error
  | text error => error
  | _ => .stringMismatch "?"

instance : OfStreamError Failure := ⟨stream⟩

def kind : Failure → String
  | stream .endOfInput => "EndOfInput"
  | stream .endExpected => "EndExpected"
  | text .endOfInput => "EndOfInput"
  | text .endExpected => "EndExpected"
  | text .digitExpected => "DigitExpected"
  | text .whitespaceExpected => "WhitespaceExpected"
  | text .underscoreExpected => "UnderscoreExpected"
  | text .letterExpected => "AsciiAlphaExpected"
  | text .identifierCharExpected => "AsciiIdCharExpected"
  | text (.charNotExpected _) => "CharNotExpected"
  | text (.charExcluded _) => "CharExcluded"
  | text (.stringMismatch _) => "StringMismatch"
  | text (.invalidPosition _) => "InvalidPosition"
  | custom _ => "Custom"
  | positioned _ _ => "At"
  | wrapped _ _ _ => "Wrapped"
  | value _ => "Value"

end Failure

end Packrat
