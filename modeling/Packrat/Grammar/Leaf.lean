import Packrat.Grammar.Value
import Packrat.Text.Keyword
import Packrat.Text.Numeral

/-! The basic parsers of grammars over text, as data. -/

namespace Packrat

/-- The basic parsers that grammars over items `ι` are made of. -/
class Lexicon (ι Leaf : Type) where
  /-- An item as a value. -/
  value : ι → Value
  /-- The contract that a basic parser breaks when it is built. -/
  defect : Leaf → Option Violation
  /-- The text by which the keys of a dispatch are ordered. -/
  order : Leaf → String
  /-- The parser itself. -/
  parser : {δ : Type} → {M : Memory} → Leaf → Parser ι δ M Failure Value

inductive TextLeaf where
  | char (expected : Char)
  | string (text : String)
  | stringInsensitive (text : String)
  | oneOf (chars : String)
  | noneOf (chars : String)
  | anyChar
  | digit
  | whitespace
  | underscore
  | letter
  | identifierChar
  | identifier
  | integer
  | float
  | number
  | endOfText
  deriving DecidableEq, Repr

namespace TextLeaf

variable {δ : Type} {M : Memory}

def lift {α : Type} (value : α → Value) (parser : Text.TextParser δ M α) :
    Parser Char δ M Failure Value :=
  (parser.map value).mapError Failure.text

/-- The contract that a basic parser breaks when it is built. -/
def defect : TextLeaf → Option Violation
  | string text => if text.isEmpty then some .emptyLiteral else none
  | stringInsensitive text => if text.isEmpty then some .emptyLiteral else none
  | oneOf chars => if chars.isEmpty then some .emptyCharacterSet else none
  | _ => none

def order : TextLeaf → String
  | string text => text
  | _ => ""

def parser : TextLeaf → Parser Char δ M Failure Value
  | char expected => lift .char (Text.char expected)
  | string text => lift .text (Text.string text)
  | stringInsensitive text => lift .text (Text.stringInsensitive text)
  | oneOf chars => lift .char (Text.oneOf chars)
  | noneOf chars => lift .char (Text.noneOf chars)
  | anyChar => lift .char Text.anyChar
  | digit => lift .char Text.digit
  | whitespace => lift .char Text.whitespace
  | underscore => lift .char Text.underscore
  | letter => lift .char Text.letter
  | identifierChar => lift .char Text.identifierChar
  | identifier => lift .text Text.identifier
  | integer => lift .text Text.integer
  | float => lift .text Text.float
  | number => lift .text Text.number
  | endOfText => lift (fun _ => .unit) Text.endOfText

instance : Lexicon Char TextLeaf := ⟨.char, defect, order, parser⟩

end TextLeaf

/-- Grammars over integers have no basic parsers beyond those for any items. -/
instance : Lexicon Int Empty := ⟨.int, nofun, nofun, nofun⟩

end Packrat
