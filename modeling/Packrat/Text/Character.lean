import Packrat.Parser.Choice
import Packrat.Parser.Repetition
import Packrat.Text.Error
import Packrat.Unicode.LowerCase

/-! Parsers of single characters and of literal text. The character classes are ASCII classes. -/

namespace Packrat.Text

def isDigit (c : Char) : Bool := '0' ≤ c && c ≤ '9'

def isLetter (c : Char) : Bool := ('a' ≤ c && c ≤ 'z') || ('A' ≤ c && c ≤ 'Z')

def isIdentifierChar (c : Char) : Bool := isLetter c || isDigit c || c == '_'

/-- Space, tab, line feed and carriage return. -/
def isBlank (c : Char) : Bool := c == ' ' || c == '\t' || c == '\n' || c == '\r'

/-- The case in which texts are compared when case does not count. -/
def foldCase (c : Char) : Char := Unicode.lowerCase c

variable {δ : Type} {M : Memory}

abbrev TextParser (δ : Type) (M : Memory) (α : Type) := Parser Char δ M TextError α

/-- Exactly `expected`. -/
def char (expected : Char) : TextParser δ M Char :=
  .satisfy (· == expected) (.stringMismatch expected.toString)

/-- The characters of `text`, one by one. -/
def spelled (text : String) : List Char → TextParser δ M Unit
  | [] => .constant ()
  | c :: cs =>
    (Parser.satisfy (· == c) (TextError.stringMismatch text)).inspect fun _ => spelled text cs

/-- The literal `text`, which must not be empty. Running out of input part-way is a mismatch. -/
def string (text : String) : TextParser δ M String :=
  if text.isEmpty then .halt (.violation .emptyLiteral)
  else (spelled text text.toList).handle (fun _ => .constant text) fun _ =>
    .failWith (.stringMismatch text)

def foldText (text : String) : String := String.ofList (text.toList.map foldCase)

/-- The filter that folds case, a function with a type of its own. -/
def caseFilter : Filter Char := ⟨"fold_case", fun c => .ok (foldCase c)⟩

/-- The literal `text` in any case; the value is the folded literal. -/
def stringInsensitive (text : String) : TextParser δ M String :=
  .withFilter caseFilter (string (foldText text))

/-- Any character listed in `chars`, which must not be empty. -/
def oneOf (chars : String) : TextParser δ M Char :=
  if chars.isEmpty then .halt (.violation .emptyCharacterSet)
  else .satisfy (fun c => chars.toList.contains c) (.charNotExpected chars)

/-- Any character not listed in `chars`. -/
def noneOf (chars : String) : TextParser δ M Char :=
  .satisfy (fun c => !chars.toList.contains c) (.charExcluded chars)

def anyChar : TextParser δ M Char := .anyItem

def digit : TextParser δ M Char := .satisfy isDigit .digitExpected

def whitespace : TextParser δ M Char := .satisfy isBlank .whitespaceExpected

def underscore : TextParser δ M Char := .satisfy (· == '_') .underscoreExpected

def letter : TextParser δ M Char := .satisfy isLetter .letterExpected

def identifierChar : TextParser δ M Char := .satisfy isIdentifierChar .identifierCharExpected

/-- A letter and the longest run of identifier characters after it. -/
def identifier : TextParser δ M String :=
  Parser.pair letter (Parser.many identifierChar) fun first rest => String.ofList (first :: rest)

def endOfText : TextParser δ M Unit := .endOfInput

end Packrat.Text
