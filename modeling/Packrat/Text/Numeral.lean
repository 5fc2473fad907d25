import Packrat.Text.Character

/-! Numerals. Their value is the text itself; what number it stands for is for the caller to say. -/

namespace Packrat.Text

variable {δ : Type} {M : Memory}

/-- A whole and a fraction with the point between them. -/
def withFraction (whole fraction : String) : String := whole ++ "." ++ fraction

/-- One or more digits. -/
def integer : TextParser δ M String := (Parser.oneOrMore digit).map String.ofList

/-- Digits, a point and digits. -/
def float : TextParser δ M String :=
  integer.inspect fun whole =>
    (char '.').inspect fun _ => integer.map fun fraction => withFraction whole fraction

/-- Digits, and if a point follows, digits after it. -/
def number : TextParser δ M String :=
  Parser.pair integer ((char '.').softSequence integer fun _ fraction => fraction)
    fun whole fraction? =>
      match fraction? with
      | some fraction => withFraction whole fraction
      | none => whole

end Packrat.Text
