import Packrat.Unicode.Unprintable
import Packrat.Unicode.Combining

/-! Quoted text: a string between double quotes, with what cannot be seen on its own spelled out. -/

namespace Packrat.Text

/-- The hexadecimal digits of a number, lower case and without leading zeros. -/
def hexadecimal (n : Nat) : String := String.ofList (Nat.toDigits 16 n)

/-- The quoted spelling of one character. A single quote needs none. -/
def quoteChar (c : Char) : String :=
  match c with
  | '\x00' => "\\0"
  | '\t' => "\\t"
  | '\n' => "\\n"
  | '\r' => "\\r"
  | '"' => "\\\""
  | '\\' => "\\\\"
  | c =>
    if Unicode.isCombining c || !Unicode.isPrintable c then
      "\\u\x7b" ++ hexadecimal c.toNat ++ "\x7d"
    else c.toString

/-- A string as it is shown inside messages. -/
def quote (text : String) : String :=
  "\"" ++ String.join (text.toList.map quoteChar) ++ "\""

end Packrat.Text
