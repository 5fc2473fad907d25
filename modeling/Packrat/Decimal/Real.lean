import Packrat.Decimal.Shortest

/-! Double precision numbers as text, both ways. -/

namespace Packrat.Decimal

/-- The finite positive number with these exponent and fraction fields. -/
def Binary.ofFields (exponent fraction : Nat) : Binary :=
  if exponent = 0 then ⟨fraction, -1074, false⟩
  else ⟨Nat.pow 2 52 + fraction, (exponent : Int) - 1075, fraction = 0 && exponent != 1⟩

/-- A number in the fewest digits that read back, in positional notation. Zero keeps its sign. -/
def render (x : Float) : String :=
  let bits := x.toBits.toNat
  let exponent := bits / Nat.pow 2 52 % Nat.pow 2 11
  let fraction := bits % Nat.pow 2 52
  let sign := if bits / Nat.pow 2 63 = 1 then "-" else ""
  if exponent = 2047 then if fraction = 0 then sign ++ "inf" else "NaN"
  else if exponent = 0 && fraction = 0 then sign ++ "0"
  else sign ++ (Binary.ofFields exponent fraction).shortest.positional

/-- The number that a text of digits, with or without a point among them, stands for. -/
def read (text : String) : Float :=
  let whole := text.toList.takeWhile (· != '.')
  let fraction := (text.toList.dropWhile (· != '.')).drop 1
  let digits := (whole ++ fraction).foldl (fun n c => 10 * n + (c.toNat - '0'.toNat)) 0
  Float.ofScientific digits true fraction.length

end Packrat.Decimal
