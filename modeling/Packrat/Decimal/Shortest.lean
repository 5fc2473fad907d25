/-! The shortest decimal that reads back as a given binary number: of the decimals that round to it,
those with the fewest digits, and of these the nearest. -/

namespace Packrat.Decimal

/-- A positive binary number `mantissa * 2 ^ exponent`. The next number above is one unit of the last
place away; the next one below is too, or half as far where the number is `narrow`. -/
structure Binary where
  mantissa : Nat
  exponent : Int
  narrow : Bool
  deriving DecidableEq, Repr

/-- The decimal number `digits * 10 ^ exponent`. -/
structure Scientific where
  digits : Nat
  exponent : Int
  deriving DecidableEq, Repr

namespace Binary

/-- On the grid of multiples of `10 ^ exponent`, one unit of the last place is the first number over
the second. -/
def unitOn (value : Binary) (exponent : Int) : Nat × Nat :=
  (Nat.pow 2 value.exponent.toNat * Nat.pow 10 (-exponent).toNat,
    Nat.pow 2 (-value.exponent).toNat * Nat.pow 10 exponent.toNat)

/-- The multiple of `10 ^ exponent` that rounds to the number, the nearer one if there are two and
the greater one if they are equally near. Half way between two numbers, the even one has the point. -/
def nearest? (value : Binary) (exponent : Int) : Option Nat :=
  let (unit, scale) := value.unitOn exponent
  let low := value.mantissa * unit / scale
  let below := value.mantissa * unit % scale
  let above := scale - below
  let within := fun (distance : Nat) =>
    if value.mantissa % 2 == 0 then decide (distance ≤ unit) else decide (distance < unit)
  let lowRounds := within ((if value.narrow then 4 else 2) * below)
  let highRounds := within (2 * above)
  if lowRounds && (!highRounds || below < above) then some low
  else if highRounds then some (low + 1)
  else none

/-- Counts how often a number below one is multiplied by ten before it reaches one. -/
def leadingZeros (denominator : Nat) : (fuel : Nat) → (numerator : Nat) → Nat
  | 0, _ => 0
  | fuel + 1, numerator =>
    if denominator ≤ numerator * 10 then 0 else leadingZeros denominator fuel (numerator * 10) + 1

/-- The least exponent of ten above the number. -/
def magnitude (value : Binary) : Int :=
  let (unit, scale) := value.unitOn 0
  let numerator := value.mantissa * unit
  if scale ≤ numerator then ((Nat.toDigits 10 (numerator / scale)).length : Int)
  else -(leadingZeros scale scale numerator : Int)

/-- The first of the grids with `count`, `count + 1`, … digits that has a point for the number. -/
def shortestFrom (value : Binary) (magnitude : Int) : (fuel : Nat) → (count : Nat) → Scientific
  | 0, count => ⟨(value.nearest? (magnitude - count)).getD 0, magnitude - count⟩
  | fuel + 1, count =>
    match value.nearest? (magnitude - count) with
    | some digits => ⟨digits, magnitude - count⟩
    | none => shortestFrom value magnitude fuel (count + 1)

/-- The shortest decimal that reads back. Seventeen digits are enough for 53 binary ones. -/
def shortest (value : Binary) : Scientific := value.shortestFrom value.magnitude 16 1

end Binary

/-- A decimal in positional notation, without an exponent and without an idle fraction. -/
def Scientific.positional (number : Scientific) : String :=
  let digits := Nat.toDigits 10 number.digits
  if 0 ≤ number.exponent then
    String.ofList (digits ++ List.replicate number.exponent.toNat '0')
  else
    let places := (-number.exponent).toNat
    let padded := List.replicate (places + 1 - digits.length) '0' ++ digits
    let whole := padded.take (padded.length - places)
    let fraction := ((padded.drop (padded.length - places)).reverse.dropWhile (· == '0')).reverse
    String.ofList (if fraction.isEmpty then whole else whole ++ '.' :: fraction)

end Packrat.Decimal
