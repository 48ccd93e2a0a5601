import SqlTemplate.Decimal.Layout

/-! A binary number is written with a fixed count of places, the last of which is rounded. -/

namespace SqlTemplate.Decimal

/-- A quotient rounded to the nearest natural number, and to the even one of two. -/
def roundDiv (numerator denominator : Nat) : Nat :=
  let low := numerator / denominator
  let twice := 2 * (numerator % denominator)
  if twice < denominator || (twice = denominator && low % 2 = 0) then low else low + 1

/-- The whole part and the places of a number that is counted in units of the last place. -/
def withPoint (places : Nat) (keepsPoint : Bool) (units : Nat) : String :=
  let digits := (padZeros (places + 1) (toString units)).toList
  let whole := String.ofList (digits.take (digits.length - places))
  if places = 0 && !keepsPoint then whole
  else whole ++ "." ++ String.ofList (digits.drop (digits.length - places))

/-- Decimal places without the zeros they end in, and without the point when none is left. -/
def trimPlaces (digits : String) : String :=
  if digits.toList.contains '.' then
    String.ofList (((digits.toList.reverse.dropWhile (· = '0')).dropWhile (· = '.')).reverse)
  else digits

/-- A power of ten as an exponent mark, with a sign and at least two digits. -/
def signedExponent (power : Int) : String :=
  "e" ++ (if power < 0 then "-" else "+") ++ padZeros 2 (toString power.natAbs)

namespace Binary

/-- The number as a fraction: what stands above the line. -/
def numerator (number : Binary) : Nat :=
  number.significand * Nat.pow 2 number.exponent.toNat

/-- The number as a fraction: what stands below the line. -/
def denominator (number : Binary) : Nat :=
  Nat.pow 2 (-number.exponent).toNat

/-- The number times a power of ten, rounded. -/
def scaled (number : Binary) (places : Int) : Nat :=
  roundDiv (number.numerator * Nat.pow 10 places.toNat)
    (number.denominator * Nat.pow 10 (-places).toNat)

/-- The number rounded to the given count of digits, with the power of ten of the first one. -/
def rounded (number : Binary) (count : Nat) : Nat × Int :=
  if number.significand = 0 then (0, 0)
  else
    let power := magnitude number.numerator number.denominator
    let digits := number.scaled ((count : Int) - 1 - power)
    -- Rounding up a row of nines gives one digit more.
    if digits = Nat.pow 10 count then (Nat.pow 10 (count - 1), power + 1) else (digits, power)

/-- The number in positional notation. -/
def fixed (number : Binary) (places : Nat) (keepsPoint : Bool) : String :=
  withPoint places keepsPoint (number.scaled places)

/-- The number with one digit before the point, followed by its exponent. -/
def exponential (number : Binary) (places : Nat) (keepsPoint : Bool) : String :=
  let (digits, power) := number.rounded (places + 1)
  withPoint places keepsPoint digits ++ signedExponent power

/-- The number with the given count of digits, positional unless its exponent is below minus four
or not below that count. Zeros at the end of the places are left out unless the point is kept. -/
def general (number : Binary) (count : Nat) (keepsPoint : Bool) : String :=
  let count := max count 1
  let (digits, power) := number.rounded count
  let shorten := if keepsPoint then id else trimPlaces
  if -4 ≤ power && power < count then
    shorten (withPoint ((count : Int) - 1 - power).toNat keepsPoint digits)
  else shorten (withPoint (count - 1) keepsPoint digits) ++ signedExponent power

end Binary

end SqlTemplate.Decimal
