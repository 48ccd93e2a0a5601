/-! The shortest decimal that reads back as a given binary floating-point number. -/

namespace SqlTemplate.Decimal

/-- A positive decimal number: a significand times a power of ten. -/
structure Scientific where
  /-- The significand, whose digits are the digits written. -/
  significand : Nat
  /-- The power of ten that the significand is multiplied by. -/
  exponent : Int

/-- A finite binary number: a significand times a power of two. -/
structure Binary where
  /-- The significand, below two to the fifty-third. -/
  significand : Nat
  /-- The power of two that the significand is multiplied by. -/
  exponent : Int
  /-- Whether the neighbour below is half as far away as the one above. -/
  narrowBelow : Bool

/-- The magnitude held by the low sixty-three bits of a finite double. -/
def Binary.ofBits (bits : UInt64) : Binary :=
  let fraction := (bits &&& 0xFFFFFFFFFFFFF).toNat
  let field := ((bits >>> 52) &&& 0x7FF).toNat
  -- The smallest exponent has no hidden bit and shares its scale with the next one.
  if field = 0 then ⟨fraction, -1074, false⟩
  else ⟨0x10000000000000 + fraction, (field : Int) - 1075, fraction = 0 && field ≠ 1⟩

/-- The number of decimal digits of a natural number, where zero has none. -/
def digitCount (n : Nat) : Nat :=
  if n = 0 then 0 else (Nat.toDigits 10 n).length

/-- The power of ten at or below a positive fraction. -/
def magnitude (numerator denominator : Nat) : Int :=
  if denominator ≤ numerator then (digitCount (numerator / denominator) : Int) - 1
  else
    -- The first power of ten that lifts the fraction to one is the first at or above its inverse.
    let inverse := (denominator + numerator - 1) / numerator
    (0 : Int) - digitCount (inverse - 1)

/-- The significand without its trailing zeros, at most as many as the count given. -/
def dropZeros : Nat → Scientific → Scientific
  | 0, number => number
  | count + 1, number =>
    if number.significand % 10 = 0 then
      dropZeros count ⟨number.significand / 10, number.exponent + 1⟩
    else number

namespace Binary

/-- The number as a fraction of two natural numbers, both multiplied by four. -/
def fraction (number : Binary) : Nat × Nat :=
  let scale := number.exponent - 2
  if scale < 0 then (4 * number.significand, Nat.pow 2 (-scale).toNat)
  else (4 * number.significand * Nat.pow 2 scale.toNat, 1)

/-- The decimal with the given digit count that reads back as the number, the nearer of two. -/
def onGrid? (number : Binary) (digits : Nat) : Option Scientific :=
  let (numerator, denominator) := number.fraction
  let exponent := magnitude numerator denominator - digits + 1
  -- One step of the grid is the power of ten, and one unit of the numerator a quarter of the
  -- distance between neighbouring doubles.
  let unit := numerator / (4 * number.significand)
  let up := Nat.pow 10 (-exponent).toNat
  let step := denominator * Nat.pow 10 exponent.toNat
  let value := numerator * up
  let above := 2 * unit * up
  let below := (if number.narrowBelow then 1 else 2) * unit * up
  let low := value / step
  let even := number.significand % 2 = 0
  let lowGap := value - low * step
  let highGap := (low + 1) * step - value
  let lowReads := lowGap < below || (even && lowGap = below)
  let highReads := highGap < above || (even && highGap = above)
  let lowNearer := lowGap < highGap || (lowGap = highGap && low % 2 = 0)
  if lowReads && (lowNearer || !highReads) then some ⟨low, exponent⟩
  else if highReads then some ⟨low + 1, exponent⟩
  else none

/-- The shortest decimal that reads back as a positive number, the nearest of those. -/
def shortest (number : Binary) : Scientific :=
  -- Seventeen digits always suffice, so the first grid that holds a hit is found.
  match (List.range 17).findSome? fun digits => number.onGrid? (digits + 1) with
  | some decimal => dropZeros 17 decimal
  | none => ⟨0, 0⟩

end Binary

end SqlTemplate.Decimal
