import SqlTemplate.Decimal.Shortest

/-! A numeral is a decimal number as it is written: a sign, digits, a fraction and an exponent. -/

namespace SqlTemplate.Decimal

/-- A written number. -/
structure Numeral where
  /-- Whether a minus sign precedes it. -/
  isNegative : Bool
  /-- All its digits before the exponent, as one natural number. -/
  significand : Nat
  /-- The power of ten that the digits are multiplied by. -/
  exponent : Int
  /-- Whether it has neither fraction nor exponent. -/
  isInteger : Bool

/-- The natural number of some decimal digits. -/
def ofDigits (digits : List Char) : Nat :=
  digits.foldl (fun n c => n * 10 + (c.toNat - '0'.toNat)) 0

namespace Numeral

/-- The digits before the point: a zero alone, or digits of which the first is no zero. -/
def readWhole (text : List Char) : Option (List Char × List Char) :=
  match text with
  | '0' :: rest => some (['0'], rest)
  | _ =>
    let digits := text.takeWhile Char.isDigit
    if digits.isEmpty then none else some (digits, text.dropWhile Char.isDigit)

/-- The digits after a point, which must not be missing. -/
def readFraction (text : List Char) : Option (List Char × List Char) :=
  match text with
  | '.' :: rest =>
    let digits := rest.takeWhile Char.isDigit
    if digits.isEmpty then none else some (digits, rest.dropWhile Char.isDigit)
  | _ => some ([], text)

/-- The exponent after its letter, with an optional sign and digits that must not be missing. -/
def readExponent (text : List Char) : Option (Option Int × List Char) :=
  match text with
  | letter :: rest =>
    if letter = 'e' || letter = 'E' then
      let (isNegative, unsigned) := match rest with
        | '-' :: digits => (true, digits)
        | '+' :: digits => (false, digits)
        | _ => (false, rest)
      let digits := unsigned.takeWhile Char.isDigit
      if digits.isEmpty then none
      else
        let size : Int := ofDigits digits
        some (some (if isNegative then -size else size), unsigned.dropWhile Char.isDigit)
    else some (none, text)
  | [] => some (none, [])

/-- The numeral at the beginning of a text, with what follows it. -/
def read? (text : List Char) : Option (Numeral × List Char) := do
  let (isNegative, unsigned) := match text with
    | '-' :: rest => (true, rest)
    | _ => (false, text)
  let (whole, afterWhole) ← readWhole unsigned
  let (fraction, afterFraction) ← readFraction afterWhole
  let (exponent, rest) ← readExponent afterFraction
  return (⟨isNegative, ofDigits (whole ++ fraction), exponent.getD 0 - fraction.length,
    fraction.isEmpty && exponent.isNone⟩, rest)

/-- The nearest floating-point number, which is infinite for a numeral past the largest one. -/
def toFloat (numeral : Numeral) : Float :=
  let size := numeral.exponent + digitCount numeral.significand
  let magnitude :=
    if numeral.significand = 0 || size < -400 then 0.0
    else if 400 < size then 1.0 / 0.0
    else Float.ofScientific numeral.significand (numeral.exponent < 0) numeral.exponent.natAbs
  if numeral.isNegative then -magnitude else magnitude

/-- The integer of a numeral with neither fraction nor exponent. -/
def toInt (numeral : Numeral) : Int :=
  if numeral.isNegative then -(numeral.significand : Int) else numeral.significand

end Numeral

end SqlTemplate.Decimal
