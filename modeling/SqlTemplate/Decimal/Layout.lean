import SqlTemplate.Decimal.Shortest

/-! A float layout says where positional notation ends and how an exponent is written. -/

namespace SqlTemplate.Decimal

/-- The decisions of one output format about floating-point numbers. -/
structure Layout where
  /-- The smallest power of ten whose numbers are written positionally. -/
  lowest : Int
  /-- The largest power of ten whose numbers are written positionally. -/
  highest : Int
  /-- Whether a larger number is written digit by digit too, when its last digit counts the ones. -/
  wholes : Bool
  /-- What precedes an exponent. -/
  mark : String
  /-- Whether an exponent that is not negative carries a plus sign. -/
  plus : Bool
  /-- The least number of digits of an exponent. -/
  width : Nat
  /-- The text of positive infinity, and of its negation after a minus sign. -/
  infinity : String
  /-- The text of negative infinity. -/
  negativeInfinity : String
  /-- The text of a value that is not a number. -/
  notNumber : String

/-- Enough zeros before a text to give it the least length asked for. -/
def padZeros (width : Nat) (digits : String) : String :=
  "".pushn '0' (width - digits.length) ++ digits

/-- A positive decimal in positional notation, with at least one digit after the point. -/
def positional (number : Scientific) : String :=
  let digits := toString number.significand
  if 0 ≤ number.exponent then digits.pushn '0' number.exponent.toNat ++ ".0"
  else
    let places := (-number.exponent).toNat
    let padded := (padZeros (places + 1) digits).toList
    String.ofList (padded.take (padded.length - places)) ++ "." ++
      String.ofList (padded.drop (padded.length - places))

namespace Layout

/-- A power of ten as an exponent mark with sign and digits. -/
def exponentMark (layout : Layout) (power : Int) : String :=
  let sign := if power < 0 then "-" else if layout.plus then "+" else ""
  layout.mark ++ sign ++ padZeros layout.width (toString power.natAbs)

/-- A positive decimal with one digit before the point, followed by its exponent. -/
def scientific (layout : Layout) (number : Scientific) : String :=
  let digits := (toString number.significand).toList
  let power := number.exponent + digits.length - 1
  let fraction := digits.drop 1
  String.ofList (digits.take 1) ++
    (if fraction.isEmpty then "" else "." ++ String.ofList fraction) ++
    layout.exponentMark power

/-- A floating-point number in the shortest form that reads back, as the layout writes it. -/
def render (layout : Layout) (value : Float) : String :=
  let bits := value.toBits
  let negative := bits >>> 63 = 1
  if value.isNaN then layout.notNumber
  else if value.isInf then if negative then layout.negativeInfinity else layout.infinity
  else
    let sign := if negative then "-" else ""
    if bits <<< 1 = 0 then sign ++ "0.0"
    else
      let number := (Binary.ofBits bits).shortest
      let power := number.exponent + (toString number.significand).length - 1
      if layout.lowest ≤ power && power ≤ layout.highest then sign ++ positional number
      else if layout.wholes && number.exponent = 0 then sign ++ toString number.significand
      else sign ++ layout.scientific number

end Layout

end SqlTemplate.Decimal
