import SqlTemplate.Decimal.Numeral
import SqlTemplate.Json.Fault

/-! A document is a row of tokens: brackets, separators, and values without parts. -/

namespace SqlTemplate.Json

/-- A piece of a document. -/
inductive Token where
  /-- The beginning of an array. -/
  | openArray
  /-- The end of an array. -/
  | closeArray
  /-- The beginning of an object. -/
  | openObject
  /-- The end of an object. -/
  | closeObject
  /-- What separates a name from its value. -/
  | colon
  /-- What separates items and entries. -/
  | comma
  /-- A string, which may also be a name. -/
  | string (content : String)
  /-- A number, a truth value or null. -/
  | scalar (value : Value)
  /-- Bytes that are no token. -/
  | broken (fault : Fault)

/-- Whether a byte stands between tokens. -/
def isLayout (byte : UInt8) : Bool :=
  byte = 0x20 || byte = 0x09 || byte = 0x0A || byte = 0x0D

/-- Whether a byte is a decimal digit. -/
def isDigit (byte : UInt8) : Bool :=
  0x30 ≤ byte && byte ≤ 0x39

/-- Whether a byte is an ASCII letter. -/
def isLetter (byte : UInt8) : Bool :=
  (0x41 ≤ byte && byte ≤ 0x5A) || (0x61 ≤ byte && byte ≤ 0x7A)

/-- Whether a byte may be part of a number. -/
def isNumeric (byte : UInt8) : Bool :=
  isDigit byte || byte = 0x2B || byte = 0x2D || byte = 0x2E || byte = 0x65 || byte = 0x45

/-- The characters of bytes below one hundred and twenty-eight. -/
def ascii (bytes : List UInt8) : List Char :=
  bytes.map fun byte => Char.ofNat byte.toNat

/-! ## Strings -/

/-- The bytes of a string up to its closing quote, escapes included, and what follows the quote. -/
def untilQuote : List UInt8 → Option (List UInt8 × List UInt8)
  | 0x22 :: rest => some ([], rest)
  | 0x5C :: byte :: rest =>
    (untilQuote rest).map fun (content, after) => (0x5C :: byte :: content, after)
  | byte :: rest =>
    if byte < 0x20 then none
    else (untilQuote rest).map fun (content, after) => (byte :: content, after)
  | [] => none

/-- The value of a hexadecimal digit in either case. -/
def hexValue? (byte : UInt8) : Option Nat :=
  if isDigit byte then some (byte.toNat - 0x30)
  else if 0x41 ≤ byte && byte ≤ 0x46 then some (byte.toNat - 0x41 + 10)
  else if 0x61 ≤ byte && byte ≤ 0x66 then some (byte.toNat - 0x61 + 10)
  else none

/-- The number of four hexadecimal digits. -/
def unit? (a b c d : UInt8) : Option Nat := do
  return (((← hexValue? a) * 16 + (← hexValue? b)) * 16 + (← hexValue? c)) * 16 + (← hexValue? d)

/-- Whether a number is the first half of a pair that stands for one character. -/
def isLeading (unit : Nat) : Bool :=
  0xD800 ≤ unit && unit < 0xDC00

/-- Whether a number is the second half of a pair that stands for one character. -/
def isTrailing (unit : Nat) : Bool :=
  0xDC00 ≤ unit && unit < 0xE000

/-- The bytes of the character of a number. -/
def encoded (code : Nat) : List UInt8 :=
  String.utf8EncodeChar (Char.ofNat code)

/-- The byte that an escape of one letter stands for. -/
def shortEscape? (byte : UInt8) : Option UInt8 :=
  match byte with
  | 0x22 => some 0x22
  | 0x5C => some 0x5C
  | 0x2F => some 0x2F
  | 0x62 => some 0x08
  | 0x66 => some 0x0C
  | 0x6E => some 0x0A
  | 0x72 => some 0x0D
  | 0x74 => some 0x09
  | _ => none

/-- The bytes of a string with its escapes replaced. -/
def unescape : List UInt8 → Option (List UInt8)
  | [] => some []
  | 0x5C :: 0x75 :: a :: b :: c :: d :: rest =>
    match unit? a b c d with
    | none => none
    | some unit =>
      if isLeading unit then
        -- The first half of a pair has to be followed by an escape of the second half.
        match rest with
        | 0x5C :: 0x75 :: e :: f :: g :: h :: after =>
          match unit? e f g h with
          | none => none
          | some low =>
            if isTrailing low then
              (unescape after).map
                (encoded (0x10000 + (unit - 0xD800) * 0x400 + (low - 0xDC00)) ++ ·)
            else none
        | _ => none
      else if isTrailing unit then none
      else (unescape rest).map (encoded unit ++ ·)
  | 0x5C :: byte :: rest =>
    match shortEscape? byte with
    | some meant => (unescape rest).map (meant :: ·)
    | none => none
  | byte :: rest => (unescape rest).map (byte :: ·)

/-- The string token after an opening quote, and what follows it. -/
def stringToken (bytes : List UInt8) : Token × List UInt8 :=
  match untilQuote bytes with
  | none => (.broken .malformed, [])
  | some (content, rest) =>
    match unescape content with
    | none => (.broken .malformed, [])
    | some plain =>
      match Utf8.decode plain with
      | .ok text => (.string (String.ofList text), rest)
      | .error fault => (.broken (.undecodable fault), [])

/-! ## Numbers and words -/

/-- The most characters that an integer may have, its sign included. -/
def longestInteger : Nat := 4300

/-- The value of a numeral of some length: an integer that is not too long, or else a finite
floating-point number. -/
def numeralToken (length : Nat) (numeral : Decimal.Numeral) : Token :=
  if numeral.isInteger then
    if length ≤ longestInteger then .scalar (.int numeral.toInt) else .broken .malformed
  else if numeral.toFloat.isInf then .broken .malformed
  else .scalar (.float numeral.toFloat)

/-- The token of the bytes that may be part of a number. -/
def numberToken (bytes : List UInt8) : Token :=
  match Decimal.Numeral.read? (ascii bytes) with
  | some (numeral, []) => numeralToken bytes.length numeral
  | _ => .broken .malformed

/-- The token of a run of letters. -/
def wordToken (bytes : List UInt8) : Token :=
  match String.ofList (ascii bytes) with
  | "null" => .scalar .null
  | "true" => .scalar (.bool true)
  | "false" => .scalar (.bool false)
  | _ => .broken .malformed

/-! ## Rows of tokens -/

/-- The token of a byte that is one by itself. -/
def mark? (byte : UInt8) : Option Token :=
  match byte with
  | 0x5B => some .openArray
  | 0x5D => some .closeArray
  | 0x7B => some .openObject
  | 0x7D => some .closeObject
  | 0x3A => some .colon
  | 0x2C => some .comma
  | _ => none

/-- The token that begins with a byte, and what follows it. -/
def tokenAt (byte : UInt8) (rest : List UInt8) : Token × List UInt8 :=
  match mark? byte with
  | some token => (token, rest)
  | none =>
    if byte = 0x22 then stringToken rest
    else if byte = 0x2D || isDigit byte then
      (numberToken (byte :: rest.takeWhile isNumeric), rest.dropWhile isNumeric)
    else if isLetter byte then
      (wordToken (byte :: rest.takeWhile isLetter), rest.dropWhile isLetter)
    else (.broken .malformed, [])

/-- What follows the closing quote of a string is no longer than the string with it. -/
theorem length_of_untilQuote {bytes content rest : List UInt8}
    (found : untilQuote bytes = some (content, rest)) : rest.length ≤ bytes.length := by
  -- Every step of the reader takes one byte, or two when a byte is escaped.
  fun_induction untilQuote bytes generalizing content rest with
  | case1 => simp_all
  | case2 byte after shorter =>
    obtain ⟨⟨inner, tail⟩, split, same⟩ := Option.map_eq_some_iff.1 found
    cases same
    have := shorter split
    simp only [List.length_cons]; omega
  | case3 => simp at found
  | case4 byte after _ _ _ shorter =>
    obtain ⟨⟨inner, tail⟩, split, same⟩ := Option.map_eq_some_iff.1 found
    cases same
    have := shorter split
    simp only [List.length_cons]; omega
  | case5 => simp at found

/-- What follows a token is no longer than what follows its first byte. -/
theorem length_tokenAt (byte : UInt8) (rest : List UInt8) :
    (tokenAt byte rest).2.length ≤ rest.length := by
  unfold tokenAt
  -- A mark leaves all that follows it, and any other token a part of it.
  split
  · exact Nat.le_refl _
  split
  · unfold stringToken
    split
    · exact Nat.zero_le _
    · rename_i found
      split
      · exact Nat.zero_le _
      · split
        · exact length_of_untilQuote found
        · exact Nat.zero_le _
  split
  · exact (List.dropWhile_suffix isNumeric).length_le
  split
  · exact (List.dropWhile_suffix isLetter).length_le
  · exact Nat.zero_le _

/-- The tokens of some bytes, the last of which is broken when the bytes cannot be read on. -/
def tokens (bytes : List UInt8) : List Token :=
  match bytes with
  | [] => []
  | byte :: rest =>
    if isLayout byte then tokens rest
    else
      let found := tokenAt byte rest
      found.1 :: tokens found.2
termination_by bytes.length
decreasing_by
  · simp
  · have := length_tokenAt byte rest
    simp only [List.length_cons]; omega

end SqlTemplate.Json
