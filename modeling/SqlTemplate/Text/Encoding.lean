import SqlTemplate.Text.Quoted

/-! An encoding reads bytes as text, and says where and why it cannot. -/

namespace SqlTemplate

/-- The bytes that an encoding cannot read, with their place and the reason. -/
structure DecodeFault where
  /-- The encoding's name. -/
  codec : String
  /-- The place of the first bad byte. -/
  start : Nat
  /-- The bad bytes. -/
  bytes : List UInt8
  /-- Why they cannot be read. -/
  reason : String

/-- The words for bytes that cannot be read, which name a single byte but only count several. -/
def DecodeFault.message (fault : DecodeFault) : String :=
  let place := match fault.bytes with
    | [byte] => s!"byte 0x{String.ofList (Quoted.hex 2 byte.toNat)} in position {fault.start}"
    | bytes => s!"bytes in position {fault.start}-{fault.start + bytes.length - 1}"
  s!"'{fault.codec}' codec can't decode {place}: {fault.reason}"

/-- The ways to read bytes as text. -/
inductive Encoding where
  /-- One to four bytes a character. -/
  | utf8
  /-- The same, after an optional mark at the beginning. -/
  | utf8Marked
  /-- One byte a character, every byte being one. -/
  | latin1
  /-- One byte a character, in the lower half only. -/
  | ascii

/-- The first byte of a sequence: how many follow, the bounds of the next, and its own bits. -/
structure Utf8.Lead where
  /-- How many bytes follow. -/
  count : Nat
  /-- The least next byte. -/
  least : UInt8
  /-- The greatest next byte. -/
  greatest : UInt8
  /-- The bits that the first byte adds. -/
  bits : Nat

namespace Utf8

/-- What a first byte announces, unless no sequence begins with it. -/
def lead? (byte : UInt8) : Option Lead :=
  if byte < 0x80 then some ⟨0, 0, 0, byte.toNat⟩
  else if byte < 0xC2 then none
  else if byte < 0xE0 then some ⟨1, 0x80, 0xBF, byte.toNat - 0xC0⟩
  -- The bounds shut out overlong forms, surrogates, and numbers past the last code point.
  else if byte < 0xF0 then
    some ⟨2, if byte = 0xE0 then 0xA0 else 0x80, if byte = 0xED then 0x9F else 0xBF,
      byte.toNat - 0xE0⟩
  else if byte < 0xF5 then
    some ⟨3, if byte = 0xF0 then 0x90 else 0x80, if byte = 0xF4 then 0x8F else 0xBF,
      byte.toNat - 0xF0⟩
  else none

/-- The bytes that may follow a first byte, as far as they are well formed. -/
def followers (lead : Lead) (rest : List UInt8) : List UInt8 :=
  match rest.take lead.count with
  | [] => []
  | next :: others =>
    if lead.least ≤ next && next ≤ lead.greatest then
      next :: others.takeWhile fun byte => 0x80 ≤ byte && byte < 0xC0
    else []

/-- The text of bytes that begin at a given place. -/
def decodeFrom (place : Nat) (bytes : List UInt8) : Except DecodeFault Text :=
  match bytes with
  | [] => .ok []
  | byte :: rest =>
    match lead? byte with
    | none => .error ⟨"utf-8", place, [byte], "invalid start byte"⟩
    | some lead =>
      let next := followers lead rest
      if next.length = lead.count then
        let code := next.foldl (fun code byte => code * 64 + (byte.toNat - 0x80)) lead.bits
        (decodeFrom (place + 1 + lead.count) (rest.drop lead.count)).map (Char.ofNat code :: ·)
      else
        -- A sequence that is well formed up to the end of the bytes is cut off, not malformed.
        let reason := if next.length = rest.length then "unexpected end of data"
          else "invalid continuation byte"
        .error ⟨"utf-8", place, byte :: next, reason⟩
termination_by bytes.length
decreasing_by simp only [List.length_drop, List.length_cons]; omega

/-- The text of a sequence of bytes. -/
def decode (bytes : List UInt8) : Except DecodeFault Text :=
  decodeFrom 0 bytes

/-- The mark that may precede a text. -/
def mark : List UInt8 :=
  [0xEF, 0xBB, 0xBF]

/-- The text of bytes after an optional mark, where an unfinished mark is no text. -/
def decodeMarked (bytes : List UInt8) : Except DecodeFault Text :=
  if mark.isPrefixOf bytes then decode (bytes.drop mark.length)
  else if bytes.isPrefixOf mark then .ok []
  else decode bytes

end Utf8

namespace Encoding

/-- The text of bytes below one hundred and twenty-eight that begin at a given place. -/
def asciiFrom (place : Nat) : List UInt8 → Except DecodeFault Text
  | [] => .ok []
  | byte :: rest =>
    if byte < 0x80 then (asciiFrom (place + 1) rest).map (Char.ofNat byte.toNat :: ·)
    else .error ⟨"ascii", place, [byte], "ordinal not in range(128)"⟩

/-- The text of a sequence of bytes. -/
def decode : Encoding → List UInt8 → Except DecodeFault Text
  | utf8, bytes => Utf8.decode bytes
  | utf8Marked, bytes => Utf8.decodeMarked bytes
  | latin1, bytes => .ok (bytes.map fun byte => Char.ofNat byte.toNat)
  | ascii, bytes => asciiFrom 0 bytes

/-- The encoding of a name in lower case with hyphens. -/
def named? : String → Option Encoding
  | "utf-8" => some utf8
  | "utf-8-sig" => some utf8Marked
  | "latin-1" => some latin1
  | "ascii" => some ascii
  | _ => none

end Encoding

end SqlTemplate
