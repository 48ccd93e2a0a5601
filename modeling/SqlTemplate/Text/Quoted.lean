import SqlTemplate.Text.Basic
import SqlTemplate.Text.Printable

/-! Quoted text shows every character, the hidden ones by their number. -/

namespace SqlTemplate.Quoted

/-- A number in lower-case hexadecimal with at least the given count of digits. -/
def hex (width n : Nat) : Text :=
  let digits := Nat.toDigits 16 n
  List.replicate (width - digits.length) '0' ++ digits

/-- The quote of a text: the apostrophe, unless only that one occurs in it. -/
def quoteFor (holdsApostrophe holdsQuote : Bool) : Char :=
  if holdsApostrophe && !holdsQuote then '"' else '\''

/-- The escapes that quoted text and quoted bytes share. -/
def shortEscape? (quote c : Char) : Option Text :=
  if c = quote || c = '\\' then some ['\\', c]
  else if c = '\n' then some ['\\', 'n']
  else if c = '\r' then some ['\\', 'r']
  else if c = '\t' then some ['\\', 't']
  else none

/-- A hidden character by its number, in the shortest of three widths. -/
def numbered (c : Char) : Text :=
  if c.toNat < 0x100 then ['\\', 'x'] ++ hex 2 c.toNat
  else if c.toNat < 0x10000 then ['\\', 'u'] ++ hex 4 c.toNat
  else ['\\', 'U'] ++ hex 8 c.toNat

/-- A character as it stands between quotes. -/
def escapeChar (quote c : Char) : Text :=
  match shortEscape? quote c with
  | some escape => escape
  | none => if isPrintable c then [c] else numbered c

/-- A text between quotes. -/
def ofText (text : Text) : Text :=
  let quote := quoteFor (text.contains '\'') (text.contains '"')
  quote :: text.flatMap (escapeChar quote) ++ [quote]

/-- A byte as it stands between quotes. -/
def escapeByte (quote : Char) (byte : UInt8) : Text :=
  let c := Char.ofNat byte.toNat
  match shortEscape? quote c with
  | some escape => escape
  | none => if 32 ≤ byte && byte < 127 then [c] else ['\\', 'x'] ++ hex 2 byte.toNat

/-- A sequence of bytes between quotes, marked as such. -/
def ofBytes (bytes : List UInt8) : Text :=
  let quote := quoteFor (bytes.contains 39) (bytes.contains 34)
  'b' :: quote :: bytes.flatMap (escapeByte quote) ++ [quote]

/-- A string between quotes. -/
def ofString (text : String) : String :=
  String.ofList (ofText text.toList)

end SqlTemplate.Quoted
