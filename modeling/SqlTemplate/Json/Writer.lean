import SqlTemplate.Json.Base64
import SqlTemplate.Value.Printer

/-! A value is written as a document without any layout, every kind of value in some form. -/

namespace SqlTemplate.Json

/-- Numbers from a hundred-thousandth up to ten quadrillion are positional, an exponent has a minus
sign only, and what is no finite number is null. -/
def writtenFloats : Decimal.Layout where
  lowest := -5
  highest := 15
  wholes := false
  mark := "e"
  plus := false
  width := 1
  infinity := "null"
  negativeInfinity := "null"
  notNumber := "null"

/-- A character of a string: quotes, backslashes and control characters are escaped. -/
def writeChar (c : Char) : Text :=
  match c with
  | '"' => ['\\', '"']
  | '\\' => ['\\', '\\']
  | '\x08' => ['\\', 'b']
  | '\x0C' => ['\\', 'f']
  | '\n' => ['\\', 'n']
  | '\r' => ['\\', 'r']
  | '\t' => ['\\', 't']
  | _ => if c.toNat < 0x20 then ['\\', 'u'] ++ Quoted.hex 4 c.toNat else [c]

/-- A string between quotes. -/
def writeString (content : String) : Text :=
  '"' :: content.toList.flatMap writeChar ++ ['"']

mutual

/-- A value as a document. -/
def write : Value → Text
  | .null => ['n', 'u', 'l', 'l']
  | .bool true => ['t', 'r', 'u', 'e']
  | .bool false => ['f', 'a', 'l', 's', 'e']
  | .int n => (toString n).toList
  | .float x => (writtenFloats.render x).toList
  | .str content => writeString content
  | .bytes content => '"' :: Base64.encode content ++ ['"']
  | .list items => '[' :: writeItems items ++ [']']
  | .tuple items => '[' :: writeItems items ++ [']']
  | .mapping entries => '\x7b' :: writeEntries entries ++ ['\x7d']
  -- What has no form of its own is written as a string that shows it.
  | .noParameters => writeString "\x7b\x7d"
  | .term operator template parameters =>
    '[' :: write operator ++ ',' :: write template ++ ',' :: write parameters ++ [']']
  | .foreign text => writeString text

/-- Values with a comma between them. -/
def writeItems : List Value → Text
  | [] => []
  | [item] => write item
  | item :: rest => write item ++ ',' :: writeItems rest

/-- Names, each with a colon and its value, with a comma between them. -/
def writeEntries : List (String × Value) → Text
  | [] => []
  | [(name, value)] => writeString name ++ ':' :: write value
  | (name, value) :: rest => writeString name ++ ':' :: write value ++ ',' :: writeEntries rest

end

end SqlTemplate.Json
