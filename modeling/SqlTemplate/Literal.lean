import SqlTemplate.Dialect
import SqlTemplate.Report
import SqlTemplate.Text.Similarity

/-! A literal writes a value into a query, as the query's dialect has it. -/

namespace SqlTemplate

/-- What a literal stands for. -/
inductive Literal where
  /-- No value. -/
  | null
  /-- A truth value. -/
  | truth (value : Bool)
  /-- A number, as it is written in every dialect. -/
  | number (written : String)
  /-- A text. -/
  | string (content : Text)
  /-- A sequence of bytes. -/
  | bytes (content : List UInt8)
  /-- Values side by side. -/
  | row (items : List Literal)
  /-- An array of values. -/
  | array (items : List Literal)
  /-- A map from texts to values. -/
  | map (keys : List String) (items : List Literal)
  /-- Values with names that need no quotes. -/
  | record (fields : List (String × Literal))

/-- Why a value or an identifier is not escaped. -/
inductive EscapeFault where
  /-- No dialect has the name. -/
  | unknownDialect (name : String)
  /-- A term has no parameters of its own, and what stands for them has no literal. -/
  | noLiteral
  /-- No bytes make no number, which the dialect would write. -/
  | noNumber

/-- The report of a value or an identifier that is not escaped, which suggests a name for the one
that no dialect has. -/
def EscapeFault.report : EscapeFault → Report
  | unknownDialect name =>
    let bare := Dialect.bareName name
    let hint := match Similarity.closest? (Dialect.all.map Prod.fst) bare with
      | some meant => s!" Did you mean {meant}?"
      | none => ""
    .plain "ValueError" (s!"Unknown dialect '{String.ofList bare}'." ++ hint)
  | noLiteral => .plain "ValueError" "Cannot convert \x7b\x7d"
  | noNumber => .plain "ValueError" "invalid literal for int() with base 16: ''"

namespace Dialect

/-- A text in quotes. -/
def writeString (dialect : Dialect) (content : Text) : String :=
  String.ofList ('\'' :: content.flatMap dialect.stringChar ++ ['\''])

/-- A sequence of bytes. -/
def writeBytes (dialect : Dialect) (content : List UInt8) : Except EscapeFault String :=
  match dialect.bytes, content with
  | .number, [] => .error .noNumber
  | .number, content =>
    .ok (toString (content.foldl (fun number byte => 256 * number + byte.toNat) 0))
  | .digits opening closing, content =>
    .ok (opening ++ String.ofList (content.flatMap fun byte => Quoted.hex 2 byte.toNat) ++ closing)

/-- A call of a function on what is written already. -/
def writeCall (function : String) (arguments : List String) : String :=
  function ++ "(" ++ ", ".intercalate arguments ++ ")"

/-- An array of what is written already. -/
def writeArray (dialect : Dialect) (items : List String) : String :=
  dialect.array.1 ++ ", ".intercalate items ++ dialect.array.2

/-- A map from keys to values, all of which are written already. -/
def writeMap (dialect : Dialect) (keys items : List String) : String :=
  match dialect.map with
  | .arrays function => writeCall function [dialect.writeArray keys, dialect.writeArray items]
  | .pairs function =>
    writeCall function ((keys.zip items).flatMap fun (key, item) => [key, item])

mutual

/-- A literal as a dialect writes it. -/
def write (dialect : Dialect) : Literal → Except EscapeFault String
  | .null => .ok "NULL"
  | .truth true => .ok dialect.truths.1
  | .truth false => .ok dialect.truths.2
  | .number written => .ok written
  | .string content => .ok (dialect.writeString content)
  | .bytes content => dialect.writeBytes content
  | .row items => (dialect.writeItems items).map (writeCall "")
  | .array items => (dialect.writeItems items).map dialect.writeArray
  | .map keys items =>
    (dialect.writeItems items).map
      (dialect.writeMap (keys.map fun key => dialect.writeString key.toList))
  | .record fields => (dialect.writeFields fields).map (writeCall "STRUCT")

/-- The items of a literal, each written. -/
def writeItems (dialect : Dialect) : List Literal → Except EscapeFault (List String)
  | [] => .ok []
  | item :: rest => do return (← dialect.write item) :: (← dialect.writeItems rest)

/-- The fields of a record, each written before its name. -/
def writeFields (dialect : Dialect) :
    List (String × Literal) → Except EscapeFault (List String)
  | [] => .ok []
  | (name, item) :: rest => do
    return ((← dialect.write item) ++ " AS " ++ name) :: (← dialect.writeFields rest)

end

end Dialect

/-- Negative numbers are positional from a millionth up, and further up as long as no zero fills a
place. Their exponents follow a capital letter, with a sign and no zeros. -/
def negativeFloats : Decimal.Layout where
  lowest := -6
  highest := 15
  wholes := true
  mark := "E"
  plus := true
  width := 1
  infinity := "Infinity"
  negativeInfinity := "-Infinity"
  notNumber := "NaN"

/-- A number as all dialects write it. A negative one is a minus sign and a decimal of its own form,
and any other is written as it is shown. -/
def literalFloat (x : Float) : String :=
  if x < 0 then negativeFloats.render x else shownFloats.render x

namespace Value

mutual

/-- The literal of a value. -/
def literal : Value → Except EscapeFault Literal
  | null => .ok .null
  | bool value => .ok (.truth value)
  | int n => .ok (.number (toString n))
  | float x => .ok (if x.isNaN then .null else .number (literalFloat x))
  | str text => .ok (.string text.toList)
  | bytes content => .ok (.bytes content)
  | list items => (literals items).map .array
  | tuple items => (literals items).map .row
  | mapping entries => (literalsOfEntries entries).map (.map (Entries.names entries))
  | term operator template parameters => do
    return .record [("operator", ← literal operator), ("template", ← literal template),
      ("parameters", ← literal parameters)]
  | foreign text => .ok (.record [("text", .string text.toList)])
  | noParameters => .error .noLiteral

/-- The literals of some values. -/
def literals : List Value → Except EscapeFault (List Literal)
  | [] => .ok []
  | item :: rest => do return (← literal item) :: (← literals rest)

/-- The literals of the values of a mapping. -/
def literalsOfEntries : List (String × Value) → Except EscapeFault (List Literal)
  | [] => .ok []
  | (_, item) :: rest => do return (← literal item) :: (← literalsOfEntries rest)

end

end Value

end SqlTemplate
