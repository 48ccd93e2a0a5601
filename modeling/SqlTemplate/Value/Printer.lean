import SqlTemplate.Decimal.Layout
import SqlTemplate.Text.Quoted
import SqlTemplate.Value.Basic

/-! A value is shown with its structure, its texts quoted and its numbers in shortest form. -/

namespace SqlTemplate

/-- Numbers from a ten-thousandth up to ten quadrillion are positional, and an exponent has a sign
and at least two digits. -/
def shownFloats : Decimal.Layout where
  lowest := -4
  highest := 15
  wholes := false
  mark := "e"
  plus := true
  width := 2
  infinity := "inf"
  negativeInfinity := "-inf"
  notNumber := "nan"

namespace Value

mutual

/-- A value with its structure shown and its texts quoted. -/
def shown : Value → String
  | null => "None"
  | bool true => "True"
  | bool false => "False"
  | int value => toString value
  | float value => shownFloats.render value
  | str value => Quoted.ofString value
  | bytes value => String.ofList (Quoted.ofBytes value)
  | list items => "[" ++ ", ".intercalate (shownItems items) ++ "]"
  -- A tuple of one item keeps a comma, which tells it from a parenthesized value.
  | tuple [item] => "(" ++ shown item ++ ",)"
  | tuple items => "(" ++ ", ".intercalate (shownItems items) ++ ")"
  | mapping entries => "\x7b" ++ ", ".intercalate (shownEntries entries) ++ "\x7d"
  | noParameters => "mappingproxy(\x7b\x7d)"
  | term operator template parameters =>
    "CombinatorTerm(operator=" ++ shown operator ++ ", template=" ++ shown template ++
      ", parameters=" ++ shown parameters ++ ")"
  | foreign text => text

/-- The items of a sequence, each shown. -/
def shownItems : List Value → List String
  | [] => []
  | item :: rest => shown item :: shownItems rest

/-- The entries of a mapping, each shown as a name and its value. -/
def shownEntries : List (String × Value) → List String
  | [] => []
  | (name, value) :: rest =>
    (Quoted.ofString name ++ ": " ++ shown value) :: shownEntries rest

end

/-- A value as plain text, which is itself for a text and the shown form otherwise. -/
def plain : Value → String
  | str value => value
  | value => value.shown

end Value

end SqlTemplate
