import SqlTemplate.Text.Basic
import SqlTemplate.Value.Basic

/-! Markers take the place of a value in a query, one for each value bound. -/

namespace SqlTemplate

/-- A text of markers beside the values bound to them, in order. -/
structure Markers where
  /-- The text that goes into the query. -/
  text : Text
  /-- The values bound to the markers in the text. -/
  values : List Value

namespace Markers

/-- A parenthesized group of as many markers as asked for. -/
def group (marker : Text) (count : Nat) : Text :=
  '(' :: [',', ' '].intercalate (List.replicate count marker) ++ [')']

/-- One marker for a single value, and a group of one marker per item for an array. -/
def ofValue (marker : Text) (value : Value) : Markers :=
  match value.items? with
  | some items => ⟨group marker items.length, items⟩
  | none => ⟨marker, [value]⟩

end Markers

end SqlTemplate
