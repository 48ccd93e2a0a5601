import SqlTemplate.Placeholder.Scanner
import SqlTemplate.Resolution.Markers
import SqlTemplate.Text.Blank

/-! An occurrence is a placeholder with the text that takes its place and the values it binds. -/

namespace SqlTemplate

/-- What a placeholder turns out to be once its value is known. -/
inductive Occurrence.Kind where
  /-- A name bound to one value. -/
  | plain
  /-- A name bound to an array. -/
  | array
  /-- An optional fragment, kept or left out. -/
  | optional
  /-- A boolean group. -/
  | dynamic
  deriving DecidableEq

/-- A placeholder with its replacement. -/
structure Occurrence where
  /-- The placeholder. -/
  placeholder : Placeholder
  /-- What it turned out to be. -/
  kind : Occurrence.Kind
  /-- Where the replaced text begins. -/
  start : Nat
  /-- Where the replaced text ends. -/
  stop : Nat
  /-- The text that takes its place. -/
  replacement : Text
  /-- The values bound to the markers of the replacement. -/
  values : List Value

namespace Occurrence

/-- The words for the kinds. -/
def Kind.name : Kind → String
  | plain => "plain"
  | array => "array"
  | optional => "optional"
  | dynamic => "dynamic"

/-- An occurrence that replaces just its placeholder. -/
def replacing (placeholder : Placeholder) (kind : Kind) (markers : Markers) : Occurrence :=
  ⟨placeholder, kind, placeholder.start, placeholder.stop, markers.text, markers.values⟩

/-- Where the spaces and tabs before a position begin. -/
def widenLeft (template : Text) (start : Nat) : Nat :=
  (Text.dropEndWhile isSpaceOrTab (template.take start)).length

/-- An occurrence that leaves out its placeholder, with the spaces and tabs before it. -/
def leavingOut (template : Text) (placeholder : Placeholder) : Occurrence :=
  ⟨placeholder, .optional, widenLeft template placeholder.start, placeholder.stop, [], []⟩

/-- A fragment in which markers take the place of the first mark, and which binds nothing without
one. -/
def fill (fragment : Text) (markers : Markers) : Markers :=
  if fragment.contains Placeholder.optionalMark then
    let before := fragment.takeWhile (· ≠ Placeholder.optionalMark)
    ⟨before ++ markers.text ++ fragment.drop (before.length + 1), markers.values⟩
  else ⟨fragment, []⟩

/-- The occurrence of a plain name bound to a value. -/
def ofPlain (marker : Text) (placeholder : Placeholder) (value : Value) : Occurrence :=
  replacing placeholder (if value.isArray then .array else .plain) (.ofValue marker value)

/-- The occurrence of an optional fragment whose name has a value. -/
def ofOptional (marker : Text) (placeholder : Placeholder) (fragment : Text) (value : Value) :
    Occurrence :=
  replacing placeholder .optional (fill fragment (.ofValue marker value))

end Occurrence

end SqlTemplate
