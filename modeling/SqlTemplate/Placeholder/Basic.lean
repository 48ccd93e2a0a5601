import SqlTemplate.Text.Basic

/-! A placeholder is a name after a colon, which a modifier makes optional or dynamic. -/

namespace SqlTemplate

/-- The forms of a placeholder in a template. -/
inductive Placeholder.Form where
  /-- A name, which stands for one value or for an array of values. -/
  | plain
  /-- A name with a fragment, which is left out when the name has no value. -/
  | optional (fragment : Text)
  /-- A name whose value is a boolean group of terms. -/
  | dynamic
  deriving DecidableEq

/-- A placeholder as it stands in a template. -/
structure Placeholder where
  /-- The modifiers and the identifier, under which the value is looked up. -/
  name : String
  /-- The form, with the fragment of an optional placeholder. -/
  form : Placeholder.Form
  /-- The position of the colon. -/
  start : Nat
  deriving DecidableEq

namespace Placeholder

/-- The mark that makes a placeholder dynamic. -/
def dynamicMark : Char := '~'

/-- The mark that makes a placeholder optional, and holds the place of the value in a fragment. -/
def optionalMark : Char := '*'

/-- The brace that opens a fragment. -/
def openBrace : Char := '\x7b'

/-- The brace that closes a fragment. -/
def closeBrace : Char := '\x7d'

/-- The text of a placeholder in its template. -/
def source (placeholder : Placeholder) : Text :=
  ':' :: placeholder.name.toList ++
    match placeholder.form with
    | .optional fragment => openBrace :: fragment ++ [closeBrace]
    | _ => []

/-- How many characters a placeholder takes. -/
def length (placeholder : Placeholder) : Nat :=
  placeholder.source.length

/-- The position just past a placeholder. -/
def stop (placeholder : Placeholder) : Nat :=
  placeholder.start + placeholder.length

/-- The fragment of an optional placeholder. -/
def fragment? (placeholder : Placeholder) : Option Text :=
  match placeholder.form with
  | .optional fragment => some fragment
  | _ => none

/-- Whether a placeholder may be left without a value. -/
def isOptional (placeholder : Placeholder) : Bool :=
  placeholder.fragment?.isSome

end Placeholder

end SqlTemplate
