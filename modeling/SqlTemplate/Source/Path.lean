import SqlTemplate.Text.Basic

/-! A path is a root and the names on the way from it, without repeated slashes and lone dots. -/

namespace SqlTemplate

/-- A path in one spelling. -/
structure Path where
  /-- No text for a relative path, and one slash or two for an absolute one. -/
  root : String
  /-- The names on the way, none of which is empty or a single dot. -/
  parts : List String
  deriving DecidableEq

namespace Path

/-- The root of a spelling: two slashes are a root of their own, and more are one. -/
def rootOf (spelling : Text) : String :=
  match spelling with
  | '/' :: '/' :: '/' :: _ => "/"
  | '/' :: '/' :: _ => "//"
  | '/' :: _ => "/"
  | _ => ""

/-- The path of a spelling. -/
def ofString (spelling : String) : Path :=
  ⟨rootOf spelling.toList,
    ((Text.pieces '/' spelling.toList).map String.ofList).filter fun part =>
      part ≠ "" && part ≠ "."⟩

/-- The spelling of a path, where the empty path is a dot. -/
def toString (path : Path) : String :=
  if path.root.isEmpty && path.parts.isEmpty then "."
  else path.root ++ "/".intercalate path.parts

/-- A path that goes on from another one. -/
def append (path : Path) (parts : List String) : Path :=
  ⟨path.root, path.parts ++ parts⟩

end Path

end SqlTemplate
