import SqlTemplate.Emoji.Code
import SqlTemplate.Markup.Mark
import SqlTemplate.Markup.Style
import SqlTemplate.Report

/-! Rendering leaves the text of markup: marks open and close styles and do not show. -/

namespace SqlTemplate.Markup

/-- A part of markup. -/
inductive Part where
  /-- Text between marks. -/
  | between (content : Text)
  /-- Text that a backslash keeps as it is. -/
  | kept (content : Text)
  /-- A mark, by the place of its opening bracket and what is in its brackets. -/
  | mark (place : Nat) (inside : Text)

/-- The parts of a mark. Of the backslashes before it each pair stands for one, and one that is left
over escapes the mark. -/
def partsOfMark (slashes place : Nat) (inside : Text) : List Part :=
  let shown := List.replicate (slashes / 2) '\\'
  [.kept shown, if slashes % 2 = 1 then .kept ('[' :: inside ++ [']']) else .mark place inside]

/-- The parts of some pieces, in which the text between two marks is one part. -/
def partsOf : List Piece → List Part
  | [] => []
  | .mark slashes place inside :: rest => partsOfMark slashes place inside ++ partsOf rest
  | .plain c :: rest =>
    match partsOf rest with
    | .between content :: others => .between (c :: content) :: others
    | others => .between [c] :: others

/-- A text without the backslash before each opening bracket. -/
def dropEscapes : Text → Text
  | '\\' :: '[' :: rest => '[' :: dropEscapes rest
  | c :: rest => c :: dropEscapes rest
  | [] => []

/-- What a part shows. -/
def Part.shown : Part → Text
  | between content => Emoji.replaceCodes (dropEscapes content)
  | kept content => Emoji.replaceCodes content
  | mark _ _ => []

/-- What markup shows. -/
def shown (markup : Text) : Text :=
  (partsOf (pieces markup)).flatMap Part.shown

/-- Why markup is not rendered. -/
inductive Fault where
  /-- A mark closes a style that is not open. -/
  | notOpen (place : Nat) (inside : Text)
  /-- A mark closes the last style, and none is open. -/
  | nothingOpen (place : Nat)

/-- The report of markup that is not rendered. -/
def Fault.report : Fault → Report
  | notOpen place inside =>
    .plain "MarkupError"
      s!"closing tag '[{String.ofList inside}]' at position {place} doesn't match any open tag"
  | nothingOpen place =>
    .plain "MarkupError" s!"closing tag '[/]' at position {place} has nothing to close"

/-- The open styles after a mark, the latest first. What follows an equals sign in a mark is no part
of the style. -/
def afterMark (styles : List String) (place : Nat) (inside : Text) :
    Except Fault (List String) :=
  match inside.takeWhile (· ≠ '=') with
  | '/' :: name =>
    match Text.trim name, styles with
    | [], [] => .error (.nothingOpen place)
    | [], _ :: others => .ok others
    | closed, styles =>
      if styles.contains (normalStyle closed) then .ok (styles.erase (normalStyle closed))
      else .error (.notOpen place inside)
  | name => .ok (normalStyle name :: styles)

/-- The open styles after a part. -/
def afterPart (styles : List String) : Part → Except Fault (List String)
  | .mark place inside => afterMark styles place inside
  | _ => .ok styles

/-- What markup shows, unless it closes a style that is not open. -/
def render (markup : Text) : Except Fault Text :=
  ((partsOf (pieces markup)).foldlM afterPart []).map fun _ => shown markup

end SqlTemplate.Markup
