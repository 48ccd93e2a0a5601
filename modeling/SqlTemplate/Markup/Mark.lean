import SqlTemplate.Text.Basic

/-! Markup is text with marks in brackets, before which a backslash is an escape. -/

namespace SqlTemplate.Markup

/-- A piece of markup. -/
inductive Piece where
  /-- A character that stands for itself. -/
  | plain (c : Char)
  /-- A mark: the backslashes before it, the place of its opening bracket, and what is in its
  brackets. -/
  | mark (slashes place : Nat) (inside : Text)

/-- Whether a character after an opening bracket makes a mark of it. -/
def opensMark (c : Char) : Bool :=
  ('a' ≤ c && c ≤ 'z') || c = '#' || c = '/' || c = '@'

/-- Whether a character is no bracket. -/
def isInside (c : Char) : Bool :=
  c ≠ '[' && c ≠ ']'

/-- The mark after an opening bracket, and what follows it. -/
def readInside (text : Text) : Option (Text × Text) :=
  match text.head?.any opensMark, text.dropWhile isInside with
  | true, ']' :: rest => some (text.takeWhile isInside, rest)
  | _, _ => none

/-- The mark at the beginning of a text with the count of backslashes before it, and what follows
it. -/
def readMark (text : Text) : Option (Nat × Text × Text) :=
  match text.dropWhile (· = '\\') with
  | '[' :: after =>
    (readInside after).map fun (inside, rest) =>
      ((text.takeWhile (· = '\\')).length, inside, rest)
  | _ => none

/-- What follows a mark is shorter than what follows its opening bracket. -/
theorem length_of_readInside {text inside rest : Text}
    (found : readInside text = some (inside, rest)) : rest.length < text.length := by
  -- The closing bracket is found in what follows, and it is not left over.
  have whole := (List.dropWhile_suffix (l := text) isInside).length_le
  unfold readInside at found
  split at found
  · rename_i closed
    cases found
    simp only [closed, List.length_cons] at whole
    omega
  · simp at found

/-- What follows a mark is shorter than the text with it. -/
theorem length_of_readMark {text inside rest : Text} {slashes : Nat}
    (found : readMark text = some (slashes, inside, rest)) : rest.length < text.length := by
  -- The backslashes and the opening bracket come off before the inside is read.
  have whole := (List.dropWhile_suffix (l := text) (· = '\\')).length_le
  unfold readMark at found
  split at found
  · rename_i opened
    obtain ⟨⟨_, _⟩, read, same⟩ := Option.map_eq_some_iff.1 found
    cases same
    have := length_of_readInside read
    simp only [opened, List.length_cons] at whole
    omega
  · simp at found

/-- The pieces of markup that begins at a given place. -/
def piecesFrom (place : Nat) (text : Text) : List Piece :=
  match text with
  | [] => []
  | c :: rest =>
    match found : readMark (c :: rest) with
    | some (slashes, inside, after) =>
      .mark slashes (place + slashes) inside ::
        piecesFrom (place + slashes + inside.length + 2) after
    | none => .plain c :: piecesFrom (place + 1) rest
termination_by text.length
decreasing_by
  · exact length_of_readMark found
  · simp

/-- The pieces of markup. -/
def pieces (markup : Text) : List Piece :=
  piecesFrom 0 markup

/-- A piece as markup that shows it as it is. -/
def Piece.escaped : Piece → Text
  | plain c => [c]
  | mark slashes _ inside => List.replicate (2 * slashes + 1) '\\' ++ '[' :: inside ++ [']']

/-- A text as markup that shows it as it is. A single backslash at its end is doubled, so that it
escapes nothing that follows. -/
def escape (text : Text) : Text :=
  let escaped := (pieces text).flatMap Piece.escaped
  match escaped.reverse with
  | '\\' :: '\\' :: _ => escaped
  | '\\' :: _ => escaped ++ ['\\']
  | _ => escaped

end SqlTemplate.Markup
