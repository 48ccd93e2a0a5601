import SqlTemplate.Decimal.Numeral
import SqlTemplate.Text.Basic

/-! A message is a text with directives, each of which stands for an argument. -/

namespace SqlTemplate

/-- The name that a directive gives in parentheses. -/
inductive DirectiveKey where
  /-- A name. -/
  | closed (name : Text)
  /-- A name whose parenthesis is not closed. -/
  | unclosed

/-- The width or the precision of a directive. -/
inductive DirectiveSize where
  /-- A number that the directive gives. -/
  | given (size : Nat)
  /-- A number that comes from the arguments. -/
  | taken

/-- The flags of a directive. -/
structure DirectiveFlags where
  /-- Whether the argument stands at the left of its width. -/
  left : Bool
  /-- Whether a number that is not negative has a plus sign. -/
  plus : Bool
  /-- Whether a number that is not negative has a space for its sign. -/
  space : Bool
  /-- Whether a number is marked with its base, or keeps its point. -/
  alternate : Bool
  /-- Whether a number is filled up with zeros. -/
  zero : Bool

/-- A directive as it is written, whose letter is missing when the message ends before it. -/
structure Directive where
  /-- The name of its argument, if it gives one. -/
  key : Option DirectiveKey
  /-- Its flags. -/
  flags : DirectiveFlags
  /-- The least length of its text. -/
  width : Option DirectiveSize
  /-- How much of its argument is shown. -/
  precision : Option DirectiveSize
  /-- The letter that says how its argument is shown. -/
  letter : Option Char
  /-- Where in the message the letter is. -/
  place : Nat

namespace Directive

/-- The text up to the parenthesis that closes a given count of open ones, and what follows it. -/
def untilClosed (depth : Nat) : Text → Option (Text × Text)
  | [] => none
  | c :: rest =>
    if c = ')' && depth = 0 then some ([], rest)
    else
      let inner := if c = ')' then depth - 1 else if c = '(' then depth + 1 else depth
      (untilClosed inner rest).map fun (name, after) => (c :: name, after)

/-- The name at the beginning of a directive. An open parenthesis leaves nothing after it. -/
def readKey (text : Text) : Option DirectiveKey × Text :=
  match text with
  | '(' :: rest =>
    match untilClosed 0 rest with
    | some (name, after) => (some (.closed name), after)
    | none => (some .unclosed, [])
  | _ => (none, text)

/-- Whether a character is a flag. -/
def isFlag (c : Char) : Bool :=
  ['-', '+', ' ', '#', '0'].contains c

/-- The flags among some characters. -/
def flagsOf (characters : Text) : DirectiveFlags :=
  ⟨characters.contains '-', characters.contains '+', characters.contains ' ',
    characters.contains '#', characters.contains '0'⟩

/-- The size at the beginning of a text. -/
def readSize (text : Text) : Option DirectiveSize × Text :=
  match text with
  | '*' :: rest => (some .taken, rest)
  | _ =>
    let digits := text.takeWhile Char.isDigit
    if digits.isEmpty then (none, text)
    else (some (.given (Decimal.ofDigits digits)), text.dropWhile Char.isDigit)

/-- The precision after a point, which is zero when no size follows the point. -/
def readPrecision (text : Text) : Option DirectiveSize × Text :=
  match text with
  | '.' :: rest =>
    let (size, after) := readSize rest
    (some (size.getD (.given 0)), after)
  | _ => (none, text)

/-- A text without the one letter that may say how large a number is. -/
def dropLength (text : Text) : Text :=
  match text with
  | c :: rest => if c = 'h' || c = 'l' || c = 'L' then rest else text
  | [] => []

/-- The directive after a percent sign in a message of the given length, and what follows it. -/
def read (length : Nat) (text : Text) : Directive × Text :=
  let (key, afterKey) := readKey text
  let afterFlags := afterKey.dropWhile isFlag
  let (width, afterWidth) := readSize afterFlags
  let (precision, afterPrecision) := readPrecision afterWidth
  let rest := dropLength afterPrecision
  (⟨key, flagsOf (afterKey.takeWhile isFlag), width, precision, rest.head?, length - rest.length⟩,
    rest.tail)

/-- What follows a closing parenthesis is shorter than the text before it. -/
theorem length_of_untilClosed {depth : Nat} {text name after : Text}
    (found : untilClosed depth text = some (name, after)) : after.length < text.length := by
  induction text generalizing depth name after with
  | nil => simp [untilClosed] at found
  | cons c rest shorter =>
    simp only [untilClosed] at found
    -- The parenthesis is the first character, or it comes later.
    split at found
    · simp_all
    · obtain ⟨⟨inner, tail⟩, split, same⟩ := Option.map_eq_some_iff.1 found
      cases same
      have := shorter split
      simp only [List.length_cons]; omega

/-- What follows a name is no longer than the text with it. -/
theorem length_readKey (text : Text) : (readKey text).2.length ≤ text.length := by
  -- Without a closing parenthesis all is taken, and without an opening one nothing is.
  unfold readKey
  split
  · split
    · rename_i found
      have := length_of_untilClosed found
      simp only [List.length_cons]; omega
    · exact Nat.zero_le _
  · exact Nat.le_refl _

/-- What follows a size is no longer than the text with it. -/
theorem length_readSize (text : Text) : (readSize text).2.length ≤ text.length := by
  -- An asterisk is one character, and digits are taken from the front.
  unfold readSize
  split
  · simp
  · dsimp only
    split
    · exact Nat.le_refl _
    · exact (List.dropWhile_suffix Char.isDigit).length_le

/-- What follows a precision is no longer than the text with it. -/
theorem length_readPrecision (text : Text) :
    (readPrecision text).2.length ≤ text.length := by
  -- The point is one character, and a size follows it.
  unfold readPrecision
  split
  · rename_i rest
    have := length_readSize rest
    simp only [List.length_cons]; omega
  · exact Nat.le_refl _

/-- A text does not grow by dropping a letter. -/
theorem length_dropLength (text : Text) : (dropLength text).length ≤ text.length := by
  -- At most the first letter goes.
  unfold dropLength
  split
  · split <;> simp
  · simp

/-- What follows a directive is no longer than the text with it. -/
theorem length_read (length : Nat) (text : Text) :
    (read length text).2.length ≤ text.length := by
  -- No part of a directive leaves more than it was given, so the bounds of the parts add up.
  have key := length_readKey text
  have flags := (List.dropWhile_suffix (l := (readKey text).2) isFlag).length_le
  have width := length_readSize ((readKey text).2.dropWhile isFlag)
  have precision := length_readPrecision (readSize ((readKey text).2.dropWhile isFlag)).2
  have letter := length_dropLength
    (readPrecision (readSize ((readKey text).2.dropWhile isFlag)).2).2
  simp only [read, List.length_tail]
  omega

end Directive

/-- A piece of a message. -/
inductive MessagePiece where
  /-- A character that stands for itself. -/
  | plain (c : Char)
  /-- A directive. -/
  | directive (directive : Directive)

/-- The pieces of the last part of a message of the given length, where two percent signs stand for
one. -/
def MessagePiece.ofText (length : Nat) (text : Text) : List MessagePiece :=
  match text with
  | [] => []
  | '%' :: '%' :: rest => .plain '%' :: ofText length rest
  | c :: rest =>
    if c = '%' then
      let found := Directive.read length rest
      .directive found.1 :: ofText length found.2
    else .plain c :: ofText length rest
termination_by text.length
decreasing_by
  · simp only [List.length_cons]; omega
  · have := Directive.length_read length rest
    simp only [List.length_cons]; omega
  · simp

end SqlTemplate
