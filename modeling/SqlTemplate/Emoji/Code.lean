import SqlTemplate.Emoji.Names
import SqlTemplate.Text.Blank

/-! An emoji is written as a code, which is its name between colons. -/

namespace SqlTemplate.Emoji

/-- The emoji of a name in lower case. -/
def named? (name : String) : Option String :=
  names.findSome? fun some => some.lookup name

/-- A character in lower case, as far as names have such characters. -/
def lowercase (c : Char) : Char :=
  -- Two letters have a sign of their own that is no other letter: those of a kelvin and an
  -- angstrom.
  if c = '\u212A' then 'k'
  else if c = '\u212B' then 'å'
  else if 0xC0 ≤ c.toNat && c.toNat ≤ 0xDE && c ≠ '×' then Char.ofNat (c.toNat + 32)
  else c.toLower

/-- The endings of a code that ask for one form of an emoji, each with the selector of the form. -/
def variants : List (Text × Char) :=
  [("-emoji".toList, '\uFE0F'), ("-text".toList, '\uFE0E')]

/-- The text of a code, unless it names no emoji. -/
def ofCode? (code : Text) : Option Text :=
  let find (name : Text) (selector : Text) : Option Text :=
    (named? (String.ofList (name.map lowercase))).map fun emoji => emoji.toList ++ selector
  match variants.find? fun variant => variant.1.isSuffixOf code with
  | some (ending, selector) => find (code.take (code.length - ending.length)) [selector]
  | none => find code []

/-- Whether a character may stand in a code. -/
def isInCode (c : Char) : Bool :=
  c ≠ ':' && !isBlank c

/-- The code at the beginning of a text, and what follows the colon that ends it. -/
def readCode : Text → Option (Text × Text)
  | ':' :: rest =>
    match rest.dropWhile isInCode with
    | ':' :: after => some (rest.takeWhile isInCode, after)
    | _ => none
  | _ => none

/-- What follows a code is shorter than the text with it. -/
theorem length_of_readCode {text code after : Text} (found : readCode text = some (code, after)) :
    after.length < text.length := by
  -- The colon at the front and the one that closes the code are not part of what follows.
  unfold readCode at found
  split at found
  · rename_i rest
    have whole := (List.dropWhile_suffix (l := rest) isInCode).length_le
    split at found
    · rename_i closed
      cases found
      simp only [closed, List.length_cons] at whole ⊢
      omega
    · simp at found
  · simp at found

/-- A text in which each code has become its emoji. The colon that ends a code begins no other, even
if the code names no emoji. -/
def replaceCodes (text : Text) : Text :=
  match text with
  | [] => []
  | c :: rest =>
    match found : readCode (c :: rest) with
    | some (code, after) =>
      have : after.length < (c :: rest).length := length_of_readCode found
      (ofCode? code).getD (':' :: code ++ [':']) ++ replaceCodes after
    | none => c :: replaceCodes rest
termination_by text.length
decreasing_by
  · exact this
  · simp

end SqlTemplate.Emoji
