/-! Text is a list of code points, so every offset is a position in that list. -/

namespace SqlTemplate

/-- The text of templates, fragments and queries, cut and counted by code point. -/
abbrev Text := List Char

namespace Text

/-- The stretch of a text between two positions. -/
def slice (text : Text) (start stop : Nat) : Text :=
  (text.take stop).drop start

/-- A position counted from the end when negative, and moved into the text when outside it. -/
def clamp (length : Nat) (offset : Int) : Nat :=
  if offset < 0 then (offset + length).toNat else min offset.toNat length

/-- Whether a text begins with the given characters. -/
def startsWith (text start : Text) : Bool :=
  start.isPrefixOf text

/-- A text cut at every occurrence of one character, which the pieces do not hold. -/
def pieces (mark : Char) : Text → List Text
  | [] => [[]]
  | c :: rest =>
    if c = mark then [] :: pieces mark rest
    else match pieces mark rest with
      | [] => [[c]]
      | piece :: others => (c :: piece) :: others

end Text

end SqlTemplate
