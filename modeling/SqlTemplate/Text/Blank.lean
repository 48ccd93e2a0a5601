import SqlTemplate.Text.Basic
import SqlTemplate.Text.CodeRange

/-! Blank characters separate words, and trimming removes them from both ends of a text. -/

namespace SqlTemplate

/-- The characters of the White_Space property, and the four information separators. -/
def blankRanges : CodeRange.Table :=
  [(9, 13), (28, 32), (133, 133), (160, 160), (5760, 5760), (8192, 8202), (8232, 8233),
   (8239, 8239), (8287, 8287), (12288, 12288)]

/-- Whether a character is blank. -/
def isBlank (c : Char) : Bool :=
  blankRanges.holds c

/-- The two blanks that stay within a line and take no part in its layout. -/
def isSpaceOrTab (c : Char) : Bool :=
  c = ' ' || c = '\t'

namespace Text

/-- A text without the blanks it begins with. -/
def trimStart (text : Text) : Text :=
  text.dropWhile isBlank

/-- A text without its longest ending on which a test holds throughout. -/
def dropEndWhile (test : Char → Bool) (text : Text) : Text :=
  (text.reverse.dropWhile test).reverse

/-- A text without the blanks it ends with. -/
def trimEnd (text : Text) : Text :=
  text.dropEndWhile isBlank

/-- A text without the blanks at its two ends. -/
def trim (text : Text) : Text :=
  text.trimStart.trimEnd

end Text

end SqlTemplate
