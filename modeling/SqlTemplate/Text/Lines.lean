import SqlTemplate.Text.Basic

/-! A text falls into lines at every line break, of which there are eleven characters. -/

namespace SqlTemplate

/-- Whether a character ends a line. -/
def isLineBreak (c : Char) : Bool :=
  (10 ≤ c.toNat && c.toNat ≤ 13) || (28 ≤ c.toNat && c.toNat ≤ 30) ||
    c.toNat = 0x85 || c.toNat = 0x2028 || c.toNat = 0x2029

namespace Text

/-- The lines of a text, where a carriage return before a newline leaves an empty line between. -/
def lines : Text → List Text
  | [] => [[]]
  | c :: rest =>
    if isLineBreak c then [] :: lines rest
    else match lines rest with
      | [] => [[c]]
      | line :: others => (c :: line) :: others

/-- A text in which every carriage return, alone or before a newline, has become a newline. -/
def unifyNewlines : Text → Text
  | [] => []
  | '\r' :: '\n' :: rest => '\n' :: unifyNewlines rest
  | '\r' :: rest => '\n' :: unifyNewlines rest
  | c :: rest => c :: unifyNewlines rest

end Text

end SqlTemplate
