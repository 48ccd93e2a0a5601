/-! A character property is a list of ranges of code points. -/

namespace SqlTemplate

/-- Ranges of code points, both ends included. -/
abbrev CodeRange.Table := List (Nat × Nat)

namespace CodeRange

/-- Whether some range of the table holds the character. -/
def Table.holds (table : Table) (c : Char) : Bool :=
  table.any fun range => range.1 ≤ c.toNat && c.toNat ≤ range.2

end CodeRange

end SqlTemplate
