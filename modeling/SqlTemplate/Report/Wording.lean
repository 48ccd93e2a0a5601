import SqlTemplate.Report

/-! Each kind of report has a wording of its own, which its attributes complete. -/

namespace SqlTemplate.Report

/-- A report about a value that does not fit. -/
def unfit (words : String) (sql : Value) : Report :=
  .detailed .parameterValue [] words [("sql", sql)]

/-- A report about names without a value, which are given once more with commas between them. -/
def undefinedNames (names : List Value) (listed : String) (sql : Value) : Report :=
  .detailed .undefinedParameter [] ("Undefined parameter(s) " ++ listed)
    [("names", .tuple names), ("sql", sql)]

/-- A report about an operator that joins no terms, and about the name whose value has it. -/
def unknownOperator (operator : Value) (shown name : String) : Report :=
  .detailed .unknownOperator []
    s!"Unknown combinator operator {shown} in parameter {name} (expected AND or OR)"
    [("operator", operator), ("sql", .null)]

/-- A report about a placeholder that cannot be read. -/
def brokenPlaceholder (words : String) (position sql : Value) : Report :=
  .detailed .placeholder [] s!"{words} (at offset {position.plain})"
    [("position", position), ("sql", sql)]

/-- A report about operations that an adapter lacks, which are given once more with commas. -/
def missingOperations (names : List Value) (listed : String) : Report :=
  .detailed .capability []
    ("Missing adapter! The execution adapter must provide: " ++ listed)
    [("missing", .tuple names)]

/-- A report about a query that the database refused, which follows the words if it is known. -/
def refusedQuery (words : String) (sql : Value) : Report :=
  .detailed .execution [] (if sql.isTruthy then s!"{words}\nSQL: {sql.plain}" else words)
    [("sql", sql)]

/-- A report about a file or a statement that is not there. -/
def notFound (name path : Value) : Report :=
  let place := if path.isTruthy then s!" at path: {path.plain}" else ""
  .detailed .fileNotFound [] (s!"SQL file '{name.plain}' not found" ++ place)
    [("name", name), ("path", path)]

/-- A report about a file that cannot be used, for a reason given by its kind and its words. -/
def unusableFile (name path : Value) (kindName words : String) : Report :=
  .detailed .fileUnusable []
    s!"Failed to parse SQL file '{name.plain}' at {path.plain}: {words}"
    [("name", name), ("path", path), ("original_error", .str kindName)]

end SqlTemplate.Report
