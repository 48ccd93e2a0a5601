import SqlTemplate.Statement.Parser

/-! Named templates are written as a source with one heading before each. -/

namespace SqlTemplate

/-- A name with its template. -/
abbrev NamedTemplate := String × Text

namespace Statement

/-- The name and the template of a statement. -/
def named (statement : Statement) : NamedTemplate :=
  (statement.name, statement.sql)

/-- One template under its heading. -/
def renderOne (template : NamedTemplate) : Text :=
  ['-', '-', ' ', 'n', 'a', 'm', 'e', ':', ' '] ++ template.1.toList ++ '\n' :: template.2 ++ ['\n']

/-- Templates as a source, in order. -/
def render (templates : List NamedTemplate) : Text :=
  templates.flatMap renderOne

end Statement

end SqlTemplate
