import SqlTemplate.Report
import SqlTemplate.Text.Encoding

/-! A document is refused because of its grammar or its depth, or because one of its strings is no
text. -/

namespace SqlTemplate.Json

/-- Why bytes are no document. -/
inductive Fault where
  /-- They break the grammar. -/
  | malformed
  /-- The content of a string is no text. -/
  | undecodable (fault : DecodeFault)
  /-- Its arrays and objects are nested too deeply. -/
  | tooDeep

/-- The report of bytes that are no document. -/
def Fault.report : Fault → Report
  | malformed => .plain "ValueError" "Invalid JSON"
  | undecodable fault => .plain "UnicodeDecodeError" fault.message
  | tooDeep =>
    .plain "RecursionError" "maximum recursion depth exceeded while deserializing an object"

end SqlTemplate.Json
