import SqlTemplate.Report.Wording
import SqlTemplate.Text.Encoding

/-! A source of statements fails to load for one of a few causes, each with its own words. -/

namespace SqlTemplate

/-- Why a source cannot be used. -/
inductive SourceFault where
  /-- It has no heading. -/
  | noHeading
  /-- Its first heading comes after text that is no comment. -/
  | textBeforeHeading
  /-- A heading's name makes no identifier. -/
  | invalidName (written : String)
  /-- Two headings give the same name. -/
  | duplicateName (written : String)
  /-- No heading has a statement under it. -/
  | noStatement
  /-- A name has been loaded from another source. -/
  | nameTaken (name file : String)
  /-- It is a directory. -/
  | isDirectory (path : String)
  /-- Its bytes are no text. -/
  | undecodable (fault : DecodeFault)

/-- The report of a source that cannot be used. -/
def SourceFault.report : SourceFault → Report
  | noHeading => .plain "ValueError" "No named SQL statements found (-- name: statement_name)"
  | textBeforeHeading => .plain "ValueError" "SQL found before the first '-- name:' declaration"
  | invalidName written => .plain "ValueError" s!"Invalid statement name: {written}"
  | duplicateName written => .plain "ValueError" s!"Duplicate statement name: {written}"
  | noStatement => .plain "ValueError" "No valid SQL statements found after parsing"
  | nameTaken name file =>
    .plain "ValueError" s!"Query name '{name}' already exists in file: {file}"
  | isDirectory path =>
    .plain "IsADirectoryError" s!"[Errno 21] Is a directory: {Quoted.ofString path}"
  | undecodable fault => .plain "UnicodeDecodeError" fault.message

/-- Why statements are not loaded or not found. -/
inductive LoadFault where
  /-- A file or a statement is not there. -/
  | notFound (name : String) (path : Option String)
  /-- A source cannot be used. -/
  | unusable (path : String) (cause : SourceFault)
  /-- No file can have the path. -/
  | tooLong (path : String)

/-- The report of a failed load. -/
def LoadFault.report : LoadFault → Report
  | notFound name (some path) => .notFound (.str name) (.str path)
  | notFound name none => .notFound (.str name) .null
  | unusable path cause =>
    .unusableFile (.str path) (.str path) cause.report.kindName cause.report.message
  | tooLong path => .plain "OSError" s!"[Errno 36] File name too long: {Quoted.ofString path}"

end SqlTemplate
