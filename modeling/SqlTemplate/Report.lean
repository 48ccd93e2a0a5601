import SqlTemplate.Text.Blank
import SqlTemplate.Value.Printer

/-! A report is an error as its readers see it: its kind, its words and its attributes. -/

namespace SqlTemplate

/-- The kinds of the library's own reports. -/
inductive ReportKind where
  /-- Any of them. -/
  | general
  /-- A template and its parameters do not fit. -/
  | parameter
  /-- Required names have no value. -/
  | undefinedParameter
  /-- A term is joined by neither operator. -/
  | unknownOperator
  /-- A value has the wrong shape for its placeholder. -/
  | parameterValue
  /-- A placeholder is malformed. -/
  | placeholder
  /-- An adapter lacks an operation. -/
  | capability
  /-- The database refused a query. -/
  | execution
  /-- A file or a statement is not there. -/
  | fileNotFound
  /-- A file does not hold statements. -/
  | fileUnusable
  deriving DecidableEq

namespace ReportKind

/-- The name of a kind. -/
def name : ReportKind → String
  | general => "PureSQLError"
  | parameter => "ParameterError"
  | undefinedParameter => "UndefinedParameterError"
  | unknownOperator => "UnknownCombinatorError"
  | parameterValue => "InvalidParameterValueError"
  | placeholder => "PlaceholderSyntaxError"
  | capability => "MissingCapabilityError"
  | execution => "ExecutionError"
  | fileNotFound => "SQLFileNotFoundError"
  | fileUnusable => "SQLFileParseError"

/-- All kinds. -/
def all : List ReportKind :=
  [general, parameter, undefinedParameter, unknownOperator, parameterValue, placeholder,
   capability, execution, fileNotFound, fileUnusable]

/-- The kind of a name. -/
def named? (text : String) : Option ReportKind :=
  all.find? fun kind => kind.name = text

/-- A kind and all more general ones, the most general last. -/
def lineage : ReportKind → List ReportKind
  | general => [general]
  | parameter => [parameter, general]
  | undefinedParameter => [undefinedParameter, parameter, general]
  | unknownOperator => [unknownOperator, parameter, general]
  | parameterValue => [parameterValue, parameter, general]
  | placeholder => [placeholder, parameter, general]
  | capability => [capability, general]
  | execution => [execution, general]
  | fileNotFound => [fileNotFound, general]
  | fileUnusable => [fileUnusable, general]

/-- The dotted name under which a log shows a kind. -/
def qualifiedName (kind : ReportKind) : String :=
  "puresql.exceptions." ++ kind.name

end ReportKind

/-- An error as its readers see it. -/
inductive Report where
  /-- A report with nothing but the name of its kind and its words. -/
  | plain (kindName words : String)
  /-- A report of the library: notes, a detail, and what else is known about the case. -/
  | detailed (kind : ReportKind) (notes : List String) (detail : String) (attributes : Entries)

namespace Report

/-- The name of a report's kind. -/
def kindName : Report → String
  | plain kindName _ => kindName
  | detailed kind _ _ _ => kind.name

/-- The kinds of errors that a database driver raises. -/
def driverKinds : List String :=
  ["Error", "DatabaseError", "IntegrityError", "OperationalError", "ProgrammingError", "DataError",
   "InternalError", "NotSupportedError", "InterfaceError", "Warning"]

/-- The dotted name under which a log shows a report's kind, which is a plain one for most kinds
that are not the library's own. -/
def qualifiedName : Report → String
  | plain kindName _ => if driverKinds.contains kindName then "sqlite3." ++ kindName else kindName
  | detailed kind _ _ _ => kind.qualifiedName

/-- The words of a report, in which the detail follows the notes. -/
def message : Report → String
  | plain _ words => words
  | detailed _ notes detail _ =>
    String.ofList (Text.trim (" ".intercalate (notes ++ [detail])).toList)

/-- A report by its kind and detail, or by its kind alone. -/
def shown : Report → String
  | plain kindName words => kindName ++ "(" ++ Quoted.ofString words ++ ")"
  | detailed kind _ detail _ => if detail.isEmpty then kind.name else kind.name ++ " - " ++ detail

end Report

end SqlTemplate
