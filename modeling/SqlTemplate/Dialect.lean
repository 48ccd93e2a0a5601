import SqlTemplate.Text.Blank

/-! A dialect says how identifiers are quoted and how literals are written. -/

namespace SqlTemplate

/-- How a dialect writes a sequence of bytes. -/
inductive BytesForm where
  /-- As the number that the bytes make, the first byte being the most significant. -/
  | number
  /-- As two hexadecimal digits for each byte, after one text and before another. -/
  | digits (opening closing : String)

/-- How a dialect writes a map, as a function of its keys and its values. -/
inductive MapForm where
  /-- The keys and the values are each an array. -/
  | arrays (function : String)
  /-- Each key is followed by its value. -/
  | pairs (function : String)

/-- How a dialect writes identifiers and literals. -/
structure Dialect where
  /-- What precedes an identifier. -/
  opening : Char
  /-- What follows it. -/
  closing : Char
  /-- What stands before a closing character within an identifier. -/
  escape : Char
  /-- What stands before a quote within a string. -/
  quoteEscape : Char
  /-- The characters of a string that are written as a backslash and another character. -/
  escapes : List (Char × Char)
  /-- The truth values, the true one first. -/
  truths : String × String
  /-- How a sequence of bytes is written. -/
  bytes : BytesForm
  /-- What precedes the items of an array, and what follows them. -/
  array : String × String
  /-- How a map is written. -/
  map : MapForm

namespace Dialect

/-- The standard, where a quote within an identifier or a string is written twice. -/
def standard : Dialect :=
  ⟨'"', '"', '"', '\'', [], ("TRUE", "FALSE"), .number, ("ARRAY(", ")"), .arrays "MAP"⟩

/-- A dialect with another pair of quotes around identifiers, of which the closing one is written
twice within them. -/
def quoting (opening closing : Char) (dialect : Dialect) : Dialect :=
  { dialect with opening, closing, escape := closing }

/-- The control characters that have an escape of one letter, and the backslash. -/
def commonEscapes : List (Char × Char) :=
  [('\x07', 'a'), ('\x08', 'b'), ('\x0C', 'f'), ('\n', 'n'), ('\r', 'r'), ('\t', 't'),
   ('\x0B', 'v'), ('\\', '\\')]

/-- A dialect whose strings know escapes, so that a backslash in them is one. -/
def escaping (dialect : Dialect) : Dialect :=
  { dialect with escapes := commonEscapes }

/-- A dialect whose strings know escapes, the one of a quote included. -/
def escapingQuotes (dialect : Dialect) : Dialect :=
  { dialect.escaping with quoteEscape := '\\' }

/-- A dialect in which the digits of bytes are quoted after a letter. -/
def quotingBytes (letter : String) (dialect : Dialect) : Dialect :=
  { dialect with bytes := .digits (letter ++ "'") "'" }

/-- A dialect in which a function reads bytes from their digits. -/
def readingBytes (function : String) (dialect : Dialect) : Dialect :=
  { dialect with bytes := .digits (function ++ "('") "')" }

/-- A dialect with an array in brackets, after a word that may be empty. -/
def bracketing (word : String) (dialect : Dialect) : Dialect :=
  { dialect with array := (word ++ "[", "]") }

/-- The dialect with backquotes, and with escapes beside doubled quotes. -/
def mysql : Dialect :=
  ((standard.quoting '\x60' '\x60').escaping).quotingBytes "x"

/-- The dialect with backquotes in which every quote is escaped. -/
def drill : Dialect :=
  (standard.quoting '\x60' '\x60').escapingQuotes

/-- The dialect of these in which a map is made of pairs. -/
def hive : Dialect :=
  { drill with map := .pairs "MAP" }

/-- The dialect of these in which a map is made from arrays. -/
def spark : Dialect :=
  { drill.quotingBytes "X" with map := .arrays "MAP_FROM_ARRAYS" }

/-- The dialect in which a backslash escapes quotes of both kinds. -/
def bigquery : Dialect :=
  { (drill.readingBytes "FROM_HEX").bracketing "" with escape := '\\' }

/-- The dialect with escapes for all control characters that have a letter or a zero. -/
def clickhouse : Dialect :=
  { (standard.readingBytes "UNHEX").bracketing "" with
    escape := '\\', escapes := ('\x00', '0') :: commonEscapes, map := .pairs "map" }

/-- The dialect of the standard with arrays in brackets after their word. -/
def postgres : Dialect :=
  (standard.quotingBytes "x").bracketing "ARRAY"

/-- The dialect in which a map is an object. -/
def snowflake : Dialect :=
  { (standard.escapingQuotes.quotingBytes "x").bracketing "" with
    map := .pairs "OBJECT_CONSTRUCT" }

/-- The dialect with brackets, where a truth value is a comparison. -/
def tsql : Dialect :=
  { standard.quoting '[' ']' with truths := ("(1 = 1)", "(1 = 0)"), bytes := .digits "0x" "" }

/-- The dialects by name. -/
def all : List (String × Dialect) :=
  [("athena", postgres),
   ("bigquery", bigquery),
   ("clickhouse", clickhouse),
   ("databricks", spark),
   ("doris", mysql),
   ("dremio", standard),
   ("drill", drill),
   ("druid", standard.bracketing "ARRAY"),
   ("duckdb", (standard.readingBytes "UNHEX").bracketing ""),
   ("dune", { postgres with bytes := .digits "0x" "" }),
   ("exasol", standard),
   ("fabric", tsql),
   ("hive", hive),
   ("materialize", postgres),
   ("mysql", mysql),
   ("oracle", standard),
   ("postgres", postgres),
   ("presto", postgres),
   ("prql", standard.quoting '\x60' '\x60'),
   ("redshift", standard.escapingQuotes),
   ("risingwave", postgres),
   ("singlestore", mysql),
   ("snowflake", snowflake),
   ("solr", standard.quoting '\x60' '\x60'),
   ("spark", spark),
   ("spark2", spark),
   ("sqlite", standard.quotingBytes "x"),
   ("starrocks", mysql.bracketing ""),
   ("tableau", standard.quoting '[' ']'),
   ("teradata", standard.quotingBytes "X"),
   ("trino", postgres),
   ("tsql", tsql)]

/-- The part of a dialect's name before its settings, which follow a comma. -/
def bareName (name : String) : Text :=
  name.toList.takeWhile (· ≠ ',')

/-- The dialect of a name. No name at all stands for the standard. -/
def named? (name : String) : Option Dialect :=
  match String.ofList (bareName name).trim with
  | "" => some standard
  | bare => all.lookup bare

/-- An identifier in quotes. -/
def quote (dialect : Dialect) (name : Text) : Text :=
  dialect.opening ::
    name.flatMap (fun c => if c = dialect.closing then [dialect.escape, c] else [c]) ++
    [dialect.closing]

/-- A character within a string. -/
def stringChar (dialect : Dialect) (c : Char) : Text :=
  if c = '\'' then [dialect.quoteEscape, c]
  else match dialect.escapes.lookup c with
    | some letter => ['\\', letter]
    | none => [c]

end Dialect

end SqlTemplate
