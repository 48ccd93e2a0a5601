import SqlTemplate.Journal
import SqlTemplate.Log.Event
import SqlTemplate.Statement.Fault
import SqlTemplate.Statement.Outline
import SqlTemplate.Text.Lines

/-! The statements of a source are the texts under its headings, each under a name of its own. -/

namespace SqlTemplate

/-- A named statement of a source. -/
structure Statement where
  /-- The name, which is an identifier. -/
  name : String
  /-- How many newlines come before the heading. -/
  line : Nat
  /-- The template. -/
  sql : Text

namespace Statement

/-- The name that a heading gives: word characters alone, with hyphens made underscores. -/
def normalName (written : Text) : Text :=
  (written.filter fun c => isWordChar c || c = '-').map fun c => if c = '-' then '_' else c

/-- Whether a name is an identifier, whose first character is an ASCII letter or an underscore. -/
def isIdentifier : Text → Bool
  | [] => false
  | c :: rest => isNameStart c && rest.all isWordChar

/-- Whether a line holds no statement text, being blank or a comment. -/
def isCommentOrBlank (line : Text) : Bool :=
  line.trim.isEmpty || line.trim.startsWith ['-', '-']

/-- The statement in the text under a heading, without the comments before it. -/
def ofBody (body : Text) : Text :=
  let lines := (body.trim.pieces '\n').dropWhile isCommentOrBlank
  Text.trim (['\n'].intercalate lines)

/-- A statement in words. -/
def shown (statement : Statement) : String :=
  s!"NamedStatement(name={Quoted.ofString statement.name}, start_line={statement.line})"

/-- Whether a list of statements has one of a given name. -/
def hasName (statements : List Statement) (name : String) : Bool :=
  statements.any fun statement => statement.name = name

/-- The statement of a section that begins after some newlines, unless the section is empty. -/
def ofSection (known : List Statement) (line : Nat) (part : Section) (sql : Text) :
    Except SourceFault Statement :=
  let name := String.ofList (normalName part.heading.name)
  let written := String.ofList part.heading.name
  if !isIdentifier (normalName part.heading.name) then .error (.invalidName written)
  else if hasName known name then .error (.duplicateName written)
  else .ok ⟨name, line, sql⟩

/-- The statements of sections that begin after some newlines, added to those known. -/
def ofSections (file : String) (known : List Statement) (line : Nat) :
    List Section → Journal Event SourceFault (List Statement)
  | [] => return known
  | part :: rest => do
    let next := line + part.heading.source.count '\n' + part.body.count '\n'
    let sql := ofBody part.body
    if sql.isEmpty then
      Journal.note (.statementSkipped (String.ofList part.heading.name) (line + 1) file)
      ofSections file known next rest
    else
      let statement ← Journal.ofExcept (ofSection known line part sql)
      ofSections file (known ++ [statement]) next rest

/-- The statements of a source, in order; a source without any is refused. -/
def parse (file : String) (source : Text) : Journal Event SourceFault (List Statement) := do
  let outline := Outline.ofText source
  if outline.sections.isEmpty then Journal.fail .noHeading
  else if !outline.preamble.lines.all isCommentOrBlank then Journal.fail .textBeforeHeading
  else
    let statements ← ofSections file [] (outline.preamble.count '\n') outline.sections
    if statements.isEmpty then Journal.fail .noStatement else return statements

/-- The statements of a source, where a failure names the source. -/
def parseFile (file : String) (source : Text) : Journal Event LoadFault (List Statement) :=
  (parse file source).mapFault (.unusable file)

end Statement

end SqlTemplate
