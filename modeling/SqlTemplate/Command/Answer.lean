import SqlTemplate.Command.Arguments
import SqlTemplate.Command.Display
import SqlTemplate.Command.Invocation
import SqlTemplate.Registry
import SqlTemplate.Resolution.Resolver

/-! A request is answered from a tree of files, with a table or with lines of text. -/

namespace SqlTemplate.Command

/-- Why a request is not answered. -/
inductive RequestFault where
  /-- Statements are not loaded or not found. -/
  | load (cause : LoadFault)
  /-- The parameters are refused. -/
  | arguments (cause : ArgumentFault)
  /-- The settings are refused. -/
  | config (cause : ConfigFault)
  /-- The template is not resolved. -/
  | resolution (cause : ResolutionFault)
  /-- A name or a file cannot be displayed. -/
  | display (cause : Markup.Fault)

namespace RequestFault

/-- The report of a request that is not answered. -/
def report : RequestFault → Report
  | load cause => cause.report
  | arguments cause => cause.report
  | config cause => cause.report
  | resolution cause => cause.report
  | display cause => cause.report

/-- Whether a failure ends the program at once, without a message among the lines. -/
def isAbrupt : RequestFault → Bool
  | arguments (.unreadable .tooDeep) => true
  | display _ => true
  | _ => false

end RequestFault

/-- The answer to a request. -/
inductive Answer where
  /-- Rows of a name and a file, below a row of titles. -/
  | table (rows : List (Text × Text))
  /-- Lines of text. -/
  | lines (content : List Text)

/-- The journal of an answer. -/
abbrev Answering := Journal Event RequestFault

/-- The lines that explain the commands. -/
def helpLines : List String :=
  ["Usage: puresql [--log-level LEVEL] [--log-json] COMMAND",
   "",
   "  list PATHS...     List the named templates found in SQL files.",
   "  render PATH NAME  Render a named template with parameters.",
   "    --params JSON     Parameters as a JSON object.",
   "    --param KEY=JSON  A single parameter (repeatable).",
   "    --marker TEXT     Positional marker to emit."]

/-- A registry with the statements that some spellings lead to. -/
def loaded (tree : FileTree) (spellings : List String) : Answering Registry := do
  let paths := spellings.map fun spelling => (Path.ofString spelling).toString
  let (registry, journal) := (Registry.empty .utf8).load tree paths
  journal.mapFault .load
  return registry

/-- The names of all statements in order, each with its file. -/
def rowsOf (registry : Registry) : List (String × String) :=
  registry.names.map fun name =>
    (name, ((registry.fileOf? name).map SourceFile.path).getD "")

/-- Two columns side by side, the shorter one filled up with empty lines. -/
def besides : List Text → List Text → List (Text × Text)
  | [], files => files.map fun file => ([], file)
  | names, [] => names.map fun name => (name, [])
  | name :: names, file :: files => (name, file) :: besides names files

/-- The rows of a table with a name and a file in each, as they are displayed. The names are
displayed before the files, so that the first name that cannot be displayed decides. -/
def tableOf (rows : List (String × String)) : Except Markup.Fault (List (Text × Text)) := do
  let names ← rows.mapM fun row => cellLines row.1.toList
  let files ← rows.mapM fun row => cellLines row.2.toList
  return (names.zip files).flatMap fun (name, file) => besides name file

/-- A resolved query and the values bound to its markers. -/
def resolutionLines (resolution : Resolution) : List Text :=
  queryLines resolution.query ++ valueLines (Value.list resolution.values).shown.toList

/-- The answer to a request. What is refused first decides: the files, the parameters, the name,
the marker, and last the template. A list is refused only when it cannot be displayed. -/
def answer (tree : FileTree) : Request → Answering Answer
  | .help => return .lines (helpLines.map String.toList)
  | .list paths => do
    let registry ← loaded tree paths
    let rows ← Journal.ofExcept ((tableOf (rowsOf registry)).mapError .display)
    return .table (("Name".toList, "File".toList) :: rows)
  | .render path name document entries marker => do
    let registry ← loaded tree [path]
    let given ← Journal.ofExcept ((parameters document entries).mapError .arguments)
    let template ← Journal.ofExcept ((registry.template name).mapError .load)
    let config ← Journal.ofExcept
      ((Config.default.replace (some marker.toList) none).mapError .config)
    let resolution ← (resolve template (.mapping given) config).mapFault .resolution
    return .lines (resolutionLines resolution)

end SqlTemplate.Command
