import SqlTemplate.Command.Words
import SqlTemplate.Log.Setup
import SqlTemplate.Source.FileTree

/-! An invocation is a command line that is understood: what is asked for, and what is logged. -/

namespace SqlTemplate.Command

/-- What is asked for. -/
inductive Request where
  /-- To explain the commands. -/
  | help
  /-- To list the statements of files and directories. -/
  | list (paths : List String)
  /-- To show a statement with its parameters bound. -/
  | render (path name : String) (document : Option String) (entries : List String)
    (marker : String)

/-- The paths that a request names. -/
def Request.paths : Request → List String
  | help => []
  | list paths => paths
  | render path _ _ _ _ => [path]

/-- A command line that is understood. -/
structure Invocation where
  /-- The log. -/
  log : Log
  /-- What is asked for. -/
  request : Request

/-- The option that explains a command. -/
def helpRule : OptionRule := ⟨"--help", false⟩

/-- The names of levels that may be asked for. -/
def levelNames : List String :=
  ["DEBUG", "INFO", "WARNING", "ERROR"]

/-- The log that the options before a command ask for. -/
def logOf (words : Words) : Except UsageFault Log :=
  match words.value? "--log-level" with
  | none => .ok none
  | some given =>
    let found := levelNames.find? fun name => name.map Char.toLower = given.map Char.toLower
    match found.bind Level.ofName? with
    | some level => .ok (some ⟨level, words.has "--log-json", 0⟩)
    | none => .error (.valueRefused "--log-level" given)

/-- Whether a spelling leads to something. One that ends in a slash or a lone dot has to lead to a
directory, and no spelling at all leads nowhere. -/
def leads (tree : FileTree) (spelling : String) : Bool :=
  match (Text.pieces '/' spelling.toList).getLast?, tree.find? (Path.ofString spelling) with
  | _, none => false
  | some ending, some (.file _) => !ending.isEmpty && ending ≠ ['.']
  | _, some .directory => !spelling.isEmpty
  | none, some _ => false

/-- A spelling, if it is there. -/
def checkPath (isThere : String → Bool) (spelling : String) : Except UsageFault Unit :=
  if spelling.toList.contains '\x00' then .error .endedPath
  else if isThere spelling then .ok () else .error (.noSuchPath spelling)

/-- What the words after the command for listing ask for. -/
def listRequest (isThere : String → Bool) (arguments : List String) :
    Except UsageFault Request := do
  let words ← Words.read [helpRule] true arguments
  if words.has "--help" then return .help
  if words.arguments.isEmpty then throw (.argumentMissing "PATHS...")
  words.arguments.forM (checkPath isThere)
  return .list words.arguments

/-- The options of the command for rendering. -/
def renderRules : List OptionRule :=
  [⟨"--params", true⟩, ⟨"--param", true⟩, ⟨"--marker", true⟩, helpRule]

/-- What the words after the command for rendering ask for. -/
def renderRequest (isThere : String → Bool) (arguments : List String) :
    Except UsageFault Request := do
  let words ← Words.read renderRules true arguments
  if words.has "--help" then return .help
  match words.arguments with
  | [] => throw (.argumentMissing "PATH")
  | [path] =>
    checkPath isThere path
    throw (.argumentMissing "NAME")
  | path :: name :: rest =>
    checkPath isThere path
    match rest with
    | [] =>
      return .render path name (words.value? "--params") (words.values "--param")
        ((words.value? "--marker").getD "?")
    | extra :: _ => throw (.argumentUnwanted extra)

/-- The options before a command. -/
def rules : List OptionRule :=
  [⟨"--log-level", true⟩, ⟨"--log-json", false⟩, helpRule]

/-- What a command line asks for, when a test says which paths are there. -/
def Invocation.ofWords (isThere : String → Bool) (line : List String) :
    Except UsageFault Invocation := do
  let words ← Words.read rules false line
  if words.has "--help" then return ⟨none, .help⟩
  let log ← logOf words
  match words.arguments with
  | [] => throw .noCommand
  | "list" :: rest => return ⟨log, ← listRequest isThere rest⟩
  | "render" :: rest => return ⟨log, ← renderRequest isThere rest⟩
  | other :: _ => throw (.unknownCommand other)

end SqlTemplate.Command
