import SqlTemplate.Digest.Md5
import SqlTemplate.Source.FileTree
import SqlTemplate.Statement.Parser

/-! A registry serves statements by name, whether loaded from files or added directly. -/

namespace SqlTemplate

/-- A file that statements were loaded from. -/
structure SourceFile where
  /-- Its text when it was loaded. -/
  content : Text
  /-- Its path in one spelling. -/
  path : String

/-- The digest of a file's text. -/
def SourceFile.checksum (file : SourceFile) : String :=
  Md5.ofText file.content

/-- Statements by name, the files they came from, and for each name where its statement is from. -/
structure Registry where
  /-- How files are read. -/
  encoding : Encoding
  /-- The statements by name. -/
  statements : List (String × Statement)
  /-- The loaded files by path. -/
  files : List (String × SourceFile)
  /-- The path of each name's file, or the mark of a statement added directly. -/
  origins : List (String × String)

/-- Why a statement is not added. -/
inductive AdditionFault where
  /-- The name is in use. -/
  | nameTaken (name origin : String)

/-- The report of a statement that is not added. -/
def AdditionFault.report : AdditionFault → Report
  | nameTaken name origin =>
    .plain "ValueError" s!"Query name '{name}' already exists (source: {origin})"

namespace Registry

/-- The mark of a statement added directly. -/
def addedDirectly : String := "<directly added>"

/-- A registry without statements. -/
def empty (encoding : Encoding) : Registry :=
  ⟨encoding, [], [], []⟩

/-- Whether a name has a statement. -/
def has (registry : Registry) (name : String) : Bool :=
  (registry.statements.lookup name).isSome

/-- Whether a file has been loaded. -/
def hasFile (registry : Registry) (path : String) : Bool :=
  (registry.files.lookup path).isSome

/-- A registry with one more statement. -/
def register (registry : Registry) (name : String) (statement : Statement) (origin : String) :
    Registry :=
  { registry with
    statements := registry.statements ++ [(name, statement)]
    origins := registry.origins ++ [(name, origin)] }

/-- A registry with one more file. -/
def record (registry : Registry) (file : SourceFile) : Registry :=
  { registry with files := registry.files ++ [(file.path, file)] }

/-- A name within a scope, which the top level is not. -/
def scopedName (scope : List String) (name : String) : String :=
  if scope.isEmpty then name else ".".intercalate scope ++ "." ++ name

/-- A registry with the statements of a file, up to the first whose name is taken. -/
def registerAll (scope : List String) (file : String) :
    List Statement → Registry → Registry × Except SourceFault Unit
  | [], registry => (registry, .ok ())
  | statement :: rest, registry =>
    let name := scopedName scope statement.name
    if registry.has name then
      (registry, .error (.nameTaken name ((registry.origins.lookup name).getD "unknown")))
    else registerAll scope file rest (registry.register name statement file)

/-- The text of the file at a path. -/
def read (registry : Registry) (tree : FileTree) (path : Path) : Except LoadFault Text :=
  match tree.find? path with
  | none => .error (.notFound path.toString none)
  | some .directory => .error (.unusable path.toString (.isDirectory path.toString))
  | some (.file content) =>
    match registry.encoding.decode content with
    | .ok text => .ok text.unifyNewlines
    | .error fault => .error (.unusable path.toString (.undecodable fault))

/-- A registry with the statements of a file, which is passed over when it has been loaded. -/
def loadFile (tree : FileTree) (scope : List String) (path : Path) (registry : Registry) :
    Registry × Journal Event LoadFault Unit :=
  let file := path.toString
  if registry.hasFile file then (registry, .succeed ())
  else match registry.read tree path with
    | .error fault => (registry, .fail fault)
    | .ok content =>
      let parsed := Statement.parseFile file content
      match parsed.outcome with
      | .error fault => (registry, ⟨parsed.events, .error fault⟩)
      | .ok statements =>
        -- The file counts as loaded even when one of its names turns out to be taken.
        let (loaded, outcome) :=
          registerAll scope file statements (registry.record ⟨content, file⟩)
        (loaded, ⟨parsed.events, outcome.mapError (.unusable file)⟩)

/-- A registry with the statements of some files, up to the first that fails. -/
def loadFiles (tree : FileTree) : List (List String × Path) → Registry →
    Registry × Journal Event LoadFault Unit
  | [], registry => (registry, .succeed ())
  | (scope, path) :: rest, registry =>
    let (loaded, journal) := loadFile tree scope path registry
    match journal.outcome with
    | .error fault => (loaded, ⟨journal.events, .error fault⟩)
    | .ok () =>
      let (done, others) := loadFiles tree rest loaded
      (done, ⟨journal.events ++ others.events, others.outcome⟩)

/-- The files that a spelling leads to, each with its scope: the sources below a directory, in the
directories they are in, or one file at the top level. -/
def targets (tree : FileTree) (spelling : String) : Except LoadFault (List (List String × Path)) :=
  let path := Path.ofString spelling
  match tree.find? path with
  | none =>
    .error (if tree.isTooLong path then .tooLong path.toString else .notFound spelling none)
  | some (.file _) => .ok [([], path)]
  | some .directory => .ok ((tree.sources path).map fun way => (way.dropLast, path.append way))

/-- A registry with the statements of all files that some spellings lead to, up to the first
failure, beside the count of the files. -/
def loadPaths (tree : FileTree) : List String → Registry →
    Registry × Journal Event LoadFault Nat
  | [], registry => (registry, .succeed 0)
  | spelling :: rest, registry =>
    match targets tree spelling with
    | .error fault => (registry, .fail fault)
    | .ok found =>
      let (loaded, journal) := loadFiles tree found registry
      match journal.outcome with
      | .error fault => (loaded, ⟨journal.events, .error fault⟩)
      | .ok () =>
        let (done, others) := loadPaths tree rest loaded
        (done, ⟨journal.events ++ others.events, others.outcome.map (found.length + ·)⟩)

/-- A registry with the statements of some files and directories. The load is noted either way, and
what it registered before a failure stays. -/
def load (tree : FileTree) (spellings : List String) (registry : Registry) :
    Registry × Journal Event LoadFault Unit :=
  let (loaded, journal) := loadPaths tree spellings registry
  match journal.outcome with
  | .error fault => (loaded, ⟨journal.events ++ [.loadFailed fault.report], .error fault⟩)
  | .ok files =>
    let fresh := loaded.statements.length - registry.statements.length
    (loaded, ⟨journal.events ++ [.loaded files fresh], .ok ()⟩)

/-- A registry with a template added under a name, which has to be new. -/
def add (registry : Registry) (name : String) (sql : Text) : Except AdditionFault Registry :=
  if registry.has name then
    .error (.nameTaken name ((registry.origins.lookup name).getD addedDirectly))
  else .ok (registry.register name ⟨name, 0, sql.trim⟩ addedDirectly)

/-- A name with each of its dotted parts in the form that headings give. -/
def normalPath (name : String) : String :=
  ".".intercalate (((Text.pieces '.' name.toList).map Statement.normalName).map String.ofList)

/-- The names of all statements, sorted. -/
def names (registry : Registry) : List String :=
  (registry.statements.map Prod.fst).mergeSort fun a b => decide (a ≤ b)

/-- The paths of all loaded files, sorted. -/
def paths (registry : Registry) : List String :=
  (registry.files.map Prod.fst).mergeSort fun a b => decide (a ≤ b)

/-- The template of a name, which is looked up in its normal form. -/
def template (registry : Registry) (name : String) : Except LoadFault Text :=
  match registry.statements.lookup (normalPath name) with
  | some statement => .ok statement.sql
  | none =>
    let known := if registry.statements.isEmpty then "none" else ", ".intercalate registry.names
    .error (.notFound name
      (some s!"Statement '{name}' not found. Available statements: {known}"))

/-- The loaded file of a path in one spelling. -/
def file? (registry : Registry) (path : String) : Option SourceFile :=
  registry.files.lookup path

/-- The loaded file that the statement of a name is from. -/
def fileOf? (registry : Registry) (name : String) : Option SourceFile :=
  match registry.origins.lookup name with
  | some path => if path.isEmpty then none else registry.file? path
  | none => none

/-- A registry that has forgotten all statements and files. -/
def clear (registry : Registry) : Registry :=
  empty registry.encoding

end Registry

end SqlTemplate
