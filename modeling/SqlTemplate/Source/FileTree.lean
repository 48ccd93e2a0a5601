import SqlTemplate.Source.Path

/-! A file tree holds the files and directories that paths lead to. -/

namespace SqlTemplate

/-- Where a file or a directory is: the names on the way from the top. -/
abbrev Location := List String

/-- Files and directories, and the directory that relative paths begin in. -/
structure FileTree where
  /-- Where relative paths begin. -/
  current : Location
  /-- Files with their bytes, and directories that may be empty. -/
  entries : List (Location × Option (List UInt8))

/-- What a path leads to. -/
inductive FileTree.Node where
  /-- A file with its bytes. -/
  | file (content : List UInt8)
  /-- A directory. -/
  | directory

namespace FileTree

/-- A tree in which a location holds a file or an empty directory instead of what it held. -/
def write (tree : FileTree) (location : Location) (content : Option (List UInt8)) : FileTree :=
  { tree with
    entries := tree.entries.filter (fun entry => entry.1 ≠ location) ++ [(location, content)] }

/-- Where a path begins. -/
def start (tree : FileTree) (path : Path) : Location :=
  if path.root.isEmpty then tree.current else []

/-- The location reached by one more name, where two dots lead back, though not past the top. -/
def step (location : Location) (part : String) : Location :=
  if part = ".." then location.dropLast else location ++ [part]

/-- Where a path leads when every name on it leads on. -/
def locate (tree : FileTree) (path : Path) : Location :=
  path.parts.foldl step (tree.start path)

/-- What is at a location; a location on the way to an entry is a directory. -/
def at? (tree : FileTree) (location : Location) : Option Node :=
  match tree.entries.lookup location with
  | some (some content) => some (.file content)
  | some none => some .directory
  | none =>
    if location.isPrefixOf tree.current ||
        tree.entries.any (fun entry => location.isPrefixOf entry.1) then
      some .directory
    else none

/-- The location reached from another one by some names, each leading on from a directory. -/
def follow (tree : FileTree) (location : Location) : List String → Option Location
  | [] => some location
  | part :: rest =>
    match tree.at? location with
    | some .directory => follow tree (step location part) rest
    | _ => none

/-- Whether a name has more bytes than a name may have. -/
def isLongName (name : String) : Bool :=
  name.utf8ByteSize > 255

/-- Whether a path is refused for its length: all of it has more bytes than a path may have, or the
first name that leads on from no directory is too long. -/
def isTooLong (tree : FileTree) (path : Path) : Bool :=
  path.toString.utf8ByteSize > 4095 || meetsLongName (tree.start path) path.parts
where
  /-- Whether the names on a way lead to one that is too long. -/
  meetsLongName (location : Location) : List String → Bool
    | [] => false
    | part :: rest =>
      match tree.at? location with
      | some .directory => isLongName part || meetsLongName (step location part) rest
      | _ => false

/-- What a path leads to. -/
def find? (tree : FileTree) (path : Path) : Option Node := do
  tree.at? (← tree.follow (tree.start path) path.parts)

/-- The ways from a location to all files and directories below it, each way once. -/
def below (tree : FileTree) (location : Location) : List Location :=
  let ways := tree.entries.flatMap fun entry =>
    if location.isPrefixOf entry.1 then
      let way := entry.1.drop location.length
      (List.range way.length).map fun count => way.take (count + 1)
    else []
  ways.eraseDups

/-- Whether a way ends in a name for a source of statements. -/
def isSource (way : Location) : Bool :=
  match way.getLast? with
  | some name => ['.', 's', 'q', 'l'].isSuffixOf name.toList
  | none => false

/-- Whether one way comes before another or is the same. Ways are compared name by name, and a way
comes before those that go on from it. -/
def comesFirst : Location → Location → Bool
  | [], _ => true
  | _ :: _, [] => false
  | a :: first, b :: second => if a = b then comesFirst first second else decide (a ≤ b)

/-- The ways to the sources below a path, in the order of their names. -/
def sources (tree : FileTree) (path : Path) : List Location :=
  match tree.follow (tree.start path) path.parts with
  | some location =>
    ((tree.below location).filter isSource).mergeSort comesFirst
  | none => []

end FileTree

end SqlTemplate
