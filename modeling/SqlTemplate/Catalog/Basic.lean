import SqlTemplate.Catalog.Reserved
import SqlTemplate.Query
import SqlTemplate.Registry

/-! A catalog keeps queries by name, those with dotted names in catalogs within it. -/

namespace SqlTemplate

/-- Queries by name, and catalogs by the names that precede a dot. -/
inductive Catalog where
  /-- A catalog with the settings of its queries. -/
  | mk (config : Option Config) (queries : List (String × Query))
      (children : List (String × Catalog))

/-- What a name leads to in a catalog. -/
inductive Catalog.Item where
  /-- A query. -/
  | query (query : Query)
  /-- A catalog of the queries whose names go on after a dot. -/
  | catalog (catalog : Catalog)

/-- Why a catalog refuses a name or does not know it. -/
inductive CatalogFault where
  /-- The name is that of a member. -/
  | reserved (name : String)
  /-- A query has the name, so no catalog can. -/
  | queryExists (name : String)
  /-- A catalog has the name, so no query can. -/
  | catalogExists (name : String)
  /-- Nothing has the name. -/
  | unknown (name : String)
  /-- There is no member of the name. -/
  | noMember (name : String)
  /-- A catalog cannot be called. -/
  | notCallable

/-- The report of a name that a catalog refuses or does not know. -/
def CatalogFault.report : CatalogFault → Report
  | reserved name =>
    .plain "ValueError" s!"Query name {Quoted.ofString name} clashes with a Queries attribute"
  | queryExists name =>
    .plain "ValueError"
      s!"Namespace {Quoted.ofString name} clashes with a query of the same name"
  | catalogExists name =>
    .plain "ValueError"
      s!"Query name {Quoted.ofString name} clashes with a namespace of the same name"
  | unknown name => .plain "KeyError" (Quoted.ofString name)
  | noMember name => .plain "AttributeError" s!"'Queries' object has no attribute '{name}'"
  | notCallable => .plain "TypeError" "'Queries' object is not callable"

/-- A dotted name, taken apart at its dots. -/
structure DottedName where
  /-- The names of the catalogs on the way. -/
  scope : List String
  /-- The name within the last catalog. -/
  head : String
  /-- What the name of the query is: its head, with the dot that may end the dotted name. -/
  key : String

namespace DottedName

/-- The dotted name of some pieces between dots. A dot at the very end separates nothing. -/
def ofPieces : List String → DottedName
  | [] => ⟨[], "", ""⟩
  | [head] => ⟨[], head, head⟩
  | [head, ""] => ⟨[], head, head ++ "."⟩
  | first :: rest =>
    let inner := ofPieces rest
    ⟨first :: inner.scope, inner.head, inner.key⟩

/-- The dotted name of a text. -/
def ofString (name : String) : DottedName :=
  ofPieces ((Text.pieces '.' name.toList).map String.ofList)

end DottedName

namespace Catalog

/-- The settings of a catalog's queries. -/
def config : Catalog → Option Config
  | mk config _ _ => config

/-- The queries by name. -/
def queries : Catalog → List (String × Query)
  | mk _ queries _ => queries

/-- The catalogs within a catalog by name. -/
def children : Catalog → List (String × Catalog)
  | mk _ _ children => children

/-- A catalog without queries. -/
def empty (config : Option Config) : Catalog :=
  mk config [] []

/-- Something kept under a name, in place of the earlier one or else at the end. -/
def put {α : Type} (entries : List (String × α)) (name : String) (item : α) : List (String × α) :=
  match entries with
  | [] => [(name, item)]
  | (key, old) :: rest =>
    if key = name then (key, item) :: rest else (key, old) :: put rest name item

/-- Why a catalog refuses a name for a catalog within it. -/
def refuseScope (catalog : Catalog) (name : String) : Option CatalogFault :=
  if isReserved name then some (.reserved name)
  else if (catalog.queries.lookup name).isSome then some (.queryExists name)
  else none

/-- Why a catalog refuses a name for a query. -/
def refuseQuery (catalog : Catalog) (name : String) : Option CatalogFault :=
  if isReserved name then some (.reserved name)
  else if (catalog.children.lookup name).isSome then some (.catalogExists name)
  else none

/-- A catalog with a query added under a key within a scope. The catalogs on the way are made as
far as they are missing, and stay when the name is refused in the end. -/
def addAt (catalog : Catalog) (head key : String) (sql : Text) :
    List String → Catalog × Except CatalogFault Query
  | [] =>
    match catalog.refuseQuery head with
    | some fault => (catalog, .error fault)
    | none =>
      let query := Query.make sql catalog.config (some key)
      (mk catalog.config (put catalog.queries key query) catalog.children, .ok query)
  | name :: rest =>
    match catalog.refuseScope name with
    | some fault => (catalog, .error fault)
    | none =>
      let child := (catalog.children.lookup name).getD (empty catalog.config)
      let (grown, outcome) := addAt child head key sql rest
      (mk catalog.config catalog.queries (put catalog.children name grown), outcome)

/-- A catalog with a query added under a dotted name. -/
def add (catalog : Catalog) (name : String) (sql : Text) :
    Catalog × Except CatalogFault Query :=
  let dotted := DottedName.ofString name
  catalog.addAt dotted.head dotted.key sql dotted.scope

/-- A catalog with named templates added, up to the first that is refused. -/
def addAll (catalog : Catalog) : List (String × Text) → Catalog × Except CatalogFault Unit
  | [] => (catalog, .ok ())
  | (name, sql) :: rest =>
    match catalog.add name sql with
    | (grown, .ok _) => addAll grown rest
    | (grown, .error fault) => (grown, .error fault)

/-- What a head leads to after a scope. -/
def getAt (catalog : Catalog) (head : String) : List String → Except CatalogFault Item
  | [] =>
    match catalog.queries.lookup head, catalog.children.lookup head with
    | some query, _ => .ok (.query query)
    | none, some child => .ok (.catalog child)
    | none, none => .error (.unknown head)
  | name :: rest =>
    match catalog.children.lookup name with
    | some child => getAt child head rest
    | none => .error (.unknown name)

/-- What a dotted name leads to. -/
def get (catalog : Catalog) (name : String) : Except CatalogFault Item :=
  let dotted := DottedName.ofString name
  catalog.getAt dotted.head dotted.scope

/-- The member of a name, which is not taken apart. -/
def member (catalog : Catalog) (name : String) : Except CatalogFault Item :=
  match catalog.queries.lookup name, catalog.children.lookup name with
  | some query, _ => .ok (.query query)
  | none, some child => .ok (.catalog child)
  | none, none => .error (.noMember name)

mutual

/-- The dotted names of all queries, some of them twice. -/
def allNames : Catalog → List String
  | mk _ queries children => queries.map Prod.fst ++ childNames children

/-- The dotted names of the queries in some catalogs, each after the name of its catalog. -/
def childNames : List (String × Catalog) → List String
  | [] => []
  | (name, child) :: rest => (allNames child).map (name ++ "." ++ ·) ++ childNames rest

end

/-- The dotted names of all queries, sorted, each once. -/
def names (catalog : Catalog) : List String :=
  catalog.allNames.eraseDups.mergeSort fun a b => decide (a ≤ b)

/-- Whether a dotted name is that of a query. -/
def contains (catalog : Catalog) (name : String) : Bool :=
  catalog.names.contains name

/-- A catalog in words. -/
def shown (catalog : Catalog) : String :=
  s!"Queries({(Value.list (catalog.names.map .str)).shown})"

end Catalog

/-- Why a catalog is not made from files. -/
inductive CatalogLoadFault where
  /-- A file or a statement is missing or unusable. -/
  | load (fault : LoadFault)
  /-- A name is refused. -/
  | catalog (fault : CatalogFault)

/-- The report of a catalog that is not made from files. -/
def CatalogLoadFault.report : CatalogLoadFault → Report
  | load fault => fault.report
  | catalog fault => fault.report

namespace Catalog

/-- A catalog with the templates of a registry added under some of its names, up to the first that
is not found or refused. -/
def addRegistered (registry : Registry) (catalog : Catalog) :
    List String → Catalog × Except CatalogLoadFault Unit
  | [] => (catalog, .ok ())
  | name :: rest =>
    match registry.template name with
    | .error fault => (catalog, .error (.load fault))
    | .ok sql =>
      match catalog.add name sql with
      | (grown, .ok _) => addRegistered registry grown rest
      | (grown, .error fault) => (grown, .error (.catalog fault))

/-- A catalog with all templates of a registry. -/
def addRegistry (catalog : Catalog) (registry : Registry) :
    Catalog × Except CatalogLoadFault Unit :=
  addRegistered registry catalog registry.names

/-- The catalog of the statements in some files and directories. -/
def load (tree : FileTree) (spellings : List String) (config : Option Config) :
    Journal Event CatalogLoadFault Catalog :=
  let (registry, journal) := (Registry.empty .utf8).load tree spellings
  match journal.outcome with
  | .error fault => ⟨journal.events, .error (.load fault)⟩
  | .ok () =>
    let (catalog, outcome) := (empty config).addRegistry registry
    ⟨journal.events, outcome.map fun () => catalog⟩

end Catalog

end SqlTemplate
