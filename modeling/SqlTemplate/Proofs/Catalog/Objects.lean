import SqlTemplate.Proofs.Catalog.Nesting

/-! Catalogs and queries are objects that calls make one after the other. What is done to objects is
done to the catalogs that they are. -/

namespace SqlTemplate

/-- A query as an object, which has a number of its own. -/
structure QueryObject where
  /-- The number. -/
  number : Nat
  /-- The query. -/
  query : Query

/-- A catalog as an object. Beside what it keeps by name it has attributes, which refer to objects
by their numbers. -/
inductive CatalogObject where
  /-- A catalog with its number and its attributes. -/
  | mk (number : Nat) (config : Option Config) (queries : List (String × QueryObject))
      (children : List (String × CatalogObject)) (attributes : List (String × Nat))

namespace CatalogObject

/-- The number of a catalog. -/
def number : CatalogObject → Nat
  | mk number _ _ _ _ => number

/-- The settings of its queries. -/
def config : CatalogObject → Option Config
  | mk _ config _ _ _ => config

/-- Its queries by name. -/
def queries : CatalogObject → List (String × QueryObject)
  | mk _ _ queries _ _ => queries

/-- The catalogs within it by name. -/
def children : CatalogObject → List (String × CatalogObject)
  | mk _ _ _ children _ => children

/-- The numbers of the objects that its attributes refer to. -/
def attributes : CatalogObject → List (String × Nat)
  | mk _ _ _ _ attributes => attributes

/-- A new catalog. -/
def new (number : Nat) (config : Option Config) : CatalogObject :=
  mk number config [] [] []

mutual

/-- The catalog that an object is. -/
def catalog : CatalogObject → Catalog
  | mk _ config queries children _ =>
    .mk config (queries.map fun entry => (entry.1, entry.2.query)) (catalogs children)

/-- The catalogs that some objects are, by the same names. -/
def catalogs : List (String × CatalogObject) → List (String × Catalog)
  | [] => []
  | (name, child) :: rest => (name, catalog child) :: catalogs rest

end

mutual

/-- The numbers of a catalog and of all objects in it. -/
def numbers : CatalogObject → List Nat
  | mk number _ queries children _ =>
    number :: (queries.map fun entry => entry.2.number) ++ childNumbers children

/-- The numbers of some catalogs and of all objects in them. -/
def childNumbers : List (String × CatalogObject) → List Nat
  | [] => []
  | (_, child) :: rest => numbers child ++ childNumbers rest

end

/-- An object that a name leads to. -/
inductive Item where
  /-- A query. -/
  | query (query : QueryObject)
  /-- A catalog. -/
  | catalog (catalog : CatalogObject)

/-- The number of an item. -/
def Item.number : Item → Nat
  | query object => object.number
  | catalog object => object.number

/-- What an item is. -/
def Item.plain : Item → Catalog.Item
  | query object => .query object.query
  | catalog object => .catalog object.catalog

/-- The item that a head leads to after a scope. -/
def getAt (object : CatalogObject) (head : String) : List String → Except CatalogFault Item
  | [] =>
    match object.queries.lookup head, object.children.lookup head with
    | some query, _ => .ok (.query query)
    | none, some child => .ok (.catalog child)
    | none, none => .error (.unknown head)
  | name :: rest =>
    match object.children.lookup name with
    | some child => getAt child head rest
    | none => .error (.unknown name)

/-- The item that a dotted name leads to. -/
def get (object : CatalogObject) (name : String) : Except CatalogFault Item :=
  let dotted := DottedName.ofString name
  object.getAt dotted.head dotted.scope

/-- The number of the object that the attribute of a name refers to. -/
def member (object : CatalogObject) (name : String) : Except CatalogFault Nat :=
  match object.attributes.lookup name with
  | some number => .ok number
  | none => .error (.noMember name)

/-- The catalog that some names lead to, each within the one before. -/
def within? (object : CatalogObject) : List String → Option CatalogObject
  | [] => some object
  | name :: rest =>
    match object.children.lookup name with
    | some child => within? child rest
    | none => none

/-- A catalog with a query put under a key, where it becomes an attribute. -/
def withQuery (object : CatalogObject) (key : String) (query : QueryObject) : CatalogObject :=
  mk object.number object.config (Catalog.put object.queries key query) object.children
    (Catalog.put object.attributes key query.number)

/-- A catalog with a new one put under a name, where it becomes an attribute. -/
def withNew (object : CatalogObject) (name : String) (number : Nat) : CatalogObject :=
  mk object.number object.config object.queries
    (Catalog.put object.children name (new number object.config))
    (Catalog.put object.attributes name number)

/-- A catalog with another one put in the place of that of a name, whose object it is. -/
def withChild (object : CatalogObject) (name : String) (child : CatalogObject) : CatalogObject :=
  mk object.number object.config object.queries (Catalog.put object.children name child)
    object.attributes

/-- A catalog in which there is one of a name, which is made if it is missing, that one, and the
number of the next new object. -/
def ensure (object : CatalogObject) (name : String) (next : Nat) :
    CatalogObject × CatalogObject × Nat :=
  match object.children.lookup name with
  | some child => (object, child, next)
  | none => (object.withNew name next, new next object.config, next + 1)

/-- A catalog to which a query is added under a key within a scope, the number of the next new
object, and the query. -/
def addAt (object : CatalogObject) (head key : String) (sql : Text) (next : Nat) :
    List String → CatalogObject × Nat × Except CatalogFault QueryObject
  | [] =>
    match object.catalog.refuseQuery head with
    | some fault => (object, next, .error fault)
    | none =>
      let query : QueryObject := ⟨next, Query.make sql object.config (some key)⟩
      (object.withQuery key query, next + 1, .ok query)
  | name :: rest =>
    match object.catalog.refuseScope name with
    | some fault => (object, next, .error fault)
    | none =>
      let (opened, child, between) := object.ensure name next
      let (grown, after, outcome) := addAt child head key sql between rest
      (opened.withChild name grown, after, outcome)

/-- A catalog to which a query is added under a dotted name. -/
def add (object : CatalogObject) (name : String) (sql : Text) (next : Nat) :
    CatalogObject × Nat × Except CatalogFault QueryObject :=
  let dotted := DottedName.ofString name
  object.addAt dotted.head dotted.key sql next dotted.scope

/-- A catalog to which named templates are added, up to the first that is refused. -/
def addAll (object : CatalogObject) (next : Nat) : List (String × Text) → CatalogObject × Nat
  | [] => (object, next)
  | (name, sql) :: rest =>
    match object.add name sql next with
    | (grown, after, .ok _) => addAll grown after rest
    | (grown, after, .error _) => (grown, after)

/-- A catalog in which templates are added to the one that some names lead to, if they lead to
one. -/
def addAllWithin (object : CatalogObject) (given : List (String × Text)) (next : Nat) :
    List String → CatalogObject × Nat
  | [] => object.addAll next given
  | name :: rest =>
    match object.children.lookup name with
    | some child =>
      let (grown, after) := addAllWithin child given next rest
      (object.withChild name grown, after)
    | none => (object, next)

/-- A catalog after some calls on it and on those within it. -/
def performAllWithin (object : CatalogObject) (next : Nat) :
    List Catalog.NestedCall → CatalogObject × Nat
  | [] => (object, next)
  | nested :: rest =>
    let (grown, after) := object.addAllWithin nested.call.templates next nested.scope
    performAllWithin grown after rest

section Fields

variable (object : CatalogObject) (name : String) (query : QueryObject) (next : Nat)
  (child : CatalogObject)

@[simp] theorem number_withQuery : (object.withQuery name query).number = object.number := rfl

@[simp] theorem queries_withQuery :
    (object.withQuery name query).queries = Catalog.put object.queries name query := rfl

@[simp] theorem children_withQuery : (object.withQuery name query).children = object.children := rfl

@[simp] theorem attributes_withQuery :
    (object.withQuery name query).attributes =
      Catalog.put object.attributes name query.number := rfl

@[simp] theorem number_withNew : (object.withNew name next).number = object.number := rfl

@[simp] theorem queries_withNew : (object.withNew name next).queries = object.queries := rfl

@[simp] theorem children_withNew :
    (object.withNew name next).children =
      Catalog.put object.children name (new next object.config) := rfl

@[simp] theorem attributes_withNew :
    (object.withNew name next).attributes = Catalog.put object.attributes name next := rfl

@[simp] theorem number_withChild : (object.withChild name child).number = object.number := rfl

@[simp] theorem queries_withChild : (object.withChild name child).queries = object.queries := rfl

@[simp] theorem children_withChild :
    (object.withChild name child).children = Catalog.put object.children name child := rfl

@[simp] theorem attributes_withChild :
    (object.withChild name child).attributes = object.attributes := rfl

end Fields

/-! What objects are catalogs: each operation on objects is that on the catalogs they are. -/

section Plain

variable {α β : Type} {entries : List (String × α)} {name : String}

/-- What a key leads to among entries that are made over is made over from what it led to. -/
theorem lookup_map_snd (make : α → β) :
    (entries.map fun entry => (entry.1, make entry.2)).lookup name =
      (entries.lookup name).map make :=
  -- Making an item over does not depend on its key here.
  lookup_map_entries fun _ => make

/-- Entries may be made over before something is put among them or after. -/
theorem put_map_snd (make : α → β) (item : α) :
    Catalog.put (entries.map fun entry => (entry.1, make entry.2)) name (make item) =
      (Catalog.put entries name item).map fun entry => (entry.1, make entry.2) := by
  -- By induction on the entries; what they are made into does not change their names.
  induction entries with
  | nil => rfl
  | cons entry rest ih =>
    obtain ⟨key, old⟩ := entry
    rw [List.map_cons, Catalog.put, Catalog.put, ih]
    split <;> rfl

/-- What is put twice under a name is what was put last. -/
theorem put_put (first item : α) :
    Catalog.put (Catalog.put entries name first) name item = Catalog.put entries name item := by
  -- By induction to the entry with the name, where the second item replaces the first.
  induction entries with
  | nil => simp [Catalog.put]
  | cons entry rest ih =>
    obtain ⟨key, old⟩ := entry
    by_cases same : key = name
    · simp [Catalog.put, same]
    · simp [Catalog.put, same, ih]

end Plain

section Catalogs

variable {object child inner : CatalogObject} {head key name : String} {sql : Text} {next : Nat}
  {scope : List String}

/-- The catalogs of some objects are made over one by one. -/
theorem catalogs_eq_map (children : List (String × CatalogObject)) :
    catalogs children = children.map fun entry => (entry.1, entry.2.catalog) := by
  -- The two recursions go through the entries alike.
  induction children with
  | nil => rfl
  | cons entry rest ih => rw [catalogs, ih, List.map_cons]

@[simp] theorem config_catalog (object : CatalogObject) :
    object.catalog.config = object.config := by
  cases object
  rfl

@[simp] theorem queries_catalog (object : CatalogObject) :
    object.catalog.queries = object.queries.map fun entry => (entry.1, entry.2.query) := by
  cases object
  rfl

@[simp] theorem children_catalog (object : CatalogObject) :
    object.catalog.children = object.children.map fun entry => (entry.1, entry.2.catalog) := by
  cases object
  exact catalogs_eq_map _

/-- A name leads to the item of the catalog that it leads to in the object. -/
theorem getAt_catalog (object : CatalogObject) (head : String) (scope : List String) :
    object.catalog.getAt head scope = (object.getAt head scope).map Item.plain := by
  -- Both walks look up the same names, since the entries are made over one by one.
  induction scope generalizing object with
  | nil =>
    rw [Catalog.getAt, getAt, queries_catalog, children_catalog, lookup_map_snd, lookup_map_snd]
    cases object.queries.lookup head with
    | some query => rfl
    | none => cases object.children.lookup head <;> rfl
  | cons name rest ih =>
    rw [Catalog.getAt, getAt, children_catalog, lookup_map_snd]
    cases object.children.lookup name with
    | some child => exact ih child
    | none => rfl

/-- Names lead to the catalog of the object that they lead to. -/
theorem within?_catalog (object : CatalogObject) (scope : List String) :
    object.catalog.within? scope = (object.within? scope).map catalog := by
  -- By induction on the names; a name leads to an object just when it leads to its catalog.
  induction scope generalizing object with
  | nil => rfl
  | cons name rest ih =>
    rw [Catalog.within?, within?, children_catalog, lookup_map_snd]
    cases object.children.lookup name with
    | some child => exact ih child
    | none => rfl

/-- A catalog with a child put in its place is one with that child's catalog in its place. -/
theorem catalog_withChild (object child : CatalogObject) (name : String) :
    (object.withChild name child).catalog =
      .mk object.catalog.config object.catalog.queries
        (Catalog.put object.catalog.children name child.catalog) := by
  -- Making the children over goes through the replacement of one of them.
  rw [withChild, catalog, catalogs_eq_map, config_catalog, queries_catalog, children_catalog]
  exact congrArg _ (put_map_snd catalog child).symm

/-- The catalog of a name that is ensured is the one of that name, or else an empty one, and only
what is kept under that name may change. -/
theorem catalog_ensure (object grown : CatalogObject) (name : String) (next : Nat) :
    (object.ensure name next).2.1.catalog = object.catalog.child name ∧
      ((object.ensure name next).1.withChild name grown).catalog =
        (object.withChild name grown).catalog := by
  -- An object that is there is handed out as it is. A new one is an empty catalog, and what is put
  -- in its place later leaves nothing of it.
  have kept : (object.children.map fun entry => (entry.1, entry.2.catalog)).lookup name =
      (object.children.lookup name).map catalog := lookup_map_snd catalog
  rw [ensure, Catalog.child, children_catalog, kept]
  cases object.children.lookup name with
  | some child => exact ⟨rfl, rfl⟩
  | none =>
    refine ⟨by rw [config_catalog]; rfl, ?_⟩
    simp only [withChild, withNew, catalog, children, config, queries, put_put]

/-- An addition to an object is one to the catalog that it is. -/
theorem catalog_addAt (object : CatalogObject) (head key : String) (sql : Text) (next : Nat)
    (scope : List String) :
    let (grown, _, outcome) := object.addAt head key sql next scope
    object.catalog.addAt head key sql scope =
      (grown.catalog, outcome.map QueryObject.query) := by
  induction scope generalizing object next with
  | nil =>
    rw [addAt, Catalog.addAt]
    cases object.catalog.refuseQuery head with
    | some fault => rfl
    | none =>
      -- The query becomes an attribute too, of which the catalog knows nothing.
      have put := @put_map_snd _ _ object.queries key QueryObject.query
        ⟨next, Query.make sql object.config (some key)⟩
      simp only [withQuery, catalog, catalogs_eq_map, config_catalog, queries_catalog,
        children_catalog, ← put]
      rfl
  | cons name rest ih =>
    rw [addAt]
    cases refused : object.catalog.refuseScope name with
    | some fault =>
      rw [Catalog.addAt, refused]
      rfl
    | none =>
      -- What is added to the ensured child is added to the catalog of that name.
      have inside := ih (object.ensure name next).2.1 (object.ensure name next).2.2
      rw [Catalog.addAt_cons refused, ← (catalog_ensure object object name next).1, inside]
      simp only [(catalog_ensure object _ name next).2, catalog_withChild]

/-- Additions to an object are those to the catalog that it is. -/
theorem catalog_addAll (object : CatalogObject) (next : Nat) (given : List (String × Text)) :
    (object.addAll next given).1.catalog = (object.catalog.addAll given).1 := by
  -- The two recursions make the same addition and stop at the same refusal.
  induction given generalizing object next with
  | nil => rfl
  | cons entry rest ih =>
    obtain ⟨name, sql⟩ := entry
    have first := catalog_addAt object (DottedName.ofString name).head
      (DottedName.ofString name).key sql next (DottedName.ofString name).scope
    rw [addAll, Catalog.addAll, Catalog.add, first, add]
    rcases object.addAt _ _ sql next _ with ⟨grown, after, fault | query⟩
    · rfl
    · exact ih grown after

/-- Additions within an object are changes within the catalog that it is. -/
theorem catalog_addAllWithin (object : CatalogObject) (given : List (String × Text)) (next : Nat)
    (scope : List String) :
    (object.addAllWithin given next scope).1.catalog =
      object.catalog.change (fun inner => (inner.addAll given).1) scope := by
  -- By induction on the names; where one has no object, nothing is changed on either side.
  induction scope generalizing object next with
  | nil => exact catalog_addAll object next given
  | cons name rest ih =>
    rw [addAllWithin, Catalog.change, children_catalog, lookup_map_snd]
    cases object.children.lookup name with
    | none => rfl
    | some child =>
      simp only [Option.map_some, catalog_withChild, ih child next, children_catalog]

/-- Calls on an object are calls on the catalog that it is. -/
theorem catalog_performAllWithin (object : CatalogObject) (next : Nat)
    (calls : List Catalog.NestedCall) :
    (object.performAllWithin next calls).1.catalog = object.catalog.performAllWithin calls := by
  -- By induction on the calls: what one does to the object, it does to the catalog.
  induction calls generalizing object next with
  | nil => rfl
  | cons nested rest ih =>
    have first : (object.addAllWithin nested.call.templates next nested.scope).1.catalog =
        object.catalog.performWithin nested := by
      rw [catalog_addAllWithin, Catalog.performWithin]
      simp only [Catalog.perform_eq]
    rw [performAllWithin, ih, first]
    rfl

end Catalogs

end CatalogObject

end SqlTemplate
