import SqlTemplate.Report.Wording

/-! A report of any kind can be assembled from values, as the wording of its kind demands. -/

namespace SqlTemplate

/-- What a report is assembled from. -/
inductive Ingredient where
  /-- A value. -/
  | value (value : Value)
  /-- Another report, which led to the one assembled. -/
  | cause (report : Report)

namespace Ingredient

/-- An ingredient as plain text. -/
def plain : Ingredient → String
  | .value given => given.plain
  | .cause report => report.message

/-- An ingredient with its structure shown. -/
def shown : Ingredient → String
  | .value given => given.shown
  | .cause report => report.shown

/-- The name of the kind of an ingredient. -/
def kindName : Ingredient → String
  | .value given => given.kindName
  | .cause report => report.kindName

/-- Whether an ingredient counts as present, as every report does. -/
def isTruthy : Ingredient → Bool
  | .value given => given.isTruthy
  | .cause _ => true

/-- An ingredient as a value, which is only a text for a report. -/
def toValue : Ingredient → Value
  | .value given => given
  | .cause report => .foreign report.message

/-- The pieces that an ingredient falls into. -/
def pieces? : Ingredient → Option (List Value)
  | .value given => given.pieces?
  | .cause _ => none

end Ingredient

/-- Why a report is not assembled. -/
inductive AssemblyFault where
  /-- More ingredients are given than the kind has places for. -/
  | tooMany (owner : ReportKind) (least most given : Nat)
  /-- Ingredients that the kind needs are not given. -/
  | missing (owner : ReportKind) (names : List String)
  /-- The kind has no place of a name. -/
  | unknownName (owner : ReportKind) (name : String)
  /-- A place is filled twice. -/
  | filledTwice (owner : ReportKind) (name : String)
  /-- What should be a list of names does not fall into pieces. -/
  | indivisible (kindName : String)
  /-- What should be joined to a text is none. -/
  | notText (place : Nat) (kindName : String)

namespace AssemblyFault

/-- Names in quotes, with a word before the last one. -/
def listed : List String → String
  | [] => ""
  | [name] => s!"'{name}'"
  | [first, second] => s!"'{first}' and '{second}'"
  | names =>
    let quoted := names.map fun name => s!"'{name}'"
    ", ".intercalate quoted.dropLast ++ ", and " ++ quoted.getLastD ""

/-- The words for a report that is not assembled, where the report itself takes the first place. -/
def message : AssemblyFault → String
  | tooMany owner least most given =>
    let places :=
      if least = most then
        s!"{most + 1} positional argument" ++ (if most = 0 then "" else "s")
      else s!"from {least + 1} to {most + 1} positional arguments"
    s!"{owner.name}.__init__() takes {places} but {given + 1} were given"
  | missing owner names =>
    let noun := if names.length = 1 then "argument" else "arguments"
    s!"{owner.name}.__init__() missing {names.length} required positional {noun}: {listed names}"
  | unknownName owner name =>
    s!"{owner.name}.__init__() got an unexpected keyword argument '{name}'"
  | filledTwice owner name =>
    s!"{owner.name}.__init__() got multiple values for argument '{name}'"
  | indivisible kindName => s!"'{kindName}' object is not iterable"
  | notText place kindName =>
    s!"sequence item {place}: expected str instance, {kindName} found"

/-- The report of a report that is not assembled. -/
def report (fault : AssemblyFault) : Report :=
  .plain "TypeError" fault.message

end AssemblyFault

/-- A place for an ingredient. -/
structure Place where
  /-- Its name. -/
  name : String
  /-- Whether it may stay empty. -/
  isOptional : Bool

namespace ReportKind

/-- The kind that decides on the places, which one kind leaves to a more general one. -/
def owner : ReportKind → ReportKind
  | parameterValue => parameter
  | kind => kind

/-- The places of a kind, except the general one, whose ingredients are as many as one likes. -/
def places : ReportKind → List Place
  | general => []
  | parameter | parameterValue | execution => [⟨"message", false⟩, ⟨"sql", true⟩]
  | undefinedParameter => [⟨"names", false⟩, ⟨"sql", true⟩]
  | unknownOperator => [⟨"operator", false⟩, ⟨"name", false⟩]
  | placeholder => [⟨"message", false⟩, ⟨"position", false⟩, ⟨"sql", true⟩]
  | capability => [⟨"missing", false⟩]
  | fileNotFound => [⟨"name", false⟩, ⟨"path", true⟩]
  | fileUnusable => [⟨"name", false⟩, ⟨"path", false⟩, ⟨"original_error", false⟩]

end ReportKind

/-- Ingredients by the names of their places. -/
abbrev Ingredients := List (String × Ingredient)

namespace Ingredients

/-- The ingredient of a place, which is null when the place is empty. -/
def get (ingredients : Ingredients) (name : String) : Ingredient :=
  (ingredients.lookup name).getD (.value .null)

/-- The given ingredients with the named ones, each of which fills a place of its own. -/
def fill (kind : ReportKind) (given : List Ingredient) (named : Ingredients) :
    Except AssemblyFault Ingredients :=
  let places := kind.places
  let owner := kind.owner
  let filled : Ingredients := (places.zip given).map fun (place, ingredient) =>
    (place.name, ingredient)
  let addNamed (done : Ingredients) (entry : String × Ingredient) :
      Except AssemblyFault Ingredients :=
    if !places.any fun place => place.name = entry.1 then .error (.unknownName owner entry.1)
    else if (done.lookup entry.1).isSome then .error (.filledTwice owner entry.1)
    else .ok (done ++ [entry])
  match named.foldlM addNamed filled with
  | .error fault => .error fault
  | .ok bound =>
    let needed := places.filter fun place => !place.isOptional
    let missing := needed.filter fun place => (bound.lookup place.name).isNone
    if places.length < given.length then
      .error (.tooMany owner needed.length places.length given.length)
    else if missing.isEmpty then .ok bound
    else .error (.missing owner (missing.map Place.name))

end Ingredients

namespace Report

/-- A detail that follows some notes, which has to be a text. -/
def detailText (notes : List String) (detail : Ingredient) : Except AssemblyFault String :=
  match detail with
  | .value (.str text) => .ok text
  | _ => .error (.notText notes.length detail.kindName)

/-- A report with its notes and its detail. A detail that counts as absent gives way to the first
note, and notes that count as absent are dropped. -/
def ofNotes (kind : ReportKind) (given : List Ingredient) (detail : Ingredient)
    (attributes : Entries) : Except AssemblyFault Report :=
  let notes := (given.filter Ingredient.isTruthy).map Ingredient.plain
  match detail.isTruthy, notes with
  | false, first :: rest => .ok (.detailed kind rest first attributes)
  | _, _ => (detailText notes detail).map fun text => .detailed kind notes text attributes

/-- The names that an ingredient falls into, beside the same names with commas between them. -/
def namesOf (ingredient : Ingredient) : Except AssemblyFault (List Value × String) :=
  let named (entry : Value × Nat) : Except AssemblyFault String :=
    match entry.1 with
    | .str text => .ok text
    | other => .error (.notText entry.2 other.kindName)
  match ingredient.pieces? with
  | none => .error (.indivisible ingredient.kindName)
  | some pieces => (pieces.zipIdx.mapM named).map fun texts => (pieces, ", ".intercalate texts)

/-- The report of a kind whose places are filled. -/
def ofIngredients (kind : ReportKind) (ingredients : Ingredients) :
    Except AssemblyFault Report :=
  let get := ingredients.get
  let kept (name : String) : Value := (get name).toValue
  match kind with
  | .general => ofNotes kind [] (get "detail") []
  | .parameter | .parameterValue => ofNotes kind [] (get "message") [("sql", kept "sql")]
  | .undefinedParameter => do
    let (names, listed) ← namesOf (get "names")
    return .undefinedNames names listed (kept "sql")
  | .unknownOperator =>
    .ok (.unknownOperator (kept "operator") (get "operator").shown (get "name").shown)
  | .placeholder =>
    .ok (.brokenPlaceholder (get "message").plain (kept "position") (kept "sql"))
  | .capability => do
    let (names, listed) ← namesOf (get "missing")
    return .missingOperations names listed
  | .execution =>
    -- Only a query that follows the words makes a text of them.
    if (get "sql").isTruthy then .ok (.refusedQuery (get "message").plain (kept "sql"))
    else ofNotes kind [] (get "message") [("sql", kept "sql")]
  | .fileNotFound => .ok (.notFound (kept "name") (kept "path"))
  | .fileUnusable =>
    let reason := get "original_error"
    .ok (.unusableFile (kept "name") (kept "path") reason.kindName reason.plain)

/-- A report assembled from ingredients in the order of the places, and further ones by name. -/
def assemble (kind : ReportKind) (given : List Ingredient) (named : Ingredients) :
    Except AssemblyFault Report :=
  match kind, named with
  | .general, [] => ofNotes kind given (.value (.str "")) []
  | .general, [("detail", detail)] => ofNotes kind given detail []
  | .general, named =>
    let other := named.find? fun entry => entry.1 ≠ "detail"
    .error (.unknownName kind ((other.map Prod.fst).getD "detail"))
  | _, _ => do ofIngredients kind (← Ingredients.fill kind given named)

end Report

end SqlTemplate
