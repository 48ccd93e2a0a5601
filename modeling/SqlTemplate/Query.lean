import SqlTemplate.Adapter.Basic
import SqlTemplate.Resolution.Resolver

/-! A query is a named template that can be resolved, and called with an adapter. -/

namespace SqlTemplate

/-- A named template, with settings if it has its own. -/
structure Query where
  /-- The name. -/
  name : String
  /-- The template. -/
  sql : Text
  /-- The settings. -/
  config : Option Config

/-- Why a call of a query has no result, where an adapter may fail for faults of its own. -/
inductive CallFault (fault : Type) where
  /-- The adapter lacks operations. -/
  | missing (operations : List Operation)
  /-- The template cannot be resolved. -/
  | resolution (cause : ResolutionFault)
  /-- The adapter failed. -/
  | execution (cause : fault)

/-- The report of a call without a result. -/
def CallFault.report : CallFault ExecutionFault → Report
  | missing operations =>
    let names := operations.map Operation.name
    .missingOperations (names.map .str) (", ".intercalate names)
  | resolution fault => fault.report
  | execution fault => fault.report

namespace Query

/-- A query under a name, where a name that is missing or empty is made up for. -/
def make (sql : Text) (config : Option Config) (name : Option String) : Query :=
  let given := name.getD ""
  ⟨if given.isEmpty then "query" else given, sql, config⟩

/-- A sentence about a query. -/
def doc (query : Query) : String :=
  s!"Run the {Quoted.ofString query.name} SQL template."

/-- A query in words. -/
def shown (query : Query) : String :=
  s!"QueryFunction(name={Quoted.ofString query.name}, sql={Quoted.ofString (String.ofList query.sql)})"

section Calling

variable {α fault result : Type} [Executor α fault result]

/-- The settings of a query for an adapter: its own, or else the adapter's, or else the default. -/
def configFor (query : Query) (adapter : Option α) : Config :=
  let preferred := adapter.bind fun present => (Executor.preference present).config?
  query.config.getD (preferred.getD .default)

/-- The resolution of a query. -/
def resolve (query : Query) (parameters : Value) (adapter : Option α) : Resolving Resolution :=
  SqlTemplate.resolve query.sql parameters (query.configFor adapter)

/-- The operations that a call needs and an adapter lacks; no adapter lacks them all. -/
def missing (adapter : Option α) : List Operation :=
  [Operation.execute, .escape].filter fun operation =>
    match adapter with
    | some present => !(Executor.member present operation).isCallable
    | none => true

/-- An adapter after a call, with the result of the call. The adapter is asked last, once the
query is known to resolve. -/
def call (query : Query) (parameters : Value) (adapter : Option α) :
    Option α × Journal Event (CallFault fault) result :=
  match adapter, missing adapter with
  | some present, [] =>
    let resolved := query.resolve parameters adapter
    match resolved.outcome with
    | .error cause => (adapter, ⟨resolved.events, .error (.resolution cause)⟩)
    | .ok resolution =>
      let (after, journal) := Executor.execute present resolution.query resolution.values
      let executing := Event.executing query.name resolution.values.length
      (some after, ⟨resolved.events ++ executing :: journal.events,
        journal.outcome.mapError .execution⟩)
  | _, operations => (adapter, .fail (.missing operations))

end Calling

end Query

end SqlTemplate
