import SqlTemplate.Adapter.Session
import SqlTemplate.Config
import SqlTemplate.Literal

/-! An adapter executes queries and escapes what goes into them, on one of three backends. Queries
can be called with whatever else executes them as well. -/

namespace SqlTemplate

/-- The operations of an adapter. -/
inductive Operation where
  /-- To execute a query. -/
  | execute
  /-- To write a value as a literal. -/
  | escape
  /-- To quote an identifier. -/
  | escapeIdentifier
  deriving DecidableEq

/-- The name of an operation. -/
def Operation.name : Operation → String
  | execute => "execute"
  | escape => "escape"
  | escapeIdentifier => "escape_identifier"

/-- What an adapter made elsewhere has under the name of an operation. -/
inductive Member where
  /-- Nothing. -/
  | absent
  /-- An operation. -/
  | callable
  /-- A value that is no operation. -/
  | inert (value : Value)

namespace Member

/-- Whether a member is an operation. -/
def isCallable : Member → Bool
  | callable => true
  | _ => false

/-- Whether a member is there and not null. -/
def isPresent : Member → Bool
  | absent => false
  | inert .null => false
  | _ => true

end Member

/-- What an adapter has under the name of settings. -/
inductive Preference where
  /-- Nothing. -/
  | absent
  /-- Settings. -/
  | settings (config : Config)
  /-- A value that is no settings. -/
  | inert (value : Value)

/-- The settings that are preferred, if there are any. -/
def Preference.config? : Preference → Option Config
  | settings config => some config
  | _ => none

/-- Whatever executes queries may prefer settings and lack operations, and an execution changes it
and ends in a result or a fault. -/
class Executor (α : Type) (fault result : outParam Type) where
  /-- What there is under the name of settings. -/
  preference : α → Preference
  /-- What there is under the name of an operation. -/
  member : α → Operation → Member
  /-- The executor after a query with its values, beside what came of it. -/
  execute : α → Text → List Value → α × Journal Event fault result

/-- A query with the values bound to its markers. -/
structure BoundQuery where
  /-- The query. -/
  query : Text
  /-- The values, in the order of the markers. -/
  values : List Value

/-- A bound query as a value. -/
def BoundQuery.toValue (bound : BoundQuery) : Value :=
  .mapping [("query", .str (String.ofList bound.query)), ("parameters", .list bound.values)]

/-- An adapter made elsewhere, which answers every query alike. -/
structure Custom where
  /-- What it has for executing queries. -/
  execute : Member
  /-- What it has for escaping values. -/
  escape : Member
  /-- What it has for quoting identifiers. -/
  escapeIdentifier : Member
  /-- The result of every query. -/
  result : Value
  /-- The error of every query, in place of a result. -/
  failure : Option DatabaseError
  /-- The queries it was given, the earliest first. -/
  calls : List BoundQuery

/-- What stands behind an adapter. -/
inductive Backend where
  /-- A record of the queries, none of which is executed. -/
  | recording (dialect : String) (calls : List BoundQuery)
  /-- A database session. -/
  | session (session : Session)
  /-- An adapter made elsewhere. -/
  | custom (custom : Custom)

/-- An adapter with settings for the queries that go to it, if it has any. -/
structure Adapter where
  /-- The settings. -/
  config : Option Config
  /-- What stands behind it. -/
  backend : Backend

namespace Adapter

/-- What an adapter has under the name of an operation. -/
def member (adapter : Adapter) (operation : Operation) : Member :=
  match adapter.backend, operation with
  | .custom custom, .execute => custom.execute
  | .custom custom, .escape => custom.escape
  | .custom custom, .escapeIdentifier => custom.escapeIdentifier
  | _, _ => .callable

/-- Whether an adapter has all three operations, be they operations or not. -/
def isComplete (adapter : Adapter) : Bool :=
  [Operation.execute, .escape, .escapeIdentifier].all fun operation =>
    (adapter.member operation).isPresent

/-- The name of the dialect that an adapter escapes for. -/
def dialectName (adapter : Adapter) : String :=
  match adapter.backend with
  | .recording dialect _ => dialect
  | _ => "sqlite"

/-- The dialect that an adapter escapes for. -/
def dialect (adapter : Adapter) : Except EscapeFault Dialect :=
  match Dialect.named? adapter.dialectName with
  | some dialect => .ok dialect
  | none => .error (.unknownDialect adapter.dialectName)

/-- A value as a literal. -/
def escape (adapter : Adapter) (value : Value) : Except EscapeFault String := do
  let literal ← value.literal
  (← adapter.dialect).write literal

/-- An identifier in quotes. -/
def escapeIdentifier (adapter : Adapter) (name : String) : Except EscapeFault String := do
  let dialect ← adapter.dialect
  return String.ofList (dialect.quote name.toList)

/-- An adapter after a query, with the result of the query. -/
def execute (adapter : Adapter) (query : Text) (values : List Value) :
    Adapter × Journal Event ExecutionFault Value :=
  let bound : BoundQuery := ⟨query, values⟩
  match adapter.backend with
  | .recording dialect calls =>
    ({ adapter with backend := .recording dialect (calls ++ [bound]) }, .succeed bound.toValue)
  | .session session =>
    let (after, journal) := session.execute query values
    ({ adapter with backend := .session after },
      ⟨journal.events, journal.outcome.map .list⟩)
  | .custom custom =>
    ({ adapter with backend := .custom { custom with calls := custom.calls ++ [bound] } },
      match custom.failure with
      | some error => .fail (.raised error.kind.name error.words)
      | none => .succeed custom.result)

instance : Executor Adapter ExecutionFault Value where
  preference adapter := match adapter.config with
    | some config => .settings config
    | none => .absent
  member := member
  execute := execute

end Adapter

end SqlTemplate
