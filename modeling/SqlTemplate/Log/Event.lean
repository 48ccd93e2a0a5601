import SqlTemplate.Resolution.Splice

/-! An event is something that the library tells its log. -/

namespace SqlTemplate

/-- What a traced resolution tells: its template, the given names, and its result. -/
structure Trace where
  /-- The template that was resolved. -/
  template : Text
  /-- The names of the given parameters, in their order. -/
  parameterNames : List String
  /-- What came out. -/
  result : Resolution

namespace Trace

/-- The query that came out. -/
def query (trace : Trace) : Text :=
  trace.result.query

/-- The values bound to the markers of the query. -/
def values (trace : Trace) : List Value :=
  trace.result.values

/-- The names of the placeholders, in their order. -/
def placeholders (trace : Trace) : List String :=
  trace.result.placeholderNames

end Trace

/-- What the library tells its log. -/
inductive Event where
  /-- A term was left out of its group because of its operator. -/
  | termDropped (operator : Value) (name : String)
  /-- An outermost resolution succeeded. -/
  | resolved (placeholders : List String) (bound : Nat)
  /-- An outermost resolution is traced. -/
  | traced (trace : Trace)
  /-- A heading has no statement under it. -/
  | statementSkipped (name : String) (line : Nat) (file : String)
  /-- Files were loaded, with so many new statements. -/
  | loaded (files statements : Nat)
  /-- Loading files failed. -/
  | loadFailed (report : Report)
  /-- A query is about to be executed. -/
  | executing (query : String) (bound : Nat)
  /-- A query goes to a database driver. -/
  | sent (driver : String) (query : Text)

end SqlTemplate
