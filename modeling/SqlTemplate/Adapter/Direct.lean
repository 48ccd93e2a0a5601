import SqlTemplate.Adapter.Connection
import SqlTemplate.Journal
import SqlTemplate.Log.Event

/-! The direct driver waits for its connection, so that a call returns what the query comes to. -/

namespace SqlTemplate.Direct

/-- The fault that an error becomes while a query is executed. An error of the database is told in
words of its own, by the first of three kinds that it is of, and any other stays what it is. -/
def toFault (query : Text) (error : DatabaseError) : ExecutionFault :=
  if error.kind.isA .integrity then
    .refused s!"SQLite integrity constraint violation: {error.words}" query
  else if error.kind.isA .operational then
    .refused s!"SQLite operational error: {error.words}" query
  else if error.kind.isA .error then .refused s!"SQLite error: {error.words}" query
  else .raised error.kind.name error.words

/-- A session after a cursor is read, with the rows that it has. -/
def read (session : Session) (cursor : Response) :
    Session × Except DatabaseError (List Value) :=
  match cursor.columns with
  | none =>
    -- A key of zero stands for no inserted row.
    ({ session with rowCount := cursor.rowCount, lastInsertId := cursor.lastRowId.filter (· ≠ 0) },
      .ok [])
  | some columns =>
    match session.serve (.fetchAll cursor) with
    | (asked, .error error) => (asked, .error error)
    | (asked, .ok fetched) =>
      ({ asked with rowCount := fetched.rows.length },
        .ok (fetched.rows.map (Response.rowValue columns)))

/-- A session after a cursor is read and, whatever came of that, closed. An error in closing takes
the place of what came of reading. -/
def readThenClose (session : Session) (cursor : Response) :
    Session × Except DatabaseError (List Value) :=
  let (done, outcome) := read session cursor
  match done.serve (.close cursor) with
  | (closed, .error error) => (closed, .error error)
  | (closed, .ok _) => (closed, outcome)

/-- A session after a query with its values, and the rows or the error that the query comes to. -/
def attempt (session : Session) (query : Text) (values : List Value) :
    Session × Except DatabaseError (List Value) :=
  match session.serve (.execute query values) with
  | (asked, .error error) => (asked, .error error)
  | (asked, .ok cursor) => readThenClose asked cursor

/-- A session after a query, which is noted before it is executed. -/
def execute (session : Session) (query : Text) (values : List Value) :
    Session × Journal Event ExecutionFault (List Value) :=
  let (after, outcome) := attempt session query values
  (after, ⟨[.sent "sqlite" query], outcome.mapError (toFault query)⟩)

end SqlTemplate.Direct
