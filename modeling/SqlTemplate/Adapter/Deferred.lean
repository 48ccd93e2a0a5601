import SqlTemplate.Adapter.Connection
import SqlTemplate.Journal
import SqlTemplate.Log.Event

/-! The deferred driver returns a promise, which goes on whenever its connection has answered. -/

namespace SqlTemplate

/-- A call that has come to its end, or that does something and has a rest. -/
inductive Promise (fault : Type) where
  /-- The call has ended. -/
  | settled (outcome : Except fault (List Value))
  /-- The call keeps a number of rows before it goes on. -/
  | counting (rowCount : Int) (rest : Promise fault)
  /-- The call keeps the key of an inserted row before it goes on. -/
  | keying (lastInsertId : Option Int) (rest : Promise fault)
  /-- The call goes on with the answer to what it asks of the connection. -/
  | awaiting (request : Request) (resume : Except DatabaseError Response → Promise fault)

namespace Promise

variable {fault other : Type}

/-- A promise that ends like another one, with its fault, if any, described anew. -/
def mapFault (describe : fault → other) : Promise fault → Promise other
  | settled outcome => settled (outcome.mapError describe)
  | counting rowCount rest => counting rowCount (rest.mapFault describe)
  | keying lastInsertId rest => keying lastInsertId (rest.mapFault describe)
  | awaiting request resume => awaiting request fun answer => (resume answer).mapFault describe

/-- A promise that closes a cursor at its end, whatever the end is. An error in closing takes the
place of the end. -/
def closing (cursor : Response) : Promise DatabaseError → Promise DatabaseError
  | settled outcome => awaiting (.close cursor) fun
    | .error error => settled (.error error)
    | .ok _ => settled outcome
  | counting rowCount rest => counting rowCount (rest.closing cursor)
  | keying lastInsertId rest => keying lastInsertId (rest.closing cursor)
  | awaiting request resume => awaiting request fun answer => (resume answer).closing cursor

/-- A session after a promise has come to its end, with the outcome. -/
def settle (session : Session) : Promise fault → Session × Except fault (List Value)
  | settled outcome => (session, outcome)
  | counting rowCount rest => rest.settle { session with rowCount }
  | keying lastInsertId rest => rest.settle { session with lastInsertId }
  | awaiting request resume =>
    let (asked, answer) := session.serve request
    (resume answer).settle asked

end Promise

namespace Deferred

/-- The fault that an error becomes while a query is executed. An error of the database is told in
words of its own, by the first of three kinds that it is of, and any other stays what it is. -/
def toFault (query : Text) (error : DatabaseError) : ExecutionFault :=
  if error.kind.isA .integrity then
    .refused s!"AIOSQLite integrity constraint violation: {error.words}" query
  else if error.kind.isA .operational then
    .refused s!"AIOSQLite operational error: {error.words}" query
  else if error.kind.isA .error then .refused s!"AIOSQLite error: {error.words}" query
  else .raised error.kind.name error.words

/-- The promise of the rows that a cursor has. -/
def read (cursor : Response) : Promise DatabaseError :=
  match cursor.columns with
  | none =>
    -- A key of zero stands for no inserted row.
    .counting cursor.rowCount (.keying (cursor.lastRowId.filter (· ≠ 0)) (.settled (.ok [])))
  | some columns =>
    .awaiting (.fetchAll cursor) fun
      | .error error => .settled (.error error)
      | .ok fetched =>
        .counting fetched.rows.length
          (.settled (.ok (fetched.rows.map (Response.rowValue columns))))

/-- The promise of the rows of a query with its values, which ends in the error there is. -/
def attempt (query : Text) (values : List Value) : Promise DatabaseError :=
  .awaiting (.execute query values) fun
    | .error error => .settled (.error error)
    | .ok cursor => (read cursor).closing cursor

/-- The promise of the rows of a query with its values. -/
def promise (query : Text) (values : List Value) : Promise ExecutionFault :=
  (attempt query values).mapFault (toFault query)

/-- A session after the promise of a query has settled. The query is noted before anything is asked
of the connection. -/
def execute (session : Session) (query : Text) (values : List Value) :
    Session × Journal Event ExecutionFault (List Value) :=
  let (after, outcome) := (promise query values).settle session
  (after, ⟨[.sent "aiosqlite" query], outcome⟩)

end Deferred

end SqlTemplate
