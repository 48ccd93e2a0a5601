import SqlTemplate.Report.Wording
import SqlTemplate.Text.Basic

/-! A connection answers what is asked of it with a cursor or an error. A session is a connection in
use, with the counts of the last query. -/

namespace SqlTemplate

/-- The kinds of errors that databases report. -/
inductive DatabaseKind where
  /-- Any error of a database. -/
  | error
  /-- An error of the interface to the database. -/
  | interface
  /-- An error of the database itself. -/
  | database
  /-- Data that cannot be processed. -/
  | data
  /-- Something that goes wrong while the database operates. -/
  | operational
  /-- A constraint that would be violated. -/
  | integrity
  /-- A database that has gone wrong inside. -/
  | internal
  /-- A mistake in a query. -/
  | programming
  /-- An operation that the database does not have. -/
  | notSupported
  deriving DecidableEq

namespace DatabaseKind

/-- The names of the kinds. -/
def name : DatabaseKind → String
  | error => "Error"
  | interface => "InterfaceError"
  | database => "DatabaseError"
  | data => "DataError"
  | operational => "OperationalError"
  | integrity => "IntegrityError"
  | internal => "InternalError"
  | programming => "ProgrammingError"
  | notSupported => "NotSupportedError"

/-- All kinds. -/
def all : List DatabaseKind :=
  [error, interface, database, data, operational, integrity, internal, programming, notSupported]

/-- A kind and those it is derived from, the most special one first. -/
def lineage : DatabaseKind → List DatabaseKind
  | error => [error]
  | interface => [interface, error]
  | database => [database, error]
  | special => [special, database, error]

end DatabaseKind

/-- A kind of error is one of those that databases report, or another one with a name and with the
kinds it is derived from. -/
inductive ErrorKind where
  /-- A kind that databases report. -/
  | ofDatabase (kind : DatabaseKind)
  /-- Another kind. -/
  | other (name : String) (bases : List ErrorKind)

namespace ErrorKind

/-- The name of a kind. -/
def name : ErrorKind → String
  | ofDatabase kind => kind.name
  | other name _ => name

/-- The kind that a name stands for where it is not said what the kind is derived from. -/
def ofName (name : String) : ErrorKind :=
  match DatabaseKind.all.find? (·.name = name) with
  | some kind => ofDatabase kind
  | none => other name []

instance : Coe String ErrorKind := ⟨ofName⟩

mutual

/-- The kinds of databases among a kind and all that it is derived from. -/
def databaseKinds : ErrorKind → List DatabaseKind
  | ofDatabase kind => kind.lineage
  | other _ bases => databaseKindsOf bases

/-- The kinds of databases among some kinds and all that they are derived from. -/
def databaseKindsOf : List ErrorKind → List DatabaseKind
  | [] => []
  | kind :: rest => kind.databaseKinds ++ databaseKindsOf rest

end

/-- Whether a kind is one of a database or derived from it. -/
def isA (kind : ErrorKind) (ancestor : DatabaseKind) : Bool :=
  kind.databaseKinds.contains ancestor

end ErrorKind

/-- An error that a connection reports. -/
structure DatabaseError where
  /-- The kind. -/
  kind : ErrorKind
  /-- The words. -/
  words : String

/-- Why a query has no result. -/
inductive ExecutionFault where
  /-- The database refused the query. -/
  | refused (words : String) (query : Text)
  /-- An error came back as it was raised. -/
  | raised (kindName words : String)

/-- The report of a query without a result. -/
def ExecutionFault.report : ExecutionFault → Report
  | refused words query => .refusedQuery words (.str (String.ofList query))
  | raised kindName words => .plain kindName words

/-- The steps of a call at which a connection may fail. -/
inductive Response.Step where
  /-- While a query is executed. -/
  | execute
  /-- While rows are fetched. -/
  | fetchAll
  /-- While the cursor is closed. -/
  | close
  deriving DecidableEq

/-- How a connection answers one query, which is what its cursor holds when there is one. -/
structure Response where
  /-- The names of the columns, for a query that has rows. -/
  columns : Option (List String)
  /-- The rows. -/
  rows : List (List Value)
  /-- The number of rows that a query without rows concerned. -/
  rowCount : Int
  /-- The key of the row that a query without rows inserted last. -/
  lastRowId : Option Int
  /-- A step that fails, and with what. -/
  failure : Option (Response.Step × DatabaseError)
  /-- More steps that fail, for a cursor may fail to close after a failure to fetch from it. -/
  further : List (Response.Step × DatabaseError) := []

namespace Response

/-- The error of a response at a step. -/
def errorAt (response : Response) (step : Step) : Option DatabaseError :=
  (response.failure.toList ++ response.further).lookup step

/-- The answer to a step: the response, unless it has an error there. -/
def answerAt (response : Response) (step : Step) : Except DatabaseError Response :=
  match response.errorAt step with
  | some error => .error error
  | none => .ok response

/-- The answer to a query for which none is left: nothing was done. -/
def silence : Response :=
  ⟨none, [], -1, none, none, []⟩

/-- A row as a mapping from columns to values, where of columns with one name the last counts. -/
def rowValue (columns : List String) (row : List Value) : Value :=
  .mapping (Entries.ofPairs (columns.zip row))

end Response

/-- What a connection has been asked to do. -/
inductive Action where
  /-- To execute a query with its values. -/
  | execute (query : Text) (values : List Value)
  /-- To fetch the rows of a cursor. -/
  | fetchAll
  /-- To close a cursor. -/
  | close

/-- What a driver asks of a connection. -/
inductive Request where
  /-- To execute a query with its values. -/
  | execute (query : Text) (values : List Value)
  /-- To fetch the rows of a cursor. -/
  | fetchAll (cursor : Response)
  /-- To close a cursor. -/
  | close (cursor : Response)

/-- The drivers that sessions run on. -/
inductive Driver where
  /-- The driver whose calls return their result. -/
  | direct
  /-- The driver whose calls return a promise of it. -/
  | deferred
  deriving DecidableEq

/-- A connection in use, with the counts of the last query. -/
structure Session where
  /-- The driver. -/
  driver : Driver
  /-- The answers to come. -/
  responses : List Response
  /-- What the connection has been asked to do, the earliest first. -/
  actions : List Action
  /-- The number of rows that the last query returned or concerned. -/
  rowCount : Int
  /-- The key of the row that was inserted last. -/
  lastInsertId : Option Int

namespace Session

/-- A session before its first query. -/
def start (driver : Driver) (responses : List Response) : Session :=
  ⟨driver, responses, [], -1, none⟩

/-- A session whose connection has been asked to do something more. -/
def ask (session : Session) (action : Action) : Session :=
  { session with actions := session.actions ++ [action] }

/-- A session after its connection was asked for something, with the answer to it. The answer to a
query is a cursor, which is the response of the connection. -/
def serve (session : Session) : Request → Session × Except DatabaseError Response
  | .execute query values =>
    let response := session.responses.headD .silence
    ({ session with responses := session.responses.tail }.ask (.execute query values),
      response.answerAt .execute)
  | .fetchAll cursor => (session.ask .fetchAll, cursor.answerAt .fetchAll)
  | .close cursor => (session.ask .close, cursor.answerAt .close)

end Session

end SqlTemplate
