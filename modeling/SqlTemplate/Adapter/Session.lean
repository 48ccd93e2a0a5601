import SqlTemplate.Adapter.Deferred
import SqlTemplate.Adapter.Direct

/-! A session runs queries on its driver. -/

namespace SqlTemplate.Session

/-- A session after a query with its values, which its driver executes. -/
def execute (session : Session) (query : Text) (values : List Value) :
    Session × Journal Event ExecutionFault (List Value) :=
  match session.driver with
  | .direct => Direct.execute session query values
  | .deferred => Deferred.execute session query values

end SqlTemplate.Session
