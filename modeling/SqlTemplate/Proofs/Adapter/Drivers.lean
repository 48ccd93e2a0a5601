import SqlTemplate.Adapter.Basic
import SqlTemplate.Proofs.Adapter.Errors
import SqlTemplate.Proofs.Traversal

/-! The two drivers have bodies of their own, and do the same but for the name that a driver has in
messages. Whichever steps of a call fail, its cursor is closed once and last. -/

namespace SqlTemplate

namespace Response

/-- The errors of a response of which one ends the call. -/
inductive Raises (response : Response) : DatabaseError → Prop
  /-- A query that is not executed has no cursor. -/
  | executing {error : DatabaseError} (fails : response.errorAt .execute = some error) :
    Raises response error
  /-- An error in closing the cursor comes before one in reading it. -/
  | closing {error : DatabaseError} (opens : response.errorAt .execute = none)
    (fails : response.errorAt .close = some error) : Raises response error
  /-- The rows are fetched of a query that has columns. -/
  | fetching {error : DatabaseError} (opens : response.errorAt .execute = none)
    (tabular : response.columns.isSome = true)
    (fails : response.errorAt .fetchAll = some error)
    (closes : response.errorAt .close = none) : Raises response error

/-- The error of a response that ends the call, if there is one. -/
def raised? (response : Response) : Option DatabaseError :=
  (response.errorAt .execute).or ((response.errorAt .close).or
    (response.columns.bind fun _ => response.errorAt .fetchAll))

/-- The rows that a response has. -/
def result (response : Response) : List Value :=
  (response.columns.map fun columns => response.rows.map (rowValue columns)).getD []

/-- The error that ends the call is the first of executing, closing and fetching. -/
theorem raises_iff {response : Response} {error : DatabaseError} :
    response.Raises error ↔ response.raised? = some error := by
  rw [raised?]
  constructor
  · -- An error that is raised is the first one, for it comes with those before it missing.
    rintro (fails | ⟨opens, fails⟩ | ⟨opens, tabular, fails, closes⟩)
    · rw [fails, Option.some_or]
    · rw [opens, fails, Option.none_or, Option.some_or]
    · obtain ⟨columns, named⟩ := Option.isSome_iff_exists.mp tabular
      rw [opens, closes, named, Option.none_or, Option.none_or, Option.bind_some, fails]
  · -- The first of the three that fails is the one that is raised.
    intro raised
    cases executing : response.errorAt .execute with
    | some first =>
      rw [executing, Option.some_or] at raised
      exact .executing (executing.trans raised)
    | none =>
      rw [executing, Option.none_or] at raised
      -- An error on closing takes the place of one on fetching.
      cases closing : response.errorAt .close with
      | some last =>
        rw [closing, Option.some_or] at raised
        exact .closing executing (closing.trans raised)
      | none =>
        rw [closing, Option.none_or] at raised
        obtain ⟨columns, named, fails⟩ := Option.bind_eq_some_iff.mp raised
        exact .fetching executing (by rw [named]; rfl) fails closing

end Response

/-- A session on another driver. -/
def Session.onDriver (session : Session) (driver : Driver) : Session :=
  { session with driver }

/-- What a call asks of a connection, given its response. -/
def Session.asked (response : Response) (query : Text) (values : List Value) : List Action :=
  if (response.errorAt .execute).isSome then [.execute query values]
  else .execute query values :: (response.columns.map fun _ => Action.fetchAll).toList ++ [.close]

namespace Direct

/-- A cursor that is read is closed next, and an error in closing takes the place of the outcome. -/
theorem readThenClose_eq (session : Session) (cursor : Response) :
    readThenClose session cursor =
      ((read session cursor).1.ask .close,
        match cursor.errorAt .close with
        | some error => .error error
        | none => (read session cursor).2) := by
  -- Whatever reading came to, the cursor is asked to close after it.
  simp only [readThenClose, Session.serve, Response.answerAt]
  cases cursor.errorAt .close <;> rfl

/-- Reading a cursor asks for its rows if it has columns, and keeps the driver and the responses to
come. -/
theorem read_eq (session : Session) (cursor : Response) :
    (read session cursor).1.actions =
        session.actions ++ (cursor.columns.map fun _ => Action.fetchAll).toList ∧
      (read session cursor).1.driver = session.driver ∧
      (read session cursor).1.responses = session.responses ∧
      (read session cursor).2 =
        match cursor.columns.bind fun _ => cursor.errorAt .fetchAll with
        | some error => .error error
        | none => .ok cursor.result := by
  rw [read, Response.result]
  cases cursor.columns with
  | none => exact ⟨(List.append_nil _).symm, rfl, rfl, rfl⟩
  | some columns =>
    -- The rows are asked for whether or not there is an error in fetching them.
    simp only [Session.serve, Response.answerAt]
    cases cursor.errorAt .fetchAll <;> exact ⟨rfl, rfl, rfl, rfl⟩

/-- A call asks for what its response calls for, keeps the driver, uses up one response, and ends in
the error of the response or in its rows. -/
theorem attempt_eq {session : Session} {response : Response}
    (answer : session.responses.headD .silence = response) (query : Text) (values : List Value) :
    (attempt session query values).1.actions =
        session.actions ++ Session.asked response query values ∧
      (attempt session query values).1.driver = session.driver ∧
      (attempt session query values).1.responses = session.responses.tail ∧
      (attempt session query values).2 =
        match response.raised? with
        | some error => .error error
        | none => .ok response.result := by
  simp only [attempt, Session.serve, answer, Response.answerAt, Session.asked, Response.raised?]
  cases response.errorAt .execute with
  | some error => exact ⟨rfl, rfl, rfl, rfl⟩
  | none =>
    -- What reading and closing ask for follows the execution.
    obtain ⟨actions, driver, responses, outcome⟩ := read_eq
      ({ session with responses := session.responses.tail }.ask (.execute query values)) response
    simp only [readThenClose_eq]
    refine ⟨?_, driver, responses, ?_⟩
    · simp only [Session.ask] at actions ⊢
      simp [actions]
    · rw [outcome]
      cases response.errorAt .close <;> rfl

/-- What reading a cursor makes of a session is the same on another driver. -/
theorem read_onDriver (session : Session) (driver : Driver) (cursor : Response) :
    read (session.onDriver driver) cursor =
      ((read session cursor).1.onDriver driver, (read session cursor).2) := by
  -- Reading looks at the cursor and keeps counts, and it never asks which driver it is on.
  rw [read, read]
  cases cursor.columns with
  | none => rfl
  | some columns =>
    simp only [Session.serve, Response.answerAt]
    cases cursor.errorAt .fetchAll <;> rfl

/-- What a call makes of a session is the same on another driver. -/
theorem attempt_onDriver (session : Session) (driver : Driver) (query : Text)
    (values : List Value) :
    attempt (session.onDriver driver) query values =
      ((attempt session query values).1.onDriver driver, (attempt session query values).2) := by
  simp only [attempt, Session.serve, Response.answerAt, Session.onDriver]
  cases (session.responses.headD .silence).errorAt .execute with
  | some error => rfl
  | none =>
    -- The connection is asked the same, so the cursor is read on the same session but for its
    -- driver.
    have moved := read_onDriver ({ session with responses := session.responses.tail }.ask
      (.execute query values)) driver (session.responses.headD .silence)
    simp only [readThenClose_eq]
    simp only [Session.onDriver, Session.ask] at moved ⊢
    rw [moved]

end Direct

namespace Promise

variable {fault other : Type}

/-- Describing the fault of a promise anew changes what it comes to and nothing on the way. -/
theorem settle_mapFault (describe : fault → other) (session : Session) (promise : Promise fault) :
    (promise.mapFault describe).settle session =
      ((promise.settle session).1, (promise.settle session).2.mapError describe) := by
  -- The induction follows the promise, whose steps the session goes through one by one.
  induction promise generalizing session with
  | settled outcome => rfl
  | counting rowCount rest ih => exact ih _
  | keying lastInsertId rest ih => exact ih _
  | awaiting request resume ih => exact ih _ _

/-- A promise that closes a cursor at its end has done all else by then. -/
theorem settle_closing (cursor : Response) (session : Session) (promise : Promise DatabaseError) :
    (promise.closing cursor).settle session =
      ((promise.settle session).1.ask .close,
        match cursor.errorAt .close with
        | some error => .error error
        | none => (promise.settle session).2) := by
  induction promise generalizing session with
  | settled outcome =>
    -- At its end, the promise awaits only that the cursor is closed.
    simp only [closing, settle, Session.serve, Response.answerAt]
    cases cursor.errorAt .close <;> rfl
  | counting rowCount rest ih => exact ih _
  | keying lastInsertId rest ih => exact ih _
  | awaiting request resume ih => exact ih _ _

end Promise

namespace Deferred

/-- The promise to read a cursor comes to what the direct driver reads. -/
theorem settle_read (session : Session) (cursor : Response) :
    (read cursor).settle session = Direct.read session cursor := by
  -- The promise keeps the same counts in the same order, and awaits the same rows.
  rw [read, Direct.read]
  cases cursor.columns with
  | none => rfl
  | some columns =>
    simp only [Promise.settle, Session.serve, Response.answerAt]
    cases cursor.errorAt .fetchAll <;> rfl

/-- The promise of a call comes to what the direct driver comes to, session and outcome. -/
theorem settle_attempt (session : Session) (query : Text) (values : List Value) :
    (attempt query values).settle session = Direct.attempt session query values := by
  simp only [attempt, Direct.attempt, Promise.settle, Session.serve, Response.answerAt]
  cases (session.responses.headD .silence).errorAt .execute with
  | some error => rfl
  | none =>
    -- Both read the cursor in the same way, and close it next.
    simp only [Promise.settle_closing, settle_read, Direct.readThenClose_eq]

end Deferred

namespace Session

/-- Outcomes on two drivers are the same, but for the names of the drivers. -/
inductive SameOutcome (driver other : Driver) :
    Except ExecutionFault (List Value) → Except ExecutionFault (List Value) → Prop
  /-- The same rows. -/
  | rows (rows : List Value) : SameOutcome driver other (.ok rows) (.ok rows)
  /-- The same words after the names, about the same query. -/
  | refused (reason : String) (query : Text) :
    SameOutcome driver other (.error (.refused (driver.title ++ reason) query))
      (.error (.refused (other.title ++ reason) query))
  /-- The same error. -/
  | raised (kindName words : String) :
    SameOutcome driver other (.error (.raised kindName words)) (.error (.raised kindName words))

/-- What a call does on a connection, given its response, and what comes of it. -/
structure Serves (driver : Driver) (query : Text) (values : List Value) (response : Response)
    (actions : List Action) (outcome : Except ExecutionFault (List Value)) : Prop where
  /-- A query that is not executed has no cursor. -/
  unopened : (response.errorAt .execute).isSome = true → actions = [.execute query values]
  /-- A cursor is closed at the end and not before. -/
  closed : response.errorAt .execute = none →
    ∃ reads, actions = .execute query values :: reads ++ [.close] ∧ Action.close ∉ reads
  /-- Without an error there are rows. -/
  rows : ∀ rows, outcome = .ok rows ↔ (∀ error, ¬ response.Raises error) ∧ rows = response.result
  /-- An error leaves the call wrapped or unchanged. -/
  failed : ∀ fault, outcome = .error fault ↔
    ∃ error, response.Raises error ∧ error.Leaves driver query fault
  /-- It is wrapped just when it is one of the database. -/
  wrapped : ∀ error, response.Raises error →
    ((∃ words, outcome = .error (.refused words query)) ↔ error.kind.DerivesFrom .error)

/-- A session after some queries with their values. -/
def after (session : Session) (calls : List BoundQuery) : Session :=
  calls.foldl (fun before call => (before.execute call.query call.values).1) session

/-- On either driver a call makes the same of its session, and its error becomes a fault on the
driver. -/
theorem execute_eq (session : Session) (query : Text) (values : List Value) :
    (session.execute query values).1 = (Direct.attempt session query values).1 ∧
      (session.execute query values).2.outcome =
        (Direct.attempt session query values).2.mapError (·.faultOn session.driver query) := by
  have direct : Direct.toFault query = (·.faultOn .direct query) :=
    funext (DatabaseError.toFault_direct query)
  have deferred : Deferred.toFault query = (·.faultOn .deferred query) :=
    funext (DatabaseError.toFault_deferred query)
  rw [execute]
  cases session.driver with
  | direct => exact ⟨rfl, by rw [Direct.execute, ← direct]⟩
  | deferred =>
    -- A promise settles like the direct call, before the fault is described.
    rw [← deferred]
    simp only [Deferred.execute, Deferred.promise, Promise.settle_mapFault,
      Deferred.settle_attempt, and_self]

/-- A call leaves the driver and uses up one response. -/
theorem execute_kept (session : Session) (query : Text) (values : List Value) :
    (session.execute query values).1.driver = session.driver ∧
      (session.execute query values).1.responses = session.responses.tail := by
  -- On the direct driver this is known of each attempt, and any other one leaves the same session.
  obtain ⟨_, driver, responses, _⟩ := @Direct.attempt_eq session _ rfl query values
  rw [(execute_eq session query values).1]
  exact ⟨driver, responses⟩

/-- What a call makes of a session is the same on another driver. -/
theorem execute_onDriver (session : Session) (driver : Driver) (query : Text)
    (values : List Value) :
    ((session.onDriver driver).execute query values).1 =
      (session.execute query values).1.onDriver driver := by
  -- On either driver a call leaves what the direct attempt leaves, which asks no driver.
  rw [(execute_eq _ query values).1, (execute_eq _ query values).1, Direct.attempt_onDriver]

/-- A call on another driver has the same outcome, but for the name of the driver. -/
theorem sameOutcome_execute (session : Session) (driver : Driver) (query : Text)
    (values : List Value) :
    SameOutcome session.driver driver (session.execute query values).2.outcome
      ((session.onDriver driver).execute query values).2.outcome := by
  rw [(execute_eq _ query values).2, (execute_eq _ query values).2, Direct.attempt_onDriver]
  cases (Direct.attempt session query values).2 with
  | ok rows => exact .rows rows
  | error error =>
    -- The words after the name do not depend on the driver.
    show SameOutcome session.driver driver (.error (error.faultOn session.driver query))
      (.error (error.faultOn driver query))
    rw [DatabaseError.faultOn, DatabaseError.faultOn]
    cases error.reason? with
    | some reason => exact .refused reason query
    | none => exact .raised error.kind.name error.words

/-- A call serves its query as its response has it. -/
theorem serves_execute {session : Session} {response : Response}
    (answer : session.responses.headD .silence = response) (query : Text) (values : List Value) :
    (session.execute query values).1.actions = session.actions ++ asked response query values ∧
      Serves session.driver query values response (asked response query values)
        (session.execute query values).2.outcome := by
  obtain ⟨same, described⟩ := execute_eq session query values
  obtain ⟨actions, _, _, outcome⟩ := Direct.attempt_eq answer query values
  rw [outcome] at described
  refine ⟨by rw [same, actions], ?_, ?_, fun rows => ?_, fun fault => ?_, fun error raises => ?_⟩
  · intro unopened
    rw [asked, if_pos unopened]
  · intro opens
    refine ⟨(response.columns.map fun _ => Action.fetchAll).toList, ?_, ?_⟩
    · rw [asked, opens]
      rfl
    · cases response.columns <;> simp
  · -- There are rows when no error is raised, and they are those of the response.
    rw [described]
    simp only [Response.raises_iff]
    cases response.raised? with
    | some error => simp
    | none => exact ⟨fun same => ⟨by simp, (Except.ok.inj same).symm⟩, fun same => same.2 ▸ rfl⟩
  · rw [described]
    simp only [Response.raises_iff, DatabaseError.leaves_iff]
    cases response.raised? with
    | some error => simp [eq_comm]
    | none => simp
  · -- The error that is raised is the one whose fault the call ends in.
    rw [described, Response.raises_iff.mp raises]
    have leaves : error.Leaves session.driver query (error.faultOn session.driver query) :=
      DatabaseError.leaves_iff.mpr rfl
    rw [← leaves.wrapped_iff]
    simp

/-- A session after calls is on its driver, and each call has used up one response. -/
theorem after_kept (session : Session) (calls : List BoundQuery) :
    (session.after calls).driver = session.driver ∧
      (session.after calls).responses = session.responses.drop calls.length := by
  induction calls generalizing session with
  | nil => exact ⟨rfl, rfl⟩
  | cons call rest ih =>
    -- The first call uses up the first response, and the others start from what it leaves.
    obtain ⟨driver, responses⟩ := execute_kept session call.query call.values
    obtain ⟨later, left⟩ := ih (session.execute call.query call.values).1
    refine ⟨later.trans driver, left.trans ?_⟩
    rw [responses, List.drop_tail, List.length_cons]

/-- What calls make of a session is the same on another driver. -/
theorem after_onDriver (session : Session) (driver : Driver) (calls : List BoundQuery) :
    (session.onDriver driver).after calls = (session.after calls).onDriver driver := by
  -- The drivers agree on each call, so those after it start from the same session.
  induction calls generalizing session with
  | nil => rfl
  | cons call rest ih =>
    have first := execute_onDriver session driver call.query call.values
    exact (congrArg (after · rest) first).trans (ih _)

/-- The call after some others is answered by the response in its place. -/
theorem headD_after (driver : Driver) (responses : List Response) (calls : List BoundQuery) :
    ((start driver responses).after calls).responses.headD .silence =
      responses[calls.length]?.getD .silence := by
  -- The calls before have used up the responses before this one.
  rw [(after_kept _ calls).2, List.headD_eq_head?_getD, List.head?_drop]
  rfl

/-- Whatever a connection answers and whatever was executed before, a call on either driver leaves
the same counts and asks the same of the connection, and its outcomes are the same but for the name
of the driver. On each driver it closes its cursor once and last whichever steps fail, and an error
is wrapped if and only if it is one of the database. -/
theorem drivers_agree (responses : List Response) (before : List BoundQuery) (query : Text)
    (values : List Value) :
    let direct := (start .direct responses).after before
    let deferred := (start .deferred responses).after before
    let directly := direct.execute query values
    let later := deferred.execute query values
    directly.1.rowCount = later.1.rowCount ∧ directly.1.lastInsertId = later.1.lastInsertId ∧
    directly.1.actions = later.1.actions ∧
    SameOutcome .direct .deferred directly.2.outcome later.2.outcome ∧
    ∀ driver,
      let session := (start driver responses).after before
      let (done, journal) := session.execute query values
      ∃ actions, done.actions = session.actions ++ actions ∧
        Serves driver query values (responses[before.length]?.getD .silence) actions
          journal.outcome := by
  intro direct deferred directly later
  -- The runs before are the same, so the call is one on the same session but for its driver.
  have moved : deferred = direct.onDriver .deferred := after_onDriver (start .direct responses) _ _
  have named : direct.driver = .direct := (after_kept (start .direct responses) before).1
  have same : later.1 = directly.1.onDriver .deferred := by
    rw [show later = deferred.execute query values from rfl, moved]
    exact execute_onDriver direct .deferred query values
  refine ⟨by rw [same]; rfl, by rw [same]; rfl, by rw [same]; rfl, ?_, fun driver => ?_⟩
  · have outcomes := sameOutcome_execute direct .deferred query values
    rw [← moved, named] at outcomes
    exact outcomes
  · intro session
    have kept : session.driver = driver := (after_kept (start driver responses) before).1
    obtain ⟨actions, serves⟩ := serves_execute (headD_after driver responses before) query values
    rw [kept] at serves
    exact ⟨_, actions, serves⟩

/-- An error in closing a cursor hides one in fetching from it. -/
example :
    let unclosed : Response := ⟨some ["id"], [], -1, none,
      some (.fetchAll, ⟨.ofDatabase .operational, "disk I/O error"⟩),
      [(.close, ⟨.other "ValueError" [], "gone"⟩)]⟩
    ((start .deferred [unclosed]).execute ['?'] [.int 1]).2.outcome =
      .error (.raised "ValueError" "gone") := by
  rfl

end Session

end SqlTemplate
