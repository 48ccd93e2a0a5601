import SqlTemplate.Proofs.Adapter.Drivers

/-! The number of rows that a session keeps is that of the last query, and the key is that of the
last query without rows, which may be an earlier one. -/

namespace SqlTemplate

namespace Response

/-- A response whose query is executed, and whose rows are fetched if it has columns. -/
structure IsRead (response : Response) : Prop where
  /-- The query is executed. -/
  executed : response.errorAt .execute = none
  /-- The rows are fetched where there are columns. -/
  fetched : response.columns.isSome = true → response.errorAt .fetchAll = none

/-- How many rows a response returns, or how many it concerns when it has no columns. -/
def count (response : Response) : Int :=
  match response.columns with
  | none => response.rowCount
  | some _ => response.rows.length

/-- The key of the row that a response inserts, where zero stands for no row. -/
def insertedId (response : Response) : Option Int :=
  response.lastRowId.filter (· ≠ 0)

/-- Whether a response is read is seen from the errors that it has. -/
instance (response : Response) : Decidable response.IsRead :=
  decidable_of_iff ((response.errorAt .execute).isNone = true ∧
      (response.columns.isSome = true → (response.errorAt .fetchAll).isNone = true)) <| by
    simp only [Option.isNone_iff_eq_none]
    exact ⟨fun ⟨executed, fetched⟩ => ⟨executed, fetched⟩,
      fun read => ⟨read.executed, read.fetched⟩⟩

/-- No error ends the call when its response is read and the cursor is closed. -/
theorem raised?_eq_none_iff {response : Response} :
    response.raised? = none ↔ response.IsRead ∧ response.errorAt .close = none := by
  rw [raised?, Option.or_eq_none_iff, Option.or_eq_none_iff]
  constructor
  · rintro ⟨executed, closed, unfetched⟩
    refine ⟨⟨executed, fun tabular => ?_⟩, closed⟩
    -- The rows are fetched of a response with columns, so no error is left over for them.
    obtain ⟨columns, named⟩ := Option.isSome_iff_exists.mp tabular
    rwa [named, Option.bind_some] at unfetched
  · rintro ⟨read, closed⟩
    refine ⟨read.executed, closed, ?_⟩
    cases named : response.columns with
    | none => rfl
    | some columns =>
      rw [Option.bind_some]
      exact read.fetched (by rw [named]; rfl)

end Response

namespace Session

/-- How the counts of a session change with a call, given the response to it. -/
structure Accounts (response : Response) (before after : Session) : Prop where
  /-- The number of rows is that of a response that is read. -/
  counted : response.IsRead → after.rowCount = response.count
  /-- The key is that of a response that is read and has no columns. -/
  inserted : response.IsRead → response.columns = none → after.lastInsertId = response.insertedId
  /-- The key is what it was when the response has columns. -/
  outlived : response.columns.isSome = true → after.lastInsertId = before.lastInsertId
  /-- Both are what they were when the response is not read. -/
  kept : ¬ response.IsRead →
    after.rowCount = before.rowCount ∧ after.lastInsertId = before.lastInsertId

/-- A session with the same counts and other actions or responses changes its counts in the same
way. -/
theorem Accounts.of_same {response : Response} {before other after last : Session}
    (accounts : Accounts response before after)
    (first : before.rowCount = other.rowCount ∧ before.lastInsertId = other.lastInsertId)
    (second : after.rowCount = last.rowCount ∧ after.lastInsertId = last.lastInsertId) :
    Accounts response other last where
  counted := fun read => second.1.symm.trans (accounts.counted read)
  inserted := fun read bare => second.2.symm.trans (accounts.inserted read bare)
  outlived := fun tabular => second.2.symm.trans ((accounts.outlived tabular).trans first.2)
  kept := by
    intro unread
    obtain ⟨count, key⟩ := accounts.kept unread
    exact ⟨second.1.symm.trans (count.trans first.1), second.2.symm.trans (key.trans first.2)⟩

/-- A session that keeps its counts accounts for a response that is not read. -/
theorem Accounts.of_unread {response : Response} {before after : Session}
    (unread : ¬ response.IsRead)
    (same : after.rowCount = before.rowCount ∧ after.lastInsertId = before.lastInsertId) :
    Accounts response before after where
  counted := fun read => absurd read unread
  inserted := fun read => absurd read unread
  outlived := fun _ => same.2
  kept := fun _ => same

/-- Reading the cursor of an executed query accounts for it. -/
theorem accounts_read {response : Response} (executed : response.errorAt .execute = none)
    (session : Session) : Accounts response session (Direct.read session response).1 := by
  rw [Direct.read]
  cases named : response.columns with
  | none =>
    -- Nothing is fetched, so the response is read.
    have read : response.IsRead := ⟨executed, by simp [named]⟩
    refine ⟨fun _ => ?_, fun _ _ => rfl, by simp [named], fun unread => absurd read unread⟩
    rw [Response.count, named]
  | some columns =>
    simp only [serve, Response.answerAt]
    cases fetching : response.errorAt .fetchAll with
    | some error =>
      -- The rows are not fetched, and neither count has been touched by then.
      have unread : ¬ response.IsRead := by
        intro read
        have fetched := read.fetched (by rw [named]; rfl)
        rw [fetching] at fetched
        cases fetched
      exact .of_unread unread ⟨rfl, rfl⟩
    | none =>
      -- The rows are counted, but nothing is said about the key.
      have read : response.IsRead := ⟨executed, fun _ => fetching⟩
      refine ⟨fun _ => ?_, fun _ bare => ?_, fun _ => rfl, fun unread => absurd read unread⟩
      · rw [Response.count, named]
      · rw [named] at bare
        cases bare

/-- A call accounts for its response, also when its cursor is not closed. -/
theorem accounts_execute {session : Session} {response : Response}
    (answer : session.responses.headD .silence = response) (query : Text) (values : List Value) :
    Accounts response session (session.execute query values).1 := by
  rw [(execute_eq session query values).1]
  simp only [Direct.attempt, serve, answer, Response.answerAt]
  cases executing : response.errorAt .execute with
  | some error =>
    -- A query that is not executed is not read.
    have unread : ¬ response.IsRead := by
      intro read
      rw [read.executed] at executing
      cases executing
    exact .of_unread unread ⟨rfl, rfl⟩
  | none =>
    -- Closing the cursor changes neither count, whatever comes of it.
    simp only [Direct.readThenClose_eq]
    exact (accounts_read executing ({ session with responses := session.responses.tail }.ask
      (.execute query values))).of_same ⟨rfl, rfl⟩ ⟨rfl, rfl⟩

/-- A call returns rows when its response is read and its cursor is closed. -/
theorem exists_rows_iff {session : Session} {response : Response}
    (answer : session.responses.headD .silence = response) (query : Text) (values : List Value) :
    (∃ rows, (session.execute query values).2.outcome = .ok rows) ↔
      response.IsRead ∧ response.errorAt .close = none := by
  -- What a call on the direct driver comes to is an error or the rows, and so on any driver.
  obtain ⟨_, _, _, outcome⟩ := Direct.attempt_eq answer query values
  rw [← Response.raised?_eq_none_iff, (execute_eq session query values).2, outcome]
  cases response.raised? <;> simp

/-- The responses to the first calls of a session. -/
def answers (session : Session) (count : Nat) : List Response :=
  (List.range count).map fun index => session.responses[index]?.getD .silence

/-- The first call uses up the first response, and the others are answered by what is left. -/
theorem answers_succ {session next : Session} (left : next.responses = session.responses.tail)
    (count : Nat) :
    session.answers (count + 1) = session.responses.headD .silence :: next.answers count := by
  -- What is at a place of the tail is at the next place of the whole.
  rw [answers, answers, List.range_succ_eq_map, List.map_cons, List.map_map, left,
    List.headD_eq_head?_getD, List.head?_eq_getElem?]
  simp [Function.comp_def]

/-- What a session keeps of the calls that tell it something is what the last of them told, and what
it was before when none does. -/
theorem kept_after {α : Type} (kept : Session → α) (tells : Response → Prop) [DecidablePred tells]
    (told : Response → α)
    (step : ∀ (session : Session) (response : Response),
      session.responses.headD .silence = response → ∀ (query : Text) (values : List Value),
        kept (session.execute query values).1 =
          if tells response then told response else kept session)
    (session : Session) (calls : List BoundQuery) :
    kept (session.after calls) =
      ((session.answers calls.length).filter tells).getLast?.elim (kept session) told := by
  -- The induction goes from the first call on, after which the others start from what it has left.
  induction calls generalizing session with
  | nil => rfl
  | cons call rest ih =>
    have left := (execute_kept session call.query call.values).2
    have first := step session _ rfl call.query call.values
    rw [List.length_cons, answers_succ left]
    refine (ih (session.execute call.query call.values).1).trans ?_
    -- Only if no later response tells anything, the first call still counts.
    by_cases telling : tells (session.responses.headD .silence)
    · rw [List.filter_cons_of_pos (by simpa using telling), List.getLast?_cons, first,
        if_pos telling]
      cases (((session.execute call.query call.values).1.answers rest.length).filter
        tells).getLast? <;> rfl
    · rw [List.filter_cons_of_neg (by simpa using telling), first, if_neg telling]

/-- After some calls the number of rows is that of the last response that was read, and it is what
it was before them when none was. -/
theorem rowCount_after (session : Session) (calls : List BoundQuery) :
    (session.after calls).rowCount =
      ((session.answers calls.length).filter Response.IsRead).getLast?.elim session.rowCount
        Response.count := by
  refine kept_after rowCount Response.IsRead Response.count ?_ session calls
  intro session response answer query values
  have accounts := accounts_execute answer query values
  -- A call counts rows just when its response is read.
  split
  · exact accounts.counted ‹_›
  · exact (accounts.kept ‹_›).1

/-- After some calls the key is that of the last response that was read and has no columns, and it
is what it was before them when there is none. -/
theorem lastInsertId_after (session : Session) (calls : List BoundQuery) :
    (session.after calls).lastInsertId =
      ((session.answers calls.length).filter fun response =>
        response.IsRead ∧ response.columns = none).getLast?.elim session.lastInsertId
        Response.insertedId := by
  refine kept_after lastInsertId (fun response => response.IsRead ∧ response.columns = none)
    Response.insertedId ?_ session calls
  intro session response answer query values
  have accounts := accounts_execute answer query values
  split
  · rename_i telling
    exact accounts.inserted telling.1 telling.2
  · rename_i telling
    -- The response has columns or is not read, and the key outlives the call in both cases.
    by_cases read : response.IsRead
    · exact accounts.outlived (Option.isSome_iff_ne_none.mpr fun bare => telling ⟨read, bare⟩)
    · exact (accounts.kept read).2

/-- Whatever a connection answers and whatever was executed before, a call on either driver returns
rows when its response is read and its cursor closed. If the response is read, the number of rows is
told by it alone, also when the cursor is then not closed. The key is the one of the response just
when the response has no columns or the key was the same before; it is always that of the last
response that was read and has no columns. If the response is not read, both are what they were. -/
theorem counts_follow_last_call (driver : Driver) (responses : List Response)
    (before : List BoundQuery) (query : Text) (values : List Value) :
    let session := (start driver responses).after before
    let response := responses[before.length]?.getD .silence
    let (done, journal) := session.execute query values
    let told := (start driver responses).answers (before.length + 1)
    ((∃ rows, journal.outcome = .ok rows) ↔
      response.IsRead ∧ response.errorAt .close = none) ∧
    Accounts response session done ∧
    (response.IsRead → (done.lastInsertId = response.insertedId ↔
      response.columns = none ∨ session.lastInsertId = response.insertedId)) ∧
    done.rowCount = (told.filter Response.IsRead).getLast?.elim (-1) Response.count ∧
    done.lastInsertId =
      (told.filter fun earlier => earlier.IsRead ∧ earlier.columns = none).getLast?.elim none
        Response.insertedId := by
  intro session response
  have answer : session.responses.headD .silence = response := headD_after driver responses before
  have accounts := accounts_execute answer query values
  -- The call is the last one of a run from the start.
  have whole : (session.execute query values).1 =
      (start driver responses).after (before ++ [⟨query, values⟩]) := by
    rw [after, List.foldl_append]
    rfl
  have count := rowCount_after (start driver responses) (before ++ [⟨query, values⟩])
  have key := lastInsertId_after (start driver responses) (before ++ [⟨query, values⟩])
  rw [List.length_append, List.length_singleton, ← whole] at count key
  refine ⟨exists_rows_iff answer query values, accounts, fun read => ?_, count, key⟩
  cases columns : response.columns with
  | none => exact iff_of_true (accounts.inserted read columns) (Or.inl rfl)
  | some names =>
    -- The key outlives the call, so it is that of the response only by being the same already.
    have outlived := accounts.outlived (by rw [columns]; rfl)
    show (session.execute query values).1.lastInsertId = _ ↔ _
    rw [outlived]
    simp only [reduceCtorEq, false_or]

/-- A row is inserted, and then a query fails while its rows are fetched. -/
theorem counts_kept_by_failed_fetch :
    let inserted : Response := ⟨none, [], 1, some 5, none, []⟩
    let unfetched : Response := ⟨some ["id"], [], -1, none,
      some (.fetchAll, ⟨.ofDatabase .operational, "disk I/O error"⟩), []⟩
    let session := (start .direct [inserted, unfetched]).after [⟨"INSERT".toList, []⟩]
    let done := (session.execute "SELECT".toList []).1
    inserted.IsRead ∧ ¬ unfetched.IsRead ∧ session.rowCount = 1 ∧
      session.lastInsertId = some 5 ∧ done.rowCount = 1 ∧ done.lastInsertId = some 5 := by
  intro inserted unfetched session done
  have read : inserted.IsRead := by decide
  have unread : ¬ unfetched.IsRead := by decide
  -- The first call is accounted for by its response, and the second one keeps what the first left.
  have first := (counts_follow_last_call .direct [inserted, unfetched] [] "INSERT".toList []).2.1
  have second := (counts_follow_last_call .direct [inserted, unfetched] [⟨"INSERT".toList, []⟩]
    "SELECT".toList []).2.1
  have count : session.rowCount = 1 := first.counted read
  have key : session.lastInsertId = some 5 := first.inserted read rfl
  obtain ⟨sameCount, sameKey⟩ := second.kept unread
  exact ⟨read, unread, count, key, sameCount.trans count, sameKey.trans key⟩

/-- After an insertion, a query that inserts a row and returns it leaves the key of the earlier row,
so the key depends on more than the last call, whose cursor is the same without the earlier one. -/
theorem key_outlives_call :
    let inserted : Response := ⟨none, [], 1, some 5, none, []⟩
    let returned : Response := ⟨some ["id"], [[.int 6]], -1, some 6, none, []⟩
    let later := (start .direct [inserted, returned]).after [⟨"INSERT".toList, []⟩]
    let fresh := start .direct [returned]
    let done := later.execute "INSERT RETURNING".toList []
    let alone := fresh.execute "INSERT RETURNING".toList []
    done.2.outcome = .ok [.mapping [("id", .int 6)]] ∧ alone.2.outcome = done.2.outcome ∧
      done.1.rowCount = alone.1.rowCount ∧ returned.insertedId = some 6 ∧
      done.1.lastInsertId = some 5 ∧ alone.1.lastInsertId = none := by
  -- Both sessions are run; they differ in the insertion before the call alone.
  exact ⟨rfl, rfl, rfl, rfl, rfl, rfl⟩

end Session

end SqlTemplate
