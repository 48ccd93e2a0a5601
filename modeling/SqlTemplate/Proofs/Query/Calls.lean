import Mathlib.Logic.Function.Basic
import SqlTemplate.Proofs.Resolution.Outcome
import SqlTemplate.Query

/-! A call of a query asks its adapter to execute at most once, which it does just when the adapter
has the operations and the query resolves; an adapter changes by the calls that go to it alone. -/

namespace SqlTemplate

/-- An executor beside the queries that it has been asked to execute, the earliest first. -/
structure Watched (α : Type) where
  /-- The executor. -/
  executor : α
  /-- The queries. -/
  received : List BoundQuery

instance {α fault result : Type} [Executor α fault result] :
    Executor (Watched α) fault result where
  preference watched := Executor.preference watched.executor
  member watched := Executor.member watched.executor
  execute watched query values :=
    let (after, journal) := Executor.execute watched.executor query values
    (⟨after, watched.received ++ [⟨query, values⟩]⟩, journal)

namespace Query

variable {α fault result : Type} [Executor α fault result]

/-- The operations that a call needs. -/
def required : List Operation :=
  [.execute, .escape]

/-- An adapter has an operation that can be called. -/
def Offers (adapter : Option α) (operation : Operation) : Prop :=
  ∃ present, adapter = some present ∧ (Executor.member present operation).isCallable = true

/-- The settings that a query is resolved with for an adapter. -/
inductive Settles (query : Query) (adapter : Option α) : Config → Prop
  /-- A query with settings of its own is resolved with them. -/
  | own {config : Config} (given : query.config = some config) : Settles query adapter config
  /-- Another query is resolved with the settings that the adapter prefers. -/
  | preferred {config : Config} {present : α} (ungiven : query.config = none)
    (called : adapter = some present) (prefers : Executor.preference present = .settings config) :
    Settles query adapter config
  /-- It is resolved with the default settings when there is no adapter that prefers settings. -/
  | default (ungiven : query.config = none)
    (unpreferred : ∀ present config, adapter = some present →
      Executor.preference present ≠ .settings config) :
    Settles query adapter .default

/-- What a call does to a watched adapter, and what it gives. -/
inductive Answers (query : Query) (parameters : Value) :
    Option (Watched α) → Option (Watched α) → Except (CallFault fault) result → Prop
  /-- An adapter that lacks operations is not asked, and just those are named, in their order. -/
  | lacking {adapter : Option (Watched α)} {operations : List Operation} (some_ : operations ≠ [])
    (ordered : operations.Sublist required)
    (exact_ : ∀ operation ∈ required, operation ∈ operations ↔ ¬ Offers adapter operation) :
    Answers query parameters adapter adapter (.error (.missing operations))
  /-- An adapter that lacks none is not asked when the query does not resolve. -/
  | unresolved {adapter : Watched α} {config : Config} {cause : ResolutionFault}
    (able : ∀ operation ∈ required, Offers (some adapter) operation)
    (settled : query.Settles (some adapter) config)
    (failed : (SqlTemplate.resolve query.sql parameters config).outcome = .error cause) :
    Answers query parameters (some adapter) (some adapter) (.error (.resolution cause))
  /-- Otherwise it is asked once, for the query and the values of the resolution, and what it gives
  or fails with is passed on. -/
  | executed {adapter : Watched α} {config : Config} {resolution : Resolution} {after : α}
    {journal : Journal Event fault result}
    (able : ∀ operation ∈ required, Offers (some adapter) operation)
    (settled : query.Settles (some adapter) config)
    (resolved : (SqlTemplate.resolve query.sql parameters config).outcome = .ok resolution)
    (done : Executor.execute adapter.executor resolution.query resolution.values =
      (after, journal)) :
    Answers query parameters (some adapter)
      (some ⟨after, adapter.received ++ [⟨resolution.query, resolution.values⟩]⟩)
      (journal.outcome.mapError .execution)

section Single

variable {query : Query} {parameters : Value} {adapter : Option α} {present : α}

/-- The settings of a query for an adapter are those that it is resolved with. -/
theorem settles_configFor (query : Query) (adapter : Option α) :
    query.Settles adapter (query.configFor adapter) := by
  rw [configFor]
  cases own : query.config with
  | some config => exact .own own
  | none =>
    cases adapter with
    -- Without an adapter there is no preference to look at.
    | none => exact .default own (fun _ _ called => by contradiction)
    | some present =>
      -- Only settings count as a preference.
      cases prefers : Executor.preference present with
      | settings config =>
        simp only [Option.bind_some, prefers]
        exact .preferred own rfl prefers
      | absent | inert =>
        simp only [Option.bind_some, prefers]
        refine .default own fun other config called => ?_
        obtain rfl := Option.some.inj called
        rw [prefers]
        exact Preference.noConfusion

/-- The missing operations are those required that the adapter does not offer. -/
theorem mem_missing_iff {operation : Operation} :
    operation ∈ missing adapter ↔ operation ∈ required ∧ ¬ Offers adapter operation := by
  -- Without an adapter nothing is offered.
  rw [missing, List.mem_filter]
  refine and_congr_right fun _ => ?_
  cases adapter with
  | none => simp [Offers]
  | some present => simp [Offers]

/-- An adapter lacks nothing when it offers all that is required. -/
theorem missing_eq_nil_iff :
    missing adapter = [] ↔ ∀ operation ∈ required, Offers adapter operation := by
  -- Whatever is required would be missing unless it is offered.
  rw [List.eq_nil_iff_forall_not_mem]
  refine forall_congr' fun operation => ?_
  rw [mem_missing_iff, not_and, not_not]

/-- A call without an adapter that offers all that is required does nothing. -/
theorem call_of_missing (lacks : missing adapter ≠ []) :
    query.call parameters adapter = (adapter, .fail (.missing (missing adapter))) := by
  -- A call looks at what is missing before it does anything.
  unfold call
  split
  · contradiction
  · rfl

/-- A call of a query that does not resolve does nothing. -/
theorem call_of_error {cause : ResolutionFault} (able : missing (some present) = [])
    (failed : (query.resolve parameters (some present)).outcome = .error cause) :
    query.call parameters (some present) =
      (some present, ⟨(query.resolve parameters (some present)).events,
        .error (.resolution cause)⟩) := by
  -- Nothing is missing, so the outcome of the resolution decides.
  rw [call, failed]
  exact able

/-- A call of a query that resolves executes it once. -/
theorem call_of_ok {resolution : Resolution} (able : missing (some present) = [])
    (resolved : (query.resolve parameters (some present)).outcome = .ok resolution) :
    query.call parameters (some present) =
      let (after, journal) := Executor.execute present resolution.query resolution.values
      (some after, ⟨(query.resolve parameters (some present)).events ++
          .executing query.name resolution.values.length :: journal.events,
        journal.outcome.mapError .execution⟩) := by
  -- Nothing is missing, so the outcome of the resolution decides.
  rw [call, resolved]
  exact able

/-- A call does to its adapter what it should, and gives what it should. -/
theorem call_answers (query : Query) (parameters : Value) (adapter : Option (Watched α)) :
    Answers query parameters adapter (query.call parameters adapter).1
      (query.call parameters adapter).2.outcome := by
  by_cases able : missing adapter = []
  · cases adapter with
    | none => contradiction
    | some present =>
      -- The adapter offers all that is required, so it depends on the resolution.
      have offers := missing_eq_nil_iff.mp able
      have settled := settles_configFor query (some present)
      cases outcome : (query.resolve parameters (some present)).outcome with
      | error cause =>
        rw [call_of_error able outcome]
        exact .unresolved offers settled outcome
      | ok resolution =>
        rw [call_of_ok able outcome]
        exact .executed offers settled outcome rfl
  · -- Something is missing, and exactly that is named.
    rw [call_of_missing able]
    refine .lacking able List.filter_sublist fun operation needed => ?_
    rw [mem_missing_iff]
    exact and_iff_right needed

/-- A call gives its adapter back, if it has one. -/
theorem call_some (query : Query) (parameters : Value) (present : α) :
    ∃ after, (query.call parameters (some present)).1 = some after := by
  -- In each of the three ways that a call may end, there is an adapter afterwards.
  by_cases able : missing (some present) = []
  · cases outcome : (query.resolve parameters (some present)).outcome with
    | error cause => exact ⟨present, by rw [call_of_error able outcome]⟩
    | ok resolution => exact ⟨_, by rw [call_of_ok able outcome]⟩
  · exact ⟨present, by rw [call_of_missing able]⟩

/-- A call does the same when its adapter is not watched. -/
theorem call_watched (query : Query) (parameters : Value) (adapter : Option (Watched α)) :
    query.call parameters (adapter.map Watched.executor) =
      ((query.call parameters adapter).1.map Watched.executor,
        (query.call parameters adapter).2) := by
  cases adapter with
  | none => rfl
  | some present =>
    -- An adapter has the same operations and settings when it is watched.
    have lacks : missing (some present.executor) = missing (some present) := rfl
    have resolves : query.resolve parameters (some present.executor) =
        query.resolve parameters (some present) := rfl
    rw [Option.map_some]
    by_cases able : missing (some present) = []
    · cases outcome : (query.resolve parameters (some present)).outcome with
      | error cause =>
        rw [call_of_error able outcome, call_of_error (lacks ▸ able) (resolves ▸ outcome), resolves]
        rfl
      | ok resolution =>
        rw [call_of_ok able outcome, call_of_ok (lacks ▸ able) (resolves ▸ outcome), resolves]
        rfl
    · rw [call_of_missing able, call_of_missing (lacks ▸ able), lacks]
      rfl

end Single

/-- A call of some query, with the key of its adapter if it has one. -/
structure Call (key : Type) where
  /-- The query. -/
  query : Query
  /-- The parameters. -/
  parameters : Value
  /-- The key. -/
  adapter : Option key

section Runs

variable {key : Type} [DecidableEq key]

/-- The adapters after a call, with what it gives. -/
def perform (adapters : key → α) (call : Call key) :
    (key → α) × Journal Event (CallFault fault) result :=
  let (after, journal) := call.query.call call.parameters (call.adapter.map adapters)
  match call.adapter with
  | some own => (Function.update adapters own (after.getD (adapters own)), journal)
  | none => (adapters, journal)

/-- The adapters after some calls, with what each of them gives. -/
def performAll (adapters : key → α) :
    List (Call key) → (key → α) × List (Journal Event (CallFault fault) result)
  | [] => (adapters, [])
  | call :: rest =>
    let (between, journal) := perform adapters call
    let (after, others) := performAll between rest
    (after, journal :: others)

variable {adapters others : key → α} {call : Call key} {calls : List (Call key)}

/-- A call without an adapter leaves all adapters as they are. -/
theorem perform_of_none (uncalled : call.adapter = none) :
    perform adapters call =
      (adapters, (call.query.call call.parameters (none : Option α)).2) := by
  rw [perform, uncalled]
  rfl

/-- A call changes its adapter as the call of the query does. -/
theorem perform_of_some {own : key} {after : α} {journal : Journal Event (CallFault fault) result}
    (called : call.adapter = some own)
    (given : call.query.call call.parameters (some (adapters own)) = (some after, journal)) :
    perform adapters call = (Function.update adapters own after, journal) := by
  rw [perform, called, Option.map_some, given]
  rfl

/-- A call does to its adapter what the call of the query does, and gives what that gives. -/
theorem perform_eq (adapters : key → α) (call : Call key) :
    (call.adapter.map (perform adapters call).1, (perform adapters call).2) =
      call.query.call call.parameters (call.adapter.map adapters) := by
  cases called : call.adapter with
  | none =>
    -- Without an adapter there is nothing that the call could change.
    have lacks : missing (none : Option α) ≠ [] := List.cons_ne_nil _ _
    rw [perform_of_none called, Option.map_none, call_of_missing lacks]
  | some own =>
    obtain ⟨after, given⟩ := call_some call.query call.parameters (adapters own)
    rw [perform_of_some called (Prod.ext given rfl), Option.map_some, Option.map_some]
    refine Prod.ext ?_ rfl
    exact (congrArg some (Function.update_self ..)).trans given.symm

/-- A call leaves the other adapters as they are. -/
theorem perform_of_ne {own : key} (other : call.adapter ≠ some own) :
    (perform adapters call).1 own = adapters own := by
  -- Only the adapter that is called is put back, under its own key.
  cases called : call.adapter with
  | none => rw [perform_of_none called]
  | some key =>
    obtain ⟨after, given⟩ := call_some call.query call.parameters (adapters key)
    have apart : own ≠ key := by
      rintro rfl
      exact other called
    rw [perform_of_some called (Prod.ext given rfl)]
    exact Function.update_of_ne apart ..

/-- Calls one after the other are performed one after the other. -/
theorem performAll_append (adapters : key → α) (first second : List (Call key)) :
    performAll adapters (first ++ second) =
      ((performAll (performAll adapters first).1 second).1,
        (performAll adapters first).2 ++ (performAll (performAll adapters first).1 second).2) := by
  -- The later calls are made on the adapters that the earlier ones have left.
  induction first generalizing adapters with
  | nil => rfl
  | cons call rest ih => simp only [List.cons_append, performAll, ih]

/-- Every call gives something. -/
theorem length_performAll (adapters : key → α) (calls : List (Call key)) :
    (performAll adapters calls).2.length = calls.length := by
  -- What each call gives stands before what the others give.
  induction calls generalizing adapters with
  | nil => rfl
  | cons call rest ih => simp only [performAll, List.length_cons, ih]

/-- An adapter is what its own calls make of it. -/
theorem performAll_filter {own : key} (same : adapters own = others own) :
    (performAll adapters calls).1 own =
      (performAll others (calls.filter fun call => call.adapter = some own)).1 own := by
  -- The two runs keep the adapter alike, whatever becomes of the other ones in the longer run.
  induction calls generalizing adapters others with
  | nil => exact same
  | cons call rest ih =>
    rw [performAll]
    by_cases called : call.adapter = some own
    · rw [List.filter_cons_of_pos (by simpa using called), performAll]
      refine ih ?_
      have first := congrArg Prod.fst (perform_eq adapters call)
      have second := congrArg Prod.fst (perform_eq others call)
      rw [called, Option.map_some, Option.map_some] at first second
      rw [same, ← second] at first
      exact Option.some.inj first
    · rw [List.filter_cons_of_neg (by simpa using called)]
      exact ih ((perform_of_ne called).trans same)

/-- Calls do the same to adapters that are not watched, and give the same. -/
theorem performAll_watched (adapters : key → Watched α) (calls : List (Call key)) :
    performAll (fun own => (adapters own).executor) calls =
      (fun own => ((performAll adapters calls).1 own).executor, (performAll adapters calls).2) := by
  induction calls generalizing adapters with
  | nil => rfl
  | cons call rest ih =>
    -- One call makes the same of the adapters, and so do the others after it.
    have step : perform (fun own => (adapters own).executor) call =
        (fun own => ((perform adapters call).1 own).executor, (perform adapters call).2) := by
      have watched := call_watched call.query call.parameters (call.adapter.map adapters)
      cases called : call.adapter with
      | none =>
        rw [called] at watched
        rw [perform_of_none called, perform_of_none called]
        exact congrArg (Prod.mk _) (congrArg Prod.snd watched)
      | some own =>
        -- Only the adapter that is called may change, watched or not.
        obtain ⟨after, given⟩ := call_some call.query call.parameters (adapters own)
        rw [called, Option.map_some, Option.map_some, given] at watched
        rw [perform_of_some called watched, perform_of_some called (Prod.ext given rfl)]
        refine Prod.ext ?_ rfl
        exact (Function.comp_update Watched.executor adapters own after).symm
    simp only [performAll, step, ih]

/-- In any run of calls each call asks its adapter to execute at most once: just when the adapter
has the operations and the query resolves, and then for what the resolution gives, with the settings
of the query, of the adapter, or the default ones in this order. What the adapter gives is passed
on. Otherwise the adapter is left as it is, and the missing operations are named before the
resolution may fail. The other adapters are left as they are in any case, and what a call gives is
what it would give after the earlier calls of its own adapter alone. -/
theorem performAll_asks_at_most_once (adapters : key → Watched α) (calls : List (Call key)) :
    performAll (fun own => (adapters own).executor) calls =
        (fun own => ((performAll adapters calls).1 own).executor,
          (performAll adapters calls).2) ∧
      ∀ earlier call later, calls = earlier ++ call :: later →
        let before := (performAll adapters earlier).1
        let after := (performAll adapters (earlier ++ [call])).1
        let own := earlier.filter fun other => other.adapter = call.adapter
        ∃ answer, (performAll adapters calls).2[earlier.length]? = some answer ∧
          Answers call.query call.parameters (call.adapter.map before) (call.adapter.map after)
            answer.outcome ∧
          (∀ other, call.adapter ≠ some other → after other = before other) ∧
          (performAll adapters (own ++ [call])).2.getLast? = some answer := by
  refine ⟨performAll_watched adapters calls, ?_⟩
  rintro earlier call later rfl before after own
  -- The call is made on what the earlier calls have left.
  have last : after = (perform before call).1 := by
    show (performAll adapters (earlier ++ [call])).1 = _
    rw [performAll_append]
    rfl
  have step := perform_eq before call
  refine ⟨(perform before call).2, ?_, ?_, fun other apart => ?_, ?_⟩
  · -- Its answer stands after those of the earlier calls.
    rw [performAll_append, ← length_performAll adapters earlier,
      List.getElem?_append_right (Nat.le_refl _), Nat.sub_self]
    rfl
  · have answers := call_answers call.query call.parameters (call.adapter.map before)
    rw [← step] at answers
    rw [last]
    exact answers
  · rw [last]
    exact perform_of_ne apart
  · -- The adapter of the call, if it has one, is what its own earlier calls have made of it.
    have alike : call.adapter.map (performAll adapters own).1 = call.adapter.map before := by
      cases called : call.adapter with
      | none => rfl
      | some key =>
        have same := @performAll_filter _ _ _ _ _ _ adapters adapters earlier key rfl
        rw [← called] at same
        exact congrArg some same.symm
    have answer : (perform (performAll adapters own).1 call).2 = (perform before call).2 := by
      have other := perform_eq (performAll adapters own).1 call
      rw [alike, ← step] at other
      exact (Prod.mk.inj other).2
    rw [performAll_append, ← answer]
    simp [performAll]

end Runs

/-- A template with one placeholder. -/
def numbered : Query :=
  make "X :n".toList none (some "numbered")

/-- Calls of it: with a number, without one, and with a number but no adapter. -/
def numberedCalls : List (Call Bool) :=
  [⟨numbered, .mapping [("n", .int 1)], some true⟩, ⟨numbered, .null, some true⟩,
    ⟨numbered, .mapping [("n", .int 2)], none⟩]

/-- Adapters that record their queries. -/
def recorders (_ : Bool) : Watched Adapter :=
  ⟨⟨none, .recording "sqlite" []⟩, []⟩

/-- The second of three calls is not executed for want of its number, so its adapter has been asked
for the first one only. -/
theorem second_call_not_executed :
    ((performAll recorders numberedCalls).1 true).received = [⟨"X ?".toList, [.int 1]⟩] ∧
      ∃ answer, (performAll recorders numberedCalls).2[1]? = some answer ∧
        Answers numbered .null (some ((performAll recorders (numberedCalls.take 1)).1 true))
          (some ((performAll recorders (numberedCalls.take 2)).1 true)) answer.outcome ∧
        answer.outcome = .error (.resolution (.undefined ["n"] "X :n".toList)) := by
  -- The calls are run down to the outcomes of their resolutions. What the second one does is told
  -- by the general theorem, with one call before it and one after.
  have computed : ((performAll recorders numberedCalls).1 true).received =
        [⟨"X ?".toList, [.int 1]⟩] ∧
      (performAll recorders numberedCalls).2[1]?.map Journal.outcome =
        some (.error (.resolution (.undefined ["n"] "X :n".toList))) := by
    simp only [performAll, numberedCalls, perform, call, resolve, outcome_resolve,
      outcome_resolveTemplate, outcome_occurrenceOf]
    exact ⟨by with_unfolding_all rfl, by with_unfolding_all rfl⟩
  obtain ⟨asked, failed⟩ := computed
  obtain ⟨answer, given, answers, -⟩ := (performAll_asks_at_most_once recorders numberedCalls).2
    (numberedCalls.take 1) ⟨numbered, .null, some true⟩ (numberedCalls.drop 2) rfl
  refine ⟨asked, answer, given, answers, ?_⟩
  have same : (performAll recorders numberedCalls).2[1]? = some answer := given
  rw [same] at failed
  exact Option.some.inj failed

end Query

end SqlTemplate
