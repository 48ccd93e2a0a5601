import SqlTemplate.Proofs.Catalog.Lookup

/-! The names that a catalog lists are those under which queries were added, and each leads to the
query that was added under it last, unless it ends in a dot. -/

namespace SqlTemplate

/-- The templates that a registry gives for some names, up to the first that it does not find. -/
def Registry.fetched (registry : Registry) : List String → List (String × Text)
  | [] => []
  | name :: rest =>
    match registry.template name with
    | .ok sql => (name, sql) :: registry.fetched rest
    | .error _ => []

/-- A name with a dot after it makes another name of a query. -/
theorem Query.name_make_dotted {sql other : Text} (config settings : Option Config)
    (name : String) :
    (make sql config (some (name ++ "."))).name ≠ (make other settings (some name)).name := by
  have longer : (name ++ ".").isEmpty = false := by
    simp [← Bool.not_eq_true, String.isEmpty_iff]
  simp only [make, Option.getD_some, longer, Bool.false_eq_true, if_false]
  by_cases empty : name.isEmpty = true
  · rw [if_pos empty, String.isEmpty_iff.mp empty]
    decide
  · rw [if_neg empty]
    -- The name with the dot is longer.
    intro same
    have lengths := congrArg String.length same
    rw [String.length_append] at lengths
    exact absurd lengths (Nat.succ_ne_self _)

namespace Catalog

/-- A call that adds queries to a catalog. -/
inductive Call where
  /-- A template is added under a dotted name. -/
  | add (name : String) (sql : Text)
  /-- Named templates are added. -/
  | addAll (given : List (String × Text))
  /-- The templates of a registry are added. -/
  | addRegistry (registry : Registry)

/-- The named templates that a call adds, as far as none is refused. -/
def Call.templates : Call → List (String × Text)
  | add name sql => [(name, sql)]
  | addAll given => given
  | addRegistry registry => registry.fetched registry.names

/-- A catalog after a call, which may have failed. -/
def perform (catalog : Catalog) : Call → Catalog
  | .add name sql => (catalog.add name sql).1
  | .addAll given => (catalog.addAll given).1
  | .addRegistry registry => (catalog.addRegistry registry).1

/-- A catalog after some calls. -/
def performAll (catalog : Catalog) (calls : List Call) : Catalog :=
  calls.foldl perform catalog

/-- A template that was added under a name, and the query that was made of it. -/
structure Addition where
  /-- The dotted name. -/
  name : String
  /-- The template. -/
  sql : Text
  /-- The query. -/
  query : Query

/-- The additions of named templates to a catalog, up to the first that is refused. -/
def additions (catalog : Catalog) : List (String × Text) → List Addition
  | [] => []
  | (name, sql) :: rest =>
    match catalog.add name sql with
    | (grown, .ok query) => ⟨name, sql, query⟩ :: additions grown rest
    | (_, .error _) => []

/-- The additions of some calls on a catalog, in the order in which they are made. -/
def history (catalog : Catalog) : List Call → List Addition
  | [] => []
  | call :: rest => catalog.additions call.templates ++ history (catalog.perform call) rest

/-- The last of some additions under a name. -/
def latest? (history : List Addition) (name : String) : Option Addition :=
  history.reverse.find? fun addition => addition.name = name

/-- The query of the last addition in the place of a name. -/
def latestAt? (history : List Addition) (place : List String × String) : Option Query :=
  (history.reverse.find? fun addition => DottedName.place addition.name = place).map Addition.query

section Calls

variable {catalog : Catalog} {calls : List Call} {given : List (String × Text)}
  {name key : String} {scope : List String}

/-- The templates of a registry are added as those that it gives. -/
theorem addRegistered_eq (registry : Registry) (catalog : Catalog) (names : List String) :
    (addRegistered registry catalog names).1 = (catalog.addAll (registry.fetched names)).1 := by
  induction names generalizing catalog with
  | nil => rfl
  | cons name rest ih =>
    rw [addRegistered, Registry.fetched]
    cases registry.template name with
    | error fault => rfl
    | ok sql =>
      simp only [addAll]
      -- What is left of the names is added to the catalog that has grown.
      rcases catalog.add name sql with ⟨grown, _ | _⟩
      · rfl
      · exact ih grown

/-- A call adds its templates. -/
theorem perform_eq (catalog : Catalog) (call : Call) :
    catalog.perform call = (catalog.addAll call.templates).1 := by
  -- Only a single addition drops the query it returns; the other two kinds are additions as they
  -- are.
  cases call with
  | add name sql =>
    rw [perform, Call.templates, addAll]
    rcases catalog.add name sql with ⟨grown, _ | _⟩ <;> rfl
  | addAll given => rfl
  | addRegistry registry => exact addRegistered_eq registry catalog registry.names

/-- The last addition in a place is among those that came later, or else among those before. -/
theorem latestAt?_append (before later : List Addition) (place : List String × String) :
    latestAt? (before ++ later) place = (latestAt? later place).or (latestAt? before place) := by
  -- The search from the end meets the later additions first.
  rw [latestAt?, List.reverse_append, List.find?_append, Option.map_or]
  rfl

/-- After templates are added, the last addition in a place is found there, or else what was found
there before. -/
theorem queryAt?_addAll (catalog : Catalog) (given : List (String × Text)) (key : String)
    (scope : List String) :
    (catalog.addAll given).1.queryAt? key scope =
      (latestAt? (catalog.additions given) (scope, key)).or (catalog.queryAt? key scope) := by
  -- The templates are added one by one, each to the catalog that those before it have left.
  induction given generalizing catalog with
  | nil => rfl
  | cons entry rest ih =>
    obtain ⟨name, sql⟩ := entry
    have first := queryAt?_add catalog name sql key scope
    rw [addAll, additions]
    rcases added : catalog.add name sql with ⟨grown, fault | query⟩
    · -- A refusal ends the additions before there is any.
      rw [added] at first
      exact first
    · -- The first addition is found as long as no later one is in its place.
      rw [added] at first
      change _ = (latestAt? ([⟨name, sql, query⟩] ++ grown.additions rest) _).or _
      rw [ih grown, latestAt?_append, Option.or_assoc, first]
      by_cases same : (scope, key) = DottedName.place name
      · simp [latestAt?, same]
      · simp [latestAt?, same, Ne.symm same]

/-- After some calls, the last addition in a place is found there, or else what was found there
before. -/
theorem queryAt?_performAll (catalog : Catalog) (calls : List Call) (key : String)
    (scope : List String) :
    (catalog.performAll calls).queryAt? key scope =
      (latestAt? (catalog.history calls) (scope, key)).or (catalog.queryAt? key scope) := by
  induction calls generalizing catalog with
  | nil => rfl
  | cons call rest ih =>
    -- What the first call leaves is what was there before the others.
    have first := queryAt?_addAll catalog call.templates key scope
    rw [← perform_eq] at first
    rw [history, latestAt?_append, Option.or_assoc, ← first]
    exact ih (catalog.perform call)

/-- Adding templates keeps the names of catalogs different. -/
theorem Distinct.addAll (distinct : catalog.Distinct) : (catalog.addAll given).1.Distinct := by
  -- Each addition keeps the names different, and a refused one is the last that is tried.
  induction given generalizing catalog with
  | nil => exact distinct
  | cons entry rest ih =>
    obtain ⟨name, sql⟩ := entry
    have grows : (catalog.add name sql).1.Distinct := distinct.addAt
    rw [Catalog.addAll]
    rcases added : catalog.add name sql with ⟨grown, fault | query⟩
    · rw [added] at grows
      -- refused: what the addition left is what the whole call leaves
      exact grows
    · rw [added] at grows
      exact ih grows

/-- Calls keep the names of catalogs different. -/
theorem Distinct.performAll (distinct : catalog.Distinct) :
    (catalog.performAll calls).Distinct := by
  -- By induction on the calls, each of which only adds templates.
  induction calls generalizing catalog with
  | nil => exact distinct
  | cons call rest ih =>
    refine ih ?_
    rw [perform_eq]
    exact distinct.addAll

/-- An empty catalog has no catalogs within it. -/
theorem distinct_empty (config : Option Config) : (empty config).Distinct :=
  -- There is no catalog within it that could share a name.
  .mk List.nodup_nil fun entry member => by contradiction

/-- The query of an addition has its template and is called by the key of its name. -/
theorem query_of_mem_additions {addition : Addition}
    (member : addition ∈ catalog.additions given) :
    ∃ config, addition.query =
      Query.make addition.sql config (some (DottedName.ofString addition.name).key) := by
  -- By induction on the templates: a refused one ends the additions, another one is the first of
  -- them.
  induction given generalizing catalog with
  | nil => contradiction
  | cons entry rest ih =>
    obtain ⟨name, sql⟩ := entry
    rw [additions] at member
    rcases added : catalog.add name sql with ⟨grown, fault | query⟩
    · rw [added] at member
      contradiction
    · rw [added] at member
      rcases List.mem_cons.mp member with rfl | later
      · exact query_of_addAt (congrArg Prod.snd added)
      · exact ih later

/-- The query of an addition among those of some calls has its template and is called by the key of
its name. -/
theorem query_of_mem_history {addition : Addition} (member : addition ∈ catalog.history calls) :
    ∃ config, addition.query =
      Query.make addition.sql config (some (DottedName.ofString addition.name).key) := by
  -- The additions of the first call come first, and those of the others are found by induction.
  induction calls generalizing catalog with
  | nil => contradiction
  | cons call rest ih =>
    rcases List.mem_append.mp member with first | later
    · exact query_of_mem_additions first
    · exact ih later

end Calls

section Latest

variable {history : List Addition} {addition : Addition} {name : String}

/-- The last addition under a name is an addition under that name. -/
theorem mem_of_latest? (last : latest? history name = some addition) :
    addition ∈ history ∧ addition.name = name := by
  -- What a search from the end finds is in the list and passes its test.
  have member := List.mem_of_find?_eq_some last
  have named := List.find?_some last
  exact ⟨List.mem_reverse.mp member, of_decide_eq_true named⟩

/-- The last addition in the place of a name is the last under that name. -/
theorem latestAt?_place (history : List Addition) (name : String) :
    latestAt? history (DottedName.place name) = (latest? history name).map Addition.query := by
  -- A place is that of one name only, so both searches stop at the same addition.
  simp only [latestAt?, latest?, DottedName.place_inj]

/-- The last addition in a place is one under a name of that place. -/
theorem exists_of_latestAt? {place : List String × String} {query : Query}
    (found : latestAt? history place = some query) :
    ∃ addition ∈ history, addition.query = query ∧ DottedName.place addition.name = place := by
  -- The query is that of the addition which the search finds.
  obtain ⟨addition, last, rfl⟩ := Option.map_eq_some_iff.mp found
  have member := List.mem_of_find?_eq_some last
  have there := List.find?_some last
  exact ⟨addition, List.mem_reverse.mp member, rfl, of_decide_eq_true there⟩

end Latest

/-- What was added last in a place is found there in a catalog that was empty before. -/
theorem queryAt?_performAll_empty (config : Option Config) (calls : List Call) (key : String)
    (scope : List String) :
    ((empty config).performAll calls).queryAt? key scope =
      latestAt? ((empty config).history calls) (scope, key) := by
  -- The empty catalog has nothing to fall back on.
  rw [queryAt?_performAll, queryAt?_empty, Option.or_none]

/-- A name is listed when a query was added under it. -/
theorem mem_names_performAll_iff (config : Option Config) (calls : List Call) (name : String) :
    name ∈ ((empty config).performAll calls).names ↔
      ∃ addition, latest? ((empty config).history calls) name = some addition := by
  rw [mem_names_iff (distinct_empty config).performAll]
  simp only [queryAt?_performAll_empty]
  constructor
  · rintro ⟨scope, key, query, found, rfl⟩
    -- The place is that of the name of an addition, so this is the name in question.
    obtain ⟨addition, -, -, there⟩ := exists_of_latestAt? found
    have same : DottedName.joined key scope = addition.name := by
      obtain ⟨rfl, rfl⟩ := Prod.mk.inj there
      exact DottedName.joined_ofString addition.name
    rw [same]
    rw [← there, latestAt?_place] at found
    obtain ⟨last, under, -⟩ := Option.map_eq_some_iff.mp found
    exact ⟨last, under⟩
  · -- An addition is found in the place of its name, which is put together again.
    rintro ⟨addition, last⟩
    refine ⟨_, _, addition.query, ?_, DottedName.joined_ofString name⟩
    rw [← DottedName.place, latestAt?_place, last]
    rfl

/-- A name leads to the query that was added under it last unless it ends in a dot. -/
theorem get_performAll_eq_latest_iff {config : Option Config} {calls : List Call} {name : String}
    {addition : Addition} (last : latest? ((empty config).history calls) name = some addition) :
    ((empty config).performAll calls).get name = .ok (.query addition.query) ↔
      ¬ DottedName.EndsInDot name := by
  have under : latestAt? ((empty config).history calls) (DottedName.place name) =
      some addition.query := by
    rw [latestAt?_place, last]
    rfl
  rw [get, getAt_eq_query_iff, queryAt?_performAll_empty]
  rcases DottedName.key_ofString name with ⟨same, plain⟩ | ⟨longer, dotted⟩
  · -- The head is the key, under which the query was added.
    rw [← same]
    exact iff_of_true under plain
  · refine iff_of_false (fun found => ?_) (not_not.mpr dotted)
    -- A query that was added under the head is called by it, and this one by the longer key.
    obtain ⟨other, member, alike, there⟩ := exists_of_latestAt? found
    obtain ⟨-, head⟩ := Prod.mk.inj there
    obtain ⟨left, made⟩ := query_of_mem_history member
    obtain ⟨right, called⟩ := query_of_mem_history (mem_of_latest? last).1
    rw [alike, called, (mem_of_latest? last).2, longer, head] at made
    exact Query.name_make_dotted _ _ _ (congrArg Query.name made)

/-- Whatever calls are made on an empty catalog, those names are listed, and are in the catalog,
under which a query was added. The query that was added under one last has the template that was
given, and the name leads to it unless it ends in a dot. -/
theorem performAll_lists_latest (config : Option Config) (calls : List Call) (name : String) :
    let catalog := (empty config).performAll calls
    let history := (empty config).history calls
    (name ∈ catalog.names ↔ ∃ addition, latest? history name = some addition) ∧
    (catalog.contains name = true ↔ name ∈ catalog.names) ∧
    ∀ addition, latest? history name = some addition →
      addition.query.sql = addition.sql ∧
      (catalog.get name = .ok (.query addition.query) ↔ ¬ DottedName.EndsInDot name) := by
  -- Listing and lookup are settled above, so only the template of the last addition is left.
  refine ⟨mem_names_performAll_iff config calls name, List.contains_iff_mem, ?_⟩
  intro addition last
  obtain ⟨own, made⟩ := query_of_mem_history (mem_of_latest? last).1
  refine ⟨?_, get_performAll_eq_latest_iff last⟩
  rw [made]
  rfl

/-- Calls that add a query under a dotted name, another one in its place, and one under a name that
ends in a dot. Between them a name is refused. -/
def dottedCalls : List Call :=
  [.add "a.b" ['X'], .addAll [("a.b", ['Y']), ("config", ['Z'])], .add "c." ['W']]

/-- The additions of these calls are the three that are not refused, and the last one of them is
not found under the head of its name. -/
theorem dottedCalls_outcome :
    (empty none).history dottedCalls =
        [⟨"a.b", ['X'], ⟨"b", ['X'], none⟩⟩, ⟨"a.b", ['Y'], ⟨"b", ['Y'], none⟩⟩,
          ⟨"c.", ['W'], ⟨"c.", ['W'], none⟩⟩] ∧
      ((empty none).performAll dottedCalls).get "c." = .error (.unknown "c") := by
  -- The names are split and the reserved ones told first, so that the calls can be run by
  -- rewriting.
  have nested : DottedName.ofString "a.b" = ⟨["a"], "b", "b"⟩ := by with_unfolding_all rfl
  have plain : DottedName.ofString "config" = ⟨[], "config", "config"⟩ := by with_unfolding_all rfl
  have dotted : DottedName.ofString "c." = ⟨[], "c", "c."⟩ := by with_unfolding_all rfl
  have a : isReserved "a" = false := by decide +kernel
  have b : isReserved "b" = false := by decide +kernel
  have c : isReserved "c" = false := by decide +kernel
  have taken : isReserved "config" = true := by decide +kernel
  simp [dottedCalls, history, additions, performAll, perform, Call.templates, addAll, add, addAt,
    get, getAt, nested, plain, dotted, refuseScope, refuseQuery, a, b, c, taken, empty, put,
    children, queries, config, lookup_cons_eq, Query.make]

/-- The query that replaced another one is found under its dotted name. -/
theorem replacement_found :
    ∃ addition, latest? ((empty none).history dottedCalls) "a.b" = some addition ∧
      addition.query.sql = ['Y'] ∧
      ((empty none).performAll dottedCalls).get "a.b" = .ok (.query addition.query) := by
  -- The name does not end in a dot, so it leads to the last of its two additions.
  have last : latest? ((empty none).history dottedCalls) "a.b" =
      some ⟨"a.b", ['Y'], ⟨"b", ['Y'], none⟩⟩ := by
    rw [dottedCalls_outcome.1]
    with_unfolding_all rfl
  have leads := ((performAll_lists_latest none dottedCalls "a.b").2.2 _ last).2
  have plain : ¬ DottedName.EndsInDot "a.b" := by
    rw [DottedName.EndsInDot]
    decide
  exact ⟨_, last, rfl, leads.mpr plain⟩

/-- A name that ends in a dot is listed and does not lead to its query, so not every name that is
listed does. -/
theorem trailing_dot_lost :
    ("c." ∈ ((empty none).performAll dottedCalls).names ∧
      ((empty none).performAll dottedCalls).get "c." = .error (.unknown "c")) ∧
    ¬ ∀ config calls name, name ∈ ((empty config).performAll calls).names →
      ∃ addition, latest? ((empty config).history calls) name = some addition ∧
        ((empty config).performAll calls).get name = .ok (.query addition.query) := by
  -- The name is listed because a query was added under it, and the lookup fails at the head before
  -- the dot.
  have listed : "c." ∈ ((empty none).performAll dottedCalls).names := by
    refine (mem_names_performAll_iff none dottedCalls "c.").mpr
      ⟨⟨"c.", ['W'], ⟨"c.", ['W'], none⟩⟩, ?_⟩
    rw [dottedCalls_outcome.1]
    with_unfolding_all rfl
  refine ⟨⟨listed, dottedCalls_outcome.2⟩, fun leads => ?_⟩
  obtain ⟨addition, -, found⟩ := leads none dottedCalls "c." listed
  rw [dottedCalls_outcome.2] at found
  contradiction

end Catalog

end SqlTemplate
