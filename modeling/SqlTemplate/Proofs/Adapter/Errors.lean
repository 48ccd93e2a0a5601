import SqlTemplate.Adapter.Session

/-! Errors of the database are told apart from all others by what they are derived from, on either
driver, and the drivers describe them alike but for their names. -/

namespace SqlTemplate

namespace DatabaseKind

/-- The kind that a kind of error of a database is derived from, if there is one. -/
def base? : DatabaseKind → Option DatabaseKind
  | error => none
  | interface | database => some error
  | _ => some database

/-- The lineage of a kind goes on with that of its base. -/
theorem lineage_eq (kind : DatabaseKind) :
    kind.lineage = kind :: kind.base?.elim [] lineage := by
  -- The kinds are nine, and each has its base in the second place.
  cases kind <;> rfl

end DatabaseKind

namespace ErrorKind

/-- A kind of error is derived from one of a database, or is that one itself. -/
inductive DerivesFrom : ErrorKind → DatabaseKind → Prop
  /-- Every kind of a database counts as derived from itself. -/
  | itself (kind : DatabaseKind) : DerivesFrom (.ofDatabase kind) kind
  /-- A kind of a database is derived from all that its base is derived from. -/
  | above {kind base ancestor : DatabaseKind} (from_ : kind.base? = some base)
    (derived : DerivesFrom (.ofDatabase base) ancestor) : DerivesFrom (.ofDatabase kind) ancestor
  /-- Another kind is derived from all that one of its bases is derived from. -/
  | through {name : String} {bases : List ErrorKind} {base : ErrorKind} {ancestor : DatabaseKind}
    (member : base ∈ bases) (derived : DerivesFrom base ancestor) :
    DerivesFrom (.other name bases) ancestor

/-- The kinds of databases that are collected from a list are those of all its members. -/
theorem databaseKindsOf_eq (bases : List ErrorKind) :
    databaseKindsOf bases = bases.flatMap databaseKinds := by
  -- The members are collected one after the other.
  induction bases with
  | nil => rfl
  | cons kind rest ih => rw [databaseKindsOf, ih, List.flatMap_cons]

/-- A kind of a database is derived from all of its lineage. -/
theorem derivesFrom_of_mem_lineage {ancestor : DatabaseKind} (kind : DatabaseKind)
    (member : ancestor ∈ kind.lineage) : (ofDatabase kind).DerivesFrom ancestor := by
  -- The recursion follows the bases, and the lineage of a base is shorter.
  have first := kind.lineage_eq
  rw [first] at member
  rcases List.mem_cons.mp member with rfl | later
  · exact .itself ancestor
  · cases from_ : kind.base? with
    | none =>
      rw [from_] at later
      cases later
    | some base =>
      rw [from_] at first later
      have shorter : base.lineage.length < kind.lineage.length := by
        rw [first]
        exact Nat.lt_succ_self _
      exact .above from_ (derivesFrom_of_mem_lineage base later)
termination_by kind.lineage.length

/-- A kind is derived from all the kinds of databases that are collected from it. -/
theorem derivesFrom_of_mem {ancestor : DatabaseKind} :
    (kind : ErrorKind) → ancestor ∈ kind.databaseKinds → kind.DerivesFrom ancestor
  | ofDatabase kind, member => derivesFrom_of_mem_lineage kind (by rwa [databaseKinds] at member)
  | other name bases, member => by
    -- What is collected from a list comes from one of its members, which is smaller than the list.
    rw [databaseKinds, databaseKindsOf_eq] at member
    obtain ⟨base, listed, found⟩ := List.mem_flatMap.mp member
    have smaller := List.sizeOf_lt_of_mem listed
    exact .through listed (derivesFrom_of_mem base found)
termination_by kind => sizeOf kind
decreasing_by
  rw [other.sizeOf_spec]
  omega

/-- A kind is found to be of a kind of a database just when it is derived from that one. -/
theorem isA_iff {kind : ErrorKind} {ancestor : DatabaseKind} :
    kind.isA ancestor = true ↔ kind.DerivesFrom ancestor := by
  rw [isA, List.contains_iff_mem]
  refine ⟨derivesFrom_of_mem kind, fun derived => ?_⟩
  -- Each step of a derivation adds a kind in front of a lineage, or a list that holds the base.
  induction derived with
  | itself kind =>
    rw [databaseKinds, kind.lineage_eq]
    exact List.mem_cons_self
  | @above kind base _ from_ _ ih =>
    rw [databaseKinds, kind.lineage_eq, from_]
    rw [databaseKinds] at ih
    exact List.mem_cons_of_mem _ ih
  | through member _ ih =>
    rw [databaseKinds, databaseKindsOf_eq]
    exact List.mem_flatMap.mpr ⟨_, member, ih⟩

/-- What is derived from any kind of a database is derived from their root. -/
theorem DerivesFrom.error {kind : ErrorKind} {ancestor : DatabaseKind}
    (derived : kind.DerivesFrom ancestor) : kind.DerivesFrom .error := by
  induction derived with
  | itself kind =>
    -- The lineage of every kind ends in the root.
    refine derivesFrom_of_mem_lineage kind ?_
    cases kind <;> simp [DatabaseKind.lineage]
  | above from_ _ ih => exact .above from_ ih
  | through member _ ih => exact .through member ih

end ErrorKind

/-- The name of a driver in messages. -/
def Driver.title : Driver → String
  | direct => "SQLite"
  | deferred => "AIOSQLite"

namespace DatabaseError

variable {driver : Driver} {query : Text} {error : DatabaseError}

/-- What leaves a call that an error ends. An error of the database is wrapped in words that follow
the name of the driver, and any other is raised as it was. -/
inductive Leaves (driver : Driver) (query : Text) (error : DatabaseError) : ExecutionFault → Prop
  /-- A constraint would be violated. -/
  | integrity (derived : error.kind.DerivesFrom .integrity) :
    Leaves driver query error
      (.refused (driver.title ++ (" integrity constraint violation: " ++ error.words)) query)
  /-- Something went wrong while the database operated, and no constraint would be violated. -/
  | operational (derived : error.kind.DerivesFrom .operational)
    (unviolated : ¬ error.kind.DerivesFrom .integrity) :
    Leaves driver query error
      (.refused (driver.title ++ (" operational error: " ++ error.words)) query)
  /-- It is any other error of the database. -/
  | general (derived : error.kind.DerivesFrom .error)
    (unviolated : ¬ error.kind.DerivesFrom .integrity)
    (operating : ¬ error.kind.DerivesFrom .operational) :
    Leaves driver query error (.refused (driver.title ++ (" error: " ++ error.words)) query)
  /-- It is no error of the database. -/
  | unchanged (outside : ¬ error.kind.DerivesFrom .error) :
    Leaves driver query error (.raised error.kind.name error.words)

/-- The words of an error after the name of a driver, if it is one of the database. -/
def reason? (error : DatabaseError) : Option String :=
  if error.kind.isA .integrity then some (" integrity constraint violation: " ++ error.words)
  else if error.kind.isA .operational then some (" operational error: " ++ error.words)
  else if error.kind.isA .error then some (" error: " ++ error.words)
  else none

/-- The fault that an error becomes on a driver. -/
def faultOn (driver : Driver) (query : Text) (error : DatabaseError) : ExecutionFault :=
  match error.reason? with
  | some reason => .refused (driver.title ++ reason) query
  | none => .raised error.kind.name error.words

/-- The direct driver makes the same tests in the same order, and puts its name before the words. -/
theorem toFault_direct (query : Text) (error : DatabaseError) :
    Direct.toFault query error = error.faultOn .direct query := by
  rw [Direct.toFault, faultOn, reason?]
  -- The words of the driver begin with its name in each of the three cases.
  have named (told : String) := @String.append_assoc "SQLite" told error.words
  split
  · exact congrArg (ExecutionFault.refused · query) (named " integrity constraint violation: ")
  · split
    · exact congrArg (ExecutionFault.refused · query) (named " operational error: ")
    · split
      · exact congrArg (ExecutionFault.refused · query) (named " error: ")
      · rfl

/-- The deferred driver makes the same tests in the same order, and puts its name before the
words. -/
theorem toFault_deferred (query : Text) (error : DatabaseError) :
    Deferred.toFault query error = error.faultOn .deferred query := by
  -- The name of the driver is written out in each of the three sentences, and here it is taken off.
  rw [Deferred.toFault, faultOn, reason?]
  have named (told : String) := @String.append_assoc "AIOSQLite" told error.words
  split
  · exact congrArg (ExecutionFault.refused · query) (named " integrity constraint violation: ")
  · split
    · exact congrArg (ExecutionFault.refused · query) (named " operational error: ")
    · split
      · exact congrArg (ExecutionFault.refused · query) (named " error: ")
      · rfl

/-- The fault that an error becomes is what leaves the call. -/
theorem leaves_iff {fault : ExecutionFault} :
    Leaves driver query error fault ↔ fault = error.faultOn driver query := by
  have integral := @ErrorKind.isA_iff error.kind .integrity
  have operating := @ErrorKind.isA_iff error.kind .operational
  have inside := @ErrorKind.isA_iff error.kind .error
  rw [faultOn, reason?]
  constructor
  · -- Each way to leave answers the tests that are made before its own with no.
    rintro (derived | ⟨derived, unviolated⟩ | ⟨derived, unviolated, unoperated⟩ | outside)
    · rw [if_pos (integral.mpr derived)]
    · rw [if_neg (mt integral.mp unviolated), if_pos (operating.mpr derived)]
    · rw [if_neg (mt integral.mp unviolated), if_neg (mt operating.mp unoperated),
        if_pos (inside.mpr derived)]
    · rw [if_neg fun found => outside (integral.mp found).error,
        if_neg fun found => outside (operating.mp found).error,
        if_neg (mt inside.mp outside)]
  · -- The tests are made in their order, and the first that holds names the way.
    rintro rfl
    by_cases violated : error.kind.isA .integrity = true
    · rw [if_pos violated]
      exact .integrity (integral.mp violated)
    · rw [if_neg violated]
      by_cases operated : error.kind.isA .operational = true
      · rw [if_pos operated]
        exact .operational (operating.mp operated) (mt integral.mpr violated)
      · rw [if_neg operated]
        by_cases found : error.kind.isA .error = true
        · rw [if_pos found]
          exact .general (inside.mp found) (mt integral.mpr violated) (mt operating.mpr operated)
        · rw [if_neg found]
          exact .unchanged (mt inside.mpr found)

/-- An error is wrapped just when it is one of the database. -/
theorem Leaves.wrapped_iff {fault : ExecutionFault} (leaves : Leaves driver query error fault) :
    (∃ words, fault = .refused words query) ↔ error.kind.DerivesFrom .error := by
  -- The two special kinds are derived from the general one, so only an unchanged error is no such.
  cases leaves with
  | integrity derived => exact ⟨fun _ => derived.error, fun _ => ⟨_, rfl⟩⟩
  | operational derived _ => exact ⟨fun _ => derived.error, fun _ => ⟨_, rfl⟩⟩
  | general derived _ _ => exact ⟨fun _ => derived, fun _ => ⟨_, rfl⟩⟩
  | unchanged outside =>
    exact ⟨(fun ⟨_, same⟩ => nomatch same), fun derived => absurd derived outside⟩

end DatabaseError

end SqlTemplate
