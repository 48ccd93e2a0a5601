import SqlTemplate.Proofs.Lookup
import SqlTemplate.Proofs.Statement.RoundTrip
import SqlTemplate.Registry

/-! A load adds the statements of the files that it leads to and that are still to be read, one file
after the other and up to the first that fails. -/

namespace SqlTemplate

/-- A file that a load leads to, with the scope of its statements. -/
abbrev Target := List String × Path

/-- The path of the file in one spelling. -/
def Target.file (target : Target) : String :=
  target.2.toString

/-- The statements of one file, as they are registered together. -/
structure Batch where
  /-- Their scope. -/
  scope : List String
  /-- Their file. -/
  file : SourceFile
  /-- The statements, in order. -/
  statements : List Statement

namespace Batch

/-- The name that a statement is registered under. -/
def name (batch : Batch) (statement : Statement) : String :=
  Registry.scopedName batch.scope statement.name

/-- The names of all statements. -/
def names (batch : Batch) : List String :=
  batch.statements.map batch.name

end Batch

namespace Registry

/-- The names of all statements, the earliest first. -/
def keys (registry : Registry) : List String :=
  registry.statements.map Prod.fst

/-- The paths of all loaded files, the earliest first. -/
def recorded (registry : Registry) : List String :=
  registry.files.map Prod.fst

/-- A registry with all that some files hold. -/
def holding (registry : Registry) (batches : List Batch) : Registry :=
  { registry with
    statements := registry.statements ++
      batches.flatMap fun batch => batch.statements.map fun statement =>
        (batch.name statement, statement)
    files := registry.files ++ batches.map fun batch => (batch.file.path, batch.file)
    origins := registry.origins ++
      batches.flatMap fun batch => batch.statements.map fun statement =>
        (batch.name statement, batch.file.path) }

/-- What is read from a file. -/
def opened (registry : Registry) (tree : FileTree) (target : Target) : Except LoadFault Batch :=
  registry.read tree target.2 >>= fun content =>
    (Statement.parseFile target.file content).outcome >>= fun statements =>
      .ok ⟨target.1, ⟨content, target.file⟩, statements⟩

/-- A name without a statement is not among the names. -/
theorem has_eq_false_iff {registry : Registry} {name : String} :
    registry.has name = false ↔ name ∉ registry.keys :=
  lookup_isSome_eq_false_iff

/-- A name with a statement is among the names. -/
theorem has_eq_true_iff {registry : Registry} {name : String} :
    registry.has name = true ↔ name ∈ registry.keys := by
  rw [← not_iff_not, Bool.not_eq_true, has_eq_false_iff]

/-- A file that has not been loaded is not among the files. -/
theorem hasFile_eq_false_iff {registry : Registry} {path : String} :
    registry.hasFile path = false ↔ path ∉ registry.recorded :=
  lookup_isSome_eq_false_iff

/-- A file that has been loaded is among the files. -/
theorem hasFile_eq_true_iff {registry : Registry} {path : String} :
    registry.hasFile path = true ↔ path ∈ registry.recorded := by
  rw [← not_iff_not, Bool.not_eq_true, hasFile_eq_false_iff]

section Holding

variable (registry : Registry) (first second : List Batch)

/-- Nothing more is held when there are no files. -/
@[simp] theorem holding_nil : registry.holding [] = registry := by
  simp [holding]

/-- What some files hold is added in two steps as in one. -/
theorem holding_append :
    (registry.holding first).holding second = registry.holding (first ++ second) := by
  simp [holding]

/-- The names of some files come after those that were there. -/
@[simp] theorem keys_holding :
    (registry.holding first).keys = registry.keys ++ first.flatMap Batch.names := by
  -- Each statement is registered under its name.
  rw [keys, holding, List.map_append, List.map_flatMap]
  simp only [List.map_map]
  rfl

/-- The paths of some files come after those that were there. -/
@[simp] theorem recorded_holding :
    (registry.holding first).recorded =
      registry.recorded ++ first.map fun batch => batch.file.path := by
  simp [recorded, holding, Function.comp_def]

end Holding

/-- What is read from a file is its text and the statements of it. -/
theorem opened_eq_ok_iff {registry : Registry} {tree : FileTree} {target : Target} {batch : Batch} :
    registry.opened tree target = .ok batch ↔
      batch.scope = target.1 ∧ batch.file.path = target.file ∧
        registry.read tree target.2 = .ok batch.file.content ∧
        (Statement.parseFile target.file batch.file.content).outcome = .ok batch.statements := by
  obtain ⟨scope, ⟨text, path⟩, statements⟩ := batch
  rw [opened]
  cases content : registry.read tree target.2 with
  | error fault =>
    -- What cannot be read is not opened.
    constructor
    · intro failed
      contradiction
    · rintro ⟨-, -, impossible, -⟩
      contradiction
  | ok found =>
    show ((Statement.parseFile target.file found).outcome >>= fun statements =>
      Except.ok (⟨target.1, ⟨found, target.file⟩, statements⟩ : Batch)) = _ ↔ _
    constructor
    · -- The text that was read is the one whose statements were parsed.
      intro made
      cases parsed : (Statement.parseFile target.file found).outcome with
      | error fault =>
        rw [parsed] at made
        contradiction
      | ok given =>
        rw [parsed] at made
        cases Except.ok.inj made
        exact ⟨rfl, rfl, rfl, parsed⟩
    · rintro ⟨rfl, rfl, same, parsed⟩
      cases Except.ok.inj same
      rw [parsed]
      rfl

/-- The bytes of a source with one statement. -/
def smallestSource : List UInt8 :=
  [45, 45, 110, 97, 109, 101, 58, 97, 10, 88]

/-- What is read from a file with one statement. -/
theorem opened_smallestSource {tree : FileTree} {path : Path} {scope : List String}
    (found : tree.find? path = some (.file smallestSource)) :
    (empty .utf8).opened tree (scope, path) =
      .ok ⟨scope, ⟨"--name:a\nX".toList, path.toString⟩, [⟨"a", 0, ['X']⟩]⟩ := by
  -- The bytes are decoded, the text is cut at its heading, and its body is one statement.
  have content : (empty .utf8).read tree path = .ok "--name:a\nX".toList := by
    rw [read, found]
    with_unfolding_all rfl
  have outline : Outline.ofText "--name:a\nX".toList =
      ⟨[], [⟨⟨"--name:a".toList, ['a']⟩, ['\n', 'X']⟩]⟩ := by with_unfolding_all rfl
  have body : Statement.ofBody ['\n', 'X'] = ['X'] := by with_unfolding_all rfl
  have given : Statement.ofSection [] 0 ⟨⟨"--name:a".toList, ['a']⟩, ['\n', 'X']⟩ ['X'] =
      .ok ⟨"a", 0, ['X']⟩ := by with_unfolding_all rfl
  have parsed : (Statement.parseFile path.toString "--name:a\nX".toList).outcome =
      .ok [⟨"a", 0, ['X']⟩] := by
    rw [Statement.outcome_parseFile_eq_ok_iff, Statement.outcome_parse, outline, if_neg (by simp),
      if_neg (by decide), Statement.outcome_ofSections_cons, body, if_neg (by simp),
      List.count_nil, given]
    rfl
  exact opened_eq_ok_iff.mpr ⟨rfl, rfl, content, parsed⟩

section Registering

variable {scope : List String} {file : String} {statements : List Statement} {registry : Registry}

/-- A name is new after a registration when it was new before and is not the one registered. -/
theorem keys_register (name origin : String) (statement : Statement) :
    (registry.register name statement origin).keys = registry.keys ++ [name] := by
  -- The name comes after those that were there.
  simp [keys, register]

/-- Statements are all registered just when their names are new and differ. -/
theorem registerAll_eq_ok_iff :
    (registerAll scope file statements registry).2 = .ok () ↔
      (statements.map fun statement => scopedName scope statement.name).Nodup ∧
        ∀ statement ∈ statements, scopedName scope statement.name ∉ registry.keys := by
  induction statements generalizing registry with
  | nil => simp [registerAll]
  | cons statement others ih =>
    rw [registerAll]
    cases taken : registry.has (scopedName scope statement.name) with
    | true =>
      -- The first name is taken, so nothing follows.
      have member := has_eq_true_iff.mp taken
      simp [member]
    | false =>
      -- The others must be new after the first has been registered.
      have absent := has_eq_false_iff.mp taken
      rw [if_neg Bool.false_ne_true, ih, keys_register, List.map_cons, List.nodup_cons,
        List.forall_mem_cons]
      simp only [List.mem_append, List.mem_singleton, not_or, List.mem_map, not_exists, not_and]
      constructor
      · rintro ⟨distinct, fresh⟩
        exact ⟨⟨fun other member => (fresh other member).2, distinct⟩, absent,
          fun other member => (fresh other member).1⟩
      · rintro ⟨⟨apart, distinct⟩, -, fresh⟩
        exact ⟨distinct, fun other member => ⟨fresh other member, apart other member⟩⟩

/-- Statements that are all registered come after those that were there. -/
theorem registerAll_of_ok
    (done : (registerAll scope file statements registry).2 = .ok ()) :
    (registerAll scope file statements registry).1 =
      { registry with
        statements := registry.statements ++ statements.map fun statement =>
          (scopedName scope statement.name, statement)
        origins := registry.origins ++ statements.map fun statement =>
          (scopedName scope statement.name, file) } := by
  induction statements generalizing registry with
  | nil => simp [registerAll]
  | cons statement others ih =>
    -- The first statement is at the end of those that were there when the others are added.
    rw [registerAll] at done ⊢
    split at done
    · contradiction
    · rename_i new
      rw [if_neg new, ih done]
      simp [register]

/-- The statements of a file are all registered just when the names are new and differ. -/
theorem registerAll_record_eq_ok_iff {batch : Batch} :
    (registerAll batch.scope batch.file.path batch.statements (registry.record batch.file)).2 =
        .ok () ↔
      batch.names.Nodup ∧ ∀ name ∈ batch.names, name ∉ registry.keys := by
  -- Recording the file leaves the names as they were.
  rw [Batch.names, List.forall_mem_map]
  exact registerAll_eq_ok_iff

/-- A file is held when it is recorded and all its statements are registered. -/
theorem registerAll_record {batch : Batch} (distinct : batch.names.Nodup)
    (new : ∀ name ∈ batch.names, name ∉ registry.keys) :
    (registerAll batch.scope batch.file.path batch.statements (registry.record batch.file)).1 =
      registry.holding [batch] := by
  -- With different and new names nothing stops the registration.
  rw [registerAll_of_ok (registerAll_record_eq_ok_iff.mpr ⟨distinct, new⟩)]
  simp [holding, record, Batch.name]

/-- Statements are not registered only when a name is taken. -/
theorem registerAll_eq_error {fault : SourceFault}
    (failed : (registerAll scope file statements registry).2 = .error fault) :
    ∃ name origin, fault = .nameTaken name origin := by
  induction statements generalizing registry with
  | nil => contradiction
  | cons statement others ih =>
    -- Either the first name is taken, or a later one is.
    rw [registerAll] at failed
    split at failed
    · obtain rfl := Except.error.inj failed
      exact ⟨_, _, rfl⟩
    · exact ih failed

end Registering

/-- What a load does with one file. -/
inductive FileLoad (tree : FileTree) (target : Target) (registry : Registry) :
    Registry → Except LoadFault Unit → Prop
  /-- A file that has been loaded is passed over. -/
  | passed (recorded : target.file ∈ registry.recorded) :
    FileLoad tree target registry registry (.ok ())
  /-- A file that cannot be read, or is no source of statements, changes nothing. -/
  | unopened {fault : LoadFault} (fresh : target.file ∉ registry.recorded)
    (refused : registry.opened tree target = .error fault) :
    FileLoad tree target registry registry (.error fault)
  /-- A file with new names is held. -/
  | registered {batch : Batch} (fresh : target.file ∉ registry.recorded)
    (found : registry.opened tree target = .ok batch) (distinct : batch.names.Nodup)
    (new : ∀ name ∈ batch.names, name ∉ registry.keys) :
    FileLoad tree target registry (registry.holding [batch]) (.ok ())
  /-- A file with a taken name is recorded, and its statements are registered up to that name. -/
  | taken {batch : Batch} {name origin : String} (fresh : target.file ∉ registry.recorded)
    (found : registry.opened tree target = .ok batch)
    (clash : ¬ (batch.names.Nodup ∧ ∀ name ∈ batch.names, name ∉ registry.keys))
    (stopped : (registerAll batch.scope batch.file.path batch.statements
      (registry.record batch.file)).2 = .error (.nameTaken name origin)) :
    FileLoad tree target registry
      (registerAll batch.scope batch.file.path batch.statements (registry.record batch.file)).1
      (.error (.unusable target.file (.nameTaken name origin)))

/-- A load does one of the four things with a file. -/
theorem fileLoad (tree : FileTree) (target : Target) (registry : Registry) :
    FileLoad tree target registry (loadFile tree target.1 target.2 registry).1
      (loadFile tree target.1 target.2 registry).2.outcome := by
  rw [loadFile]
  cases recorded : registry.hasFile target.2.toString with
  | true => exact .passed (hasFile_eq_true_iff.mp recorded)
  | false =>
    -- The file is read, its text is parsed, and the statements are registered.
    have fresh : target.file ∉ registry.recorded := hasFile_eq_false_iff.mp recorded
    rw [if_neg Bool.false_ne_true]
    cases content : registry.read tree target.2 with
    | error fault =>
      have refused : registry.opened tree target = .error fault := by
        rw [opened, content]
        rfl
      exact .unopened fresh refused
    | ok text =>
      have given : registry.opened tree target =
          (Statement.parseFile target.file text).outcome >>= fun statements =>
            .ok ⟨target.1, ⟨text, target.file⟩, statements⟩ := by
        rw [opened, content]
        rfl
      -- A text that is read has to be parsed.
      cases parsed : (Statement.parseFile target.file text).outcome with
      | error fault =>
        rw [parsed] at given
        have unparsed : (Statement.parseFile target.2.toString text).outcome = .error fault :=
          parsed
        simp only [unparsed]
        exact .unopened fresh given
      | ok statements =>
        rw [parsed] at given
        have sound : (Statement.parseFile target.2.toString text).outcome = .ok statements :=
          parsed
        simp only [sound]
        -- What is left to fail is the registration, and only for a name that is taken.
        let batch : Batch := ⟨target.1, ⟨text, target.file⟩, statements⟩
        have found : registry.opened tree target = .ok batch := given
        cases outcome : (registerAll target.1 target.2.toString statements
            (registry.record ⟨text, target.2.toString⟩)).2 with
        | ok done =>
          obtain ⟨distinct, new⟩ := (@registerAll_record_eq_ok_iff registry batch).mp outcome
          have load := FileLoad.registered fresh found distinct new
          rw [← registerAll_record distinct new] at load
          exact load
        | error fault =>
          -- Had the names been free, all statements would have been registered.
          obtain ⟨name, origin, rfl⟩ := registerAll_eq_error outcome
          have stopped : (registerAll batch.scope batch.file.path batch.statements
              (registry.record batch.file)).2 = .error (.nameTaken name origin) := outcome
          refine FileLoad.taken fresh found (fun free => ?_) stopped
          have done := (@registerAll_record_eq_ok_iff registry batch).mpr free
          rw [stopped] at done
          contradiction

end Registry

end SqlTemplate
