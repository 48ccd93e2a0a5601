import Mathlib.Data.List.Nodup
import SqlTemplate.Proofs.Registry.Progress

/-! Whatever calls are made on a registry, it keeps what recording a file and registering a new name
keep. -/

namespace SqlTemplate

namespace Registry

/-- Where a statement that is registered under a name comes from. -/
inductive Sourced (registry : Registry) : String → Statement → String → Prop
  /-- A statement that is added directly has a trimmed template. -/
  | added (name : String) (sql : Text) :
    Sourced registry name ⟨name, 0, sql.trim⟩ addedDirectly
  /-- A statement of a file is one of those that its recorded text holds. -/
  | read {file : SourceFile} {statements : List Statement} {statement : Statement}
    (scope : List String) (recorded : registry.file? file.path = some file)
    (parsed : (Statement.parseFile file.path file.content).outcome = .ok statements)
    (listed : statement ∈ statements) :
    Sourced registry (scopedName scope statement.name) statement file.path

/-- A file is found once it is recorded, if its path is new. -/
theorem file?_record {registry : Registry} {file : SourceFile}
    (fresh : file.path ∉ registry.recorded) :
    (registry.record file).file? file.path = some file := by
  -- The file comes after those that were there, and none of them has its path.
  have absent : registry.files.lookup file.path = none := lookup_eq_none_iff.mpr fresh
  simp [file?, record, List.lookup_append, absent]

section Preservation

variable {tree : FileTree} {registry : Registry} {spellings : List String}
  {keeps : Registry → Prop}

/-- What registering one of some statements under a new name keeps, registering them keeps. -/
theorem registerAll_preserves {scope : List String} {file : String} {statements : List Statement}
    (registers : ∀ between, ∀ statement ∈ statements,
      scopedName scope statement.name ∉ between.keys → keeps between →
      keeps (between.register (scopedName scope statement.name) statement file))
    (start : keeps registry) : keeps (registerAll scope file statements registry).1 := by
  induction statements generalizing registry with
  | nil => exact start
  | cons statement others ih =>
    rw [registerAll]
    cases taken : registry.has (scopedName scope statement.name) with
    | true => exact start
    | false =>
      -- The first statement is registered, and the others are after it.
      refine ih (fun between other later =>
        registers between other (List.mem_cons_of_mem _ later)) ?_
      exact registers registry statement (List.mem_cons_self ..) (has_eq_false_iff.mp taken) start

/-- What recording a file keeps, and registering one of its statements in its scope, loading the
file keeps. -/
theorem loadFile_preserves {target : Target}
    (records : ∀ between file, file.path ∉ between.recorded → keeps between →
      keeps (between.record file))
    (registers : ∀ between statement, Statement.isIdentifier statement.name.toList = true →
      between.Sourced (scopedName target.1 statement.name) statement target.file →
      scopedName target.1 statement.name ∉ between.keys → keeps between →
      keeps (between.register (scopedName target.1 statement.name) statement target.file))
    (start : keeps registry) : keeps (loadFile tree target.1 target.2 registry).1 := by
  -- A file that is opened is recorded first, and all its statements have identifiers for names.
  have opens : ∀ {batch}, target.file ∉ registry.recorded →
      registry.opened tree target = .ok batch →
      keeps (registerAll batch.scope batch.file.path batch.statements
        (registry.record batch.file)).1 := by
    intro batch fresh found
    obtain ⟨scope, path, -, parsed⟩ := opened_eq_ok_iff.mp found
    have canonical := Statement.canonical_of_parse
      (Statement.outcome_parseFile_eq_ok_iff.mp parsed)
    have unread : batch.file.path ∉ registry.recorded := by rwa [path]
    have recorded := records registry batch.file unread start
    rw [← path] at parsed
    rw [scope]
    -- While the statements are registered, the file stays the one that they are from.
    refine (@registerAll_preserves _ (fun between =>
      between.file? batch.file.path = some batch.file ∧ keeps between) _ _ _
      (fun between statement listed new kept => ⟨kept.1, ?_⟩) ⟨file?_record unread, recorded⟩).2
    have identifier := (canonical.each _ (List.mem_map_of_mem listed)).identifier
    have sourced := Sourced.read target.1 kept.1 parsed listed
    rw [path] at sourced ⊢
    exact registers between statement identifier sourced new kept.2
  have step := fileLoad tree target registry
  generalize (loadFile tree target.1 target.2 registry).1 = next at step
  generalize (loadFile tree target.1 target.2 registry).2.outcome = outcome at step
  cases step with
  | passed | unopened => exact start
  | registered fresh found distinct new =>
    rw [← registerAll_record distinct new]
    exact opens fresh found
  | taken fresh found clash => exact opens fresh found

/-- What loading each of the files that the spellings lead to keeps, a load keeps. -/
theorem load_preserves_of_loadFile
    (loads : ∀ between target, target ∈ (reached tree spellings).1 → keeps between →
      keeps (loadFile tree target.1 target.2 between).1)
    (start : keeps registry) : keeps (registry.load tree spellings).1 := by
  rw [(load_eq tree spellings registry).1]
  -- The files are loaded one after the other, up to one that fails.
  generalize (reached tree spellings).1 = targets at loads
  induction targets generalizing registry with
  | nil => exact start
  | cons target rest ih =>
    have kept : keeps (loadFile tree target.1 target.2 registry).1 :=
      loads registry target (List.mem_cons_self ..) start
    cases outcome : (loadFile tree target.1 target.2 registry).2.outcome with
    | error fault =>
      rw [(loadFiles_cons_of_error outcome).1]
      exact kept
    | ok done =>
      rw [(loadFiles_cons_of_ok outcome).1]
      exact ih kept fun between other later => loads between other (List.mem_cons_of_mem _ later)

/-- What recording a file keeps, and registering a statement of a file that the spellings lead to in
its scope, a load keeps. -/
theorem load_preserves
    (records : ∀ between file, file.path ∉ between.recorded → keeps between →
      keeps (between.record file))
    (registers : ∀ between target statement, target ∈ (reached tree spellings).1 →
      Statement.isIdentifier statement.name.toList = true →
      between.Sourced (scopedName target.1 statement.name) statement (Target.file target) →
      scopedName target.1 statement.name ∉ between.keys → keeps between →
      keeps (between.register (scopedName target.1 statement.name) statement (Target.file target)))
    (start : keeps registry) : keeps (registry.load tree spellings).1 :=
  -- Each file is recorded at most, and its statements are registered in the scope of its target.
  load_preserves_of_loadFile (fun _ target listed kept =>
    loadFile_preserves records (fun between statement => registers between target statement listed)
      kept) start

end Preservation

/-- A call that changes a registry. -/
inductive Call where
  /-- Files and directories are loaded. -/
  | load (tree : FileTree) (spellings : List String)
  /-- A template is added under a name. -/
  | add (name : String) (sql : Text)
  /-- Everything is forgotten. -/
  | clear

/-- The registry after a call, which may have failed. -/
def perform (registry : Registry) : Call → Registry
  | .load tree spellings => (registry.load tree spellings).1
  | .add name sql =>
    match registry.add name sql with
    | .ok grown => grown
    | .error _ => registry
  | .clear => registry.clear

/-- The registry after some calls. -/
def performAll (registry : Registry) (calls : List Call) : Registry :=
  calls.foldl perform registry

/-- A template is added under a new name. -/
theorem perform_add_of_new {registry : Registry} {name : String} (new : name ∉ registry.keys)
    (sql : Text) :
    registry.perform (.add name sql) =
      registry.register name ⟨name, 0, sql.trim⟩ addedDirectly := by
  -- A name that is new has no statement, so the addition goes through.
  have free : registry.has name = false := has_eq_false_iff.mpr new
  have added : registry.add name sql =
      .ok (registry.register name ⟨name, 0, sql.trim⟩ addedDirectly) := by
    rw [Registry.add, if_neg (by simp [free])]
  rw [perform, added]

/-- A template that is added under a taken name changes nothing. -/
theorem perform_add_of_taken {registry : Registry} {name : String} (taken : name ∈ registry.keys)
    (sql : Text) : registry.perform (.add name sql) = registry := by
  -- An addition asks for the name before it registers anything.
  rw [perform, Registry.add, if_pos (has_eq_true_iff.mpr taken)]

/-- One more call is performed after the others. -/
theorem performAll_append (registry : Registry) (calls others : List Call) :
    registry.performAll (calls ++ others) = (registry.performAll calls).performAll others :=
  List.foldl_append ..

/-- The names that a call may register. -/
inductive Call.Names : Call → String → Prop
  /-- A load registers identifiers in the scopes of its files. -/
  | load {tree : FileTree} {spellings : List String} {target : Target} {name : String}
    (led : target ∈ (reached tree spellings).1)
    (identifier : Statement.isIdentifier name.toList = true) :
    Names (.load tree spellings) (scopedName target.1 name)
  /-- An addition registers the name it is given. -/
  | add (name : String) (sql : Text) : Names (.add name sql) name

/-- What recording a file keeps, and registering one of a call's names when it is new, and what
holds of a registry without statements, the call keeps. -/
theorem perform_preserves {keeps : Registry → Prop} {call : Call} {registry : Registry}
    (cleared : keeps registry.clear)
    (records : ∀ between file, file.path ∉ between.recorded → keeps between →
      keeps (between.record file))
    (registers : ∀ between name statement origin, call.Names name →
      between.Sourced name statement origin → name ∉ between.keys →
      keeps between → keeps (between.register name statement origin))
    (start : keeps registry) : keeps (registry.perform call) := by
  -- A load registers the names of files, an addition its own name, and forgetting registers none.
  cases call with
  | load tree spellings =>
    exact load_preserves records (fun between target statement led identifier sourced new kept =>
      registers between _ statement _ (.load led identifier) sourced new kept) start
  | add name sql =>
    by_cases new : name ∉ registry.keys
    · rw [perform_add_of_new new]
      exact registers registry name _ _ (.add name sql) (.added name sql) new start
    · rw [perform_add_of_taken (not_not.mp new)]
      exact start
  | clear => exact cleared

/-- What holds of all registries without statements, and what recording a file and registering a new
name keep, holds after all calls. -/
theorem performAll_preserves {keeps : Registry → Prop} (encoding : Encoding) (calls : List Call)
    (start : ∀ encoding, keeps (empty encoding))
    (records : ∀ between file, file.path ∉ between.recorded → keeps between →
      keeps (between.record file))
    (registers : ∀ between name statement origin, (∃ call ∈ calls, call.Names name) →
      between.Sourced name statement origin → name ∉ between.keys → keeps between →
      keeps (between.register name statement origin)) :
    keeps ((empty encoding).performAll calls) := by
  -- The induction goes from the last call to the earlier ones.
  induction calls using List.reverseRecOn with
  | nil => exact start encoding
  | append_singleton calls call ih =>
    rw [performAll_append]
    refine perform_preserves (start _) records
      (fun between name statement origin names sourced new kept =>
        registers between name statement origin ⟨call, by simp, names⟩ sourced new kept) (ih ?_)
    intro between name statement origin named sourced new kept
    obtain ⟨other, listed, names⟩ := named
    exact registers between name statement origin
      ⟨other, List.mem_append_left _ listed, names⟩ sourced new kept

/-- What holds of a registry after any calls. -/
structure Sound (registry : Registry) : Prop where
  /-- No name has two statements. -/
  keys : registry.keys.Nodup
  /-- No file has been loaded twice. -/
  recorded : registry.recorded.Nodup
  /-- Each statement comes from somewhere. -/
  origins : registry.origins.map Prod.fst = registry.keys

/-- A registry is sound after any calls. -/
theorem sound_performAll (encoding : Encoding) (calls : List Call) :
    ((empty encoding).performAll calls).Sound := by
  refine performAll_preserves encoding calls (fun _ => ⟨.nil, .nil, rfl⟩) ?_ ?_
  · -- A file is only recorded when it has not been.
    intro between file fresh sound
    refine ⟨sound.keys, ?_, sound.origins⟩
    have recorded : (between.record file).recorded = between.recorded ++ [file.path] := by
      simp [recorded, record]
    rw [recorded, ← List.concat_eq_append]
    exact List.Nodup.concat fresh sound.recorded
  · -- A name is only registered when it is new, and its origin is registered with it.
    intro between name statement origin _ _ new sound
    refine ⟨?_, sound.recorded, ?_⟩
    · rw [keys_register, ← List.concat_eq_append]
      exact List.Nodup.concat new sound.keys
    · rw [keys_register, register, List.map_append, sound.origins]
      rfl

/-- Every name that is registered after some calls is one that a call may register. -/
theorem names_of_performAll (encoding : Encoding) (calls : List Call) :
    ∀ name ∈ ((empty encoding).performAll calls).keys, ∃ call ∈ calls, call.Names name := by
  -- A recorded file brings no name, and a registered name is one of the call that registers it.
  refine @performAll_preserves
    (fun registry => ∀ name ∈ registry.keys, ∃ call ∈ calls, call.Names name) encoding calls
    (fun _ => by simp [keys, empty]) ?_ ?_
  · intro between file _ named
    exact named
  · intro between name statement origin names _ _ named
    rw [keys_register]
    exact List.forall_mem_append.mpr ⟨named, List.forall_mem_singleton.mpr names⟩

end Registry

end SqlTemplate
