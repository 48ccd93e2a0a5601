import SqlTemplate.Proofs.Registry.Scopes

/-! A load that a taken name stops leaves the file of that name cut short: the file counts as
recorded with its statements up to the name, and since later loads pass over it, none of them ever
registers the rest. -/

namespace SqlTemplate

namespace Statement

section Names

variable {file name origin : String} {known : List Statement} {line : Nat}

/-- The sections of a source are not refused for names that other sources have. -/
theorem ofSections_ne_nameTaken (sections : List Section) :
    (ofSections file known line sections).outcome ≠ .error (.nameTaken name origin) := by
  -- A section can only be refused for a name that is no identifier, or that an earlier one has.
  induction sections generalizing known line with
  | nil => exact nofun
  | cons part rest ih =>
    rw [outcome_ofSections_cons]
    split
    · exact ih
    · intro failed
      rcases bind_eq_error_iff.mp failed with refused | ⟨statement, -, later⟩
      · rw [ofSection] at refused
        split at refused
        · cases refused
        · split at refused <;> cases refused
      · exact ih later

/-- A source is not refused for names that other sources have. -/
theorem parseFile_ne_nameTaken {path : String} (source : Text) :
    (parseFile file source).outcome ≠ .error (.unusable path (.nameTaken name origin)) := by
  intro failed
  have parsed : (parse file source).outcome = .error (.nameTaken name origin) := by
    rw [parseFile, Journal.mapFault] at failed
    cases outcome : (parse file source).outcome <;> rw [outcome] at failed <;> cases failed
    rfl
  -- The outline is looked at before the sections, and it has no names to refuse.
  rw [outcome_parse] at parsed
  dsimp only at parsed
  split at parsed
  · cases parsed
  · split at parsed
    · cases parsed
    · rcases bind_eq_error_iff.mp parsed with refused | ⟨statements, -, empty⟩
      · exact ofSections_ne_nameTaken _ refused
      · split at empty <;> cases empty

end Names

end Statement

/-- A file with only some of its statements. -/
def Batch.cutTo (batch : Batch) (front : List Statement) : Batch :=
  { batch with statements := front }

namespace Registry

section Stopping

variable {tree : FileTree} {registry : Registry} {spellings : List String}
  {file name origin : String}

/-- What is registered of statements of which one has a taken name are those before that one. -/
theorem registerAll_of_error {scope : List String} {statements : List Statement}
    (failed : (registerAll scope file statements registry).2 = .error (.nameTaken name origin)) :
    ∃ front statement rest, statements = front ++ statement :: rest ∧
      scopedName scope statement.name = name ∧
      (registerAll scope file front registry).2 = .ok () ∧
      (registerAll scope file statements registry).1 =
        (registerAll scope file front registry).1 ∧
      name ∈ (registerAll scope file front registry).1.keys := by
  induction statements generalizing registry with
  | nil => contradiction
  | cons statement others ih =>
    rw [registerAll] at failed ⊢
    cases taken : registry.has (scopedName scope statement.name) with
    | true =>
      -- Nothing is registered before the first statement.
      rw [taken] at failed
      cases failed
      exact ⟨[], statement, others, rfl, rfl, rfl, rfl, has_eq_true_iff.mp taken⟩
    | false =>
      rw [taken] at failed
      obtain ⟨front, stopping, rest, rfl, named, done, same, found⟩ := ih failed
      -- The first statement is registered in any case, and it comes before the others.
      have first : registerAll scope file (statement :: front) registry =
          registerAll scope file front
            (registry.register (scopedName scope statement.name) statement file) := by
        rw [registerAll, taken, if_neg Bool.false_ne_true]
      rw [if_neg Bool.false_ne_true]
      exact ⟨statement :: front, stopping, rest, rfl, named, by rw [first, done],
        by rw [first, same], by rw [first]; exact found⟩

/-- No spelling is refused for a name that has been taken. -/
theorem reached_ne_unusable {cause : SourceFault} :
    (reached tree spellings).2 ≠ .error (.unusable file cause) := by
  induction spellings with
  | nil => exact nofun
  | cons spelling rest ih =>
    rw [reached]
    cases led : targets tree spelling with
    | ok found => exact ih
    | error fault =>
      -- A spelling leads to nothing only if there is nothing, or can be nothing, at its path.
      rintro ⟨rfl⟩
      rw [targets] at led
      split at led
      · split at led <;> cases led
      · cases led
      · cases led

/-- No file is refused for a name that has been taken before its statements are registered. -/
theorem opened_ne_nameTaken {target : Target} :
    registry.opened tree target ≠ .error (.unusable file (.nameTaken name origin)) := by
  intro refused
  rcases bind_eq_error_iff.mp refused with unread | ⟨content, -, unparsed⟩
  · -- Bytes and texts that cannot be read are refused for other causes.
    rw [read] at unread
    split at unread
    · cases unread
    · cases unread
    · split at unread <;> cases unread
  · rcases bind_eq_error_iff.mp unparsed with failed | ⟨statements, -, never⟩
    · exact Statement.parseFile_ne_nameTaken content failed
    · cases never

/-- A load that a taken name stops holds the files that it has come to before, and of the file of
the name those statements that come before it. -/
theorem load_of_nameTaken
    (failed : (registry.load tree spellings).2.outcome =
      .error (.unusable file (.nameTaken name origin))) :
    ∃ targets target batch front statement rest,
      targets ++ [target] <+: (reached tree spellings).1 ∧ registry.Admits tree targets ∧
      Target.file target = file ∧
      file ∉ (registry.holding (registry.ahead tree targets)).recorded ∧
      registry.opened tree target = .ok batch ∧
      batch.statements = front ++ statement :: rest ∧ batch.name statement = name ∧
      name ∈ (registry.load tree spellings).1.keys ∧
      (registry.load tree spellings).1 =
        registry.holding (registry.ahead tree targets ++ [batch.cutTo front]) := by
  obtain ⟨same, ended⟩ := load_eq tree spellings registry
  rw [same]
  rw [ended] at failed
  -- The spellings are not to blame, so one of the files has failed.
  rcases bind_eq_error_iff.mp failed with stopped | ⟨-, -, misled⟩
  · obtain ⟨front, target, rest, whole, admits, step⟩ := loadFiles_eq_error stopped
    generalize (loadFiles tree (reached tree spellings).1 registry).1 = left at step
    cases step with
    | unopened fresh refused => exact absurd refused opened_ne_nameTaken
    | @taken batch _ _ fresh found _ clash =>
      -- The statements before the clash are registered as those of a shorter file.
      obtain ⟨first, statement, others, split, named, done, cut, taken⟩ :=
        registerAll_of_error clash
      obtain ⟨distinct, new⟩ := (@registerAll_record_eq_ok_iff _ (batch.cutTo first)).mp done
      have held := registerAll_record distinct new
      rw [cut]
      refine ⟨front, target, batch, first, statement, others, ⟨rest, by rw [whole]; simp⟩, admits,
        rfl, fresh, found, split, named, taken, held.trans (holding_append ..)⟩
  · exact absurd misled reached_ne_unusable

end Stopping

section Missing

variable {registry : Registry} {file : String}

/-- A call that forgets nothing gives no further names to a recorded file. -/
theorem origin?_perform {call : Call} (recorded : file ∈ registry.recorded)
    (proper : file ≠ addedDirectly) (remembers : call ≠ .clear) (name : String) :
    (registry.perform call).origin? name = some file ↔ registry.origin? name = some file := by
  cases call with
  | clear => contradiction
  | load tree spellings => exact origin?_load tree spellings recorded name
  | add other sql =>
    by_cases new : other ∉ registry.keys
    · -- A template that is added comes from no file.
      refine ⟨fun found => ?_, (extends_perform remembers).retains.origin name file⟩
      rw [perform_add_of_new new] at found
      exact origin?_of_register proper.symm found
    · rw [perform_add_of_taken (not_not.mp new)]

/-- Calls that forget nothing give no further names to a recorded file. -/
theorem origin?_performAll {calls : List Call} (recorded : file ∈ registry.recorded)
    (proper : file ≠ addedDirectly) (remember : ∀ call ∈ calls, call ≠ .clear) (name : String) :
    (registry.performAll calls).origin? name = some file ↔ registry.origin? name = some file := by
  induction calls generalizing registry with
  | nil => rfl
  | cons call rest ih =>
    obtain ⟨first, others⟩ := List.forall_mem_cons.mp remember
    -- The file is still recorded when the other calls are made.
    have still : file ∈ (registry.perform call).recorded :=
      ((extends_perform first).files.map Prod.fst).subset recorded
    exact (ih still others).trans (origin?_perform recorded proper first name)

end Missing

/-- The names that come from a file that was not recorded, once other files and it are held, are its
own. -/
theorem origin?_holding_concat {registry : Registry} {batches : List Batch} {batch : Batch}
    (consistent : registry.Consistent) (proper : batch.file.path ≠ addedDirectly)
    (fresh : batch.file.path ∉ (registry.holding batches).recorded) {name : String}
    (found : (registry.holding (batches ++ [batch])).origin? name = some batch.file.path) :
    name ∈ batch.names := by
  rw [recorded_holding, List.mem_append, not_or] at fresh
  obtain ⟨unread, apart⟩ := fresh
  rw [origin?, holding, List.lookup_append, Option.or_eq_some_iff] at found
  rcases found with earlier | ⟨-, added⟩
  · -- Every file that a name came from before was recorded.
    rcases consistent.origins name _ earlier with marked | ⟨file, recorded, -⟩
    · exact absurd marked proper
    · exact absurd (List.mem_map_of_mem (mem_of_lookup recorded)) unread
  · -- None of the other files has the same path.
    obtain ⟨other, member, listed⟩ := List.mem_flatMap.mp (mem_of_lookup added)
    obtain ⟨statement, among, same⟩ := List.mem_map.mp listed
    obtain ⟨rfl, path⟩ := Prod.mk.inj same
    rcases List.mem_append.mp member with front | last
    · exact absurd (List.mem_map.mpr ⟨other, front, path⟩) apart
    · obtain rfl := List.mem_singleton.mp last
      exact List.mem_map_of_mem among

/-- When a taken name stops a load, the file of that name is recorded for the first time, with its
statements up to the name. Until everything is forgotten, whatever calls follow, be they loads of
the same file with another text, those statements are all that ever comes from the file. -/
theorem nameTaken_cuts_file (encoding : Encoding) (calls : List Call) (tree : FileTree)
    (spellings : List String) (file name origin : String)
    (failed : (((empty encoding).performAll calls).load tree spellings).2.outcome =
      .error (.unusable file (.nameTaken name origin))) :
    let before := (empty encoding).performAll calls
    let after := (before.load tree spellings).1
    file ∉ before.recorded ∧ ∃ target ∈ (reached tree spellings).1, ∃ batch front statement rest,
      target.file = file ∧ before.opened tree target = .ok batch ∧
      batch.statements = front ++ statement :: rest ∧ batch.name statement = name ∧
      name ∈ after.keys ∧ ∀ later : List Call, (∀ call ∈ later, call ≠ .clear) →
        (after.performAll later).Holds (batch.cutTo front) ∧
        (file ≠ addedDirectly → ∀ other, (after.performAll later).origin? other = some file ↔
          other ∈ (batch.cutTo front).names) := by
  intro before after
  obtain ⟨targets, target, batch, front, statement, rest, among, admits, same, fresh, opens, whole,
    named, taken, left⟩ := load_of_nameTaken failed
  obtain ⟨-, path, -⟩ := opened_eq_ok_iff.mp opens
  obtain rfl : batch.file.path = file := path.trans same
  have held : after = before.holding (before.ahead tree targets ++ [batch.cutTo front]) := left
  -- What has been registered up to the clash is as sound as any other registry.
  have sound : after.Sound := by
    have calls := sound_performAll encoding (calls ++ [.load tree spellings])
    rwa [performAll_append] at calls
  -- The cut file is the last one that the load holds, and what is held is found.
  have holds : after.Holds (batch.cutTo front) := by
    rw [held] at sound ⊢
    exact holds_holding sound (List.mem_append_right _ (List.mem_singleton_self _))
  have recorded : batch.file.path ∈ after.recorded :=
    List.mem_map_of_mem (f := Prod.fst) (mem_of_lookup holds.file)
  refine ⟨fun earlier => fresh ?_, target, among.subset (by simp), batch, front, statement, rest,
    same, opens, whole, named, taken, fun later remember => ?_⟩
  · rw [recorded_holding]
    exact List.mem_append_left _ earlier
  · have kept := holds.of_extends (extends_performAll remember)
    refine ⟨kept, fun proper other => ?_⟩
    rw [origin?_performAll recorded proper remember, held]
    constructor
    · exact @origin?_holding_concat before _ (batch.cutTo front)
        (traceable_performAll encoding calls).consistent proper fresh other
    · intro own
      obtain ⟨first, listed, rfl⟩ := List.mem_map.mp own
      rw [← held]
      exact holds.origins first listed

/-- A name that was added directly stops the load of a file that has it too. -/
example : (((empty .utf8).performAll [.add "a" ['Z']]).load oneSource ["a.sql"]).2.outcome =
    .error (.unusable "a.sql" (.nameTaken "a" addedDirectly)) := by
  with_unfolding_all rfl

end Registry

end SqlTemplate
