import SqlTemplate.Proofs.Registry.Loading

/-! A load of several files succeeds just when each file that is still to be read is a source of
statements with names of their own, and it goes as far as the files before the first that is not. -/

namespace SqlTemplate.Registry

/-- The files that are still to be read, each where it comes first. -/
def pending (recorded : List String) : List Target → List Target
  | [] => []
  | target :: rest =>
    if target.file ∈ recorded then pending recorded rest
    else target :: pending (target.file :: recorded) rest

section Pending

variable {recorded extra others : List String} {targets rest : List Target} {target : Target}

/-- Only which files have been read counts. -/
theorem pending_congr (same : ∀ file, file ∈ recorded ↔ file ∈ others) :
    pending recorded targets = pending others targets := by
  induction targets generalizing recorded others with
  | nil => rfl
  | cons target rest ih =>
    -- The target is passed over in both cases or in neither, and then the same have been read.
    have later : ∀ file, file ∈ target.file :: recorded ↔ file ∈ target.file :: others :=
      fun file => by rw [List.mem_cons, List.mem_cons, same file]
    simp only [pending, same target.file, ih same, ih later]

/-- A file that is still to be read is one of all, and has not been read. -/
theorem mem_of_pending (member : target ∈ pending recorded targets) :
    target ∈ targets ∧ target.file ∉ recorded := by
  induction targets generalizing recorded with
  | nil => contradiction
  | cons first rest ih =>
    rw [pending] at member
    split at member
    · obtain ⟨listed, fresh⟩ := ih member
      exact ⟨List.mem_cons_of_mem _ listed, fresh⟩
    · -- It is the first target, or one that comes later with the first one read.
      rename_i new
      rcases List.mem_cons.mp member with rfl | later
      · exact ⟨List.mem_cons_self .., new⟩
      · obtain ⟨listed, fresh⟩ := ih later
        exact ⟨List.mem_cons_of_mem _ listed, fun read => fresh (List.mem_cons_of_mem _ read)⟩

/-- A file that has not been read is still to be read, be it from another target. -/
theorem exists_pending (listed : target ∈ targets) (fresh : target.file ∉ recorded) :
    ∃ other ∈ pending recorded targets, other.file = target.file := by
  induction targets generalizing recorded with
  | nil => contradiction
  | cons first rest ih =>
    rw [pending]
    rcases List.mem_cons.mp listed with rfl | later
    · exact ⟨target, by simp [fresh], rfl⟩
    · split
      · exact ih later fresh
      · -- The first target may be another one of the same file, and then it is read instead.
        by_cases same : first.file = target.file
        · exact ⟨first, List.mem_cons_self .., same⟩
        · have unread : target.file ∉ first.file :: recorded := by
            rw [List.mem_cons, not_or]
            exact ⟨fun equal => same equal.symm, fresh⟩
          obtain ⟨other, member, equal⟩ := ih later unread
          exact ⟨other, List.mem_cons_of_mem _ member, equal⟩

/-- No file is to be read twice. -/
theorem nodup_pending : ((pending recorded targets).map Target.file).Nodup := by
  induction targets generalizing recorded with
  | nil => exact List.nodup_nil
  | cons first rest ih =>
    rw [pending]
    split
    · exact ih
    · -- Whatever is to be read after the first target has another file.
      refine List.nodup_cons.mpr ⟨?_, ih⟩
      intro member
      obtain ⟨other, later, same⟩ := List.mem_map.mp member
      exact (mem_of_pending later).2 (by simp [same])

/-- The files to be read of the first targets come first. -/
theorem pending_prefix : pending recorded targets <+: pending recorded (targets ++ rest) := by
  induction targets generalizing recorded with
  | nil => exact List.nil_prefix
  | cons first others ih =>
    rw [List.cons_append, pending, pending]
    split
    · exact ih
    · -- The first target is read in both cases.
      exact (List.prefix_cons_inj first).mpr ih

/-- When more files have been read, fewer are to be read. -/
theorem pending_append :
    pending (recorded ++ extra) targets =
      (pending recorded targets).filter fun target => target.file ∉ extra := by
  induction targets generalizing recorded with
  | nil => rfl
  | cons first rest ih =>
    rw [pending, pending]
    by_cases read : first.file ∈ recorded
    · -- The file is passed over in any case.
      rw [if_pos (List.mem_append_left _ read), if_pos read, ih]
    · rw [if_neg read]
      by_cases also : first.file ∈ extra
      · -- The file is only among those that have been read besides.
        rw [if_pos (List.mem_append_right _ also), List.filter_cons_of_neg (by simp [also]), ← ih]
        refine pending_congr fun file => ?_
        rw [List.cons_append, List.mem_cons]
        constructor
        · exact Or.inr
        · rintro (rfl | member)
          · exact List.mem_append_right _ also
          · exact member
      · -- The file is still to be read in both cases.
        rw [if_neg (by simp [read, also]), List.filter_cons_of_pos (by simp [also]), ← ih,
          List.cons_append]

end Pending

/-- What is read from the files that are still to be read. -/
def ahead (registry : Registry) (tree : FileTree) (targets : List Target) : List Batch :=
  (pending registry.recorded targets).filterMap fun target =>
    (registry.opened tree target).toOption

/-- Nothing stands in the way of a load. -/
structure Admits (registry : Registry) (tree : FileTree) (targets : List Target) : Prop where
  /-- Each file that is still to be read is a source of statements. -/
  opens : ∀ target ∈ pending registry.recorded targets,
    ∃ batch, registry.opened tree target = .ok batch
  /-- No two of the statements have the same name. -/
  distinct : ((registry.ahead tree targets).flatMap Batch.names).Nodup
  /-- None of their names has been taken. -/
  new : ∀ name ∈ (registry.ahead tree targets).flatMap Batch.names, name ∉ registry.keys

section Runs

variable {tree : FileTree} {registry : Registry} {target : Target} {targets rest : List Target}
  {batch : Batch}

/-- A file that has been read stands in no load's way. -/
theorem ahead_cons_of_recorded (read : target.file ∈ registry.recorded) :
    registry.ahead tree (target :: rest) = registry.ahead tree rest := by
  -- It is left out of what is still to be read.
  rw [ahead, pending, if_pos read]
  rfl

/-- A file that has not been read is read first. -/
theorem ahead_cons_of_opened (fresh : target.file ∉ registry.recorded)
    (found : registry.opened tree target = .ok batch) :
    registry.ahead tree (target :: rest) =
      batch :: (registry.holding [batch]).ahead tree rest := by
  -- After the file is held, it is the last of those that have been read.
  obtain ⟨-, path, -⟩ := opened_eq_ok_iff.mp found
  have recorded : pending (target.file :: registry.recorded) rest =
      pending (registry.holding [batch]).recorded rest :=
    pending_congr fun file => by simp [path, or_comm]
  rw [ahead, pending, if_neg fresh, List.filterMap_cons_some (b := batch) (by rw [found]; rfl),
    recorded]
  rfl

/-- Nothing stands in the way when there is nothing to load. -/
theorem admits_nil : registry.Admits tree [] :=
  -- No file is pending, so there are no names that could be taken.
  ⟨by simp [pending], by simp [ahead, pending], by simp [ahead, pending]⟩

/-- A load goes on after a file that has been read. -/
theorem admits_cons_of_recorded (read : target.file ∈ registry.recorded) :
    registry.Admits tree (target :: rest) ↔ registry.Admits tree rest := by
  -- The file is neither to be read nor among those that are read ahead.
  have same : pending registry.recorded (target :: rest) = pending registry.recorded rest := by
    rw [pending, if_pos read]
  constructor
  · rintro ⟨opens, distinct, new⟩
    rw [same] at opens
    rw [ahead_cons_of_recorded read] at distinct new
    exact ⟨opens, distinct, new⟩
  · rintro ⟨opens, distinct, new⟩
    rw [← same] at opens
    rw [← ahead_cons_of_recorded read] at distinct new
    exact ⟨opens, distinct, new⟩

/-- A load goes on after a file with new names, as one of the rest with that file held. -/
theorem admits_cons_of_opened (fresh : target.file ∉ registry.recorded)
    (found : registry.opened tree target = .ok batch) :
    registry.Admits tree (target :: rest) ↔
      (batch.names.Nodup ∧ ∀ name ∈ batch.names, name ∉ registry.keys) ∧
        (registry.holding [batch]).Admits tree rest := by
  obtain ⟨-, path, -⟩ := opened_eq_ok_iff.mp found
  -- The file is the first that is read, and the rest is read once it is held.
  have later : pending registry.recorded (target :: rest) =
      target :: pending (registry.holding [batch]).recorded rest := by
    rw [pending, if_neg fresh]
    exact congrArg (target :: ·) (pending_congr fun file => by simp [path, or_comm])
  have names : (registry.ahead tree (target :: rest)).flatMap Batch.names =
      batch.names ++ ((registry.holding [batch]).ahead tree rest).flatMap Batch.names := by
    rw [ahead_cons_of_opened fresh found, List.flatMap_cons]
  have keys : (registry.holding [batch]).keys = registry.keys ++ batch.names := by simp
  constructor
  · -- The names of the rest are new beside those of the file, as all of them differ.
    rintro ⟨opens, distinct, new⟩
    rw [later] at opens
    rw [names] at distinct new
    obtain ⟨own, others, apart⟩ := List.nodup_append.mp distinct
    refine ⟨⟨own, fun name member => new name (List.mem_append_left _ member)⟩,
      fun other member => opens other (List.mem_cons_of_mem _ member), others, ?_⟩
    intro name member taken
    rw [keys] at taken
    rcases List.mem_append.mp taken with before | here
    · exact new name (List.mem_append_right _ member) before
    · exact apart name here name member rfl
  · -- The names of the rest differ from those of the file, as those are there by then.
    rintro ⟨⟨own, free⟩, opens, others, new⟩
    rw [keys] at new
    refine ⟨?_, ?_, ?_⟩
    · rw [later]
      exact List.forall_mem_cons.mpr ⟨⟨batch, found⟩, opens⟩
    · rw [names]
      refine List.nodup_append.mpr ⟨own, others, fun name here other member => ?_⟩
      rintro rfl
      exact new name member (List.mem_append_right _ here)
    · rw [names]
      refine List.forall_mem_append.mpr ⟨free, fun name member taken => ?_⟩
      exact new name member (List.mem_append_left _ taken)

/-- A load goes on after a file that does not fail. -/
theorem loadFiles_cons_of_ok
    (done : (loadFile tree target.1 target.2 registry).2.outcome = .ok ()) :
    (loadFiles tree (target :: rest) registry).1 =
        (loadFiles tree rest (loadFile tree target.1 target.2 registry).1).1 ∧
      (loadFiles tree (target :: rest) registry).2.outcome =
        (loadFiles tree rest (loadFile tree target.1 target.2 registry).1).2.outcome := by
  rw [loadFiles]
  simp only [done, and_self]

/-- A load stops at a file that fails. -/
theorem loadFiles_cons_of_error {fault : LoadFault}
    (failed : (loadFile tree target.1 target.2 registry).2.outcome = .error fault) :
    (loadFiles tree (target :: rest) registry).1 =
        (loadFile tree target.1 target.2 registry).1 ∧
      (loadFiles tree (target :: rest) registry).2.outcome = .error fault := by
  rw [loadFiles]
  simp only [failed, and_self]

/-- A load in whose way nothing stands succeeds, and then all that it reads is held. -/
theorem loadFiles_of_admits (admits : registry.Admits tree targets) :
    (loadFiles tree targets registry).1 = registry.holding (registry.ahead tree targets) ∧
      (loadFiles tree targets registry).2.outcome = .ok () := by
  induction targets generalizing registry with
  | nil => exact ⟨by simp [loadFiles, ahead, pending], rfl⟩
  | cons target rest ih =>
    have step := fileLoad tree target registry
    generalize result : (loadFile tree target.1 target.2 registry).1 = next at step
    generalize outcome : (loadFile tree target.1 target.2 registry).2.outcome = done at step
    cases step with
    | passed read =>
      obtain ⟨same, also⟩ := @loadFiles_cons_of_ok tree registry target rest outcome
      rw [same, also, result, ahead_cons_of_recorded read]
      exact ih ((admits_cons_of_recorded read).mp admits)
    | unopened fresh refused =>
      -- A file in nobody's way is opened.
      obtain ⟨batch, found⟩ := admits.opens target (by simp [pending, fresh])
      rw [refused] at found
      contradiction
    | registered fresh found distinct new =>
      -- The rest is loaded with the file held, and what is held then comes after it.
      obtain ⟨same, also⟩ := @loadFiles_cons_of_ok tree registry target rest outcome
      obtain ⟨-, later⟩ := (admits_cons_of_opened fresh found).mp admits
      obtain ⟨held, done⟩ := ih later
      rw [same, also, result, ahead_cons_of_opened fresh found, held, done, holding_append]
      exact ⟨rfl, rfl⟩
    | taken fresh found clash =>
      exact absurd ((admits_cons_of_opened fresh found).mp admits).1 clash

/-- Nothing stands in the way of a load that succeeds. -/
theorem admits_of_loadFiles (done : (loadFiles tree targets registry).2.outcome = .ok ()) :
    registry.Admits tree targets := by
  -- The files are gone through as the load goes through them, and none of them may stop it.
  induction targets generalizing registry with
  | nil => exact admits_nil
  | cons target rest ih =>
    have step := fileLoad tree target registry
    generalize result : (loadFile tree target.1 target.2 registry).1 = next at step
    generalize outcome : (loadFile tree target.1 target.2 registry).2.outcome = ended at step
    cases step with
    -- => A file that was read before stands in no way.
    | passed read =>
      rw [(@loadFiles_cons_of_ok tree registry target rest outcome).2, result] at done
      exact (admits_cons_of_recorded read).mpr (ih done)
    | unopened fresh refused =>
      rw [(@loadFiles_cons_of_error tree registry target rest _ outcome).2] at done
      contradiction
    -- => Its names were new, and the rest is admitted with the file held.
    | registered fresh found distinct new =>
      rw [(@loadFiles_cons_of_ok tree registry target rest outcome).2, result] at done
      exact (admits_cons_of_opened fresh found).mpr ⟨⟨distinct, new⟩, ih done⟩
    | taken fresh found clash =>
      rw [(@loadFiles_cons_of_error tree registry target rest _ outcome).2] at done
      contradiction

/-- A load that fails has gone on to the first file that fails. -/
theorem loadFiles_eq_error {fault : LoadFault}
    (failed : (loadFiles tree targets registry).2.outcome = .error fault) :
    ∃ front target rest, targets = front ++ target :: rest ∧ registry.Admits tree front ∧
      FileLoad tree target (registry.holding (registry.ahead tree front))
        (loadFiles tree targets registry).1 (.error fault) := by
  induction targets generalizing registry with
  | nil => contradiction
  | cons target rest ih =>
    have step := fileLoad tree target registry
    generalize result : (loadFile tree target.1 target.2 registry).1 = next at step
    cases outcome : (loadFile tree target.1 target.2 registry).2.outcome with
    | error reason =>
      -- The first file fails, so there is none before it.
      rw [outcome] at step
      obtain ⟨same, also⟩ := @loadFiles_cons_of_error tree registry target rest _ outcome
      rw [also] at failed
      obtain rfl := Except.error.inj failed
      refine ⟨[], target, rest, rfl, admits_nil, ?_⟩
      rw [same, result]
      simpa [ahead, pending] using step
    | ok done =>
      -- The first file does not fail, so it is among those before the one that does.
      rw [outcome] at step
      obtain ⟨same, also⟩ := @loadFiles_cons_of_ok tree registry target rest outcome
      rw [also, result] at failed
      obtain ⟨front, last, others, rfl, admits, load⟩ := ih failed
      refine ⟨target :: front, last, others, rfl, ?_, ?_⟩
      · cases step with
        | passed read => exact (admits_cons_of_recorded read).mpr admits
        | registered fresh found distinct new =>
          exact (admits_cons_of_opened fresh found).mpr ⟨⟨distinct, new⟩, admits⟩
      · -- What is held before the failing file is the first file, if it was read, and what follows.
        rw [same, result]
        cases step with
        | passed read => rwa [ahead_cons_of_recorded read]
        | registered fresh found distinct new =>
          rwa [ahead_cons_of_opened fresh found, ← List.singleton_append, ← holding_append]

end Runs

/-- The files that some spellings lead to, up to the first spelling that leads to none, and why that
one does not. -/
def reached (tree : FileTree) : List String → List Target × Except LoadFault Unit
  | [] => ([], .ok ())
  | spelling :: rest =>
    match targets tree spelling with
    | .error fault => ([], .error fault)
    | .ok found => (found ++ (reached tree rest).1, (reached tree rest).2)

section Loads

variable {tree : FileTree} {registry : Registry} {spellings : List String}
  {front rest : List Target}

/-- A load goes on after files that do not fail. -/
theorem loadFiles_append_of_ok (done : (loadFiles tree front registry).2.outcome = .ok ()) :
    (loadFiles tree (front ++ rest) registry).1 =
        (loadFiles tree rest (loadFiles tree front registry).1).1 ∧
      (loadFiles tree (front ++ rest) registry).2.outcome =
        (loadFiles tree rest (loadFiles tree front registry).1).2.outcome := by
  -- No file in front stops the load, so it reaches the others with all of these loaded.
  induction front generalizing registry with
  | nil => exact ⟨rfl, rfl⟩
  | cons target others ih =>
    cases outcome : (loadFile tree target.1 target.2 registry).2.outcome with
    | error fault =>
      rw [(loadFiles_cons_of_error outcome).2] at done
      contradiction
    | ok first =>
      obtain ⟨same, also⟩ := @loadFiles_cons_of_ok tree registry target others outcome
      obtain ⟨whole, ended⟩ := @loadFiles_cons_of_ok tree registry target (others ++ rest) outcome
      rw [also] at done
      rw [List.cons_append, whole, ended, same]
      exact ih done

/-- A load stops at files of which one fails. -/
theorem loadFiles_append_of_error {fault : LoadFault}
    (failed : (loadFiles tree front registry).2.outcome = .error fault) :
    (loadFiles tree (front ++ rest) registry).1 = (loadFiles tree front registry).1 ∧
      (loadFiles tree (front ++ rest) registry).2.outcome = .error fault := by
  -- The first file that fails stops the load, whatever comes after it.
  induction front generalizing registry with
  | nil => contradiction
  | cons target others ih =>
    cases outcome : (loadFile tree target.1 target.2 registry).2.outcome with
    | error reason =>
      obtain ⟨same, also⟩ := @loadFiles_cons_of_error tree registry target others _ outcome
      obtain ⟨whole, ended⟩ :=
        @loadFiles_cons_of_error tree registry target (others ++ rest) _ outcome
      rw [also] at failed
      rw [List.cons_append, whole, ended, same, failed]
      exact ⟨rfl, rfl⟩
    | ok first =>
      obtain ⟨same, also⟩ := @loadFiles_cons_of_ok tree registry target others outcome
      obtain ⟨whole, ended⟩ := @loadFiles_cons_of_ok tree registry target (others ++ rest) outcome
      rw [also] at failed
      rw [List.cons_append, whole, ended, same]
      exact ih failed

/-- A load is one of the files that its spellings lead to, and fails with the first spelling that
leads to none when those files do not fail. -/
theorem load_eq (tree : FileTree) (spellings : List String) (registry : Registry) :
    (registry.load tree spellings).1 = (loadFiles tree (reached tree spellings).1 registry).1 ∧
      (registry.load tree spellings).2.outcome =
        (loadFiles tree (reached tree spellings).1 registry).2.outcome >>= fun () =>
          (reached tree spellings).2 := by
  -- Spelling by spelling, the files found are loaded before those of the others.
  have paths : (loadPaths tree spellings registry).1 =
        (loadFiles tree (reached tree spellings).1 registry).1 ∧
      ((loadPaths tree spellings registry).2.outcome >>= fun _ => .ok ()) =
        (loadFiles tree (reached tree spellings).1 registry).2.outcome >>= fun () =>
          (reached tree spellings).2 := by
    induction spellings generalizing registry with
    | nil => exact ⟨rfl, rfl⟩
    | cons spelling rest ih =>
      rw [loadPaths, reached]
      -- A spelling that leads nowhere ends the load at once.
      cases led : targets tree spelling with
      | error fault => exact ⟨rfl, rfl⟩
      | ok found =>
        cases outcome : (loadFiles tree found registry).2.outcome with
        | error fault =>
          obtain ⟨same, failed⟩ :=
            @loadFiles_append_of_error tree registry found (reached tree rest).1 fault outcome
          simp only [outcome, same, failed, true_and]
          rfl
        | ok done =>
          obtain ⟨same, also⟩ :=
            @loadFiles_append_of_ok tree registry found (reached tree rest).1 outcome
          obtain ⟨others, ended⟩ := ih (loadFiles tree found registry).1
          simp only [outcome, same, also, others, ← ended]
          refine ⟨trivial, ?_⟩
          cases (loadPaths tree rest (loadFiles tree found registry).1).2.outcome <;> rfl
  -- The load itself only notes how it went.
  rw [load]
  cases outcome : (loadPaths tree spellings registry).2.outcome with
  | error fault =>
    rw [outcome] at paths
    simp only [outcome]
    exact paths
  | ok count =>
    rw [outcome] at paths
    simp only [outcome]
    exact paths

/-- A load succeeds when all its spellings lead to files, in whose way nothing stands. -/
theorem load_eq_ok_iff :
    (registry.load tree spellings).2.outcome = .ok () ↔
      registry.Admits tree (reached tree spellings).1 ∧ (reached tree spellings).2 = .ok () := by
  -- The files are loaded before it matters that a spelling leads to none.
  rw [(load_eq tree spellings registry).2]
  constructor
  · intro done
    cases outcome : (loadFiles tree (reached tree spellings).1 registry).2.outcome with
    | error fault =>
      rw [outcome] at done
      contradiction
    | ok first =>
      rw [outcome] at done
      exact ⟨admits_of_loadFiles outcome, done⟩
  · rintro ⟨admits, done⟩
    rw [(loadFiles_of_admits admits).2]
    exact done

/-- A load holds the one file that its spellings lead to, if that is new and so are its names, and
fails only with a spelling that leads to none. -/
theorem load_of_opened {target : Target} {batch : Batch} {ended : Except LoadFault Unit}
    (led : reached tree spellings = ([target], ended)) (fresh : target.file ∉ registry.recorded)
    (found : registry.opened tree target = .ok batch) (distinct : batch.names.Nodup)
    (new : ∀ name ∈ batch.names, name ∉ registry.keys) :
    (registry.load tree spellings).1 = registry.holding [batch] ∧
      (registry.load tree spellings).2.outcome = ended := by
  -- The one file is admitted, and there is nothing after it.
  have admits := (admits_cons_of_opened fresh found).mpr ⟨⟨distinct, new⟩, admits_nil⟩
  obtain ⟨held, done⟩ := loadFiles_of_admits admits
  rw [(load_eq tree spellings registry).1, (load_eq tree spellings registry).2, led, held, done,
    ahead_cons_of_opened fresh found]
  exact ⟨rfl, rfl⟩

end Loads

end SqlTemplate.Registry
