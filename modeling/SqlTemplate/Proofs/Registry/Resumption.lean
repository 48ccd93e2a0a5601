import Mathlib.Data.List.Perm.Lattice
import SqlTemplate.Proofs.Registry.Calls

/-! A load that fails keeps what it has read, so that the same load, made once more without the
cause of the failure, reads only the rest and comes to the same end as if nothing had failed. -/

namespace SqlTemplate

/-- A name stopped the load, as it had been taken. -/
def LoadFault.IsNameTaken (fault : LoadFault) : Prop :=
  ∃ path name origin, fault = .unusable path (.nameTaken name origin)

namespace Registry

/-- All that a registry has another one has too, in its place. -/
structure Extends (after before : Registry) : Prop where
  /-- The statements come first. -/
  statements : before.statements <+: after.statements
  /-- So do the files. -/
  files : before.files <+: after.files
  /-- So do the places that the statements are from. -/
  origins : before.origins <+: after.origins

/-- Two registries have the same, in whatever order. -/
structure Rearranges (first second : Registry) : Prop where
  /-- The statements are the same. -/
  statements : first.statements.Perm second.statements
  /-- So are the files. -/
  files : first.files.Perm second.files
  /-- So are the places that the statements are from. -/
  origins : first.origins.Perm second.origins

/-- A file and all its statements are found in a registry. -/
structure Holds (registry : Registry) (batch : Batch) : Prop where
  /-- The file is found by its path. -/
  file : registry.files.lookup batch.file.path = some batch.file
  /-- Each statement is found by its name. -/
  statements : ∀ statement ∈ batch.statements,
    registry.statements.lookup (batch.name statement) = some statement
  /-- Each name leads to the file. -/
  origins : ∀ statement ∈ batch.statements,
    registry.origins.lookup (batch.name statement) = some batch.file.path

/-- The cause of a failed load has been removed from a file tree, and nothing else that matters. -/
structure Repairs (before after : Registry) (tree repaired : FileTree)
    (spellings : List String) : Prop where
  /-- What the failed load has read, a load would read again. -/
  kept : ∀ target ∈ pending before.recorded (reached tree spellings).1,
    target.file ∈ after.recorded →
      target ∈ pending before.recorded (reached repaired spellings).1 ∧
        before.read repaired target.2 = before.read tree target.2
  /-- In place of the failed load, one of the repaired tree would have succeeded. -/
  cleared : (before.load repaired spellings).2.outcome = .ok ()

/-- A load has stopped with a fault after some files: the next one could not be opened, or there was
none and the next spelling led to nothing. -/
def StopsAfter (front : List Target) (after : Registry) (tree : FileTree) (spellings : List String)
    (fault : LoadFault) : Prop :=
  reached tree spellings = (front, .error fault) ∨
    ∃ target rest, (reached tree spellings).1 = front ++ target :: rest ∧
      target.file ∉ after.recorded ∧ after.opened tree target = .error fault

section Extending

variable {registry after before : Registry}

/-- A registry has all that it has. -/
theorem Extends.refl (registry : Registry) : registry.Extends registry :=
  ⟨List.prefix_rfl, List.prefix_rfl, List.prefix_rfl⟩

/-- What is kept first is kept when more is kept later. -/
theorem Extends.trans {last : Registry} (later : last.Extends after)
    (earlier : after.Extends before) : last.Extends before :=
  ⟨earlier.statements.trans later.statements, earlier.files.trans later.files,
    earlier.origins.trans later.origins⟩

/-- Recording a file keeps what was there. -/
theorem extends_record (file : SourceFile) : (registry.record file).Extends registry :=
  -- Only the files become more, and the new one comes last.
  ⟨List.prefix_rfl, List.prefix_append .., List.prefix_rfl⟩

/-- Registering a name keeps what was there. -/
theorem extends_register (name : String) (statement : Statement) (origin : String) :
    (registry.register name statement origin).Extends registry :=
  -- The statement and its origin come last, and the files stay.
  ⟨List.prefix_append .., List.prefix_rfl, List.prefix_append ..⟩

end Extending

section Holding

variable {registry : Registry} {first second : List Batch}

/-- It does not matter in which order files are held. -/
theorem rearranges_holding (same : first.Perm second) :
    (registry.holding first).Rearranges (registry.holding second) :=
  -- What is held of each file moves along with it.
  ⟨(same.flatMap_right _).append_left _, (same.map _).append_left _,
    (same.flatMap_right _).append_left _⟩

/-- Files that are held are found, as no file and no name is there twice. -/
theorem holds_holding (sound : (registry.holding first).Sound) {batch : Batch}
    (member : batch ∈ first) : (registry.holding first).Holds batch := by
  -- The file and its statements are among the entries, and no key is there twice.
  have origins : ((registry.holding first).origins.map Prod.fst).Nodup := by
    rw [sound.origins]
    exact sound.keys
  refine ⟨lookup_of_mem sound.recorded ?_, fun statement listed => lookup_of_mem sound.keys ?_,
    fun statement listed => lookup_of_mem origins ?_⟩
  · exact List.mem_append_right _ (List.mem_map_of_mem member)
  · refine List.mem_append_right _ (List.mem_flatMap.mpr ⟨batch, member, ?_⟩)
    exact List.mem_map_of_mem listed
  · refine List.mem_append_right _ (List.mem_flatMap.mpr ⟨batch, member, ?_⟩)
    exact List.mem_map_of_mem listed

end Holding

section Failure

variable {tree repaired : FileTree} {registry before : Registry} {spellings : List String}
  {front targets : List Target}

/-- A load keeps what was there. -/
theorem extends_load (tree : FileTree) (spellings : List String) (registry : Registry) :
    (registry.load tree spellings).1.Extends registry := by
  -- A load does nothing but record and register, and both add at the end.
  refine @load_preserves tree registry spellings (fun after => after.Extends registry) ?_ ?_
    (.refl registry)
  · intro between file _ kept
    exact (extends_record file).trans kept
  · intro between target statement _ _ _ _ kept
    exact (extends_register ..).trans kept

/-- A load that no taken name has stopped holds just the files that it came to before. -/
theorem load_stops {fault : LoadFault} (other : ¬ fault.IsNameTaken)
    (failed : (registry.load tree spellings).2.outcome = .error fault) :
    ∃ front, StopsAfter front (registry.load tree spellings).1 tree spellings fault ∧
      registry.Admits tree front ∧
      (registry.load tree spellings).1 = registry.holding (registry.ahead tree front) := by
  obtain ⟨same, ended⟩ := load_eq tree spellings registry
  rw [same]
  rw [ended] at failed
  cases outcome : (loadFiles tree (reached tree spellings).1 registry).2.outcome with
  | ok done =>
    -- All files were loaded, and then a spelling led to none.
    rw [outcome] at failed
    have admits := admits_of_loadFiles outcome
    exact ⟨_, Or.inl (Prod.ext rfl failed), admits, (loadFiles_of_admits admits).1⟩
  | error reason =>
    -- One of the files failed, and not for its names.
    rw [outcome] at failed
    obtain rfl : reason = fault := Except.error.inj failed
    obtain ⟨front, target, rest, whole, admits, step⟩ := loadFiles_eq_error outcome
    generalize (loadFiles tree (reached tree spellings).1 registry).1 = left at step
    cases step with
    | unopened fresh refused =>
      exact ⟨front, Or.inr ⟨target, rest, whole, fresh, refused⟩, admits, rfl⟩
    | taken => exact absurd ⟨_, _, _, rfl⟩ other

/-- The files after which a load stops are the first that its spellings lead to. -/
theorem StopsAfter.begins {after : Registry} {fault : LoadFault}
    (stops : StopsAfter front after tree spellings fault) :
    front <+: (reached tree spellings).1 := by
  -- They are all that is reached, or those before the one that stops the load.
  rcases stops with whole | ⟨target, rest, whole, -⟩
  · exact ⟨[], by rw [List.append_nil, whole]⟩
  · exact ⟨_, whole.symm⟩

/-- The files that are held after a load are those that were to be read. -/
theorem paths_ahead (admits : registry.Admits tree targets) :
    (registry.ahead tree targets).map (fun batch => batch.file.path) =
      (pending registry.recorded targets).map Target.file := by
  rw [ahead]
  have opens := admits.opens
  generalize pending registry.recorded targets = left at opens
  induction left with
  | nil => rfl
  | cons target rest ih =>
    -- Each target gives one batch, which has its path.
    obtain ⟨⟨batch, found⟩, others⟩ := List.forall_mem_cons.mp opens
    obtain ⟨-, path, -⟩ := opened_eq_ok_iff.mp found
    rw [List.filterMap_cons_some (b := batch) (by rw [found]; rfl), List.map_cons, List.map_cons,
      path, ih others]

/-- A file that was not recorded is held from the first target that leads to it. -/
theorem exists_ahead (admits : registry.Admits tree targets) {target : Target}
    (among : target ∈ targets) (new : target.file ∉ registry.recorded) :
    ∃ source batch, source ∈ targets ∧ source.file = target.file ∧
      registry.opened tree source = .ok batch ∧ batch ∈ registry.ahead tree targets := by
  -- One of the targets of the file is still to be read, and it can be opened.
  obtain ⟨source, member, same⟩ := exists_pending among new
  obtain ⟨batch, found⟩ := admits.opens source member
  refine ⟨source, batch, (mem_of_pending member).1, same, found, ?_⟩
  exact List.mem_filterMap.mpr ⟨source, member, by rw [found]; rfl⟩

end Failure

section Retry

variable {before after : Registry} {tree repaired : FileTree} {spellings : List String}
  {front targets : List Target}

/-- A list without repeated values has those of a part of it first, in some order. -/
theorem perm_append_filter {part whole : List Target} (distinct : (whole.map Target.file).Nodup)
    (apart : part.Nodup) (within : part ⊆ whole) :
    whole.Perm (part ++ whole.filter fun target => target.file ∉ part.map Target.file) := by
  -- Neither list has a target twice, so it is enough that they have the same ones.
  have own : whole.Nodup := distinct.of_map
  refine (List.perm_ext_iff_of_nodup own ?_).mpr fun target => ?_
  · refine List.nodup_append.mpr ⟨apart, own.filter _, fun one inside other outside => ?_⟩
    rintro rfl
    have fresh := (List.mem_filter.mp outside).2
    simp only [decide_eq_true_eq] at fresh
    exact fresh (List.mem_map_of_mem inside)
  · rw [List.mem_append, List.mem_filter]
    simp only [decide_eq_true_eq]
    constructor
    · intro member
      by_cases named : target.file ∈ part.map Target.file
      · -- The file is that of a target of the part, and no two targets have one file.
        obtain ⟨other, inside, same⟩ := List.mem_map.mp named
        have equal := List.inj_on_of_nodup_map distinct (within inside) member same
        exact Or.inl (equal ▸ inside)
      · exact Or.inr ⟨member, named⟩
    · rintro (inside | ⟨member, -⟩)
      · exact within inside
      · exact member

/-- After some files are held, what is still to be read is the rest. -/
theorem pending_holding (admits : before.Admits tree front) :
    pending (before.holding (before.ahead tree front)).recorded targets =
      (pending before.recorded targets).filter fun target =>
        target.file ∉ (pending before.recorded front).map Target.file := by
  -- The files that are held are those that were pending in front.
  rw [recorded_holding, paths_ahead admits, pending_append]

/-- What a load would read is what a failed load has read, and what one after that would read. -/
theorem ahead_perm (admits : before.Admits tree front)
    (kept : ∀ target ∈ pending before.recorded front,
      target ∈ pending before.recorded targets ∧
        before.read repaired target.2 = before.read tree target.2) :
    (before.ahead repaired targets).Perm (before.ahead tree front ++
      (before.holding (before.ahead tree front)).ahead repaired targets) := by
  -- What was read is read alike from both trees.
  have alike : before.ahead tree front =
      (pending before.recorded front).filterMap fun target =>
        (before.opened repaired target).toOption := by
    refine List.filterMap_congr fun target member => ?_
    rw [opened, opened, (kept target member).2]
  have rest : (before.holding (before.ahead tree front)).ahead repaired targets =
      ((pending before.recorded targets).filter fun target =>
        target.file ∉ (pending before.recorded front).map Target.file).filterMap fun target =>
          (before.opened repaired target).toOption := by
    rw [ahead, pending_holding admits]
    rfl
  rw [rest, alike, ← List.filterMap_append, ahead]
  exact (perm_append_filter nodup_pending (nodup_pending.of_map)
    fun target member => (kept target member).1).filterMap _

/-- Nothing stands in the way of a load after a failed one, if nothing stands in the way of one in
its place. -/
theorem admits_holding (admits : before.Admits tree front)
    (kept : ∀ target ∈ pending before.recorded front,
      target ∈ pending before.recorded targets ∧
        before.read repaired target.2 = before.read tree target.2)
    (cleared : before.Admits repaired targets) :
    (before.holding (before.ahead tree front)).Admits repaired targets := by
  -- The names that a load in its place would register are those of both loads together.
  have names := (ahead_perm admits kept).flatMap_right Batch.names
  have distinct := names.nodup_iff.mp cleared.distinct
  rw [List.flatMap_append] at names distinct
  obtain ⟨-, own, apart⟩ := List.nodup_append.mp distinct
  refine ⟨fun target member => ?_, own, fun name member => ?_⟩
  · rw [pending_holding admits] at member
    exact cleared.opens target (List.mem_filter.mp member).1
  · rw [keys_holding, List.mem_append, not_or]
    refine ⟨cleared.new name (names.mem_iff.mpr (List.mem_append_right _ member)), ?_⟩
    intro taken
    exact apart name taken name member rfl

/-- What a failed load has read, a load of the repaired tree would read again. -/
theorem Repairs.kept_of_stops {fault : LoadFault}
    (repairs : Repairs before after tree repaired spellings) (admits : before.Admits tree front)
    (stops : StopsAfter front after tree spellings fault)
    (left : after = before.holding (before.ahead tree front)) :
    ∀ target ∈ pending before.recorded front,
      target ∈ pending before.recorded (reached repaired spellings).1 ∧
        before.read repaired target.2 = before.read tree target.2 := by
  -- What was to be read of the files in front has been recorded by the failed load.
  intro target member
  obtain ⟨rest, whole⟩ := stops.begins
  refine repairs.kept target ?_ ?_
  · rw [← whole]
    exact pending_prefix.subset member
  · rw [left, recorded_holding, paths_ahead admits]
    exact List.mem_append_right _ (List.mem_map_of_mem member)

/-- A load after a failed one succeeds where one in its place would, and adds what was left. -/
theorem load_holding (admits : before.Admits tree front)
    (kept : ∀ target ∈ pending before.recorded front,
      target ∈ pending before.recorded (reached repaired spellings).1 ∧
        before.read repaired target.2 = before.read tree target.2)
    (cleared : (before.load repaired spellings).2.outcome = .ok ()) :
    ((before.holding (before.ahead tree front)).load repaired spellings).2.outcome = .ok () ∧
      ((before.holding (before.ahead tree front)).load repaired spellings).1 =
        before.holding (before.ahead tree front ++
          (before.holding (before.ahead tree front)).ahead repaired
            (reached repaired spellings).1) := by
  -- The later load is admitted too, and it holds what is left for it to read.
  obtain ⟨possible, led⟩ := load_eq_ok_iff.mp cleared
  have resumed := admits_holding admits kept possible
  refine ⟨load_eq_ok_iff.mpr ⟨resumed, led⟩, ?_⟩
  rw [(load_eq repaired spellings _).1, (loadFiles_of_admits resumed).1, ← holding_append]

end Retry

/-- A file tree with one source. -/
def oneSource : FileTree :=
  ⟨[], [(["a.sql"], some smallestSource)]⟩

/-- What is held of the one source. -/
def oneBatch : Batch :=
  ⟨[], ⟨"--name:a\nX".toList, "a.sql"⟩, [⟨"a", 0, ['X']⟩]⟩

/-- Only the first of two paths leads to the one source. -/
theorem reached_oneSource :
    reached oneSource ["a.sql", "b"] =
      ([([], ⟨"", ["a.sql"]⟩)], .error (.notFound "b" none)) := by
  -- There is nothing at the second path, which is not too long to be one.
  have present : targets oneSource "a.sql" = .ok [([], ⟨"", ["a.sql"]⟩)] := by
    with_unfolding_all rfl
  have path : Path.ofString "b" = ⟨"", ["b"]⟩ := by decide +kernel
  have nowhere : oneSource.find? ⟨"", ["b"]⟩ = none := by with_unfolding_all rfl
  have short : oneSource.isTooLong ⟨"", ["b"]⟩ = false := by decide +kernel
  have absent : targets oneSource "b" = .error (.notFound "b" none) := by
    simp only [targets, path, nowhere, short]
    rfl
  simp only [reached, present, absent]
  rfl

/-- A load that fails for want of its second path holds the file of the first one. -/
theorem load_oneSource :
    ((empty .utf8).load oneSource ["a.sql", "b"]).1 = (empty .utf8).holding [oneBatch] ∧
      ((empty .utf8).load oneSource ["a.sql", "b"]).2.outcome = .error (.notFound "b" none) := by
  have found := @opened_smallestSource oneSource ⟨"", ["a.sql"]⟩ [] (by with_unfolding_all rfl)
  exact load_of_opened reached_oneSource (by decide) found (by decide) (by decide)

/-- A load that fails keeps all that was there. Unless a taken name has stopped it, it has added
just the files that it came to before the failure, each with all its statements. When it is then
made once more, with the cause of the failure removed, it succeeds, it ends with the same
statements, files and origins as if it had not failed, and whatever was not there before is found:
every file that the spellings lead to, with all its statements. -/
theorem failed_load_resumes (encoding : Encoding) (calls : List Call) (tree : FileTree)
    (spellings : List String) (fault : LoadFault)
    (failed : (((empty encoding).performAll calls).load tree spellings).2.outcome = .error fault) :
    let before := (empty encoding).performAll calls
    let after := (before.load tree spellings).1
    after.Extends before ∧
      (¬ fault.IsNameTaken →
        (∃ front, StopsAfter front after tree spellings fault ∧ before.Admits tree front ∧
          after = before.holding (before.ahead tree front)) ∧
        ∀ repaired, Repairs before after tree repaired spellings →
          let again := after.load repaired spellings
          again.2.outcome = .ok () ∧ again.1.Rearranges (before.load repaired spellings).1 ∧
            ∀ target ∈ (reached repaired spellings).1, target.file ∉ before.recorded →
              ∃ source ∈ (reached repaired spellings).1, source.file = target.file ∧
                ∃ batch, before.opened repaired source = .ok batch ∧ again.1.Holds batch) := by
  intro before after
  refine ⟨extends_load tree spellings before, fun other => ?_⟩
  obtain ⟨front, stops, admits, stopped⟩ := load_stops other failed
  have left : after = before.holding (before.ahead tree front) := stopped
  refine ⟨⟨front, stops, admits, left⟩, fun repaired repairs => ?_⟩
  intro again
  -- The files before the failure are kept, so the load resumes after them.
  have kept := repairs.kept_of_stops admits stops left
  obtain ⟨done, final⟩ := load_holding admits kept repairs.cleared
  rw [← left] at done final
  change again.1 = _ at final
  obtain ⟨cleared, -⟩ := load_eq_ok_iff.mp repairs.cleared
  have fresh : (before.load repaired spellings).1 =
      before.holding (before.ahead repaired (reached repaired spellings).1) := by
    rw [(load_eq repaired spellings before).1, (loadFiles_of_admits cleared).1]
  -- What is held in the end comes from the failed load and from the one after it.
  have order := ahead_perm admits kept
  rw [← left] at order
  refine ⟨done, ?_, fun target among new => ?_⟩
  · rw [final, fresh]
    exact rearranges_holding order.symm
  · obtain ⟨source, batch, listed, same, found, held⟩ := exists_ahead cleared among new
    refine ⟨source, listed, same, batch, found, ?_⟩
    -- In a sound registry, each file that is held is found with all its statements.
    have sound : again.1.Sound := by
      have calls := sound_performAll encoding
        (calls ++ [.load tree spellings, .load repaired spellings])
      rwa [performAll_append] at calls
    rw [final] at sound ⊢
    exact holds_holding sound (order.mem_iff.mp held)

/-- A file tree with a second source in a directory within another one. -/
def twoSources : FileTree :=
  ⟨[], [(["a.sql"], some smallestSource), (["b", "c", "a.sql"], some smallestSource)]⟩

/-- A load that has failed for want of its second path finds the source there, once there is one. -/
theorem failed_load_resumes_at_second :
    let after := ((empty .utf8).load oneSource ["a.sql", "b"]).1
    after.keys = ["a"] ∧ Repairs (empty .utf8) after oneSource twoSources ["a.sql", "b"] ∧
      (after.load twoSources ["a.sql", "b"]).2.outcome = .ok () ∧
      ∃ source batch, (empty .utf8).opened twoSources source = .ok batch ∧
        source.file = "b/c/a.sql" ∧ (after.load twoSources ["a.sql", "b"]).1.Holds batch := by
  intro after
  obtain ⟨held, failed⟩ := load_oneSource
  -- In the repaired tree both spellings lead to a source.
  have led : reached twoSources ["a.sql", "b"] =
      ([([], ⟨"", ["a.sql"]⟩), (["c"], ⟨"", ["b", "c", "a.sql"]⟩)], .ok ()) := by
    have first : targets twoSources "a.sql" = .ok [([], ⟨"", ["a.sql"]⟩)] := by
      with_unfolding_all rfl
    have second : targets twoSources "b" = .ok [(["c"], ⟨"", ["b", "c", "a.sql"]⟩)] := by
      with_unfolding_all rfl
    simp only [reached, first, second]
    rfl
  have before : oneSource.find? ⟨"", ["a.sql"]⟩ = some (.file smallestSource) := by
    with_unfolding_all rfl
  have first : twoSources.find? ⟨"", ["a.sql"]⟩ = some (.file smallestSource) := by
    with_unfolding_all rfl
  have second : twoSources.find? ⟨"", ["b", "c", "a.sql"]⟩ = some (.file smallestSource) := by
    with_unfolding_all rfl
  have nested : ((empty .utf8).holding [oneBatch]).opened twoSources
      (["c"], ⟨"", ["b", "c", "a.sql"]⟩) = .ok _ := opened_smallestSource second
  have repairs : Repairs (empty .utf8) after oneSource twoSources ["a.sql", "b"] := by
    refine ⟨fun target member _ => ?_, ?_⟩
    · -- Only the first file was read.
      rw [reached_oneSource] at member
      obtain rfl : target = ([], ⟨"", ["a.sql"]⟩) := List.mem_singleton.mp member
      rw [led, read, read, before, first]
      exact ⟨by decide, rfl⟩
    · -- The repaired load of both has nothing in its way.
      rw [load_eq_ok_iff, led]
      have rest : ((empty .utf8).holding [oneBatch]).Admits twoSources
          [(["c"], ⟨"", ["b", "c", "a.sql"]⟩)] :=
        (admits_cons_of_opened (by decide) nested).mpr ⟨by decide, admits_nil⟩
      exact ⟨(admits_cons_of_opened (by decide) (opened_smallestSource first)).mpr
        ⟨by decide, rest⟩, rfl⟩
  -- The failed load has missed its second path and has met no taken name.
  have other : ¬ (LoadFault.notFound "b" none).IsNameTaken := by
    rintro ⟨_, _, _, impossible⟩
    contradiction
  obtain ⟨-, resumes⟩ := (failed_load_resumes .utf8 [] oneSource ["a.sql", "b"] _ failed).2 other
  obtain ⟨done, -, finds⟩ := resumes twoSources repairs
  refine ⟨?_, repairs, done, ?_⟩
  · show ((empty .utf8).load oneSource ["a.sql", "b"]).1.keys = _
    rw [held]
    rfl
  · obtain ⟨source, among, same, batch, found, holds⟩ :=
      finds (["c"], ⟨"", ["b", "c", "a.sql"]⟩) (by rw [led]; simp) (by decide)
    exact ⟨source, batch, found, same, holds⟩

/-- A load that fails at its second path leaves the file of the first one behind. -/
theorem failed_load_leaves_file :
    let after := (empty .utf8).load oneSource ["a.sql", "b"]
    (∃ fault, after.2.outcome = .error fault) ∧ after.1.keys = ["a"] ∧
      after.1.recorded = ["a.sql"] ∧ after.1 ≠ empty .utf8 := by
  -- The registry that is left has a name, and an empty one has none.
  obtain ⟨held, failed⟩ := load_oneSource
  simp only [held, failed]
  refine ⟨⟨_, rfl⟩, rfl, rfl, fun same => ?_⟩
  have keys := congrArg keys same
  contradiction

end Registry

end SqlTemplate
