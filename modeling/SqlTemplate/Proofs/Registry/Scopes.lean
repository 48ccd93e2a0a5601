import Mathlib.Data.List.Infix
import SqlTemplate.Proofs.Registry.Reloading

/-! A load of a directory puts the statements of each source below it into the scope of the source's
own directories, unless an earlier load has recorded the source, which then stays in the scope that
that load gave it. -/

namespace SqlTemplate

/-- A location or a way without slashes in its names. -/
def Slashless (way : Location) : Prop :=
  ∀ name ∈ way, '/' ∉ name.toList

/-- No name of a tree has a slash in it. -/
structure FileTree.Undivided (tree : FileTree) : Prop where
  /-- None has on the way to where relative paths begin. -/
  current : Slashless tree.current
  /-- None has on the way to an entry. -/
  entries : ∀ entry ∈ tree.entries, Slashless entry.1

/-- No name on the path of a spelling has a slash in it. -/
theorem Path.slashless_ofString (spelling : String) : Slashless (ofString spelling).parts := by
  -- The parts of a path are what lies between the slashes of its spelling.
  intro name member
  obtain ⟨listed, -⟩ := List.mem_filter.mp member
  obtain ⟨piece, among, rfl⟩ := List.mem_map.mp listed
  rw [String.toList_ofList]
  exact Text.not_mem_of_mem_pieces among

namespace FileTree

variable {tree : FileTree}

/-- Names without slashes lead from a location without slashes to another one. -/
theorem slashless_foldl_step {location : Location} {parts : List String}
    (start : Slashless location) (names : Slashless parts) :
    Slashless (parts.foldl step location) := by
  -- A step takes the last name away or adds one of the given names.
  induction parts generalizing location with
  | nil => exact start
  | cons part rest ih =>
    obtain ⟨first, others⟩ := List.forall_mem_cons.mp names
    refine ih ?_ others
    rw [step]
    split
    · exact fun name member => start name (List.mem_of_mem_dropLast member)
    · exact List.forall_mem_append.mpr ⟨start, List.forall_mem_singleton.mpr first⟩

/-- A tree stays without slashes when a file or a directory is written at the path of a spelling. -/
theorem Undivided.write (undivided : tree.Undivided) (spelling : String)
    (content : Option (List UInt8)) :
    (tree.write (tree.locate (Path.ofString spelling)) content).Undivided := by
  -- An entry of the written tree is an old one or the one written, whose names come from the
  -- spelling.
  have start : Slashless (tree.start (Path.ofString spelling)) := by
    rw [FileTree.start]
    split
    · exact undivided.current
    · simp [Slashless]
  refine ⟨undivided.current, fun entry listed => ?_⟩
  rcases List.mem_append.mp listed with kept | written
  · exact undivided.entries entry (List.mem_filter.mp kept).1
  · rw [List.mem_singleton.mp written]
    exact slashless_foldl_step start (Path.slashless_ofString spelling)

/-- The ways to the sources below a path are not empty, and have no slashes in their names. -/
theorem Undivided.of_mem_sources (undivided : tree.Undivided) {path : Path} {way : Location}
    (member : way ∈ tree.sources path) : way ≠ [] ∧ Slashless way := by
  -- The way to a source is a part of the way to an entry.
  rw [sources] at member
  split at member
  · obtain ⟨below, -⟩ := List.mem_filter.mp (List.mem_mergeSort.mp member)
    obtain ⟨present, entry, listed, within⟩ := mem_below_iff.mp below
    refine ⟨present, fun name among => undivided.entries entry listed name ?_⟩
    exact within.subset (List.mem_append_right _ among)
  · contradiction

end FileTree

namespace Path

/-- Names without slashes are put together in different ways when they differ. -/
theorem intercalate_inj {first second : List String} (present : first ≠ []) (also : second ≠ [])
    (one : Slashless first) (other : Slashless second)
    (same : "/".intercalate first = "/".intercalate second) : first = second := by
  -- Cutting at the slashes gives the names back.
  have cut : ∀ names : List String, names ≠ [] → Slashless names →
      Text.pieces '/' ("/".intercalate names).toList = names.map String.toList := by
    intro names some slashless
    rw [String.toList_intercalate]
    exact Text.pieces_intercalate (by simpa using some) (List.forall_mem_map.mpr slashless)
  refine (List.map_inj_right fun _ _ => String.toList_inj.mp).mp ?_
  rw [← cut first present one, ← cut second also other, same]

/-- Ways that go on from the path of a spelling lead to paths with different spellings when they
differ. -/
theorem toString_append_inj {spelling : String} {first second : List String} (present : first ≠ [])
    (also : second ≠ []) (one : Slashless first) (other : Slashless second)
    (same : ((ofString spelling).append first).toString =
      ((ofString spelling).append second).toString) : first = second := by
  -- The spelling of a way that goes on has the root first, and then all names with slashes between.
  have spelled : ∀ {way : List String}, way ≠ [] →
      ((ofString spelling).append way).toString =
        (ofString spelling).root ++ "/".intercalate ((ofString spelling).parts ++ way) := by
    intro way some
    rw [toString, if_neg (by simp [append, some])]
    rfl
  rw [spelled present, spelled also, String.append_right_inj] at same
  refine List.append_cancel_left (intercalate_inj (by simp [present]) (by simp [also]) ?_ ?_ same)
  · exact List.forall_mem_append.mpr ⟨slashless_ofString spelling, one⟩
  · exact List.forall_mem_append.mpr ⟨slashless_ofString spelling, other⟩

end Path

namespace Registry

/-- One of some calls, with none after it that forgets, is a load to which a file was new, and this
is what the load read from the file. -/
def BroughtBy (encoding : Encoding) (calls : List Call) (batch : Batch) : Prop :=
  ∃ front tree spellings rest target, calls = front ++ Call.load tree spellings :: rest ∧
    (∀ call ∈ rest, call ≠ .clear) ∧
    target ∈ pending ((empty encoding).performAll front).recorded (reached tree spellings).1 ∧
    ((empty encoding).performAll front).opened tree target = .ok batch

/-- One of some calls, with none after it that forgets, is a load that stopped in a file, at a name
that was taken. -/
def StoppedIn (encoding : Encoding) (calls : List Call) (file : String) : Prop :=
  ∃ front tree spellings rest name origin, calls = front ++ Call.load tree spellings :: rest ∧
    (∀ call ∈ rest, call ≠ .clear) ∧
    (((empty encoding).performAll front).load tree spellings).2.outcome =
      .error (.unusable file (.nameTaken name origin))

section Calls

variable {encoding : Encoding} {calls : List Call} {call : Call}

/-- What a load brought, it also brought when another call follows, unless that forgets. -/
theorem BroughtBy.concat {batch : Batch} (brought : BroughtBy encoding calls batch)
    (remembers : call ≠ .clear) : BroughtBy encoding (calls ++ [call]) batch := by
  -- The call comes after the load that brought the file.
  obtain ⟨front, tree, spellings, rest, target, rfl, kept, first, found⟩ := brought
  refine ⟨front, tree, spellings, rest ++ [call], target, by simp, ?_, first, found⟩
  exact List.forall_mem_append.mpr ⟨kept, List.forall_mem_singleton.mpr remembers⟩

/-- Where a load stopped, it also stopped when another call follows, unless that forgets. -/
theorem StoppedIn.concat {file : String} (stopped : StoppedIn encoding calls file)
    (remembers : call ≠ .clear) : StoppedIn encoding (calls ++ [call]) file := by
  -- The call comes after the load that stopped.
  obtain ⟨front, tree, spellings, rest, name, origin, rfl, kept, failed⟩ := stopped
  refine ⟨front, tree, spellings, rest ++ [call], name, origin, by simp, ?_, failed⟩
  exact List.forall_mem_append.mpr ⟨kept, List.forall_mem_singleton.mpr remembers⟩

end Calls

section Holding

variable {registry after : Registry} {tree : FileTree} {targets : List Target} {batch : Batch}

/-- What a registry holds, one that has more holds too. -/
theorem Holds.of_extends (held : registry.Holds batch) (kept : after.Extends registry) :
    after.Holds batch :=
  -- What is found among the first entries is found among all.
  ⟨lookup_of_isPrefix kept.files held.file,
    fun statement listed => lookup_of_isPrefix kept.statements (held.statements statement listed),
    fun statement listed => lookup_of_isPrefix kept.origins (held.origins statement listed)⟩

/-- What is read ahead is read from files that are still to be read. -/
theorem mem_ahead_iff : batch ∈ registry.ahead tree targets ↔
    ∃ target ∈ pending registry.recorded targets, registry.opened tree target = .ok batch := by
  -- A file that cannot be opened is left out of what is read ahead.
  rw [ahead, List.mem_filterMap]
  refine exists_congr fun target => and_congr_right fun _ => ?_
  cases registry.opened tree target <;> simp [Except.toOption]

/-- A registry stays sound when it comes to hold files in whose way nothing stands. -/
theorem Sound.holding_ahead (sound : registry.Sound) (admits : registry.Admits tree targets) :
    (registry.holding (registry.ahead tree targets)).Sound := by
  -- The names that are added differ from each other and from the old ones, and so do the paths.
  refine ⟨?_, ?_, ?_⟩
  · rw [keys_holding]
    refine List.nodup_append.mpr ⟨sound.keys, admits.distinct, fun name taken other fresh => ?_⟩
    rintro rfl
    exact admits.new name fresh taken
  · rw [recorded_holding, paths_ahead admits]
    refine List.nodup_append.mpr ⟨sound.recorded, nodup_pending, fun file read other left => ?_⟩
    rintro rfl
    obtain ⟨target, member, rfl⟩ := List.mem_map.mp left
    exact (mem_of_pending member).2 read
  · rw [keys_holding, ← sound.origins, holding, List.map_append, List.map_flatMap]
    simp only [List.map_map]
    rfl

/-- A file that comes to be recorded is held, as it was read. -/
theorem holds_of_recorded (sound : registry.Sound) (admits : registry.Admits tree targets)
    {file : String} (fresh : file ∉ registry.recorded)
    (recorded : file ∈ (registry.holding (registry.ahead tree targets)).recorded) :
    ∃ target ∈ pending registry.recorded targets, ∃ batch,
      registry.opened tree target = .ok batch ∧ batch.file.path = file ∧
        (registry.holding (registry.ahead tree targets)).Holds batch := by
  -- A file that is new among those recorded is one that is held.
  rw [recorded_holding, List.mem_append] at recorded
  obtain ⟨batch, member, path⟩ := List.mem_map.mp (recorded.resolve_left fresh)
  obtain ⟨target, left, found⟩ := mem_ahead_iff.mp member
  exact ⟨target, left, batch, found, path, holds_holding (sound.holding_ahead admits) member⟩

/-- Registering statements keeps what was there, and no other file is recorded. -/
theorem registerAll_extends (scope : List String) (file : String) (statements : List Statement)
    (registry : Registry) :
    (registerAll scope file statements registry).1.Extends registry ∧
      (registerAll scope file statements registry).1.recorded = registry.recorded := by
  -- Each registration adds a name at the end and leaves the files alone.
  refine @registerAll_preserves registry
    (fun after => after.Extends registry ∧ after.recorded = registry.recorded) scope file statements
    ?_ ⟨.refl registry, rfl⟩
  rintro between statement - - ⟨kept, same⟩
  exact ⟨(extends_register ..).trans kept, same⟩

/-- A load leaves a registry that holds all files that it has come to, beside at most one with a
name that was taken. -/
theorem load_comes_to (tree : FileTree) (spellings : List String) (registry : Registry) :
    ∃ front, front <+: (reached tree spellings).1 ∧ registry.Admits tree front ∧
      let held := registry.holding (registry.ahead tree front)
      let after := (registry.load tree spellings).1
      after.Extends held ∧ ∀ file ∈ after.recorded, file ∈ held.recorded ∨
        ∃ name origin, (registry.load tree spellings).2.outcome =
          .error (.unusable file (.nameTaken name origin)) := by
  obtain ⟨same, ended⟩ := load_eq tree spellings registry
  rw [same, ended]
  cases outcome : (loadFiles tree (reached tree spellings).1 registry).2.outcome with
  | ok done =>
    -- The files did not fail, so all of them are held.
    have admits := admits_of_loadFiles outcome
    rw [(loadFiles_of_admits admits).1]
    exact ⟨_, List.prefix_rfl, admits, .refl _, fun file => Or.inl⟩
  | error fault =>
    obtain ⟨front, target, rest, whole, admits, step⟩ := loadFiles_eq_error outcome
    generalize (loadFiles tree (reached tree spellings).1 registry).1 = left at step
    refine ⟨front, ⟨_, whole.symm⟩, admits, ?_⟩
    cases step with
    | unopened fresh refused =>
      exact ⟨.refl _, fun file => Or.inl⟩
    | @taken batch name origin fresh found clash =>
      -- The file that fails is recorded before the names of its statements are.
      obtain ⟨-, path, -⟩ := opened_eq_ok_iff.mp found
      obtain ⟨kept, recorded⟩ := registerAll_extends batch.scope batch.file.path batch.statements
        ((registry.holding (registry.ahead tree front)).record batch.file)
      refine ⟨kept.trans (extends_record batch.file), fun file member => ?_⟩
      rw [recorded, Registry.recorded, record, List.map_append, List.mem_append] at member
      refine member.imp_right fun last => ⟨name, origin, ?_⟩
      rw [List.map_singleton, List.mem_singleton, path] at last
      rw [last]
      rfl

/-- A file that a load records is held, as the load read it, unless the load stopped in it. -/
theorem load_records {spellings : List String} {file : String} (sound : registry.Sound)
    (fresh : file ∉ registry.recorded)
    (recorded : file ∈ (registry.load tree spellings).1.recorded) :
    (∃ name origin, (registry.load tree spellings).2.outcome =
        .error (.unusable file (.nameTaken name origin))) ∨
      ∃ target ∈ pending registry.recorded (reached tree spellings).1, ∃ batch,
        registry.opened tree target = .ok batch ∧ batch.file.path = file ∧
          (registry.load tree spellings).1.Holds batch := by
  obtain ⟨front, ⟨rest, whole⟩, admits, kept, came⟩ := load_comes_to tree spellings registry
  rcases came file recorded with held | stopped
  · obtain ⟨target, left, batch, found, path, holds⟩ := holds_of_recorded sound admits fresh held
    -- The files that the load came to are the first of all that it led to.
    refine Or.inr ⟨target, ?_, batch, found, path, holds.of_extends kept⟩
    rw [← whole]
    exact pending_prefix.subset left
  · exact Or.inl stopped

/-- Adding a template records no file. -/
theorem recorded_add (name : String) (sql : Text) :
    (registry.perform (.add name sql)).recorded = registry.recorded := by
  -- A template is registered or refused, and neither touches the files.
  by_cases new : name ∉ registry.keys
  · rw [perform_add_of_new new]
    rfl
  · rw [perform_add_of_taken (not_not.mp new)]

end Holding

/-- Every recorded file was brought by a load, and what the load read from it is held, unless a load
stopped in it. -/
theorem recorded_brought (encoding : Encoding) (calls : List Call) :
    ∀ file ∈ ((empty encoding).performAll calls).recorded, ¬ StoppedIn encoding calls file →
      ∃ batch, BroughtBy encoding calls batch ∧ batch.file.path = file ∧
        ((empty encoding).performAll calls).Holds batch := by
  -- The induction goes from the last call to the earlier ones.
  induction calls using List.reverseRecOn with
  | nil =>
    intro file member
    contradiction
  | append_singleton calls call ih =>
    intro file member unstopped
    rw [performAll_append] at member ⊢
    by_cases before : file ∈ ((empty encoding).performAll calls).recorded
    · -- A file that was recorded before the call is held as it was.
      have remembers : call ≠ .clear := by
        rintro rfl
        contradiction
      obtain ⟨batch, brought, path, held⟩ :=
        ih file before fun stopped => unstopped (stopped.concat remembers)
      exact ⟨batch, brought.concat remembers, path, held.of_extends (extends_perform remembers)⟩
    · cases call with
      | clear => contradiction
      | add name sql =>
        rw [← recorded_add name sql] at before
        contradiction
      | load tree spellings =>
        rcases load_records (sound_performAll encoding calls) before member with
          ⟨name, origin, failed⟩ | ⟨target, left, batch, found, path, held⟩
        · exact absurd ⟨calls, tree, spellings, [], name, origin, rfl, by simp, failed⟩ unstopped
        · exact ⟨batch, ⟨calls, tree, spellings, [], target, rfl, by simp, left, found⟩, path, held⟩

section Directories

variable {tree : FileTree} {registry : Registry} {spelling : String}

/-- A directory leads to the sources below it. -/
theorem reached_directory (found : tree.find? (Path.ofString spelling) = some .directory) :
    reached tree [spelling] =
      ((tree.sources (Path.ofString spelling)).map fun way =>
        (way.dropLast, (Path.ofString spelling).append way), .ok ()) := by
  -- A spelling of a directory has no other targets than the sources below it.
  simp [reached, targets, found]

/-- A source below a directory is read in its own scope, if it has not been recorded. -/
theorem source_mem_pending (undivided : tree.Undivided)
    (found : tree.find? (Path.ofString spelling) = some .directory) {recorded : List String}
    {way : Location} (member : way ∈ tree.sources (Path.ofString spelling))
    (fresh : ((Path.ofString spelling).append way).toString ∉ recorded) :
    (way.dropLast, (Path.ofString spelling).append way) ∈
      pending recorded (reached tree [spelling]).1 := by
  have listed : (way.dropLast, (Path.ofString spelling).append way) ∈
      (reached tree [spelling]).1 := by
    rw [reached_directory found]
    exact List.mem_map_of_mem member
  obtain ⟨source, left, same⟩ := exists_pending listed fresh
  -- No other way below the directory leads to the same file.
  have among := (mem_of_pending left).1
  rw [reached_directory found] at among
  obtain ⟨other, also, rfl⟩ := List.mem_map.mp among
  obtain ⟨one, names⟩ := undivided.of_mem_sources member
  obtain ⟨two, others⟩ := undivided.of_mem_sources also
  rwa [← Path.toString_append_inj two one others names same]

end Directories

section Origins

variable {registry : Registry} {file : String}

/-- Registering a name of one file gives no name to another one. -/
theorem origin?_of_register {name other origin : String} {statement : Statement}
    (apart : origin ≠ file)
    (found : (registry.register other statement origin).origin? name = some file) :
    registry.origin? name = some file := by
  rw [origin?, register, List.lookup_append, Option.or_eq_some_iff] at found
  rcases found with earlier | ⟨-, added⟩
  · exact earlier
  · -- The entry that is added has the path of the one file.
    have last := List.mem_singleton.mp (mem_of_lookup added)
    exact absurd (Prod.mk.inj last).2.symm apart

/-- Loading a file gives no name to one that has been recorded. -/
theorem origin?_of_loadFile {tree : FileTree} {target : Target} {name : String}
    (recorded : file ∈ registry.recorded)
    (found : (loadFile tree target.1 target.2 registry).1.origin? name = some file) :
    registry.origin? name = some file := by
  -- Whatever is registered comes from the file that is loaded, which is another one.
  have registers : ∀ {batch}, target.file ∉ registry.recorded →
      registry.opened tree target = .ok batch →
      (registerAll batch.scope batch.file.path batch.statements
        (registry.record batch.file)).1.origin? name = some file →
      registry.origin? name = some file := by
    intro batch fresh opens
    obtain ⟨-, path, -⟩ := opened_eq_ok_iff.mp opens
    have apart : batch.file.path ≠ file := by
      rw [path]
      rintro rfl
      exact fresh recorded
    exact @registerAll_preserves _ (fun between =>
      between.origin? name = some file → registry.origin? name = some file) _ _ _
      (fun between statement _ _ kept last => kept (origin?_of_register apart last)) id
  -- A file is passed over or refused, or its statements are registered, maybe up to a taken name.
  have step := fileLoad tree target registry
  generalize (loadFile tree target.1 target.2 registry).1 = next at step found
  generalize (loadFile tree target.1 target.2 registry).2.outcome = outcome at step
  cases step with
  | passed | unopened => exact found
  | registered fresh opens distinct new =>
    rw [← registerAll_record distinct new] at found
    exact registers fresh opens found
  | taken fresh opens => exact registers fresh opens found

/-- A load leaves the names that come from a recorded file as they were, whether it fails or not. -/
theorem origin?_load (tree : FileTree) (spellings : List String)
    (recorded : file ∈ registry.recorded) (name : String) :
    (registry.load tree spellings).1.origin? name = some file ↔
      registry.origin? name = some file := by
  constructor
  · -- The file stays recorded all along, so none of the files that are loaded is this one.
    refine (@load_preserves_of_loadFile tree registry spellings (fun between =>
      file ∈ between.recorded ∧ (between.origin? name = some file →
        registry.origin? name = some file)) ?_ ⟨recorded, id⟩).2
    rintro between target - ⟨still, kept⟩
    refine ⟨?_, fun found => kept (origin?_of_loadFile still found)⟩
    refine @loadFile_preserves tree between (fun other => file ∈ other.recorded) target
      (fun other added _ listed => ?_) (fun _ _ _ _ _ listed => listed) still
    rw [Registry.recorded, record, List.map_append]
    exact List.mem_append_left _ listed
  · exact (extends_load tree spellings registry).retains.origin name file

end Origins

/-- When the load of a directory succeeds, whatever has been loaded before, every source below it is
recorded. A source that had not been recorded is held in the scope of its directories below that
one, with all its statements. A source that an earlier load had brought, and in which none had
stopped, is held in the scope in which that load led to it, and its names stay what they were. -/
theorem directory_load_scopes (encoding : Encoding) (calls : List Call) (tree : FileTree)
    (undivided : tree.Undivided) (spelling : String)
    (found : tree.find? (Path.ofString spelling) = some .directory)
    (done : (((empty encoding).performAll calls).load tree [spelling]).2.outcome = .ok ()) :
    let before := (empty encoding).performAll calls
    let after := (before.load tree [spelling]).1
    ∀ way ∈ tree.sources (Path.ofString spelling),
      let path := (Path.ofString spelling).append way
      path.toString ∈ after.recorded ∧
        (path.toString ∉ before.recorded →
          ∃ batch, before.opened tree (way.dropLast, path) = .ok batch ∧ after.Holds batch) ∧
        (path.toString ∈ before.recorded → ¬ StoppedIn encoding calls path.toString →
          (∃ batch, BroughtBy encoding calls batch ∧ batch.file.path = path.toString ∧
            after.Holds batch) ∧
          ∀ name, after.origin? name = some path.toString ↔
            before.origin? name = some path.toString) := by
  intro before after way member path
  obtain ⟨admits, -⟩ := load_eq_ok_iff.mp done
  refine ⟨?_, fun fresh => ?_, fun recorded unstopped =>
    ⟨?_, origin?_load tree [spelling] recorded⟩⟩
  · refine recorded_of_load done (way.dropLast, path) ?_
    rw [reached_directory found]
    exact List.mem_map_of_mem member
  · -- The source is one of those that the load reads.
    have left := source_mem_pending undivided found member fresh
    obtain ⟨batch, opens⟩ := admits.opens _ left
    have held : after = before.holding (before.ahead tree (reached tree [spelling]).1) :=
      (load_eq tree [spelling] before).1.trans (loadFiles_of_admits admits).1
    have sound := (sound_performAll encoding calls).holding_ahead admits
    refine ⟨batch, opens, ?_⟩
    rw [held]
    exact holds_holding sound (mem_ahead_iff.mpr ⟨_, left, opens⟩)
  · -- What an earlier load has brought is still held after this one.
    obtain ⟨batch, brought, same, held⟩ := recorded_brought encoding calls _ recorded unstopped
    exact ⟨batch, brought, same, held.of_extends (extends_load tree [spelling] before)⟩

/-- What is held of the source in a directory within another one, when the outer one is loaded. -/
def nestedBatch : Batch :=
  ⟨["c"], ⟨"--name:a\nX".toList, "b/c/a.sql"⟩, [⟨"a", 0, ['X']⟩]⟩

/-- The two sources are below the top level, which is a directory, in the order of their names. -/
theorem sources_twoSources :
    twoSources.find? (Path.ofString ".") = some .directory ∧
      twoSources.sources (Path.ofString ".") = [["a.sql"], ["b", "c", "a.sql"]] := by
  have top : Path.ofString "." = ⟨"", []⟩ := by decide +kernel
  have listed : (twoSources.below []).filter FileTree.isSource =
      [["a.sql"], ["b", "c", "a.sql"]] := by
    with_unfolding_all rfl
  rw [top]
  refine ⟨by with_unfolding_all rfl, ?_⟩
  -- They are found in this order already, so that sorting them changes nothing.
  show ((twoSources.below []).filter FileTree.isSource).mergeSort FileTree.comesFirst = _
  rw [listed]
  exact List.mergeSort_of_pairwise (by decide)

/-- A directory and then the one around it are loaded: the source of the first stays in the scope
that it was in, and the other one is at the top level. -/
theorem load_twoSources :
    ((empty .utf8).load twoSources ["b"]).2.outcome = .ok () ∧
      (empty .utf8).performAll [.load twoSources ["b"]] = (empty .utf8).holding [nestedBatch] ∧
      (((empty .utf8).holding [nestedBatch]).load twoSources ["."]).2.outcome = .ok () ∧
      (((empty .utf8).holding [nestedBatch]).load twoSources ["."]).1 =
        (empty .utf8).holding [nestedBatch, oneBatch] := by
  -- The two sources are found in the tree, and the two loads lead to one and to both of them.
  have first : twoSources.find? ⟨"", ["a.sql"]⟩ = some (.file smallestSource) := by
    with_unfolding_all rfl
  have second : twoSources.find? ⟨"", ["b", "c", "a.sql"]⟩ = some (.file smallestSource) := by
    with_unfolding_all rfl
  have inner : reached twoSources ["b"] = ([(["c"], ⟨"", ["b", "c", "a.sql"]⟩)], .ok ()) := by
    with_unfolding_all rfl
  have outer : reached twoSources ["."] =
      ([([], ⟨"", ["a.sql"]⟩), (["b", "c"], ⟨"", ["b", "c", "a.sql"]⟩)], .ok ()) := by
    rw [reached_directory sources_twoSources.1, sources_twoSources.2]
    with_unfolding_all rfl
  obtain ⟨held, done⟩ := load_of_opened inner (by decide) (opened_smallestSource second)
    (by decide) (by decide)
  -- Of the two sources below the outer directory only the first is new.
  have fresh : Target.file ([], ⟨"", ["a.sql"]⟩) ∉
      ((empty .utf8).holding [nestedBatch]).recorded := by decide
  have opens : ((empty .utf8).holding [nestedBatch]).opened twoSources ([], ⟨"", ["a.sql"]⟩) =
      .ok oneBatch := opened_smallestSource first
  have read : Target.file (["b", "c"], ⟨"", ["b", "c", "a.sql"]⟩) ∈
      (((empty .utf8).holding [nestedBatch]).holding [oneBatch]).recorded := by decide
  have admits : ((empty .utf8).holding [nestedBatch]).Admits twoSources
      (reached twoSources ["."]).1 := by
    rw [outer]
    exact (admits_cons_of_opened fresh opens).mpr
      ⟨by decide, (admits_cons_of_recorded read).mpr admits_nil⟩
  refine ⟨done, held, load_eq_ok_iff.mpr ⟨admits, by rw [outer]⟩, ?_⟩
  rw [(load_eq ..).1, (loadFiles_of_admits admits).1, outer, ahead_cons_of_opened fresh opens,
    ahead_cons_of_recorded read]
  rfl

/-- Of two sources the one at the top level is read in its own scope, and the other one stays in the
scope that its directory's load gave it. -/
theorem outer_directory_load_scopes :
    let calls := [Call.load twoSources ["b"]]
    let before := (empty .utf8).performAll calls
    let after := (before.load twoSources ["."]).1
    twoSources.Undivided ∧ twoSources.find? (Path.ofString ".") = some .directory ∧
      (before.load twoSources ["."]).2.outcome = .ok () ∧ "a.sql" ∉ before.recorded ∧
      "b/c/a.sql" ∈ before.recorded ∧ ¬ StoppedIn .utf8 calls "b/c/a.sql" ∧
      (∃ batch, before.opened twoSources ([], ⟨"", ["a.sql"]⟩) = .ok batch ∧ after.Holds batch) ∧
      ∃ batch, BroughtBy .utf8 calls batch ∧ batch.file.path = "b/c/a.sql" ∧ after.Holds batch := by
  intro calls before after
  obtain ⟨first, held, done, -⟩ := load_twoSources
  have left : before = (empty .utf8).holding [nestedBatch] := held
  have undivided : twoSources.Undivided :=
    ⟨by simp [Slashless, twoSources], by unfold Slashless; decide⟩
  have top : Path.ofString "." = ⟨"", []⟩ := by decide +kernel
  obtain ⟨found, sources⟩ := sources_twoSources
  have succeeds : (before.load twoSources ["."]).2.outcome = .ok () := by rwa [left]
  have fresh : "a.sql" ∉ before.recorded := by
    rw [left]
    decide
  have recorded : "b/c/a.sql" ∈ before.recorded := by
    rw [left]
    decide
  have unstopped : ¬ StoppedIn .utf8 calls "b/c/a.sql" := by
    -- The only load has succeeded.
    rintro ⟨front, tree, spellings, rest, name, origin, whole, -, failed⟩
    rcases List.append_eq_singleton_iff.mp whole.symm with ⟨rfl, only⟩ | ⟨-, none⟩
    · cases only
      have failure : ((empty .utf8).load twoSources ["b"]).2.outcome = .error _ := failed
      rw [first] at failure
      contradiction
    · contradiction
  -- The general theorem tells of the new source, and of the one that was recorded before.
  have scopes := directory_load_scopes .utf8 calls twoSources undivided "." found succeeds
  rw [sources] at scopes
  obtain ⟨-, own, -⟩ := scopes ["a.sql"] (by simp)
  obtain ⟨-, -, earlier⟩ := scopes ["b", "c", "a.sql"] (by simp)
  rw [top] at own earlier
  exact ⟨undivided, found, succeeds, fresh, recorded, unstopped, own fresh,
    (earlier recorded unstopped).1⟩

/-- A source does not get a name in the scope of its directories below a directory that is loaded
once its inner directory has been. -/
theorem source_stays_in_inner_scope :
    let before := (empty .utf8).performAll [.load twoSources ["b"]]
    let after := (before.load twoSources ["."]).1
    twoSources.find? (Path.ofString ".") = some .directory ∧
      (before.load twoSources ["."]).2.outcome = .ok () ∧ after.keys = ["c.a", "a"] ∧
      ¬ ∀ way ∈ twoSources.sources (Path.ofString "."), ∀ batch,
        before.opened twoSources (way.dropLast, (Path.ofString ".").append way) = .ok batch →
          ∀ statement ∈ batch.statements,
            after.origin? (batch.name statement) = some batch.file.path := by
  -- Read from the outer directory, the source in the inner one would have a name that is not
  -- registered.
  intro before after
  obtain ⟨-, held, done, both⟩ := load_twoSources
  have left : before = (empty .utf8).holding [nestedBatch] := held
  have final : after = (empty .utf8).holding [nestedBatch, oneBatch] := by
    show (before.load twoSources ["."]).1 = _
    rw [left, both]
  have top : Path.ofString "." = ⟨"", []⟩ := by decide +kernel
  have second : twoSources.find? ⟨"", ["b", "c", "a.sql"]⟩ = some (.file smallestSource) := by
    with_unfolding_all rfl
  obtain ⟨found, sources⟩ := sources_twoSources
  refine ⟨found, by rwa [left], by rw [final]; rfl, fun named => ?_⟩
  rw [left, sources, top] at named
  have opens : ((empty .utf8).holding [nestedBatch]).opened twoSources
      (["b", "c"], ⟨"", ["b", "c", "a.sql"]⟩) = .ok _ := opened_smallestSource second
  -- The name in the scope of both directories would have to be registered.
  have own := named _ (by simp) _ opens _ (List.mem_singleton_self _)
  rw [final] at own
  contradiction

end Registry

end SqlTemplate
