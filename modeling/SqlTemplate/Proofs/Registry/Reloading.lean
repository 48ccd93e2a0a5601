import SqlTemplate.Proofs.Registry.Consistency

/-! A load passes over every file that has been recorded, so a load that has succeeded does nothing
when it is made again, even if the files have been rewritten in between. -/

namespace SqlTemplate

namespace FileTree

/-- Whether something is a file. -/
def Node.isFile : Node → Bool
  | file _ => true
  | directory => false

/-- Two trees have the same files and directories, whatever the files hold. -/
structure SameNodes (tree other : FileTree) : Prop where
  /-- Relative paths begin in the same place. -/
  current : other.current = tree.current
  /-- The same locations hold files, and the same ones are directories. -/
  nodes : ∀ location, (other.at? location).map Node.isFile = (tree.at? location).map Node.isFile
  /-- The same ways lead on from a location. -/
  below : ∀ location way, way ∈ other.below location ↔ way ∈ tree.below location

section Nodes

variable {tree other : FileTree}

/-- The same locations are directories. -/
theorem SameNodes.directory_iff (same : tree.SameNodes other) (location : Location) :
    other.at? location = some .directory ↔ tree.at? location = some .directory := by
  -- Of what may be at a location, only a directory is something and no file.
  have nodes := same.nodes location
  have kind : ∀ node? : Option Node,
      node? = some .directory ↔ node?.map Node.isFile = some false := by
    rintro (_ | _ | _) <;> simp [Node.isFile]
  rw [kind, kind, nodes]

/-- A name leads on from nothing but a directory. -/
theorem follow_cons_of_ne {location : Location} {part : String} {rest : List String}
    (stops : tree.at? location ≠ some .directory) :
    tree.follow location (part :: rest) = none := by
  -- A name is looked up in a directory, or nowhere.
  rw [follow]
  split
  · contradiction
  · rfl

/-- Names lead on from a location in the same way. -/
theorem SameNodes.follow_eq (same : tree.SameNodes other) (location : Location)
    (parts : List String) : other.follow location parts = tree.follow location parts := by
  -- Each name leads on from a directory, and the directories are the same.
  induction parts generalizing location with
  | nil => rfl
  | cons part rest ih =>
    by_cases leads : tree.at? location = some .directory
    · rw [follow, follow, leads, (same.directory_iff location).mpr leads]
      exact ih _
    · rw [follow_cons_of_ne leads, follow_cons_of_ne (mt (same.directory_iff location).mp leads)]

/-- A path leads to a file in both trees or in neither, and so it does to a directory. -/
theorem SameNodes.find?_eq (same : tree.SameNodes other) (path : Path) :
    (other.find? path).map Node.isFile = (tree.find? path).map Node.isFile := by
  -- The path leads to the same location in both trees, where the same kind of node is.
  have start : other.start path = tree.start path := by rw [start, start, same.current]
  rw [find?, find?, start, same.follow_eq]
  cases tree.follow (tree.start path) path.parts with
  | none => rfl
  | some location => exact same.nodes location

/-- The same sources are below a path. -/
theorem SameNodes.mem_sources_iff (same : tree.SameNodes other) {path : Path} {way : Location} :
    way ∈ other.sources path ↔ way ∈ tree.sources path := by
  -- The path leads to the same location in both trees, below which the same ways are.
  have start : other.start path = tree.start path := by rw [start, start, same.current]
  rw [sources, sources, start, same.follow_eq]
  cases tree.follow (tree.start path) path.parts with
  | none => rfl
  | some location => simp [List.mem_mergeSort, List.mem_filter, same.below]

/-- A way leads on from a location when it is a beginning of what is left of the way to an entry. -/
theorem mem_below_iff {location way : Location} :
    way ∈ tree.below location ↔
      way ≠ [] ∧ ∃ entry ∈ tree.entries, location ++ way <+: entry.1 := by
  simp only [below, List.mem_eraseDups, List.mem_flatMap]
  constructor
  · rintro ⟨entry, listed, member⟩
    split at member
    · rename_i within
      -- A way below the location is some of the names that follow it in an entry.
      obtain ⟨rest, whole⟩ := List.isPrefixOf_iff_prefix.mp within
      obtain ⟨count, bound, rfl⟩ := List.mem_map.mp member
      rw [← whole, List.drop_left] at bound ⊢
      have room := List.mem_range.mp bound
      refine ⟨?_, entry, listed, ?_⟩
      · rw [← List.length_pos_iff, List.length_take]
        omega
      · rw [← whole]
        exact (List.prefix_append_right_inj location).mpr (List.take_prefix ..)
    · contradiction
  · rintro ⟨present, entry, listed, within⟩
    refine ⟨entry, listed, ?_⟩
    obtain ⟨rest, whole⟩ := within
    have front : location.isPrefixOf entry.1 = true :=
      List.isPrefixOf_iff_prefix.mpr ⟨way ++ rest, by rw [← whole, List.append_assoc]⟩
    rw [if_pos front, ← whole, List.append_assoc, List.drop_left]
    -- The way is as many names of the rest as it has.
    have long := List.length_pos_iff.mpr present
    refine List.mem_map.mpr ⟨way.length - 1, List.mem_range.mpr ?_, ?_⟩
    · rw [List.length_append]
      omega
    · rw [Nat.sub_add_cancel long, List.take_left]

/-- The entry of a location that is written is the one written, and the other entries stay. -/
theorem lookup_write (location other : Location) (content : Option (List UInt8)) :
    (tree.write location content).entries.lookup other =
      if other = location then some content else tree.entries.lookup other := by
  have kept := lookup_filter_keys (fun key => decide (key ≠ location)) other tree.entries
  rw [write, List.lookup_append, kept]
  by_cases same : other = location
  · -- The earlier entries of the location have been taken away.
    subst same
    simp
  · simp [same, List.lookup_cons, beq_eq_false_iff_ne.mpr same]

/-- What holds of the location of an entry holds of one after a write to one of the locations. -/
theorem exists_entry_write {location : Location} {content old : Option (List UInt8)}
    (listed : (location, old) ∈ tree.entries) (holds : Location → Prop) :
    (∃ entry ∈ (tree.write location content).entries, holds entry.1) ↔
      ∃ entry ∈ tree.entries, holds entry.1 := by
  -- The location of the entry that is written has an entry before and after.
  constructor
  · rintro ⟨entry, member, held⟩
    rcases List.mem_append.mp member with kept | written
    · exact ⟨entry, (List.mem_filter.mp kept).1, held⟩
    · rw [List.mem_singleton.mp written] at held
      exact ⟨_, listed, held⟩
  · rintro ⟨entry, member, held⟩
    by_cases same : entry.1 = location
    · rw [same] at held
      exact ⟨(location, content), List.mem_append_right _ (List.mem_singleton_self _), held⟩
    · refine ⟨entry, List.mem_append_left _ ?_, held⟩
      exact List.mem_filter.mpr ⟨member, by simpa using same⟩

/-- A file that is rewritten stays a file, and all others are what they were. -/
theorem sameNodes_write {location : Location} {old : List UInt8}
    (found : tree.at? location = some (.file old)) (content : List UInt8) :
    tree.SameNodes (tree.write location (some content)) := by
  -- A location is a file by an entry of its own.
  have own : tree.entries.lookup location = some (some old) := by
    rw [at?] at found
    split at found
    · rename_i kept entry
      cases found
      exact entry
    · simp at found
    · split at found <;> simp at found
  have listed : (location, some old) ∈ tree.entries := by
    obtain ⟨front, rest, whole, -⟩ := List.lookup_eq_some_iff.mp own
    simp [whole]
  refine ⟨rfl, fun other => ?_, fun other way => ?_⟩
  · -- There are the same locations, and the one that is written is a file as before.
    have entries := @exists_entry_write tree location (some content) _ listed
      fun place => other.isPrefixOf place = true
    have within : ((tree.write location (some content)).entries.any
        fun entry => other.isPrefixOf entry.1) =
          tree.entries.any fun entry => other.isPrefixOf entry.1 := by
      rw [Bool.eq_iff_iff, List.any_eq_true, List.any_eq_true]
      exact entries
    rw [at?, at?, lookup_write, within]
    by_cases same : other = location
    · rw [if_pos same, same, own]
      rfl
    · rw [if_neg same]
      rfl
  · -- The same ways lead on, as there are the same entries.
    rw [mem_below_iff, mem_below_iff]
    exact and_congr_right fun _ => exists_entry_write listed fun place => other ++ way <+: place

end Nodes

end FileTree

namespace Registry

/-- A spelling leads to nothing but files that have been recorded. -/
inductive Settled (registry : Registry) (tree : FileTree) (spelling : String) : Prop
  /-- It leads to a file, whose path in one spelling has been recorded. -/
  | file {content : List UInt8}
    (found : tree.find? (Path.ofString spelling) = some (.file content))
    (recorded : (Path.ofString spelling).toString ∈ registry.recorded)
  /-- It leads to a directory, and every source below that has been recorded. -/
  | directory (found : tree.find? (Path.ofString spelling) = some .directory)
    (recorded : ∀ way ∈ tree.sources (Path.ofString spelling),
      ((Path.ofString spelling).append way).toString ∈ registry.recorded)

section Reloading

variable {tree other : FileTree} {registry : Registry} {spellings : List String}

/-- Nothing is still to be read when all files have been. -/
theorem pending_eq_nil {recorded : List String} {targets : List Target}
    (read : ∀ target ∈ targets, target.file ∈ recorded) : pending recorded targets = [] := by
  -- A file that is still to be read has not been recorded.
  refine List.eq_nil_iff_forall_not_mem.mpr fun target member => ?_
  obtain ⟨listed, fresh⟩ := mem_of_pending member
  exact fresh (read target listed)

/-- A load of files that have been recorded changes nothing. -/
theorem load_of_recorded (led : (reached tree spellings).2 = .ok ())
    (read : ∀ target ∈ (reached tree spellings).1, Target.file target ∈ registry.recorded) :
    (registry.load tree spellings).2.outcome = .ok () ∧
      (registry.load tree spellings).1 = registry := by
  -- With nothing left to read, nothing stands in the way and nothing is added.
  have nothing := pending_eq_nil read
  have ahead : registry.ahead tree (reached tree spellings).1 = [] := by
    rw [ahead, nothing]
    rfl
  have admits : registry.Admits tree (reached tree spellings).1 :=
    ⟨by simp [nothing], by simp [ahead], by simp [ahead]⟩
  refine ⟨load_eq_ok_iff.mpr ⟨admits, led⟩, ?_⟩
  rw [(load_eq tree spellings registry).1, (loadFiles_of_admits admits).1, ahead, holding_nil]

/-- After a load that succeeds, all files that it led to have been recorded. -/
theorem recorded_of_load (done : (registry.load tree spellings).2.outcome = .ok ()) :
    ∀ target ∈ (reached tree spellings).1,
      Target.file target ∈ (registry.load tree spellings).1.recorded := by
  -- A file had been recorded before, or it was still to be read and is held now.
  intro target listed
  obtain ⟨admits, -⟩ := load_eq_ok_iff.mp done
  rw [(load_eq tree spellings registry).1, (loadFiles_of_admits admits).1, recorded_holding,
    paths_ahead admits, List.mem_append]
  by_cases read : target.file ∈ registry.recorded
  · exact Or.inl read
  · obtain ⟨source, member, same⟩ := exists_pending listed read
    exact Or.inr (same ▸ List.mem_map_of_mem member)

/-- A spelling is settled when it leads to files, and all of them have been recorded. -/
theorem settled_iff {spelling : String} :
    registry.Settled tree spelling ↔ ∃ found, targets tree spelling = .ok found ∧
      ∀ target ∈ found, Target.file target ∈ registry.recorded := by
  -- A file leads to itself, and a directory to the sources below it.
  constructor
  · intro settled
    cases settled with
    | file found recorded =>
      refine ⟨[([], Path.ofString spelling)], by simp only [targets, found], ?_⟩
      exact List.forall_mem_singleton.mpr recorded
    | directory found recorded =>
      exact ⟨_, by simp only [targets, found]; rfl, List.forall_mem_map.mpr recorded⟩
  · -- What the spelling leads to tells which of the two is the case.
    rintro ⟨found, led, recorded⟩
    rw [targets] at led
    cases node : tree.find? (Path.ofString spelling) with
    | none => simp [node] at led
    | some leads =>
      rw [node] at led
      cases leads with
      | file content =>
        cases led
        exact .file node (recorded _ (List.mem_singleton_self _))
      | directory =>
        cases led
        exact .directory node fun way member => recorded _ (List.mem_map_of_mem member)

/-- Spellings are settled when all of them lead to files, and all of these have been recorded. -/
theorem settled_iff_reached :
    (∀ spelling ∈ spellings, registry.Settled tree spelling) ↔
      (reached tree spellings).2 = .ok () ∧
        ∀ target ∈ (reached tree spellings).1, Target.file target ∈ registry.recorded := by
  induction spellings with
  | nil => simp [reached]
  | cons spelling rest ih =>
    rw [List.forall_mem_cons, ih, settled_iff, reached]
    cases targets tree spelling with
    | error fault => simp
    | ok found =>
      -- The files of the first spelling come before those of the others.
      simp only [Except.ok.injEq, exists_eq_left', List.forall_mem_append]
      tauto

/-- A spelling leads to the same files in trees that have the same ones. -/
theorem targets_of_sameNodes (same : tree.SameNodes other) {spelling : String}
    {found : List Target} (led : targets tree spelling = .ok found) :
    ∃ again, targets other spelling = .ok again ∧ ∀ target ∈ again, target ∈ found := by
  -- The spelling leads to a file in both trees, or to a directory in both.
  have node := same.find?_eq (Path.ofString spelling)
  rw [targets] at led
  cases kept : tree.find? (Path.ofString spelling) with
  | none => simp [kept] at led
  | some leads =>
    rw [kept] at node led
    obtain ⟨now, also, kind⟩ := Option.map_eq_some_iff.mp node
    cases leads with
    | file content =>
      cases now with
      | directory => contradiction
      | file fresh =>
        cases led
        exact ⟨_, by simp only [targets, also], fun _ listed => listed⟩
    | directory =>
      cases now with
      | file fresh => contradiction
      | directory =>
        cases led
        refine ⟨_, by simp only [targets, also]; rfl, fun target listed => ?_⟩
        -- The sources below the directory are the same in both trees.
        obtain ⟨way, member, rfl⟩ := List.mem_map.mp listed
        exact List.mem_map_of_mem (same.mem_sources_iff.mp member)

/-- Spellings lead to the same files in trees that have the same ones. -/
theorem reached_of_sameNodes (same : tree.SameNodes other)
    (led : (reached tree spellings).2 = .ok ()) :
    (reached other spellings).2 = .ok () ∧
      ∀ target ∈ (reached other spellings).1, target ∈ (reached tree spellings).1 := by
  -- Spelling by spelling, no other files are reached.
  induction spellings with
  | nil => exact ⟨rfl, by simp [reached]⟩
  | cons spelling rest ih =>
    cases first : targets tree spelling with
    | error fault => simp [reached, first] at led
    | ok found =>
      simp only [reached, first] at led ⊢
      obtain ⟨again, also, kept⟩ := targets_of_sameNodes same first
      obtain ⟨ended, later⟩ := ih led
      simp only [also]
      refine ⟨ended, fun target listed => List.mem_append.mpr ?_⟩
      rcases List.mem_append.mp listed with here | there
      · exact Or.inl (kept target here)
      · exact Or.inr (later target there)

end Reloading

/-- A load of spellings that lead only to files that have been recorded succeeds and changes
nothing, in whatever order and however often they are given and whatever the files hold by then. So
a load that has succeeded, after which its spellings are of this kind, changes nothing when it is
made again, over the same files. -/
theorem settled_load_unchanged (registry : Registry) (tree : FileTree) (spellings : List String) :
    ((∀ spelling ∈ spellings, registry.Settled tree spelling) →
      (registry.load tree spellings).2.outcome = .ok () ∧
        (registry.load tree spellings).1 = registry) ∧
    ((registry.load tree spellings).2.outcome = .ok () →
      let after := (registry.load tree spellings).1
      (∀ spelling ∈ spellings, after.Settled tree spelling) ∧
        ∀ other, tree.SameNodes other →
          (after.load other spellings).2.outcome = .ok () ∧
            (after.load other spellings).1 = after) := by
  -- What is settled has been recorded, and what a load has led to is settled after it.
  constructor
  · intro settled
    obtain ⟨led, recorded⟩ := settled_iff_reached.mp settled
    exact load_of_recorded led recorded
  · intro done after
    obtain ⟨-, led⟩ := load_eq_ok_iff.mp done
    have recorded := recorded_of_load done
    refine ⟨settled_iff_reached.mpr ⟨led, recorded⟩, fun other same => ?_⟩
    obtain ⟨again, within⟩ := reached_of_sameNodes same led
    exact load_of_recorded again fun target listed => recorded target (within target listed)

/-- A source that has been rewritten is passed over by all its spellings and by its directory, and
by the load that recorded it when that is made again. -/
theorem rewritten_source_passed_over :
    let after := ((empty .utf8).load oneSource ["a.sql"]).1
    let spellings := ["./a.sql", ".", "a.sql"]
    after.keys = ["a"] ∧ (∀ spelling ∈ spellings, after.Settled rewrittenSource spelling) ∧
      (after.load rewrittenSource spellings).2.outcome = .ok () ∧
      (after.load rewrittenSource spellings).1 = after ∧
      ((empty .utf8).load oneSource ["a.sql"]).2.outcome = .ok () ∧
      oneSource.SameNodes rewrittenSource ∧
      (after.load rewrittenSource ["a.sql"]).2.outcome = .ok () ∧
      (after.load rewrittenSource ["a.sql"]).1 = after := by
  intro after spellings
  have led : reached oneSource ["a.sql"] = ([([], ⟨"", ["a.sql"]⟩)], .ok ()) := by
    with_unfolding_all rfl
  have found := @opened_smallestSource oneSource ⟨"", ["a.sql"]⟩ [] (by with_unfolding_all rfl)
  obtain ⟨held, done⟩ := load_of_opened led (by decide) found (by decide) (by decide)
  have left : after = _ := held
  have recorded : after.recorded = ["a.sql"] := by
    rw [left]
    rfl
  -- Each spelling leads to the rewritten file or to the directory that holds nothing else.
  have settled : ∀ spelling ∈ spellings, after.Settled rewrittenSource spelling := by
    have file : Path.ofString "a.sql" = ⟨"", ["a.sql"]⟩ := by decide +kernel
    have dotted : Path.ofString "./a.sql" = ⟨"", ["a.sql"]⟩ := by decide +kernel
    have top : Path.ofString "." = ⟨"", []⟩ := by decide +kernel
    have node : rewrittenSource.find? ⟨"", ["a.sql"]⟩ =
        some (.file [45, 45, 110, 97, 109, 101, 58, 98, 10, 89]) := by with_unfolding_all rfl
    have directory : rewrittenSource.find? ⟨"", []⟩ = some .directory := by with_unfolding_all rfl
    have sources : rewrittenSource.sources ⟨"", []⟩ = [["a.sql"]] := by with_unfolding_all rfl
    have own : (⟨"", ["a.sql"]⟩ : Path).toString ∈ after.recorded := by
      rw [recorded]
      decide +kernel
    simp only [spellings, List.forall_mem_cons]
    refine ⟨.file (by rw [dotted]; exact node) (by rw [dotted]; exact own),
      .directory (by rw [top]; exact directory) ?_,
      .file (by rw [file]; exact node) (by rw [file]; exact own), by simp⟩
    rw [top, sources]
    exact List.forall_mem_singleton.mpr own
  have same : oneSource.SameNodes rewrittenSource :=
    FileTree.sameNodes_write (by with_unfolding_all rfl) _
  -- The general theorem is applied to the spellings, and to the repeated load of the file.
  obtain ⟨again, unchanged⟩ := (settled_load_unchanged after rewrittenSource spellings).1 settled
  obtain ⟨-, repeated⟩ := (settled_load_unchanged (empty .utf8) oneSource ["a.sql"]).2 done
  obtain ⟨twice, kept⟩ := repeated rewrittenSource same
  refine ⟨?_, settled, again, unchanged, done, same, twice, kept⟩
  rw [left]
  rfl

end Registry

end SqlTemplate
