import SqlTemplate.Proofs.Registry.Scopes

/-! A loaded file is recorded under the normal spelling of its path, and asked for by a spelling as
it stands, so only the normal one of its spellings finds it. -/

namespace SqlTemplate

namespace Path

/-- A path as a spelling gives it. -/
structure Normal (path : Path) : Prop where
  /-- The root is no slash, one or two. -/
  root : path.root = "" ∨ path.root = "/" ∨ path.root = "//"
  /-- No name on the way is empty or a single dot. -/
  parts : ∀ part ∈ path.parts, part ≠ "" ∧ part ≠ "."
  /-- No name on the way has a slash in it. -/
  slashless : Slashless path.parts

/-- The names that a text gives: its pieces between slashes, but for the empty ones and single
dots. -/
def namesOf (text : Text) : List String :=
  ((Text.pieces '/' text).map String.ofList).filter fun part => part ≠ "" && part ≠ "."

/-- A spelling gives its root and its names. -/
theorem ofString_eq (spelling : String) :
    ofString spelling = ⟨rootOf spelling.toList, namesOf spelling.toList⟩ :=
  rfl

/-- The path of a spelling is normal. -/
theorem normal_ofString (spelling : String) : (ofString spelling).Normal where
  -- The root is one of three, and the parts are what is kept of the pieces between slashes.
  root := by
    rw [ofString_eq]
    simp only [rootOf]
    split <;> simp
  parts := by
    intro part member
    obtain ⟨-, kept⟩ := List.mem_filter.mp member
    simpa using kept
  slashless := slashless_ofString spelling

/-- A slash at the beginning gives no name. -/
theorem namesOf_slash (text : Text) : namesOf ('/' :: text) = namesOf text := by
  -- What comes before the slash is an empty piece.
  rw [namesOf, Text.pieces, if_pos rfl, List.map_cons, List.filter_cons_of_neg (by decide)]
  rfl

/-- Names are given by the text that they make with slashes between them. -/
theorem namesOf_intercalate {parts : List String} (solid : ∀ part ∈ parts, part ≠ "" ∧ part ≠ ".")
    (slashless : Slashless parts) : namesOf ("/".intercalate parts).toList = parts := by
  cases parts with
  | nil => rfl
  | cons part others =>
    have cut : Text.pieces '/' ("/".intercalate (part :: others)).toList =
        (part :: others).map String.toList := by
      rw [String.toList_intercalate]
      exact Text.pieces_intercalate (by simp) (List.forall_mem_map.mpr slashless)
    -- The pieces are the names again, and none of them is passed over.
    rw [namesOf, cut, List.map_map, List.filter_eq_self.mpr]
    · simp [Function.comp_def]
    · intro name member
      obtain ⟨same, listed, rfl⟩ := List.mem_map.mp member
      simpa using solid _ listed

/-- Names with slashes between them do not begin with a slash. -/
theorem head?_intercalate {parts : List String} (solid : ∀ part ∈ parts, part ≠ "" ∧ part ≠ ".")
    (slashless : Slashless parts) : ("/".intercalate parts).toList.head? ≠ some '/' := by
  cases parts with
  | nil => nofun
  | cons part others =>
    rw [String.toList_intercalate]
    obtain ⟨rest, whole, -⟩ :=
      @Text.intercalate_cons '/' part.toList (others.map String.toList)
    have text : "/".toList.intercalate ((part :: others).map String.toList) =
        part.toList ++ rest := whole
    rw [text]
    -- The first name has a first character, which is no slash.
    cases first : part.toList with
    | nil => exact absurd (String.toList_inj.mp first) (solid part (List.mem_cons_self ..)).1
    | cons c more =>
      intro slash
      obtain rfl : c = '/' := Option.some.inj slash
      exact slashless part (List.mem_cons_self ..) (first ▸ List.mem_cons_self ..)

/-- The root of a text is the one that was put before it, if it does not begin with a slash. -/
theorem rootOf_append {root : String} (given : root = "" ∨ root = "/" ∨ root = "//") {text : Text}
    (bare : text.head? ≠ some '/') : rootOf (root.toList ++ text) = root := by
  -- The text does not go on with the slashes of the root.
  cases text with
  | nil => rcases given with rfl | rfl | rfl <;> rfl
  | cons c rest =>
    have other : c ≠ '/' := fun same => bare (congrArg some same)
    rcases given with rfl | rfl | rfl <;> simp [rootOf, other]

/-- A normal path is the path of its own spelling. -/
theorem Normal.ofString_toString {path : Path} (normal : path.Normal) :
    ofString path.toString = path := by
  obtain ⟨root, parts⟩ := path
  obtain ⟨given, solid, slashless⟩ := normal
  rw [toString]
  split
  · -- The empty path is spelled as a dot, which gives neither a root nor a name.
    rename_i empty
    simp only [Bool.and_eq_true, String.isEmpty_iff, List.isEmpty_iff] at empty
    obtain ⟨rfl, rfl⟩ := empty
    decide +kernel
  · have names : namesOf (root.toList ++ ("/".intercalate parts).toList) = parts := by
      -- The root is made of slashes only.
      have own := namesOf_intercalate solid slashless
      rcases given with rfl | rfl | rfl
      · exact own
      · exact (namesOf_slash _).trans own
      · exact (namesOf_slash _).trans ((namesOf_slash _).trans own)
    rw [ofString_eq, String.toList_append, names,
      rootOf_append given (head?_intercalate solid slashless)]

end Path

/-- The spelling of a spelling's path, without repeated slashes and lone dots. -/
def normalSpelling (spelling : String) : String :=
  (Path.ofString spelling).toString

/-- A spelling of a path that is normal stays as it is. -/
theorem normalSpelling_idem (spelling : String) :
    normalSpelling (normalSpelling spelling) = normalSpelling spelling :=
  -- The path of a spelling is normal, and a normal path is read back from its own spelling.
  congrArg Path.toString (Path.normal_ofString spelling).ofString_toString

namespace Registry

/-- Every file is recorded under its own path. -/
def Keyed (registry : Registry) : Prop :=
  ∀ entry ∈ registry.files, entry.2.path = entry.1

/-- After any calls every file is recorded under its own path. -/
theorem keyed_performAll (encoding : Encoding) (calls : List Call) :
    ((empty encoding).performAll calls).Keyed := by
  refine performAll_preserves encoding calls (fun _ => nofun) ?_ ?_
  · -- A file is recorded under the path that it has.
    intro between file _ keyed
    exact List.forall_mem_append.mpr ⟨keyed, List.forall_mem_singleton.mpr rfl⟩
  · -- Registering a statement records no file.
    intro between name statement origin _ _ _ keyed
    exact keyed

/-- A file that is found has the path that it was asked for. -/
theorem Keyed.path_eq {registry : Registry} (keyed : registry.Keyed) {path : String}
    {file : SourceFile} (found : registry.file? path = some file) : file.path = path :=
  keyed _ (mem_of_lookup found)

/-- A file that was new to a load is recorded with the text that the load read. -/
theorem content_of_load {tree : FileTree} {registry : Registry} {spelling : String}
    {content : List UInt8} {file : SourceFile} (sound : registry.Sound)
    (found : tree.find? (Path.ofString spelling) = some (.file content))
    (done : (registry.load tree [spelling]).2.outcome = .ok ())
    (fresh : normalSpelling spelling ∉ registry.recorded)
    (recorded : (registry.load tree [spelling]).1.file? (normalSpelling spelling) = some file) :
    registry.read tree (Path.ofString spelling) = .ok file.content := by
  have led : reached tree [spelling] = ([([], Path.ofString spelling)], .ok ()) := by
    simp [reached, targets, found]
  have admits := (load_eq_ok_iff.mp done).1
  rw [led] at admits
  -- The file is the only one that the load reads, and what was read of it is held.
  obtain ⟨source, batch, among, -, opens, member⟩ :=
    exists_ahead admits (List.mem_singleton_self _) fresh
  obtain rfl := List.mem_singleton.mp among
  obtain ⟨-, path, text, -⟩ := opened_eq_ok_iff.mp opens
  have held := (holds_holding (sound.holding_ahead admits) member).file
  rw [(load_eq tree [spelling] registry).1, led, (loadFiles_of_admits admits).1] at recorded
  rw [path] at held
  obtain rfl : batch.file = file := Option.some.inj (held.symm.trans recorded)
  exact text

/-- After a load of a spelling that leads to a file, whatever else is loaded or added until all is
forgotten, the file is found under the normal spelling of its path, with the text that the load read
if the file was new to it. So it is found under the spelling that was loaded if and only if that is
normal, as the spelling of a path always is. -/
theorem loaded_file_found_iff (encoding : Encoding) (calls : List Call) (tree : FileTree)
    (spelling : String) (content : List UInt8)
    (found : tree.find? (Path.ofString spelling) = some (.file content))
    (done : (((empty encoding).performAll calls).load tree [spelling]).2.outcome = .ok ())
    (later : List Call) (remember : ∀ call ∈ later, call ≠ .clear) :
    let before := (empty encoding).performAll calls
    let after := (before.load tree [spelling]).1.performAll later
    (∃ file, file.path = normalSpelling spelling ∧
      after.file? (normalSpelling spelling) = some file ∧
      (normalSpelling spelling ∉ before.recorded →
        before.read tree (Path.ofString spelling) = .ok file.content) ∧
      (normalSpelling spelling ∈ before.recorded →
        before.file? (normalSpelling spelling) = some file) ∧
      (after.file? spelling = some file ↔ normalSpelling spelling = spelling)) ∧
    normalSpelling (normalSpelling spelling) = normalSpelling spelling := by
  intro before after
  refine ⟨?_, normalSpelling_idem spelling⟩
  have sound := sound_performAll encoding calls
  have recorded : normalSpelling spelling ∈ (before.load tree [spelling]).1.recorded := by
    refine recorded_of_load done ([], Path.ofString spelling) ?_
    simp [reached, targets, found]
  -- What the load has recorded is retained by the later calls.
  obtain ⟨file, own⟩ : ∃ file, (before.load tree [spelling]).1.file? (normalSpelling spelling) =
      some file := exists_lookup_iff.mpr recorded
  have kept : after.file? (normalSpelling spelling) = some file :=
    (extends_performAll remember).retains.file _ file own
  have keyed : after.Keyed := by
    have whole := keyed_performAll encoding (calls ++ .load tree [spelling] :: later)
    rwa [performAll_append] at whole
  refine ⟨file, keyed.path_eq kept, kept, fun fresh => content_of_load sound found done fresh own,
    fun read => ?_, ?_⟩
  · -- A file that had been recorded is passed over.
    obtain ⟨old, earlier⟩ : ∃ old, before.file? (normalSpelling spelling) = some old :=
      exists_lookup_iff.mpr read
    have same := (extends_load tree [spelling] before).retains.file _ old earlier
    obtain rfl : file = old := Option.some.inj (own.symm.trans same)
    exact earlier
  · -- The file has one path, so it is found under no other spelling.
    constructor
    · intro asked
      exact (keyed.path_eq kept).symm.trans (keyed.path_eq asked)
    · intro normal
      rwa [normal] at kept

/-- A file is loaded by its normal spelling and by one with a dot in front. -/
theorem load_spellings :
    Path.ofString "a.sql" = ⟨"", ["a.sql"]⟩ ∧ Path.ofString "./a.sql" = ⟨"", ["a.sql"]⟩ ∧
      oneSource.find? ⟨"", ["a.sql"]⟩ = some (.file smallestSource) ∧
      ∀ spelling ∈ ["a.sql", "./a.sql"],
        ((empty .utf8).load oneSource [spelling]).1 = (empty .utf8).holding [oneBatch] ∧
          ((empty .utf8).load oneSource [spelling]).2.outcome = .ok () := by
  have node : oneSource.find? ⟨"", ["a.sql"]⟩ = some (.file smallestSource) := by
    with_unfolding_all rfl
  refine ⟨by decide +kernel, by decide +kernel, node, fun spelling listed => ?_⟩
  -- Both spellings lead to the same file.
  have led : reached oneSource [spelling] = ([([], ⟨"", ["a.sql"]⟩)], .ok ()) := by
    rcases List.mem_pair.mp listed with rfl | rfl <;> with_unfolding_all rfl
  exact load_of_opened led (by decide) (opened_smallestSource node) (by decide) (by decide)

/-- A file that was loaded by its normal spelling is found by it after something else is added. -/
theorem normal_spelling_found :
    let later := [Call.add "b" ['Y']]
    let after := ((empty .utf8).load oneSource ["a.sql"]).1.performAll later
    oneSource.find? (Path.ofString "a.sql") = some (.file smallestSource) ∧
      ((empty .utf8).load oneSource ["a.sql"]).2.outcome = .ok () ∧
      (∀ call ∈ later, call ≠ .clear) ∧ normalSpelling "a.sql" = "a.sql" ∧
      ∃ file, file.path = "a.sql" ∧ after.file? "a.sql" = some file ∧
        (empty .utf8).read oneSource (Path.ofString "a.sql") = .ok file.content := by
  -- The spelling is its own normal form, so the general theorem finds the file under it.
  intro later after
  obtain ⟨path, -, node, loads⟩ := load_spellings
  have found : oneSource.find? (Path.ofString "a.sql") = some (.file smallestSource) := by
    rw [path]
    exact node
  have done := (loads "a.sql" (by simp)).2
  have remember : ∀ call ∈ later, call ≠ .clear := by simp [later]
  have normal : normalSpelling "a.sql" = "a.sql" := by decide +kernel
  obtain ⟨⟨file, own, kept, text, -, -⟩, -⟩ := loaded_file_found_iff .utf8 [] oneSource "a.sql"
    smallestSource found done later remember
  rw [normal] at own kept text
  exact ⟨found, done, remember, normal, file, own, kept, text List.not_mem_nil⟩

/-- A file that was loaded by a spelling with a dot in front is not found by that spelling. -/
theorem dotted_spelling_not_found :
    let after := ((empty .utf8).load oneSource ["./a.sql"]).1
    oneSource.find? (Path.ofString "./a.sql") = some (.file smallestSource) ∧
      ((empty .utf8).load oneSource ["./a.sql"]).2.outcome = .ok () ∧
      after.file? "./a.sql" = none ∧
      after.file? "a.sql" = some ⟨"--name:a\nX".toList, "a.sql"⟩ := by
  -- The file is recorded under its path, which has no dot in front.
  intro after
  obtain ⟨-, path, node, loads⟩ := load_spellings
  obtain ⟨held, done⟩ := loads "./a.sql" (by simp)
  have left : after = (empty .utf8).holding [oneBatch] := held
  refine ⟨by rw [path]; exact node, done, ?_, ?_⟩
  · rw [left]
    rfl
  · rw [left]
    rfl

end Registry

end SqlTemplate
