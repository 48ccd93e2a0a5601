import SqlTemplate.Catalog.Basic
import SqlTemplate.Proofs.Registry.Calls

/-! A template is fetched by the normal form of its name, so it is lost when it is registered under
another form and the normal one leads elsewhere. -/

namespace SqlTemplate.Registry

section Normal

/-- A text in normal form: the word characters and dots of it, and an underscore for each hyphen. -/
def normalText (text : Text) : Text :=
  (text.filter fun c => isWordChar c || c = '-' || c = '.').map fun c => if c = '-' then '_' else c

/-- A text is brought into normal form piece by piece. -/
theorem intercalate_normalName (text : Text) :
    ['.'].intercalate ((Text.pieces '.' text).map Statement.normalName) = normalText text := by
  induction text with
  | nil => rfl
  | cons c rest ih =>
    have some := @Text.pieces_ne_nil '.' rest
    rw [Text.pieces]
    cases found : Text.pieces '.' rest with
    | nil => contradiction
    | cons piece others =>
      rw [found, List.map_cons] at ih
      by_cases dot : c = '.'
      · -- A dot stays between the pieces.
        subst dot
        rw [if_pos rfl, List.map_cons, List.map_cons, List.intercalate_cons_cons, ih]
        rfl
      · -- Another character belongs to the first piece, if it is kept at all.
        rw [if_neg dot, List.map_cons]
        have first : Statement.normalName (c :: piece) =
            Statement.normalName [c] ++ Statement.normalName piece := by
          rw [Statement.normalName, ← List.singleton_append, List.filter_append, List.map_append]
          rfl
        have single : normalText (c :: rest) = Statement.normalName [c] ++ normalText rest := by
          have alone : normalText [c] = Statement.normalName [c] :=
            congrArg (List.map _) (List.filter_congr fun d member => by
              obtain rfl := List.mem_singleton.mp member
              simp [dot])
          rw [← alone, normalText, ← List.singleton_append, List.filter_append, List.map_append]
          rfl
        rw [first, single, ← ih]
        -- The first piece is followed by nothing, or by a dot and the other pieces.
        cases others with
        | nil => simp
        | cons next others => simp [List.intercalate_cons_cons]

/-- The normal form of a name. -/
theorem toList_normalPath (name : String) : (normalPath name).toList = normalText name.toList := by
  -- The pieces between dots are put into normal form one by one, and the dots stay.
  rw [normalPath, String.toList_intercalate, List.map_map, ← intercalate_normalName]
  simp [Function.comp_def]

/-- A name is in normal form when all its characters are word characters or dots. -/
theorem normalPath_eq_self_iff {name : String} :
    normalPath name = name ↔ ∀ c ∈ name.toList, isWordChar c = true ∨ c = '.' := by
  rw [← String.toList_inj, toList_normalPath]
  constructor
  · -- Every character of the name is one of its normal form.
    intro same c member
    rw [← same, normalText] at member
    obtain ⟨d, kept, rfl⟩ := List.mem_map.mp member
    have inside := (List.mem_filter.mp kept).2
    by_cases hyphen : d = '-'
    · -- A hyphen has become an underscore.
      rw [if_pos hyphen]
      exact Or.inl (by decide)
    · rw [if_neg hyphen]
      simpa [hyphen] using inside
  · -- All characters are kept, and none of them is a hyphen.
    intro normal
    have kept : name.toList.filter (fun c => isWordChar c || c = '-' || c = '.') = name.toList :=
      List.filter_eq_self.mpr fun c member => by
        rcases normal c member with word | dot
        · simp [word]
        · simp [dot]
    rw [normalText, kept]
    refine (List.map_congr_left fun c member => ?_).trans (List.map_id _)
    have other : c ≠ '-' := by
      rintro rfl
      rcases normal _ member with word | dot
      · contradiction
      · contradiction
    simp [other]

/-- A name in a scope is in normal form when both are. -/
theorem normalPath_scopedName {scope : List String} {name : String}
    (normal : ∀ part ∈ scope, normalPath part = part)
    (identifier : Statement.isIdentifier name.toList = true) :
    normalPath (scopedName scope name) = scopedName scope name := by
  have word := Statement.isWordChar_of_isIdentifier identifier
  rw [normalPath_eq_self_iff, scopedName]
  split
  · exact fun c member => Or.inl (word c member)
  · intro c member
    simp only [String.toList_append, List.mem_append, String.toList_intercalate] at member
    rcases member with (inScope | dot) | inName
    · -- A character of the scope is one of its parts or a dot between them.
      rcases Text.mem_intercalate inScope with dot | ⟨part, listed, inPart⟩
      · exact Or.inr dot
      · obtain ⟨whole, among, rfl⟩ := List.mem_map.mp listed
        exact normalPath_eq_self_iff.mp (normal whole among) c inPart
    · exact Or.inr (by simpa using dot)
    · exact Or.inl (word c inName)

end Normal

/-- The template that is registered under a name. -/
def sql? (registry : Registry) (name : String) : Option Text :=
  (registry.statements.lookup name).map Statement.sql

/-- Every listed name gives the template that is registered under it. -/
def Fetches (registry : Registry) : Prop :=
  ∀ name ∈ registry.names, ∃ sql, registry.sql? name = some sql ∧ registry.template name = .ok sql

/-- The listed names with the templates that are registered under them. -/
def templates (registry : Registry) : List (String × Text) :=
  registry.names.map fun name => (name, (registry.sql? name).getD [])

/-- The names that a call registers are in normal form, whatever the files hold: a name that is
added is, and so are the names of the directories. -/
inductive Call.Normal : Call → Prop
  /-- A load goes to directories with such names only. -/
  | load {tree : FileTree} {spellings : List String}
    (led : ∀ target ∈ (reached tree spellings).1, ∀ part ∈ target.1, normalPath part = part) :
    Normal (.load tree spellings)
  /-- An addition is given such a name. -/
  | add {name : String} {sql : Text} (given : normalPath name = name) : Normal (.add name sql)
  /-- Nothing is registered. -/
  | clear : Normal .clear

section Lists

variable {registry : Registry} {name : String}

/-- The listed names are those of the statements. -/
theorem mem_names_iff : name ∈ registry.names ↔ name ∈ registry.keys :=
  -- Listing sorts the keys and neither adds nor drops one.
  List.mem_mergeSort

/-- A listed name has a template. -/
theorem exists_sql_iff : (∃ sql, registry.sql? name = some sql) ↔ name ∈ registry.names := by
  rw [mem_names_iff, ← not_iff_not, ← has_eq_false_iff, has, sql?]
  cases registry.statements.lookup name <;> simp

/-- A template is fetched when the normal form of the name has it. -/
theorem template_eq_ok_iff {sql : Text} :
    registry.template name = .ok sql ↔ registry.sql? (normalPath name) = some sql := by
  -- A template is looked up under the normal form, and only the failure is worded otherwise.
  rw [template, sql?]
  cases registry.statements.lookup (normalPath name) <;> simp

/-- Every listed name gives its template just when its normal form has the same. -/
theorem fetches_iff :
    registry.Fetches ↔
      ∀ name ∈ registry.names, registry.sql? (normalPath name) = registry.sql? name := by
  constructor
  · -- What is fetched is the template of the normal form.
    intro fetches name listed
    obtain ⟨sql, own, fetched⟩ := fetches name listed
    rw [own, template_eq_ok_iff.mp fetched]
  · intro same name listed
    obtain ⟨sql, own⟩ := exists_sql_iff.mpr listed
    exact ⟨sql, own, template_eq_ok_iff.mpr (by rw [same name listed, own])⟩

/-- A name that a call in normal form may register is in normal form. -/
theorem Call.Normal.normalPath_eq {call : Call} (normal : call.Normal) (names : call.Names name) :
    normalPath name = name := by
  -- A name comes from a scope in normal form and an identifier, or it was given in normal form.
  cases names with
  | load led identifier =>
    cases normal with
    | load directories => exact normalPath_scopedName (directories _ led) identifier
  | add =>
    cases normal with
    | add given => exact given

end Lists

/-- A catalog takes over the templates of a registry as they are registered, if every listed name
gives its template. -/
theorem addRegistry_of_fetches {registry : Registry} (fetches : registry.Fetches)
    (catalog : Catalog) :
    catalog.addRegistry registry =
      ((catalog.addAll registry.templates).1,
        (catalog.addAll registry.templates).2.mapError .catalog) := by
  rw [Catalog.addRegistry, templates]
  -- The names are gone through one by one, and each gives its own template.
  have all : ∀ name ∈ registry.names, ∃ sql, registry.sql? name = some sql ∧
    registry.template name = .ok sql := fetches
  generalize registry.names = names at all
  induction names generalizing catalog with
  | nil => rfl
  | cons name rest ih =>
    obtain ⟨⟨sql, own, fetched⟩, others⟩ := List.forall_mem_cons.mp all
    rw [Catalog.addRegistered, fetched, List.map_cons, Catalog.addAll, own]
    simp only [Option.getD_some]
    cases catalog.add name sql with
    | mk grown outcome =>
      cases outcome with
      | error fault => rfl
      | ok query => exact ih grown others

/-- After any calls every listed name gives the template that is registered under it just when its
normal form has the same one, and then a catalog takes the templates over as they are registered. It
is so when the calls have added normal names and loaded directories with normal names only. -/
theorem performAll_fetches_iff (encoding : Encoding) (calls : List Call) :
    let registry := (empty encoding).performAll calls
    (registry.Fetches ↔
      ∀ name ∈ registry.names, registry.sql? (normalPath name) = registry.sql? name) ∧
    (registry.Fetches → ∀ catalog : Catalog, catalog.addRegistry registry =
      ((catalog.addAll registry.templates).1,
        (catalog.addAll registry.templates).2.mapError .catalog)) ∧
    ((∀ call ∈ calls, call.Normal) → registry.Fetches) := by
  refine ⟨fetches_iff, addRegistry_of_fetches, fun normal => fetches_iff.mpr ?_⟩
  intro name listed
  -- Every listed name comes from a call, and that has registered normal names only.
  obtain ⟨call, among, names⟩ := names_of_performAll encoding calls name (mem_names_iff.mp listed)
  rw [(normal call among).normalPath_eq names]

/-- The templates of a file in a directory and of an addition are fetched by their names. -/
theorem plain_names_fetched :
    let registry := (empty .utf8).performAll
      [.load ⟨[], [(["reports", "a.sql"], some smallestSource)]⟩ ["."], .add "by_id" ['Y']]
    registry.Fetches ∧ ∀ name ∈ ["reports.a", "by_id"], name ∈ registry.names := by
  -- The file is in one directory, whose name is in normal form, as the added name is.
  have led : reached ⟨[], [(["reports", "a.sql"], some smallestSource)]⟩ ["."] =
      ([(["reports"], ⟨"", ["reports", "a.sql"]⟩)], .ok ()) := by with_unfolding_all rfl
  refine ⟨(performAll_fetches_iff .utf8 _).2.2 ?_, ?_⟩
  · refine List.forall_mem_cons.mpr ⟨.load ?_, List.forall_mem_singleton.mpr (.add ?_)⟩
    · rw [led]
      intro target among part inside
      obtain rfl := List.mem_singleton.mp among
      obtain rfl := List.mem_singleton.mp inside
      decide +kernel
    · decide +kernel
  · have found := @opened_smallestSource ⟨[], [(["reports", "a.sql"], some smallestSource)]⟩
      ⟨"", ["reports", "a.sql"]⟩ ["reports"] (by with_unfolding_all rfl)
    have loaded := (load_of_opened led (by decide) found (by decide) (by decide)).1
    -- The load comes first and the addition after it, so both names are listed.
    have called : (empty .utf8).perform
        (.load ⟨[], [(["reports", "a.sql"], some smallestSource)]⟩ ["."]) = _ := loaded
    intro name listed
    rw [mem_names_iff, performAll, List.foldl_cons, called, List.foldl_cons, List.foldl_nil,
      perform_add_of_new (by decide)]
    exact listed

/-- A registry with the statement of a file in a directory with a hyphen in its name. -/
def hyphenatedDirectory : Registry :=
  (empty .utf8).performAll [.load ⟨[], [(["my-reports", "a.sql"], some smallestSource)]⟩ ["."]]

/-- A registry with two names that differ in a hyphen. -/
def hyphenatedName : Registry :=
  (empty .utf8).performAll [.add "a-b" ['X'], .add "a_b" ['Y']]

/-- A template in a directory with a hyphen in its name is listed and lost, and one that is added
under a name with a hyphen gives way to another one, so not every registry gives its templates. -/
theorem hyphenated_names_lost :
    (hyphenatedDirectory.names = ["my-reports.a"] ∧
      ∃ fault, hyphenatedDirectory.template "my-reports.a" = .error fault) ∧
    (hyphenatedName.sql? "a-b" = some ['X'] ∧ hyphenatedName.template "a-b" = .ok ['Y']) ∧
    ¬ ∀ encoding calls, ((empty encoding).performAll calls).Fetches := by
  -- The normal forms of the names are other names, of which only one is registered too.
  have name : normalPath "a-b" = "a_b" := by decide +kernel
  have nested : normalPath "my-reports.a" = "my_reports.a" := by decide +kernel
  have additions : hyphenatedName =
      ⟨.utf8, [("a-b", ⟨"a-b", 0, ['X']⟩), ("a_b", ⟨"a_b", 0, ['Y']⟩)], [],
        [("a-b", addedDirectly), ("a_b", addedDirectly)]⟩ := by
    with_unfolding_all rfl
  have swapped : hyphenatedName.sql? "a-b" = some ['X'] ∧
      hyphenatedName.template "a-b" = .ok ['Y'] := by
    rw [template_eq_ok_iff, name, additions]
    exact ⟨rfl, rfl⟩
  -- The directory has one source, whose name is registered with the hyphen of the directory.
  have directory : hyphenatedDirectory = (empty .utf8).holding
      [⟨["my-reports"], ⟨"--name:a\nX".toList, "my-reports/a.sql"⟩, [⟨"a", 0, ['X']⟩]⟩] := by
    have led : reached ⟨[], [(["my-reports", "a.sql"], some smallestSource)]⟩ ["."] =
        ([(["my-reports"], ⟨"", ["my-reports", "a.sql"]⟩)], .ok ()) := by with_unfolding_all rfl
    have found := @opened_smallestSource ⟨[], [(["my-reports", "a.sql"], some smallestSource)]⟩
      ⟨"", ["my-reports", "a.sql"]⟩ ["my-reports"] (by with_unfolding_all rfl)
    exact (load_of_opened led (by decide) found (by decide) (by decide)).1
  refine ⟨⟨?_, ?_⟩, swapped, fun fetches => ?_⟩
  · rw [directory]
    with_unfolding_all rfl
  · rw [directory, template, nested]
    exact ⟨_, rfl⟩
  · -- The template that is fetched is not the one that is registered under the name.
    obtain ⟨own, fetched⟩ := swapped
    have listed := exists_sql_iff.mp ⟨_, own⟩
    obtain ⟨sql, same, given⟩ := fetches .utf8 [.add "a-b" ['X'], .add "a_b" ['Y']] "a-b" listed
    have one : sql = ['X'] := Option.some.inj (same.symm.trans own)
    have two : sql = ['Y'] := Except.ok.inj (given.symm.trans fetched)
    rw [one] at two
    contradiction

end SqlTemplate.Registry
