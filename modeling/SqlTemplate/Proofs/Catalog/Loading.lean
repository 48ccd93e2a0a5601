import Mathlib.Data.List.Sort
import Mathlib.Data.String.Basic
import SqlTemplate.Proofs.Catalog.Lookup
import SqlTemplate.Proofs.Registry.Fetching

/-! A catalog that is loaded from one file has the templates of its text, each under its name. -/

namespace SqlTemplate

section Sorting

variable {names others : List String}

/-- Names that are the same but for their order are the same when they are sorted. -/
theorem mergeSort_eq_of_perm (same : names.Perm others) :
    (names.mergeSort fun a b => decide (a ≤ b)) = others.mergeSort fun a b => decide (a ≤ b) := by
  -- Both are sorted and have the same names, and there is one such list only.
  have first := List.mergeSort_perm names fun a b => decide (a ≤ b)
  have second := List.mergeSort_perm others fun a b => decide (a ≤ b)
  exact ((first.trans same).trans second.symm).eq_of_pairwise'
    (List.pairwise_mergeSort' (· ≤ ·) names) (List.pairwise_mergeSort' (· ≤ ·) others)

/-- Names that differ stay as they are when each is taken once. -/
theorem eraseDups_of_nodup (distinct : names.Nodup) : names.eraseDups = names := by
  -- The first name is not among the others, so removing it from them removes nothing.
  induction names with
  | nil => rfl
  | cons name rest ih =>
    obtain ⟨fresh, others⟩ := List.nodup_cons.mp distinct
    have kept : rest.filter (fun other => !other == name) = rest :=
      List.filter_eq_self.mpr fun other member => by
        have apart : other ≠ name := fun same => fresh (same ▸ member)
        simp [apart]
    rw [List.eraseDups_cons, kept, ih others]

end Sorting

namespace Registry

/-- The listed templates are those of the statements, but for their order. -/
theorem templates_perm {registry : Registry} (distinct : registry.keys.Nodup) :
    registry.templates.Perm
      (registry.statements.map fun entry => (entry.1, entry.2.sql)) := by
  have sorted : registry.names.Perm registry.keys := List.mergeSort_perm _ _
  have same : registry.keys.map (fun name => (name, (registry.sql? name).getD [])) =
      registry.statements.map fun entry => (entry.1, entry.2.sql) := by
    rw [keys, List.map_map]
    refine List.map_congr_left fun entry listed => ?_
    -- The statement of an entry is the one that its name leads to.
    have found : registry.statements.lookup entry.1 = some entry.2 :=
      lookup_of_mem distinct listed
    simp [sql?, found]
  rw [← same]
  exact sorted.map _

section OneFile

variable {tree : FileTree} {spelling : String} {bytes : List UInt8} {text : Text}
  {given : List NamedTemplate}

/-- A file is read as its decoded text with newlines of one kind. -/
theorem read_file (found : tree.find? (Path.ofString spelling) = some (.file bytes))
    (decoded : Encoding.utf8.decode bytes = .ok text) :
    (empty .utf8).read tree (Path.ofString spelling) = .ok text.unifyNewlines := by
  -- The loader that starts with nothing has the encoding that the bytes are decoded with.
  have content : (empty .utf8).encoding.decode bytes = .ok text := decoded
  rw [read, found]
  simp only [content]

/-- The spelling of a file leads to that file at the top level. -/
theorem reached_file (found : tree.find? (Path.ofString spelling) = some (.file bytes)) :
    reached tree [spelling] = ([([], Path.ofString spelling)], .ok ()) := by
  -- The file is all that its spelling leads to.
  simp [reached, targets, found]

/-- What is held of a file with templates gives these when they are fetched. -/
theorem load_file (found : tree.find? (Path.ofString spelling) = some (.file bytes))
    (decoded : Encoding.utf8.decode bytes = .ok text)
    (read : Statement.templates text.unifyNewlines = .ok given) :
    ((empty .utf8).load tree [spelling]).2.outcome = .ok () ∧
      ((empty .utf8).load tree [spelling]).1.Fetches ∧
      ((empty .utf8).load tree [spelling]).1.templates.Perm given := by
  have canonical := Statement.canonical_of_templates read
  obtain ⟨statements, parsed, rfl⟩ :=
    (Statement.templates_eq_ok_iff (Path.ofString spelling).toString).mp read
  let batch : Batch := ⟨[], ⟨text.unifyNewlines, (Path.ofString spelling).toString⟩, statements⟩
  have opened : (empty .utf8).opened tree ([], Path.ofString spelling) = .ok batch :=
    opened_eq_ok_iff.mpr ⟨rfl, rfl, read_file found decoded, parsed⟩
  have names : batch.names = (statements.map Statement.named).map Prod.fst := by
    rw [List.map_map]
    rfl
  have distinct : batch.names.Nodup := names ▸ canonical.distinct
  -- The names are new to an empty registry, so all statements are held.
  obtain ⟨held, done⟩ := @load_of_opened tree (empty .utf8) [spelling] _ batch _
    (reached_file found)
    List.not_mem_nil opened distinct fun _ _ => List.not_mem_nil
  have keys : ((empty .utf8).holding [batch]).keys = batch.names := by
    rw [keys_holding, List.flatMap_singleton]
    rfl
  rw [held]
  refine ⟨done, fetches_iff.mpr fun name listed => ?_, ?_⟩
  · -- Every name is an identifier, which is its own normal form.
    rw [mem_names_iff, keys, names] at listed
    obtain ⟨template, member, rfl⟩ := List.mem_map.mp listed
    have normal := @normalPath_scopedName [] _ (fun part inside => by contradiction)
      (canonical.each template member).identifier
    exact congrArg _ normal
  · -- The templates of the registry are those of the statements, which are the given ones.
    have perm := @templates_perm ((empty .utf8).holding [batch]) (keys ▸ distinct)
    have same : ((empty .utf8).holding [batch]).statements.map
        (fun entry => (entry.1, entry.2.sql)) = statements.map Statement.named := by
      simp [holding, empty, batch, Batch.name, scopedName, Statement.named]
    rwa [same] at perm

/-- A file is loaded when its text has templates. -/
theorem load_file_eq_ok_iff (found : tree.find? (Path.ofString spelling) = some (.file bytes))
    (decoded : Encoding.utf8.decode bytes = .ok text) :
    ((empty .utf8).load tree [spelling]).2.outcome = .ok () ↔
      ∃ given, Statement.templates text.unifyNewlines = .ok given := by
  constructor
  · intro done
    obtain ⟨admits, -⟩ := load_eq_ok_iff.mp done
    rw [reached_file found] at admits
    -- The file is still to be read, so it has been opened.
    have ahead : ([], Path.ofString spelling) ∈
        pending (empty .utf8).recorded [([], Path.ofString spelling)] := by
      simp [pending, recorded, empty]
    obtain ⟨batch, opened⟩ := admits.opens _ ahead
    obtain ⟨-, -, content, parsed⟩ := opened_eq_ok_iff.mp opened
    rw [read_file found decoded] at content
    rw [← Except.ok.inj content] at parsed
    exact ⟨_, (Statement.templates_eq_ok_iff _).mpr ⟨_, parsed, rfl⟩⟩
  · rintro ⟨given, read⟩
    exact (load_file found decoded read).1

end OneFile

end Registry

namespace Catalog

/-- The query of a named template in a catalog, under its name. -/
def entryOf (config : Option Config) (template : NamedTemplate) : String × Query :=
  (template.1, Query.make template.2 config (some template.1))

section Plain

variable {config : Option Config} {queries : List (String × Query)} {given : List NamedTemplate}
  {template : NamedTemplate}

/-- What is put under a new name comes last. -/
theorem put_of_new {entries : List (String × Query)} {name : String}
    (new : name ∉ entries.map Prod.fst) (item : Query) :
    put entries name item = entries ++ [(name, item)] := by
  -- By induction past the entries, none of which has the name.
  induction entries with
  | nil => rfl
  | cons entry rest ih =>
    rw [List.map_cons, List.mem_cons, not_or] at new
    rw [put, if_neg (Ne.symm new.1), ih new.2]
    rfl

/-- In a catalog without catalogs a template with a new name without dots comes last, if that is
not the name of a member. -/
theorem add_plain (undotted : '.' ∉ template.1.toList)
    (new : template.1 ∉ queries.map Prod.fst) :
    (mk config queries []).add template.1 template.2 =
      if isReserved template.1 then (mk config queries [], .error (.reserved template.1))
      else (mk config (queries ++ [entryOf config template]) [],
        .ok (entryOf config template).2) := by
  -- A name without dots has no scope, so the addition is made here and meets no catalog.
  rw [add, DottedName.ofString_of_undotted undotted]
  simp only [addAt, refuseQuery, children]
  cases isReserved template.1 with
  | true => rfl
  | false =>
    have put := put_of_new new (entryOf config template).2
    exact congrArg (fun entries => (mk config entries [], _)) put

/-- Templates with names that are new, differ and have no dots are all added, or one of them is
refused for having the name of a member. -/
theorem addAll_plain (undotted : ∀ template ∈ given, '.' ∉ template.1.toList)
    (distinct : (queries.map Prod.fst ++ given.map Prod.fst).Nodup) :
    (∀ template ∈ given, isReserved template.1 = false) ∧
        (mk config queries []).addAll given =
          (mk config (queries ++ given.map (entryOf config)) [], .ok ()) ∨
      ∃ template ∈ given, isReserved template.1 = true ∧
        ((mk config queries []).addAll given).2 = .error (.reserved template.1) := by
  induction given generalizing queries with
  | nil => exact Or.inl ⟨by simp, by simp [addAll]⟩
  | cons template rest ih =>
    obtain ⟨plain, others⟩ := List.forall_mem_cons.mp undotted
    have new : template.1 ∉ queries.map Prod.fst := fun member =>
      (List.nodup_append.mp distinct).2.2 _ member _ (by simp) rfl
    rw [addAll, add_plain plain new]
    cases taken : isReserved template.1 with
    -- A reserved name ends the additions.
    | true => exact Or.inr ⟨template, List.mem_cons_self .., taken, rfl⟩
    | false =>
      -- The rest is added after the first template.
      have later : ((queries ++ [entryOf config template]).map Prod.fst ++
          rest.map Prod.fst).Nodup := by
        simpa [entryOf] using distinct
      rcases ih others later with ⟨free, added⟩ | ⟨other, member, reserved, refused⟩
      · refine Or.inl ⟨List.forall_mem_cons.mpr ⟨taken, free⟩, added.trans ?_⟩
        simp
      · exact Or.inr ⟨other, List.mem_cons_of_mem _ member, reserved, refused⟩

end Plain

section Flat

variable {config : Option Config} {listed given : List NamedTemplate}

/-- The names of queries, of which none is in a catalog of its own, are sorted. -/
theorem names_flat (distinct : (listed.map Prod.fst).Nodup) (same : listed.Perm given) :
    (mk config (listed.map (entryOf config)) []).names =
      (given.map Prod.fst).mergeSort fun a b => decide (a ≤ b) := by
  -- Without catalogs within, the names are those of the queries, each once, and sorting forgets
  -- their order.
  have all : (mk config (listed.map (entryOf config)) []).allNames = listed.map Prod.fst := by
    rw [allNames, childNames, List.append_nil, List.map_map]
    rfl
  rw [names, all, eraseDups_of_nodup distinct]
  exact mergeSort_eq_of_perm (same.map Prod.fst)

/-- A query is found by its name and is the member of that name. -/
theorem get_flat {template : NamedTemplate} (distinct : (listed.map Prod.fst).Nodup)
    (undotted : '.' ∉ template.1.toList) (member : template ∈ listed) :
    let catalog := mk config (listed.map (entryOf config)) []
    let query := (entryOf config template).2
    catalog.get template.1 = .ok (.query query) ∧
      catalog.member template.1 = .ok (.query query) := by
  -- The names differ, so a search for one of them ends at its own query.
  have keys : ((listed.map (entryOf config)).map Prod.fst).Nodup := by
    rw [List.map_map]
    exact distinct
  have found : (listed.map (entryOf config)).lookup template.1 =
      some (entryOf config template).2 :=
    lookup_of_mem keys (List.mem_map_of_mem member)
  constructor
  · rw [get, DottedName.ofString_of_undotted undotted, getAt_eq_query_iff]
    exact found
  · simp only [Catalog.member, queries, found]

end Flat

/-- The outcome of a load of a catalog is the one of the registry and then that of the additions. -/
theorem outcome_load (tree : FileTree) (spellings : List String) (config : Option Config) :
    (load tree spellings config).outcome =
      (((Registry.empty .utf8).load tree spellings).2.outcome.mapError .load >>= fun () =>
        let (catalog, outcome) :=
          (empty config).addRegistry ((Registry.empty .utf8).load tree spellings).1
        outcome.map fun () => catalog) := by
  -- A load that fails in the registry never makes additions, and that is what the binding says.
  rw [load]
  cases outcome : ((Registry.empty .utf8).load tree spellings).2.outcome with
  | error fault => simp only [outcome]; rfl
  | ok done => simp only [outcome]; rfl

section OneFile

variable {tree : FileTree} {spelling : String} {bytes : List UInt8} {text : Text}
  {given : List NamedTemplate}

/-- There is a catalog of a file with templates when none of these has the name of a member, and it
has the query of each. -/
theorem outcome_load_file (config : Option Config)
    (found : tree.find? (Path.ofString spelling) = some (.file bytes))
    (decoded : Encoding.utf8.decode bytes = .ok text)
    (read : Statement.templates text.unifyNewlines = .ok given) :
    ∃ listed : List NamedTemplate, listed.Perm given ∧ ∀ catalog,
      (load tree [spelling] config).outcome = .ok catalog ↔
        (∀ template ∈ given, isReserved template.1 = false) ∧
          catalog = mk config (listed.map (entryOf config)) [] := by
  obtain ⟨done, fetches, same⟩ := Registry.load_file found decoded read
  have canonical := Statement.canonical_of_templates read
  -- The registry gives the templates in another order, which changes nothing about their names.
  generalize taken : ((Registry.empty .utf8).load tree [spelling]).1.templates = listed at same
  have undotted : ∀ template ∈ listed, '.' ∉ template.1.toList := fun template member =>
    Statement.undotted_of_isIdentifier
      (canonical.each template (same.mem_iff.mp member)).identifier
  have distinct : (listed.map Prod.fst).Nodup :=
    (same.map Prod.fst).nodup_iff.mpr canonical.distinct
  refine ⟨listed, same, fun catalog => ?_⟩
  rw [outcome_load, done, Registry.addRegistry_of_fetches fetches, taken]
  have unreserved : (∀ template ∈ given, isReserved template.1 = false) ↔
      ∀ template ∈ listed, isReserved template.1 = false :=
    forall_congr' fun template => by rw [same.mem_iff]
  rw [unreserved]
  rcases @addAll_plain config [] listed undotted distinct with
    ⟨free, added⟩ | ⟨template, member, reserved, refused⟩
  · -- All templates are added, so the catalog has just their queries.
    have added : (empty config).addAll listed =
        (mk config (listed.map (entryOf config)) [], .ok ()) := added
    rw [added]
    show Except.ok _ = Except.ok catalog ↔ _
    constructor
    · rintro ⟨⟩
      exact ⟨free, rfl⟩
    · rintro ⟨-, rfl⟩
      rfl
  · -- A template is refused, so there is no catalog and not all names are free.
    have refused : ((empty config).addAll listed).2 = .error (.reserved template.1) := refused
    rw [refused]
    refine iff_of_false (fun loaded => by contradiction) (fun ⟨free, _⟩ => ?_)
    rw [free template member] at reserved
    contradiction

/-- A file is loaded as a catalog just when its text has templates and none of them has the name of
a member. The catalog lists the names of the templates, and each leads to a query, which is also the
member of that name and resolves as the template does. -/
theorem load_agrees_with_templates (config : Option Config)
    (found : tree.find? (Path.ofString spelling) = some (.file bytes))
    (decoded : Encoding.utf8.decode bytes = .ok text) :
    ((∃ catalog, (load tree [spelling] config).outcome = .ok catalog) ↔
      ∃ given, Statement.templates text.unifyNewlines = .ok given ∧
        ∀ template ∈ given, isReserved template.1 = false) ∧
    ∀ catalog given, (load tree [spelling] config).outcome = .ok catalog →
      Statement.templates text.unifyNewlines = .ok given →
      catalog.names = (given.map Prod.fst).mergeSort (fun a b => decide (a ≤ b)) ∧
      ∀ name sql, (name, sql) ∈ given → ∃ query,
        catalog.get name = .ok (.query query) ∧ catalog.member name = .ok (.query query) ∧
        ∀ parameters, query.resolve parameters (none : Option Adapter) =
          resolve sql parameters (config.getD .default) := by
  refine ⟨⟨?_, ?_⟩, ?_⟩
  · rintro ⟨catalog, loaded⟩
    -- The registry has been loaded first, so the text has templates.
    have done : ((Registry.empty .utf8).load tree [spelling]).2.outcome = .ok () := by
      rw [outcome_load] at loaded
      cases outcome : ((Registry.empty .utf8).load tree [spelling]).2.outcome with
      | ok done => rfl
      | error fault =>
        rw [outcome] at loaded
        contradiction
    obtain ⟨given, read⟩ := (Registry.load_file_eq_ok_iff found decoded).mp done
    obtain ⟨listed, -, outcome⟩ := outcome_load_file config found decoded read
    exact ⟨given, read, ((outcome catalog).mp loaded).1⟩
  · -- The text has templates with free names, so every one of them is added.
    rintro ⟨given, read, free⟩
    obtain ⟨listed, -, outcome⟩ := outcome_load_file config found decoded read
    exact ⟨_, (outcome _).mpr ⟨free, rfl⟩⟩
  · intro catalog given loaded read
    obtain ⟨listed, same, outcome⟩ := outcome_load_file config found decoded read
    obtain ⟨-, rfl⟩ := (outcome catalog).mp loaded
    -- The names of templates are different identifiers, and so they are found as they are listed.
    have canonical := Statement.canonical_of_templates read
    have distinct : (listed.map Prod.fst).Nodup :=
      (same.map Prod.fst).nodup_iff.mpr canonical.distinct
    refine ⟨names_flat distinct same, fun name sql member => ?_⟩
    have undotted := Statement.undotted_of_isIdentifier (canonical.each _ member).identifier
    obtain ⟨leads, owned⟩ := @get_flat config _ _ distinct undotted
      (same.mem_iff.mpr member)
    exact ⟨_, leads, owned, fun parameters => rfl⟩

end OneFile

/-- The text of a source with two statements, of which one has a hyphen in its name. -/
def hyphenatedText : Text :=
  "--name:b-1\nX :n\n--name:a\nY".toList

/-- The bytes of this source. -/
def hyphenatedSource : List UInt8 :=
  hyphenatedText.map fun c => c.toNat.toUInt8

/-- Settings with a marker of their own. -/
def dollarConfig : Config :=
  ⟨['$'], false, false, by decide⟩

/-- The templates of this source come in its order, the first under a name without the hyphen. -/
theorem templates_hyphenatedText :
    Statement.templates hyphenatedText = .ok [("b_1", "X :n".toList), ("a", ['Y'])] := by
  -- The text is cut at its two headings, and each section gives a statement.
  have outline : Outline.ofText hyphenatedText =
      ⟨[], [⟨⟨"--name:b-1".toList, "b-1".toList⟩, "\nX :n\n".toList⟩,
        ⟨⟨"--name:a".toList, "a".toList⟩, "\nY".toList⟩]⟩ := by with_unfolding_all rfl
  have first : Statement.ofBody "\nX :n\n".toList = "X :n".toList := by with_unfolding_all rfl
  have second : Statement.ofBody "\nY".toList = ['Y'] := by with_unfolding_all rfl
  have parsed : (Statement.parseFile "<string>" hyphenatedText).outcome =
      .ok [⟨"b_1", 0, "X :n".toList⟩, ⟨"a", 2, ['Y']⟩] := by
    have b : Statement.ofSection [] 0 ⟨⟨"--name:b-1".toList, "b-1".toList⟩, "\nX :n\n".toList⟩
        "X :n".toList = .ok ⟨"b_1", 0, "X :n".toList⟩ := by with_unfolding_all rfl
    have a : Statement.ofSection [⟨"b_1", 0, "X :n".toList⟩] 2
        ⟨⟨"--name:a".toList, "a".toList⟩, "\nY".toList⟩ ['Y'] = .ok ⟨"a", 2, ['Y']⟩ := by
      with_unfolding_all rfl
    rw [Statement.outcome_parseFile_eq_ok_iff, Statement.outcome_parse, outline, if_neg (by simp),
      if_neg (by decide), Statement.outcome_ofSections_cons, first, if_neg (by simp),
      List.count_nil, b]
    show (Statement.ofSections "<string>" [⟨"b_1", 0, "X :n".toList⟩] 2
      [⟨⟨"--name:a".toList, "a".toList⟩, "\nY".toList⟩]).outcome >>= _ = _
    rw [Statement.outcome_ofSections_cons, second, if_neg (by simp), a]
    rfl
  rw [Statement.templates, parsed]
  rfl

/-- This source is loaded as a catalog, which lists the names in their order and in which the first
template is found under its name, to be resolved with the settings that were given. -/
theorem hyphenatedSource_agrees :
    let tree : FileTree := ⟨[], [(["a.sql"], some hyphenatedSource)]⟩
    tree.find? (Path.ofString "a.sql") = some (.file hyphenatedSource) ∧
    Encoding.utf8.decode hyphenatedSource = .ok hyphenatedText ∧
    ∃ catalog, (load tree ["a.sql"] (some dollarConfig)).outcome = .ok catalog ∧
      catalog.names = ["a", "b_1"] ∧ ∃ query,
        catalog.get "b_1" = .ok (.query query) ∧ catalog.member "b_1" = .ok (.query query) ∧
        ∀ parameters, query.resolve parameters (none : Option Adapter) =
          resolve "X :n".toList parameters dollarConfig := by
  -- The file is found, decoded and split by running; no name is reserved, so the load succeeds and
  -- the general statement says the rest.
  intro tree
  have found : tree.find? (Path.ofString "a.sql") = some (.file hyphenatedSource) := by
    with_unfolding_all rfl
  have decoded : Encoding.utf8.decode hyphenatedSource = .ok hyphenatedText := by
    with_unfolding_all rfl
  have unified : hyphenatedText.unifyNewlines = hyphenatedText := by with_unfolding_all rfl
  have read : Statement.templates hyphenatedText.unifyNewlines =
      .ok [("b_1", "X :n".toList), ("a", ['Y'])] := by
    rw [unified, templates_hyphenatedText]
  have free : ∀ template ∈ [("b_1", "X :n".toList), ("a", ['Y'])],
      isReserved template.1 = false := by
    decide +kernel
  have sorted : ["b_1", "a"].mergeSort (fun a b => decide (a ≤ b)) = ["a", "b_1"] :=
    (mergeSort_eq_of_perm (List.Perm.swap ..)).trans
      (List.mergeSort_of_pairwise (by decide +kernel))
  obtain ⟨loads, agrees⟩ := load_agrees_with_templates (some dollarConfig) found decoded
  obtain ⟨catalog, loaded⟩ := loads.mpr ⟨_, read, free⟩
  obtain ⟨names, queries⟩ := agrees catalog _ loaded read
  refine ⟨found, decoded, catalog, loaded, names.trans sorted, ?_⟩
  exact queries "b_1" _ (List.mem_cons_self ..)

end Catalog

end SqlTemplate
