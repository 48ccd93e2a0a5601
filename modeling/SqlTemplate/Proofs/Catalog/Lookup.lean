import SqlTemplate.Proofs.Catalog.DottedName
import SqlTemplate.Proofs.Lookup

/-! A query is found where it was added, and an addition, be it refused or not, changes what is
found nowhere else. The names of a catalog are those of the queries that are found in it. -/

namespace SqlTemplate.Catalog

/-- The query under a key within a scope. -/
def queryAt? (catalog : Catalog) (key : String) : List String → Option Query
  | [] => catalog.queries.lookup key
  | name :: rest =>
    match catalog.children.lookup name with
    | some child => queryAt? child key rest
    | none => none

/-- No two catalogs within a catalog have the same name, at any depth. -/
inductive Distinct : Catalog → Prop
  /-- The names of the catalogs within it differ, and each of these is such a catalog. -/
  | mk {config : Option Config} {queries : List (String × Query)}
    {children : List (String × Catalog)} (names : (children.map Prod.fst).Nodup)
    (each : ∀ entry ∈ children, Distinct entry.2) : Distinct (mk config queries children)

section Put

variable {α : Type} {entries : List (String × α)} {name other : String} {item : α}

/-- What is put under a name is found there, and elsewhere what was there. -/
theorem lookup_put :
    (put entries name item).lookup other =
      if other = name then some item else entries.lookup other := by
  induction entries with
  | nil => exact lookup_cons_eq
  | cons entry rest ih =>
    obtain ⟨key, old⟩ := entry
    rw [put]
    by_cases same : key = name
    · -- The first entry is replaced, and the others are as they were.
      rw [if_pos same, lookup_cons_eq, lookup_cons_eq, same]
      split
      · rfl
      · rfl
    · -- The first entry stays, and it has another name.
      rw [if_neg same, lookup_cons_eq, lookup_cons_eq, ih]
      by_cases found : other = key
      · have apart : other ≠ name := fun equal => same (found.symm.trans equal)
        rw [if_pos found, if_pos found, if_neg apart]
      · rw [if_neg found, if_neg found]

/-- An entry is the one that was put there, or it was there before. -/
theorem mem_of_mem_put {entry : String × α} (member : entry ∈ put entries name item) :
    entry = (name, item) ∨ entry ∈ entries := by
  -- By induction to the entry with the name, which the new one replaces.
  induction entries with
  | nil => exact Or.inl (List.mem_singleton.mp member)
  | cons first rest ih =>
    obtain ⟨key, old⟩ := first
    rw [put] at member
    split at member
    · rename_i same
      rcases List.mem_cons.mp member with replaced | later
      · exact Or.inl (by rw [replaced, same])
      · exact Or.inr (List.mem_cons_of_mem _ later)
    · rcases List.mem_cons.mp member with rfl | later
      · exact Or.inr (List.mem_cons_self ..)
      · exact (ih later).imp_right (List.mem_cons_of_mem _)

/-- The names of entries stay different. -/
theorem nodup_put (distinct : (entries.map Prod.fst).Nodup) :
    ((put entries name item).map Prod.fst).Nodup := by
  induction entries with
  | nil => exact List.nodup_singleton name
  | cons first rest ih =>
    obtain ⟨key, old⟩ := first
    obtain ⟨fresh, others⟩ := List.nodup_cons.mp distinct
    rw [put]
    split
    · exact distinct
    · rename_i apart
      refine List.nodup_cons.mpr ⟨fun member => ?_, ih others⟩
      -- An entry with the first name would be the new one or one of the others.
      obtain ⟨entry, listed, same⟩ := List.mem_map.mp member
      rcases mem_of_mem_put listed with rfl | before
      · exact apart same.symm
      · exact fresh (same ▸ List.mem_map_of_mem before)

end Put

/-- The catalog of a name within a catalog, which is empty when there is none. -/
def child (catalog : Catalog) (name : String) : Catalog :=
  (catalog.children.lookup name).getD (empty catalog.config)

section Adding

variable {catalog : Catalog} {head key name : String} {sql : Text} {rest scope : List String}

/-- Nothing is found in an empty catalog. -/
@[simp] theorem queryAt?_empty (config : Option Config) (key : String) (scope : List String) :
    (empty config).queryAt? key scope = none := by
  -- There is neither a query here nor a catalog to look into.
  cases scope <;> rfl

/-- What is found in a scope is found in the catalog of its first name. -/
theorem queryAt?_cons (catalog : Catalog) (key name : String) (rest : List String) :
    catalog.queryAt? key (name :: rest) = (catalog.child name).queryAt? key rest := by
  -- A name without a catalog leads to an empty one, in which nothing is found either.
  rw [queryAt?, child]
  cases catalog.children.lookup name with
  | none => exact (queryAt?_empty ..).symm
  | some inner => rfl

/-- A catalog that is put under a name is the one of that name, and the others are as they were. -/
theorem child_put (grown : Catalog) (other : String) :
    (mk catalog.config catalog.queries (put catalog.children name grown)).child other =
      if other = name then grown else catalog.child other := by
  -- Both sides look the name up, and only the one that was put differs from before.
  rw [child, children, lookup_put]
  by_cases same : other = name
  · rw [if_pos same, if_pos same, Option.getD_some]
  · rw [if_neg same, if_neg same]
    rfl

/-- A query is added in a scope by adding it in the catalog of the first name. -/
theorem addAt_cons (free : catalog.refuseScope name = none) :
    catalog.addAt head key sql (name :: rest) =
      (mk catalog.config catalog.queries
          (put catalog.children name ((catalog.child name).addAt head key sql rest).1),
        ((catalog.child name).addAt head key sql rest).2) := by
  rw [addAt, free]
  rfl

/-- An addition changes what is found in its own place at most, and only when it succeeds. -/
theorem queryAt?_addAt (catalog : Catalog) (head key : String) (sql : Text)
    (scope : List String) (other : String) (elsewhere : List String) :
    (catalog.addAt head key sql scope).1.queryAt? other elsewhere =
      match (catalog.addAt head key sql scope).2 with
      | .ok query =>
        if (elsewhere, other) = (scope, key) then some query else catalog.queryAt? other elsewhere
      | .error _ => catalog.queryAt? other elsewhere := by
  -- The scope of the addition and the other one are followed side by side as far as they agree.
  induction scope generalizing catalog elsewhere with
  | nil =>
    rw [addAt]
    cases catalog.refuseQuery head with
    | some fault => rfl
    | none =>
      -- The query is put among those of the catalog itself, and no child is changed.
      cases elsewhere with
      | nil => simp [queryAt?, queries, lookup_put]
      | cons name rest =>
        have apart : (name :: rest, other) ≠ ([], key) := by simp
        exact (if_neg apart).symm
  | cons name rest ih =>
    cases refused : catalog.refuseScope name with
    | some fault =>
      rw [addAt, refused]
    | none =>
      rw [addAt_cons refused]
      cases elsewhere with
      | nil =>
        -- The queries of the catalog itself stay.
        have apart : ([], other) ≠ (name :: rest, key) := by simp
        cases ((catalog.child name).addAt head key sql rest).2 with
        | ok query => exact (if_neg apart).symm
        | error fault => rfl
      | cons first others =>
        rw [queryAt?_cons, queryAt?_cons, child_put]
        by_cases same : first = name
        · -- Within the child of that name the addition is one in the rest of the scope.
          subst same
          rw [if_pos rfl, ih (catalog.child first) others]
          simp [Prod.ext_iff]
        · have apart : (first :: others, other) ≠ (name :: rest, key) := by simp [same]
          rw [if_neg same]
          cases ((catalog.child name).addAt head key sql rest).2 with
          | ok query => exact (if_neg apart).symm
          | error fault => rfl

/-- Adding a query under a dotted name changes what is found in the place of that name at most. -/
theorem queryAt?_add (catalog : Catalog) (name : String) (sql : Text) (key : String)
    (scope : List String) :
    (catalog.add name sql).1.queryAt? key scope =
      match (catalog.add name sql).2 with
      | .ok query =>
        if (scope, key) = DottedName.place name then some query else catalog.queryAt? key scope
      | .error _ => catalog.queryAt? key scope :=
  queryAt?_addAt catalog _ _ sql _ key scope

/-- A query that is added has the template and is called by the key. -/
theorem query_of_addAt {query : Query}
    (added : (catalog.addAt head key sql scope).2 = .ok query) :
    ∃ config, query = Query.make sql config (some key) := by
  -- By induction on the scope: the addition is made in the catalog that the last name leads to.
  induction scope generalizing catalog with
  | nil =>
    rw [addAt] at added
    -- a query is refused or made from the template and the key
    split at added
    · contradiction
    · exact ⟨_, (Except.ok.inj added).symm⟩
  | cons name rest ih =>
    cases refused : catalog.refuseScope name with
    | some fault =>
      rw [addAt, refused] at added
      contradiction
    | none =>
      rw [addAt_cons refused] at added
      exact ih added

/-- The head in a scope leads to a query when that is found there under the head as its key. -/
theorem getAt_eq_query_iff {query : Query} :
    catalog.getAt head scope = .ok (.query query) ↔ catalog.queryAt? head scope = some query := by
  -- Both follow the scope, and in the end a query comes before a catalog of the same name.
  induction scope generalizing catalog with
  | nil =>
    rw [getAt, queryAt?]
    cases catalog.queries.lookup head with
    | some found => simp
    | none => cases catalog.children.lookup head <;> simp
  | cons name rest ih =>
    rw [getAt, queryAt?]
    cases catalog.children.lookup name with
    | some inner => exact ih
    | none => simp

end Adding

section Names

variable {catalog : Catalog} {head key name : String} {sql : Text} {scope : List String}

/-- The child of a name is a catalog whose catalogs have different names. -/
theorem Distinct.child (distinct : catalog.Distinct) (name : String) :
    (catalog.child name).Distinct := by
  -- A name without a catalog stands for an empty one, which has no names that could agree.
  rw [Catalog.child]
  cases found : catalog.children.lookup name with
  | none => exact .mk List.nodup_nil (fun entry member => by contradiction)
  | some inner =>
    cases distinct with
    | mk names each => exact each _ (mem_of_lookup found)

/-- An addition keeps the names of catalogs different. -/
theorem Distinct.addAt (distinct : catalog.Distinct) :
    (catalog.addAt head key sql scope).1.Distinct := by
  induction scope generalizing catalog with
  | nil =>
    rw [Catalog.addAt]
    split
    · exact distinct
    · cases distinct with
      | mk names each => exact .mk names each
  | cons name rest ih =>
    cases refused : catalog.refuseScope name with
    | some fault =>
      rw [Catalog.addAt, refused]
      exact distinct
    | none =>
      rw [addAt_cons refused]
      have grown := ih (distinct.child name)
      cases distinct with
      | mk names each =>
        refine .mk (nodup_put names) fun entry member => ?_
        -- An entry is the child that has grown, or it was there before.
        rcases mem_of_mem_put member with rfl | before
        · exact grown
        · exact each entry before

/-- The names in some catalogs are those of each, after the name of the catalog. -/
theorem mem_childNames_iff {children : List (String × Catalog)} :
    name ∈ childNames children ↔
      ∃ entry ∈ children, ∃ inner ∈ entry.2.allNames, entry.1 ++ "." ++ inner = name := by
  -- By induction on the catalogs, whose names follow each other.
  induction children with
  | nil => simp [childNames]
  | cons entry rest ih => simp [childNames, ih]

/-- The names of a catalog are those of the places in which a query is found. -/
theorem mem_allNames_iff (distinct : catalog.Distinct) :
    name ∈ catalog.allNames ↔ ∃ scope key query,
      catalog.queryAt? key scope = some query ∧ DottedName.joined key scope = name := by
  induction distinct generalizing name with
  | @mk config queries children names each ih =>
    rw [allNames, List.mem_append, mem_childNames_iff, ← exists_lookup_iff]
    constructor
    · -- A name is that of a query here, or one of a child after the name of the child.
      rintro (⟨query, found⟩ | ⟨⟨first, inner⟩, member, other, listed, rfl⟩)
      · exact ⟨[], name, query, found, rfl⟩
      · obtain ⟨scope, key, query, found, rfl⟩ := (ih _ member).mp listed
        refine ⟨first :: scope, key, query, ?_, rfl⟩
        rw [queryAt?_cons, child, Catalog.children, lookup_of_mem names member]
        exact found
    · rintro ⟨scope, key, query, found, rfl⟩
      cases scope with
      | nil => exact Or.inl ⟨query, found⟩
      | cons first rest =>
        rw [queryAt?, Catalog.children] at found
        cases among : children.lookup first with
        | none =>
          rw [among] at found
          contradiction
        | some inner =>
          -- The place is one in the catalog of its first name.
          rw [among] at found
          have member := mem_of_lookup among
          have listed := (ih _ member).mpr ⟨rest, key, query, found, rfl⟩
          exact Or.inr ⟨_, member, _, listed, rfl⟩

/-- A name is listed when a query is found in a place of that name. -/
theorem mem_names_iff (distinct : catalog.Distinct) :
    name ∈ catalog.names ↔ ∃ scope key query,
      catalog.queryAt? key scope = some query ∧ DottedName.joined key scope = name := by
  -- Sorting the names and taking each of them once leaves the same ones.
  rw [names, List.mem_mergeSort, List.mem_eraseDups, mem_allNames_iff distinct]

end Names

end SqlTemplate.Catalog
