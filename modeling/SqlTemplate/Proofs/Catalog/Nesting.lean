import SqlTemplate.Proofs.Catalog.Calls

/-! Whatever is added to a catalog and to those within it, at every level queries and catalogs have
different names, no member's name is taken, and the settings are those of the whole. -/

namespace SqlTemplate.Catalog

/-- The catalog that some names lead to, each within the one before. -/
def within? (catalog : Catalog) : List String → Option Catalog
  | [] => some catalog
  | name :: rest =>
    match catalog.children.lookup name with
    | some child => within? child rest
    | none => none

/-- A catalog in which the one that some names lead to is changed, if they lead to one. -/
def change (catalog : Catalog) (grow : Catalog → Catalog) : List String → Catalog
  | [] => grow catalog
  | name :: rest =>
    match catalog.children.lookup name with
    | some child =>
      mk catalog.config catalog.queries (put catalog.children name (change child grow rest))
    | none => catalog

/-- A call on the catalog that some names lead to. -/
structure NestedCall where
  /-- The names. -/
  scope : List String
  /-- The call. -/
  call : Call

/-- A catalog after a call on it or on one within it. -/
def performWithin (catalog : Catalog) (nested : NestedCall) : Catalog :=
  catalog.change (fun inner => inner.perform nested.call) nested.scope

/-- A catalog after some such calls. -/
def performAllWithin (catalog : Catalog) (calls : List NestedCall) : Catalog :=
  calls.foldl performWithin catalog

section Names

variable {catalog inner : Catalog} {name : String} {rest : List String}

/-- A name and those after it lead to a catalog by way of the one of that name. -/
theorem within?_cons_eq_some_iff :
    catalog.within? (name :: rest) = some inner ↔
      ∃ child, catalog.children.lookup name = some child ∧ child.within? rest = some inner := by
  -- A name that is not there leads to nothing, on either side.
  rw [within?]
  cases catalog.children.lookup name <;> simp

/-- An entry has the name under which something was put, or that of an entry before. -/
theorem mem_keys_put {α : Type} {entries : List (String × α)} {item : α} {other : String} :
    other ∈ (put entries name item).map Prod.fst ↔
      other = name ∨ other ∈ entries.map Prod.fst := by
  -- To be the name of an entry is to be found, and what is found after a put is known.
  rw [← exists_lookup_iff, ← exists_lookup_iff, lookup_put]
  by_cases same : other = name
  · simp [same]
  · simp [same]

/-- A name can be that of a catalog when it is neither that of a member nor that of a query. -/
theorem refuseScope_eq_none_iff :
    catalog.refuseScope name = none ↔
      isReserved name = false ∧ name ∉ catalog.queries.map Prod.fst := by
  -- The check asks for the members first and then for the queries.
  rw [refuseScope, ← lookup_isSome_eq_false_iff]
  cases isReserved name with
  | true => simp
  | false => cases (catalog.queries.lookup name).isSome <;> simp

/-- A head can be that of a query when it is neither that of a member nor that of a catalog. -/
theorem refuseQuery_eq_none_iff :
    catalog.refuseQuery name = none ↔
      isReserved name = false ∧ name ∉ catalog.children.map Prod.fst := by
  -- The check asks for the members first and then for the catalogs.
  rw [refuseQuery, ← lookup_isSome_eq_false_iff]
  cases isReserved name with
  | true => simp
  | false => cases (catalog.children.lookup name).isSome <;> simp

/-- The names of members have no dots. -/
theorem undotted_of_isReserved (taken : isReserved name = true) : '.' ∉ name.toList := by
  -- The members are a fixed list, so each of them is looked at.
  have undotted : ∀ member ∈ ownMembers ++ objectMembers ++ kindMembers,
      '.' ∉ member.toList := by decide +kernel
  refine undotted name ?_
  simpa [isReserved, or_assoc] using taken

/-- A name that ends in a dot is not that of a member. -/
theorem isReserved_append_dot (name : String) : isReserved (name ++ ".") = false := by
  -- The name of a member has no dot, and this name has one.
  rw [Bool.eq_false_iff]
  intro taken
  exact undotted_of_isReserved taken (by simp)

end Names

/-- What holds at every level of a catalog whose settings are given. -/
inductive Shaped (config : Option Config) : Catalog → Prop
  /-- Names are told apart and free, and settings agree, here and in each catalog within. -/
  | mk {queries : List (String × Query)} {children : List (String × Catalog)}
    (disjoint : ∀ name ∈ queries.map Prod.fst, name ∉ children.map Prod.fst)
    (keys : ∀ key ∈ queries.map Prod.fst, ∃ head : String, isReserved head = false ∧
      '.' ∉ head.toList ∧ (key = head ∨ key = head ++ "."))
    (names : ∀ name ∈ children.map Prod.fst, isReserved name = false ∧ '.' ∉ name.toList)
    (distinct : (children.map Prod.fst).Nodup)
    (settled : ∀ entry ∈ queries, entry.2.config = config)
    (each : ∀ entry ∈ children, Shaped config entry.2) :
    Shaped config (mk config queries children)

namespace Shaped

variable {config : Option Config} {catalog inner : Catalog} {head key name : String} {sql : Text}
  {scope : List String}

/-- The settings of a catalog are the given ones. -/
theorem config_eq (shaped : Shaped config catalog) : catalog.config = config := by
  cases shaped
  rfl

/-- Queries and catalogs have different names. -/
theorem disjoint (shaped : Shaped config catalog) :
    ∀ name ∈ catalog.queries.map Prod.fst, name ∉ catalog.children.map Prod.fst := by
  cases shaped with
  | mk disjoint _ _ _ _ _ => exact disjoint

/-- Queries are called by heads, with or without a dot after them. -/
theorem keys (shaped : Shaped config catalog) :
    ∀ key ∈ catalog.queries.map Prod.fst, ∃ head : String, isReserved head = false ∧
      '.' ∉ head.toList ∧ (key = head ∨ key = head ++ ".") := by
  cases shaped with
  | mk _ keys _ _ _ _ => exact keys

/-- The names of catalogs are free and have no dots. -/
theorem names (shaped : Shaped config catalog) :
    ∀ name ∈ catalog.children.map Prod.fst, isReserved name = false ∧ '.' ∉ name.toList := by
  cases shaped with
  | mk _ _ names _ _ _ => exact names

/-- The settings of the queries are the given ones. -/
theorem settled (shaped : Shaped config catalog) :
    ∀ entry ∈ catalog.queries, entry.2.config = config := by
  cases shaped with
  | mk _ _ _ _ settled _ => exact settled

/-- A query is not called by the name of a member. -/
theorem unreserved_key (shaped : Shaped config catalog)
    (member : key ∈ catalog.queries.map Prod.fst) : isReserved key = false := by
  -- A key is an unreserved head, or one with a dot after it, which no member has.
  obtain ⟨head, free, -, rfl | rfl⟩ := shaped.keys key member
  · exact free
  · exact isReserved_append_dot head

/-- The name of a catalog is free to be that of one. -/
theorem refuseScope_eq_none (shaped : Shaped config catalog)
    (listed : name ∈ catalog.children.map Prod.fst) : catalog.refuseScope name = none :=
  -- It is free of members and, since it is a catalog's, free of queries.
  refuseScope_eq_none_iff.mpr
    ⟨(shaped.names name listed).1, fun member => shaped.disjoint name member listed⟩

/-- No two catalogs within a catalog have the same name. -/
theorem distinct (shaped : Shaped config catalog) : catalog.Distinct := by
  induction shaped with
  | mk _ _ _ distinct _ _ ih => exact .mk distinct ih

/-- An empty catalog has this shape. -/
theorem empty (config : Option Config) : Shaped config (empty config) :=
  .mk (by simp) (by simp) (by simp) .nil (by simp) (by simp)

/-- A catalog within one of this shape has it. -/
theorem of_lookup (shaped : Shaped config catalog)
    (found : catalog.children.lookup name = some inner) : Shaped config inner := by
  cases shaped with
  | mk _ _ _ _ _ each => exact each _ (mem_of_lookup found)

/-- The catalog of a name, be it there or still empty, has this shape. -/
theorem child (shaped : Shaped config catalog) (name : String) :
    Shaped config (catalog.child name) := by
  -- A name without a catalog stands for an empty one with the same settings.
  rw [Catalog.child]
  cases found : catalog.children.lookup name with
  | none => exact shaped.config_eq ▸ Shaped.empty catalog.config
  | some inner => exact shaped.of_lookup found

/-- The catalog that names lead to has this shape. -/
theorem within (shaped : Shaped config catalog) (there : catalog.within? scope = some inner) :
    Shaped config inner := by
  -- By induction on the names, from a catalog to one that it has.
  induction scope generalizing catalog with
  | nil => exact Option.some.inj there ▸ shaped
  | cons name rest ih =>
    obtain ⟨child, found, further⟩ := within?_cons_eq_some_iff.mp there
    exact ih (shaped.of_lookup found) further

/-- A query under a free key may be added. -/
theorem put_query (shaped : Shaped config catalog) (regular : DottedName.Regular ⟨[], head, key⟩)
    (free : catalog.refuseQuery head = none) {query : Query} (settings : query.config = config) :
    Shaped config (Catalog.mk catalog.config (put catalog.queries key query) catalog.children) := by
  obtain ⟨unreserved, unused⟩ := refuseQuery_eq_none_iff.mp free
  cases shaped with
  | mk disjoint keys names distinct settled each =>
    refine .mk (fun other member => ?_) (fun other member => ?_) names distinct
      (fun entry member => ?_) each
    · rcases mem_keys_put.mp member with rfl | before
      · -- The key is the head, which no catalog has, or it has a dot, which no such name has.
        rcases regular.key with plain | dotted
        · have same : other = head := plain
          exact same ▸ unused
        · have longer : other = head ++ "." := dotted
          intro listed
          exact (names other listed).2 (by simp [longer])
      · exact disjoint other before
    · rcases mem_keys_put.mp member with rfl | before
      · exact ⟨head, unreserved, regular.head, regular.key⟩
      · exact keys other before
    · rcases mem_of_mem_put member with rfl | before
      · exact settings
      · exact settled entry before

/-- A catalog may be put under a free name. -/
theorem put_child (shaped : Shaped config catalog) (undotted : '.' ∉ name.toList)
    (free : catalog.refuseScope name = none) {grown : Catalog} (inside : Shaped config grown) :
    Shaped config
      (Catalog.mk catalog.config catalog.queries (put catalog.children name grown)) := by
  -- Only what is said of the new name and of its catalog has to be shown; the rest was so before.
  obtain ⟨unreserved, unused⟩ := refuseScope_eq_none_iff.mp free
  cases shaped with
  | mk disjoint keys names distinct settled each =>
    refine .mk (fun other member listed => ?_) keys (fun other member => ?_) (nodup_put distinct)
      settled (fun entry member => ?_)
    · rcases mem_keys_put.mp listed with rfl | before
      · exact unused member
      · exact disjoint other member before
    · rcases mem_keys_put.mp member with rfl | before
      · exact ⟨unreserved, undotted⟩
      · exact names other before
    · rcases mem_of_mem_put member with rfl | before
      · exact inside
      · exact each entry before

/-- An addition keeps the shape, be it refused or not. -/
theorem addAt (shaped : Shaped config catalog) (regular : DottedName.Regular ⟨scope, head, key⟩) :
    Shaped config (catalog.addAt head key sql scope).1 := by
  induction scope generalizing catalog with
  | nil =>
    -- A query is put under its key unless its head is refused.
    rw [Catalog.addAt]
    cases refused : catalog.refuseQuery head with
    | some fault => exact shaped
    | none => exact shaped.put_query regular refused shaped.config_eq
  | cons name rest ih =>
    cases refused : catalog.refuseScope name with
    | some fault =>
      rw [Catalog.addAt, refused]
      exact shaped
    | none =>
      -- The catalog of the first name is kept even when the rest is refused.
      rw [addAt_cons refused]
      exact shaped.put_child (regular.scope name (List.mem_cons_self ..)) refused
        (ih (shaped.child name) regular.tail)

/-- Adding templates keeps the shape. -/
theorem addAll {given : List (String × Text)} (shaped : Shaped config catalog) :
    Shaped config (catalog.addAll given).1 := by
  induction given generalizing catalog with
  | nil => exact shaped
  | cons entry rest ih =>
    -- The first addition keeps the shape even if it is refused, and then it is the last.
    obtain ⟨name, sql⟩ := entry
    have grows : Shaped config (catalog.add name sql).1 :=
      shaped.addAt (DottedName.regular_ofString name)
    rw [Catalog.addAll]
    rcases added : catalog.add name sql with ⟨grown, fault | query⟩
    · rw [added] at grows
      exact grows
    · rw [added] at grows
      exact ih grows

/-- A call keeps the shape. -/
theorem perform (shaped : Shaped config catalog) (call : Call) :
    Shaped config (catalog.perform call) := by
  rw [perform_eq]
  exact shaped.addAll

/-- What keeps the shape of each catalog keeps it when it is done to one within. -/
theorem change {grow : Catalog → Catalog} (shaped : Shaped config catalog)
    (grows : ∀ inner, Shaped config inner → Shaped config (grow inner)) :
    Shaped config (catalog.change grow scope) := by
  induction scope generalizing catalog with
  | nil => exact grows catalog shaped
  | cons name rest ih =>
    rw [Catalog.change]
    cases found : catalog.children.lookup name with
    | none => exact shaped
    | some inner =>
      -- The name is that of a catalog already, so it is free to be one.
      have listed : name ∈ catalog.children.map Prod.fst := exists_lookup_iff.mp ⟨inner, found⟩
      have grown := ih (shaped.of_lookup found)
      exact shaped.put_child (shaped.names name listed).2 (shaped.refuseScope_eq_none listed) grown

/-- Calls on a catalog and on those within it keep the shape. -/
theorem performAllWithin (shaped : Shaped config catalog) (calls : List NestedCall) :
    Shaped config (catalog.performAllWithin calls) := by
  -- By induction on the calls, each of which changes one catalog within.
  induction calls generalizing catalog with
  | nil => exact shaped
  | cons nested rest ih => exact ih (shaped.change fun inner kept => kept.perform nested.call)

end Shaped

/-- A name without dots leads to its member. -/
theorem get_eq_ok_iff_member {catalog : Catalog} {name : String} {item : Item}
    (undotted : '.' ∉ name.toList) :
    catalog.get name = .ok item ↔ catalog.member name = .ok item := by
  -- Both ask the queries first and then the catalogs, and only their refusals differ.
  rw [get, DottedName.ofString_of_undotted undotted, getAt, member]
  cases catalog.queries.lookup name with
  | some query => rfl
  | none => cases catalog.children.lookup name <;> simp

end SqlTemplate.Catalog
