import SqlTemplate.Proofs.Catalog.Refusal

/-! A query that is added under a name in use takes the place of the other one, unless the name ends
in a dot and what precedes the dot is the name of a catalog. -/

namespace SqlTemplate

namespace DottedName

/-- The last name of a scope may be taken to the key. -/
theorem joined_append (key last : String) (front : List String) :
    joined key (front ++ [last]) = joined (last ++ "." ++ key) front := by
  -- By induction on the names before the last one.
  induction front with
  | nil => rfl
  | cons name rest ih => rw [List.cons_append, joined, joined, ih]

end DottedName

namespace Catalog

variable {config : Option Config} {catalog inner : Catalog} {head key name : String} {sql : Text}
  {scope front rest : List String}

section Within

/-- Names that follow others lead on from the catalog that those lead to. -/
theorem within?_append (catalog : Catalog) (front rest : List String) :
    catalog.within? (front ++ rest) = (catalog.within? front).bind (·.within? rest) := by
  -- By induction on the first names; where they lead nowhere, neither do all of them.
  induction front generalizing catalog with
  | nil => rfl
  | cons name others ih =>
    rw [List.cons_append, within?, within?]
    cases catalog.children.lookup name with
    | none => rfl
    | some inner => exact ih inner

/-- The first of some names lead to a catalog when all do. -/
theorem isSome_within?_of_append (leads : (catalog.within? (front ++ rest)).isSome = true) :
    (catalog.within? front).isSome = true := by
  rw [within?_append] at leads
  exact Option.isSome_of_isSome_bind leads

/-- One more name leads to a catalog when it is the name of one. -/
theorem isSome_within?_concat_iff (there : catalog.within? scope = some inner) :
    (catalog.within? (scope ++ [name])).isSome = true ↔ name ∈ inner.children.map Prod.fst := by
  -- The others lead to the catalog, in which the last name is looked up.
  rw [within?_append, there, Option.bind_some, within?, ← exists_lookup_iff]
  cases inner.children.lookup name with
  | none => simp
  | some child => simp [within?]

/-- A query in a scope is one of the catalog that the scope leads to. -/
theorem queryAt?_eq (catalog : Catalog) (key : String) (scope : List String) :
    catalog.queryAt? key scope = (catalog.within? scope).bind (·.queries.lookup key) := by
  -- By induction on the scope, which both sides follow from one catalog to the next.
  induction scope generalizing catalog with
  | nil => rfl
  | cons name rest ih =>
    rw [queryAt?, within?]
    cases catalog.children.lookup name with
    | none => rfl
    | some inner => exact ih inner

end Within

namespace Shaped

/-- The names that lead to a catalog have no dots. -/
theorem undotted_of_within (shaped : Shaped config catalog)
    (there : catalog.within? scope = some inner) : ∀ name ∈ scope, '.' ∉ name.toList := by
  -- By induction on the names, each of which is that of a catalog of this shape.
  induction scope generalizing catalog with
  | nil => exact fun name member => by contradiction
  | cons first rest ih =>
    obtain ⟨child, found, further⟩ := within?_cons_eq_some_iff.mp there
    have listed : first ∈ catalog.children.map Prod.fst := exists_lookup_iff.mp ⟨child, found⟩
    exact List.forall_mem_cons.mpr
      ⟨(shaped.names first listed).2, ih (shaped.of_lookup found) further⟩

/-- An addition in a scope that leads to a catalog is refused when that catalog refuses the head. -/
theorem addAt_of_within (shaped : Shaped config catalog)
    (there : catalog.within? scope = some inner) :
    (catalog.addAt head key sql scope).2 =
      match inner.refuseQuery head with
      | some fault => .error fault
      | none => .ok (Query.make sql inner.config (some key)) := by
  induction scope generalizing catalog with
  | nil =>
    rw [Option.some.inj there, Catalog.addAt]
    cases inner.refuseQuery head <;> rfl
  | cons name rest ih =>
    obtain ⟨child, found, further⟩ := within?_cons_eq_some_iff.mp there
    -- The name is that of a catalog already, so it is free to be one.
    have free := shaped.refuseScope_eq_none (exists_lookup_iff.mp ⟨child, found⟩)
    rw [addAt_cons free, child_of_lookup found]
    exact ih (shaped.of_lookup found) further

/-- An addition under a head that no member has, in a scope that leads to a catalog, is refused when
the head leads to a catalog there. -/
theorem refused_addAt_iff (shaped : Shaped config catalog)
    (there : catalog.within? scope = some inner) (free : isReserved head = false) :
    (∃ fault, (catalog.addAt head key sql scope).2 = .error fault) ↔
      (catalog.within? (scope ++ [head])).isSome = true := by
  -- The scope is passed without a refusal, so the head is checked in the catalog that it leads to.
  -- It is no member, so only a catalog of that name can be in its way.
  rw [shaped.addAt_of_within there, isSome_within?_concat_iff there]
  cases refused : inner.refuseQuery head with
  | none =>
    have absent := (refuseQuery_eq_none_iff.mp refused).2
    exact iff_of_false (fun ⟨fault, failed⟩ => by contradiction) absent
  | some fault =>
    refine iff_of_true ⟨fault, rfl⟩ ?_
    by_contra absent
    rw [refuseQuery_eq_none_iff.mpr ⟨free, absent⟩] at refused
    contradiction

end Shaped

/-- An addition that is refused in a scope that leads to a catalog changes nothing. -/
theorem addAt_eq_self {fault : CatalogFault} (there : catalog.within? scope = some inner)
    (refused : (catalog.addAt head key sql scope).2 = .error fault) :
    (catalog.addAt head key sql scope).1 = catalog := by
  obtain ⟨front, part, rest, ⟨parts, -⟩, made⟩ := refusedAt_of_addAt refused
  rw [made, opened_eq_self_iff]
  -- The parts before the refused one are some of the scope.
  obtain ⟨others, rfl⟩ : front <+: scope := by
    have before : front <+: scope ++ [head] := ⟨part :: rest, parts.symm⟩
    refine (List.prefix_concat_iff.mp before).resolve_left fun whole => ?_
    rw [whole] at parts
    simp at parts
  exact isSome_within?_of_append (Option.isSome_iff_exists.mpr ⟨inner, there⟩)

/-- What a listed name stands for: its scope leads to a catalog, no member has its head, and it is
that of a query there, or else it ends in a dot after the name of a catalog. -/
structure Listed (catalog : Catalog) (name : String) (inner : Catalog) : Prop where
  /-- The scope leads to the catalog. -/
  there : catalog.within? (DottedName.ofString name).scope = some inner
  /-- The head is free. -/
  free : isReserved (DottedName.ofString name).head = false
  /-- A head that is the name of a catalog is followed by a dot. -/
  dotted : (DottedName.ofString name).head ∈ inner.children.map Prod.fst →
    DottedName.EndsInDot name
  /-- Any other is that of a query. -/
  query : (DottedName.ofString name).head ∉ inner.children.map Prod.fst →
    ∃ old, inner.queries.lookup (DottedName.ofString name).key = some old

/-- Every listed name stands for a query, or for one with an empty name in a catalog. -/
theorem Shaped.listed (shaped : Shaped config catalog) (member : name ∈ catalog.names) :
    ∃ inner, catalog.Listed name inner := by
  obtain ⟨scope, key, old, found, rfl⟩ := (mem_names_iff shaped.distinct).mp member
  rw [queryAt?_eq] at found
  obtain ⟨inner, there, kept⟩ := Option.bind_eq_some_iff.mp found
  have names := shaped.undotted_of_within there
  by_cases written : scope = [] ∨ key ≠ ""
  · -- The name is taken apart into the place of the query.
    have listed : key ∈ inner.queries.map Prod.fst := exists_lookup_iff.mp ⟨old, kept⟩
    obtain ⟨head, free, undotted, form⟩ := (shaped.within there).keys key listed
    have place := DottedName.ofString_joined ⟨names, undotted, form⟩ written
    have ends := DottedName.key_ofString (DottedName.joined key scope)
    rw [place] at ends
    refine ⟨inner, ?_, ?_, fun child => ?_, fun _ => ?_⟩
    · rw [place]
      exact there
    · rw [place]
      exact free
    · rw [place] at child
      -- If the key is the head, a catalog of that name would have been in the way of the query.
      rcases ends with ⟨same, -⟩ | ⟨-, dotted⟩
      · have own : key = head := same
        exact absurd child ((shaped.within there).disjoint head (own ▸ listed))
      · exact dotted
    · rw [place]
      exact ⟨old, kept⟩
  · -- The query has an empty name, so its name ends in the dot after that of its catalog.
    rw [not_or, not_not] at written
    obtain ⟨some_, rfl⟩ := written
    obtain ⟨front, last, rfl⟩ := (List.eq_nil_or_concat scope).resolve_left some_
    rw [List.concat_eq_append] at there names ⊢
    rw [DottedName.joined_append, String.append_empty]
    have regular : DottedName.Regular ⟨front, last, last ++ "."⟩ :=
      ⟨fun part member => names part (List.mem_append_left _ member), names last (by simp),
        .inr rfl⟩
    have written : last ++ "." ≠ "" := fun empty => by simpa using congrArg String.length empty
    have place := DottedName.ofString_joined regular (Or.inr written)
    have ends := DottedName.key_ofString (DottedName.joined (last ++ ".") front)
    rw [place] at ends
    obtain ⟨outer, outside, child⟩ := Option.bind_eq_some_iff.mp
      ((within?_append catalog front [last]).symm.trans there)
    have listed : last ∈ outer.children.map Prod.fst :=
      (isSome_within?_concat_iff outside).mp (Option.isSome_iff_exists.mpr ⟨inner, there⟩)
    refine ⟨outer, ?_, ?_, fun _ => ?_, fun absent => ?_⟩
    · rw [place]
      exact outside
    · rw [place]
      exact ((shaped.within outside).names last listed).1
    · -- The key is longer than the head.
      refine (ends.resolve_left fun ⟨same, _⟩ => ?_).2
      have lengths := congrArg String.length same
      simp at lengths
    · rw [place] at absent
      contradiction

/-- Whatever calls are made on an empty catalog and on those within it, adding a query under a
listed name is refused just when the name ends in a dot and what precedes the dot leads to a
catalog, and then nothing changes. Otherwise the query takes the place of the one that was there,
and the others stay. -/
theorem readd_refused_iff (config : Option Config) (calls : List NestedCall) (name : String)
    (sql : Text) (listed : name ∈ ((empty config).performAllWithin calls).names) :
    let catalog := (empty config).performAllWithin calls
    let dotted := DottedName.ofString name
    let blocked := DottedName.EndsInDot name ∧
      (catalog.within? (dotted.scope ++ [dotted.head])).isSome = true
    ((∃ fault, (catalog.add name sql).2 = .error fault) ↔ blocked) ∧
    (blocked → (catalog.add name sql).1 = catalog) ∧
    (¬ blocked → ∃ old new, catalog.queryAt? dotted.key dotted.scope = some old ∧
      (catalog.add name sql).2 = .ok new ∧ new.sql = sql ∧
      ∀ key scope, (catalog.add name sql).1.queryAt? key scope =
        if (scope, key) = DottedName.place name then some new else catalog.queryAt? key scope) := by
  intro catalog dotted blocked
  have shaped : Shaped config catalog := (Shaped.empty config).performAllWithin calls
  obtain ⟨inner, there, free, ends, query⟩ := shaped.listed listed
  have refused : (∃ fault, (catalog.add name sql).2 = .error fault) ↔
      (catalog.within? (dotted.scope ++ [dotted.head])).isSome = true :=
    shaped.refused_addAt_iff there free
  -- A catalog of the head is in the way only of a name that ends in a dot.
  have child : (catalog.within? (dotted.scope ++ [dotted.head])).isSome = true ↔
      dotted.head ∈ inner.children.map Prod.fst := isSome_within?_concat_iff there
  have outcome : (∃ fault, (catalog.add name sql).2 = .error fault) ↔ blocked :=
    refused.trans ⟨fun leads => ⟨ends (child.mp leads), leads⟩, And.right⟩
  refine ⟨outcome, fun held => ?_, fun open_ => ?_⟩
  · obtain ⟨fault, failed⟩ := outcome.mpr held
    exact addAt_eq_self there failed
  · -- The head is not the name of a catalog, so it leads to a query, which is replaced.
    have absent : dotted.head ∉ inner.children.map Prod.fst := fun member =>
      open_ (outcome.mp (refused.mpr (child.mpr member)))
    obtain ⟨old, kept⟩ := query absent
    have found : catalog.queryAt? dotted.key dotted.scope = some old := by
      rw [queryAt?_eq, there]
      exact kept
    cases added : (catalog.add name sql).2 with
    | error fault => exact absurd (outcome.mp ⟨fault, added⟩) open_
    | ok new =>
      obtain ⟨own, made⟩ := query_of_addAt added
      refine ⟨old, new, found, rfl, by rw [made]; rfl, fun key scope => ?_⟩
      rw [queryAt?_add, added]

/-- Calls that add a query under a name that ends in a dot, and one in the catalog of that name but
for the dot. -/
def crossedCalls : List NestedCall :=
  [⟨[], .add "c." ['X']⟩, ⟨[], .add "c.d" ['Y']⟩]

/-- Both queries are there. -/
theorem crossedCalls_outcome :
    (empty none).performAllWithin crossedCalls =
      mk none [("c.", ⟨"c.", ['X'], none⟩)] [("c", mk none [("d", ⟨"d", ['Y'], none⟩)] [])] := by
  -- The names are split and the reserved ones told first, so that the calls can be run by
  -- rewriting.
  have dotted : DottedName.ofString "c." = ⟨[], "c", "c."⟩ := by with_unfolding_all rfl
  have nested : DottedName.ofString "c.d" = ⟨["c"], "d", "d"⟩ := by with_unfolding_all rfl
  have c : isReserved "c" = false := by decide +kernel
  have d : isReserved "d" = false := by decide +kernel
  simp [crossedCalls, performAllWithin, performWithin, change, perform, add, addAt, dotted, nested,
    refuseScope, refuseQuery, c, d, empty, put, children, queries, config, Query.make]

/-- The name that ends in a dot is refused when it is added again, and under the other name another
query takes the place of the one there. -/
theorem crossed_names_added_again :
    let catalog := (empty none).performAllWithin crossedCalls
    (∃ fault, (catalog.add "c." ['Z']).2 = .error fault) ∧ (catalog.add "c." ['Z']).1 = catalog ∧
      ∃ new, (catalog.add "c.d" ['Z']).1.queryAt? "d" ["c"] = some new ∧ new.sql = ['Z'] := by
  intro catalog
  have shaped : Shaped none catalog := (Shaped.empty none).performAllWithin crossedCalls
  have dotted : DottedName.ofString "c." = ⟨[], "c", "c."⟩ := by with_unfolding_all rfl
  have nested : DottedName.ofString "c.d" = ⟨["c"], "d", "d"⟩ := by with_unfolding_all rfl
  -- Both names are listed, so the general theorem applies to either of them.
  have first : "c." ∈ catalog.names :=
    (mem_names_iff shaped.distinct).mpr ⟨[], "c.", ⟨"c.", ['X'], none⟩, by
      rw [show catalog = _ from crossedCalls_outcome]
      rfl, rfl⟩
  have second : "c.d" ∈ catalog.names :=
    (mem_names_iff shaped.distinct).mpr ⟨["c"], "d", ⟨"d", ['Y'], none⟩, by
      rw [show catalog = _ from crossedCalls_outcome]
      rfl, rfl⟩
  obtain ⟨refused, unchanged, -⟩ := readd_refused_iff none crossedCalls "c." ['Z'] first
  obtain ⟨-, -, replaced⟩ := readd_refused_iff none crossedCalls "c.d" ['Z'] second
  have blocked : DottedName.EndsInDot "c." ∧ (catalog.within? ["c"]).isSome = true := by
    rw [DottedName.EndsInDot, show catalog = _ from crossedCalls_outcome]
    exact ⟨by decide, rfl⟩
  rw [dotted] at refused unchanged
  refine ⟨refused.mpr blocked, unchanged blocked, ?_⟩
  -- The other name does not end in a dot.
  have plain : ¬ DottedName.EndsInDot "c.d" := by
    rw [DottedName.EndsInDot]
    decide
  obtain ⟨old, new, -, -, sql, found⟩ := replaced (plain ·.1)
  refine ⟨new, (found "d" ["c"]).trans (if_pos ?_), sql⟩
  rw [DottedName.place, nested]

/-- A query that is added twice is replaced and not refused, so not every name in use is. -/
theorem second_add_replaces :
    let catalog := (empty none).performAllWithin [⟨[], .add "a" ['X']⟩]
    ("a" ∈ catalog.names ∧ (catalog.add "a" ['Y']).2 = .ok ⟨"a", ['Y'], none⟩ ∧
      (catalog.add "a" ['Y']).1.get "a" = .ok (.query ⟨"a", ['Y'], none⟩)) ∧
    ¬ ∀ config calls name sql, name ∈ ((empty config).performAllWithin calls).names →
      ∃ fault, (((empty config).performAllWithin calls).add name sql).2 = .error fault := by
  -- Both additions are run; the first makes the name listed and the second succeeds.
  intro catalog
  have plain : DottedName.ofString "a" = ⟨[], "a", "a"⟩ := by with_unfolding_all rfl
  have a : isReserved "a" = false := by decide +kernel
  have outcome : catalog = mk none [("a", ⟨"a", ['X'], none⟩)] [] := by
    simp [catalog, performAllWithin, performWithin, change, perform, add, addAt, plain, refuseQuery,
      a, empty, put, children, queries, config, Query.make]
  have added : catalog.add "a" ['Y'] =
      (mk none [("a", ⟨"a", ['Y'], none⟩)] [], .ok ⟨"a", ['Y'], none⟩) := by
    simp [outcome, add, addAt, plain, refuseQuery, a, put, children, queries, config, Query.make]
  have listed : "a" ∈ catalog.names :=
    (mem_names_iff ((Shaped.empty none).performAllWithin _).distinct).mpr
      ⟨[], "a", ⟨"a", ['X'], none⟩,
        by rw [show (empty none).performAllWithin _ = _ from outcome]; rfl, rfl⟩
  refine ⟨⟨listed, by rw [added], ?_⟩, fun refuses => ?_⟩
  · rw [added, get, plain]
    rfl
  · -- A second addition that succeeds is not refused.
    obtain ⟨fault, refused⟩ := refuses none [⟨[], .add "a" ['X']⟩] "a" ['Y'] listed
    have failed : (catalog.add "a" ['Y']).2 = .error fault := refused
    rw [added] at failed
    contradiction

end Catalog

end SqlTemplate
