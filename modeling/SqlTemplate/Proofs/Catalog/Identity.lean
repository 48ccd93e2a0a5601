import SqlTemplate.Proofs.Catalog.Objects

/-! An attribute of a catalog refers to the very object that is the item of its name, at every level
and whatever calls were made. -/

namespace SqlTemplate

namespace CatalogObject

/-- Each attribute of a catalog, and of those within it, refers to the item of its name. -/
inductive Attributed : CatalogObject → Prop
  /-- Attributes are those of the queries and of the catalogs. -/
  | mk {number : Nat} {config : Option Config} {queries : List (String × QueryObject)}
    {children : List (String × CatalogObject)} {attributes : List (String × Nat)}
    (agree : ∀ name, attributes.lookup name = ((queries.lookup name).map QueryObject.number).or
      ((children.lookup name).map CatalogObject.number))
    (each : ∀ entry ∈ children, Attributed entry.2) :
    Attributed (mk number config queries children attributes)

/-- What becomes of a catalog when objects are made in it whose numbers are new. -/
structure Grows (object grown : CatalogObject) (next after : Nat) : Prop where
  /-- It is the same object. -/
  number : grown.number = object.number
  /-- Numbers are given out in order. -/
  supply : next ≤ after
  /-- It has no more objects than before and those that are new. -/
  numbers : ∀ n, grown.numbers.count n ≤
    object.numbers.count n + if next ≤ n ∧ n < after then 1 else 0
  /-- Its attributes stay right. -/
  attributed : object.Attributed → grown.Attributed

section Numbers

variable {object child grown inner : CatalogObject} {children : List (String × CatalogObject)}
  {head key name : String} {sql : Text} {next between after : Nat} {scope : List String}

/-- A catalog that is put in the place of another one has its numbers there. -/
theorem count_put_of_lookup (found : children.lookup name = some child) (grown : CatalogObject)
    (n : Nat) :
    (childNumbers (Catalog.put children name grown)).count n + child.numbers.count n =
      (childNumbers children).count n + grown.numbers.count n := by
  -- By induction to the entry that is replaced; the numbers of the others are counted on both
  -- sides.
  induction children with
  | nil => contradiction
  | cons entry rest ih =>
    obtain ⟨other, first⟩ := entry
    rw [lookup_cons_eq] at found
    by_cases same : name = other
    · rw [if_pos same] at found
      obtain rfl := Option.some.inj found
      rw [Catalog.put, if_pos same.symm]
      simp only [childNumbers, List.count_append]
      omega
    · rw [if_neg same] at found
      rw [Catalog.put, if_neg (Ne.symm same)]
      have later := ih found
      simp only [childNumbers, List.count_append]
      omega

/-- A catalog that is put under a new name adds its numbers. -/
theorem count_put_of_missing (missing : children.lookup name = none) (grown : CatalogObject)
    (n : Nat) :
    (childNumbers (Catalog.put children name grown)).count n =
      (childNumbers children).count n + grown.numbers.count n := by
  -- No entry has the name, so the new one comes after all of them.
  induction children with
  | nil => simp [Catalog.put, childNumbers]
  | cons entry rest ih =>
    obtain ⟨other, first⟩ := entry
    rw [lookup_cons_eq] at missing
    split at missing
    · contradiction
    · rename_i apart
      rw [Catalog.put, if_neg (Ne.symm apart)]
      have later := ih missing
      simp only [childNumbers, List.count_append]
      omega

/-- A query that is put under a key adds its number at most. -/
theorem count_put_query_le (entries : List (String × QueryObject)) (query : QueryObject) (n : Nat) :
    ((Catalog.put entries key query).map fun entry => entry.2.number).count n ≤
      (entries.map fun entry => entry.2.number).count n + [query.number].count n := by
  -- A query that is replaced takes its number along, which only lowers the count.
  induction entries with
  | nil => simp [Catalog.put]
  | cons entry rest ih =>
    obtain ⟨other, first⟩ := entry
    rw [Catalog.put]
    split
    · simp only [List.map_cons, List.count_cons, List.count_nil]
      omega
    · rw [List.map_cons, List.map_cons, List.count_cons, List.count_cons]
      omega

/-- The objects of a number in a catalog are itself, queries of it, or in the catalogs within it. -/
theorem count_numbers (object : CatalogObject) (n : Nat) :
    object.numbers.count n = [object.number].count n +
      (object.queries.map fun entry => entry.2.number).count n +
      (childNumbers object.children).count n := by
  -- The list of numbers is put together in just this order.
  cases object
  rw [numbers, List.count_append, ← List.singleton_append, List.count_append]
  rfl

/-- A new number is one of those that are given out. -/
theorem count_singleton_le (next n : Nat) :
    [next].count n ≤ if next ≤ n ∧ n < next + 1 then 1 else 0 := by
  -- If the number is the new one, it lies in the range from it to the next.
  rw [List.count_singleton]
  split
  · rename_i same
    rw [if_pos (by have := beq_iff_eq.mp same; omega)]
  · exact Nat.zero_le _

/-- Attributes are right when they are here and in each catalog within. -/
theorem attributed_iff :
    object.Attributed ↔
      (∀ name, object.attributes.lookup name =
        ((object.queries.lookup name).map QueryObject.number).or
          ((object.children.lookup name).map number)) ∧
        ∀ entry ∈ object.children, entry.2.Attributed := by
  -- This is the one rule by which attributes are right, read in both directions.
  constructor
  · rintro ⟨agree, each⟩
    exact ⟨agree, each⟩
  · cases object
    rintro ⟨agree, each⟩
    exact .mk agree each

namespace Grows

/-- A catalog grows into itself. -/
theorem refl (object : CatalogObject) (next : Nat) : Grows object object next next :=
  ⟨rfl, Nat.le_refl next, fun _ => Nat.le_add_right .., id⟩

/-- A catalog that grows twice grows. -/
theorem trans (first : Grows object inner next between) (second : Grows inner grown between after) :
    Grows object grown next after := by
  refine ⟨second.number.trans first.number, first.supply.trans second.supply, fun n => ?_,
    second.attributed ∘ first.attributed⟩
  -- A new number is either one of the first or one of the second.
  have here := first.numbers n
  have there := second.numbers n
  have early := first.supply
  have late := second.supply
  split at here <;> split at there <;> split <;> omega

/-- A catalog grows by a new query. -/
theorem withQuery (object : CatalogObject) (key : String) (query : QueryObject) :
    Grows object (object.withQuery key query) query.number (query.number + 1) := by
  refine ⟨rfl, Nat.le_succ _, fun n => ?_, fun attributed => ?_⟩
  · -- The query before under the key, if there was one, gives way to the new one.
    have most := @count_put_query_le key object.queries query n
    rw [count_numbers, count_numbers object]
    rw [number_withQuery, queries_withQuery, children_withQuery]
    have new := count_singleton_le query.number n
    omega
  · obtain ⟨agree, each⟩ := attributed_iff.mp attributed
    refine attributed_iff.mpr ⟨fun other => ?_, each⟩
    -- The attribute of the key is put where the query is, and queries come before catalogs.
    rw [attributes_withQuery, queries_withQuery, children_withQuery, Catalog.lookup_put,
      Catalog.lookup_put]
    by_cases same : other = key
    · rw [if_pos same, if_pos same]
      rfl
    · rw [if_neg same, if_neg same]
      exact agree other

/-- A catalog grows by a new one under a name that neither a query nor a catalog has. -/
theorem withNew (unused : object.queries.lookup name = none)
    (missing : object.children.lookup name = none) (next : Nat) :
    Grows object (object.withNew name next) next (next + 1) := by
  refine ⟨rfl, Nat.le_succ _, fun n => ?_, fun attributed => ?_⟩
  · -- The new catalog adds its own number, which is the next one.
    have one := count_put_of_missing missing (new next object.config) n
    have own : (new next object.config).numbers.count n = [next].count n := by
      rw [count_numbers]
      rfl
    rw [count_numbers, count_numbers object, number_withNew, queries_withNew, children_withNew, one,
      own]
    have new := count_singleton_le next n
    omega
  · obtain ⟨agree, each⟩ := attributed_iff.mp attributed
    refine attributed_iff.mpr ⟨fun other => ?_, fun entry member => ?_⟩
    · -- The new catalog is the item of its name, for no query is.
      rw [attributes_withNew, queries_withNew, children_withNew, Catalog.lookup_put,
        Catalog.lookup_put]
      by_cases same : other = name
      · rw [if_pos same, if_pos same, same, unused]
        rfl
      · rw [if_neg same, if_neg same]
        exact agree other
    · rcases Catalog.mem_of_mem_put member with rfl | before
      · -- A new catalog has nothing that its attributes could get wrong.
        exact .mk (fun other => rfl) fun entry member => by contradiction
      · exact each entry before

/-- A catalog grows when one within it does. -/
theorem withChild (found : object.children.lookup name = some child)
    (grows : Grows child grown next after) :
    Grows object (object.withChild name grown) next after := by
  refine ⟨rfl, grows.supply, fun n => ?_, fun attributed => ?_⟩
  · -- The child is swapped for what it has grown into.
    have swapped := count_put_of_lookup found grown n
    have inside := grows.numbers n
    rw [count_numbers, count_numbers object, number_withChild, queries_withChild,
      children_withChild]
    omega
  · obtain ⟨agree, each⟩ := attributed_iff.mp attributed
    refine attributed_iff.mpr ⟨fun other => ?_, fun entry member => ?_⟩
    · -- The child stays the same object, so the attribute still refers to it.
      rw [attributes_withChild, queries_withChild, children_withChild, Catalog.lookup_put,
        agree other]
      by_cases same : other = name
      · rw [if_pos same, same, found, Option.map_some, Option.map_some, grows.number]
      · rw [if_neg same]
    · rcases Catalog.mem_of_mem_put member with rfl | before
      · exact grows.attributed (each _ (mem_of_lookup found))
      · exact each entry before

/-- A catalog grows when one of a name that no query has is ensured in it, and has that one then. -/
theorem ensure (unused : object.queries.lookup name = none) (next : Nat) :
    Grows object (object.ensure name next).1 next (object.ensure name next).2.2 ∧
      (object.ensure name next).1.children.lookup name = some (object.ensure name next).2.1 := by
  -- A catalog that is there is handed out as it is, and otherwise an empty one is put under the
  -- name.
  rw [CatalogObject.ensure]
  cases found : object.children.lookup name with
  | some child => exact ⟨refl object next, found⟩
  | none =>
    refine ⟨withNew unused found next, ?_⟩
    rw [children_withNew, Catalog.lookup_put, if_pos rfl]

/-- A catalog grows by an addition, be it refused or not. -/
theorem addAt (object : CatalogObject) (head key : String) (sql : Text) (next : Nat)
    (scope : List String) :
    Grows object (object.addAt head key sql next scope).1 next
      (object.addAt head key sql next scope).2.1 := by
  induction scope generalizing object next with
  | nil =>
    rw [CatalogObject.addAt]
    cases object.catalog.refuseQuery head with
    | some fault => exact refl object next
    | none => exact withQuery object key ⟨next, _⟩
  | cons name rest ih =>
    rw [CatalogObject.addAt]
    cases refused : object.catalog.refuseScope name with
    | some fault => exact refl object next
    | none =>
      -- The catalog of the first name is ensured and then grows.
      have free := (Catalog.refuseScope_eq_none_iff.mp refused).2
      rw [← lookup_eq_none_iff, queries_catalog, lookup_map_snd, Option.map_eq_none_iff] at free
      obtain ⟨opens, found⟩ := ensure free next
      exact opens.trans (withChild found (ih _ _))

/-- A catalog grows by additions. -/
theorem addAll (object : CatalogObject) (next : Nat) (given : List (String × Text)) :
    Grows object (object.addAll next given).1 next (object.addAll next given).2 := by
  -- One addition after the other lets the catalog grow, up to the first that is refused.
  induction given generalizing object next with
  | nil => exact refl object next
  | cons entry rest ih =>
    obtain ⟨name, sql⟩ := entry
    have first := addAt object (DottedName.ofString name).head (DottedName.ofString name).key sql
      next (DottedName.ofString name).scope
    rw [CatalogObject.addAll, add]
    generalize object.addAt _ _ sql next _ = added at first
    rcases added with ⟨grown, after, fault | query⟩
    · exact first
    · exact first.trans (ih grown after)

/-- A catalog grows by additions to one within it. -/
theorem addAllWithin (object : CatalogObject) (given : List (String × Text)) (next : Nat)
    (scope : List String) :
    Grows object (object.addAllWithin given next scope).1 next
      (object.addAllWithin given next scope).2 := by
  -- By induction on the names: a catalog grows with the one within it that does.
  induction scope generalizing object next with
  | nil => exact addAll object next given
  | cons name rest ih =>
    rw [CatalogObject.addAllWithin]
    cases found : object.children.lookup name with
    -- exact refl object next => no catalog has the name, so nothing is added
    | none => exact refl object next
    | some child => exact withChild found (ih child next)

/-- A catalog grows by calls. -/
theorem performAllWithin (object : CatalogObject) (next : Nat) (calls : List Catalog.NestedCall) :
    Grows object (object.performAllWithin next calls).1 next
      (object.performAllWithin next calls).2 := by
  -- By induction on the calls, since growing twice is growing.
  induction calls generalizing object next with
  | nil => exact refl object next
  | cons nested rest ih => exact (addAllWithin object _ next nested.scope).trans (ih _ _)

end Grows

/-- Attributes are right in the catalogs that names lead to. -/
theorem Attributed.within (attributed : object.Attributed)
    (there : object.within? scope = some inner) : inner.Attributed := by
  -- By induction on the names, from a catalog to one that it has.
  induction scope generalizing object with
  | nil => exact Option.some.inj there ▸ attributed
  | cons name rest ih =>
    rw [within?] at there
    cases found : object.children.lookup name with
    | none =>
      rw [found] at there
      contradiction
    | some child =>
      rw [found] at there
      exact ih ((attributed_iff.mp attributed).2 _ (mem_of_lookup found)) there

/-- The attribute of a name without dots refers to the item of that name. -/
theorem Attributed.member_eq_ok_iff (attributed : object.Attributed) (undotted : '.' ∉ name.toList)
    {n : Nat} :
    object.member name = .ok n ↔ ∃ item, object.get name = .ok item ∧ item.number = n := by
  -- Attribute and lookup both ask the queries first and then the catalogs.
  rw [member, (attributed_iff.mp attributed).1 name, get, DottedName.ofString_of_undotted undotted,
    getAt]
  cases object.queries.lookup name with
  | some query => simp [Item.number]
  | none => cases object.children.lookup name <;> simp [Item.number]

end Numbers

section Shape

variable {object : CatalogObject} {name : String}

/-- A name among those of the queries and catalogs leads to an item. -/
theorem exists_item_of_mem (undotted : '.' ∉ name.toList)
    (member : name ∈ object.catalog.queries.map Prod.fst ++ object.catalog.children.map Prod.fst) :
    ∃ item, object.get name = .ok item := by
  rw [List.mem_append, ← exists_lookup_iff, ← exists_lookup_iff, queries_catalog, children_catalog,
    lookup_map_snd, lookup_map_snd] at member
  -- A name without dots is looked up among the queries first and then among the catalogs.
  rw [get, DottedName.ofString_of_undotted undotted, getAt]
  cases query : object.queries.lookup name with
  | some found => exact ⟨_, rfl⟩
  | none =>
    cases child : object.children.lookup name with
    | some found => exact ⟨_, rfl⟩
    | none => simp [query, child] at member

/-- In a new catalog, and in what calls make of it, no two objects have one number. -/
theorem nodup_numbers_performAllWithin (config : Option Config) (calls : List Catalog.NestedCall) :
    ((new 0 config).performAllWithin 1 calls).1.numbers.Nodup := by
  refine List.nodup_iff_count_le_one.mpr fun n => ?_
  have most := (Grows.performAllWithin (new 0 config) 1 calls).numbers n
  have first : (new 0 config).numbers.count n = [0].count n := rfl
  rw [first, List.count_singleton] at most
  -- The catalog has the number that comes before all that are given out.
  split at most <;> split at most <;> simp_all <;> omega

end Shape

/-- Whatever calls are made on a new catalog and on those within it, no two objects have one number.
At every level queries and catalogs have different names, of which none is that of a member, a name
without dots leads to the same object as an item and as an attribute, and the settings are those of
the whole. -/
theorem performAllWithin_shape (config : Option Config) (calls : List Catalog.NestedCall) :
    let root := ((new 0 config).performAllWithin 1 calls).1
    root.numbers.Nodup ∧ root.catalog = (Catalog.empty config).performAllWithin calls ∧
    ∀ scope object, root.within? scope = some object →
      let catalog := object.catalog
      let names := catalog.queries.map Prod.fst ++ catalog.children.map Prod.fst
      (∀ name ∈ catalog.queries.map Prod.fst, name ∉ catalog.children.map Prod.fst) ∧
      (∀ name ∈ names, Catalog.isReserved name = false) ∧
      (∀ name ∈ names, '.' ∉ name.toList → ∃ item,
        object.get name = .ok item ∧ object.member name = .ok item.number ∧
        catalog.get name = .ok item.plain ∧ catalog.member name = .ok item.plain) ∧
      catalog.config = config ∧ ∀ entry ∈ catalog.queries, entry.2.config = config := by
  intro root
  have same : root.catalog = (Catalog.empty config).performAllWithin calls :=
    catalog_performAllWithin (new 0 config) 1 calls
  refine ⟨nodup_numbers_performAllWithin config calls, same, fun scope object there => ?_⟩
  intro catalog names
  -- The catalog of the object is within one that has the shape.
  have inside : ((Catalog.empty config).performAllWithin calls).within? scope = some catalog := by
    rw [← same, within?_catalog, there]
    rfl
  have shaped := ((Catalog.Shaped.empty config).performAllWithin calls).within inside
  -- Calls keep attributes right everywhere, so they are right in this object.
  have attributed : object.Attributed :=
    ((Grows.performAllWithin (new 0 config) 1 calls).attributed
      (attributed_iff.mpr ⟨fun _ => rfl, fun entry member => by contradiction⟩)).within there
  -- A listed name leads to an item, to which its attribute refers as well.
  have items : ∀ name ∈ names, '.' ∉ name.toList → ∃ item,
      object.get name = .ok item ∧ object.member name = .ok item.number ∧
      catalog.get name = .ok item.plain ∧ catalog.member name = .ok item.plain := by
    intro name listed undotted
    obtain ⟨item, found⟩ := exists_item_of_mem undotted listed
    have plain : catalog.get name = .ok item.plain := by
      have leads := getAt_catalog object (DottedName.ofString name).head
        (DottedName.ofString name).scope
      rw [Catalog.get, leads, show object.getAt _ _ = .ok item from found]
      rfl
    exact ⟨item, found, (attributed.member_eq_ok_iff undotted).mpr ⟨item, found, rfl⟩, plain,
      (Catalog.get_eq_ok_iff_member undotted).mp plain⟩
  refine ⟨shaped.disjoint, ?_, items, shaped.config_eq, shaped.settled⟩
  exact List.forall_mem_append.mpr
    ⟨fun name => shaped.unreserved_key, fun name listed => (shaped.names name listed).1⟩

/-- A query in a catalog of its own, and one more that is added there before one is refused. -/
def nestedCalls : List Catalog.NestedCall :=
  [⟨[], .add "a.b" ['X']⟩, ⟨["a"], .addAll [("c", ['Y']), ("config", ['Z'])]⟩]

/-- The catalog within has the two queries. -/
theorem nestedCalls_within :
    ((new 0 none).performAllWithin 1 nestedCalls).1.within? ["a"] =
      some (mk 1 none [("b", ⟨2, ⟨"b", ['X'], none⟩⟩), ("c", ⟨3, ⟨"c", ['Y'], none⟩⟩)] []
        [("b", 2), ("c", 3)]) := by
  -- The names are split and the reserved ones told first, so that the calls can be run by
  -- rewriting.
  have nested : DottedName.ofString "a.b" = ⟨["a"], "b", "b"⟩ := by with_unfolding_all rfl
  have plain : DottedName.ofString "c" = ⟨[], "c", "c"⟩ := by with_unfolding_all rfl
  have refused : DottedName.ofString "config" = ⟨[], "config", "config"⟩ := by
    with_unfolding_all rfl
  have a : Catalog.isReserved "a" = false := by decide +kernel
  have b : Catalog.isReserved "b" = false := by decide +kernel
  have c : Catalog.isReserved "c" = false := by decide +kernel
  have taken : Catalog.isReserved "config" = true := by decide +kernel
  simp [nestedCalls, performAllWithin, addAllWithin, Catalog.Call.templates, addAll, add, addAt,
    nested, plain, refused, Catalog.refuseScope, Catalog.refuseQuery, a, b, c, taken, ensure, new,
    withNew, withChild, withQuery, Catalog.put, within?, children, queries, config, number,
    attributes, Query.make]

/-- A query that was added before one that was refused is an item and an attribute. -/
theorem item_before_refused :
    ∃ object, ((new 0 none).performAllWithin 1 nestedCalls).1.within? ["a"] = some object ∧
      Catalog.isReserved "c" = false ∧ ∃ item, object.get "c" = .ok item ∧
        object.member "c" = .ok item.number ∧ item.number = 3 := by
  -- The listed name is dotless, so by the shape of the catalog it is an item and refers to it.
  obtain ⟨-, -, shape⟩ := performAllWithin_shape none nestedCalls
  obtain ⟨-, unreserved, items, -⟩ := shape ["a"] _ nestedCalls_within
  have listed : "c" ∈ ["b", "c"] ++ [] := by decide
  obtain ⟨item, found, refers, -⟩ := items "c" listed (by decide)
  refine ⟨_, nestedCalls_within, unreserved "c" listed, item, found, refers, ?_⟩
  exact (Except.ok.inj refers).symm

end CatalogObject

end SqlTemplate
