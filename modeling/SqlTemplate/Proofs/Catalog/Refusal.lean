import SqlTemplate.Proofs.Catalog.Nesting

/-! A refused addition changes no query. It leaves nothing behind just when the names before the one
that is refused led to a catalog already; otherwise the catalogs that were made for them stay. -/

namespace SqlTemplate.Catalog

/-- A catalog in which some names lead to one, each within the one before. Catalogs that are missing
are made. -/
def opened (catalog : Catalog) : List String → Catalog
  | [] => catalog
  | name :: rest =>
    mk catalog.config catalog.queries
      (put catalog.children name (opened (catalog.child name) rest))

/-- Why a catalog refuses a name, be it that of a query or followed by other names. -/
def refuse (catalog : Catalog) (name : String) : List String → Option CatalogFault
  | [] => catalog.refuseQuery name
  | _ :: _ => catalog.refuseScope name

/-- An addition under the parts of a name is refused at one of them, in the catalog that the parts
before it lead to once they are opened. -/
structure RefusedAt (catalog : Catalog) (parts front : List String) (part : String)
    (rest : List String) (fault : CatalogFault) : Prop where
  /-- The part is among them. -/
  parts : parts = front ++ part :: rest
  /-- The catalog there refuses it. -/
  refuses : ∃ inner, (catalog.opened front).within? front = some inner ∧
    inner.refuse part rest = some fault

section Opening

variable {catalog inner : Catalog} {name : String} {front rest : List String}
  {fault : CatalogFault}

/-- What is kept under a name may be put there again. -/
theorem put_of_lookup {α : Type} {entries : List (String × α)} {item : α}
    (found : entries.lookup name = some item) : put entries name item = entries := by
  -- By induction to the entry that is found, which is replaced by itself.
  induction entries with
  | nil => contradiction
  | cons entry rest ih =>
    obtain ⟨key, old⟩ := entry
    rw [lookup_cons_eq] at found
    by_cases same : name = key
    · rw [if_pos same] at found
      rw [put, if_pos same.symm, Option.some.inj found]
    · rw [if_neg same] at found
      rw [put, if_neg (Ne.symm same), ih found]

/-- The catalog that a name leads to is the one of that name. -/
theorem child_of_lookup (found : catalog.children.lookup name = some inner) :
    catalog.child name = inner := by
  rw [child, found, Option.getD_some]

/-- After a name is opened, it leads to the catalog of that name with the others opened. -/
theorem within?_opened_cons (catalog : Catalog) (name : String) (rest : List String) :
    (catalog.opened (name :: rest)).within? (name :: rest) =
      ((catalog.child name).opened rest).within? rest := by
  -- Opening puts the catalog of the name there, and that is the one the name leads to then.
  rw [opened, within?, children, lookup_put, if_pos rfl]

/-- Names that are opened lead to a catalog. -/
theorem isSome_within?_opened (catalog : Catalog) (front : List String) :
    ((catalog.opened front).within? front).isSome = true := by
  -- By induction on the names, each of which leads to a catalog once it is opened.
  induction front generalizing catalog with
  | nil => rfl
  | cons name rest ih =>
    rw [within?_opened_cons]
    exact ih (catalog.child name)

/-- In an empty catalog, names that are opened lead to an empty one. -/
theorem within?_opened_empty (config : Option Config) (front : List String) :
    ((empty config).opened front).within? front = some (empty config) := by
  -- By induction on the names: the first opens an empty catalog, in which the others are opened.
  induction front with
  | nil => rfl
  | cons name rest ih =>
    rw [within?_opened_cons]
    exact ih

/-- Names that led to no catalog lead to an empty one once they are opened. -/
theorem within?_opened_of_missing (missing : catalog.within? front = none) :
    ∃ config, (catalog.opened front).within? front = some (empty config) := by
  induction front generalizing catalog with
  | nil => contradiction
  | cons name rest ih =>
    rw [within?_opened_cons]
    rw [within?] at missing
    cases found : catalog.children.lookup name with
    | none =>
      -- The first name is missing, so its catalog is new and has no others in it.
      rw [child, found]
      exact ⟨_, within?_opened_empty catalog.config rest⟩
    | some inner =>
      rw [found] at missing
      rw [child_of_lookup found]
      exact ih missing

/-- Opening names changes nothing just when they led to a catalog before. -/
theorem opened_eq_self_iff :
    catalog.opened front = catalog ↔ (catalog.within? front).isSome = true := by
  -- Opened names lead to a catalog, so they must have led to one. If they did, by induction each
  -- name puts back the catalog that was under it.
  constructor
  · intro same
    have leads := isSome_within?_opened catalog front
    rwa [same] at leads
  · intro leads
    induction front generalizing catalog with
    | nil => rfl
    | cons name rest ih =>
      rw [within?] at leads
      cases found : catalog.children.lookup name with
      | none =>
        rw [found] at leads
        contradiction
      | some inner =>
        rw [found] at leads
        rw [opened, child_of_lookup found, ih leads, put_of_lookup found]
        cases catalog
        rfl

/-- The same queries are found after names are opened. -/
theorem queryAt?_opened (catalog : Catalog) (front : List String) (key : String)
    (scope : List String) :
    (catalog.opened front).queryAt? key scope = catalog.queryAt? key scope := by
  induction front generalizing catalog scope with
  | nil => rfl
  | cons name rest ih =>
    cases scope with
    | nil => rfl
    | cons first others =>
      -- Only what is under the opened name differs, and no query is added there.
      rw [opened, queryAt?_cons, queryAt?_cons, child_put]
      by_cases same : first = name
      · rw [if_pos same, ih, same]
      · rw [if_neg same]

/-- The names in some catalogs are those of each, whichever catalog is put among them, if it has the
names of the one in its place or else none. -/
theorem childNames_put {entries : List (String × Catalog)} {grown : Catalog}
    (same : grown.allNames = ((entries.lookup name).map allNames).getD []) :
    childNames (put entries name grown) = childNames entries := by
  -- By induction to the catalog in whose place the new one is put; if none is there, the new one
  -- comes last and has no names to add.
  induction entries with
  | nil =>
    have none_ : grown.allNames = [] := same
    simp [put, childNames, none_]
  | cons entry rest ih =>
    obtain ⟨key, old⟩ := entry
    rw [lookup_cons_eq] at same
    by_cases found : name = key
    · rw [if_pos found] at same
      have kept : grown.allNames = old.allNames := same
      rw [put, if_pos found.symm, childNames, childNames, kept]
    · rw [if_neg found] at same
      rw [put, if_neg (Ne.symm found), childNames, childNames, ih same]

/-- The same names are listed after some are opened. -/
theorem allNames_opened (catalog : Catalog) (front : List String) :
    (catalog.opened front).allNames = catalog.allNames := by
  -- By induction on the names: what is opened within lists the same, and a new catalog lists
  -- nothing.
  induction front generalizing catalog with
  | nil => rfl
  | cons name rest ih =>
    have same : ((catalog.child name).opened rest).allNames =
        ((catalog.children.lookup name).map allNames).getD [] := by
      rw [ih, child]
      cases catalog.children.lookup name with
      | none => simp [empty, allNames, childNames]
      | some inner => rfl
    cases catalog with
    | mk config queries children =>
      rw [opened, allNames, allNames, Catalog.queries, Catalog.children]
      exact congrArg _ (childNames_put same)

/-- A refusal is that of a member's name, of a query's or of a catalog's. -/
theorem fault_of_refuse (refused : catalog.refuse name rest = some fault) :
    fault = .reserved name ∨ fault = .queryExists name ∨ fault = .catalogExists name := by
  -- The last name is checked as a query and each one before it as a catalog.
  cases rest with
  | nil =>
    rw [refuse, refuseQuery] at refused
    split at refused
    · exact Or.inl (Option.some.inj refused).symm
    · split at refused
      · exact Or.inr (Or.inr (Option.some.inj refused).symm)
      · contradiction
  | cons next others =>
    rw [refuse, refuseScope] at refused
    split at refused
    · exact Or.inl (Option.some.inj refused).symm
    · split at refused
      · exact Or.inr (Or.inl (Option.some.inj refused).symm)
      · contradiction

/-- An empty catalog refuses the names of members only. -/
theorem fault_of_refuse_empty {config : Option Config}
    (refused : (empty config).refuse name rest = some fault) : fault = .reserved name := by
  -- An empty catalog has neither queries nor catalogs that a name could meet.
  cases rest with
  | nil =>
    rw [refuse, refuseQuery] at refused
    split at refused
    · exact (Option.some.inj refused).symm
    · contradiction
  | cons next others =>
    rw [refuse, refuseScope] at refused
    split at refused
    · exact (Option.some.inj refused).symm
    · contradiction

end Opening

section Refusing

variable {catalog : Catalog} {head key name : String} {sql : Text} {scope : List String}
  {fault : CatalogFault}

/-- An addition that is refused at a part of its name has opened the parts before it, and no
more. -/
theorem refusedAt_of_addAt (refused : (catalog.addAt head key sql scope).2 = .error fault) :
    ∃ front part rest, catalog.RefusedAt (scope ++ [head]) front part rest fault ∧
      (catalog.addAt head key sql scope).1 = catalog.opened front := by
  induction scope generalizing catalog with
  | nil =>
    rw [addAt] at refused ⊢
    cases reason : catalog.refuseQuery head with
    | none =>
      rw [reason] at refused
      contradiction
    | some other =>
      rw [reason] at refused
      obtain rfl := Except.error.inj refused
      exact ⟨[], head, [], ⟨rfl, catalog, rfl, reason⟩, rfl⟩
  | cons name rest ih =>
    cases reason : catalog.refuseScope name with
    | some other =>
      -- The first name is refused before anything is made.
      rw [addAt, reason] at refused ⊢
      obtain rfl := Except.error.inj refused
      have some_ : rest ++ [head] ≠ [] :=
        List.append_ne_nil_of_right_ne_nil _ (List.cons_ne_nil _ _)
      obtain ⟨next, others, later⟩ := List.exists_cons_of_ne_nil some_
      refine ⟨[], name, next :: others, ⟨?_, catalog, rfl, reason⟩, rfl⟩
      rw [List.cons_append, later]
      rfl
    | none =>
      -- The refusal is that of the child, which is put back with the parts opened there.
      rw [addAt_cons reason] at refused ⊢
      obtain ⟨front, part, others, ⟨parts, inner, leads, refuses⟩, made⟩ := ih refused
      refine ⟨name :: front, part, others, ⟨?_, inner, ?_, refuses⟩, ?_⟩
      · rw [List.cons_append, parts, List.cons_append]
      · rw [within?_opened_cons, leads]
      · rw [opened, made]

/-- An addition that is refused opens the parts of its name before the refused one, which changes
the catalog just when they did not lead to one before. The refused part is then the name of a
member. In any case the same queries are found and the same names are listed as before. -/
theorem refused_add_unchanged_iff (catalog : Catalog) (name : String) (sql : Text)
    (fault : CatalogFault) (refused : (catalog.add name sql).2 = .error fault) :
    let dotted := DottedName.ofString name
    let after := (catalog.add name sql).1
    ∃ front part rest, catalog.RefusedAt (dotted.scope ++ [dotted.head]) front part rest fault ∧
      (fault = .reserved part ∨ fault = .queryExists part ∨ fault = .catalogExists part) ∧
      after = catalog.opened front ∧
      (after = catalog ↔ (catalog.within? front).isSome = true) ∧
      (after ≠ catalog → fault = .reserved part) ∧
      (∀ key scope, after.queryAt? key scope = catalog.queryAt? key scope) ∧
      after.names = catalog.names := by
  intro dotted after
  obtain ⟨front, part, rest, refusal, made⟩ := refusedAt_of_addAt refused
  have made : after = catalog.opened front := made
  obtain ⟨inner, leads, reason⟩ := refusal.refuses
  have unchanged : after = catalog ↔ (catalog.within? front).isSome = true := by
    rw [made]
    exact opened_eq_self_iff
  refine ⟨front, part, rest, refusal, fault_of_refuse reason, made, unchanged, fun changed => ?_,
    fun key scope => ?_, ?_⟩
  · -- The parts led nowhere, so the catalog that refuses the next one has just been made.
    rw [ne_eq, unchanged, Bool.not_eq_true, Option.isSome_eq_false_iff,
      Option.isNone_iff_eq_none] at changed
    obtain ⟨config, new⟩ := within?_opened_of_missing changed
    rw [leads] at new
    rw [Option.some.inj new] at reason
    exact fault_of_refuse_empty reason
  · rw [made, queryAt?_opened]
  · rw [made, names, names, allNames_opened]

end Refusing

/-- A catalog with a query in a catalog within it. -/
def reports : Catalog :=
  (empty none).performAllWithin [⟨[], .add "a.b" ['X']⟩]

/-- It has just that query, and refuses one with the name of a member beside it. -/
theorem reports_outcome :
    reports = mk none [] [("a", mk none [("b", ⟨"b", ['X'], none⟩)] [])] ∧
      (reports.add "a.config" ['Y']).2 = .error (.reserved "config") := by
  -- The names are split and the reserved ones told first, so that the calls can be run by
  -- rewriting.
  have nested : DottedName.ofString "a.b" = ⟨["a"], "b", "b"⟩ := by with_unfolding_all rfl
  have refused : DottedName.ofString "a.config" = ⟨["a"], "config", "config"⟩ := by
    with_unfolding_all rfl
  have a : isReserved "a" = false := by decide +kernel
  have b : isReserved "b" = false := by decide +kernel
  have taken : isReserved "config" = true := by decide +kernel
  simp [reports, performAllWithin, performWithin, change, perform, add, addAt, nested, refused,
    refuseScope, refuseQuery, a, b, taken, empty, put, children, queries, config, Query.make]

/-- A refusal beside a query leaves the catalog as it was. -/
theorem reports_unchanged :
    (reports.add "a.config" ['Y']).2 = .error (.reserved "config") ∧
      (reports.add "a.config" ['Y']).1 = reports := by
  refine ⟨reports_outcome.2, ?_⟩
  obtain ⟨front, part, rest, refusal, reason, -, unchanged, -⟩ :=
    refused_add_unchanged_iff reports "a.config" ['Y'] _ reports_outcome.2
  have parts := refusal.parts
  have refused : DottedName.ofString "a.config" = ⟨["a"], "config", "config"⟩ := by
    with_unfolding_all rfl
  obtain rfl : "config" = part := by simpa using reason
  -- The part before the refused one leads to the catalog of the query.
  have known : front = ["a"] := by
    rw [refused] at parts
    rcases front with - | ⟨first, - | ⟨second, others⟩⟩ <;> simp_all
  rw [unchanged, known, reports_outcome.1]
  rfl

/-- A refusal in a catalog without queries leaves a catalog behind, which takes the name that it has
from queries, so not every refusal leaves things as they were. -/
theorem refused_add_leaves_catalog :
    ((empty none).add "a.config" ['X']).2 = .error (.reserved "config") ∧
      ((empty none).add "a" ['Y']).2 = .ok ⟨"a", ['Y'], none⟩ ∧
      (((empty none).add "a.config" ['X']).1.add "a" ['Y']).2 = .error (.catalogExists "a") ∧
      ¬ ∀ config calls name sql fault,
        (((empty config).performAllWithin calls).add name sql).2 = .error fault →
          (((empty config).performAllWithin calls).add name sql).1 =
            (empty config).performAllWithin calls := by
  -- The refused addition is run once; the other parts start from what it leaves.
  have nested : DottedName.ofString "a.config" = ⟨["a"], "config", "config"⟩ := by
    with_unfolding_all rfl
  have plain : DottedName.ofString "a" = ⟨[], "a", "a"⟩ := by with_unfolding_all rfl
  have a : isReserved "a" = false := by decide +kernel
  have taken : isReserved "config" = true := by decide +kernel
  have refused : (empty none).add "a.config" ['X'] =
      (mk none [] [("a", empty none)], .error (.reserved "config")) := by
    simp [add, addAt, nested, refuseScope, refuseQuery, a, taken, empty, put, children, queries,
      config]
  refine ⟨by rw [refused], ?_, ?_, fun traceless => ?_⟩
  · simp [add, addAt, plain, refuseQuery, a, empty, children, config, Query.make]
  · rw [refused]
    simp [add, addAt, plain, refuseQuery, a, children]
  · -- What is left has a catalog, and there was none before.
    have same := traceless none [] "a.config" ['X'] _ (congrArg Prod.snd refused)
    have changed : ((empty none).add "a.config" ['X']).1 = empty none := same
    rw [refused] at changed
    simp [empty] at changed

end SqlTemplate.Catalog
