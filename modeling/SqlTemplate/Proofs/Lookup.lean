import Mathlib.Data.List.Nodup

/-! Entries are looked up by their keys, and of several entries with one key the first is found. -/

namespace SqlTemplate

variable {α : Type} {entries : List (String × α)} {key : String} {item : α}

/-- The first entry is found by its key, and the others by other keys. -/
theorem lookup_cons_eq {name : String} :
    ((name, item) :: entries).lookup key =
      if key = name then some item else entries.lookup key := by
  -- The library compares the keys by a test, which is turned into an equation here.
  rw [List.lookup_cons]
  cases same : key == name with
  | true => rw [if_pos (beq_iff_eq.mp same)]
  | false => rw [if_neg (beq_eq_false_iff_ne.mp same)]

/-- A key leads to nothing when no entry has it. -/
theorem lookup_eq_none_iff : entries.lookup key = none ↔ key ∉ entries.map Prod.fst := by
  rw [List.lookup_eq_none_iff]
  constructor
  · -- An entry with the key would be found.
    intro absent member
    obtain ⟨entry, listed, rfl⟩ := List.mem_map.mp member
    simpa using absent entry listed
  · intro absent entry listed
    rw [bne_iff_ne]
    rintro rfl
    exact absent (List.mem_map_of_mem listed)

/-- A key that leads to nothing is not among the keys. -/
theorem lookup_isSome_eq_false_iff :
    (entries.lookup key).isSome = false ↔ key ∉ entries.map Prod.fst := by
  -- Nothing is found, so the lookup gives none.
  rw [Option.isSome_eq_false_iff, Option.isNone_iff_eq_none, lookup_eq_none_iff]

/-- A key leads to something when an entry has it. -/
theorem exists_lookup_iff :
    (∃ item, entries.lookup key = some item) ↔ key ∈ entries.map Prod.fst := by
  -- Something is found just when the key is not missing.
  rw [← Option.ne_none_iff_exists', ne_eq, lookup_eq_none_iff, not_not]

/-- An entry that is found is one of the entries. -/
theorem mem_of_lookup (found : entries.lookup key = some item) : (key, item) ∈ entries := by
  -- The entry that is found splits the others.
  obtain ⟨front, rest, rfl, -⟩ := List.lookup_eq_some_iff.mp found
  exact List.mem_append_right _ (List.mem_cons_self ..)

/-- An entry is found when no other one has its key. -/
theorem lookup_of_mem (distinct : (entries.map Prod.fst).Nodup) (member : (key, item) ∈ entries) :
    entries.lookup key = some item := by
  -- The entries before this one have other keys, so they are passed over.
  obtain ⟨front, rest, rfl⟩ := List.append_of_mem member
  rw [List.map_append, List.nodup_append] at distinct
  refine List.lookup_eq_some_iff.mpr ⟨front, rest, rfl, fun entry earlier => ?_⟩
  rw [bne_iff_ne]
  intro same
  exact distinct.2.2 entry.1 (List.mem_map_of_mem earlier) key (by simp) same.symm

/-- What a key leads to among entries that are made over is made over from what it led to. -/
theorem lookup_map_entries {β : Type} (make : String → α → β) :
    (entries.map fun entry => (entry.1, make entry.1 entry.2)).lookup key =
      (entries.lookup key).map (make key) := by
  induction entries with
  | nil => rfl
  | cons entry rest ih =>
    obtain ⟨name, item⟩ := entry
    rw [List.map_cons, lookup_cons_eq, lookup_cons_eq, ih]
    -- The first entry answers for its own key.
    by_cases same : key = name
    · rw [if_pos same, if_pos same, same]
      rfl
    · rw [if_neg same, if_neg same]

/-- An entry that is found among the first ones is found among all. -/
theorem lookup_of_isPrefix {first : List (String × α)} (front : first <+: entries)
    (found : first.lookup key = some item) : entries.lookup key = some item := by
  -- The entries behind the first ones are not reached.
  obtain ⟨rest, rfl⟩ := front
  rw [List.lookup_append, found]
  rfl

/-- Among the entries whose keys are kept, a key that is kept leads to what it led to. -/
theorem lookup_filter_keys {κ β : Type} [BEq κ] [LawfulBEq κ] (keeps : κ → Bool) (key : κ)
    (entries : List (κ × β)) :
    (entries.filter fun entry => keeps entry.1).lookup key =
      if keeps key then entries.lookup key else none := by
  induction entries with
  | nil => simp
  | cons entry rest ih =>
    obtain ⟨name, item⟩ := entry
    -- The first entry matters only when it has the key, and then it is kept as the key is.
    by_cases same : key = name
    · subst same
      cases kept : keeps key <;> simp [kept, ih]
    · have other : (key == name) = false := beq_eq_false_iff_ne.mpr same
      cases kept : keeps name <;> simp [kept, List.lookup_cons, other, ih]

end SqlTemplate
