import SqlTemplate.Value.Basic

/-! The depth of a value counts the mappings on the longest way into it. -/

namespace SqlTemplate

namespace Value

mutual

/-- How many mappings are nested in a value. -/
def depth : Value → Nat
  | list items => depthOfItems items
  | tuple items => depthOfItems items
  | mapping entries => depthOfEntries entries + 1
  | noParameters => 1
  | term operator template parameters =>
    max operator.depth (max template.depth parameters.depth)
  | _ => 0

/-- The greatest depth of an item. -/
def depthOfItems : List Value → Nat
  | [] => 0
  | item :: rest => max item.depth (depthOfItems rest)

/-- The greatest depth of an entry. -/
def depthOfEntries : List (String × Value) → Nat
  | [] => 0
  | (_, value) :: rest => max value.depth (depthOfEntries rest)

end

end Value

/-- The depth of a mapping with the given entries. -/
def Entries.depth (entries : Entries) : Nat :=
  Value.depthOfEntries entries + 1

/-- A value kept under a name is less deep than its mapping. -/
theorem Entries.depth_lt_of_get? {entries : Entries} {name : String} {value : Value}
    (found : entries.get? name = some value) : value.depth < entries.depth := by
  induction entries with
  | nil => simp [Entries.get?] at found
  | cons entry rest deeper =>
    obtain ⟨key, kept⟩ := entry
    simp only [Entries.get?, List.lookup_cons] at found deeper
    simp only [Entries.depth, Value.depthOfEntries] at deeper ⊢
    -- The first entry answers for its own key, and the others answer for the rest.
    split at found
    · cases found; omega
    · have := deeper found; omega

/-- The entries of a value are no deeper than the value. -/
theorem Value.depth_of_entries? {value : Value} {entries : Entries}
    (given : value.entries? = some entries) : entries.depth ≤ value.depth := by
  -- Few kinds of values have entries, and none of them is less deep than its entries are.
  cases value <;> simp_all [Value.entries?, Entries.depth, Value.depth, Value.depthOfEntries]

end SqlTemplate
