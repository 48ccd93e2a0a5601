import SqlTemplate.Resolution.Term
import SqlTemplate.Value.Depth

/-! The parameters of a term are less deep than the mapping that the terms come from. -/

namespace SqlTemplate

/-- The greatest depth of the parameters of a term. -/
def Term.depthOf : List Term → Nat
  | [] => 0
  | term :: rest => max term.parameters.depth (depthOf rest)

/-- The parameters of a draft are at most as deep as the element that it was read from. -/
private theorem draft_depth {name : String} {element : Value} {draft : Term.Draft}
    (read : Term.Draft.ofValue name element = .ok draft) :
    draft.parameters.depth ≤ element.depth := by
  -- A mapping is the only form in which the parameters are not a direct part of the element.
  have fromEntries : ∀ {entries : Entries}, Term.Draft.ofEntries name entries = .ok draft →
      draft.parameters.depth ≤ entries.depth := by
    intro entries given
    unfold Term.Draft.ofEntries at given
    split at given <;> try contradiction
    split at given
    · next parameters found =>
      cases given
      have := Entries.depth_lt_of_get? found
      split
      · show parameters.depth ≤ entries.depth
        omega
      · simp [Value.depth, Entries.depth]
    · cases given
      simp [Value.depth, Entries.depth]
  -- Each of the other forms has the parameters as one of its own three parts.
  unfold Term.Draft.ofValue at read
  split at read
  · cases read
    simp only [Value.depth]; omega
  · have := fromEntries read
    simpa [Value.depth, Entries.depth] using this
  · have := fromEntries read
    simpa [Value.depth, Entries.depth, Value.depthOfEntries] using this
  · cases read
    simp only [Value.depth, Value.depthOfItems]; omega
  · cases read
    simp only [Value.depth, Value.depthOfItems]; omega
  · contradiction

/-- A checked term has the parameters of its draft. -/
private theorem check_depth {name : String} {draft : Term.Draft} {term : Term}
    (checked : draft.check name = .ok term) :
    term.parameters.depth ≤ draft.parameters.depth := by
  -- Only drafts with a text and a mapping pass, and the mapping is kept.
  unfold Term.Draft.check at checked
  split at checked <;> try contradiction
  split at checked <;> try contradiction
  next parameters given =>
  cases checked
  exact Value.depth_of_entries? given

/-- Drafts that all pass the check have, as terms, parameters within any bound on theirs. -/
private theorem depthOf_le_of_checks {name : String} {bound : Nat} :
    ∀ {drafts : List Term.Draft} {terms : List Term},
      drafts.mapM (Term.Draft.check name) = .ok terms →
      (∀ draft ∈ drafts, draft.parameters.depth ≤ bound) → Term.depthOf terms ≤ bound := by
  -- The depth of a list of terms is the greatest of theirs, so each is bounded along the list.
  intro drafts
  induction drafts with
  | nil =>
    intro terms checked _
    cases checked
    simp [Term.depthOf]
  | cons draft rest within =>
    intro terms checked bounded
    rw [List.mapM_cons] at checked
    -- A list that passes has a first draft that does, and others that do.
    cases first : draft.check name with
    | error fault => simp [first, bind, Except.bind] at checked
    | ok term =>
      cases others : rest.mapM (Term.Draft.check name) with
      | error fault => simp [first, others, bind, Except.bind] at checked
      | ok more =>
        simp only [first, others, bind, Except.bind, pure, Except.pure, Except.ok.injEq] at checked
        subst checked
        have := check_depth first
        have := bounded draft (by simp)
        have := within others (fun d mem => bounded d (by simp [mem]))
        simp only [Term.depthOf]
        omega

/-- Drafts read from the items of a sequence are no deeper than the sequence. -/
private theorem drafts_depth {name : String} :
    ∀ {items : List Value} {drafts : List Term.Draft},
      items.mapM (Term.Draft.ofValue name) = .ok drafts →
      ∀ draft ∈ drafts, draft.parameters.depth ≤ Value.depthOfItems items := by
  -- Each draft is bounded by its own item, and each item by the depth of all.
  intro items
  induction items with
  | nil =>
    intro drafts read draft mem
    cases read
    cases mem
  | cons item rest within =>
    intro drafts read draft mem
    rw [List.mapM_cons] at read
    cases first : Term.Draft.ofValue name item with
    | error fault => simp [first, bind, Except.bind] at read
    | ok head =>
      cases others : rest.mapM (Term.Draft.ofValue name) with
      | error fault => simp [first, others, bind, Except.bind] at read
      | ok more =>
        simp only [first, others, bind, Except.bind, pure, Except.pure, Except.ok.injEq] at read
        subst read
        simp only [Value.depthOfItems]
        cases mem with
        | head => have := draft_depth first; omega
        | tail _ later => have := within others draft later; omega

/-- The terms of a value have parameters at most as deep as the value. -/
theorem Term.depthOf_le {name : String} {value : Value} {terms : List Term}
    (read : Term.ofValue name value = .ok terms) : Term.depthOf terms ≤ value.depth := by
  -- The terms come from drafts, and these from the items of the value.
  unfold Term.ofValue at read
  cases elements : Term.elements name value with
  | error fault => simp [elements, bind, Except.bind] at read
  | ok items =>
    cases drafted : items.mapM (Term.Draft.ofValue name) with
    | error fault => simp [elements, drafted, bind, Except.bind] at read
    | ok drafts =>
      simp only [elements, drafted, bind, Except.bind] at read
      have bounded := depthOf_le_of_checks read (drafts_depth drafted)
      have same : Value.depthOfItems items = value.depth := by
        unfold Term.elements at elements
        split at elements <;> cases elements <;> rfl
      omega

end SqlTemplate
