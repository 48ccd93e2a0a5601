import SqlTemplate.Proofs.Traversal
import SqlTemplate.Resolution.Standalone

/-! The outcome of a resolution is made of the outcomes for its placeholders and their terms. -/

namespace SqlTemplate

/-- A value is an array of some items, which is a list, a tuple, or a term with its three parts. -/
inductive Value.Holds : Value → List Value → Prop
  /-- A list has its items. -/
  | list (items : List Value) : Holds (.list items) items
  /-- A tuple has its items. -/
  | tuple (items : List Value) : Holds (.tuple items) items
  /-- A term is a tuple of its parts. -/
  | term (operator template parameters : Value) :
    Holds (.term operator template parameters) [operator, template, parameters]

/-- A value that is not an array. -/
def Value.IsSingle (value : Value) : Prop :=
  ∀ items, ¬ value.Holds items

/-- The items that are found in a value are those that it is an array of. -/
theorem Value.items?_eq_some_iff {value : Value} {items : List Value} :
    value.items? = some items ↔ value.Holds items := by
  constructor
  · intro found
    -- Only the three kinds of arrays have any items to be found.
    cases value with
    | list =>
      cases found
      exact .list _
    | tuple =>
      cases found
      exact .tuple _
    | term =>
      cases found
      exact .term ..
    | _ => cases found
  · intro holds
    cases holds <;> rfl

/-- No items are found in a value that is not an array. -/
theorem Value.items?_eq_none_iff {value : Value} : value.items? = none ↔ value.IsSingle := by
  -- To have no items is not to have any list of them.
  rw [Option.eq_none_iff_forall_ne_some]
  exact forall_congr' fun items => not_congr items?_eq_some_iff

/-- The operator of a term, trimmed and in capitals, which is empty unless it is a text. -/
def Value.operatorName : Value → Text
  | .str written => (Text.trim written.toList).uppercase
  | _ => []

/-- A value has the operator whose text is its operator name. -/
theorem Connective.ofValue?_eq_some_iff {value : Value} {connective : Connective} :
    ofValue? value = some connective ↔ value.operatorName = connective.text := by
  cases value with
  | str written =>
    simp only [ofValue?, ofText?, Value.operatorName]
    generalize (Text.trim written.toList).uppercase = name
    -- The two texts differ, so at most one of them can be the name.
    by_cases isAnd : name = and.text
    · subst isAnd
      cases connective <;> simp [text]
    · by_cases isOr : name = or.text
      · subst isOr
        cases connective <;> simp [text]
      · cases connective <;> simp [isAnd, isOr]
  | _ => cases connective <;> simp [ofValue?, Value.operatorName, text]

/-- A value has no operator when its operator name is the text of neither. -/
theorem Connective.ofValue?_eq_none_iff {value : Value} :
    ofValue? value = none ↔
      value.operatorName ≠ Connective.and.text ∧ value.operatorName ≠ Connective.or.text := by
  rw [Option.eq_none_iff_forall_ne_some]
  -- There are only the two operators to rule out.
  constructor
  · intro unknown
    exact ⟨fun named => unknown _ (ofValue?_eq_some_iff.mpr named),
      fun named => unknown _ (ofValue?_eq_some_iff.mpr named)⟩
  · rintro ⟨notAnd, notOr⟩ connective known
    have named := ofValue?_eq_some_iff.mp known
    cases connective with
    | and => exact notAnd named
    | or => exact notOr named

/-- The operator name of a value that has an operator is one of the two. -/
theorem Connective.known_of_named {value : Value} {connective : Connective}
    (named : value.operatorName = connective.text) :
    value.operatorName = ['A', 'N', 'D'] ∨ value.operatorName = ['O', 'R'] := by
  -- The names are spelled out for each of the two.
  cases connective with
  | and => exact Or.inl named
  | or => exact Or.inr named

/-- A value whose operator name is one of the two has an operator. -/
theorem Connective.exists_of_known {value : Value}
    (known : value.operatorName = ['A', 'N', 'D'] ∨ value.operatorName = ['O', 'R']) :
    ∃ connective : Connective, value.operatorName = connective.text := by
  -- Each of the two names is that of an operator.
  rcases known with isAnd | isOr
  · exact ⟨.and, isAnd⟩
  · exact ⟨.or, isOr⟩

/-- An operand of a group, with the operator that joins it to the one before. -/
structure Operand where
  /-- The operator as the query shows it. -/
  operator : Text
  /-- The query of the operand. -/
  query : Text
  /-- The values bound to the markers of the query. -/
  values : List Value

namespace Operand

/-- Operands with the operator of each in front of it. -/
def joined (operands : List Operand) : List Text :=
  operands.flatMap fun operand => [operand.operator, operand.query]

/-- Operands with the operator of each but the first in front of it. -/
def words : List Operand → List Text
  | [] => []
  | first :: others => first.query :: joined others

/-- The parenthesized group of operands. -/
def group (operands : List Operand) : Markers :=
  groupOf (words operands) (operands.flatMap Operand.values)

end Operand

/-- What a term adds to its group, which is nothing when its operator is unknown and may be. -/
def Term.operand (config : Config) (name : String) (term : Term) :
    Except ResolutionFault (Option Operand) :=
  match Connective.ofValue? term.operator with
  | none =>
    if config.ignoresUnknown then .ok none
    else .error (.unknownOperator term.operator.plain name)
  | some connective =>
    (resolveTemplate config term.template term.parameters).outcome.map fun resolved =>
      some ⟨connective.text, resolved.query, resolved.values⟩

/-- Terms are joined by joining what each of them adds. -/
theorem outcome_joinTerms (config : Config) (name : String) (isFirst : Bool) (terms : List Term) :
    (joinTerms config name isFirst terms).outcome =
      (terms.mapM (Term.operand config name)).map fun added =>
        let operands := added.filterMap id
        (if isFirst then Operand.words operands else Operand.joined operands,
          operands.flatMap Operand.values) := by
  -- A term that is left out leaves the next one as the first if it would have been.
  induction terms generalizing isFirst with
  | nil =>
    rw [joinTerms, Journal.outcome_pure, List.mapM_nil]
    cases isFirst <;> rfl
  | cons term rest ih =>
    rw [joinTerms, joinTerm, mapM_cons_eq, Term.operand]
    -- The operator is judged first, and the template is resolved only after that.
    cases Connective.ofValue? term.operator with
    | none =>
      cases ignored : config.ignoresUnknown with
      | false => rfl
      | true =>
        simp only [if_true, Journal.outcome_bind, Journal.outcome_note]
        show (joinTerms config name isFirst rest).outcome = _
        rw [ih]
        cases rest.mapM (Term.operand config name) <;> rfl
    | some connective =>
      simp only [Journal.outcome_bind, ih]
      cases (resolveTemplate config term.template term.parameters).outcome with
      | error fault => rfl
      | ok resolved =>
        cases rest.mapM (Term.operand config name) with
        | error fault => rfl
        | ok added => cases isFirst <;> rfl

/-- The group of a dynamic value is made of what its terms add, or the value has a wrong shape. -/
theorem outcome_resolveGroup (config : Config) (name : String) (value : Value) :
    (resolveGroup config name value).outcome =
      match Term.ofValue name value with
      | .error cause => .error (.shape cause none)
      | .ok terms => (terms.mapM (Term.operand config name)).map fun added =>
        Operand.group (added.filterMap id) := by
  rw [resolveGroup]
  -- The equation that the function keeps for its termination is given up here.
  split
  · rename_i read
    rw [read]
    rfl
  · rename_i terms read
    rw [Journal.outcome_bind, outcome_joinTerms]
    simp only [read]
    cases terms.mapM (Term.operand config name) <;> rfl

/-- The outcome for a placeholder is decided by its value and its form. -/
theorem outcome_occurrenceOf (config : Config) (template : Text) (parameters : Entries)
    (placeholder : Placeholder) :
    (occurrenceOf config template parameters placeholder).outcome =
      match parameters.get? placeholder.name with
      | none =>
        if placeholder.isOptional then .ok (.leavingOut template placeholder)
        else .error (.unbound placeholder.name)
      | some value => match placeholder.form with
        | .plain => .ok (.ofPlain config.marker placeholder value)
        | .optional fragment => .ok (.ofOptional config.marker placeholder fragment value)
        | .dynamic =>
          (resolveGroup config placeholder.name value).outcome.map
            (.replacing placeholder .dynamic) := by
  rw [occurrenceOf]
  -- The lookup keeps an equation as well, for the depth of the value that it finds.
  split
  · rename_i absent
    rw [absent]
    cases placeholder.isOptional <;> rfl
  · rename_i value found
    simp only [found]
    cases placeholder.form with
    | plain => rfl
    | optional fragment => rfl
    | dynamic =>
      simp only [Journal.outcome_bind]
      cases (resolveGroup config placeholder.name value).outcome <;> rfl

/-- The occurrences of placeholders are those of each of them. -/
theorem outcome_occurrencesOf (config : Config) (template : Text) (parameters : Entries)
    (placeholders : List Placeholder) :
    (occurrencesOf config template parameters placeholders).outcome =
      placeholders.mapM fun placeholder =>
        (occurrenceOf config template parameters placeholder).outcome := by
  -- The placeholders are gone through from left to right, until one fails.
  induction placeholders with
  | nil =>
    rw [occurrencesOf]
    rfl
  | cons placeholder rest ih =>
    rw [occurrencesOf, mapM_cons_eq, Journal.outcome_bind]
    cases (occurrenceOf config template parameters placeholder).outcome with
    | error fault => rfl
    | ok occurrence =>
      show ((occurrencesOf config template parameters rest) >>= _).outcome = _
      rw [Journal.outcome_bind, ih]
      cases rest.mapM fun placeholder =>
        (occurrenceOf config template parameters placeholder).outcome <;> rfl

/-- A template is resolved in three stages, of which each may fail. -/
theorem outcome_resolveTemplate (config : Config) (template : Text) (parameters : Entries) :
    (resolveTemplate config template parameters).outcome =
      match Placeholder.scan template with
      | .error fault => .error fault
      | .ok placeholders => match undefinedNames parameters placeholders with
        | [] =>
          (placeholders.mapM fun placeholder =>
            (occurrenceOf config template parameters placeholder).outcome).map
              (.assemble template)
        | names => .error (.undefined names template) := by
  rw [resolveTemplate]
  -- A stage that fails leaves nothing to the later ones.
  cases Placeholder.scan template with
  | error fault => rfl
  | ok placeholders =>
    simp only
    cases undefinedNames parameters placeholders with
    | nil =>
      simp only [Journal.outcome_bind, outcome_occurrencesOf]
      cases placeholders.mapM fun placeholder =>
        (occurrenceOf config template parameters placeholder).outcome <;> rfl
    | cons name others => rfl

/-- Parameters that have the same of the names of placeholders leave the same ones undefined. -/
theorem undefinedNames_congr {left right : Entries} {placeholders : List Placeholder}
    (same : ∀ placeholder ∈ placeholders,
      left.has placeholder.name = right.has placeholder.name) :
    undefinedNames left placeholders = undefinedNames right placeholders := by
  -- A name is undefined by what the parameters have of it, and by nothing else in them.
  induction placeholders with
  | nil => rfl
  | cons placeholder rest ih =>
    obtain ⟨first, later⟩ := List.forall_mem_cons.mp same
    rw [undefinedNames, undefinedNames, ih later, first]

/-- What is given as parameters is resolved as its entries are, whatever is noted on the way. -/
theorem outcome_resolve (template : Text) (parameters : Value) (config : Config) :
    (resolve template parameters config).outcome =
      (parametersOf template parameters).bind fun entries =>
        (resolveTemplate config template entries).outcome := by
  rw [resolve, Journal.outcome_bind, Journal.outcome_ofExcept]
  cases parametersOf template parameters with
  | error fault => rfl
  | ok entries =>
    show (resolveTemplate config template entries >>= _).outcome =
      (resolveTemplate config template entries).outcome
    rw [Journal.outcome_bind]
    cases (resolveTemplate config template entries).outcome with
    | error fault => rfl
    | ok resolution =>
      -- Noting the resolution, and tracing it, changes nothing in it.
      cases config.isTraced <;> simp <;> rfl

/-- Terms that stand alone are joined to the same as terms in a template. -/
theorem outcome_joinAlone (config : Config) (name : String) (isFirst : Bool) (terms : List Term) :
    (joinAlone config name isFirst terms).outcome =
      (joinTerms config name isFirst terms).outcome := by
  induction terms generalizing isFirst with
  | nil => rw [joinAlone, joinTerms]
  | cons term rest ih =>
    -- Noting the resolution of an operand changes nothing in it.
    have operand : (resolve term.template (.mapping term.parameters) config).outcome =
        (resolveTemplate config term.template term.parameters).outcome := outcome_resolve ..
    rw [joinAlone, joinTerms, joinTerm, joinTerm]
    cases Connective.ofValue? term.operator with
    | none =>
      cases config.ignoresUnknown with
      | false => rfl
      | true => simp only [if_true, Journal.outcome_bind, ih]
    | some connective => simp only [Journal.outcome_bind, operand, ih]

/-- A group that stands alone comes to the same as one in a template. -/
theorem outcome_groupAlone (config : Config) (name : String) (value : Value) :
    (groupAlone config name value).outcome = (resolveGroup config name value).outcome := by
  -- The terms are read alike, and what is noted beside them is no part of the outcome.
  rw [groupAlone, Journal.outcome_bind, Journal.outcome_ofExcept, outcome_resolveGroup]
  cases Term.ofValue name value with
  | error cause => rfl
  | ok terms =>
    show (joinAlone config name true terms >>= _).outcome =
      (terms.mapM (Term.operand config name)).map _
    rw [Journal.outcome_bind, outcome_joinAlone, outcome_joinTerms]
    cases terms.mapM (Term.operand config name) <;> rfl

/-- The parameters of a term are among a list of them no deeper than the list. -/
private theorem depth_le_depthOf {term : Term} {terms : List Term} (member : term ∈ terms) :
    term.parameters.depth ≤ Term.depthOf terms := by
  -- The depth of a list is the greatest of its members.
  induction terms with
  | nil => cases member
  | cons first rest ih =>
    rcases List.mem_cons.mp member with rfl | later
    · exact Nat.le_max_left ..
    · exact Nat.le_trans (ih later) (Nat.le_max_right ..)

/-- What holds of parameters whenever it holds of those of all their terms holds of all of them. -/
theorem Entries.induction {motive : Entries → Prop}
    (step : ∀ parameters : Entries,
      (∀ name value terms, parameters.get? name = some value →
        Term.ofValue name value = .ok terms → ∀ term ∈ terms, motive term.parameters) →
      motive parameters) (parameters : Entries) : motive parameters := by
  -- The parameters of a term are less deep than those that hold the term.
  induction bound : parameters.depth using Nat.strongRecOn generalizing parameters with
  | _ depth ih =>
    refine step parameters fun name value terms found read term member => ?_
    have shallow := Entries.depth_lt_of_get? found
    have within := Term.depthOf_le read
    have among := depth_le_depthOf member
    exact ih term.parameters.depth (by omega) term.parameters rfl

end SqlTemplate
