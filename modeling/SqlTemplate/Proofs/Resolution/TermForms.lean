import SqlTemplate.Proofs.Resolution.Failure

/-! A term means the same in each of its three forms. Only a mapping may do without parameters, by
having none of them or null, and then it means a term that is given none; in the other forms null is
refused. -/

namespace SqlTemplate

/-- A value can stand for the parameters of a term that is written as a mapping: it is a mapping
itself, or it is told apart from a missing one. -/
def Value.IsGiven (parameters : Value) : Prop :=
  parameters.isTruthy = true ∨ ∃ entries, parameters.entries? = some entries

/-- A mapping writes a term of three parts. -/
structure Entries.Writes (entries : Entries) (operator template : Value) : Prop where
  /-- The operator is there. -/
  operator : entries.get? "operator" = some operator
  /-- The template is there. -/
  template : entries.get? "template" = some template

/-- Two elements of the value of a dynamic name write the same term, be it a proper one or not. -/
inductive SameTerm : Value → Value → Prop
  /-- An element writes what it writes. -/
  | refl (element : Value) : SameTerm element element
  /-- A term may be a list of its three parts. -/
  | list (operator template parameters : Value) :
    SameTerm (.term operator template parameters) (.list [operator, template, parameters])
  /-- A term may be a tuple of its three parts. -/
  | tuple (operator template parameters : Value) :
    SameTerm (.term operator template parameters) (.tuple [operator, template, parameters])
  /-- A term may be a mapping with its three parts, if its parameters are given. -/
  | mapping {entries : Entries} {operator template parameters : Value}
    (writes : entries.Writes operator template)
    (found : entries.get? "parameters" = some parameters) (given : parameters.IsGiven) :
    SameTerm (.term operator template parameters) (.mapping entries)
  /-- A term without parameters may be a mapping that has none. -/
  | missing {entries : Entries} {operator template : Value}
    (writes : entries.Writes operator template) (absent : entries.get? "parameters" = none) :
    SameTerm (.term operator template .noParameters) (.mapping entries)
  /-- A term without parameters may be a mapping that has null for them. -/
  | null {entries : Entries} {operator template : Value}
    (writes : entries.Writes operator template)
    (found : entries.get? "parameters" = some .null) :
    SameTerm (.term operator template .noParameters) (.mapping entries)

/-- The draft of a term that is written as a mapping has the mapping's parameters, or none. -/
theorem Entries.Writes.ofEntries_eq {entries : Entries} {operator template : Value}
    (writes : entries.Writes operator template) (name : String) :
    Term.Draft.ofEntries name entries = .ok ⟨operator, template,
      match entries.get? "parameters" with
      | some parameters => if parameters.isTruthy then parameters else .noParameters
      | none => .noParameters⟩ := by
  -- Operator and template are there, so only the parameters are left to look at.
  rw [Term.Draft.ofEntries, writes.operator, writes.template]
  cases entries.get? "parameters" <;> rfl

/-- Parameters that are given are checked as those of the term, even when a mapping has them. -/
theorem Value.IsGiven.check_eq {parameters : Value} (given : parameters.IsGiven)
    (name : String) (operator template : Value) :
    Term.Draft.check name ⟨operator, template,
        if parameters.isTruthy then parameters else .noParameters⟩ =
      Term.Draft.check name ⟨operator, template, parameters⟩ := by
  cases present : parameters.isTruthy with
  | true => rfl
  | false =>
    -- A mapping without entries is as good as no parameters.
    obtain ⟨entries, mapped⟩ := given.resolve_left (by simp [present])
    have empty : parameters.entries? = Value.noParameters.entries? := by
      cases parameters with
      | mapping entries =>
        have none : entries = [] := by simpa [isTruthy] using present
        rw [none]
        rfl
      | noParameters => rfl
      | _ => contradiction
    simp only [Term.Draft.check, empty, Bool.false_eq_true, if_false]

/-- Elements that write the same term are read as drafts with the same check, or not at all. -/
theorem SameTerm.alike {element other : Value} (same : SameTerm element other) (name : String) :
    Alike (fun draft another => Term.Draft.check name draft = Term.Draft.check name another) Eq
      (Term.Draft.ofValue name element) (Term.Draft.ofValue name other) := by
  -- A term has its parts as they are, and a mapping has them under their keys.
  cases same with
  | refl =>
    cases Term.Draft.ofValue name element with
    | error cause => exact .error rfl
    | ok draft => exact .ok rfl
  | list | tuple => exact .ok rfl
  | mapping writes found given =>
    rw [Term.Draft.ofValue, Term.Draft.ofValue, writes.ofEntries_eq, found]
    exact .ok (given.check_eq ..).symm
  | missing writes absent =>
    rw [Term.Draft.ofValue, Term.Draft.ofValue, writes.ofEntries_eq, absent]
    exact .ok rfl
  | null writes found =>
    rw [Term.Draft.ofValue, Term.Draft.ofValue, writes.ofEntries_eq, found]
    exact .ok rfl

/-- Drafts with the same checks, one by one, make the same terms or fail in the same way. -/
theorem check_mapM_eq {name : String} {drafts others : List Term.Draft}
    (same : List.Forall₂ (fun draft other =>
      Term.Draft.check name draft = Term.Draft.check name other) drafts others) :
    drafts.mapM (Term.Draft.check name) = others.mapM (Term.Draft.check name) := by
  -- The drafts are checked from the first one on.
  induction same with
  | nil => rfl
  | cons first _ ih => rw [mapM_cons_eq, mapM_cons_eq, first, ih]

/-- Elements that write the same terms, one by one, make the same terms or fail in the same way. -/
theorem ofValue_eq_of_sameTerm {name : String} {value other : Value} {items others : List Value}
    (sequence : Term.elements name value = .ok items)
    (also : Term.elements name other = .ok others) (same : List.Forall₂ SameTerm items others) :
    Term.ofValue name other = Term.ofValue name value := by
  have drafted := Alike.mapM (same.imp fun _ _ each => each.alike name)
  rw [Term.ofValue, Term.ofValue, sequence, also]
  show others.mapM (Term.Draft.ofValue name) >>= _ = items.mapM (Term.Draft.ofValue name) >>= _
  generalize items.mapM (Term.Draft.ofValue name) = read at drafted
  generalize others.mapM (Term.Draft.ofValue name) = reread at drafted
  -- Both sequences are read, or both fail at elements that write the same.
  cases drafted with
  | ok checks => exact (check_mapM_eq checks).symm
  | error reason => rw [reason]

/-- An element with null for the parameters of a term, in a form other than a mapping. -/
inductive NullParameters (template : Value) : Value → Prop
  /-- The element is a term. -/
  | term (operator : Value) : NullParameters template (.term operator template .null)
  /-- The element is a list of three. -/
  | list (operator : Value) : NullParameters template (.list [operator, template, .null])
  /-- The element is a tuple of three. -/
  | tuple (operator : Value) : NullParameters template (.tuple [operator, template, .null])

section Null

variable {name : String} {template element value : Value}

/-- The fault of null parameters, unless the template, which is looked at first, is no text. -/
def nullFault (name : String) : Value → ShapeFault
  | .str _ => .parametersNotMapping name
  | _ => .templateNotText name

/-- An element with null parameters is read as a draft, which is then refused. -/
theorem NullParameters.unfit (null : NullParameters template element) (name : String) :
    ∃ draft, Term.Draft.ofValue name element = .ok draft ∧
      Term.Draft.check name draft = .error (nullFault name template) := by
  -- The draft is the same in each of the forms, and its operator is not looked at.
  have refused : ∀ operator, Term.Draft.check name ⟨operator, template, .null⟩ =
      .error (nullFault name template) := by
    intro operator
    cases template <;> rfl
  cases null with
  | term operator | list operator | tuple operator => exact ⟨_, rfl, refused operator⟩

/-- The terms that a value is made of come from the drafts of its elements, one by one. -/
theorem Term.exists_drafts {items : List Value} {terms : List Term}
    (sequence : elements name value = .ok items) (made : ofValue name value = .ok terms) :
    ∃ drafts, items.mapM (Draft.ofValue name) = .ok drafts ∧
      drafts.mapM (Draft.check name) = .ok terms := by
  -- A value is made terms of by drafting its elements and then checking the drafts.
  rw [ofValue, sequence] at made
  exact bind_eq_ok_iff.mp made

/-- No terms are made of elements of which one has null parameters. -/
theorem NullParameters.refused {items : List Value} (null : NullParameters template element)
    (sequence : Term.elements name value = .ok items) (member : element ∈ items) :
    ∃ cause, Term.ofValue name value = .error cause := by
  obtain ⟨draft, read, unfit⟩ := null.unfit name
  cases made : Term.ofValue name value with
  | error cause => exact ⟨cause, rfl⟩
  | ok terms =>
    -- Terms would be made of all drafts, and so of the one that is refused.
    obtain ⟨drafts, drafted, checked⟩ := Term.exists_drafts sequence made
    obtain ⟨also, within, reread⟩ := exists_of_mem_mapM drafted member
    cases read.symm.trans reread
    obtain ⟨term, -, fit⟩ := exists_of_mem_mapM checked within
    cases unfit.symm.trans fit

/-- Null parameters are the first fault of a value when the elements before them make terms and
those after them are in a form of a term. -/
theorem NullParameters.first {before after : List Value} {terms : List Term}
    {others : List Term.Draft} (null : NullParameters template element)
    (sequence : Term.elements name value = .ok (before ++ element :: after))
    (made : Term.ofValue name (.list before) = .ok terms)
    (behind : after.mapM (Term.Draft.ofValue name) = .ok others) :
    Term.ofValue name value = .error (nullFault name template) := by
  obtain ⟨draft, read, unfit⟩ := null.unfit name
  obtain ⟨drafts, front, checked⟩ := Term.exists_drafts rfl made
  -- All elements are read as drafts, of which the first bad one is that with null parameters.
  refine Term.ofValue_eq_error_iff.mpr (.part (Term.elements_eq_ok_iff.mp sequence)
    (List.rel_append (mapM_eq_ok_iff.mp front) (.cons read (mapM_eq_ok_iff.mp behind))) ?_ unfit)
  intro other member
  obtain ⟨term, -, proper⟩ := exists_of_mem_mapM checked member
  exact ⟨term, proper⟩

end Null

section Groups

variable {config : Config} {name : String} {value other : Value}

/-- A group in a template is made of nothing but the terms of its value. -/
theorem resolveGroup_congr (same : Term.ofValue name other = Term.ofValue name value) :
    resolveGroup config name other = resolveGroup config name value := by
  rw [resolveGroup, resolveGroup]
  -- Both values are read first, and what is read of them is the same.
  split <;> rename_i read <;> split <;> rename_i reread <;>
    cases (read.symm.trans same).trans reread <;> rfl

/-- A group that stands alone is made of nothing but the terms of its value. -/
theorem groupAlone_congr (same : Term.ofValue name other = Term.ofValue name value) :
    groupAlone config name other = groupAlone config name value := by
  -- The value itself is not looked at once its terms are read.
  rw [groupAlone, groupAlone, same]

end Groups

/-- Terms may be written in any of the three forms, each in its own. Whatever their parts are, the
same terms are read from them, or the same fault is found, and the same group is made of them with
the same notes, alone or in a template. A mapping may stand for a term whose parameters it gives, or
for one without parameters if it has none, or null for them; a term, a list or a tuple that has null
for its parameters is refused, with any operator and any template. -/
theorem term_forms_interchange (config : Config) (name : String) (value other : Value)
    (items others : List Value) (sequence : Term.elements name value = .ok items)
    (also : Term.elements name other = .ok others) (same : List.Forall₂ SameTerm items others) :
    Term.ofValue name other = Term.ofValue name value ∧
      groupAlone config name other = groupAlone config name value ∧
      resolveGroup config name other = resolveGroup config name value ∧
      ∀ template element, NullParameters template element → element ∈ items →
        ∃ cause, Term.ofValue name value = .error cause := by
  -- All that is made of the elements is made of the terms read from them.
  have terms := ofValue_eq_of_sameTerm sequence also same
  exact ⟨terms, groupAlone_congr terms, resolveGroup_congr terms,
    fun _ _ null member => null.refused sequence member⟩

/-- A mapping with one parameter and a tuple with none make the group of two terms. -/
theorem mapping_and_tuple_interchange :
    let items : List Value := [.term (.str "AND") (.str "a = :a") (.mapping [("a", .int 1)]),
      .term (.str "or") (.str "b") .noParameters]
    let others : List Value := [.mapping [("operator", .str "AND"), ("template", .str "a = :a"),
      ("parameters", .mapping [("a", .int 1)])], .tuple [.str "or", .str "b", .noParameters]]
    List.Forall₂ SameTerm items others ∧
      (groupAlone .default "~c" (.list items)).outcome = .ok ⟨"(a = ? OR b)".toList, [.int 1]⟩ ∧
      (groupAlone .default "~c" (.tuple others)).outcome = .ok ⟨"(a = ? OR b)".toList, [.int 1]⟩ ∧
      Term.ofValue "~c" (.tuple others) = Term.ofValue "~c" (.list items) := by
  -- One of the two groups is computed, and the other one is the same by the general theorem.
  intro items others
  have same : List.Forall₂ SameTerm items others :=
    .cons (.mapping ⟨rfl, rfl⟩ rfl (Or.inl rfl)) (.cons (.tuple ..) .nil)
  obtain ⟨terms, group, -⟩ :=
    term_forms_interchange .default "~c" (.list items) (.tuple others) items others rfl rfl same
  have computed : (groupAlone .default "~c" (.list items)).outcome =
      .ok ⟨"(a = ? OR b)".toList, [.int 1]⟩ := by
    simp only [outcome_groupAlone, outcome_resolveGroup]
    unfold Term.operand
    simp only [outcome_resolveTemplate, outcome_occurrenceOf]
    with_unfolding_all rfl
  exact ⟨same, computed, group ▸ computed, terms⟩

/-- A mapping with null for its parameters makes a term, although the same three parts make none as
a term or as a tuple. -/
theorem null_parameters_told_apart :
    let mapping : Value := .mapping [("operator", .str "AND"), ("template", .str "a = 1"),
      ("parameters", .null)]
    Term.ofValue "~c" (.list [.term (.str "AND") (.str "a = 1") .null]) =
        .error (.parametersNotMapping "~c") ∧
      Term.ofValue "~c" (.list [.tuple [.str "AND", .str "a = 1", .null]]) =
        .error (.parametersNotMapping "~c") ∧
      Term.ofValue "~c" (.list [mapping]) = .ok [⟨.str "AND", "a = 1".toList, []⟩] ∧
      (groupAlone .default "~c" (.list [.term (.str "AND") (.str "a = 1") .null])).outcome =
        .error (.shape (.parametersNotMapping "~c") none) ∧
      (groupAlone .default "~c" (.list [mapping])).outcome = .ok ⟨"(a = 1)".toList, []⟩ := by
  -- The terms are read by running, and the group is run once its terms are opened.
  refine ⟨rfl, rfl, rfl, rfl, ?_⟩
  simp only [outcome_groupAlone, outcome_resolveGroup]
  unfold Term.operand
  simp only [outcome_resolveTemplate, outcome_occurrenceOf]
  with_unfolding_all rfl

end SqlTemplate
