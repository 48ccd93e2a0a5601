import SqlTemplate.Proofs.Resolution.Outcome

/-! Only the shapes of the values of a template's names decide the text of its query. -/

namespace SqlTemplate

/-- Neither of two values is an array, or both are arrays of the same length. -/
inductive SameExtent (value other : Value) : Prop
  /-- Neither is an array. -/
  | single (alone : value.IsSingle) (also : other.IsSingle)
  /-- Both are arrays, with as many items. -/
  | array {items others : List Value} (many : value.Holds items) (also : other.Holds others)
    (length : items.length = others.length)

mutual

/-- Two sets of parameters agree in shape at the names of a template. -/
inductive SameShape : Text → Entries → Entries → Prop
  /-- They agree at each placeholder. -/
  | intro {template : Text} {left right : Entries}
    (each : ∀ placeholders, Placeholder.scan template = .ok placeholders →
      ∀ placeholder ∈ placeholders, SameAt left right placeholder) :
    SameShape template left right

/-- Two sets of parameters agree in shape at a placeholder. -/
inductive SameAt : Entries → Entries → Placeholder → Prop
  /-- The name has no value in either. -/
  | absent {left right : Entries} {placeholder : Placeholder}
    (unbound : left.get? placeholder.name = none)
    (others : right.get? placeholder.name = none) : SameAt left right placeholder
  /-- A plain name has values of the same extent. -/
  | plain {left right : Entries} {placeholder : Placeholder} {value other : Value}
    (form : placeholder.form = .plain) (bound : left.get? placeholder.name = some value)
    (others : right.get? placeholder.name = some other) (extent : SameExtent value other) :
    SameAt left right placeholder
  /-- The name of a fragment has values, of the same extent if the fragment has a mark for them. -/
  | optional {left right : Entries} {placeholder : Placeholder} {fragment : Text}
    {value other : Value} (form : placeholder.form = .optional fragment)
    (bound : left.get? placeholder.name = some value)
    (others : right.get? placeholder.name = some other)
    (extent : Placeholder.optionalMark ∈ fragment → SameExtent value other) :
    SameAt left right placeholder
  /-- A dynamic name has values of which neither is made of terms. -/
  | misshapen {left right : Entries} {placeholder : Placeholder} {value other : Value}
    {cause another : ShapeFault} (form : placeholder.form = .dynamic)
    (bound : left.get? placeholder.name = some value)
    (others : right.get? placeholder.name = some other)
    (unread : Term.ofValue placeholder.name value = .error cause)
    (neither : Term.ofValue placeholder.name other = .error another) :
    SameAt left right placeholder
  /-- A dynamic name has values that are made of terms of the same shape. -/
  | terms {left right : Entries} {placeholder : Placeholder} {value other : Value}
    {terms more : List Term} (form : placeholder.form = .dynamic)
    (bound : left.get? placeholder.name = some value)
    (others : right.get? placeholder.name = some other)
    (read : Term.ofValue placeholder.name value = .ok terms)
    (both : Term.ofValue placeholder.name other = .ok more) (same : SameTerms terms more) :
    SameAt left right placeholder

/-- Two lists of terms agree in shape, one term after the other. -/
inductive SameTerms : List Term → List Term → Prop
  /-- No terms are left. -/
  | nil : SameTerms [] []
  /-- The first terms have one operator and one template, and parameters that agree in it. -/
  | cons {term other : Term} {terms others : List Term}
    (operator : term.operator.operatorName = other.operator.operatorName)
    (template : term.template = other.template)
    (shape : SameShape term.template term.parameters other.parameters)
    (rest : SameTerms terms others) : SameTerms (term :: terms) (other :: others)

end

/-- Two texts are the same, and as many values are bound to their markers. -/
def LooksLike (text : Text) (values : List Value) (other : Text) (others : List Value) : Prop :=
  text = other ∧ values.length = others.length

/-- Two faults are reported as the same kind. -/
def SameKind (fault other : ResolutionFault) : Prop :=
  fault.report.kindName = other.report.kindName

/-- All unknown operators are reported as the same kind. -/
theorem sameKind_unknownOperator (operator name other another : String) :
    SameKind (.unknownOperator operator name) (.unknownOperator other another) := by
  -- The words differ, so they are set aside before the kinds are compared.
  simp only [SameKind, ResolutionFault.report, Report.unknownOperator, Report.kindName]

/-- Two resolutions have the same query, and bind as many values. -/
def Resolution.SameQuery (resolution other : Resolution) : Prop :=
  LooksLike resolution.query resolution.values other.query other.values

/-- Two operands have the same operator and the same query, and bind as many values. -/
def Operand.SameQuery (operand other : Operand) : Prop :=
  operand.operator = other.operator ∧
    LooksLike operand.query operand.values other.query other.values

/-- Two occurrences put the same text in the same place, and bind as many values. -/
def Occurrence.SameText (occurrence other : Occurrence) : Prop :=
  occurrence.start = other.start ∧ occurrence.stop = other.stop ∧
    LooksLike occurrence.replacement occurrence.values other.replacement other.values

/-- Two texts of markers are the same, and as many values are bound. -/
def Markers.SameText (markers other : Markers) : Prop :=
  LooksLike markers.text markers.values other.text other.values

/-- Values of the same extent have the same markers. -/
theorem SameExtent.sameText {value other : Value} (extent : SameExtent value other)
    (marker : Text) : (Markers.ofValue marker value).SameText (.ofValue marker other) := by
  unfold Markers.ofValue
  -- Either both values are arrays or neither is.
  cases extent with
  | single alone also =>
    rw [Value.items?_eq_none_iff.mpr alone, Value.items?_eq_none_iff.mpr also]
    exact ⟨rfl, rfl⟩
  | @array items others many also length =>
    rw [Value.items?_eq_some_iff.mpr many, Value.items?_eq_some_iff.mpr also]
    refine ⟨?_, length⟩
    show Markers.group marker items.length = Markers.group marker others.length
    rw [length]

/-- Occurrences that replace one placeholder with the same text have the same text. -/
theorem Markers.SameText.replacing {markers other : Markers} (same : markers.SameText other)
    (placeholder : Placeholder) (kind another : Occurrence.Kind) :
    (Occurrence.replacing placeholder kind markers).SameText
      (.replacing placeholder another other) :=
  ⟨rfl, rfl, same⟩

/-- A fragment is filled the same with the same markers, and with any if it has no mark. -/
theorem Occurrence.fill_sameText {fragment : Text} {markers other : Markers}
    (same : Placeholder.optionalMark ∈ fragment → markers.SameText other) :
    (fill fragment markers).SameText (fill fragment other) := by
  unfold fill
  -- Without a mark the markers are not looked at.
  by_cases marked : Placeholder.optionalMark ∈ fragment
  · obtain ⟨text, count⟩ := same marked
    rw [if_pos (by simpa using marked), if_pos (by simpa using marked)]
    exact ⟨by rw [text], count⟩
  · rw [if_neg (by simpa using marked), if_neg (by simpa using marked)]
    exact ⟨rfl, rfl⟩

/-- Occurrences with the same texts, one by one, make the same query. -/
theorem Resolution.assemble_sameQuery {template : Text} {occurrences others : List Occurrence}
    (same : List.Forall₂ Occurrence.SameText occurrences others) :
    (assemble template occurrences).SameQuery (assemble template others) := by
  -- Each edit is applied to the same text on both sides, from the last one on.
  have spliced : (Edit.splice template (occurrences.map Occurrence.edit)).SameText
      (Edit.splice template (others.map Occurrence.edit)) := by
    induction same with
    | nil => exact ⟨rfl, rfl⟩
    | @cons occurrence other rest more first _ ih =>
      -- The first edit is the last one to be applied.
      obtain ⟨start, stop, replacement, count⟩ := first
      obtain ⟨text, counts⟩ := ih
      refine ⟨?_, ?_⟩
      · show occurrence.edit.apply (Edit.splice template (rest.map Occurrence.edit)).text =
          other.edit.apply (Edit.splice template (more.map Occurrence.edit)).text
        rw [text]
        simp only [Edit.apply, Occurrence.edit, start, stop, replacement]
      · show
          (occurrence.values ++ (Edit.splice template (rest.map Occurrence.edit)).values).length =
            (other.values ++ (Edit.splice template (more.map Occurrence.edit)).values).length
        rw [List.length_append, List.length_append, count, counts]
  obtain ⟨text, count⟩ := spliced
  refine ⟨?_, count⟩
  simp only [assemble, text]

/-- Operands with the same queries, one by one, make the same group. -/
theorem Operand.group_sameText {operands others : List Operand}
    (same : List.Forall₂ SameQuery operands others) :
    (group operands).SameText (group others) := by
  have alike : joined operands = joined others ∧
      (operands.flatMap values).length = (others.flatMap values).length := by
    -- The texts and the counts of the operands add up one after the other.
    induction same with
    | nil => exact ⟨rfl, rfl⟩
    | @cons operand other rest more first _ ih =>
      obtain ⟨operator, query, count⟩ := first
      obtain ⟨texts, counts⟩ := ih
      refine ⟨?_, ?_⟩
      · simp only [joined, List.flatMap_cons, operator, query]
        congr 1
      · rw [List.flatMap_cons, List.flatMap_cons, List.length_append, List.length_append, count,
          counts]
  -- The words are the joined texts without the first operator.
  have tail : ∀ list : List Operand, words list = (joined list).tail := by
    intro list
    cases list <;> rfl
  refine ⟨?_, alike.2⟩
  show (groupOf (words operands) _).text = (groupOf (words others) _).text
  rw [groupOf, groupOf, tail, tail, alike.1]

/-- Parameters that agree in shape at a placeholder both have its name, or neither has. -/
theorem SameAt.has_eq {left right : Entries} {placeholder : Placeholder}
    (same : SameAt left right placeholder) :
    left.has placeholder.name = right.has placeholder.name := by
  -- Either both sides have a value at the placeholder or neither has.
  unfold Entries.has
  cases same with
  | absent unbound others => rw [unbound, others]
  | plain form bound others extent => rw [bound, others]; rfl
  | optional form bound others extent => rw [bound, others]; rfl
  | misshapen form bound others unread neither => rw [bound, others]; rfl
  | terms form bound others read both same => rw [bound, others]; rfl

/-- Values with the same operator name have the same operator. -/
theorem Connective.ofValue?_congr {value other : Value}
    (same : value.operatorName = other.operatorName) : ofValue? value = ofValue? other := by
  -- Which connective a value is depends on its operator name alone.
  refine Option.ext fun connective => ?_
  rw [ofValue?_eq_some_iff, ofValue?_eq_some_iff, same]

/-- Terms with one operator and one template add the same operand when their parameters resolve
the template to the same query. -/
theorem Term.operand_alike {config : Config} {name : String} {term other : Term}
    (operator : term.operator.operatorName = other.operator.operatorName)
    (template : term.template = other.template)
    (alike : Alike Resolution.SameQuery SameKind
      (resolveTemplate config term.template term.parameters).outcome
      (resolveTemplate config term.template other.parameters).outcome) :
    Alike (Option.Rel Operand.SameQuery) SameKind (term.operand config name)
      (other.operand config name) := by
  rw [operand, operand, Connective.ofValue?_congr operator, ← template]
  -- The operator alone decides whether the template is resolved at all.
  cases Connective.ofValue? other.operator with
  | none =>
    cases config.ignoresUnknown with
    | true => exact .ok .none
    | false => exact .error (sameKind_unknownOperator ..)
  | some connective => exact alike.map fun _ _ same => .some ⟨rfl, same⟩

mutual

/-- With parameters that agree in shape, a template is resolved to the same query, or fails as the
same kind. -/
theorem SameShape.alike {template : Text} {left right : Entries}
    (shape : SameShape template left right) (config : Config) :
    Alike Resolution.SameQuery SameKind (resolveTemplate config template left).outcome
      (resolveTemplate config template right).outcome := by
  rw [outcome_resolveTemplate, outcome_resolveTemplate]
  match shape with
  | .intro each =>
    cases scanned : Placeholder.scan template with
    | error fault => exact .error rfl
    | ok placeholders =>
      have undefined := undefinedNames_congr fun placeholder member =>
        (each placeholders scanned placeholder member).has_eq
      simp only [undefined]
      -- The same names are undefined on both sides, if any.
      cases undefinedNames right placeholders with
      | cons name names => exact .error rfl
      | nil =>
        -- The occurrences are alike one by one, and so is what they are assembled to.
        refine Alike.map (Alike.mapM ?_) fun _ _ same => Resolution.assemble_sameQuery same
        rw [List.forall₂_same]
        intro placeholder member
        exact (each placeholders scanned placeholder member).alike config template

/-- With parameters that agree in shape at a placeholder, its occurrence has the same text. -/
theorem SameAt.alike {left right : Entries} {placeholder : Placeholder}
    (same : SameAt left right placeholder) (config : Config) (template : Text) :
    Alike Occurrence.SameText SameKind
      (occurrenceOf config template left placeholder).outcome
      (occurrenceOf config template right placeholder).outcome := by
  rw [outcome_occurrenceOf, outcome_occurrenceOf]
  match same with
  | .absent unbound others =>
    -- The placeholder is left out on both sides, or its name is missed on both.
    rw [unbound, others]
    cases placeholder.isOptional with
    | true => exact .ok ⟨rfl, rfl, rfl, rfl⟩
    | false => exact .error rfl
  | .plain form bound others extent =>
    simp only [bound, others, form]
    exact .ok ((extent.sameText config.marker).replacing placeholder _ _)
  | .optional form bound others extent =>
    simp only [bound, others, form]
    have filled := Occurrence.fill_sameText fun marked =>
      (extent marked).sameText config.marker
    exact .ok (filled.replacing placeholder _ _)
  | .misshapen form bound others unread neither =>
    -- The words of the two faults may differ, but not the kind.
    simp only [bound, others, form, outcome_resolveGroup, unread, neither]
    exact .error rfl
  | .terms form bound others read both same =>
    simp only [bound, others, form, outcome_resolveGroup, read, both]
    have added := Alike.mapM (same.alike config placeholder.name)
    have grouped := added.map fun _ _ each =>
      Operand.group_sameText (List.rel_filterMap (fun _ _ => id) each)
    exact grouped.map fun _ _ markers => markers.replacing placeholder _ _

/-- Terms that agree in shape add the same operands, one by one. -/
theorem SameTerms.alike {terms others : List Term} (same : SameTerms terms others)
    (config : Config) (name : String) :
    List.Forall₂ (fun term other => Alike (Option.Rel Operand.SameQuery) SameKind
      (term.operand config name) (other.operand config name)) terms others := by
  -- Each pair of terms is alike by the shape of its own parameters.
  match same with
  | .nil => exact .nil
  | .cons operator template shape rest =>
    exact .cons (Term.operand_alike operator template (shape.alike config))
      (rest.alike config name)

end

/-- The query that a template is resolved to depends only on the shapes of the values of its names,
and so do the number of values that are bound and the kind of a failure. -/
theorem resolve_sameQuery {config : Config} {template : Text} {left right : Value}
    {entries others : Entries} (given : parametersOf template left = .ok entries)
    (also : parametersOf template right = .ok others) (shape : SameShape template entries others) :
    (∃ resolution other, (resolve template left config).outcome = .ok resolution ∧
      (resolve template right config).outcome = .ok other ∧
        resolution.query = other.query ∧ resolution.values.length = other.values.length) ∨
    (∃ fault other, (resolve template left config).outcome = .error fault ∧
      (resolve template right config).outcome = .error other ∧
        fault.report.kindName = other.report.kindName) := by
  rw [outcome_resolve, outcome_resolve, given, also]
  have alike := shape.alike config
  simp only [Except.bind]
  -- Of the two outcomes nothing is used but that they are alike.
  generalize (resolveTemplate config template entries).outcome = outcome at alike
  generalize (resolveTemplate config template others).outcome = another at alike
  cases alike with
  | ok same => exact Or.inl ⟨_, _, rfl, rfl, same⟩
  | error same => exact Or.inr ⟨_, _, rfl, rfl, same⟩

/-- A list of numbers and a tuple of texts of its length, and terms with other contents in two of
their forms, make the same query with three markers. -/
theorem resolve_sameQuery_of_two_contents :
    let left : Entries := [("x", .list [.int 1, .int 2]),
      ("~f", .list [.tuple [.str " and ", .str ":y", .mapping [("y", .null)]]])]
    let right : Entries := [("~f", .tuple [.term (.str "AND") (.str ":y")
      (.mapping [("y", .str "'; --")])]), ("x", .tuple [.str "a", .str "b"])]
    SameShape ":x :~f".toList left right ∧ ∃ resolution other,
      (resolve ":x :~f".toList (.mapping left) .default).outcome = .ok resolution ∧
      (resolve ":x :~f".toList (.mapping right) .default).outcome = .ok other ∧
      resolution.query = "(?, ?) (?)".toList ∧ other.query = "(?, ?) (?)".toList ∧
      resolution.values.length = 3 ∧ other.values.length = 3 := by
  intro left right
  have outer : Placeholder.scan ":x :~f".toList =
      .ok [⟨"x", .plain, 0⟩, ⟨"~f", .dynamic, 3⟩] := by
    with_unfolding_all rfl
  have inner : Placeholder.scan ":y".toList = .ok [⟨"y", .plain, 0⟩] := by
    with_unfolding_all rfl
  have shape : SameShape ":x :~f".toList left right := by
    refine .intro fun placeholders scanned => ?_
    cases outer.symm.trans scanned
    refine List.forall_mem_cons.mpr ⟨.plain rfl rfl rfl (.array (.list _) (.tuple _) rfl), ?_⟩
    -- Both values of the dynamic name are made of one term, with the same operator and template.
    refine List.forall_mem_cons.mpr ⟨.terms rfl rfl rfl rfl rfl ?_, by simp⟩
    refine .cons (by decide) rfl (.intro fun nested found => ?_) .nil
    cases inner.symm.trans found
    exact List.forall_mem_cons.mpr ⟨.plain rfl rfl rfl (.single nofun nofun), by simp⟩
  have computed : (resolve ":x :~f".toList (.mapping left) .default).outcome.map
      (fun resolution => (resolution.query, resolution.values.length)) =
        .ok ("(?, ?) (?)".toList, 3) := by
    simp only [outcome_resolve, outcome_resolveTemplate, outcome_occurrenceOf, outcome_resolveGroup]
    unfold Term.operand
    simp only [outcome_resolveTemplate, outcome_occurrenceOf]
    with_unfolding_all rfl
  obtain ⟨resolution, resolved, same⟩ := map_eq_ok_iff.mp computed
  obtain ⟨query, count⟩ := Prod.mk.inj same
  -- The left side succeeds, so both sides do, and the right one with the query of the left one.
  have alike := @resolve_sameQuery .default _ (.mapping left) (.mapping right) _ _ rfl rfl shape
  rcases alike with ⟨_, other, first, second, queries, counts⟩ | ⟨_, _, failed, -⟩
  · cases resolved.symm.trans first
    exact ⟨shape, _, other, resolved, second, query, queries ▸ query, count, counts ▸ count⟩
  · cases resolved.symm.trans failed

end SqlTemplate
