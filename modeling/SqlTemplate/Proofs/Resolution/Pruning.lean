import SqlTemplate.Proofs.Lookup
import SqlTemplate.Proofs.Placeholder.Recognition
import SqlTemplate.Proofs.Resolution.Outcome

/-! Leaving out the terms with unknown operators is the same as never having written them. -/

namespace SqlTemplate

/-- Whether a template has a dynamic placeholder of a name. -/
def Placeholder.isDynamicIn (template : Text) (name : String) : Bool :=
  match scan template with
  | .ok placeholders => placeholders.any fun placeholder =>
    placeholder.form = .dynamic && placeholder.name = name
  | .error _ => false

/-- Whether an element of the value of a dynamic name is a term whose operator is unknown. -/
def Value.isUnknownTerm (name : String) (element : Value) : Bool :=
  match Term.Draft.ofValue name element with
  | .ok draft => (Connective.ofValue? draft.operator).isNone
  | .error _ => false

namespace Value

mutual

/-- The parameters of a template without the terms whose operators are unknown. -/
def pruned (template : Text) : Value → Value
  | mapping entries => mapping (prunedEntries template entries)
  | other => other

/-- Entries whose values are pruned under the dynamic names of a template. -/
def prunedEntries (template : Text) : List (String × Value) → List (String × Value)
  | [] => []
  | (name, value) :: rest =>
    (name, if Placeholder.isDynamicIn template name then prunedGroup name value else value) ::
      prunedEntries template rest

/-- The value of a dynamic name without the terms whose operators are unknown. -/
def prunedGroup (name : String) : Value → Value
  | list items => list (prunedElements name items)
  | tuple items => tuple (prunedElements name items)
  | other => other

/-- The elements of the value of a dynamic name that are kept, each with its parameters pruned. -/
def prunedElements (name : String) : List Value → List Value
  | [] => []
  | element :: rest =>
    if isUnknownTerm name element then prunedElements name rest
    else prunedElement element :: prunedElements name rest

/-- A term in any of its three forms with its parameters pruned for its own template. -/
def prunedElement : Value → Value
  | term operator (str template) parameters =>
    term operator (str template) (pruned template.toList parameters)
  | list [operator, str template, parameters] =>
    list [operator, str template, pruned template.toList parameters]
  | tuple [operator, str template, parameters] =>
    tuple [operator, str template, pruned template.toList parameters]
  | mapping entries =>
    match Entries.get? entries "template" with
    | some (str template) => mapping (prunedParameters template.toList entries)
    | _ => mapping entries
  | other => other

/-- The entries of a term that is written as a mapping, with its parameters pruned. -/
def prunedParameters (template : Text) : List (String × Value) → List (String × Value)
  | [] => []
  | (key, value) :: rest =>
    (key, if key = "parameters" then pruned template value else value) ::
      prunedParameters template rest

end

/-- Entries are pruned one by one. -/
theorem prunedEntries_eq_map (template : Text) (entries : Entries) :
    prunedEntries template entries = entries.map fun entry => (entry.1,
      if Placeholder.isDynamicIn template entry.1 then prunedGroup entry.1 entry.2
      else entry.2) := by
  -- The recursion is written out for the sake of termination only.
  induction entries with
  | nil => rfl
  | cons entry rest ih => rw [prunedEntries, ih, List.map_cons]

/-- The entries of a term are gone through one by one. -/
theorem prunedParameters_eq_map (template : Text) (entries : Entries) :
    prunedParameters template entries = entries.map fun entry => (entry.1,
      if entry.1 = "parameters" then pruned template entry.2 else entry.2) := by
  -- The recursion is written out for the sake of termination only.
  induction entries with
  | nil => rfl
  | cons entry rest ih => rw [prunedParameters, ih, List.map_cons]

/-- Pruned entries have the same names, and only values of dynamic names are changed. -/
theorem get?_prunedEntries (template : Text) (entries : Entries) (name : String) :
    Entries.get? (prunedEntries template entries) name =
      (entries.get? name).map fun value =>
        if Placeholder.isDynamicIn template name then prunedGroup name value else value := by
  -- No name is changed, so the same entry is found and pruned.
  rw [prunedEntries_eq_map, Entries.get?, Entries.get?]
  exact lookup_map_entries fun name value =>
    if Placeholder.isDynamicIn template name then prunedGroup name value else value

/-- Of the entries of a term only its parameters are changed. -/
theorem get?_prunedParameters (template : Text) (entries : Entries) (key : String) :
    Entries.get? (prunedParameters template entries) key =
      (entries.get? key).map fun value =>
        if key = "parameters" then pruned template value else value := by
  -- No key is changed, so the same entry is found and pruned.
  rw [prunedParameters_eq_map, Entries.get?, Entries.get?]
  exact lookup_map_entries fun key value =>
    if key = "parameters" then pruned template value else value

/-- Pruned parameters are a mapping when they were one. -/
theorem entries?_pruned (template : Text) (parameters : Value) :
    (pruned template parameters).entries? =
      parameters.entries?.map (prunedEntries template) := by
  -- Only a mapping is pruned, and any other value stays and has no entries.
  cases parameters <;> rfl

/-- Pruned parameters are empty only when they were empty. -/
theorem isTruthy_pruned (template : Text) (parameters : Value) :
    (pruned template parameters).isTruthy = parameters.isTruthy := by
  -- Entries are pruned without any of them going.
  cases parameters with
  | mapping entries => cases entries <;> rfl
  | _ => rfl

end Value

/-- Whether the operator of a term is one of the two. -/
def Term.isKnown (term : Term) : Bool :=
  (Connective.ofValue? term.operator).isSome

/-- A term with its parameters pruned for its template. -/
def Term.pruned (term : Term) : Term :=
  { term with parameters := Value.prunedEntries term.template term.parameters }

/-- A draft with its parameters pruned, if it has a template to prune them for. -/
def Term.Draft.pruned (draft : Draft) : Draft :=
  match draft.template with
  | .str template => { draft with parameters := draft.parameters.pruned template.toList }
  | _ => draft

/-- The draft of a term that is written as a mapping is pruned with its entries. -/
theorem Term.Draft.ofEntries_pruned {name : String} {entries : Entries} {draft : Draft}
    (read : ofEntries name entries = .ok draft) :
    ofValue name (Value.mapping entries).prunedElement = .ok draft.pruned := by
  rw [ofEntries] at read
  split at read <;> try contradiction
  rename_i operator template hasOperator hasTemplate
  -- Without a text for its template the mapping is left as it is.
  have draftTemplate : draft.template = template := by
    split at read <;> cases read <;> rfl
  rw [pruned, draftTemplate]
  cases template with
  | str written =>
    have others : ∀ key, key ≠ "parameters" →
        Entries.get? (Value.prunedParameters written.toList entries) key = entries.get? key := by
      intro key other
      rw [Value.get?_prunedParameters]
      simp [other]
    have parameters := Value.get?_prunedParameters written.toList entries "parameters"
    simp only [Value.prunedElement, hasTemplate, ofValue, ofEntries, others "operator" (by decide),
      others "template" (by decide), hasOperator, parameters]
    cases given : entries.get? "parameters" with
    | none =>
      rw [given] at read
      cases read
      rfl
    | some value =>
      rw [given] at read
      cases read
      -- Parameters that count as missing are so after pruning as well.
      simp only [Option.map_some, if_true, Value.isTruthy_pruned]
      cases value.isTruthy <;> rfl
  | _ => simpa only [Value.prunedElement, hasTemplate, ofValue, ofEntries, hasOperator] using read

/-- The draft of a pruned element is the pruned draft of the element, whichever its form. -/
theorem Term.Draft.ofValue_prunedElement {name : String} {element : Value} {draft : Draft}
    (read : ofValue name element = .ok draft) :
    ofValue name element.prunedElement = .ok draft.pruned := by
  -- The parameters are pruned when the template is a text, and kept as they are otherwise.
  unfold ofValue at read
  split at read
  · rename_i operator template parameters
    cases read
    cases template <;> rfl
  · exact ofEntries_pruned read
  · contradiction
  · rename_i operator template parameters
    cases read
    cases template <;> rfl
  · rename_i operator template parameters
    cases read
    cases template <;> rfl
  · contradiction

/-- A draft passes the check as the pruned term when it is pruned itself. -/
theorem Term.Draft.check_pruned {name : String} {draft : Draft} {term : Term}
    (checked : draft.check name = .ok term) : draft.pruned.check name = .ok term.pruned := by
  -- The template of a draft that passes is a text, so its parameters are pruned by that text.
  obtain ⟨operator, template, parameters⟩ := draft
  cases template with
  | str written =>
    simp only [check] at checked
    split at checked
    · rename_i entries mapped
      cases checked
      simp only [pruned, check, Value.entries?_pruned, mapped]
      rfl
    · contradiction
  | _ => contradiction

/-- A draft that passes the check keeps its operator. -/
theorem Term.Draft.operator_of_check {name : String} {draft : Draft} {term : Term}
    (checked : draft.check name = .ok term) : term.operator = draft.operator := by
  -- The check looks at the template and the parameters only.
  unfold check at checked
  split at checked <;> try contradiction
  split at checked <;> try contradiction
  cases checked
  rfl

/-- The terms of pruned elements are the known ones of the terms of the elements, each pruned. -/
theorem Term.ofElements_pruned {name : String} {items : List Value} {drafts : List Draft}
    {terms : List Term}
    (read : List.Forall₂ (fun item draft => Draft.ofValue name item = .ok draft) items drafts)
    (checked : List.Forall₂ (fun draft term => Draft.check name draft = .ok term) drafts terms) :
    ∃ others : List Draft,
      List.Forall₂ (fun item draft => Draft.ofValue name item = .ok draft)
        (Value.prunedElements name items) others ∧
      List.Forall₂ (fun draft term => Draft.check name draft = .ok term) others
        ((terms.filter isKnown).map pruned) := by
  -- The elements, their drafts and their terms are gone through together.
  induction read generalizing terms with
  | nil =>
    cases checked
    exact ⟨[], .nil, .nil⟩
  | @cons item draft items drafts first _ ih =>
    cases checked with
    | @cons _ term _ terms passed others =>
      obtain ⟨kept, readKept, checkedKept⟩ := ih others
      -- An element is unknown when the term that is read from it is.
      have unknown : Value.isUnknownTerm name item = !term.isKnown := by
        simp only [Value.isUnknownTerm, first, isKnown, Draft.operator_of_check passed]
        cases Connective.ofValue? draft.operator <;> rfl
      rw [Value.prunedElements, unknown]
      cases known : term.isKnown with
      | false =>
        rw [List.filter_cons_of_neg (by simp [known])]
        exact ⟨kept, readKept, checkedKept⟩
      | true =>
        rw [List.filter_cons_of_pos known]
        exact ⟨draft.pruned :: kept, .cons (Draft.ofValue_prunedElement first) readKept,
          .cons (Draft.check_pruned passed) checkedKept⟩

/-- The terms of a pruned value are the known ones of its terms, each pruned. -/
theorem Term.ofValue_prunedGroup {name : String} {value : Value} {terms : List Term}
    (read : ofValue name value = .ok terms) :
    ofValue name (value.prunedGroup name) = .ok ((terms.filter isKnown).map pruned) := by
  obtain ⟨items, listed, read⟩ := bind_eq_ok_iff.mp read
  obtain ⟨drafts, drafted, checked⟩ := bind_eq_ok_iff.mp read
  obtain ⟨others, readKept, checkedKept⟩ :=
    ofElements_pruned (mapM_eq_ok_iff.mp drafted) (mapM_eq_ok_iff.mp checked)
  -- A list stays a list, and a tuple a tuple.
  have sequence :
      elements name (value.prunedGroup name) = .ok (Value.prunedElements name items) := by
    cases value <;> cases listed <;> rfl
  exact bind_eq_ok_iff.mpr ⟨_, sequence, bind_eq_ok_iff.mpr
    ⟨others, mapM_eq_ok_iff.mpr readKept, mapM_eq_ok_iff.mpr checkedKept⟩⟩

/-- A name of a template is a dynamic one when any of its placeholders is dynamic. -/
theorem Placeholder.isDynamicIn_eq {template : Text} {placeholders : List Placeholder}
    (scanned : scan template = .ok placeholders) {placeholder : Placeholder}
    (member : placeholder ∈ placeholders) :
    isDynamicIn template placeholder.name = decide (placeholder.form = .dynamic) := by
  -- The name alone tells whether a placeholder that has it is dynamic.
  have marked : ∀ other ∈ placeholders,
      other.form = .dynamic ↔ dynamicMark ∈ other.name.toList := by
    intro other listed
    obtain ⟨_, head, rest, candidate, makes⟩ := (scan_eq_ok_iff.mp scanned).sound other listed
    exact candidate.opens.begins.dynamic_iff_of_makes makes
  rw [isDynamicIn, scanned, Bool.eq_iff_iff, decide_eq_true_eq]
  simp only [List.any_eq_true, Bool.and_eq_true, decide_eq_true_eq]
  constructor
  · rintro ⟨other, listed, dynamic, same⟩
    rw [marked placeholder member, ← same]
    exact (marked other listed).mp dynamic
  · intro dynamic
    exact ⟨placeholder, member, dynamic, rfl⟩

section Carrying

variable {config other : Config} {template : Text} {left right : Entries}

/-- The occurrence of a placeholder is the same with another setting and other parameters, if its
value is the same, or makes the same group where the placeholder is dynamic. -/
theorem outcome_occurrenceOf_of_value {placeholder : Placeholder} {occurrence : Occurrence}
    (marker : config.marker = other.marker)
    (absent : left.get? placeholder.name = none → right.get? placeholder.name = none)
    (kept : ∀ value, left.get? placeholder.name = some value → placeholder.form ≠ .dynamic →
      right.get? placeholder.name = some value)
    (grouped : ∀ value markers, left.get? placeholder.name = some value →
      (resolveGroup config placeholder.name value).outcome = .ok markers →
      placeholder.form = .dynamic → ∃ another, right.get? placeholder.name = some another ∧
        (resolveGroup other placeholder.name another).outcome = .ok markers)
    (made : (occurrenceOf config template left placeholder).outcome = .ok occurrence) :
    (occurrenceOf other template right placeholder).outcome = .ok occurrence := by
  -- A placeholder without a value stays without one, and the form tells what is made of a value.
  rw [outcome_occurrenceOf] at made ⊢
  cases bound : left.get? placeholder.name with
  | none =>
    rw [bound] at made
    rw [absent bound]
    exact made
  | some value =>
    simp only [bound] at made
    cases form : placeholder.form with
    | plain =>
      simp only [kept value bound (by simp [form]), ← marker]
      simpa only [form] using made
    | optional fragment =>
      simp only [kept value bound (by simp [form]), ← marker]
      simpa only [form] using made
    | dynamic =>
      simp only [form] at made
      -- The other value may differ, but it makes the same group.
      obtain ⟨markers, resolved, rfl⟩ := map_eq_ok_iff.mp made
      obtain ⟨another, found, same⟩ := grouped value markers bound resolved form
      simp only [found, same]
      rfl

/-- A template is resolved to the same query with another setting and other parameters that have
the same names, if each of its placeholders has the same occurrence. -/
theorem outcome_resolveTemplate_of_occurrences {resolution : Resolution}
    (names : ∀ name, left.has name = right.has name)
    (each : ∀ placeholders, Placeholder.scan template = .ok placeholders →
      ∀ placeholder ∈ placeholders, ∀ occurrence,
        (occurrenceOf config template left placeholder).outcome = .ok occurrence →
        (occurrenceOf other template right placeholder).outcome = .ok occurrence)
    (resolved : (resolveTemplate config template left).outcome = .ok resolution) :
    (resolveTemplate other template right).outcome = .ok resolution := by
  -- The template is scanned alike and the same names are defined, so the occurrences decide.
  rw [outcome_resolveTemplate] at resolved ⊢
  cases scanned : Placeholder.scan template with
  | error fault =>
    rw [scanned] at resolved
    contradiction
  | ok placeholders =>
    have undefined : undefinedNames left placeholders = undefinedNames right placeholders :=
      undefinedNames_congr fun placeholder _ => names placeholder.name
    simp only [scanned, undefined] at resolved ⊢
    cases missing : undefinedNames right placeholders with
    | cons name others => simp [missing] at resolved
    | nil =>
      simp only [missing] at resolved
      obtain ⟨occurrences, made, rfl⟩ := map_eq_ok_iff.mp resolved
      exact map_eq_ok_iff.mpr ⟨occurrences,
        mapM_eq_ok_of_agrees (each placeholders scanned) made, rfl⟩

/-- A term that adds something adds the same when it is pruned, and any other one is unknown. -/
theorem Term.operand_pruned {name : String} {term : Term} {added : Option Operand}
    (nested : ∀ resolution,
      (resolveTemplate config term.template term.parameters).outcome = .ok resolution →
      (resolveTemplate other term.template term.pruned.parameters).outcome = .ok resolution)
    (made : term.operand config name = .ok added) :
    (term.isKnown = true ∧ term.pruned.operand other name = .ok added) ∨
      (term.isKnown = false ∧ added = none) := by
  rw [operand] at made
  rw [operand, isKnown, pruned]
  cases operator : Connective.ofValue? term.operator with
  | none =>
    -- The term is left out, as it would be a fault otherwise.
    rw [operator] at made
    cases ignored : config.ignoresUnknown with
    | false => simp [ignored] at made
    | true =>
      simp only [ignored, if_true, Except.ok.injEq] at made
      exact Or.inr ⟨rfl, made.symm⟩
  | some connective =>
    rw [operator] at made
    obtain ⟨resolution, resolved, rfl⟩ := map_eq_ok_iff.mp made
    exact Or.inl ⟨rfl, map_eq_ok_iff.mpr ⟨resolution, nested resolution resolved, rfl⟩⟩

/-- Terms add the same operands when the unknown ones are removed and the others are pruned. -/
theorem Term.operands_pruned {name : String} {terms : List Term} {added : List (Option Operand)}
    (nested : ∀ term ∈ terms, ∀ resolution,
      (resolveTemplate config term.template term.parameters).outcome = .ok resolution →
      (resolveTemplate other term.template term.pruned.parameters).outcome = .ok resolution)
    (made : terms.mapM (operand config name) = .ok added) :
    ∃ kept, ((terms.filter isKnown).map pruned).mapM (operand other name) = .ok kept ∧
      kept.filterMap id = added.filterMap id := by
  simp only [mapM_eq_ok_iff] at made ⊢
  induction made with
  | nil => exact ⟨[], .nil, rfl⟩
  | @cons term operand terms operands first _ ih =>
    obtain ⟨here, later⟩ := List.forall_mem_cons.mp nested
    obtain ⟨kept, others, same⟩ := ih later
    rcases operand_pruned here first with ⟨known, again⟩ | ⟨unknown, rfl⟩
    · rw [List.filter_cons_of_pos known]
      refine ⟨operand :: kept, .cons again others, ?_⟩
      cases operand with
      | none => exact same
      | some operand => exact congrArg (operand :: ·) same
    · -- A term that is left out adds nothing, so it may as well be missing.
      rw [List.filter_cons_of_neg (by simp [unknown])]
      exact ⟨kept, others, same⟩

/-- Pruned parameters make the same query as the parameters did, whether or not unknown operators
are ignored. -/
theorem outcome_resolveTemplate_pruned (marker : config.marker = other.marker)
    (parameters : Entries) : ∀ template resolution,
      (resolveTemplate config template parameters).outcome = .ok resolution →
      (resolveTemplate other template (Value.prunedEntries template parameters)).outcome =
        .ok resolution := by
  -- The parameters of the terms of a dynamic value are pruned in the same way.
  induction parameters using Entries.induction with
  | step parameters nested =>
    intro template resolution
    refine outcome_resolveTemplate_of_occurrences (fun name => ?_)
      fun placeholders scanned placeholder member occurrence => ?_
    · rw [Entries.has, Entries.has, Value.get?_prunedEntries, Option.isSome_map]
    · have pruned := Value.get?_prunedEntries template parameters placeholder.name
      rw [Placeholder.isDynamicIn_eq scanned member] at pruned
      refine outcome_occurrenceOf_of_value marker (fun absent => ?_) (fun value bound plain => ?_)
        fun value markers bound resolved dynamic => ?_
      · rw [pruned, absent]
        rfl
      · rw [pruned, bound]
        simp [plain]
      · -- The group of a dynamic name is made of the terms that are kept.
        refine ⟨value.prunedGroup placeholder.name, by rw [pruned, bound]; simp [dynamic], ?_⟩
        rw [outcome_resolveGroup] at resolved ⊢
        cases read : Term.ofValue placeholder.name value with
        | error cause => simp [read] at resolved
        | ok terms =>
          simp only [read] at resolved
          obtain ⟨added, made, rfl⟩ := map_eq_ok_iff.mp resolved
          obtain ⟨kept, again, same⟩ := Term.operands_pruned
            (fun term listed => nested _ _ _ bound read term listed term.template) made
          simp only [Term.ofValue_prunedGroup read]
          exact map_eq_ok_iff.mpr ⟨kept, again, by rw [same]⟩

/-- A query that is made without ignoring unknown operators is made as well when they are. -/
theorem outcome_resolveTemplate_ignoring (marker : config.marker = other.marker)
    (ignores : other.ignoresUnknown = true) (parameters : Entries) : ∀ template resolution,
      (resolveTemplate config template parameters).outcome = .ok resolution →
      (resolveTemplate other template parameters).outcome = .ok resolution := by
  induction parameters using Entries.induction with
  | step parameters nested =>
    intro template resolution
    refine outcome_resolveTemplate_of_occurrences (fun _ => rfl)
      fun placeholders scanned placeholder member occurrence => ?_
    -- Only a group can tell the settings apart, as the markers are the same.
    refine outcome_occurrenceOf_of_value marker id (fun _ bound _ => bound)
      fun value markers bound resolved dynamic => ⟨value, bound, ?_⟩
    rw [outcome_resolveGroup] at resolved ⊢
    cases read : Term.ofValue placeholder.name value with
    | error cause => simp [read] at resolved
    | ok terms =>
      simp only [read] at resolved ⊢
      obtain ⟨added, made, rfl⟩ := map_eq_ok_iff.mp resolved
      refine map_eq_ok_iff.mpr
        ⟨added, mapM_eq_ok_of_agrees (fun term listed operand made => ?_) made, rfl⟩
      -- A term that adds something is either ignored by both or resolved by both.
      rw [Term.operand] at made ⊢
      cases operator : Connective.ofValue? term.operator with
      | none =>
        simp only [operator, ignores, if_true] at made ⊢
        split at made
        · exact made
        · contradiction
      | some connective =>
        rw [operator] at made
        obtain ⟨resolution, resolved, rfl⟩ := map_eq_ok_iff.mp made
        exact map_eq_ok_iff.mpr ⟨resolution,
          nested _ _ _ bound read term listed term.template resolution resolved, rfl⟩

end Carrying

/-- What is given as parameters is pruned as its entries are. -/
theorem parametersOf_pruned {template : Text} {parameters : Value} {entries : Entries}
    (given : parametersOf template parameters = .ok entries) :
    parametersOf template (parameters.pruned template) =
      .ok (Value.prunedEntries template entries) := by
  -- Null stands for no entries, and there is nothing to prune in them.
  cases parameters <;> cases given <;> rfl

/-- Resolving with unknown operators ignored gives the result of resolving with them refused once
the terms that have them are removed, at every depth. Where refusing them gives a result, ignoring
them gives the same. -/
theorem resolve_pruned (config : Config) (template : Text) (parameters : Value)
    (resolution : Resolution) :
    ((resolve template parameters { config with ignoresUnknown := true }).outcome =
        .ok resolution →
      (resolve template (parameters.pruned template)
        { config with ignoresUnknown := false }).outcome = .ok resolution) ∧
    ((resolve template parameters { config with ignoresUnknown := false }).outcome =
        .ok resolution →
      (resolve template parameters { config with ignoresUnknown := true }).outcome =
        .ok resolution) := by
  -- Both settings write the same markers.
  have marker : ∀ first second : Bool, ({ config with ignoresUnknown := first } : Config).marker =
      ({ config with ignoresUnknown := second } : Config).marker := fun _ _ => rfl
  -- Both directions are those for templates, once the entries are taken out of the parameters.
  simp only [outcome_resolve]
  constructor
  · intro resolved
    obtain ⟨entries, given, resolved⟩ := bind_eq_ok_iff.mp resolved
    exact bind_eq_ok_iff.mpr ⟨_, parametersOf_pruned given,
      outcome_resolveTemplate_pruned (marker true false) entries template resolution resolved⟩
  · intro resolved
    obtain ⟨entries, given, resolved⟩ := bind_eq_ok_iff.mp resolved
    exact bind_eq_ok_iff.mpr ⟨entries, given,
      outcome_resolveTemplate_ignoring (marker false true) rfl entries template resolution resolved⟩

/-- A term that is written as a mapping, with a group that has a term and others within it. -/
def nestedTerm (others : List Value) : Value :=
  .mapping [("operator", .str "and"), ("template", .str ":a AND :~g"),
    ("parameters", .mapping [("a", .int 1),
      ("~g", .tuple (.tuple [.str "or", .str ":b", .mapping [("b", .int 2)]] :: others))])]

/-- A group whose first term has an unknown operator, as has the last one of the group within. -/
def mixedTerms : Value :=
  .mapping [("~f", .list [.term (.str "XOR") (.str "x") .noParameters,
    nestedTerm [.list [.null, .str "y", .noParameters]]])]

/-- The same group without the two terms. -/
def knownTerms : Value :=
  .mapping [("~f", .list [nestedTerm []])]

/-- Pruning removes a term of the outer group and one of the group within it. -/
theorem pruned_mixedTerms : mixedTerms.pruned ":~f".toList = knownTerms := by
  -- The templates are scanned for dynamic names, and the operators of the terms are read.
  have outer : Placeholder.isDynamicIn ":~f".toList "~f" = true := by with_unfolding_all rfl
  have inner : Placeholder.isDynamicIn ":a AND :~g".toList "~g" = true := by with_unfolding_all rfl
  have first : Value.isUnknownTerm "~f" (.term (.str "XOR") (.str "x") .noParameters) = true := by
    with_unfolding_all rfl
  have second : Value.isUnknownTerm "~f"
      (nestedTerm [.list [.null, .str "y", .noParameters]]) = false := by with_unfolding_all rfl
  have third : Value.isUnknownTerm "~g"
      (.tuple [.str "or", .str ":b", .mapping [("b", .int 2)]]) = false := by with_unfolding_all rfl
  have last : Value.isUnknownTerm "~g" (.list [.null, .str "y", .noParameters]) = true := by
    with_unfolding_all rfl
  have template : ∀ others, Entries.get? [("operator", .str "and"), ("template", .str ":a AND :~g"),
      ("parameters", others)] "template" = some (.str ":a AND :~g") := fun _ => rfl
  -- With these facts pruning is a matter of rewriting, first in the inner group.
  have nested : (nestedTerm [.list [.null, .str "y", .noParameters]]).prunedElement =
      nestedTerm [] := by
    simp only [nestedTerm, Value.prunedElement, template, Value.prunedParameters, Value.pruned,
      Value.prunedEntries, inner, Value.prunedGroup, Value.prunedElements, third, last, if_true,
      ite_self, Bool.false_eq_true, if_false]
  simp only [mixedTerms, Value.pruned, Value.prunedEntries, outer, Value.prunedGroup,
    Value.prunedElements, first, second, nested, knownTerms, if_true, Bool.false_eq_true, if_false]

/-- The first of two terms is dropped, and the last one of a nested group, and the others make the
query that they make by themselves. -/
theorem mixedTerms_resolved : ∃ resolution,
    resolution.query = "(? AND (?))".toList ∧
    (resolve ":~f".toList mixedTerms { Config.default with ignoresUnknown := true }).outcome =
      .ok resolution ∧
    (resolve ":~f".toList knownTerms { Config.default with ignoresUnknown := false }).outcome =
      .ok resolution ∧
    (resolve ":~f".toList knownTerms { Config.default with ignoresUnknown := true }).outcome =
      .ok resolution := by
  -- One resolution is computed, and the two others follow from the general theorem, one way and
  -- back.
  have computed : (resolve ":~f".toList mixedTerms
      { Config.default with ignoresUnknown := true }).outcome.map Resolution.query =
        .ok "(? AND (?))".toList := by
    simp only [outcome_resolve, outcome_resolveTemplate, outcome_occurrenceOf, outcome_resolveGroup]
    -- The templates of the terms have terms of their own, so they are opened twice.
    unfold Term.operand
    simp only [outcome_resolveTemplate, outcome_occurrenceOf, outcome_resolveGroup]
    unfold Term.operand
    simp only [outcome_resolveTemplate, outcome_occurrenceOf]
    with_unfolding_all rfl
  obtain ⟨resolution, resolved, query⟩ := map_eq_ok_iff.mp computed
  have refused := (resolve_pruned .default _ _ resolution).1 resolved
  rw [pruned_mixedTerms] at refused
  exact ⟨resolution, query, resolved, refused,
    (resolve_pruned .default _ knownTerms resolution).2 refused⟩

end SqlTemplate
