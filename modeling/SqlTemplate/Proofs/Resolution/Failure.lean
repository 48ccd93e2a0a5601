import SqlTemplate.Proofs.Resolution.Reading

/-! A template that is not resolved fails for the first of its faults, in one fixed order. -/

namespace SqlTemplate

/-- The names that a template needs and its parameters lack, each where it first appears. -/
def missingNames (parameters : Entries) (placeholders : List Placeholder) : List String :=
  ((placeholders.filter fun placeholder =>
    placeholder.isOptional = false ∧ placeholder.name ∉ parameters.names).map
      Placeholder.name).eraseDups

/-- The first fault in the shape of the value of a dynamic name. -/
inductive Misshapen (name : String) : Value → ShapeFault → Prop
  /-- The value is neither a list nor a tuple. -/
  | single {value : Value} (notList : ∀ items, value ≠ .list items)
    (notTuple : ∀ items, value ≠ .tuple items) :
    Misshapen name value (.notSequence name value.kindName)
  /-- An element is in none of the forms of a term, and it is the first one. -/
  | element {value element : Value} {before after : List Value} {cause : ShapeFault}
    (sequence : value = .list (before ++ element :: after) ∨
      value = .tuple (before ++ element :: after))
    (earlier : ∀ other ∈ before, ∃ draft, Term.Draft.ofValue name other = .ok draft)
    (unread : Term.Draft.ofValue name element = .error cause) : Misshapen name value cause
  /-- All elements are in a form of a term, and a part of the first bad one has a wrong shape. -/
  | part {value : Value} {items : List Value} {before after : List Term.Draft}
    {draft : Term.Draft} {cause : ShapeFault}
    (sequence : value = .list items ∨ value = .tuple items)
    (read : List.Forall₂ (fun item draft => Term.Draft.ofValue name item = .ok draft) items
      (before ++ draft :: after))
    (earlier : ∀ other ∈ before, ∃ term, Term.Draft.check name other = .ok term)
    (unfit : Term.Draft.check name draft = .error cause) : Misshapen name value cause

mutual

/-- The fault that a template has, with its parameters. -/
inductive Fails (config : Config) : Text → Entries → ResolutionFault → Prop
  /-- A placeholder is malformed. -/
  | unscannable {template : Text} {parameters : Entries} {fault : ResolutionFault}
    (unscanned : Placeholder.scan template = .error fault) : Fails config template parameters fault
  /-- Names are missing. -/
  | undefined {template : Text} {parameters : Entries} {placeholders : List Placeholder}
    (scanned : Placeholder.scan template = .ok placeholders)
    (missing : missingNames parameters placeholders ≠ []) :
    Fails config template parameters (.undefined (missingNames parameters placeholders) template)
  /-- No name is missing, and a placeholder is to blame. -/
  | blamed {template : Text} {parameters : Entries} {placeholders : List Placeholder}
    {fault : ResolutionFault} (scanned : Placeholder.scan template = .ok placeholders)
    (complete : missingNames parameters placeholders = [])
    (blames : Blames config parameters placeholders fault) : Fails config template parameters fault

/-- The fault of the leftmost failing placeholder, which is a dynamic one. -/
inductive Blames (config : Config) : Entries → List Placeholder → ResolutionFault → Prop
  /-- All placeholders before it stand for something. -/
  | leftmost {parameters : Entries} {before after : List Placeholder} {placeholder : Placeholder}
    {value : Value} {fault : ResolutionFault}
    (earlier : ∀ other ∈ before, ∃ piece, Stands config parameters other piece)
    (form : placeholder.form = .dynamic)
    (bound : parameters.get? placeholder.name = some value)
    (fails : GroupFails config placeholder.name value fault) :
    Blames config parameters (before ++ placeholder :: after) fault

/-- The fault of the group that the value of a dynamic name would make. -/
inductive GroupFails (config : Config) : String → Value → ResolutionFault → Prop
  /-- The value has a wrong shape, whatever its terms would be. -/
  | misshapen {name : String} {value : Value} {cause : ShapeFault}
    (misshapen : Misshapen name value cause) : GroupFails config name value (.shape cause none)
  /-- The value is made of terms, and all before the failing one join the group or are left out. -/
  | term {name : String} {value : Value} {before after : List Term} {term : Term}
    {fault : ResolutionFault} (read : Term.ofValue name value = .ok (before ++ term :: after))
    (earlier : ∀ other ∈ before, ∃ added, Joins config other added)
    (fails : TermFails config name term fault) : GroupFails config name value fault

/-- The fault of a term of the value of a dynamic name. -/
inductive TermFails (config : Config) : String → Term → ResolutionFault → Prop
  /-- The operator is unknown, and such operators are not ignored. -/
  | operator {name : String} {term : Term} (unknown : term.operator.operatorName ≠ ['A', 'N', 'D'] ∧
      term.operator.operatorName ≠ ['O', 'R']) (forbidden : config.ignoresUnknown = false) :
    TermFails config name term (.unknownOperator term.operator.plain name)
  /-- The operator is known, and the template of the term fails with its own parameters. -/
  | operand {name : String} {term : Term} {fault : ResolutionFault}
    (known : term.operator.operatorName = ['A', 'N', 'D'] ∨
      term.operator.operatorName = ['O', 'R'])
    (fails : Fails config term.template term.parameters fault) : TermFails config name term fault

end

/-- Duplicates of the items that pass a test are erased before or after the test. -/
theorem eraseDups_filter (passes : String → Bool) (names : List String) :
    (names.filter passes).eraseDups = names.eraseDups.filter passes := by
  -- Erasing the duplicates of the first item leaves a shorter list, so the length decreases.
  induction size : names.length using Nat.strongRecOn generalizing names with
  | _ count ih =>
    cases names with
    | nil => rfl
    | cons name rest =>
      rw [List.length_cons] at size
      have shorter : (rest.filter fun other => !other == name).length < count := by
        have := List.length_filter_le (fun other => !other == name) rest
        omega
      have later := ih _ shorter (rest.filter fun other => !other == name) rfl
      rw [List.eraseDups_cons]
      cases passed : passes name with
      | true =>
        -- The first item is kept on both sides, and the two filters of the others commute.
        rw [List.filter_cons_of_pos passed, List.filter_cons_of_pos passed, List.eraseDups_cons,
          ← later, List.filter_filter, List.filter_filter]
        simp only [Bool.and_comm]
      | false =>
        -- No item that passes is a duplicate of the first one, so that filter does nothing.
        rw [List.filter_cons_of_neg (by simp [passed]), List.filter_cons_of_neg (by simp [passed]),
          ← later, List.filter_filter]
        congr 1
        refine List.filter_congr fun other _ => ?_
        by_cases same : other = name
        · simp [same, passed]
        · simp [same]

/-- A name has a value when it is among the names. -/
theorem Entries.has_iff {parameters : Entries} {name : String} :
    parameters.has name = true ↔ name ∈ parameters.names := by
  unfold Entries.has Entries.get? Entries.names
  induction parameters with
  | nil => simp
  | cons entry rest ih =>
    -- The lookup ends at the first entry with the name.
    obtain ⟨key, value⟩ := entry
    rw [List.map_cons, List.mem_cons, ← ih, List.lookup_cons]
    by_cases same : name = key
    · simp [same]
    · simp only [same, false_or, beq_eq_false_iff_ne.mpr same]

/-- The names found to be undefined are the missing ones, in their order. -/
theorem undefinedNames_eq (parameters : Entries) (placeholders : List Placeholder) :
    undefinedNames parameters placeholders = missingNames parameters placeholders := by
  unfold missingNames
  -- The names are collected from the last placeholder on, so later duplicates are there to erase.
  induction placeholders with
  | nil => rfl
  | cons placeholder rest ih =>
    rw [undefinedNames, ih, ← eraseDups_filter]
    by_cases defined : (placeholder.isOptional || parameters.has placeholder.name) = true
    · -- A placeholder that is optional or has a value is passed over on both sides.
      have passed : ¬(placeholder.isOptional = false ∧
          placeholder.name ∉ Entries.names parameters) := by
        rintro ⟨required, absent⟩
        rw [required, Bool.false_or, Entries.has_iff] at defined
        exact absent defined
      rw [if_pos defined, List.filter_cons_of_neg (by simpa using passed)]
    · -- Any other one is kept, and its name is erased from what follows.
      have kept : placeholder.isOptional = false ∧
          placeholder.name ∉ Entries.names parameters := by
        rw [← Entries.has_iff]
        simpa using defined
      rw [if_neg defined, List.filter_cons_of_pos (by simpa using kept), List.map_cons,
        List.eraseDups_cons]
      congr 2
      exact List.filter_congr fun other _ => by rw [decide_not]; rfl

/-- The elements of a list or a tuple are its items. -/
theorem Term.elements_eq_ok_iff {name : String} {value : Value} {items : List Value} :
    elements name value = .ok items ↔ value = .list items ∨ value = .tuple items := by
  -- Every other kind of value is refused.
  cases value <;> simp [elements]

/-- Nothing but a list or a tuple has elements. -/
theorem Term.elements_eq_error_iff {name : String} {value : Value} {cause : ShapeFault} :
    elements name value = .error cause ↔ (∀ items, value ≠ .list items) ∧
      (∀ items, value ≠ .tuple items) ∧ cause = .notSequence name value.kindName := by
  cases value <;> simp [elements, eq_comm]

/-- The value of a dynamic name is made of no terms for the first fault in its shape. -/
theorem Term.ofValue_eq_error_iff {name : String} {value : Value} {cause : ShapeFault} :
    ofValue name value = .error cause ↔ Misshapen name value cause := by
  -- The value is looked at in three passes, and a later one is made only if no earlier one fails.
  rw [ofValue, bind_eq_error_iff]
  simp only [bind_eq_error_iff, elements_eq_ok_iff, elements_eq_error_iff]
  constructor
  · rintro (⟨notList, notTuple, rfl⟩ | ⟨items, sequence, failed⟩)
    · exact .single notList notTuple
    · -- Each of the two other passes fails as the first item that fails in it.
      rcases failed with unread | ⟨drafts, read, failed⟩
      · obtain ⟨before, element, after, rfl, earlier, unread⟩ := mapM_eq_error_iff.mp unread
        exact .element sequence earlier unread
      · obtain ⟨before, draft, after, rfl, earlier, unfit⟩ := mapM_eq_error_iff.mp failed
        exact .part sequence (mapM_eq_ok_iff.mp read) earlier unfit
  · intro misshapen
    cases misshapen with
    | single notList notTuple => exact Or.inl ⟨notList, notTuple, rfl⟩
    | @element element before after _ sequence earlier unread =>
      refine Or.inr ⟨before ++ element :: after, sequence, Or.inl ?_⟩
      exact mapM_eq_error_iff.mpr ⟨before, element, after, rfl, earlier, unread⟩
    | @part items before after draft _ sequence read earlier unfit =>
      refine Or.inr ⟨items, sequence, Or.inr ⟨_, mapM_eq_ok_iff.mpr read, ?_⟩⟩
      exact mapM_eq_error_iff.mpr ⟨before, draft, after, rfl, earlier, unfit⟩

/-- With given parameters, every template fails with the fault that it has. -/
def FailsAlike (config : Config) (parameters : Entries) : Prop :=
  ∀ template fault, Fails config template parameters fault ↔
    (resolveTemplate config template parameters).outcome = .error fault

/-- A term fails with the fault that it has. -/
theorem termFails_iff {config : Config} {name : String} {term : Term} {fault : ResolutionFault}
    (alike : FailsAlike config term.parameters) :
    TermFails config name term fault ↔ term.operand config name = .error fault := by
  rw [Term.operand]
  constructor
  · intro fails
    -- The operator is judged before the template is resolved.
    cases fails with
    | operator unknown forbidden =>
      rw [Connective.ofValue?_eq_none_iff.mpr unknown]
      simp [forbidden]
    | operand known fails =>
      obtain ⟨connective, named⟩ := Connective.exists_of_known known
      rw [Connective.ofValue?_eq_some_iff.mpr named]
      exact map_eq_error_iff.mpr ((alike _ _).mp fails)
  · intro failed
    cases operator : Connective.ofValue? term.operator with
    | none =>
      rw [operator] at failed
      -- An unknown operator is a fault only when such operators are not ignored.
      cases allowed : config.ignoresUnknown with
      | true => simp [allowed] at failed
      | false =>
        simp only [allowed, Bool.false_eq_true, if_false, Except.error.injEq] at failed
        subst failed
        exact .operator (Connective.ofValue?_eq_none_iff.mp operator) allowed
    | some connective =>
      rw [operator] at failed
      -- With a known operator only the template can fail.
      refine .operand (Connective.known_of_named (Connective.ofValue?_eq_some_iff.mp operator)) ?_
      exact (alike _ _).mpr (map_eq_error_iff.mp failed)

/-- A term joins a group in some way, or is left out, when it does not fail. -/
theorem exists_joins_iff {config : Config} {name : String} {term : Term} :
    (∃ added, Joins config term added) ↔ ∃ added, term.operand config name = .ok added := by
  -- What a term's template reads as is known for all parameters.
  have alike := readsAlike config term.parameters
  constructor
  · rintro ⟨added, joins⟩
    exact ⟨added, (joins_iff alike).mp joins⟩
  · rintro ⟨added, made⟩
    exact ⟨added, (joins_iff alike).mpr made⟩

/-- The value of a dynamic name fails with the fault that it has. -/
theorem groupFails_iff {config : Config} {name : String} {value : Value} {fault : ResolutionFault}
    (nested : ∀ terms, Term.ofValue name value = .ok terms →
      ∀ term ∈ terms, FailsAlike config term.parameters) :
    GroupFails config name value fault ↔
      (resolveGroup config name value).outcome = .error fault := by
  rw [outcome_resolveGroup]
  -- The terms are read before any of them is joined.
  constructor
  · intro fails
    cases fails with
    | misshapen misshapen => rw [Term.ofValue_eq_error_iff.mpr misshapen]
    | @term _ _ before after term _ read earlier fails =>
      have failed := (termFails_iff (nested _ read term (by simp))).mp fails
      have first := mapM_eq_error_iff.mpr ⟨before, term, after, rfl,
        fun other member => exists_joins_iff.mp (earlier other member), failed⟩
      simp only [read]
      exact map_eq_error_iff.mpr first
  · intro failed
    cases read : Term.ofValue name value with
    | error cause =>
      simp only [read, Except.error.injEq] at failed
      subst failed
      exact .misshapen (Term.ofValue_eq_error_iff.mp read)
    | ok terms =>
      simp only [read] at failed
      -- The terms fail as the first of them that fails.
      obtain ⟨before, term, after, rfl, earlier, failed⟩ :=
        mapM_eq_error_iff.mp (map_eq_error_iff.mp failed)
      refine .term read (fun other member => exists_joins_iff.mpr (earlier other member)) ?_
      exact (termFails_iff (nested _ read term (by simp))).mpr failed

/-- A placeholder stands for something when its occurrence can be made. -/
theorem exists_stands_iff {config : Config} {parameters : Entries} {placeholder : Placeholder}
    (template : Text) : (∃ piece, Stands config parameters placeholder piece) ↔
      ∃ occurrence, (occurrenceOf config template parameters placeholder).outcome =
        .ok occurrence := by
  -- What the templates of terms read as is known for all parameters.
  have nested : ∀ name value terms, parameters.get? name = some value →
      Term.ofValue name value = .ok terms → ∀ term ∈ terms, ReadsAlike config term.parameters :=
    fun _ _ _ _ _ term _ => readsAlike config term.parameters
  constructor
  · rintro ⟨piece, stands⟩
    obtain ⟨occurrence, resolved, _⟩ := occurrenceOf_of_stands nested stands template
    exact ⟨occurrence, resolved⟩
  · rintro ⟨occurrence, resolved⟩
    obtain ⟨piece, stands, _⟩ := stands_of_occurrenceOf nested resolved
    exact ⟨piece, stands⟩

/-- When no name is missing, placeholders fail as the leftmost failing one of them. -/
theorem blames_iff {config : Config} {parameters : Entries} {placeholders : List Placeholder}
    {fault : ResolutionFault} (template : Text)
    (nested : ∀ name value terms, parameters.get? name = some value →
      Term.ofValue name value = .ok terms → ∀ term ∈ terms, FailsAlike config term.parameters)
    (complete : undefinedNames parameters placeholders = []) :
    Blames config parameters placeholders fault ↔
      (placeholders.mapM fun placeholder =>
        (occurrenceOf config template parameters placeholder).outcome) = .error fault := by
  rw [mapM_eq_error_iff]
  -- A first failing placeholder has to be found on either side.
  constructor
  · intro blames
    cases blames with
    | @leftmost _ before after placeholder value _ earlier form bound fails =>
      have failed := (groupFails_iff fun terms => nested _ _ terms bound).mp fails
      refine ⟨before, placeholder, after, rfl, fun other member => ?_, ?_⟩
      · exact (exists_stands_iff template).mp (earlier other member)
      · rw [outcome_occurrenceOf, bound, form]
        exact map_eq_error_iff.mpr failed
  · rintro ⟨before, placeholder, after, rfl, earlier, failed⟩
    have passed : ∀ other ∈ before, ∃ piece, Stands config parameters other piece :=
      fun other member => (exists_stands_iff template).mpr (earlier other member)
    have defined := undefinedNames_eq_nil_iff.mp complete placeholder (by simp)
    rw [outcome_occurrenceOf] at failed
    cases bound : parameters.get? placeholder.name with
    | none =>
      -- A name without a value is not looked up, for its placeholder is optional.
      have optional : placeholder.isOptional = true := by
        simpa [Entries.has, bound] using defined
      simp [bound, optional] at failed
    | some value =>
      -- With a value, only a dynamic name can fail.
      cases form : placeholder.form with
      | plain => simp [bound, form] at failed
      | optional fragment => simp [bound, form] at failed
      | dynamic =>
        simp only [bound, form] at failed
        refine .leftmost passed form bound ?_
        exact (groupFails_iff fun terms => nested _ _ terms bound).mpr (map_eq_error_iff.mp failed)

/-- Parameters fail alike when those of all their terms do. -/
theorem failsAlike_step {config : Config} {parameters : Entries}
    (nested : ∀ name value terms, parameters.get? name = some value →
      Term.ofValue name value = .ok terms → ∀ term ∈ terms, FailsAlike config term.parameters) :
    FailsAlike config parameters := by
  intro template fault
  rw [outcome_resolveTemplate]
  -- Each stage of a resolution has a kind of fault of its own.
  constructor
  · intro fails
    cases fails with
    | unscannable unscanned => rw [unscanned]
    | undefined scanned missing =>
      -- There is a first missing name, so the third stage is not reached.
      rw [← undefinedNames_eq] at missing ⊢
      simp only [scanned]
    | blamed scanned complete blames =>
      rw [← undefinedNames_eq] at complete
      have failed := (blames_iff template nested complete).mp blames
      simp only [scanned, complete]
      exact map_eq_error_iff.mpr failed
  · intro failed
    cases scanned : Placeholder.scan template with
    | error other =>
      simp only [scanned, Except.error.injEq] at failed
      subst failed
      exact .unscannable scanned
    | ok placeholders =>
      simp only [scanned] at failed
      -- The placeholders are looked at only when no name is missing.
      split at failed
      · rename_i complete
        have blames := (blames_iff template nested complete).mpr (map_eq_error_iff.mp failed)
        rw [undefinedNames_eq] at complete
        exact .blamed scanned complete blames
      · rename_i missing
        cases failed
        rw [undefinedNames_eq] at missing ⊢
        exact .undefined scanned missing

/-- With any parameters, every template fails with the fault that it has. -/
theorem failsAlike (config : Config) (parameters : Entries) : FailsAlike config parameters :=
  -- The step has the parameters of terms for its hypothesis, which are less deep.
  Entries.induction (fun _ => failsAlike_step) parameters

mutual

/-- No template has the fault that a name is looked up without a value. -/
theorem Fails.ne_unbound {config : Config} {template : Text} {parameters : Entries}
    {fault : ResolutionFault} (fails : Fails config template parameters fault) (name : String) :
    fault ≠ .unbound name := by
  match fails with
  | .unscannable unscanned =>
    -- A scan complains only about a placeholder.
    rintro rfl
    rw [Placeholder.scan] at unscanned
    cases found : Placeholder.scanFrom 0 template <;> simp [found] at unscanned
  | .undefined scanned missing => nofun
  | .blamed scanned complete blames => exact blames.ne_unbound name

/-- No placeholder has that fault. -/
theorem Blames.ne_unbound {config : Config} {parameters : Entries}
    {placeholders : List Placeholder} {fault : ResolutionFault}
    (blames : Blames config parameters placeholders fault) (name : String) :
    fault ≠ .unbound name := by
  match blames with
  | .leftmost earlier form bound fails => exact fails.ne_unbound name

/-- No group has that fault. -/
theorem GroupFails.ne_unbound {config : Config} {owner : String} {value : Value}
    {fault : ResolutionFault} (fails : GroupFails config owner value fault) (name : String) :
    fault ≠ .unbound name := by
  -- A group fails for its shape, or as one of its terms does.
  match fails with
  | .misshapen misshapen => nofun
  | .term read earlier fails => exact fails.ne_unbound name

/-- No term has that fault. -/
theorem TermFails.ne_unbound {config : Config} {owner : String} {term : Term}
    {fault : ResolutionFault} (fails : TermFails config owner term fault) (name : String) :
    fault ≠ .unbound name := by
  -- A term fails for its operator, or as its template does.
  match fails with
  | .operator unknown forbidden => nofun
  | .operand known fails => exact fails.ne_unbound name

end

/-- A template that scans is refused for all its missing names at once, whatever else is wrong. When
no name is missing, every lookup succeeds, and a failure is that of the leftmost failing
placeholder, which is a dynamic one. -/
theorem resolve_fails_as_first {config : Config} {template : Text} {parameters : Value}
    {entries : Entries} {placeholders : List Placeholder}
    (given : parametersOf template parameters = .ok entries)
    (scanned : Placeholder.scan template = .ok placeholders) :
    (missingNames entries placeholders ≠ [] →
      (resolve template parameters config).outcome =
        .error (.undefined (missingNames entries placeholders) template)) ∧
    (missingNames entries placeholders = [] →
      (∀ name, (resolve template parameters config).outcome ≠ .error (.unbound name)) ∧
      ∀ fault, (resolve template parameters config).outcome = .error fault ↔
        Blames config entries placeholders fault) := by
  -- With the entries given, what is resolved is the template, and its faults are known.
  have alike := failsAlike config entries template
  have resolved : (resolve template parameters config).outcome =
      (resolveTemplate config template entries).outcome := by
    rw [outcome_resolve, given]
    rfl
  rw [resolved]
  refine ⟨fun missing => (alike _).mp (.undefined scanned missing), fun complete => ⟨?_, ?_⟩⟩
  · intro name failed
    exact ((alike _).mpr failed).ne_unbound name rfl
  · intro fault
    rw [← alike]
    constructor
    · intro fails
      -- The template scans and no name is missing, so only a placeholder can be to blame.
      cases fails with
      | unscannable unscanned => simp [scanned] at unscanned
      | undefined others missing =>
        cases scanned.symm.trans others
        contradiction
      | blamed others complete blames =>
        cases scanned.symm.trans others
        exact blames
    · intro blames
      exact .blamed scanned complete blames

/-- All missing names are told, once each, although the value of a dynamic name is wrong too. Only
when they are given is that value told. -/
theorem missing_before_misshapen :
    (resolve ":~f :y :x :y".toList (.mapping [("~f", .null)]) .default).outcome =
        .error (.undefined ["y", "x"] ":~f :y :x :y".toList) ∧
    (resolve ":~f :y :x :y".toList (.mapping [("~f", .null), ("x", .null), ("y", .null)])
      .default).outcome = .error (.shape (.notSequence "~f" "NoneType") none) := by
  have scanned : Placeholder.scan ":~f :y :x :y".toList =
      .ok [⟨"~f", .dynamic, 0⟩, ⟨"y", .plain, 4⟩, ⟨"x", .plain, 7⟩, ⟨"y", .plain, 10⟩] := by
    with_unfolding_all rfl
  constructor
  · have given : parametersOf ":~f :y :x :y".toList (.mapping [("~f", .null)]) =
        .ok [("~f", .null)] := rfl
    exact (resolve_fails_as_first given scanned).1 (by decide)
  · have given : parametersOf ":~f :y :x :y".toList
        (.mapping [("~f", .null), ("x", .null), ("y", .null)]) =
          .ok [("~f", .null), ("x", .null), ("y", .null)] := rfl
    refine (((resolve_fails_as_first given scanned).2 (by decide)).2 _).mpr ?_
    have misshapen : Misshapen "~f" .null (.notSequence "~f" "NoneType") := .single nofun nofun
    -- No placeholder comes before the failing one.
    show Blames _ _ ([] ++ _ :: _) _
    exact .leftmost (by simp) rfl rfl (.misshapen misshapen)

end SqlTemplate
