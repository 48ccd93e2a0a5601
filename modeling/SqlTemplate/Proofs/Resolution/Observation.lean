import SqlTemplate.Log.Record
import SqlTemplate.Proofs.Resolution.Failure

/-! A resolution is noted once, after the terms that are left out on the way, and one that fails
leaves nothing but these. -/

namespace SqlTemplate

/-- A term that is left out of the group of a name because of its operator. -/
structure Omission where
  /-- The operator. -/
  operator : Value
  /-- The name. -/
  name : String

namespace Omission

/-- The event that tells of an omission. -/
def event (omission : Omission) : Event :=
  .termDropped omission.operator omission.name

/-- The warning that tells of an omission. -/
def warning (omission : Omission) : Record where
  level := .warning
  logger := "puresql.core.combinators"
  message := "Dropping combinator term with unknown operator " ++ omission.operator.shown ++
    " in " ++ Quoted.ofString omission.name
  context := none
  report := none

end Omission

mutual

/-- The terms that are left out while a template is resolved, in order, up to where it fails. -/
inductive Omits (config : Config) : Text → Entries → List Omission → Prop
  /-- No value is looked at when a placeholder is malformed. -/
  | unscannable {template : Text} {parameters : Entries} {fault : ResolutionFault}
    (unscanned : Placeholder.scan template = .error fault) : Omits config template parameters []
  /-- Nor is any when names are missing. -/
  | undefined {template : Text} {parameters : Entries} {placeholders : List Placeholder}
    (scanned : Placeholder.scan template = .ok placeholders)
    (missing : missingNames parameters placeholders ≠ []) : Omits config template parameters []
  /-- Otherwise the placeholders are gone through. -/
  | along {template : Text} {parameters : Entries} {placeholders : List Placeholder}
    {omitted : List Omission} (scanned : Placeholder.scan template = .ok placeholders)
    (complete : missingNames parameters placeholders = [])
    (along : OmitsAlong config parameters placeholders omitted) :
    Omits config template parameters omitted

/-- The terms that are left out for placeholders, from left to right. -/
inductive OmitsAlong (config : Config) : Entries → List Placeholder → List Omission → Prop
  /-- There are none without placeholders. -/
  | done {parameters : Entries} : OmitsAlong config parameters [] []
  /-- The others follow a placeholder that stands for something. -/
  | goesOn {parameters : Entries} {placeholder : Placeholder} {rest : List Placeholder}
    {first others : List Omission} (here : OmitsAt config parameters placeholder first)
    (stands : ∃ piece, Stands config parameters placeholder piece)
    (later : OmitsAlong config parameters rest others) :
    OmitsAlong config parameters (placeholder :: rest) (first ++ others)
  /-- None follows a placeholder that fails. -/
  | stops {parameters : Entries} {placeholder : Placeholder} {rest : List Placeholder}
    {omitted : List Omission} (here : OmitsAt config parameters placeholder omitted)
    (fails : ¬ ∃ piece, Stands config parameters placeholder piece) :
    OmitsAlong config parameters (placeholder :: rest) omitted

/-- The terms that are left out for one placeholder. -/
inductive OmitsAt (config : Config) : Entries → Placeholder → List Omission → Prop
  /-- Only a dynamic name with a value has terms. -/
  | other {parameters : Entries} {placeholder : Placeholder}
    (termless : placeholder.form ≠ .dynamic ∨ parameters.get? placeholder.name = none) :
    OmitsAt config parameters placeholder []
  /-- No term is looked at when the value has a wrong shape. -/
  | misshapen {parameters : Entries} {placeholder : Placeholder} {value : Value}
    {cause : ShapeFault} (form : placeholder.form = .dynamic)
    (bound : parameters.get? placeholder.name = some value)
    (misshapen : Misshapen placeholder.name value cause) :
    OmitsAt config parameters placeholder []
  /-- Otherwise the terms are gone through. -/
  | group {parameters : Entries} {placeholder : Placeholder} {value : Value} {terms : List Term}
    {omitted : List Omission} (form : placeholder.form = .dynamic)
    (bound : parameters.get? placeholder.name = some value)
    (read : Term.ofValue placeholder.name value = .ok terms)
    (among : OmitsAmong config placeholder.name terms omitted) :
    OmitsAt config parameters placeholder omitted

/-- The terms that are left out among those of a name, and in their templates, in order. -/
inductive OmitsAmong (config : Config) : String → List Term → List Omission → Prop
  /-- There are none among no terms. -/
  | done {name : String} : OmitsAmong config name [] []
  /-- A term with an unknown operator is left out where that is allowed. -/
  | leftOut {name : String} {term : Term} {rest : List Term} {others : List Omission}
    (unknown : term.operator.operatorName ≠ ['A', 'N', 'D'] ∧
      term.operator.operatorName ≠ ['O', 'R']) (allowed : config.ignoresUnknown = true)
    (later : OmitsAmong config name rest others) :
    OmitsAmong config name (term :: rest) (⟨term.operator, name⟩ :: others)
  /-- Otherwise it fails. -/
  | refused {name : String} {term : Term} {rest : List Term}
    (unknown : term.operator.operatorName ≠ ['A', 'N', 'D'] ∧
      term.operator.operatorName ≠ ['O', 'R']) (forbidden : config.ignoresUnknown = false) :
    OmitsAmong config name (term :: rest) []
  /-- The others follow those in the template of a term that joins the group. -/
  | joined {name : String} {term : Term} {rest : List Term} {first others : List Omission}
    (known : term.operator.operatorName = ['A', 'N', 'D'] ∨
      term.operator.operatorName = ['O', 'R'])
    (nested : Omits config term.template term.parameters first)
    (reads : ∃ query values, Reads config term.template term.parameters query values)
    (later : OmitsAmong config name rest others) :
    OmitsAmong config name (term :: rest) (first ++ others)
  /-- None follows those in a template that fails. -/
  | failed {name : String} {term : Term} {rest : List Term} {omitted : List Omission}
    (known : term.operator.operatorName = ['A', 'N', 'D'] ∨
      term.operator.operatorName = ['O', 'R'])
    (nested : Omits config term.template term.parameters omitted)
    (fails : ∃ fault, Fails config term.template term.parameters fault) :
    OmitsAmong config name (term :: rest) omitted

end

section Steps

variable {config : Config} {name : String} {term : Term} {rest : List Term}

/-- A template is read when it is resolved. -/
theorem exists_reads_iff {template : Text} {parameters : Entries} :
    (∃ query values, Reads config template parameters query values) ↔
      ∃ resolution, (resolveTemplate config template parameters).outcome = .ok resolution := by
  -- What is read is what a resolution gives.
  constructor
  · rintro ⟨query, values, reads⟩
    obtain ⟨resolution, resolved, -, -⟩ := (readsAlike config parameters _ _ _).mp reads
    exact ⟨resolution, resolved⟩
  · rintro ⟨resolution, resolved⟩
    exact ⟨_, _, (readsAlike config parameters _ _ _).mpr ⟨resolution, resolved, rfl, rfl⟩⟩

/-- A term with an unknown operator that is allowed is noted before the others. -/
theorem events_joinTerms_leftOut (unknown : Connective.ofValue? term.operator = none)
    (allowed : config.ignoresUnknown = true) (isFirst : Bool) :
    (joinTerms config name isFirst (term :: rest)).events =
      .termDropped term.operator name :: (joinTerms config name isFirst rest).events := by
  rw [joinTerms, joinTerm, unknown, if_pos allowed]
  exact Journal.events_bind_of_ok rfl _

/-- A term with an unknown operator that is forbidden ends the group with nothing noted. -/
theorem events_joinTerms_refused (unknown : Connective.ofValue? term.operator = none)
    (forbidden : config.ignoresUnknown = false) (isFirst : Bool) :
    (joinTerms config name isFirst (term :: rest)).events = [] := by
  rw [joinTerms, joinTerm, unknown, forbidden]
  rfl

/-- What is noted for a term that joins its group comes before what is noted for the others. -/
theorem events_joinTerms_joined {connective : Connective} {resolution : Resolution}
    (known : Connective.ofValue? term.operator = some connective)
    (resolved : (resolveTemplate config term.template term.parameters).outcome = .ok resolution)
    (isFirst : Bool) :
    (joinTerms config name isFirst (term :: rest)).events =
      (resolveTemplate config term.template term.parameters).events ++
        (joinTerms config name false rest).events := by
  rw [joinTerms, joinTerm, known]
  refine (Journal.events_bind_of_ok resolved _).trans (congrArg (_ ++ ·) ?_)
  -- Putting the parts together notes nothing.
  exact Journal.events_bind_of_silent _ fun _ => rfl

/-- Nothing is noted after a term whose template fails. -/
theorem events_joinTerms_failed {connective : Connective} {fault : ResolutionFault}
    (known : Connective.ofValue? term.operator = some connective)
    (failed : (resolveTemplate config term.template term.parameters).outcome = .error fault)
    (isFirst : Bool) :
    (joinTerms config name isFirst (term :: rest)).events =
      (resolveTemplate config term.template term.parameters).events := by
  rw [joinTerms, joinTerm, known]
  exact Journal.events_bind_of_error failed _

end Steps

section Events

variable {config : Config} {template : Text} {parameters : Entries} {placeholder : Placeholder}

/-- A group notes what its terms do. -/
theorem events_resolveGroup {name : String} {value : Value} {terms : List Term}
    (read : Term.ofValue name value = .ok terms) :
    (resolveGroup config name value).events = (joinTerms config name true terms).events := by
  -- The terms are read already, and putting the operands together notes nothing.
  rw [resolveGroup]
  split
  · rename_i unread
    cases read.symm.trans unread
  · rename_i again same
    cases read.symm.trans same
    exact Journal.events_bind_of_silent _ fun _ => rfl

/-- A value with a wrong shape has nothing noted for it. -/
theorem events_resolveGroup_misshapen {name : String} {value : Value} {cause : ShapeFault}
    (unread : Term.ofValue name value = .error cause) :
    (resolveGroup config name value).events = [] := by
  -- The group fails before there are any terms.
  rw [resolveGroup]
  split
  · rfl
  · rename_i read
    cases unread.symm.trans read

/-- A placeholder without terms has nothing noted for it. -/
theorem events_occurrenceOf_other
    (termless : placeholder.form ≠ .dynamic ∨ parameters.get? placeholder.name = none) :
    (occurrenceOf config template parameters placeholder).events = [] := by
  rw [occurrenceOf]
  split
  · split <;> rfl
  · rename_i value found
    -- With a value, it is not a dynamic one.
    have other : placeholder.form ≠ .dynamic := termless.resolve_right (by simp [found])
    split
    · rfl
    · rfl
    · contradiction

/-- A dynamic placeholder notes what its group does. -/
theorem events_occurrenceOf_dynamic {value : Value} (form : placeholder.form = .dynamic)
    (bound : parameters.get? placeholder.name = some value) :
    (occurrenceOf config template parameters placeholder).events =
      (resolveGroup config placeholder.name value).events := by
  -- Making the occurrence of the markers notes nothing after the group.
  rw [occurrenceOf]
  split
  · rename_i absent
    cases bound.symm.trans absent
  · rename_i again found
    cases bound.symm.trans found
    rw [form]
    exact Journal.events_bind_of_silent _ fun _ => rfl

/-- What is noted for a placeholder comes before what is noted for those after it. -/
theorem events_occurrencesOf_goesOn {rest : List Placeholder} {occurrence : Occurrence}
    (made : (occurrenceOf config template parameters placeholder).outcome = .ok occurrence) :
    (occurrencesOf config template parameters (placeholder :: rest)).events =
      (occurrenceOf config template parameters placeholder).events ++
        (occurrencesOf config template parameters rest).events := by
  -- The first occurrence is there, so the others are made after it.
  rw [occurrencesOf]
  refine (Journal.events_bind_of_ok made _).trans (congrArg (_ ++ ·) ?_)
  exact Journal.events_bind_of_silent _ fun _ => rfl

/-- Nothing is noted after a placeholder that fails. -/
theorem events_occurrencesOf_stops {rest : List Placeholder} {fault : ResolutionFault}
    (failed : (occurrenceOf config template parameters placeholder).outcome = .error fault) :
    (occurrencesOf config template parameters (placeholder :: rest)).events =
      (occurrenceOf config template parameters placeholder).events := by
  rw [occurrencesOf]
  exact Journal.events_bind_of_error failed _

/-- A template notes what its placeholders do, when no name is missing. -/
theorem events_resolveTemplate {placeholders : List Placeholder}
    (scanned : Placeholder.scan template = .ok placeholders)
    (complete : undefinedNames parameters placeholders = []) :
    (resolveTemplate config template parameters).events =
      (occurrencesOf config template parameters placeholders).events := by
  -- Both checks are passed, and assembling the occurrences notes nothing.
  rw [resolveTemplate]
  simp only [scanned, complete]
  exact Journal.events_bind_of_silent _ fun _ => rfl

/-- A template that is malformed or lacks names has nothing noted for it. -/
theorem events_resolveTemplate_refused
    (refused : ∀ placeholders, Placeholder.scan template = .ok placeholders →
      undefinedNames parameters placeholders ≠ []) :
    (resolveTemplate config template parameters).events = [] := by
  -- One of the two checks fails, before any placeholder is looked at.
  rw [resolveTemplate]
  cases scanned : Placeholder.scan template with
  | error fault => rfl
  | ok placeholders =>
    have missing := refused placeholders scanned
    cases undefined : undefinedNames parameters placeholders with
    | nil => contradiction
    | cons name others => simp only [undefined]; rfl

end Events

mutual

/-- A template notes the terms that are left out while it is resolved. -/
theorem Omits.events_eq {config : Config} {template : Text} {parameters : Entries}
    {omitted : List Omission} (omits : Omits config template parameters omitted) :
    (resolveTemplate config template parameters).events = omitted.map Omission.event := by
  -- Nothing is left out of a template that is refused, and otherwise its placeholders tell.
  match omits with
  | .unscannable unscanned =>
    refine events_resolveTemplate_refused fun placeholders scanned => ?_
    cases unscanned.symm.trans scanned
  | .undefined scanned missing =>
    refine events_resolveTemplate_refused fun placeholders again => ?_
    cases scanned.symm.trans again
    rwa [undefinedNames_eq]
  | .along scanned complete along =>
    rw [← undefinedNames_eq] at complete
    exact (events_resolveTemplate scanned complete).trans (along.events_eq template)

/-- Placeholders note the terms that are left out for them. -/
theorem OmitsAlong.events_eq {config : Config} {parameters : Entries}
    {placeholders : List Placeholder} {omitted : List Omission}
    (along : OmitsAlong config parameters placeholders omitted) (template : Text) :
    (occurrencesOf config template parameters placeholders).events =
      omitted.map Omission.event := by
  match along with
  | .done =>
    rw [occurrencesOf]
    rfl
  | .goesOn here stands later =>
    obtain ⟨occurrence, made⟩ := (exists_stands_iff template).mp stands
    rw [events_occurrencesOf_goesOn made, here.events_eq template, later.events_eq template,
      List.map_append]
  | @OmitsAlong.stops _ _ placeholder _ _ here fails =>
    -- A placeholder that stands for nothing has no occurrence.
    rw [exists_stands_iff template] at fails
    cases outcome : (occurrenceOf config template parameters placeholder).outcome with
    | ok occurrence => exact absurd ⟨occurrence, outcome⟩ fails
    | error fault => rw [events_occurrencesOf_stops outcome, here.events_eq template]

/-- A placeholder notes the terms that are left out for it. -/
theorem OmitsAt.events_eq {config : Config} {parameters : Entries} {placeholder : Placeholder}
    {omitted : List Omission} (here : OmitsAt config parameters placeholder omitted)
    (template : Text) :
    (occurrenceOf config template parameters placeholder).events =
      omitted.map Omission.event := by
  -- Only a dynamic placeholder with terms has any to leave out.
  match here with
  | .other termless => exact events_occurrenceOf_other termless
  | .misshapen form bound misshapen =>
    rw [events_occurrenceOf_dynamic form bound]
    exact events_resolveGroup_misshapen (Term.ofValue_eq_error_iff.mpr misshapen)
  | .group form bound read among =>
    rw [events_occurrenceOf_dynamic form bound, events_resolveGroup read, among.events_eq true]

/-- Terms note which of them are left out, and which in their templates. -/
theorem OmitsAmong.events_eq {config : Config} {name : String} {terms : List Term}
    {omitted : List Omission} (among : OmitsAmong config name terms omitted) (isFirst : Bool) :
    (joinTerms config name isFirst terms).events = omitted.map Omission.event := by
  -- The terms are gone through in the order in which they are joined.
  match among with
  | .done =>
    rw [joinTerms]
    rfl
  | .leftOut unknown allowed later =>
    rw [events_joinTerms_leftOut (Connective.ofValue?_eq_none_iff.mpr unknown) allowed,
      later.events_eq isFirst]
    rfl
  -- => An unknown operator that is not ignored ends the group, as does a template that fails.
  | .refused unknown forbidden =>
    exact events_joinTerms_refused (Connective.ofValue?_eq_none_iff.mpr unknown) forbidden _
  | .joined known nested reads later =>
    obtain ⟨connective, named⟩ := Connective.exists_of_known known
    obtain ⟨resolution, resolved⟩ := exists_reads_iff.mp reads
    rw [events_joinTerms_joined (Connective.ofValue?_eq_some_iff.mpr named) resolved,
      nested.events_eq, later.events_eq false, List.map_append]
  | .failed known nested fails =>
    obtain ⟨connective, named⟩ := Connective.exists_of_known known
    obtain ⟨fault, fails⟩ := fails
    have failed := (failsAlike config _ _ fault).mp fails
    rw [events_joinTerms_failed (Connective.ofValue?_eq_some_iff.mpr named) failed,
      nested.events_eq]

end

/-- Different terms that are left out have different events. -/
theorem Omission.event_injective : Function.Injective Omission.event := by
  -- The event holds both the operator and the name.
  rintro ⟨operator, name⟩ ⟨other, same⟩ equal
  cases equal
  rfl

/-- Only one list of terms is left out while a template is resolved. -/
theorem Omits.unique {config : Config} {template : Text} {parameters : Entries}
    {first second : List Omission} (omits : Omits config template parameters first)
    (also : Omits config template parameters second) : first = second :=
  -- Both lists are told by the same events, and an event tells which omission it is of.
  List.map_injective_iff.mpr Omission.event_injective (omits.events_eq.symm.trans also.events_eq)

section Existence

variable {config : Config} {parameters : Entries}

/-- With given parameters, some terms or none are left out while a template is resolved. -/
def OmitsSome (config : Config) (parameters : Entries) : Prop :=
  ∀ template, ∃ omitted, Omits config template parameters omitted

/-- Some terms or none are left out among those of a name. -/
theorem exists_omitsAmong (name : String) {terms : List Term}
    (nested : ∀ term ∈ terms, OmitsSome config term.parameters) :
    ∃ omitted, OmitsAmong config name terms omitted := by
  induction terms with
  | nil => exact ⟨[], .done⟩
  | cons term rest ih =>
    obtain ⟨first, others⟩ := List.forall_mem_cons.mp nested
    obtain ⟨later, goesOn⟩ := ih others
    cases operator : Connective.ofValue? term.operator with
    | none =>
      have unknown := Connective.ofValue?_eq_none_iff.mp operator
      -- An unknown operator is left out or ends the group, whichever the settings say.
      cases allowed : config.ignoresUnknown with
      | true => exact ⟨_, .leftOut unknown allowed goesOn⟩
      | false => exact ⟨_, .refused unknown allowed⟩
    | some connective =>
      have known := Connective.known_of_named (Connective.ofValue?_eq_some_iff.mp operator)
      obtain ⟨inner, omits⟩ := first term.template
      -- The others are reached when the template of the term is resolved.
      cases outcome : (resolveTemplate config term.template term.parameters).outcome with
      | ok resolution =>
        exact ⟨_, .joined known omits (exists_reads_iff.mpr ⟨resolution, outcome⟩) goesOn⟩
      | error fault =>
        exact ⟨_, .failed known omits ⟨fault, (failsAlike config _ _ fault).mpr outcome⟩⟩

variable (nested : ∀ name value terms, parameters.get? name = some value →
  Term.ofValue name value = .ok terms → ∀ term ∈ terms, OmitsSome config term.parameters)

include nested

/-- Some terms or none are left out for a placeholder. -/
theorem exists_omitsAt (placeholder : Placeholder) :
    ∃ omitted, OmitsAt config parameters placeholder omitted := by
  -- Without terms there is nothing to leave out, and the terms there are tell what they leave out.
  by_cases form : placeholder.form = .dynamic
  · cases bound : parameters.get? placeholder.name with
    | none => exact ⟨[], .other (Or.inr bound)⟩
    | some value =>
      cases read : Term.ofValue placeholder.name value with
      | error cause => exact ⟨[], .misshapen form bound (Term.ofValue_eq_error_iff.mp read)⟩
      | ok terms =>
        obtain ⟨omitted, among⟩ := exists_omitsAmong placeholder.name (nested _ _ _ bound read)
        exact ⟨omitted, .group form bound read among⟩
  · exact ⟨[], .other (Or.inl form)⟩

/-- Some terms or none are left out for placeholders. -/
theorem exists_omitsAlong (placeholders : List Placeholder) :
    ∃ omitted, OmitsAlong config parameters placeholders omitted := by
  -- The placeholders are gone through up to the first that stands for nothing.
  induction placeholders with
  | nil => exact ⟨[], .done⟩
  | cons placeholder rest ih =>
    obtain ⟨first, here⟩ := exists_omitsAt nested placeholder
    obtain ⟨others, later⟩ := ih
    by_cases stands : ∃ piece, Stands config parameters placeholder piece
    · exact ⟨_, .goesOn here stands later⟩
    · exact ⟨_, .stops here stands⟩

/-- Some terms or none are left out with given parameters, if so with those of all their terms. -/
theorem omitsSome_step : OmitsSome config parameters := by
  -- A template is malformed, or it lacks names, or its placeholders are gone through.
  intro template
  cases scanned : Placeholder.scan template with
  | error fault => exact ⟨[], .unscannable scanned⟩
  | ok placeholders =>
    by_cases complete : missingNames parameters placeholders = []
    · obtain ⟨omitted, along⟩ := exists_omitsAlong nested placeholders
      exact ⟨omitted, .along scanned complete along⟩
    · exact ⟨[], .undefined scanned complete⟩

end Existence

/-- With any parameters, some terms or none are left out while a template is resolved. -/
theorem omitsSome (config : Config) (parameters : Entries) : OmitsSome config parameters :=
  -- The step has the parameters of terms for its hypothesis, which are less deep.
  Entries.induction (fun _ => omitsSome_step) parameters

/-- A record that tells of a resolution, by the names of its placeholders and by how many values it
binds. -/
structure Record.Tells (record : Record) (resolution : Resolution) : Prop where
  /-- It is for those who look for faults. -/
  level : record.level = .debug
  /-- It is one of the engine. -/
  logger : record.logger = "puresql.core.engine"
  /-- It lists the names of the placeholders, in their order. -/
  placeholders : ∃ context, record.context = some context ∧ context.get? "placeholders" =
    some (.list (resolution.occurrences.map fun occurrence => .str occurrence.placeholder.name))
  /-- It counts the values. -/
  values : ∃ context, record.context = some context ∧
    context.get? "bound_values" = some (.int resolution.values.length)

/-- The records and the traces of events that follow one another do so too. -/
theorem Event.told_append (elapsed : Elapsed) (first second : List Event) :
    records elapsed (first ++ second) = records elapsed first ++ records elapsed second ∧
      traces (first ++ second) = traces first ++ traces second :=
  ⟨List.filterMap_append, List.filterMap_append⟩

/-- Terms that are left out are told of by a warning each, and traced by none. -/
theorem Omission.told (elapsed : Elapsed) (omitted : List Omission) :
    Event.records elapsed (omitted.map event) = omitted.map warning ∧
      Event.traces (omitted.map event) = [] := by
  induction omitted with
  | nil => exact ⟨rfl, rfl⟩
  | cons omission rest ih =>
    obtain ⟨records, traces⟩ := ih
    refine ⟨?_, traces⟩
    -- The first warning is the record of the first event.
    rw [List.map_cons, List.map_cons, ← records]
    rfl

/-- The event of a resolution has a record that tells of it. -/
theorem exists_tells (elapsed : Elapsed) (resolution : Resolution) : ∃ record,
    (Event.resolved resolution.placeholderNames resolution.values.length).record? elapsed =
      some record ∧ record.Tells resolution := by
  -- The record is written out of the very counts and names of the resolution.
  refine ⟨_, rfl, rfl, rfl, ⟨_, rfl, ?_⟩, ⟨_, rfl, rfl⟩⟩
  rw [Resolution.placeholderNames, List.map_map]
  rfl

/-- A resolution is told of by one record, and traced only by the trace that may follow. -/
theorem told_resolved (elapsed : Elapsed) (resolution : Resolution) (trace : Trace)
    (isTraced : Bool) :
    let events := .resolved resolution.placeholderNames resolution.values.length ::
      if isTraced then [Event.traced trace] else []
    (∃ record : Record, record.Tells resolution ∧ Event.records elapsed events = [record]) ∧
      Event.traces events = if isTraced then [trace] else [] := by
  intro events
  obtain ⟨record, told, tells⟩ := exists_tells elapsed resolution
  refine ⟨⟨record, tells, ?_⟩, ?_⟩
  · -- The trace is not for the log.
    rw [Event.records, List.filterMap_cons_some told]
    cases isTraced <;> rfl
  · cases isTraced <;> rfl

/-- An outermost resolution that fails notes what resolving its template does. -/
theorem events_resolve_failed {config : Config} {template : Text} {parameters : Value}
    {entries : Entries} {fault : ResolutionFault}
    (given : parametersOf template parameters = .ok entries)
    (failed : (resolveTemplate config template entries).outcome = .error fault) :
    (resolve template parameters config).events =
      (resolveTemplate config template entries).events := by
  -- What would be noted of the resolution comes after it, so a failure leaves it out.
  rw [resolve, given]
  refine (Journal.events_bind_of_ok rfl _).trans ?_
  exact Journal.events_bind_of_error failed _

/-- An outermost resolution that succeeds is noted after that, and traced last if it is traced. -/
theorem events_resolve_succeeded {config : Config} {template : Text} {parameters : Value}
    {entries : Entries} {resolution : Resolution}
    (given : parametersOf template parameters = .ok entries)
    (resolved : (resolveTemplate config template entries).outcome = .ok resolution) :
    (resolve template parameters config).events =
      (resolveTemplate config template entries).events ++
        .resolved resolution.placeholderNames resolution.values.length ::
          if config.isTraced then [.traced ⟨template, entries.names, resolution⟩] else [] := by
  -- The parameters are a mapping and the template is resolved, so what follows these is reached.
  rw [resolve, given]
  refine (Journal.events_bind_of_ok rfl _).trans ?_
  refine (Journal.events_bind_of_ok resolved _).trans (congrArg (_ ++ ·) ?_)
  cases config.isTraced <;> rfl

/-- An outermost resolution that succeeds notes first one warning for each term that is left out in
its template or in those of its terms, from left to right and each template's where the template
stands, then one record for those who look for faults, which tells of the result, and last one trace
with the given names and the result if it is to be traced. One that fails notes the warnings up to
the failure, and nothing else. -/
theorem resolve_observed (config : Config) (template : Text) (parameters : Value)
    (elapsed : Elapsed) :
    let journal := resolve template parameters config
    match parametersOf template parameters with
    | .error _ => journal.events = []
    | .ok entries => ∃ omitted,
      (∀ other, Omits config template entries other ↔ other = omitted) ∧
      match journal.outcome with
      | .error _ => journal.events = omitted.map Omission.event ∧
          Event.records elapsed journal.events = omitted.map Omission.warning ∧
          Event.traces journal.events = []
      | .ok resolution =>
        let trace : Trace := ⟨template, entries.names, resolution⟩
        journal.events = omitted.map Omission.event ++
            .resolved resolution.placeholderNames resolution.values.length ::
              (if config.isTraced then [.traced trace] else []) ∧
          (∃ record : Record, record.Tells resolution ∧
            Event.records elapsed journal.events = omitted.map Omission.warning ++ [record]) ∧
          Event.traces journal.events = if config.isTraced then [trace] else [] := by
  intro journal
  have outcome := outcome_resolve template parameters config
  cases given : parametersOf template parameters with
  | error fault =>
    -- Nothing is resolved without entries.
    show (resolve template parameters config).events = []
    rw [resolve, given]
    rfl
  | ok entries =>
    rw [given] at outcome
    obtain ⟨omitted, omits⟩ := omitsSome config entries template
    refine ⟨omitted, fun other => ⟨fun also => also.unique omits, fun same => same ▸ omits⟩, ?_⟩
    obtain ⟨warnings, untraced⟩ := Omission.told elapsed omitted
    cases resolved : (resolveTemplate config template entries).outcome with
    | error fault =>
      -- A resolution that fails leaves the warnings alone.
      have failed : journal.outcome = .error fault := outcome.trans resolved
      have events : journal.events = omitted.map Omission.event :=
        (events_resolve_failed given resolved).trans omits.events_eq
      simp only [failed]
      rw [events]
      exact ⟨rfl, warnings, untraced⟩
    | ok resolution =>
      have succeeded : journal.outcome = .ok resolution := outcome.trans resolved
      have events := events_resolve_succeeded given resolved
      rw [omits.events_eq] at events
      -- The record and the trace come after the warnings.
      obtain ⟨⟨record, tells, told⟩, traced⟩ :=
        told_resolved elapsed resolution ⟨template, entries.names, resolution⟩ config.isTraced
      obtain ⟨records, traces⟩ := Event.told_append elapsed (omitted.map Omission.event)
        (.resolved resolution.placeholderNames resolution.values.length ::
          if config.isTraced then [.traced ⟨template, entries.names, resolution⟩] else [])
      rw [warnings, told] at records
      rw [untraced, traced] at traces
      simp only [succeeded]
      refine ⟨events, ⟨record, tells, ?_⟩, ?_⟩
      · exact (congrArg (Event.records elapsed) events).trans records
      · exact (congrArg Event.traces events).trans traces

/-- The term that is left out in the template of another one is told of where that one stands. -/
example :
    let inner : Value := .mapping [("~g", .list [.term (.str "y") (.str "b") .noParameters])]
    let terms := [Value.term (.str "x") (.str "a") .noParameters,
      .term (.str "AND") (.str ":~g") inner, .term (.str "z") (.str "c") .noParameters]
    (resolve ":~f".toList (.mapping [("~f", .list terms)])
        { Config.default with ignoresUnknown := true }).events =
      [.termDropped (.str "x") "~f", .termDropped (.str "y") "~g", .termDropped (.str "z") "~f",
        .resolved ["~f"] 0] := by
  cbv

end SqlTemplate
