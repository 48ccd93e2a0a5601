import SqlTemplate.Proofs.Resolution.Outcome
import SqlTemplate.Proofs.Resolution.Placement

/-! A template reads from left to right as gaps and pieces, and resolving it gives that reading. -/

namespace SqlTemplate

/-- What stands in a query for a placeholder of its template. -/
structure Piece where
  /-- The text. -/
  text : Text
  /-- The values bound to the markers of the text. -/
  values : List Value
  /-- Whether the spaces and tabs at the end of the gap before it go. -/
  closesUp : Bool

/-- The gaps of a template from a position on, with a piece after each gap but the last. -/
def weave (template : Text) : Nat → List (Placeholder × Piece) → Text
  | position, [] => template.drop position
  | position, (placeholder, piece) :: rest =>
    let gap := Text.slice template position placeholder.start
    (if piece.closesUp then gap.dropEndWhile isSpaceOrTab else gap) ++ piece.text ++
      weave template placeholder.stop rest

/-- A value takes one marker, or a parenthesized list of one marker per item. -/
inductive Expands (marker : Text) : Value → Text → List Value → Prop
  /-- A single value has one marker. -/
  | single {value : Value} (alone : value.IsSingle) : Expands marker value marker [value]
  /-- An array has a marker per item, and its items are bound as they are. -/
  | array {value : Value} {items : List Value} (many : value.Holds items) :
    Expands marker value
      ('(' :: [',', ' '].intercalate (List.replicate items.length marker) ++ [')']) items

mutual

/-- What a template reads as, with its parameters: a query and its values. -/
inductive Reads (config : Config) : Text → Entries → Text → List Value → Prop
  /-- The gaps are read as they are, and each placeholder as its piece. -/
  | intro {template : Text} {parameters : Entries} {pieces : List (Placeholder × Piece)}
    (scanned : Placeholder.scan template = .ok (pieces.map Prod.fst))
    (stands : ∀ entry ∈ pieces, Stands config parameters entry.1 entry.2) :
    Reads config template parameters (weave template 0 pieces).trim
      (pieces.flatMap fun entry => entry.2.values)

/-- The piece that stands for a placeholder, with given parameters. -/
inductive Stands (config : Config) : Entries → Placeholder → Piece → Prop
  /-- A plain name stands for the markers of its value. -/
  | plain {parameters : Entries} {placeholder : Placeholder} {value : Value} {text : Text}
    {values : List Value} (form : placeholder.form = .plain)
    (bound : parameters.get? placeholder.name = some value)
    (expands : Expands config.marker value text values) :
    Stands config parameters placeholder ⟨text, values, false⟩
  /-- A fragment is kept with the markers of its value in place of the first mark. -/
  | filled {parameters : Entries} {placeholder : Placeholder} {before after : Text} {value : Value}
    {text : Text} {values : List Value}
    (form : placeholder.form = .optional (before ++ Placeholder.optionalMark :: after))
    (first : Placeholder.optionalMark ∉ before)
    (bound : parameters.get? placeholder.name = some value)
    (expands : Expands config.marker value text values) :
    Stands config parameters placeholder ⟨before ++ text ++ after, values, false⟩
  /-- A fragment without a mark is kept as it is, and binds nothing. -/
  | verbatim {parameters : Entries} {placeholder : Placeholder} {fragment : Text} {value : Value}
    (form : placeholder.form = .optional fragment)
    (unmarked : Placeholder.optionalMark ∉ fragment)
    (bound : parameters.get? placeholder.name = some value) :
    Stands config parameters placeholder ⟨fragment, [], false⟩
  /-- A fragment without a value goes, with the blanks before it. -/
  | dropped {parameters : Entries} {placeholder : Placeholder} {fragment : Text}
    (form : placeholder.form = .optional fragment)
    (unbound : parameters.get? placeholder.name = none) :
    Stands config parameters placeholder ⟨[], [], true⟩
  /-- A dynamic name stands for the group of what its terms add. -/
  | group {parameters : Entries} {placeholder : Placeholder} {value : Value}
    {terms : List (Term × Option Operand)} (form : placeholder.form = .dynamic)
    (bound : parameters.get? placeholder.name = some value)
    (read : Term.ofValue placeholder.name value = .ok (terms.map Prod.fst))
    (joins : ∀ entry ∈ terms, Joins config entry.1 entry.2) :
    Stands config parameters placeholder
      ⟨'(' :: [' '].intercalate (Operand.words (terms.filterMap Prod.snd)) ++ [')'],
        (terms.filterMap Prod.snd).flatMap Operand.values, false⟩

/-- The operand that a term adds to its group, if any. -/
inductive Joins (config : Config) : Term → Option Operand → Prop
  /-- A term with an unknown operator is left out where that is allowed. -/
  | leftOut {term : Term} (unknown : term.operator.operatorName ≠ ['A', 'N', 'D'] ∧
      term.operator.operatorName ≠ ['O', 'R']) (allowed : config.ignoresUnknown = true) :
    Joins config term none
  /-- Any other term adds its operator and what its template reads as with its parameters. -/
  | operand {term : Term} {query : Text} {values : List Value}
    (known : term.operator.operatorName = ['A', 'N', 'D'] ∨
      term.operator.operatorName = ['O', 'R'])
    (reads : Reads config term.template term.parameters query values) :
    Joins config term (some ⟨term.operator.operatorName, query, values⟩)

end

/-- The markers of a value are the ones it expands into. -/
theorem expands_iff {marker text : Text} {value : Value} {values : List Value} :
    Expands marker value text values ↔ Markers.ofValue marker value = ⟨text, values⟩ := by
  unfold Markers.ofValue
  -- Both sides ask whether the value is an array.
  constructor
  · intro expands
    cases expands with
    | single alone => rw [Value.items?_eq_none_iff.mpr alone]
    | array many => rw [Value.items?_eq_some_iff.mpr many]; rfl
  · intro made
    cases items : value.items? with
    | none =>
      rw [items] at made
      cases made
      exact .single (Value.items?_eq_none_iff.mp items)
    | some list =>
      rw [items] at made
      cases made
      exact .array (Value.items?_eq_some_iff.mp items)

/-- Filling a fragment puts the markers in place of its first mark. -/
theorem Occurrence.fill_of_mark {before after : Text} (markers : Markers)
    (first : Placeholder.optionalMark ∉ before) :
    fill (before ++ Placeholder.optionalMark :: after) markers =
      ⟨before ++ markers.text ++ after, markers.values⟩ := by
  -- What stands before the first mark is taken up to it, and what stands after it is left.
  have taken : (before ++ Placeholder.optionalMark :: after).takeWhile
      (· ≠ Placeholder.optionalMark) = before := by
    rw [List.takeWhile_append_of_pos, List.takeWhile_cons_of_neg (by simp), List.append_nil]
    intro c member
    simpa using fun same : c = Placeholder.optionalMark => first (same ▸ member)
  have left : (before ++ Placeholder.optionalMark :: after).drop (before.length + 1) = after := by
    rw [List.drop_append, List.drop_eq_nil_of_le (by omega)]
    simp
  rw [fill, if_pos (by simp)]
  simp only [taken, left]

/-- Filling a fragment that has no mark changes nothing in it. -/
theorem Occurrence.fill_of_unmarked {fragment : Text} (markers : Markers)
    (unmarked : Placeholder.optionalMark ∉ fragment) : fill fragment markers = ⟨fragment, []⟩ := by
  -- The markers have nowhere to go.
  rw [fill, if_neg (by simpa using unmarked)]

/-- An occurrence puts a piece into the query in place of its placeholder. -/
structure Fits (template : Text) (placeholder : Placeholder) (piece : Piece)
    (occurrence : Occurrence) : Prop where
  /-- It begins with its placeholder, or with the blanks before it. -/
  start : occurrence.start =
    if piece.closesUp then Occurrence.widenLeft template placeholder.start else placeholder.start
  /-- It ends with its placeholder. -/
  stop : occurrence.stop = placeholder.stop
  /-- It has the text of the piece. -/
  text : occurrence.replacement = piece.text
  /-- It binds the values of the piece. -/
  values : occurrence.values = piece.values

/-- An occurrence that replaces just its placeholder fits a piece that does not close up. -/
theorem Fits.replacing {template text : Text} {placeholder : Placeholder} {kind : Occurrence.Kind}
    {values : List Value} :
    Fits template placeholder ⟨text, values, false⟩
      (.replacing placeholder kind ⟨text, values⟩) :=
  ⟨rfl, rfl, rfl, rfl⟩

/-- Fitting occurrences are ordered edits, which put together the gaps and the pieces. -/
theorem Fits.weave_eq {template : Text} {position : Nat} {pieces : List (Placeholder × Piece)}
    {occurrences : List Occurrence}
    (fits : List.Forall₂ (fun entry => Fits template entry.1 entry.2) pieces occurrences)
    (tight : Placeholder.Tight template position)
    (placed : Placeholder.Placed template position (pieces.map Prod.fst)) :
    Edit.Ordered template.length position (occurrences.map Occurrence.edit) ∧
      Edit.assembled template position (occurrences.map Occurrence.edit) =
        weave template position pieces := by
  -- The induction goes from left to right, and the position is where the last piece ended.
  induction fits generalizing position with
  | nil => exact ⟨placed, rfl⟩
  | @cons entry occurrence pieces occurrences first _ ih =>
    obtain ⟨placeholder, piece⟩ := entry
    obtain ⟨begins, tightly, placed⟩ := placed
    obtain ⟨ordered, same⟩ := ih tightly placed
    simp only at begins placed
    have room := Placeholder.start_lt_stop placeholder
    have within := placed.le_length
    -- A piece that closes up takes the blanks of its gap, and any other takes none of it.
    have gap : position ≤ occurrence.start ∧ occurrence.start ≤ occurrence.stop ∧
        Text.slice template position occurrence.start =
          if piece.closesUp then
            (Text.slice template position placeholder.start).dropEndWhile isSpaceOrTab
          else Text.slice template position placeholder.start := by
      rw [first.start, first.stop]
      cases piece.closesUp with
      | false => exact ⟨begins, by simp; omega, rfl⟩
      | true =>
        obtain ⟨left, right, cut⟩ :=
          Occurrence.widenLeft_bounds tight begins (by omega)
        exact ⟨left, by simp; omega, cut⟩
    obtain ⟨left, right, gap⟩ := gap
    have stops : (occurrence.edit.stop).toNat = placeholder.stop := by
      rw [Occurrence.edit, first.stop]
      rfl
    have starts : (occurrence.edit.start).toNat = occurrence.start := rfl
    refine ⟨⟨Int.ofNat_le.mpr left, Int.ofNat_le.mpr right, ?_⟩, ?_⟩
    · rw [stops]
      exact ordered
    · -- The first gap and the first piece come in front of what is woven from the others.
      rw [List.map_cons, Edit.assembled, stops, starts, same, gap]
      show _ ++ occurrence.replacement ++ _ = _
      rw [first.text, weave]

/-- Fitting occurrences bind the values of the pieces. -/
theorem Fits.values_eq {template : Text} {pieces : List (Placeholder × Piece)}
    {occurrences : List Occurrence}
    (fits : List.Forall₂ (fun entry => Fits template entry.1 entry.2) pieces occurrences) :
    (occurrences.map Occurrence.edit).flatMap Edit.values =
      pieces.flatMap fun entry => entry.2.values := by
  -- The values are collected piece by piece on both sides.
  induction fits with
  | nil => rfl
  | cons first _ ih =>
    rw [List.map_cons, List.flatMap_cons, List.flatMap_cons, ih, Occurrence.edit, first.values]

/-- With given parameters, every template is resolved to what it reads as. -/
def ReadsAlike (config : Config) (parameters : Entries) : Prop :=
  ∀ template query values, Reads config template parameters query values ↔
    ∃ resolution, (resolveTemplate config template parameters).outcome = .ok resolution ∧
      resolution.query = query ∧ resolution.values = values

/-- A term adds the operand that it is read as. -/
theorem joins_iff {config : Config} {name : String} {term : Term} {added : Option Operand}
    (alike : ReadsAlike config term.parameters) :
    Joins config term added ↔ term.operand config name = .ok added := by
  rw [Term.operand]
  constructor
  · intro joins
    -- The operator decides which of the two ways it is.
    cases joins with
    | leftOut unknown allowed =>
      rw [Connective.ofValue?_eq_none_iff.mpr unknown]
      simp [allowed]
    | operand known reads =>
      obtain ⟨resolution, resolved, rfl, rfl⟩ := (alike _ _ _).mp reads
      -- The operator is shown by its name, whichever of the two it is.
      obtain ⟨connective, named⟩ := Connective.exists_of_known known
      rw [Connective.ofValue?_eq_some_iff.mpr named, named]
      exact map_eq_ok_iff.mpr ⟨resolution, resolved, rfl⟩
  · intro made
    cases operator : Connective.ofValue? term.operator with
    | none =>
      rw [operator] at made
      -- A term with an unknown operator adds nothing, if it is not a fault.
      cases allowed : config.ignoresUnknown with
      | false => simp [allowed] at made
      | true =>
        simp only [allowed, if_true, Except.ok.injEq] at made
        subst made
        exact .leftOut (Connective.ofValue?_eq_none_iff.mp operator) allowed
    | some connective =>
      rw [operator] at made
      obtain ⟨resolution, resolved, rfl⟩ := map_eq_ok_iff.mp made
      -- The operand shows the operator by its name, and its query is a reading.
      have named := Connective.ofValue?_eq_some_iff.mp operator
      rw [← named]
      exact .operand (Connective.known_of_named named)
        ((alike _ _ _).mpr ⟨resolution, resolved, rfl, rfl⟩)

/-- Terms add the operands that they are read as, one by one. -/
theorem operands_iff {config : Config} {terms : List Term} {added : List (Option Operand)}
    (name : String) (nested : ∀ term ∈ terms, ReadsAlike config term.parameters) :
    terms.mapM (Term.operand config name) = .ok added ↔ ∃ pairs : List (Term × Option Operand),
      pairs.map Prod.fst = terms ∧ pairs.map Prod.snd = added ∧
        ∀ pair ∈ pairs, Joins config pair.1 pair.2 := by
  rw [mapM_eq_ok_iff, forall₂_iff_pairs]
  -- The same pairs serve on both sides, as each of them is a joined term.
  constructor
  · rintro ⟨pairs, rfl, rfl, each⟩
    refine ⟨pairs, rfl, rfl, fun pair member => ?_⟩
    exact (joins_iff (nested pair.1 (List.mem_map_of_mem member))).mpr (each pair member)
  · rintro ⟨pairs, rfl, rfl, each⟩
    refine ⟨pairs, rfl, rfl, fun pair member => ?_⟩
    exact (joins_iff (nested pair.1 (List.mem_map_of_mem member))).mp (each pair member)

section Placeholders

variable {config : Config} {parameters : Entries}
  (nested : ∀ name value terms, parameters.get? name = some value →
    Term.ofValue name value = .ok terms → ∀ term ∈ terms, ReadsAlike config term.parameters)

include nested

/-- A placeholder that is read as a piece has an occurrence that fits it. -/
theorem occurrenceOf_of_stands {placeholder : Placeholder} {piece : Piece}
    (stands : Stands config parameters placeholder piece) (template : Text) :
    ∃ occurrence, (occurrenceOf config template parameters placeholder).outcome = .ok occurrence ∧
      Fits template placeholder piece occurrence := by
  rw [outcome_occurrenceOf]
  -- Each way to stand for something is one of the ways to make an occurrence.
  cases stands with
  | plain form bound expands =>
    rw [bound, form]
    exact ⟨_, rfl, by rw [Occurrence.ofPlain, expands_iff.mp expands]; exact .replacing⟩
  | filled form first bound expands =>
    rw [bound, form]
    exact ⟨_, rfl, by
      rw [Occurrence.ofOptional, expands_iff.mp expands, Occurrence.fill_of_mark _ first]
      exact .replacing⟩
  | verbatim form unmarked bound =>
    rw [bound, form]
    exact ⟨_, rfl, by
      rw [Occurrence.ofOptional, Occurrence.fill_of_unmarked _ unmarked]
      exact .replacing⟩
  | dropped form unbound =>
    -- Only an occurrence that is left out begins before its placeholder.
    have optional : placeholder.isOptional = true := by
      simp [Placeholder.isOptional, Placeholder.fragment?, form]
    rw [unbound]
    simp only [optional, if_true]
    exact ⟨_, rfl, rfl, rfl, rfl, rfl⟩
  | group form bound read joins =>
    rename_i value terms
    -- The terms add what they are read as, by the hypothesis on their parameters.
    have added := (operands_iff placeholder.name (nested _ _ _ bound read)).mpr
      ⟨terms, rfl, rfl, joins⟩
    rw [bound, form]
    simp only [outcome_resolveGroup, read, added, Except.map]
    refine ⟨_, rfl, ?_⟩
    rw [List.filterMap_map, Function.id_comp]
    exact .replacing

/-- A placeholder that has an occurrence is read as a piece that it fits. -/
theorem stands_of_occurrenceOf {template : Text} {placeholder : Placeholder}
    {occurrence : Occurrence}
    (resolved : (occurrenceOf config template parameters placeholder).outcome = .ok occurrence) :
    ∃ piece, Stands config parameters placeholder piece ∧
      Fits template placeholder piece occurrence := by
  rw [outcome_occurrenceOf] at resolved
  -- The value comes first, and the form decides what is made of it.
  cases bound : parameters.get? placeholder.name with
  | none =>
    rw [bound] at resolved
    cases form : placeholder.form with
    | optional fragment =>
      -- Without a value the fragment goes.
      have optional : placeholder.isOptional = true := by
        simp [Placeholder.isOptional, Placeholder.fragment?, form]
      simp only [optional, if_true, Except.ok.injEq] at resolved
      subst resolved
      exact ⟨_, .dropped form bound, rfl, rfl, rfl, rfl⟩
    | _ => simp [Placeholder.isOptional, Placeholder.fragment?, form] at resolved
  | some value =>
    rw [bound] at resolved
    cases form : placeholder.form with
    | plain =>
      rw [form] at resolved
      cases resolved
      exact ⟨_, .plain form bound (expands_iff.mpr rfl), .replacing⟩
    | optional fragment =>
      rw [form] at resolved
      cases resolved
      -- The fragment has a first mark or none.
      by_cases marked : Placeholder.optionalMark ∈ fragment
      · obtain ⟨before, after, rfl, first⟩ := List.eq_append_cons_of_mem marked
        refine ⟨_, .filled form first bound (expands_iff.mpr rfl), ?_⟩
        rw [Occurrence.ofOptional, Occurrence.fill_of_mark _ first]
        exact .replacing
      · refine ⟨_, .verbatim form marked bound, ?_⟩
        rw [Occurrence.ofOptional, Occurrence.fill_of_unmarked _ marked]
        exact .replacing
    | dynamic =>
      rw [form] at resolved
      obtain ⟨markers, grouped, rfl⟩ := map_eq_ok_iff.mp resolved
      rw [outcome_resolveGroup] at grouped
      -- There is a group only when the value is made of terms and none of them fails.
      cases read : Term.ofValue placeholder.name value with
      | error cause => simp [read] at grouped
      | ok terms =>
        simp only [read] at grouped
        obtain ⟨operands, added, rfl⟩ := map_eq_ok_iff.mp grouped
        obtain ⟨pairs, rfl, rfl, joins⟩ := (operands_iff _ (nested _ _ _ bound read)).mp added
        refine ⟨_, .group form bound read joins, ?_⟩
        rw [List.filterMap_map, Function.id_comp]
        exact .replacing

/-- Placeholders that are all read as pieces have occurrences that fit these. -/
theorem occurrences_of_pieces {pieces : List (Placeholder × Piece)}
    (stands : ∀ entry ∈ pieces, Stands config parameters entry.1 entry.2) (template : Text) :
    ∃ occurrences, ((pieces.map Prod.fst).mapM fun placeholder =>
        (occurrenceOf config template parameters placeholder).outcome) = .ok occurrences ∧
      List.Forall₂ (fun entry => Fits template entry.1 entry.2) pieces occurrences := by
  -- No placeholder fails, so the occurrences are made one by one.
  induction pieces with
  | nil => exact ⟨[], rfl, .nil⟩
  | cons entry rest ih =>
    obtain ⟨first, others⟩ := List.forall_mem_cons.mp stands
    obtain ⟨occurrence, resolved, fits⟩ := occurrenceOf_of_stands nested first template
    obtain ⟨occurrences, computed, each⟩ := ih others
    refine ⟨occurrence :: occurrences, ?_, .cons fits each⟩
    rw [List.map_cons, mapM_cons_eq, resolved, computed]
    rfl

/-- Placeholders that all have occurrences are read as pieces that these fit. -/
theorem pieces_of_occurrences {template : Text} {placeholders : List Placeholder}
    {occurrences : List Occurrence}
    (each : List.Forall₂ (fun placeholder occurrence =>
      (occurrenceOf config template parameters placeholder).outcome = .ok occurrence)
      placeholders occurrences) :
    ∃ pieces : List (Placeholder × Piece), pieces.map Prod.fst = placeholders ∧
      (∀ entry ∈ pieces, Stands config parameters entry.1 entry.2) ∧
        List.Forall₂ (fun entry => Fits template entry.1 entry.2) pieces occurrences := by
  -- The pieces are found one by one, in the order of the placeholders.
  induction each with
  | nil => exact ⟨[], rfl, by simp, .nil⟩
  | @cons placeholder occurrence _ _ first _ ih =>
    obtain ⟨piece, stands, fits⟩ := stands_of_occurrenceOf nested first
    obtain ⟨pieces, rfl, others, rest⟩ := ih
    exact ⟨(placeholder, piece) :: pieces, rfl, List.forall_mem_cons.mpr ⟨stands, others⟩,
      .cons fits rest⟩

end Placeholders

/-- Nothing is undefined when every placeholder is optional or has a value. -/
theorem undefinedNames_eq_nil_iff {parameters : Entries} {placeholders : List Placeholder} :
    undefinedNames parameters placeholders = [] ↔ ∀ placeholder ∈ placeholders,
      placeholder.isOptional = true ∨ parameters.has placeholder.name = true := by
  induction placeholders with
  | nil => simp [undefinedNames]
  | cons placeholder rest ih =>
    -- The first name is added just when it is required and has no value.
    rw [undefinedNames, List.forall_mem_cons, ← ih, ← Bool.or_eq_true]
    by_cases defined : (placeholder.isOptional || parameters.has placeholder.name) = true
    · simp [defined]
    · simp [defined]

/-- A placeholder that is read as a piece is optional or has a value. -/
theorem Stands.defined {config : Config} {parameters : Entries} {placeholder : Placeholder}
    {piece : Piece} (stands : Stands config parameters placeholder piece) :
    placeholder.isOptional = true ∨ parameters.has placeholder.name = true := by
  -- A placeholder that stands for something without a value is a fragment.
  cases stands with
  | plain form bound => exact Or.inr (by simp [Entries.has, bound])
  | filled form first bound => exact Or.inr (by simp [Entries.has, bound])
  | verbatim form unmarked bound => exact Or.inr (by simp [Entries.has, bound])
  | dropped form => exact Or.inl (by simp [Placeholder.isOptional, Placeholder.fragment?, form])
  | group form bound => exact Or.inr (by simp [Entries.has, bound])

/-- Fitting occurrences of the placeholders of a template resolve it to what it reads as. -/
theorem Fits.assemble {template : Text} {pieces : List (Placeholder × Piece)}
    {occurrences : List Occurrence}
    (scanned : Placeholder.scan template = .ok (pieces.map Prod.fst))
    (fits : List.Forall₂ (fun entry => Fits template entry.1 entry.2) pieces occurrences) :
    (Resolution.assemble template occurrences).query = (weave template 0 pieces).trim ∧
      (Resolution.assemble template occurrences).values =
        pieces.flatMap fun entry => entry.2.values := by
  -- What a scan finds is placed apart, so its occurrences are ordered edits.
  have placed := Placeholder.placed_of_scan scanned
  obtain ⟨ordered, same⟩ := Fits.weave_eq fits (by simp [Placeholder.Tight]) placed
  rw [Resolution.assemble]
  refine ⟨?_, ?_⟩
  · simp only [Edit.splice_text ordered, same, List.take_zero, List.nil_append]
  · simp only [Edit.splice_values, Fits.values_eq fits]

/-- Parameters read alike when those of all their terms do. -/
theorem readsAlike_step {config : Config} {parameters : Entries}
    (nested : ∀ name value terms, parameters.get? name = some value →
      Term.ofValue name value = .ok terms → ∀ term ∈ terms, ReadsAlike config term.parameters) :
    ReadsAlike config parameters := by
  intro template query values
  rw [outcome_resolveTemplate]
  constructor
  · rintro ⟨scanned, stands⟩
    rename_i pieces
    -- Every piece needs its name or does without, so no name is undefined.
    have defined : undefinedNames parameters (pieces.map Prod.fst) = [] := by
      refine undefinedNames_eq_nil_iff.mpr fun placeholder member => ?_
      obtain ⟨entry, within, rfl⟩ := List.mem_map.mp member
      exact (stands entry within).defined
    obtain ⟨occurrences, computed, fits⟩ := occurrences_of_pieces nested stands template
    obtain ⟨queried, bound⟩ := Fits.assemble scanned fits
    simp only [scanned, defined, computed]
    exact ⟨_, rfl, queried, bound⟩
  · rintro ⟨resolution, resolved, rfl, rfl⟩
    -- A resolution has gone through the three stages.
    cases scanned : Placeholder.scan template with
    | error fault => simp [scanned] at resolved
    | ok placeholders =>
      simp only [scanned] at resolved
      cases defined : undefinedNames parameters placeholders with
      | cons name names => simp [defined] at resolved
      | nil =>
        simp only [defined] at resolved
        obtain ⟨occurrences, computed, rfl⟩ := map_eq_ok_iff.mp resolved
        obtain ⟨pieces, rfl, stands, fits⟩ :=
          pieces_of_occurrences nested (mapM_eq_ok_iff.mp computed)
        obtain ⟨queried, bound⟩ := Fits.assemble scanned fits
        rw [queried, bound]
        exact .intro scanned stands

/-- With any parameters, every template is resolved to what it reads as. -/
theorem readsAlike (config : Config) (parameters : Entries) : ReadsAlike config parameters :=
  -- The step has the parameters of terms for its hypothesis, which are less deep.
  Entries.induction (fun _ => readsAlike_step) parameters

/-- A resolution succeeds just when its parameters are ones that the template reads with, and then
its query and its values are what the template reads as. -/
theorem resolve_eq_ok_iff_reads {config : Config} {template query : Text} {parameters : Value}
    {values : List Value} :
    (∃ resolution, (resolve template parameters config).outcome = .ok resolution ∧
        resolution.query = query ∧ resolution.values = values) ↔
      ∃ entries, parametersOf template parameters = .ok entries ∧
        Reads config template entries query values := by
  -- Parameters that are no mapping fail before the template is looked at.
  rw [outcome_resolve]
  constructor
  · rintro ⟨resolution, resolved, queried, bound⟩
    cases given : parametersOf template parameters with
    | error fault =>
      rw [given] at resolved
      cases resolved
    | ok entries =>
      rw [given] at resolved
      have reads := (readsAlike config entries template query values).mpr
        ⟨resolution, resolved, queried, bound⟩
      exact ⟨entries, rfl, reads⟩
  · rintro ⟨entries, given, reads⟩
    rw [given]
    exact (readsAlike config entries template query values).mp reads

end SqlTemplate
