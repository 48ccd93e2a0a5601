import SqlTemplate.Proofs.Resolution.Pruning
import SqlTemplate.Proofs.Resolution.Reading
import SqlTemplate.Proofs.Text.Trimming

/-! A group joins all of its terms with known operators, also one whose template leaves nothing of
itself in the query, and beside such an operand an operator dangles. -/

namespace SqlTemplate

namespace Text

/-- A text that begins with no blank is not of blanks. -/
theorem not_blank_cons {c : Char} (solid : isBlank c = false) (rest : Text) :
    ¬ Blank (c :: rest) := by
  -- The first character is one of the text.
  intro blank
  rw [blank c (List.mem_cons_self ..)] at solid
  contradiction

/-- The two blanks that stay within a line are blanks. -/
theorem isBlank_of_isSpaceOrTab {c : Char} (within : isSpaceOrTab c = true) : isBlank c = true := by
  -- There are only two such characters to look at.
  rw [isSpaceOrTab, Bool.or_eq_true, decide_eq_true_eq, decide_eq_true_eq] at within
  rcases within with rfl | rfl <;> decide

/-- A text is of blanks when it is without the spaces and tabs at its end. -/
theorem blank_dropEndWhile_iff {text : Text} :
    (text.dropEndWhile isSpaceOrTab).Blank ↔ text.Blank := by
  -- What is dropped from the end is of blanks itself.
  have whole : text.dropEndWhile isSpaceOrTab ++ text.rtakeWhile isSpaceOrTab = text :=
    List.rdropWhile_append_rtakeWhile
  have taken : Blank (text.rtakeWhile isSpaceOrTab) := fun c member =>
    isBlank_of_isSpaceOrTab (List.mem_rtakeWhile_imp member)
  constructor
  · intro blank
    rw [← whole]
    exact blank.append taken
  · intro blank
    rw [← whole] at blank
    exact blank.of_append.1

end Text

namespace Placeholder

/-- What a template has outside its placeholders, from a position on. -/
def outside (template : Text) : Nat → List Placeholder → Text
  | position, [] => template.drop position
  | position, placeholder :: rest =>
    Text.slice template position placeholder.start ++ outside template placeholder.stop rest

/-- A placeholder leaves nothing but blanks. A fragment does so without a value, and also with one
when it has nothing else beside its first mark; any mark, in a fragment or for a plain name, must
take just one marker, of blanks too. -/
def Vanishes (config : Config) (parameters : Entries) (placeholder : Placeholder) : Prop :=
  match placeholder.form, parameters.get? placeholder.name with
  | .optional _, none => True
  | .optional fragment, some value => Text.Blank (fragment.erase optionalMark) ∧
    (optionalMark ∈ fragment → value.IsSingle ∧ config.marker.Blank)
  | .plain, some value => value.IsSingle ∧ config.marker.Blank
  | _, _ => False

end Placeholder

/-- A template leaves nothing but blanks with its parameters: it has nothing else outside its
placeholders, and each of these leaves nothing else. -/
def LeavesNothing (config : Config) (template : Text) (parameters : Entries) : Prop :=
  ∃ placeholders, Placeholder.scan template = .ok placeholders ∧
    (Placeholder.outside template 0 placeholders).Blank ∧
    ∀ placeholder ∈ placeholders, placeholder.Vanishes config parameters

section Reading

variable {config : Config} {template : Text} {parameters : Entries}

/-- What is woven of gaps and pieces is of blanks when all of them are. -/
theorem blank_weave_iff {position : Nat} {pieces : List (Placeholder × Piece)} :
    (weave template position pieces).Blank ↔
      (Placeholder.outside template position (pieces.map Prod.fst)).Blank ∧
        ∀ entry ∈ pieces, entry.2.text.Blank := by
  induction pieces generalizing position with
  | nil => simp [weave, Placeholder.outside]
  | cons entry rest ih =>
    -- It does not matter whether a piece takes the blanks before it along.
    have gap : ∀ text : Text,
        (if entry.2.closesUp then text.dropEndWhile isSpaceOrTab else text).Blank ↔ text.Blank := by
      intro text
      split
      · exact Text.blank_dropEndWhile_iff
      · rfl
    rw [weave, List.map_cons, Placeholder.outside, List.forall_mem_cons, Text.blank_append_iff,
      Text.blank_append_iff, Text.blank_append_iff, ih, gap]
    tauto

/-- The markers of a value are of blanks when there is just one, which is of blanks. -/
theorem Expands.blank_iff {marker text : Text} {value : Value} {values : List Value}
    (expands : Expands marker value text values) :
    text.Blank ↔ value.IsSingle ∧ marker.Blank := by
  cases expands with
  | single alone => simp [alone]
  | array many =>
    -- The opening parenthesis is no blank.
    have plural : ¬ value.IsSingle := fun alone => alone _ many
    simp only [plural, false_and, iff_false]
    exact Text.not_blank_cons (by decide) _

/-- The piece that stands for a placeholder is of blanks when the placeholder leaves nothing
else. -/
theorem Stands.blank_iff {placeholder : Placeholder} {piece : Piece}
    (stands : Stands config parameters placeholder piece) :
    piece.text.Blank ↔ placeholder.Vanishes config parameters := by
  rw [Placeholder.Vanishes]
  cases stands with
  | plain form bound expands =>
    simp only [form, bound]
    exact expands.blank_iff
  | @filled _ _ before after value text values form first bound expands =>
    -- Without its first mark the fragment is what stands around that.
    have erased : (before ++ Placeholder.optionalMark :: after).erase Placeholder.optionalMark =
        before ++ after := by
      rw [List.erase_append_right _ first, List.erase_cons_head]
    have marked : Placeholder.optionalMark ∈ before ++ Placeholder.optionalMark :: after := by simp
    simp only [form, bound, erased, marked, true_implies, Text.blank_append_iff, expands.blank_iff]
    tauto
  | verbatim form unmarked bound =>
    simp only [form, bound, List.erase_of_not_mem unmarked, unmarked, false_implies, and_true]
  | dropped form unbound =>
    simp only [form, unbound, iff_true]
    exact Text.blank_nil
  | group form =>
    -- The parentheses of a group are never blank.
    simp only [form, iff_false]
    exact Text.not_blank_cons (by decide) _

/-- A template reads as the empty query when it leaves nothing but blanks. -/
theorem Reads.eq_nil_iff {query : Text} {values : List Value}
    (reads : Reads config template parameters query values) :
    query = [] ↔ LeavesNothing config template parameters := by
  -- Trimming leaves nothing of a text just when it is of blanks, as all its gaps and pieces are
  -- then.
  obtain ⟨scanned, stands⟩ := reads
  rename_i pieces
  rw [Text.trim_eq_nil_iff, blank_weave_iff]
  have each : (∀ entry ∈ pieces, entry.2.text.Blank) ↔
      ∀ placeholder ∈ pieces.map Prod.fst, placeholder.Vanishes config parameters := by
    rw [List.forall_mem_map]
    exact forall₂_congr fun entry member => (stands entry member).blank_iff
  rw [each]
  constructor
  · rintro ⟨outside, vanish⟩
    exact ⟨_, scanned, outside, vanish⟩
  · rintro ⟨placeholders, also, outside, vanish⟩
    cases scanned.symm.trans also
    exact ⟨outside, vanish⟩

end Reading

section Groups

variable {config : Config} {name : String}

/-- What a term with a known operator adds to its group: its own operator, and what its template
reads as, which is nothing when the template leaves nothing but blanks. -/
structure Adds (config : Config) (term : Term) (operand : Operand) : Prop where
  /-- The operator is one of the two. -/
  known : operand.operator = ['A', 'N', 'D'] ∨ operand.operator = ['O', 'R']
  /-- It is the one that the term was given. -/
  own : operand.operator = term.operator.operatorName
  /-- The query and the values are those of the template. -/
  reads : Reads config term.template term.parameters operand.query operand.values
  /-- The query is empty when the template leaves nothing else. -/
  vanishes : operand.query = [] ↔ LeavesNothing config term.template term.parameters

/-- Of terms that are joined, those with known operators add one operand each, in their order. -/
theorem adds_of_joins {pairs : List (Term × Option Operand)}
    (joins : ∀ pair ∈ pairs, Joins config pair.1 pair.2) :
    List.Forall₂ (Adds config) ((pairs.map Prod.fst).filter Term.isKnown)
      (pairs.filterMap Prod.snd) := by
  -- A term joins with an operand or is left out, and its operator tells which.
  induction pairs with
  | nil => exact .nil
  | cons pair rest ih =>
    obtain ⟨term, added⟩ := pair
    obtain ⟨first, others⟩ := List.forall_mem_cons.mp joins
    replace first : Joins config term added := first
    cases first with
    | leftOut unknown allowed =>
      -- A term that is left out is none of the known ones.
      have dropped : term.isKnown = false := by
        rw [Term.isKnown, Connective.ofValue?_eq_none_iff.mpr unknown]
        rfl
      rw [List.map_cons, List.filter_cons_of_neg (by simp [dropped]),
        List.filterMap_cons_none (by rfl)]
      exact ih others
    | operand known reads =>
      obtain ⟨connective, named⟩ := Connective.exists_of_known known
      have kept : term.isKnown = true := by
        rw [Term.isKnown, Connective.ofValue?_eq_some_iff.mpr named]
        rfl
      rw [List.map_cons, List.filter_cons_of_pos kept, List.filterMap_cons_some (by rfl)]
      exact .cons ⟨known, rfl, reads, reads.eq_nil_iff⟩ (ih others)

end Groups

/-- When a group is made, alone or in a template, it is the operands of the terms with known
operators, in parentheses and in order, with the operator of each but the first in front of it. All
of its operators stand between texts when none of these terms has a template that leaves nothing but
blanks, as the operand of such a term is empty, and no other one is. -/
theorem group_joins_operands (config : Config) (name : String) (value : Value) :
    (groupAlone config name value).outcome = (resolveGroup config name value).outcome ∧
      ∀ markers, (resolveGroup config name value).outcome = .ok markers →
        ∃ terms operands, Term.ofValue name value = .ok terms ∧
          List.Forall₂ (Adds config) (terms.filter Term.isKnown) operands ∧
          markers.text = '(' :: [' '].intercalate (Operand.words operands) ++ [')'] ∧
          markers.values = operands.flatMap Operand.values ∧
          ((∀ operand ∈ operands, operand.query ≠ []) ↔
            ∀ term ∈ terms.filter Term.isKnown,
              ¬ LeavesNothing config term.template term.parameters) := by
  refine ⟨outcome_groupAlone config name value, fun markers made => ?_⟩
  rw [outcome_resolveGroup] at made
  cases read : Term.ofValue name value with
  | error cause => simp [read] at made
  | ok terms =>
    simp only [read] at made
    obtain ⟨added, operands, rfl⟩ := map_eq_ok_iff.mp made
    obtain ⟨pairs, rfl, rfl, joins⟩ :=
      (operands_iff name fun term _ => readsAlike config term.parameters).mp operands
    -- Each known term has added one operand.
    have adds := adds_of_joins joins
    rw [List.filterMap_map, Function.id_comp]
    refine ⟨_, _, rfl, adds, rfl, rfl, ?_⟩
    generalize (pairs.map Prod.fst).filter Term.isKnown = known at adds
    generalize pairs.filterMap Prod.snd = operands at adds
    -- The terms and the operands are gone through side by side.
    induction adds with
    | nil => simp
    | cons first _ ih => rw [List.forall_mem_cons, List.forall_mem_cons, ih, ne_eq, first.vanishes]

/-- Two terms, of which the second one is a fragment with some parameters. -/
def fragmentGroup (parameters : Value) : Value :=
  .list [.term (.str "AND") (.str "a = 1") .noParameters,
    .term (.str "or") (.str ":*b{b = *}") parameters]

/-- A fragment with a value is an operand like any other. -/
theorem kept_fragment_joined :
    ∃ markers, (resolveGroup .default "~c" (fragmentGroup (.mapping [("*b", .int 2)]))).outcome =
        .ok markers ∧
      markers.text = "(a = 1 OR b = ?)".toList ∧ markers.values = [.int 2] ∧
      ∃ terms operands,
        Term.ofValue "~c" (fragmentGroup (.mapping [("*b", .int 2)])) = .ok terms ∧
        List.Forall₂ (Adds .default) (terms.filter Term.isKnown) operands ∧
        markers.text = '(' :: [' '].intercalate (Operand.words operands) ++ [')'] := by
  -- The group is computed, and the general theorem tells what its operands are.
  have computed : (resolveGroup .default "~c" (fragmentGroup (.mapping [("*b", .int 2)]))).outcome =
      .ok ⟨"(a = 1 OR b = ?)".toList, [.int 2]⟩ := by
    simp only [outcome_resolveGroup]
    unfold Term.operand
    simp only [outcome_resolveTemplate, outcome_occurrenceOf]
    with_unfolding_all rfl
  obtain ⟨terms, operands, read, adds, text, -⟩ :=
    (group_joins_operands .default "~c" _).2 _ computed
  exact ⟨_, computed, rfl, rfl, terms, operands, read, adds, text⟩

/-- An operator dangles before a fragment that goes for want of a value. -/
theorem operator_dangles :
    (groupAlone .default "~c" (fragmentGroup .noParameters)).outcome =
        .ok ⟨"(a = 1 OR )".toList, []⟩ ∧
      ∃ terms, Term.ofValue "~c" (fragmentGroup .noParameters) = .ok terms ∧
        ¬ ∀ term ∈ terms, ∀ query values,
          Reads .default term.template term.parameters query values → query ≠ [] := by
  -- The template of the second term reads as nothing when its fragment has no value.
  have computed : (resolveTemplate .default ":*b{b = *}".toList []).outcome.map
      (fun resolution => (resolution.query, resolution.values)) = .ok ([], []) := by
    simp only [outcome_resolveTemplate, outcome_occurrenceOf]
    with_unfolding_all rfl
  obtain ⟨resolution, resolved, empty⟩ := map_eq_ok_iff.mp computed
  obtain ⟨query, values⟩ := Prod.mk.inj empty
  have reads := (readsAlike .default [] ":*b{b = *}".toList [] []).mpr
    ⟨resolution, resolved, query, values⟩
  -- The operator of that term is written all the same.
  have dangling : (groupAlone .default "~c" (fragmentGroup .noParameters)).outcome =
      .ok ⟨"(a = 1 OR )".toList, []⟩ := by
    simp only [outcome_groupAlone, outcome_resolveGroup]
    unfold Term.operand
    simp only [outcome_resolveTemplate, outcome_occurrenceOf]
    with_unfolding_all rfl
  refine ⟨dangling, [⟨.str "AND", "a = 1".toList, []⟩, ⟨.str "or", ":*b{b = *}".toList, []⟩], rfl,
    ?_⟩
  intro each
  exact each _ (List.mem_cons_of_mem _ (List.mem_singleton_self _)) _ _ reads rfl

end SqlTemplate
