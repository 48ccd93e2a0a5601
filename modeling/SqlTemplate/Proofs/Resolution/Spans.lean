import SqlTemplate.Proofs.Resolution.Outcome
import SqlTemplate.Proofs.Resolution.Placement

/-! The stretches that occurrences replace stand apart, although some are widened to the left. -/

namespace SqlTemplate

/-- A placeholder that is left out, for it is optional and its name has no value. -/
def Placeholder.LeftOut (parameters : Entries) (placeholder : Placeholder) : Prop :=
  placeholder.isOptional = true ∧ parameters.get? placeholder.name = none

/-- The stretch that an occurrence replaces in place of its placeholder. -/
structure Spanned (template : Text) (parameters : Entries) (placeholder : Placeholder)
    (occurrence : Occurrence) : Prop where
  /-- The occurrence is one of the placeholder. -/
  same : occurrence.placeholder = placeholder
  /-- The stretch ends with the placeholder. -/
  stop : occurrence.stop = placeholder.stop
  /-- The stretch begins with a placeholder that is not left out. -/
  kept : ¬ placeholder.LeftOut parameters → occurrence.start = placeholder.start
  /-- The stretch begins with a placeholder that is left out, or before it. -/
  widened : placeholder.LeftOut parameters → occurrence.start ≤ placeholder.start
  /-- Only spaces and tabs lie between the beginnings of the stretch and of the placeholder. -/
  blanks : ∀ c ∈ Text.slice template occurrence.start placeholder.start, c = ' ' ∨ c = '\t'
  /-- Neither a space nor a tab comes before the stretch of a placeholder that is left out. -/
  maximal : placeholder.LeftOut parameters → Placeholder.Tight template occurrence.start

/-- The two blanks that take no part in the layout of a line are the space and the tab. -/
theorem isSpaceOrTab_iff {c : Char} : isSpaceOrTab c = true ↔ c = ' ' ∨ c = '\t' := by
  simp [isSpaceOrTab]

namespace Occurrence

/-- Spaces and tabs before a position can only move it to the left. -/
theorem widenLeft_le (template : Text) (start : Nat) : widenLeft template start ≤ start := by
  -- What is left of the text before the position is no longer than it was.
  have shorter := (Text.dropEndWhile_prefix isSpaceOrTab (template.take start)).length_le
  rw [List.length_take] at shorter
  exact Nat.le_trans shorter (Nat.min_le_left ..)

/-- All that a position moves over are spaces and tabs. -/
theorem blanks_widenLeft {template : Text} {start : Nat} :
    ∀ c ∈ Text.slice template (widenLeft template start) start, c = ' ' ∨ c = '\t' :=
  fun _ member => isSpaceOrTab_iff.mp (Text.of_mem_drop_dropEndWhile member)

/-- A position moves over all the spaces and tabs there are before it. -/
theorem tight_widenLeft (template : Text) (start : Nat) :
    Placeholder.Tight template (widenLeft template start) := by
  have cut := Text.dropEndWhile_prefix isSpaceOrTab (template.take start)
  -- What is in front of the new position is the text without the blanks at its end.
  have front : template.take (widenLeft template start) =
      Text.dropEndWhile isSpaceOrTab (template.take start) := by
    have short : widenLeft template start ≤ start := widenLeft_le template start
    rw [List.prefix_iff_eq_take.mp cut, List.take_take, ← widenLeft, Nat.min_eq_left short]
  intro c last
  rw [front] at last
  exact Text.getLast?_dropEndWhile _ _ c last

end Occurrence

namespace Spanned

variable {template : Text} {parameters : Entries} {placeholder : Placeholder}

/-- An occurrence that replaces just its placeholder has the stretch of the placeholder. -/
theorem replacing (kind : Occurrence.Kind) (markers : Markers)
    (kept : ¬ placeholder.LeftOut parameters) :
    Spanned template parameters placeholder (.replacing placeholder kind markers) where
  same := rfl
  stop := rfl
  kept := fun _ => rfl
  widened := fun left => absurd left kept
  blanks := by
    intro c member
    -- There is nothing between the two beginnings.
    rw [Occurrence.replacing, Text.slice_self] at member
    cases member
  maximal := fun left => absurd left kept

/-- An occurrence that leaves out its placeholder takes the blanks before it as well. -/
theorem leavingOut (left : placeholder.LeftOut parameters) :
    Spanned template parameters placeholder (.leavingOut template placeholder) where
  same := rfl
  stop := rfl
  kept := fun kept => absurd left kept
  widened := fun _ => Occurrence.widenLeft_le ..
  blanks := Occurrence.blanks_widenLeft
  maximal := fun _ => Occurrence.tight_widenLeft template placeholder.start

/-- The occurrence of a placeholder replaces the stretch that is meant for it. -/
theorem of_occurrenceOf {config : Config} {occurrence : Occurrence}
    (classified : (occurrenceOf config template parameters placeholder).outcome = .ok occurrence) :
    Spanned template parameters placeholder occurrence := by
  rw [outcome_occurrenceOf] at classified
  cases found : parameters.get? placeholder.name with
  | none =>
    -- Only an optional name may be without a value, and its placeholder is left out.
    cases optional : placeholder.isOptional with
    | false => simp [found, optional] at classified
    | true =>
      simp only [found, optional, if_true, Except.ok.injEq] at classified
      subst classified
      exact .leavingOut ⟨optional, found⟩
  | some value =>
    have kept : ¬ placeholder.LeftOut parameters := by
      rintro ⟨_, absent⟩
      rw [found] at absent
      cases absent
    -- With a value, the placeholder alone is replaced, whatever its form.
    cases form : placeholder.form with
    | plain =>
      simp only [found, form, Except.ok.injEq] at classified
      subst classified
      exact replacing _ _ kept
    | optional fragment =>
      simp only [found, form, Except.ok.injEq] at classified
      subst classified
      exact replacing _ _ kept
    | dynamic =>
      simp only [found, form, map_eq_ok_iff] at classified
      obtain ⟨markers, _, rfl⟩ := classified
      exact replacing _ _ kept

/-- No stretch goes back beyond a position that no blank comes before. -/
theorem start_ge {occurrence : Occurrence} {position : Nat}
    (spanned : Spanned template parameters placeholder occurrence)
    (tight : Placeholder.Tight template position) (begins : position ≤ placeholder.start)
    (within : placeholder.start ≤ template.length) : position ≤ occurrence.start := by
  by_contra crossed
  rw [Nat.not_le] at crossed
  -- The character before the position would lie in the widened part, and so be a blank.
  have present : position - 1 < template.length := by omega
  have last : (template.take position).getLast? = some template[position - 1] := by
    rw [List.getLast?_eq_getElem?, List.length_take_of_le (by omega),
      List.getElem?_take_of_lt (by omega), List.getElem?_eq_getElem present]
  -- It stands between the widened start and the placeholder.
  have inside : template[position - 1] ∈
      Text.slice template occurrence.start placeholder.start := by
    rw [Text.slice, List.mem_drop_iff_getElem]
    refine ⟨position - 1 - occurrence.start, ?_, ?_⟩
    · rw [List.length_take_of_le within]
      omega
    · rw [List.getElem_take]
      congr 1
      omega
  have solid := tight _ last
  rw [isSpaceOrTab_iff.mpr (spanned.blanks _ inside)] at solid
  contradiction

/-- A stretch is not empty, for it holds the placeholder. -/
theorem start_lt_stop {occurrence : Occurrence}
    (spanned : Spanned template parameters placeholder occurrence) :
    occurrence.start < occurrence.stop := by
  -- The stretch begins with the placeholder or before it, and it ends with it.
  have room := placeholder.start_lt_stop
  have before : occurrence.start ≤ placeholder.start := by
    by_cases left : placeholder.LeftOut parameters
    · exact spanned.widened left
    · exact (spanned.kept left).le
  rw [spanned.stop]
  omega

/-- The stretches for placed placeholders come one after another from a position on. -/
theorem apart {position : Nat} {placeholders : List Placeholder} {occurrences : List Occurrence}
    (spanned : List.Forall₂ (Spanned template parameters) placeholders occurrences)
    (tight : Placeholder.Tight template position)
    (placed : Placeholder.Placed template position placeholders) :
    (∀ occurrence ∈ occurrences, position ≤ occurrence.start ∧
      occurrence.start < occurrence.stop ∧ occurrence.stop ≤ template.length) ∧
    occurrences.Pairwise fun earlier later => earlier.stop ≤ later.start := by
  -- The induction goes from left to right, and the position is where the last placeholder ended.
  induction spanned generalizing position with
  | nil => exact ⟨nofun, .nil⟩
  | @cons placeholder occurrence placeholders occurrences first _ ih =>
    obtain ⟨begins, tightly, placed⟩ := placed
    obtain ⟨bounds, later⟩ := ih tightly placed
    have room := placeholder.start_lt_stop
    have within := placed.le_length
    -- No placeholder ends in a blank, so the stretches to the right stay behind this one.
    refine ⟨List.forall_mem_cons.mpr ⟨⟨?_, first.start_lt_stop, ?_⟩, ?_⟩,
      List.pairwise_cons.mpr ⟨?_, later⟩⟩
    · exact first.start_ge tight begins (by omega)
    · rw [first.stop]
      exact within
    · intro other member
      obtain ⟨behind, inside⟩ := bounds other member
      exact ⟨by omega, inside⟩
    · intro other member
      rw [first.stop]
      exact (bounds other member).1

end Spanned

/-- When every placeholder of a template has its occurrence, the occurrences replace stretches
within the template, none of them empty, that ascend and do not overlap. A placeholder that is left
out takes all the spaces and tabs before it and nothing else, and any other takes nothing. -/
theorem occurrences_apart {config : Config} {template : Text} {parameters : Entries}
    {placeholders : List Placeholder} {occurrences : List Occurrence}
    (scanned : Placeholder.scan template = .ok placeholders)
    (classified : (occurrencesOf config template parameters placeholders).outcome =
      .ok occurrences) :
    List.Forall₂ (Spanned template parameters) placeholders occurrences ∧
    (∀ occurrence ∈ occurrences,
      occurrence.start < occurrence.stop ∧ occurrence.stop ≤ template.length) ∧
    occurrences.Pairwise fun earlier later => earlier.stop ≤ later.start := by
  rw [outcome_occurrencesOf, mapM_eq_ok_iff] at classified
  have spanned : List.Forall₂ (Spanned template parameters) placeholders occurrences :=
    classified.imp fun _ _ each => .of_occurrenceOf each
  -- Nothing comes before the beginning of the template, so no blank does.
  have tight : Placeholder.Tight template 0 := nofun
  obtain ⟨bounds, later⟩ := Spanned.apart spanned tight (Placeholder.placed_of_scan scanned)
  exact ⟨spanned, fun occurrence member => (bounds occurrence member).2, later⟩

/-- Two fragments that are left out, with blanks before each of them, are followed by a name. -/
theorem fragments_left_out_apart :
    ∃ placeholders occurrences,
      Placeholder.scan "a \t:*x{b } \t :*y{c}:z".toList = .ok placeholders ∧
      (occurrencesOf .default "a \t:*x{b } \t :*y{c}:z".toList [("z", .int 1)]
        placeholders).outcome = .ok occurrences ∧
      occurrences.map (fun occurrence => (occurrence.start, occurrence.stop)) =
        [(1, 10), (10, 19), (19, 21)] ∧
      occurrences.Pairwise fun earlier later => earlier.stop ≤ later.start := by
  -- The three placeholders and their occurrences are computed, and that they are apart is the
  -- general theorem.
  have scanned : Placeholder.scan "a \t:*x{b } \t :*y{c}:z".toList =
      .ok [⟨"*x", .optional "b ".toList, 3⟩, ⟨"*y", .optional "c".toList, 13⟩,
        ⟨"z", .plain, 19⟩] := by
    with_unfolding_all rfl
  have classified : (occurrencesOf .default "a \t:*x{b } \t :*y{c}:z".toList [("z", .int 1)]
      [⟨"*x", .optional "b ".toList, 3⟩, ⟨"*y", .optional "c".toList, 13⟩,
        ⟨"z", .plain, 19⟩]).outcome =
      .ok [⟨⟨"*x", .optional "b ".toList, 3⟩, .optional, 1, 10, [], []⟩,
        ⟨⟨"*y", .optional "c".toList, 13⟩, .optional, 10, 19, [], []⟩,
        ⟨⟨"z", .plain, 19⟩, .plain, 19, 21, "?".toList, [.int 1]⟩] := by
    simp only [outcome_occurrencesOf, outcome_occurrenceOf]
    with_unfolding_all rfl
  exact ⟨_, _, scanned, classified, rfl, (occurrences_apart scanned classified).2.2⟩

end SqlTemplate
