import Mathlib.Data.List.DropRight
import SqlTemplate.Resolution.Splice

/-! Splicing from right to left gives the text that is put together from left to right. -/

namespace SqlTemplate

namespace Text

/-- A stretch after its beginning has been cut off is a stretch. -/
theorem take_append_slice {text : Text} {start stop : Nat} (ordered : start ≤ stop) :
    text.take start ++ slice text start stop = text.take stop := by
  -- The beginning of a text is also the beginning of a longer beginning.
  have shorter : (text.take stop).take start = text.take start := by
    rw [List.take_take, Nat.min_eq_left ordered]
  rw [slice, ← shorter, List.take_append_drop]

/-- A beginning of a stretch is a shorter stretch. -/
theorem take_slice {text : Text} {start stop count : Nat} (short : count ≤ stop - start) :
    (slice text start stop).take count = slice text start (start + count) := by
  -- The slice is as long as its bounds are apart, so what is taken ends within it.
  rw [slice, slice, List.drop_take, List.drop_take, List.take_take, Nat.add_sub_cancel_left,
    Nat.min_eq_left short]

/-- There is nothing between a position and itself. -/
@[simp] theorem slice_self (text : Text) (position : Nat) : slice text position position = [] := by
  -- What comes before the position is no longer than that.
  rw [slice, List.drop_eq_nil_iff, List.length_take]
  exact Nat.min_le_left ..

/-- An offset within a text is a position in it. -/
theorem clamp_of_le {length : Nat} {offset : Int} (positive : 0 ≤ offset)
    (within : offset.toNat ≤ length) : clamp length offset = offset.toNat := by
  -- It lies neither before the text nor behind its end.
  rw [clamp, if_neg (by omega), Nat.min_eq_left within]

/-- Trimming a text at its end leaves a beginning of it. -/
theorem dropEndWhile_prefix (test : Char → Bool) (text : Text) :
    text.dropEndWhile test <+: text :=
  List.rdropWhile_prefix test text

/-- A text whose last character is kept is kept whole in front of a trimmed one. -/
theorem dropEndWhile_append {test : Char → Bool} {front : Text} (back : Text)
    (kept : ∀ c ∈ front.getLast?, test c = false) :
    (front ++ back).dropEndWhile test = front ++ back.dropEndWhile test := by
  -- Seen from its end, the front is not trimmed at all.
  have stays : front.reverse.dropWhile test = front.reverse := by
    cases reversed : front.reverse with
    | nil => rfl
    | cons c rest =>
      refine List.dropWhile_cons_of_neg ?_
      rw [kept c (by rw [← List.head?_reverse, reversed]; rfl)]
      exact Bool.false_ne_true
  rw [dropEndWhile, dropEndWhile, List.reverse_append, List.dropWhile_append, stays]
  -- What is behind the front is trimmed away as a whole or in part.
  split
  · rename_i emptied
    rw [List.isEmpty_iff.mp emptied, List.reverse_reverse]
    simp
  · rw [List.reverse_append, List.reverse_reverse]

/-- A text without its longest ending of some characters ends in none of them. -/
theorem getLast?_dropEndWhile (test : Char → Bool) (text : Text) :
    ∀ c ∈ (text.dropEndWhile test).getLast?, test c = false := by
  intro c last
  have present : text.rdropWhile test ≠ [] := by
    intro empty
    rw [show text.dropEndWhile test = [] from empty] at last
    cases last
  -- The last character stays because the test does not hold of it.
  have stays := List.rdropWhile_last_not test text present
  have final : (text.rdropWhile test).getLast? = some c := last
  rw [List.getLast?_eq_some_getLast present, Option.some.injEq] at final
  rw [final] at stays
  simpa using stays

/-- The test holds of all characters of the ending that is dropped. -/
theorem of_mem_drop_dropEndWhile {test : Char → Bool} {text : Text} {c : Char}
    (member : c ∈ text.drop (text.dropEndWhile test).length) : test c = true := by
  have whole : text.dropEndWhile test ++ text.rtakeWhile test = text :=
    List.rdropWhile_append_rtakeWhile
  -- What is dropped is what stands behind the part that stays.
  have ending := @List.drop_left _ (text.dropEndWhile test) (text.rtakeWhile test)
  rw [whole] at ending
  rw [ending] at member
  exact List.mem_rtakeWhile_imp member

end Text

namespace Edit

/-- Edits from a position on, ascending and disjoint, in a text of some length. -/
def Ordered (length : Nat) : Nat → List Edit → Prop
  | position, [] => position ≤ length
  | position, edit :: rest =>
    position ≤ edit.start ∧ edit.start ≤ edit.stop ∧ Ordered length edit.stop.toNat rest

/-- The text from a position on, with each edit in its place. -/
def assembled (template : Text) : Nat → List Edit → Text
  | position, [] => template.drop position
  | position, edit :: rest =>
    Text.slice template position edit.start.toNat ++ edit.replacement ++
      assembled template edit.stop.toNat rest

/-- Ordered edits begin within the text. -/
theorem Ordered.le_length {length position : Nat} {edits : List Edit}
    (ordered : Ordered length position edits) : position ≤ length := by
  -- The last edit ends within the text, and each begins before it ends.
  induction edits generalizing position with
  | nil => exact ordered
  | cons edit rest ih =>
    obtain ⟨begins, ends, ordered⟩ := ordered
    have := ih ordered
    omega

/-- An edit leaves all that is before it as the template has it, and what is behind it alone. -/
theorem apply_take_append {template : Text} {position : Nat} {edit : Edit} (back : Text)
    (begins : position ≤ edit.start) (ends : edit.start ≤ edit.stop)
    (within : edit.stop.toNat ≤ template.length) :
    edit.apply (template.take edit.stop.toNat ++ back) =
      template.take position ++
        (Text.slice template position edit.start.toNat ++ edit.replacement ++ back) := by
  have front : (template.take edit.stop.toNat).length = edit.stop.toNat :=
    List.length_take_of_le within
  -- The edit lies within the text, however long the text behind it has become.
  have long : edit.stop.toNat ≤ (template.take edit.stop.toNat ++ back).length := by
    rw [List.length_append, front]
    omega
  rw [apply, Text.clamp_of_le (by omega) (by omega), Text.clamp_of_le (by omega) long]
  -- What it keeps in front is of the template, and what it keeps behind is the text behind it.
  rw [List.take_append_of_le_length (by omega), List.take_take, Nat.min_eq_left (by omega),
    List.drop_left' front, ← @Text.take_append_slice template position _ (by omega)]
  simp only [List.append_assoc]

/-- Splicing ordered edits leaves what is before them, and puts the rest together in order. -/
theorem splice_text {template : Text} {position : Nat} {edits : List Edit}
    (ordered : Ordered template.length position edits) :
    (splice template edits).text = template.take position ++ assembled template position edits := by
  -- The edits to the right have left alone all that is before their first one.
  induction edits generalizing position with
  | nil => exact (List.take_append_drop ..).symm
  | cons edit rest ih =>
    obtain ⟨begins, ends, ordered⟩ := ordered
    show edit.apply (splice template rest).text = _
    rw [ih ordered, apply_take_append _ begins ends ordered.le_length, assembled]

/-- Splicing gives the values of all edits, in their order. -/
theorem splice_values (template : Text) (edits : List Edit) :
    (splice template edits).values = edits.flatMap Edit.values := by
  -- Each edit puts its values in front of those of the edits to its right.
  induction edits with
  | nil => rfl
  | cons edit rest ih =>
    show edit.values ++ (splice template rest).values = _
    rw [ih, List.flatMap_cons]

end Edit

/-- Occurrences whose stretches lie apart from a position on make ordered edits. -/
theorem Occurrence.ordered_edits {length position : Nat} {occurrences : List Occurrence}
    (within : position ≤ length)
    (inside : ∀ occurrence ∈ occurrences, position ≤ occurrence.start ∧
      occurrence.start ≤ occurrence.stop ∧ occurrence.stop ≤ length)
    (apart : occurrences.Pairwise fun earlier later => earlier.stop ≤ later.start) :
    Edit.Ordered length position (occurrences.map Occurrence.edit) := by
  -- The position moves on to the end of each stretch, behind which all later ones begin.
  induction occurrences generalizing position with
  | nil => exact within
  | cons occurrence rest ih =>
    obtain ⟨behind, apart⟩ := List.pairwise_cons.mp apart
    obtain ⟨⟨begins, ends, room⟩, others⟩ := List.forall_mem_cons.mp inside
    refine ⟨Int.ofNat_le.mpr begins, Int.ofNat_le.mpr ends, ih room ?_ apart⟩
    intro later member
    exact ⟨behind later member, (others later member).2⟩

namespace Resolution

/-- When occurrences replace stretches of a template that ascend and do not overlap, be they empty
or side by side, the query is what stands before the first stretch, then each replacement with what
stands between its stretch and the next one, and last what stands behind them all, without blanks
at its two ends. The values are those of each occurrence in turn, where a sequence among them stays
one value, and the occurrences are kept as they are. -/
theorem assemble_from_left_to_right {template : Text} {occurrences : List Occurrence}
    (inside : ∀ occurrence ∈ occurrences,
      occurrence.start ≤ occurrence.stop ∧ occurrence.stop ≤ template.length)
    (apart : occurrences.Pairwise fun earlier later => earlier.stop ≤ later.start) :
    assemble template occurrences =
      ⟨(Edit.assembled template 0 (occurrences.map Occurrence.edit)).trim,
        occurrences.flatMap Occurrence.values, occurrences⟩ := by
  -- Every stretch begins at the beginning of the template or behind it.
  have ordered : Edit.Ordered template.length 0 (occurrences.map Occurrence.edit) :=
    Occurrence.ordered_edits (Nat.zero_le _)
      (fun occurrence member => ⟨Nat.zero_le _, inside occurrence member⟩) apart
  have text : (Edit.splice template (occurrences.map Occurrence.edit)).text =
      Edit.assembled template 0 (occurrences.map Occurrence.edit) := by
    rw [Edit.splice_text ordered, List.take_zero, List.nil_append]
  have values : (Edit.splice template (occurrences.map Occurrence.edit)).values =
      occurrences.flatMap Occurrence.values := by
    rw [Edit.splice_values, List.flatMap_map]
    rfl
  rw [assemble, text, values]

/-- Three stretches side by side, of which the second is empty and the third is left out. -/
def adjacentOccurrences : List Occurrence :=
  [⟨⟨"rows", .plain, 4⟩, .array, 4, 9, "(?, ?)".toList,
      [.list [.int 1, .str "a"], .tuple [.int 2, .str "b"]]⟩,
    ⟨⟨"y", .plain, 9⟩, .plain, 9, 9, " OR ?".toList, [.int 3]⟩,
    ⟨⟨"*x", .optional "a".toList, 9⟩, .optional, 9, 15, [], []⟩]

/-- The sequences bound to the first stretch remain two values, before the one of the second. -/
theorem adjacent_stretches_assembled :
    (∀ occurrence ∈ adjacentOccurrences,
      occurrence.start ≤ occurrence.stop ∧ occurrence.stop ≤ " IN :rows:*x{a}; ".toList.length) ∧
    adjacentOccurrences.Pairwise (fun earlier later => earlier.stop ≤ later.start) ∧
    assemble " IN :rows:*x{a}; ".toList adjacentOccurrences =
      ⟨"IN (?, ?) OR ?;".toList,
        [.list [.int 1, .str "a"], .tuple [.int 2, .str "b"], .int 3], adjacentOccurrences⟩ := by
  -- The occurrences are apart, so what they make is put together from left to right.
  have inside : ∀ occurrence ∈ adjacentOccurrences,
      occurrence.start ≤ occurrence.stop ∧ occurrence.stop ≤ " IN :rows:*x{a}; ".toList.length := by
    decide
  have apart : adjacentOccurrences.Pairwise
      (fun earlier later => earlier.stop ≤ later.start) := by
    decide
  exact ⟨inside, apart, (assemble_from_left_to_right inside apart).trans (by rfl)⟩

end Resolution

end SqlTemplate
