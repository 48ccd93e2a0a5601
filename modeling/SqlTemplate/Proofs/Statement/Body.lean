import SqlTemplate.Proofs.Statement.Gap
import SqlTemplate.Proofs.Statement.Partition
import SqlTemplate.Statement.Printer

/-! A body is read as its part without the comments before it and the blanks around it, and only
such parts are read. -/

namespace SqlTemplate

/-- A named template as it is read from a source. -/
structure NamedTemplate.Canonical (template : NamedTemplate) : Prop where
  /-- The name is an identifier. -/
  identifier : Statement.isIdentifier template.1.toList = true
  /-- The template is not empty. -/
  present : template.2 ≠ []
  /-- No blanks are at its ends. -/
  trimmed : template.2.trim = template.2
  /-- Its first line is no comment. -/
  uncommented : ¬ ['-', '-'] <+: template.2.takeWhile (· ≠ '\n')
  /-- No heading begins one of its lines. -/
  unheaded : ¬ Heading.Occurs template.2

namespace Statement

/-- A template with its newlines around it is what is read from them. -/
theorem ofBody_of_canonical {template : NamedTemplate} (canonical : template.Canonical) :
    ofBody ('\n' :: template.2 ++ ['\n']) = template.2 := by
  have trimmed := Text.trim_eq_self_iff.mp canonical.trimmed
  have newline : Text.Blank ['\n'] := Text.blank_singleton (by decide)
  -- The newlines around the template are taken off, and then its first lines are looked at.
  have body : Text.trim ('\n' :: template.2 ++ ['\n']) = template.2 :=
    @Text.trim_append ['\n'] template.2 ['\n'] newline newline trimmed
  have whole := @Text.intercalate_pieces '\n' template.2
  have some := @Text.pieces_ne_nil '\n' template.2
  -- The first line is kept, so all are.
  have kept : (Text.pieces '\n' template.2).dropWhile isCommentOrBlank =
      Text.pieces '\n' template.2 := by
    obtain ⟨line, others, pieces⟩ := List.exists_cons_of_ne_nil some
    obtain ⟨rest, joined, follows⟩ := @Text.intercalate_cons '\n' line others
    rw [pieces, joined] at whole
    rw [pieces]
    refine List.dropWhile_cons_of_neg ?_
    have uncommented := mt dashes_prefix_takeWhile.mpr canonical.uncommented
    simp [kept_of_uncommented canonical.present trimmed uncommented whole follows]
  rw [ofBody, body, kept, whole, canonical.trimmed]

/-- No heading begins a line of what is read from the preamble of an outline. -/
theorem not_occurs_ofBody {beginsLine : Bool} {text : Text} {outline : Outline}
    (outlines : Outline.Outlines beginsLine text outline)
    (present : ofBody outline.preamble ≠ []) : ¬ Heading.Occurs (ofBody outline.preamble) := by
  obtain ⟨rest, -, clear, ends⟩ := outlines.exists_rest
  obtain ⟨before, after, blank, whole⟩ := (carved_ofBody present).exists_split
  have uncommented := uncommented_ofBody present
  have trimmed := trimmed_ofBody outline.preamble
  generalize outline.preamble = preamble at *
  generalize ofBody preamble = sql at *
  -- What comes after the template ends its last line.
  have ended : Heading.EndsLine (after ++ rest) := by
    rcases ends with rfl | starts
    · exact .intro blank (Or.inl rfl)
    · rw [whole, Outline.startsLine_append] at starts
      rcases List.eq_nil_or_concat after with rfl | ⟨others, c, rfl⟩
      · -- The template would end with a newline.
        have starts : Outline.startsLine _ sql = true :=
          (Outline.startsLine_append ..).symm.trans starts
        have last := List.getLast?_eq_some_getLast present
        have solid := trimmed.last _ last
        rw [Outline.startsLine, last] at starts
        rw [decide_eq_true_eq.mp starts] at solid
        contradiction
      · -- The blanks after the template end with the newline before the heading.
        rw [List.concat_eq_append, Outline.startsLine_append] at starts
        obtain rfl : c = '\n' := by simpa [Outline.startsLine] using starts
        rw [List.concat_eq_append] at blank ⊢
        rw [List.append_assoc]
        exact .intro blank.of_append.1 (Or.inr rfl)
  rintro ⟨first, last, split, lines, begins⟩
  rcases lines with rfl | newline
  · -- A heading at the beginning of the template would be a comment there.
    rw [List.nil_append] at split
    rw [← split] at begins
    exact uncommented (begins.dashes trimmed.first)
  · -- A heading at a later line would have been cut off.
    obtain ⟨others, rfl⟩ := List.getLast?_eq_some_iff.mp newline
    rw [split] at whole
    refine clear (before ++ (others ++ ['\n'])) (last ++ after) (by simp [whole]) ?_ ?_ ?_
    · intro empty
      obtain ⟨rfl, -⟩ := List.append_eq_nil_iff.mp empty
      exact Heading.not_begins_nil begins
    · rw [← List.append_assoc]
      exact Outline.startsLine_newline ..
    · rw [List.append_assoc]
      exact begins.append ended

end Statement

end SqlTemplate
