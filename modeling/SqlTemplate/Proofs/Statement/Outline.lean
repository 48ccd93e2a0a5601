import SqlTemplate.Proofs.Statement.Heading
import SqlTemplate.Statement.Outline

/-! A source is cut at the headings that begin its lines, and at no other place. -/

namespace SqlTemplate

/-- A heading begins a line of a text. -/
def Heading.Occurs (text : Text) : Prop :=
  ∃ before after, text = before ++ after ∧ (before = [] ∨ before.getLast? = some '\n') ∧
    Begins after

namespace Outline

/-- Whether a line begins after a text, of which it is known whether it begins a line itself. -/
def startsLine (beginsLine : Bool) (before : Text) : Bool :=
  match before.getLast? with
  | none => beginsLine
  | some c => c = '\n'

/-- No heading begins a line of a text that goes on with a rest. -/
def Clear (beginsLine : Bool) (text rest : Text) : Prop :=
  ∀ before after, text = before ++ after → after ≠ [] → startsLine beginsLine before = true →
    ¬ Heading.Begins (after ++ rest)

/-- A line begins after a longer text as it does after its end. -/
theorem startsLine_cons (beginsLine : Bool) (c : Char) (before : Text) :
    startsLine beginsLine (c :: before) = startsLine (c = '\n') before := by
  -- Only the last character counts, which is the first one if there is no other.
  cases before with
  | nil => rfl
  | cons d before =>
    have last := List.getLast?_eq_some_getLast (List.cons_ne_nil d before)
    simp only [startsLine, List.getLast?_cons_cons, last]

/-- Whether a line begins after two texts is decided by the second, with what is known after the
first. -/
theorem startsLine_append (beginsLine : Bool) (first second : Text) :
    startsLine beginsLine (first ++ second) = startsLine (startsLine beginsLine first) second := by
  -- One character at a time goes over from the second text to what is known.
  induction first generalizing beginsLine with
  | nil => rfl
  | cons c first ih => rw [List.cons_append, startsLine_cons, startsLine_cons, ih]

/-- A line begins after a newline. -/
theorem startsLine_newline (beginsLine : Bool) (before : Text) :
    startsLine beginsLine (before ++ ['\n']) = true := by
  rw [startsLine_append]
  rfl

/-- Every line that follows a text begins after one newline or at the beginning of all. -/
theorem startsLine_true_iff {before : Text} :
    startsLine true before = true ↔ before = [] ∨ before.getLast? = some '\n' := by
  -- An empty text has no last character, and then a line begins as it does before the text.
  unfold startsLine
  cases last : before.getLast? with
  | none => simp [List.getLast?_eq_none_iff.mp last]
  | some c =>
    have present : before ≠ [] := by
      rintro rfl
      contradiction
    simp [present]

/-- A heading is cut off where it is read. -/
theorem cut_of_read? {text rest : Text} {heading : Heading}
    (read : Heading.read? text = some (heading, rest)) :
    cut true text = under heading (cut (heading.source.getLast? = some '\n') rest) := by
  cases text with
  | nil => exact absurd (Heading.length_of_read? read) (Nat.not_lt_zero _)
  | cons c text =>
    -- The cut reads the same heading, as the text begins a line.
    rw [cut]
    split
    · rename_i other after found
      rw [if_pos rfl, read] at found
      cases found
      rfl
    · rename_i found
      rw [if_pos rfl, read] at found
      contradiction

/-- A character at which no heading begins a line goes to the preamble. -/
theorem cut_cons {beginsLine : Bool} {c : Char} {text : Text}
    (none : beginsLine = true → ¬ Heading.Begins (c :: text)) :
    cut beginsLine (c :: text) = prepend c (cut (c = '\n') text) := by
  -- Either no line begins here, or no heading is read.
  have unread : (if beginsLine then Heading.read? (c :: text) else Option.none) = Option.none := by
    cases beginsLine with
    | false => rfl
    | true =>
      have unread := mt Heading.read?_isSome_iff.mp (none rfl)
      simpa using unread
  rw [cut]
  split
  · rename_i found
    rw [unread] at found
    contradiction
  · rfl

/-- A clear text is cut off as a whole before its rest. -/
theorem cut_append {beginsLine : Bool} {text rest : Text} (clear : Clear beginsLine text rest) :
    cut beginsLine (text ++ rest) =
      ⟨text ++ (cut (startsLine beginsLine text) rest).preamble,
        (cut (startsLine beginsLine text) rest).sections⟩ := by
  -- Character by character, no heading begins and the next one is looked at.
  induction text generalizing beginsLine with
  | nil => rfl
  | cons c text ih =>
    have first : beginsLine = true → ¬ Heading.Begins (c :: (text ++ rest)) := fun begins =>
      clear [] (c :: text) rfl (by simp) begins
    have others : Clear (c = '\n') text rest := by
      intro before after split present starts
      refine clear (c :: before) after (by rw [split]; rfl) present ?_
      rw [startsLine_cons]
      exact starts
    rw [List.cons_append, cut_cons first, ih others, startsLine_cons]
    rfl

end Outline

end SqlTemplate
