import SqlTemplate.Proofs.Text.Trimming

/-! A text may be read line by line, by a reader to which the blanks around a line make no
difference. -/

namespace SqlTemplate.Text

variable {α : Type}

/-- What is read from the lines of a text one by one. -/
def linewise (read : Text → Option α) (text : Text) : List α :=
  (text.pieces '\n').filterMap read

/-- A reader of single lines to which the blanks around a line make no difference. -/
structure Unindented (read : Text → Option α) : Prop where
  /-- Nothing is read from an empty line. -/
  empty : read [] = none
  /-- The same is read from lines of which trimming leaves the same. -/
  congr : ∀ {line other : Text}, '\n' ∉ line → '\n' ∉ other → line.trim = other.trim →
    read line = read other

/-- What is read from a text is read from its lines one after the other. -/
theorem linewise_append (read : Text → Option α) (front rest : Text) :
    linewise read (front ++ '\n' :: rest) = linewise read front ++ linewise read rest := by
  rw [linewise, pieces_append, List.filterMap_append]
  rfl

/-- A text without newlines is read as one line. -/
theorem linewise_of_not_mem {read : Text → Option α} {line : Text} (single : '\n' ∉ line) :
    linewise read line = (read line).toList := by
  -- The line is the only piece of the text.
  rw [linewise, pieces_of_not_mem single]
  cases found : read line <;> simp [found]

section Blanks

variable {read : Text → Option α} {blanks : Text}

/-- Blanks before a text make no difference. -/
theorem Unindented.blank_append (unindented : Unindented read) (blank : blanks.Blank)
    (text : Text) : linewise read (blanks ++ text) = linewise read text := by
  induction blanks with
  | nil => rfl
  | cons c blanks ih =>
    obtain ⟨first, others⟩ := List.forall_mem_cons.mp blank
    rw [← ih others, List.cons_append]
    generalize blanks ++ text = text
    by_cases newline : c = '\n'
    · -- An empty line comes before the others.
      subst newline
      have front := linewise_append read [] text
      rw [linewise_of_not_mem List.not_mem_nil, unindented.empty] at front
      exact front
    · -- The blank joins the first line, of which trimming leaves the same.
      have some := @pieces_ne_nil '\n' text
      obtain ⟨line, others, pieces⟩ := List.exists_cons_of_ne_nil some
      have absent : '\n' ∉ line := by
        have member : line ∈ Text.pieces '\n' text := by
          rw [pieces]
          exact List.mem_cons_self ..
        exact not_mem_of_mem_pieces member
      have same : read (c :: line) = read line :=
        unindented.congr (List.not_mem_cons_of_ne_of_not_mem (Ne.symm newline) absent) absent
          (trim_blank_append (blank_singleton first) line)
      rw [linewise, linewise, Text.pieces, if_neg newline, pieces]
      simp only [List.filterMap_cons, same]

/-- Nothing is read from blanks. -/
theorem Unindented.blank (unindented : Unindented read) (blank : blanks.Blank) :
    linewise read blanks = [] := by
  -- Blanks come before nothing, of which nothing is read.
  have whole := unindented.blank_append blank []
  rwa [List.append_nil, linewise_of_not_mem List.not_mem_nil, unindented.empty] at whole

/-- Blanks after a text make no difference. -/
theorem Unindented.append_blank (unindented : Unindented read) (blank : blanks.Blank)
    (text : Text) : linewise read (text ++ blanks) = linewise read text := by
  have single : ∀ line : Text, '\n' ∉ line →
      linewise read (line ++ blanks) = linewise read line := by
    intro line single
    by_cases newline : '\n' ∈ blanks
    · -- The blanks up to the first newline end the line, and those after it are lines of blanks.
      obtain ⟨front, rest, rfl, absent⟩ := List.eq_append_cons_of_mem newline
      obtain ⟨before, after⟩ := blank.of_append
      have later : Blank rest := (List.forall_mem_cons.mp after).2
      have joined : '\n' ∉ line ++ front := by simp [single, absent]
      rw [← List.append_assoc, linewise_append, unindented.blank later, List.append_nil,
        linewise_of_not_mem joined, linewise_of_not_mem single,
        unindented.congr joined single (trim_append_blank before line)]
    · have joined : '\n' ∉ line ++ blanks := by simp [single, newline]
      rw [linewise_of_not_mem joined, linewise_of_not_mem single,
        unindented.congr joined single (trim_append_blank blank line)]
  by_cases newline : '\n' ∈ text
  · -- The blanks follow the last line of the text.
    obtain ⟨front, last, rfl, absent⟩ := exists_last newline
    rw [List.append_assoc, List.cons_append, linewise_append, linewise_append,
      single last absent]
  · exact single text newline

/-- What trimming takes away makes no difference. -/
theorem Unindented.trim (unindented : Unindented read) (text : Text) :
    linewise read text.trim = linewise read text := by
  -- Reading makes nothing of the blanks on either side.
  obtain ⟨before, after, front, back, whole⟩ := trim_split text
  conv_rhs => rw [whole, unindented.append_blank back, unindented.blank_append front]

/-- Blanks over several lines separate what is before them from what is after them. -/
theorem Unindented.append_lines (unindented : Unindented read) (blank : blanks.Blank)
    (newline : '\n' ∈ blanks) (front rest : Text) :
    linewise read (front ++ (blanks ++ rest)) = linewise read front ++ linewise read rest := by
  -- The lines are cut at the first newline: the blanks before it end one line, and those after it
  -- begin others.
  obtain ⟨first, later, rfl, -⟩ := List.eq_append_cons_of_mem newline
  obtain ⟨before, after⟩ := blank.of_append
  have split : front ++ ((first ++ '\n' :: later) ++ rest) =
      (front ++ first) ++ '\n' :: (later ++ rest) := by simp
  rw [split, linewise_append, unindented.append_blank before,
    unindented.blank_append (List.forall_mem_cons.mp after).2]

end Blanks

end SqlTemplate.Text
