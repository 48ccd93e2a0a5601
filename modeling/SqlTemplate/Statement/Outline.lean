import SqlTemplate.Statement.Heading

/-! A source falls into a preamble and sections, each a heading with the text under it. -/

namespace SqlTemplate

/-- A heading with the text under it. -/
structure Section where
  /-- The heading. -/
  heading : Heading
  /-- The text up to the next heading or the end. -/
  body : Text

/-- A source cut at its headings. -/
structure Outline where
  /-- The text before the first heading. -/
  preamble : Text
  /-- The sections, in order. -/
  sections : List Section

namespace Outline

/-- An outline with one more character in front of its preamble. -/
def prepend (c : Char) (outline : Outline) : Outline :=
  ⟨c :: outline.preamble, outline.sections⟩

/-- An outline in which a heading precedes everything. -/
def under (heading : Heading) (outline : Outline) : Outline :=
  ⟨[], ⟨heading, outline.preamble⟩ :: outline.sections⟩

/-- The outline of a text, of which it is known whether it begins a line. A heading begins a line,
and of the headings that could begin a line the earliest one counts. -/
def cut (beginsLine : Bool) (text : Text) : Outline :=
  match text with
  | [] => ⟨[], []⟩
  | c :: rest =>
    let heading? := if beginsLine then Heading.read? (c :: rest) else none
    match found : heading? with
    | some (heading, after) =>
      have : after.length < (c :: rest).length := by
        simp only [heading?] at found
        split at found
        · exact Heading.length_of_read? found
        · contradiction
      under heading (cut (heading.source.getLast? = some '\n') after)
    | none => prepend c (cut (c = '\n') rest)
termination_by text.length
decreasing_by
  -- A heading takes at least one character, and so does what is no heading.
  · simp only [List.length_cons] at this ⊢; omega
  · simp only [List.length_cons]; omega

/-- The outline of a source. -/
def ofText (source : Text) : Outline :=
  cut true source

end Outline

end SqlTemplate
