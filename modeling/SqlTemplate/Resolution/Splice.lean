import SqlTemplate.Resolution.Occurrence

/-! Replacements are spliced from right to left, so positions not yet reached stay valid. -/

namespace SqlTemplate

/-- A stretch of a text to be replaced; an offset below zero counts from the end of the text. -/
structure Edit where
  /-- Where the stretch begins. -/
  start : Int
  /-- Where the stretch ends. -/
  stop : Int
  /-- The text that takes its place. -/
  replacement : Text
  /-- The values bound to the markers of the replacement. -/
  values : List Value

/-- The edit that an occurrence makes. -/
def Occurrence.edit (occurrence : Occurrence) : Edit :=
  ⟨occurrence.start, occurrence.stop, occurrence.replacement, occurrence.values⟩

namespace Edit

/-- A text after one edit. -/
def apply (edit : Edit) (text : Text) : Text :=
  text.take (Text.clamp text.length edit.start) ++ edit.replacement ++
    text.drop (Text.clamp text.length edit.stop)

/-- A text after all edits, the last one first, beside the values in the order of the edits. -/
def splice (template : Text) (edits : List Edit) : Markers :=
  edits.foldr (fun edit done => ⟨edit.apply done.text, edit.values ++ done.values⟩) ⟨template, []⟩

end Edit

/-- The query of a template with the values to bind to its markers. -/
structure Resolution where
  /-- The query, without blanks at its two ends. -/
  query : Text
  /-- The values, in the order of the markers. -/
  values : List Value
  /-- The occurrences that the query was made from. -/
  occurrences : List Occurrence

namespace Resolution

/-- The names of the placeholders, in their order. -/
def placeholderNames (resolution : Resolution) : List String :=
  resolution.occurrences.map fun occurrence => occurrence.placeholder.name

/-- The resolution of a template by its occurrences. -/
def assemble (template : Text) (occurrences : List Occurrence) : Resolution :=
  let spliced := Edit.splice template (occurrences.map Occurrence.edit)
  ⟨spliced.text.trim, spliced.values, occurrences⟩

end Resolution

end SqlTemplate
