import SqlTemplate.Proofs.Statement.Outline

/-! A source falls without a gap into a preamble and sections, whose headings are the earliest ones
that begin a line, each as long as it can be. -/

namespace SqlTemplate

namespace Heading

/-- A heading part by part, with the blanks before, between and after its parts. -/
structure Parts where
  /-- The blanks before the dashes. -/
  margin : Text
  /-- The blanks between the dashes and the word. -/
  gap : Text
  /-- The word, in any case. -/
  word : Text
  /-- The blanks between the word and the colon. -/
  pause : Text
  /-- The blanks between the colon and the name. -/
  space : Text
  /-- The name. -/
  name : Text
  /-- The blanks after the name that belong to the heading. -/
  after : Text
  /-- What is before the dashes is of blanks. -/
  margined : margin.Blank
  /-- What is between the dashes and the word is of blanks. -/
  gapped : gap.Blank
  /-- The word is the one of headings. -/
  spelled : word.map Char.toLower = ['n', 'a', 'm', 'e']
  /-- What is between the word and the colon is of blanks. -/
  paused : pause.Blank
  /-- What is between the colon and the name is of blanks. -/
  spaced : space.Blank
  /-- The name is one that a heading may have. -/
  named : Names name
  /-- What is after the name is of blanks. -/
  ended : after.Blank

/-- What a heading leaves of the text that it begins: all from the last newline of the blanks after
its name, or nothing when the blanks go on to the end of the text. -/
inductive Leaves : Text → Prop
  /-- The text ends with the heading. -/
  | nothing : Leaves []
  /-- One newline ends the heading, and no other comes before the next character that is no
  blank. -/
  | newline {blanks more : Text} {c : Char} (blank : blanks.Blank) (single : '\n' ∉ blanks)
    (solid : isBlank c = false) : Leaves ('\n' :: (blanks ++ c :: more))

namespace Parts

/-- The text of a heading from its dashes to the end of its name. -/
def core (parts : Parts) : Text :=
  '-' :: '-' :: (parts.gap ++ (parts.word ++ (parts.pause ++ ':' :: (parts.space ++ parts.name))))

/-- The heading that has the parts. -/
def heading (parts : Parts) : Heading :=
  ⟨parts.margin ++ (parts.core ++ parts.after), parts.name⟩

end Parts

/-- The reader of the end of a line leaves what a heading leaves. -/
theorem endOfLine?_eq_some_iff {text rest : Text} :
    endOfLine? text = some rest ↔
      ∃ blanks, Text.Blank blanks ∧ text = blanks ++ rest ∧ Leaves rest := by
  constructor
  · intro read
    have whole := List.takeWhile_append_dropWhile (p := isBlank) (l := text)
    have blank : Text.Blank (text.takeWhile isBlank) := fun c member =>
      List.all_eq_true.mp List.all_takeWhile c member
    have stopped := List.head?_dropWhile_not isBlank text
    rw [endOfLine?] at read
    split at read
    · rename_i emptied
      cases read
      exact ⟨text.takeWhile isBlank, blank, by rw [← List.isEmpty_iff.mp emptied, whole], .nothing⟩
    · rename_i more
      split at read
      · -- The heading ends before the last newline of the blanks.
        rename_i newline
        obtain ⟨front, last, split, single⟩ := Text.exists_last (by simpa using newline)
        obtain ⟨c, later, left⟩ := List.exists_cons_of_ne_nil (mt List.isEmpty_iff.mpr more)
        rw [split] at blank
        rw [split, Text.afterLast_eq single, left] at read
        rw [left] at stopped
        cases read
        refine ⟨front, blank.of_append.1, ?_, ?_⟩
        · rw [← whole, split, left]
          simp
        · exact .newline (@Text.Blank.of_append ['\n'] last blank.of_append.2).2 single
            (by simpa using stopped)
      · contradiction
  · rintro ⟨blanks, blank, rfl, leaves⟩
    cases leaves with
    | nothing =>
      -- Nothing but blanks is left, all of which belong to the heading.
      have emptied : (blanks ++ []).dropWhile isBlank = [] := by
        rw [List.append_nil]
        exact List.dropWhile_eq_nil_iff.mpr blank
      rw [endOfLine?, emptied]
      rfl
    | @newline last more c also single solid =>
      have newline : isBlank '\n' = true := by decide
      have margin : Text.Blank (blanks ++ '\n' :: last) :=
        blank.append (List.forall_mem_cons.mpr ⟨newline, also⟩)
      have split : blanks ++ '\n' :: (last ++ c :: more) =
          (blanks ++ '\n' :: last) ++ c :: more := by simp
      -- The blanks are those before the newline and those after it.
      have taken : (blanks ++ '\n' :: (last ++ c :: more)).takeWhile isBlank =
          blanks ++ '\n' :: last := by
        rw [split, List.takeWhile_append_of_pos margin,
          List.takeWhile_cons_of_neg (by simp [solid]), List.append_nil]
      have left : (blanks ++ '\n' :: (last ++ c :: more)).dropWhile isBlank = c :: more := by
        rw [split, List.dropWhile_append_of_pos margin,
          List.dropWhile_cons_of_neg (by simp [solid])]
      rw [endOfLine?, taken, left, Text.afterLast_eq single]
      simp

/-- The parts of a heading are read from the text that they begin. -/
theorem Parts.read?_append (parts : Parts) {rest : Text} (leaves : Leaves rest) :
    read? (parts.heading.source ++ rest) = some (parts.heading, rest) := by
  have line : endOfLine? (parts.after ++ rest) = some rest :=
    endOfLine?_eq_some_iff.mpr ⟨parts.after, parts.ended, rfl, leaves⟩
  have ended := endOfLine?_isSome_iff.mp (Option.isSome_iff_exists.mpr ⟨rest, line⟩)
  have read := parts?_of_parts parts.margined parts.gapped parts.spelled parts.paused parts.spaced
    parts.named ended
  -- The text is the parts of the heading one after the other.
  have whole : parts.heading.source ++ rest = parts.margin ++ '-' :: '-' ::
      (parts.gap ++ (parts.word ++ (parts.pause ++ ':' ::
        (parts.space ++ (parts.name ++ (parts.after ++ rest)))))) := by
    simp [Parts.heading, Parts.core]
  rw [line, ← whole] at read
  rw [Heading.read?, read]
  simp only [Option.map_some, Option.bind_eq_bind, Option.bind_some, List.length_append,
    Nat.add_sub_cancel, List.take_left]
  rfl

/-- A heading is read from a text just when the text begins with its parts and goes on with what a
heading leaves. -/
theorem read?_eq_some_iff {text rest : Text} {heading : Heading} :
    read? text = some (heading, rest) ↔
      ∃ parts : Parts, parts.heading = heading ∧ text = heading.source ++ rest ∧ Leaves rest := by
  constructor
  · intro read
    have begins := read?_isSome_iff.mp (Option.isSome_iff_exists.mpr ⟨_, read⟩)
    cases begins with
    | @intro margin gap word pause space name tail margined gapped spelled paused spaced named
        ended =>
      -- The reader stops somewhere in the blanks after the name, which are cut there.
      obtain ⟨left, line⟩ := Option.isSome_iff_exists.mp (endOfLine?_isSome_iff.mpr ended)
      obtain ⟨after, blank, rfl, leaves⟩ := endOfLine?_eq_some_iff.mp line
      let parts : Parts :=
        ⟨margin, gap, word, pause, space, name, after, margined, gapped, spelled, paused, spaced,
          named, blank⟩
      have whole : parts.heading.source ++ left = margin ++ '-' :: '-' ::
          (gap ++ (word ++ (pause ++ ':' :: (space ++ (name ++ (after ++ left)))))) := by
        simp [parts, Parts.heading, Parts.core]
      rw [← whole, parts.read?_append leaves] at read
      cases read
      exact ⟨parts, rfl, whole.symm, leaves⟩
  · -- The parts are what the reader takes.
    rintro ⟨parts, rfl, rfl, leaves⟩
    exact parts.read?_append leaves

end Heading

namespace Outline

/-- One more character before a clear text leaves it clear when no heading begins there. -/
theorem Clear.cons {beginsLine : Bool} {c : Char} {text rest : Text}
    (none : beginsLine = true → ¬ Heading.Begins (c :: (text ++ rest)))
    (clear : Clear (c = '\n') text rest) : Clear beginsLine (c :: text) rest := by
  -- The place to look at is before the new character or behind it.
  intro before after split present starts
  cases before with
  | nil =>
    rw [List.nil_append] at split
    rw [← split]
    exact none starts
  | cons d before =>
    obtain ⟨rfl, others⟩ := List.cons.inj split
    rw [startsLine_cons] at starts
    exact clear before after others present starts

/-- How a text falls into a preamble and sections, of which it is known whether it begins a line. -/
inductive Outlines : Bool → Text → Outline → Prop
  /-- Without a heading all of it is preamble. -/
  | bare {beginsLine : Bool} {text : Text} (clear : Clear beginsLine text []) :
    Outlines beginsLine text ⟨text, []⟩
  /-- The first heading that begins a line ends the preamble, and what it leaves is its body, up to
  the next heading, and the other sections. -/
  | headed {beginsLine : Bool} {preamble rest : Text} {parts : Heading.Parts} {outline : Outline}
    (clear : Clear beginsLine preamble (parts.heading.source ++ rest))
    (starts : startsLine beginsLine preamble = true) (leaves : Heading.Leaves rest)
    (others : Outlines (parts.heading.source.getLast? = some '\n') rest outline) :
    Outlines beginsLine (preamble ++ (parts.heading.source ++ rest))
      ⟨preamble, ⟨parts.heading, outline.preamble⟩ :: outline.sections⟩

/-- A character at which no heading begins goes in front of the preamble. -/
theorem Outlines.cons {beginsLine : Bool} {c : Char} {text : Text} {outline : Outline}
    (none : beginsLine = true → ¬ Heading.Begins (c :: text))
    (outlines : Outlines (c = '\n') text outline) :
    Outlines beginsLine (c :: text) (prepend c outline) := by
  -- A preamble that is longer by one character is still clear, and nothing else changes.
  cases outlines with
  | bare clear => exact .bare (clear.cons (by rwa [List.append_nil]))
  | headed clear starts leaves others =>
    exact .headed (clear.cons none) (by rwa [startsLine_cons]) leaves others

/-- A text is cut as it falls. -/
theorem outlines_cut (beginsLine : Bool) (text : Text) :
    Outlines beginsLine text (cut beginsLine text) := by
  -- The induction is on the length, as a heading takes more than one character.
  induction size : text.length using Nat.strongRecOn generalizing beginsLine text with
  | _ count ih =>
    cases text with
    | nil =>
      have empty : cut beginsLine [] = ⟨[], []⟩ := by rw [cut]
      rw [empty]
      refine .bare fun before after split present => ?_
      exact absurd (List.append_eq_nil_iff.mp split.symm).2 present
    | cons c text =>
      by_cases begins : beginsLine = true ∧ Heading.Begins (c :: text)
      · obtain ⟨rfl, begins⟩ := begins
        obtain ⟨⟨heading, rest⟩, read⟩ :=
          Option.isSome_iff_exists.mp (Heading.read?_isSome_iff.mpr begins)
        have shorter := Heading.length_of_read? read
        obtain ⟨parts, rfl, whole, leaves⟩ := Heading.read?_eq_some_iff.mp read
        rw [cut_of_read? read, whole]
        have none : Clear true [] (parts.heading.source ++ rest) :=
          fun before after split present =>
            absurd (List.append_eq_nil_iff.mp split.symm).2 present
        exact .headed none rfl leaves (ih rest.length (by omega) _ rest rfl)
      · -- Without a heading here, the character goes to what precedes the next one.
        have none : beginsLine = true → ¬ Heading.Begins (c :: text) := fun starts other =>
          begins ⟨starts, other⟩
        rw [List.length_cons] at size
        rw [cut_cons none]
        exact (ih text.length (by omega) _ text rfl).cons none

/-- A text falls in one way only, which is the one that it is cut in. -/
theorem outlines_iff {beginsLine : Bool} {text : Text} {outline : Outline} :
    Outlines beginsLine text outline ↔ cut beginsLine text = outline := by
  -- A clear text is cut into its own characters, so the cut finds just the headings of the outline.
  constructor
  · intro outlines
    induction outlines with
    | @bare beginsLine text clear =>
      have whole := cut_append clear
      rw [List.append_nil] at whole
      rw [whole, cut]
      simp
    | headed clear starts leaves _ ih =>
      rw [cut_append clear, starts, cut_of_read? (Heading.Parts.read?_append _ leaves), ih]
      simp [under]
  · rintro rfl
    exact outlines_cut beginsLine text

/-- The preamble of an outline is a clear beginning of the text, and a heading begins a line after
it if anything does. -/
theorem Outlines.exists_rest {beginsLine : Bool} {text : Text} {outline : Outline}
    (outlines : Outlines beginsLine text outline) :
    ∃ rest, text = outline.preamble ++ rest ∧ Clear beginsLine outline.preamble rest ∧
      (rest = [] ∨ startsLine beginsLine outline.preamble = true) := by
  -- Without a heading the preamble is all there is.
  cases outlines with
  | bare clear => exact ⟨[], by simp, clear, Or.inl rfl⟩
  | headed clear starts leaves others => exact ⟨_, rfl, clear, Or.inr starts⟩

/-- The body of every section is the preamble of an outline of its own. -/
theorem Outlines.exists_body {beginsLine : Bool} {text : Text} {outline : Outline}
    (outlines : Outlines beginsLine text outline) :
    ∀ part ∈ outline.sections, ∃ begins rest other,
      Outlines begins rest other ∧ part.body = other.preamble := by
  -- What follows a heading is outlined on its own, and the body is its preamble.
  induction outlines with
  | bare clear => simp
  | headed clear starts leaves others ih =>
    exact List.forall_mem_cons.mpr ⟨⟨_, _, _, others, rfl⟩, ih⟩

/-- Nothing of a text is lost when it is cut. -/
theorem Outlines.whole {beginsLine : Bool} {text : Text} {outline : Outline}
    (outlines : Outlines beginsLine text outline) :
    text = outline.preamble ++
      outline.sections.flatMap fun part => part.heading.source ++ part.body := by
  -- The preamble and the first section are followed by what the rest consists of.
  induction outlines with
  | bare clear => simp
  | headed clear starts leaves others ih =>
    rw [List.flatMap_cons, List.append_assoc, ← ih]

end Outline

end SqlTemplate
