import SqlTemplate.Proofs.Statement.Sites

/-! The line that is given for a statement is the one where its heading begins, with the blank lines
before it, which is not always the line of its dashes. -/

namespace SqlTemplate

/-- The number of the line that a position of a text is on, counted from zero. -/
def Text.lineAt (text : Text) (position : Nat) : Nat :=
  (text.take position).count '\n'

namespace Site

/-- The blanks of a heading before its dashes. -/
def margin (site : Site) : Text :=
  site.part.heading.source.takeWhile isBlank

/-- The position of the dashes of a heading in the source. -/
def dashes (site : Site) : Nat :=
  site.before.length + site.margin.length

end Site

/-- Every site begins a line, and its heading has all its parts. -/
theorem Outline.Outlines.starts {beginsLine : Bool} {text before : Text} {outline : Outline}
    (outlines : Outlines beginsLine text outline) (begins : startsLine true before = beginsLine) :
    ∀ site ∈ Site.following (before ++ outline.preamble) outline.sections,
      startsLine true site.before = true ∧
        ∃ parts : Heading.Parts, parts.heading = site.part.heading := by
  induction outlines generalizing before with
  | bare clear => simp [Site.following]
  | @headed beginsLine preamble rest parts outline clear starts leaves others ih =>
    intro site member
    rcases List.mem_cons.mp member with rfl | later
    · exact ⟨by rw [startsLine_append, begins, starts], parts, rfl⟩
    · -- A line begins after the heading if the heading ends with a newline.
      have present : parts.heading.source ≠ [] := by
        simp [Heading.Parts.heading, Heading.Parts.core]
      have next : startsLine true (before ++ preamble ++ parts.heading.source) =
          decide (parts.heading.source.getLast? = some '\n') := by
        rw [startsLine_append, startsLine, List.getLast?_eq_some_getLast present]
        simp
      exact ih next site (by simpa using later)

section Lines

variable {source : Text} {site : Site}

/-- The dashes of a heading come after the text before the heading and its margin. -/
theorem Site.exists_dashes (member : site ∈ (Outline.ofText source).sites) :
    Outline.startsLine true site.before = true ∧ Text.Blank site.margin ∧
      ∃ more, source = (site.before ++ site.margin) ++ '-' :: '-' :: more := by
  obtain ⟨starts, parts, same⟩ :=
    @Outline.Outlines.starts true source [] _ (Outline.outlines_cut true source) rfl site member
  obtain ⟨rest, whole⟩ := Outline.exists_rest_of_mem_sites member
  rw [← same] at whole
  -- The blanks before the first character that is none are the margin, as no dash is a blank.
  have margin : site.margin = parts.margin := by
    have dash : isBlank '-' = false := by decide
    rw [Site.margin, ← same, Heading.Parts.heading, List.takeWhile_append_of_pos parts.margined,
      Heading.Parts.core, List.cons_append, List.takeWhile_cons_of_neg (by simp [dash]),
      List.append_nil]
  rw [margin]
  refine ⟨starts, parts.margined,
    parts.core.drop 2 ++ (parts.after ++ (site.part.body ++ rest)), ?_⟩
  rw [whole]
  simp [Heading.Parts.heading, Heading.Parts.core]

/-- What a heading's line has before the dashes is of blanks. -/
theorem blank_afterLast {before margin : Text}
    (starts : Outline.startsLine true before = true) (blank : margin.Blank) :
    Text.Blank ((before ++ margin).reverse.takeWhile (· ≠ '\n')).reverse := by
  -- Read backwards, the blanks end at the newline before them, if not earlier.
  have stopped : before.reverse.takeWhile (· ≠ '\n') = [] := by
    rcases Outline.startsLine_true_iff.mp starts with rfl | newline
    · rfl
    · obtain ⟨front, rfl⟩ := List.getLast?_eq_some_iff.mp newline
      simp
  intro c member
  rw [List.mem_reverse, List.reverse_append, List.takeWhile_append, stopped, List.append_nil]
    at member
  refine blank c (List.mem_reverse.mp ?_)
  split at member
  · exact member
  · exact (List.takeWhile_prefix _).mem member

/-- The line that the dashes of a heading are on comes as many lines after the one that is given for
the heading as there are newlines before the dashes. -/
theorem lineAt_dashes (member : site ∈ (Outline.ofText source).sites) :
    source.lineAt site.dashes = site.line + site.margin.count '\n' ∧
      ∃ blanks rest, Text.Blank blanks ∧
        (source.pieces '\n')[source.lineAt site.dashes]? = some (blanks ++ '-' :: '-' :: rest) := by
  obtain ⟨starts, blank, more, whole⟩ := Site.exists_dashes member
  -- The newlines before the dashes are those before the heading and those in its margin.
  have position : source.lineAt site.dashes = (site.before ++ site.margin).count '\n' := by
    rw [Text.lineAt, whole, Site.dashes, ← List.length_append, List.take_left]
  refine ⟨by rw [position, List.count_append, Site.line], _, more.takeWhile (· ≠ '\n'),
    blank_afterLast starts blank, ?_⟩
  have piece := @Text.getElem?_pieces_count '\n' (site.before ++ site.margin) ('-' :: '-' :: more)
  rw [position, whole, piece]
  rfl

/-- The line of the dashes is given just when no newline comes before them in the heading. -/
theorem line_eq_lineAt_iff (member : site ∈ (Outline.ofText source).sites) :
    site.line = source.lineAt site.dashes ↔ '\n' ∉ site.margin := by
  -- The two numbers are as far apart as the margin has newlines.
  rw [(lineAt_dashes member).1, ← List.count_eq_zero]
  omega

end Lines

namespace Statement

/-- A source that is read gives a statement or a warning for every heading, with the number of the
line where the heading begins. That is the line of the dashes just when no newline comes before them
in the heading; otherwise the dashes are on a later line, by one line for each newline. -/
theorem parseFile_lines {file : String} {source : Text} {statements : List Statement}
    (made : (parseFile file source).outcome = .ok statements) :
    let sites := (Outline.ofText source).sites
    statements = sites.filterMap Site.statement? ∧
      (parseFile file source).events = sites.filterMap (Site.warning? file) ∧
      ∀ site ∈ sites,
        ((∀ statement ∈ site.statement?, statement.line = site.line) ∧
          ∀ event ∈ site.warning? file, event =
            .statementSkipped (String.ofList site.part.heading.name) (site.line + 1) file) ∧
        (∃ blanks rest, Text.Blank blanks ∧
          (source.pieces '\n')[source.lineAt site.dashes]? = some (blanks ++ '-' :: '-' :: rest)) ∧
        source.lineAt site.dashes = site.line + site.margin.count '\n' ∧
        (site.line = source.lineAt site.dashes ↔ '\n' ∉ site.margin) := by
  intro sites
  obtain ⟨read, noted⟩ := parseFile_eq_ok made
  refine ⟨read, noted, fun site member => ⟨⟨?_, ?_⟩, (lineAt_dashes member).2,
    (lineAt_dashes member).1, line_eq_lineAt_iff member⟩⟩
  -- A site has a statement or a warning, and either is made with its line.
  · intro statement found
    rw [Site.statement?] at found
    split at found
    · cases found
    · cases found
      rfl
  · intro event found
    rw [Site.warning?] at found
    split at found
    · cases found
      rfl
    · cases found

/-- Headings with no blank line before them are given the lines that they are on. -/
theorem packed_headings_numbered :
    ∃ statements, (parseFile "one.sql" "--name:a\n--name:b\nX".toList).outcome = .ok statements ∧
      statements.map Statement.line = [1] ∧
      ∀ site ∈ (Outline.ofText "--name:a\n--name:b\nX".toList).sites,
        site.line = Text.lineAt "--name:a\n--name:b\nX".toList site.dashes := by
  -- The first of the two sections has no text, so there is one statement, which is on the second
  -- line.
  have outline : Outline.ofText "--name:a\n--name:b\nX".toList =
      ⟨[], [⟨⟨"--name:a".toList, "a".toList⟩, "\n".toList⟩,
        ⟨⟨"--name:b".toList, "b".toList⟩, "\nX".toList⟩]⟩ := by with_unfolding_all rfl
  have empty : ofBody "\n".toList = [] := by with_unfolding_all rfl
  have body : ofBody "\nX".toList = "X".toList := by with_unfolding_all rfl
  have given : ofSection [] 1 ⟨⟨"--name:b".toList, "b".toList⟩, "\nX".toList⟩ "X".toList =
      .ok ⟨"b", 1, "X".toList⟩ := by with_unfolding_all rfl
  have made : (parseFile "one.sql" "--name:a\n--name:b\nX".toList).outcome =
      .ok [⟨"b", 1, "X".toList⟩] := by
    rw [outcome_parseFile_eq_ok_iff, outcome_parse_eq_ok_iff, outline]
    refine ⟨by simp, by decide, ?_, by simp⟩
    have first : 0 + List.count '\n' "--name:a".toList + List.count '\n' "\n".toList = 1 := by
      decide
    dsimp only
    rw [List.count_nil, outcome_ofSections_cons, empty, if_pos rfl, first,
      outcome_ofSections_cons, body, if_neg (by simp), given]
    rfl
  -- No heading has anything before its dashes.
  have bare : ∀ site ∈ (Outline.ofText "--name:a\n--name:b\nX".toList).sites,
      '\n' ∉ site.margin := by
    rw [outline]
    simp only [Outline.sites, Site.following, List.forall_mem_cons, Site.margin]
    decide
  exact ⟨_, made, rfl, fun site member =>
    ((parseFile_lines made).2.2 site member).2.2.2.mpr (bare site member)⟩

/-- A blank line before a heading belongs to the heading, so the statement under it, and the warning
of a heading without one, are given the line of that blank line. -/
theorem blank_line_miscounted :
    (parseFile "one.sql" "\n--name:a\n\n--name:b\nX".toList).outcome =
        .ok [⟨"b", 2, "X".toList⟩] ∧
      (parseFile "one.sql" "\n--name:a\n\n--name:b\nX".toList).events =
        [.statementSkipped "a" 1 "one.sql"] ∧
      Text.pieces '\n' "\n--name:a\n\n--name:b\nX".toList =
        ["".toList, "--name:a".toList, "".toList, "--name:b".toList, "X".toList] := by
  -- Each heading takes a blank line before it along, so that its count begins there.
  have outline : Outline.ofText "\n--name:a\n\n--name:b\nX".toList =
      ⟨[], [⟨⟨"\n--name:a\n".toList, "a".toList⟩, []⟩,
        ⟨⟨"\n--name:b".toList, "b".toList⟩, "\nX".toList⟩]⟩ := by with_unfolding_all rfl
  have empty : ofBody [] = [] := by with_unfolding_all rfl
  have body : ofBody "\nX".toList = "X".toList := by with_unfolding_all rfl
  have given : ofSection [] 2 ⟨⟨"\n--name:b".toList, "b".toList⟩, "\nX".toList⟩ "X".toList =
      .ok ⟨"b", 2, "X".toList⟩ := by with_unfolding_all rfl
  have made : (parseFile "one.sql" "\n--name:a\n\n--name:b\nX".toList).outcome =
      .ok [⟨"b", 2, "X".toList⟩] := by
    rw [outcome_parseFile_eq_ok_iff, outcome_parse_eq_ok_iff, outline]
    refine ⟨by simp, by decide, ?_, by simp⟩
    have first : 0 + List.count '\n' "\n--name:a\n".toList + List.count '\n' [] = 2 := by decide
    dsimp only
    rw [List.count_nil, outcome_ofSections_cons, empty, if_pos rfl, first,
      outcome_ofSections_cons, body, if_neg (by simp), given]
    rfl
  -- The first heading is warned of, and the second one is not.
  refine ⟨made, ?_, by decide⟩
  rw [(parseFile_eq_ok made).2, outline]
  simp only [Outline.sites, Site.following, Site.warning?, List.filterMap_cons, empty, body]
  rfl

end Statement

end SqlTemplate
