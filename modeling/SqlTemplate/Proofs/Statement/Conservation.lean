import Mathlib.Data.List.ReduceOption
import SqlTemplate.Proofs.Statement.Gap
import SqlTemplate.Proofs.Statement.Sites

/-! No statement text of a source is lost when it is read, and none is made up. -/

namespace SqlTemplate.Statement

/-- What a section yields. -/
inductive Yields (part : Section) : Option NamedTemplate → Prop
  /-- A body of blank lines and comments yields no template. -/
  | nothing (idle : Idle part.body) : Yields part none
  /-- Any other body yields one, under the name of the heading. -/
  | template {sql : Text} (carved : Carved part.body sql) :
    Yields part (some (String.ofList (normalName part.heading.name), sql))

/-- A section yields what is read at its site. -/
theorem yields_statement? (site : Site) :
    Yields site.part (site.statement?.map named) := by
  -- A section has a statement just when its body is more than comments and blanks.
  rw [Site.statement?]
  by_cases empty : ofBody site.part.body = []
  · rw [if_pos empty]
    exact .nothing (ofBody_eq_nil_iff.mp empty)
  · rw [if_neg empty]
    exact .template (carved_ofBody empty)

/-- The content of a section is that of its template, if it yields one. -/
theorem Yields.content {part : Section} {given : Option NamedTemplate}
    (yields : Yields part given) :
    Text.linewise content? part.body =
      given.toList.flatMap fun template => Text.linewise content? template.2 := by
  -- What is carved out of a body has all of its content.
  cases yields with
  | nothing idle => exact content_eq_nil_iff.mpr idle
  | template carved => simpa using carved.content

/-- The content of sections is that of the templates that they yield. -/
theorem content_of_yields {sections : List Section} {given : List (Option NamedTemplate)}
    (yields : List.Forall₂ Yields sections given) :
    (sections.flatMap fun part => Text.linewise content? part.body) =
      given.reduceOption.flatMap fun template => Text.linewise content? template.2 := by
  induction yields with
  | nil => rfl
  | @cons part made sections given first _ ih =>
    -- A section without a template has no content to count.
    rw [List.flatMap_cons, first.content, ih]
    cases made <;> simp

/-- A source that is read is nothing but comments before its first heading, and every section yields
one template, unless its body is nothing but comments, in the order of the sections and under
different names. So every line with content is in a section, and in the template of that section. -/
theorem parseFile_conserves {file : String} {source : Text} {statements : List Statement}
    (made : (parseFile file source).outcome = .ok statements) :
    let outline := Outline.ofText source
    (Outline.Outlines true source outline ∧
      source = outline.preamble ++
        outline.sections.flatMap fun part => part.heading.source ++ part.body) ∧
    ((∀ line ∈ outline.preamble.lines, isCommentOrBlank line = true) ∧ Idle outline.preamble) ∧
    (∃ given, List.Forall₂ Yields outline.sections given ∧
      statements.map named = given.reduceOption) ∧
    (statements.map Statement.name).Nodup ∧
    (Text.linewise content? outline.preamble ++
        outline.sections.flatMap fun part => Text.linewise content? part.body) =
      statements.flatMap fun statement => Text.linewise content? statement.sql := by
  intro outline
  have outlines : Outline.Outlines true source outline := Outline.outlines_cut true source
  have parsed := outcome_parseFile_eq_ok_iff.mp made
  obtain ⟨-, commented, -, -⟩ := outcome_parse_eq_ok_iff.mp parsed
  have commented := List.all_eq_true.mp commented
  -- The preamble is checked by lines of any kind, and so holds for those that newlines end.
  have idle : Idle outline.preamble := idle_of_lines commented
  -- Every site yields what is read there.
  have yields : List.Forall₂ Yields outline.sections
      (outline.sites.map fun site => site.statement?.map named) := by
    have sections : outline.sites.map Site.part = outline.sections :=
      Site.map_part_following _ _
    rw [← sections, List.forall₂_map_left_iff, List.forall₂_map_right_iff, List.forall₂_same]
    exact fun site _ => yields_statement? site
  -- The statements are what the sites have, in their order.
  have given : statements.map named =
      (outline.sites.map fun site => site.statement?.map named).reduceOption := by
    rw [(parseFile_eq_ok made).1, List.map_filterMap, List.reduceOption, List.filterMap_map]
    rfl
  have distinct := (canonical_of_parse parsed).distinct
  rw [List.map_map] at distinct
  refine ⟨⟨outlines, outlines.whole⟩, ⟨commented, idle⟩, ⟨_, yields, given⟩, distinct, ?_⟩
  rw [content_eq_nil_iff.mpr idle, List.nil_append, content_of_yields yields, ← given,
    List.flatMap_map]
  rfl

/-- A comment between a heading and its template is left out and one after it is kept, while a
heading with nothing under it yields nothing. -/
theorem commented_source_conserved :
    ∃ statements,
      (parseFile "one.sql" "--\n--name:a\n--\n X\n--\n--name:b\n".toList).outcome =
        .ok statements ∧
      statements.map named = [("a", "X\n--".toList)] ∧
      ∃ given, List.Forall₂ Yields
        (Outline.ofText "--\n--name:a\n--\n X\n--\n--name:b\n".toList).sections given ∧
        statements.map named = given.reduceOption := by
  -- The source is cut at its headings, and of the two bodies one has a statement.
  have outline : Outline.ofText "--\n--name:a\n--\n X\n--\n--name:b\n".toList =
      ⟨"--\n".toList, [⟨⟨"--name:a".toList, "a".toList⟩, "\n--\n X\n--\n".toList⟩,
        ⟨⟨"--name:b\n".toList, "b".toList⟩, []⟩]⟩ := by with_unfolding_all rfl
  have body : ofBody "\n--\n X\n--\n".toList = "X\n--".toList := by with_unfolding_all rfl
  have made : (parseFile "one.sql" "--\n--name:a\n--\n X\n--\n--name:b\n".toList).outcome =
      .ok [⟨"a", 1, "X\n--".toList⟩] := by
    -- The comment before the first heading is counted as a line and is no statement text.
    have given : ofSection [] 1 ⟨⟨"--name:a".toList, "a".toList⟩, "\n--\n X\n--\n".toList⟩
        "X\n--".toList = .ok ⟨"a", 1, "X\n--".toList⟩ := by with_unfolding_all rfl
    have commented : (Text.lines "--\n".toList).all isCommentOrBlank = true := by decide
    rw [outcome_parseFile_eq_ok_iff, outcome_parse_eq_ok_iff, outline]
    refine ⟨by simp, commented, ?_, by simp⟩
    have first : List.count '\n' "--\n".toList = 1 := by decide
    dsimp only
    rw [first, outcome_ofSections_cons, body, if_neg (by simp), given]
    rfl
  exact ⟨_, made, rfl, (parseFile_conserves made).2.2.1⟩
end SqlTemplate.Statement
