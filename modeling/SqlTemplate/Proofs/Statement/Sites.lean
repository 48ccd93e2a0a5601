import SqlTemplate.Proofs.Statement.Partition
import SqlTemplate.Proofs.Statement.RoundTrip

/-! The sections of a source stand one after the other, and each of them gives a statement or a
warning, which are made of the section and the text before it alone. -/

namespace SqlTemplate

/-- A section with the text of the source before it. -/
structure Site where
  /-- All that comes before the heading. -/
  before : Text
  /-- The section. -/
  part : Section

namespace Site

/-- The sites of sections one after the other, the first of which follows a text. -/
def following (before : Text) : List Section → List Site
  | [] => []
  | part :: rest => ⟨before, part⟩ :: following (before ++ (part.heading.source ++ part.body)) rest

/-- The number of the line that is given for a site: how many newlines come before its heading. -/
def line (site : Site) : Nat :=
  site.before.count '\n'

/-- The statement that is read at a site, unless nothing is. -/
def statement? (site : Site) : Option Statement :=
  if Statement.ofBody site.part.body = [] then none
  else some ⟨String.ofList (Statement.normalName site.part.heading.name), site.line,
    Statement.ofBody site.part.body⟩

/-- The warning that is given of a site where nothing is read. -/
def warning? (file : String) (site : Site) : Option Event :=
  if Statement.ofBody site.part.body = [] then
    some (.statementSkipped (String.ofList site.part.heading.name) (site.line + 1) file)
  else none

/-- The sites of sections have the sections in their order. -/
theorem map_part_following (before : Text) (sections : List Section) :
    (following before sections).map part = sections := by
  -- Each section has its own site, after the text of those before it.
  induction sections generalizing before with
  | nil => rfl
  | cons part rest ih => rw [following, List.map_cons, ih]

/-- A site is where its text before it ends, its heading comes next, and its body after that. -/
theorem exists_rest_of_mem_following {before : Text} {sections : List Section} {site : Site}
    (member : site ∈ following before sections) :
    ∃ rest, before ++ sections.flatMap (fun part => part.heading.source ++ part.body) =
      site.before ++ (site.part.heading.source ++ (site.part.body ++ rest)) := by
  induction sections generalizing before with
  | nil => contradiction
  | cons part others ih =>
    -- After the first site come the sections that are left, and a later site is among them.
    rcases List.mem_cons.mp member with rfl | later
    · exact ⟨others.flatMap fun part => part.heading.source ++ part.body, by simp⟩
    · obtain ⟨rest, whole⟩ := ih later
      exact ⟨rest, by rw [← whole]; simp⟩

end Site

/-- The sites of the sections of an outline. -/
def Outline.sites (outline : Outline) : List Site :=
  Site.following outline.preamble outline.sections

/-- A site of a source is where its text before it ends, its heading comes next, and its body after
that. -/
theorem Outline.exists_rest_of_mem_sites {source : Text} {site : Site}
    (member : site ∈ (ofText source).sites) :
    ∃ rest, source = site.before ++ (site.part.heading.source ++ (site.part.body ++ rest)) := by
  -- The sites follow one another through the whole source, with nothing between them.
  obtain ⟨rest, whole⟩ := Site.exists_rest_of_mem_following member
  exact ⟨rest, by rw [← whole]; exact (outlines_cut true source).whole⟩

namespace Statement

variable {file : String} {known statements : List Statement} {before : Text}
  {sections : List Section}

/-- A section that nothing is read from is noted, and another one notes nothing of its own. -/
theorem events_ofSections_cons (line : Nat) (part : Section) (rest : List Section) :
    (ofSections file known line (part :: rest)).events =
      let next := line + part.heading.source.count '\n' + part.body.count '\n'
      if ofBody part.body = [] then
        .statementSkipped (String.ofList part.heading.name) (line + 1) file ::
          (ofSections file known next rest).events
      else match ofSection known line part (ofBody part.body) with
        | .ok statement => (ofSections file (known ++ [statement]) next rest).events
        | .error _ => [] := by
  rw [ofSections]
  by_cases empty : ofBody part.body = []
  · rw [if_pos empty, if_pos (List.isEmpty_iff.mpr empty),
      Journal.events_bind_of_ok (Journal.outcome_note _), Journal.events_note,
      List.singleton_append]
  · -- Nothing is noted after a section that fails.
    rw [if_neg empty, if_neg (mt List.isEmpty_iff.mp empty)]
    cases ofSection known line part (ofBody part.body) <;> rfl

/-- Sections that are read give the statements and the warnings of their sites. -/
theorem ofSections_eq_ok
    (made : (ofSections file known (before.count '\n') sections).outcome = .ok statements) :
    statements = known ++ (Site.following before sections).filterMap Site.statement? ∧
      (ofSections file known (before.count '\n') sections).events =
        (Site.following before sections).filterMap (Site.warning? file) := by
  -- One section after the other is read, with the text before it longer by the one before.
  induction sections generalizing known before with
  | nil =>
    obtain rfl := Except.ok.inj made
    exact ⟨by simp [Site.following], rfl⟩
  | cons part rest ih =>
    have next : before.count '\n' + part.heading.source.count '\n' + part.body.count '\n' =
        (before ++ (part.heading.source ++ part.body)).count '\n' := by
      rw [List.count_append, List.count_append, Nat.add_assoc]
    rw [outcome_ofSections_cons, next] at made
    by_cases empty : ofBody part.body = []
    · -- Nothing is read here, which is noted.
      rw [if_pos empty] at made
      obtain ⟨read, noted⟩ := ih made
      rw [events_ofSections_cons, next, if_pos empty, noted, read]
      simp [Site.following, Site.statement?, Site.warning?, Site.line, empty]
    · rw [if_neg empty, bind_eq_ok_iff] at made
      -- The statement is made of the section and of what comes before it, whatever is known.
      obtain ⟨statement, added, made⟩ := made
      obtain ⟨read, noted⟩ := ih made
      rw [events_ofSections_cons, next, if_neg empty, added]
      dsimp only
      rw [noted, read]
      obtain ⟨-, -, rfl⟩ := ofSection_eq_ok_iff.mp added
      simp [Site.following, Site.statement?, Site.warning?, Site.line, empty]

/-- A source that is read gives the statements and the warnings of its sites, and nothing but
comments is before the first of them. -/
theorem parseFile_eq_ok {source : Text}
    (made : (parseFile file source).outcome = .ok statements) :
    statements = (Outline.ofText source).sites.filterMap Site.statement? ∧
      (parseFile file source).events =
        (Outline.ofText source).sites.filterMap (Site.warning? file) := by
  obtain ⟨headed, commented, sections, present⟩ :=
    outcome_parse_eq_ok_iff.mp (outcome_parseFile_eq_ok_iff.mp made)
  obtain ⟨read, noted⟩ := ofSections_eq_ok sections
  refine ⟨read, ?_⟩
  -- The checks of a source note nothing.
  have kept : (parseFile file source).events = (parse file source).events := rfl
  rw [kept, parse, if_neg (mt List.isEmpty_iff.mp headed), if_neg (by simp [commented]),
    Journal.events_bind_of_ok sections, noted, if_neg (mt List.isEmpty_iff.mp present)]
  simp [Outline.sites]

end Statement

end SqlTemplate
