import SqlTemplate.Proofs.Statement.Body
import SqlTemplate.Proofs.Traversal

/-! Named templates that are written as a source are read back, and nothing else is ever read. -/

namespace SqlTemplate

namespace Statement

/-- Named templates as they are read from a source. -/
structure Canonical (templates : List NamedTemplate) : Prop where
  /-- There is at least one. -/
  present : templates ≠ []
  /-- No name is used twice. -/
  distinct : (templates.map Prod.fst).Nodup
  /-- Each of them may stand in a source. -/
  each : ∀ template ∈ templates, template.Canonical

section Written

/-- The heading that a template is written under. -/
def headingOf (template : NamedTemplate) : Heading :=
  ⟨['-', '-', ' ', 'n', 'a', 'm', 'e', ':', ' '] ++ template.1.toList, template.1.toList⟩

/-- The section that a template is written as. -/
def sectionOf (template : NamedTemplate) : Section :=
  ⟨headingOf template, '\n' :: template.2 ++ ['\n']⟩

/-- What begins an identifier is a word character. -/
theorem isWordChar_of_isNameStart {c : Char} (starts : isNameStart c = true) :
    isWordChar c = true := by
  -- The letters of ASCII and the underscore are told apart from the table of word characters.
  have small : c.toNat < 128 := by
    unfold isNameStart Char.isAlpha Char.isUpper Char.isLower at starts
    simp only [Bool.or_eq_true, Bool.and_eq_true, decide_eq_true_eq, UInt32.le_iff_toNat_le,
      ge_iff_le] at starts
    rcases starts with (⟨-, high⟩ | ⟨-, high⟩) | rfl
    · exact lt_of_le_of_lt high (by decide)
    · exact lt_of_le_of_lt high (by decide)
    · decide
  rw [isWordChar, if_pos small, Char.isAlphanum]
  simp only [isNameStart, Bool.or_eq_true] at starts ⊢
  exact starts.imp_left Or.inl

/-- An identifier is made of word characters. -/
theorem isWordChar_of_isIdentifier {name : Text} (identifier : isIdentifier name = true) :
    ∀ c ∈ name, isWordChar c = true := by
  -- The first character may begin a name, and the others may stand in one.
  cases name with
  | nil => contradiction
  | cons c rest =>
    simp only [isIdentifier, Bool.and_eq_true, List.all_eq_true] at identifier
    exact List.forall_mem_cons.mpr ⟨isWordChar_of_isNameStart identifier.1, identifier.2⟩

/-- An identifier has no dots. -/
theorem undotted_of_isIdentifier {name : Text} (identifier : isIdentifier name = true) :
    '.' ∉ name := by
  -- A dot is no word character.
  intro dot
  have word := isWordChar_of_isIdentifier identifier '.' dot
  contradiction

/-- An identifier is the name that a heading with it gives. -/
theorem normalName_of_isIdentifier {name : Text} (identifier : isIdentifier name = true) :
    normalName name = name := by
  have word := isWordChar_of_isIdentifier identifier
  have kept : name.filter (fun c => isWordChar c || c = '-') = name :=
    List.filter_eq_self.mpr fun c member => by simp [word c member]
  rw [normalName, kept]
  refine (List.map_congr_left fun c member => ?_).trans (List.map_id name)
  -- A hyphen is no word character.
  have other : c ≠ '-' := by
    rintro rfl
    have hyphen := word _ member
    contradiction
  simp [other]

/-- An identifier is a name in a heading. -/
theorem names_of_isIdentifier {name : Text} (identifier : isIdentifier name = true) :
    Heading.Names name := by
  -- It has no marks behind its word characters.
  have present : name ≠ [] := by
    rintro rfl
    contradiction
  have names := @Heading.Names.intro name [] present
    (fun c member => Or.inl (isWordChar_of_isIdentifier identifier c member)) (by simp)
  rwa [List.append_nil] at names

variable {template : NamedTemplate} {rest : Text}

/-- The heading of a template is read where the template is written. -/
theorem read?_heading (canonical : template.Canonical) :
    Heading.read? ((headingOf template).source ++ ('\n' :: template.2 ++ rest)) =
      some (headingOf template, '\n' :: template.2 ++ rest) := by
  have blank : Text.Blank [' '] := Text.blank_singleton (by decide)
  let parts : Heading.Parts :=
    ⟨[], [' '], ['n', 'a', 'm', 'e'], [], [' '], template.1.toList, [], Text.blank_nil, blank,
      by decide, Text.blank_nil, blank, names_of_isIdentifier canonical.identifier,
      Text.blank_nil⟩
  have same : parts.heading = headingOf template := by
    simp [parts, Heading.Parts.heading, Heading.Parts.core, headingOf]
  -- The line ends at the newline after the name, which is not part of the heading.
  obtain ⟨c, others, sql⟩ := List.exists_cons_of_ne_nil canonical.present
  have solid : isBlank c = false := by
    refine (Text.trim_eq_self_iff.mp canonical.trimmed).first c ?_
    rw [sql]
    rfl
  have leaves : Heading.Leaves ('\n' :: template.2 ++ rest) := by
    rw [sql]
    exact .newline Text.blank_nil List.not_mem_nil solid
  rw [← same]
  exact parts.read?_append leaves

/-- A heading that a template is written under does not end with a newline. -/
theorem getLast?_headingOf (canonical : template.Canonical) :
    (headingOf template).source.getLast? ≠ some '\n' := by
  have word := isWordChar_of_isIdentifier canonical.identifier
  have present : template.1.toList ≠ [] := by
    intro empty
    have identifier := canonical.identifier
    rw [empty] at identifier
    contradiction
  -- It ends with the name, and no word character is a newline.
  rw [headingOf, List.getLast?_append_of_ne_nil _ present]
  intro newline
  have last := word '\n' (List.mem_of_getLast? newline)
  contradiction

/-- No heading begins in the section of a template after the heading of the section. -/
theorem clear_sectionOf (canonical : template.Canonical) (resumes : Heading.Resumes rest) :
    Outline.Clear false (sectionOf template).body rest := by
  have trimmed := Text.trim_eq_self_iff.mp canonical.trimmed
  intro before after split present starts begins
  have split : ('\n' :: template.2) ++ ['\n'] = before ++ after := split
  cases before with
  | nil => contradiction
  | cons c before =>
    -- The body begins with the newline after the heading and ends with one after the template.
    obtain ⟨rfl, inside⟩ := List.cons.inj split
    rw [Outline.startsLine_cons, decide_eq_true rfl] at starts
    obtain ⟨others, d, rfl⟩ := (List.eq_nil_or_concat after).resolve_left present
    rw [List.concat_eq_append] at inside begins
    have inside : template.2 ++ ['\n'] = (before ++ others) ++ [d] := by
      rw [List.append_assoc]
      exact inside
    obtain ⟨whole, newline⟩ := List.append_inj' inside rfl
    obtain rfl : d = '\n' := (List.singleton_inj.mp newline).symm
    rw [whole] at trimmed
    by_cases empty : others = []
    · -- The line would begin after the template, which does not end with a newline.
      subst empty
      rw [List.append_nil] at whole trimmed
      rcases Outline.startsLine_true_iff.mp starts with rfl | last
      · exact canonical.present whole
      · have solid := trimmed.last _ last
        contradiction
    · -- The heading would begin a line of the template.
      rw [List.append_assoc] at begins
      have within := Heading.Begins.of_append empty (Heading.solid_of_append trimmed.last) resumes
        begins
      exact canonical.unheaded
        ⟨before, others, whole, Outline.startsLine_true_iff.mp starts, within⟩

end Written

/-- Written templates begin with the heading of the first. -/
theorem resumes_render (templates : List NamedTemplate) : Heading.Resumes (render templates) := by
  -- Without a template nothing is written.
  cases templates with
  | nil => exact Or.inl rfl
  | cons template others => exact Or.inr ⟨_, rfl⟩

/-- Written templates are cut into their sections. -/
theorem ofText_render {templates : List NamedTemplate}
    (canonical : ∀ template ∈ templates, template.Canonical) :
    Outline.ofText (render templates) = ⟨[], templates.map sectionOf⟩ := by
  induction templates with
  | nil => rw [Outline.ofText, render, List.flatMap_nil, Outline.cut]; rfl
  | cons template others ih =>
    obtain ⟨first, later⟩ := List.forall_mem_cons.mp canonical
    have whole : render (template :: others) =
        (headingOf template).source ++ ('\n' :: template.2 ++ ('\n' :: render others)) := by
      simp [render, renderOne, headingOf]
    -- The first heading is read, and the next one is where the rest begins.
    have body : '\n' :: template.2 ++ ('\n' :: render others) =
        (sectionOf template).body ++ render others := by
      simp [sectionOf]
    -- The body ends in a newline, so the next heading begins a line.
    have starts : Outline.startsLine false (sectionOf template).body = true :=
      Outline.startsLine_newline false ('\n' :: template.2)
    have rest := ih later
    rw [Outline.ofText] at rest
    rw [Outline.ofText, whole, Outline.cut_of_read? (read?_heading first),
      decide_eq_false (getLast?_headingOf first), body,
      Outline.cut_append (clear_sectionOf first (resumes_render others)), starts, rest]
    simp [Outline.under, sectionOf]

section Reading

variable {file : String} {known statements : List Statement} {line : Nat}

/-- A section without a text adds nothing, and another one its statement. -/
theorem outcome_ofSections_cons (part : Section) (rest : List Section) :
    (ofSections file known line (part :: rest)).outcome =
      let next := line + part.heading.source.count '\n' + part.body.count '\n'
      if ofBody part.body = [] then (ofSections file known next rest).outcome
      else ofSection known line part (ofBody part.body) >>= fun statement =>
        (ofSections file (known ++ [statement]) next rest).outcome := by
  -- The warning of a section without a text is no part of the outcome.
  rw [ofSections]
  by_cases empty : ofBody part.body = []
  · rw [if_pos empty, if_pos (List.isEmpty_iff.mpr empty), Journal.outcome_bind]
    rfl
  · rw [if_neg empty, if_neg (mt List.isEmpty_iff.mp empty), Journal.outcome_bind,
      Journal.outcome_ofExcept]

/-- A source with a heading and nothing but comments before it gives the statements of its
sections, of which there has to be one. -/
theorem outcome_parse (source : Text) :
    (parse file source).outcome =
      let outline := Outline.ofText source
      if outline.sections = [] then .error .noHeading
      else if outline.preamble.lines.all isCommentOrBlank = false then .error .textBeforeHeading
      else (ofSections file [] (outline.preamble.count '\n') outline.sections).outcome >>=
        fun statements => if statements = [] then .error .noStatement else .ok statements := by
  -- The three ways to refuse a source are tested one after the other, the last of them on its
  -- statements.
  rw [parse]
  by_cases headless : (Outline.ofText source).sections = []
  · rw [if_pos headless, if_pos (List.isEmpty_iff.mpr headless)]
    rfl
  · rw [if_neg headless, if_neg (mt List.isEmpty_iff.mp headless)]
    cases (Outline.ofText source).preamble.lines.all isCommentOrBlank with
    | false => rfl
    | true =>
      rw [if_neg (by decide), if_neg (by decide), Journal.outcome_bind]
      refine congrArg (_ >>= ·) (funext fun statements => ?_)
      cases statements <;> rfl

/-- No statement has a name that none of them is listed with. -/
theorem hasName_eq_false_iff {name : String} :
    hasName known name = false ↔ name ∉ known.map Statement.name := by
  rw [hasName, List.any_eq_false]
  simp

/-- The section of a template gives a statement with its name and its text, if the name is new. -/
theorem ofSection_sectionOf {template : NamedTemplate} (canonical : template.Canonical)
    (fresh : template.1 ∉ known.map Statement.name) :
    ofSection known line (sectionOf template) template.2 = .ok ⟨template.1, line, template.2⟩ := by
  -- The name of a template is an identifier, so normalizing leaves it as it is.
  have normal := normalName_of_isIdentifier canonical.identifier
  rw [ofSection]
  simp only [sectionOf, headingOf, normal, canonical.identifier, String.ofList_toList,
    hasName_eq_false_iff.mpr fresh]
  rfl

/-- The sections of templates give statements with their names and texts. -/
theorem ofSections_map_sectionOf {templates : List NamedTemplate}
    (canonical : ∀ template ∈ templates, template.Canonical)
    (distinct : (known.map Statement.name ++ templates.map Prod.fst).Nodup) :
    (ofSections file known line (templates.map sectionOf)).outcome.map (List.map named) =
      .ok (known.map named ++ templates) := by
  -- Every section adds the statement of its template to those known.
  induction templates generalizing known line with
  | nil => simp [ofSections, Except.map]
  | cons template others ih =>
    obtain ⟨first, later⟩ := List.forall_mem_cons.mp canonical
    -- The first name is new to the statements known, and the others are to those with it.
    have body : ofBody (sectionOf template).body = template.2 := ofBody_of_canonical first
    have fresh : template.1 ∉ known.map Statement.name := fun member =>
      (List.nodup_append.mp distinct).2.2 _ member _ (by simp) rfl
    have more : ((known ++ [(⟨template.1, line, template.2⟩ : Statement)]).map Statement.name ++
        others.map Prod.fst).Nodup := by
      simpa using distinct
    rw [List.map_cons, outcome_ofSections_cons, body, if_neg first.present,
      ofSection_sectionOf first fresh]
    refine (ih later more).trans ?_
    simp [named]

/-- What holds of statements that were read from sections. -/
structure Collected (sections : List Section) (statements : List Statement) : Prop where
  /-- No name is used twice. -/
  distinct : (statements.map Statement.name).Nodup
  /-- Every name is an identifier. -/
  identifier : ∀ statement ∈ statements, isIdentifier statement.name.toList = true
  /-- No text is empty, and each is read from the body of a section. -/
  bodied : ∀ statement ∈ statements,
    statement.sql ≠ [] ∧ ∃ part ∈ sections, statement.sql = ofBody part.body

/-- A section gives a statement just when its name is an identifier that is new. -/
theorem ofSection_eq_ok_iff {part : Section} {sql : Text} {statement : Statement} :
    ofSection known line part sql = .ok statement ↔
      isIdentifier (normalName part.heading.name) = true ∧
        hasName known (String.ofList (normalName part.heading.name)) = false ∧
        statement = ⟨String.ofList (normalName part.heading.name), line, sql⟩ := by
  -- Both tests have to be passed before a statement is made.
  rw [ofSection]
  cases isIdentifier (normalName part.heading.name) with
  | false => simp
  | true =>
    cases hasName known (String.ofList (normalName part.heading.name)) with
    | true => simp
    | false => simp [eq_comm]

/-- One more section adds a statement that was read from it. -/
theorem Collected.ofSection {sections : List Section} {part : Section} {statement : Statement}
    (collected : Collected sections known) (member : part ∈ sections)
    (present : ofBody part.body ≠ [])
    (made : ofSection known line part (ofBody part.body) = .ok statement) :
    Collected sections (known ++ [statement]) := by
  -- The section has passed both checks of its name.
  obtain ⟨identifier, unknown, rfl⟩ := ofSection_eq_ok_iff.mp made
  have fresh := hasName_eq_false_iff.mp unknown
  refine ⟨?_, ?_, ?_⟩
  · rw [List.map_append, List.nodup_append]
    refine ⟨collected.distinct, by simp, fun name listed other single => ?_⟩
    obtain rfl := List.mem_singleton.mp single
    rintro rfl
    exact fresh listed
  · refine List.forall_mem_append.mpr ⟨collected.identifier, List.forall_mem_singleton.mpr ?_⟩
    simpa using identifier
  · exact List.forall_mem_append.mpr
      ⟨collected.bodied, List.forall_mem_singleton.mpr ⟨present, part, member, rfl⟩⟩

/-- All sections add only statements that were read from them. -/
theorem Collected.ofSections {sections rest : List Section} (collected : Collected sections known)
    (within : ∀ part ∈ rest, part ∈ sections)
    (made : (ofSections file known line rest).outcome = .ok statements) :
    Collected sections statements := by
  induction rest generalizing known line with
  | nil =>
    obtain rfl := Except.ok.inj made
    exact collected
  | cons part others ih =>
    obtain ⟨first, later⟩ := List.forall_mem_cons.mp within
    rw [outcome_ofSections_cons] at made
    by_cases empty : ofBody part.body = []
    · -- A section without a text is passed over.
      rw [if_pos empty] at made
      exact ih collected later made
    · rw [if_neg empty] at made
      cases added : Statement.ofSection known line part (ofBody part.body) with
      | error fault =>
        rw [added] at made
        contradiction
      | ok statement =>
        rw [added] at made
        exact ih (collected.ofSection first empty added) later made

/-- A source is read when it has a heading, nothing but comments before the first one, and sections
that give at least one statement. -/
theorem outcome_parse_eq_ok_iff {source : Text} :
    (parse file source).outcome = .ok statements ↔
      let outline := Outline.ofText source
      outline.sections ≠ [] ∧ outline.preamble.lines.all isCommentOrBlank = true ∧
        (ofSections file [] (outline.preamble.count '\n') outline.sections).outcome =
          .ok statements ∧ statements ≠ [] := by
  rw [outcome_parse]
  dsimp only
  -- The two checks of the outline and the one of the statements must all be passed.
  by_cases headless : (Outline.ofText source).sections = []
  · simp [headless]
  · rw [if_neg headless]
    cases (Outline.ofText source).preamble.lines.all isCommentOrBlank with
    | false => simp
    | true =>
      rw [if_neg (by decide), bind_eq_ok_iff]
      constructor
      · rintro ⟨found, sections, kept⟩
        split at kept
        · contradiction
        · rename_i present
          obtain rfl := Except.ok.inj kept
          exact ⟨headless, rfl, sections, present⟩
      · rintro ⟨-, -, sections, present⟩
        exact ⟨statements, sections, if_neg present⟩

end Reading

/-- Named templates that may stand in a source are read back from what is written of them. -/
theorem outcome_parse_render {templates : List NamedTemplate} (canonical : Canonical templates)
    (file : String) :
    (parse file (render templates)).outcome.map (List.map named) = .ok templates := by
  have sections := @ofSections_map_sectionOf file [] (List.count '\n' []) templates canonical.each
    canonical.distinct
  -- There is a heading, and there is nothing before it.
  have headed : templates.map sectionOf ≠ [] := by simpa using canonical.present
  have commented : ¬ (Text.lines []).all isCommentOrBlank = false := by decide
  rw [outcome_parse, ofText_render canonical.each, if_neg headed,
    if_neg commented]
  cases made : (ofSections file [] (List.count '\n' []) (templates.map sectionOf)).outcome with
  | error fault =>
    rw [made] at sections
    contradiction
  | ok statements =>
    rw [made] at sections
    -- The statements are those of the sections, and there are some.
    have same : statements.map named = templates := Except.ok.inj sections
    have present : statements ≠ [] := by
      rintro rfl
      exact canonical.present same.symm
    have kept : (if statements = [] then .error .noStatement else .ok statements) =
        (.ok statements : Except SourceFault (List Statement)) := if_neg present
    rw [← same]
    exact congrArg (Except.map (List.map named)) kept

/-- What is read from a source may stand in one. -/
theorem canonical_of_parse {file : String} {source : Text} {statements : List Statement}
    (made : (parse file source).outcome = .ok statements) : Canonical (statements.map named) := by
  obtain ⟨-, -, sections, present⟩ := outcome_parse_eq_ok_iff.mp made
  -- What is known of the statements is collected section by section, from none on.
  have start : Collected (Outline.ofText source).sections [] :=
    ⟨List.nodup_nil, by simp, by simp⟩
  have collected := start.ofSections (fun _ member => member) sections
  refine ⟨by simpa using present, ?_, ?_⟩
  · rw [List.map_map]
    exact collected.distinct
  · intro template member
    obtain ⟨statement, listed, rfl⟩ := List.mem_map.mp member
    obtain ⟨written, part, among, body⟩ := collected.bodied statement listed
    -- The body of a section is the preamble of an outline, so what is known of those applies.
    obtain ⟨begins, rest, other, outlines, preamble⟩ :=
      (Outline.outlines_cut true source).exists_body part among
    rw [preamble] at body
    have solid : ofBody other.preamble ≠ [] := body ▸ written
    refine ⟨collected.identifier statement listed, written, ?_, ?_, ?_⟩
    · rw [named, body]
      exact (trimmed_ofBody _).trim_eq
    · rw [named, body, dashes_prefix_takeWhile]
      exact uncommented_ofBody solid
    · rw [named, body]
      exact not_occurs_ofBody outlines solid

/-- A source is read alike when a failure names it. -/
theorem outcome_parseFile_eq_ok_iff {file : String} {source : Text} {statements : List Statement} :
    (parseFile file source).outcome = .ok statements ↔
      (parse file source).outcome = .ok statements := by
  -- Only a failure is described anew.
  rw [parseFile, Journal.mapFault]
  cases (parse file source).outcome with
  | error fault => simp
  | ok found => simp

/-- The statements of sections are the same for every file that they may be from. -/
theorem outcome_ofSections_file (file other : String) (known : List Statement) (line : Nat)
    (sections : List Section) :
    (ofSections file known line sections).outcome =
      (ofSections other known line sections).outcome := by
  -- Only the warning of an empty section names the file.
  induction sections generalizing known line with
  | nil => rfl
  | cons part rest ih => simp only [outcome_ofSections_cons, ih]

/-- The named templates of a source, in order. -/
def templates (source : Text) : Except LoadFault (List NamedTemplate) :=
  (parseFile "<string>" source).outcome.map (List.map named)

/-- The named templates of a source are those of its statements, whichever file it is from. -/
theorem templates_eq_ok_iff (file : String) {source : Text} {given : List NamedTemplate} :
    templates source = .ok given ↔
      ∃ statements, (parseFile file source).outcome = .ok statements ∧
        statements.map named = given := by
  -- The file that a source is said to be from is used in warnings only.
  have same : (parse "<string>" source).outcome = (parse file source).outcome := by
    simp only [outcome_parse, outcome_ofSections_file "<string>" file]
  rw [templates, map_eq_ok_iff]
  simp only [outcome_parseFile_eq_ok_iff, same]

/-- The named templates of a source may stand in one. -/
theorem canonical_of_templates {source : Text} {given : List NamedTemplate}
    (read : templates source = .ok given) : Canonical given := by
  -- The templates of a source are those of its statements.
  obtain ⟨statements, parsed, rfl⟩ := (templates_eq_ok_iff "<string>").mp read
  exact canonical_of_parse (outcome_parseFile_eq_ok_iff.mp parsed)

/-- Writing and reading named templates are inverse: whatever may stand in a source is read back in
its order, and whatever is read from a source may stand in one, and is so read again. -/
theorem parse_render_inverse :
    (∀ file templates, Canonical templates →
      (parseFile file (render templates)).outcome.map (List.map named) = .ok templates) ∧
    ∀ file source statements, (parseFile file source).outcome = .ok statements →
      Canonical (statements.map named) ∧
        ∀ other, (parseFile other (render (statements.map named))).outcome.map (List.map named) =
          .ok (statements.map named) := by
  -- That what is written is read back is needed for both parts.
  have reads : ∀ file templates, Canonical templates →
      (parseFile file (render templates)).outcome.map (List.map named) = .ok templates := by
    intro file templates canonical
    have parsed := outcome_parse_render canonical file
    cases made : (parse file (render templates)).outcome with
    | error fault =>
      rw [made] at parsed
      contradiction
    | ok statements =>
      rw [made] at parsed
      rw [outcome_parseFile_eq_ok_iff.mpr made]
      exact congrArg Except.ok (Except.ok.inj parsed)
  refine ⟨reads, fun file source statements made => ?_⟩
  -- What has been read is canonical, so it is read back when it is written.
  have canonical := canonical_of_parse (outcome_parseFile_eq_ok_iff.mp made)
  exact ⟨canonical, fun other => reads other _ canonical⟩

/-- Neither a heading in the middle of a line nor one without a name cuts a template, which is read
again from what is written of it. -/
theorem near_headings_inverse :
    ∃ statements,
      (parseFile "one.sql" "--name:a-1!\n--b\nX --name:c\n--name:\n".toList).outcome =
        .ok statements ∧
      statements.map named = [("a_1", "X --name:c\n--name:".toList)] ∧
      Canonical (statements.map named) ∧
      (parseFile "two.sql" (render (statements.map named))).outcome.map (List.map named) =
        .ok (statements.map named) := by
  -- Of the four comments the source is cut at the first.
  have outline : Outline.ofText "--name:a-1!\n--b\nX --name:c\n--name:\n".toList =
      ⟨[], [⟨⟨"--name:a-1!".toList, "a-1!".toList⟩,
        "\n--b\nX --name:c\n--name:\n".toList⟩]⟩ := by with_unfolding_all rfl
  have body : ofBody "\n--b\nX --name:c\n--name:\n".toList =
      "X --name:c\n--name:".toList := by with_unfolding_all rfl
  have made : (parseFile "one.sql" "--name:a-1!\n--b\nX --name:c\n--name:\n".toList).outcome =
      .ok [⟨"a_1", 0, "X --name:c\n--name:".toList⟩] := by
    have given : ofSection [] 0 ⟨⟨"--name:a-1!".toList, "a-1!".toList⟩,
        "\n--b\nX --name:c\n--name:\n".toList⟩ "X --name:c\n--name:".toList =
        .ok ⟨"a_1", 0, "X --name:c\n--name:".toList⟩ := by with_unfolding_all rfl
    rw [outcome_parseFile_eq_ok_iff, outcome_parse, outline, if_neg (by simp),
      if_neg (by decide), outcome_ofSections_cons, body, if_neg (by simp), List.count_nil, given]
    rfl
  obtain ⟨canonical, again⟩ := parse_render_inverse.2 _ _ _ made
  exact ⟨_, made, rfl, canonical, parse_render_inverse.1 _ _ canonical⟩

end Statement

end SqlTemplate
