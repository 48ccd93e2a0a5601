import SqlTemplate.Proofs.Statement.Partition
import SqlTemplate.Proofs.Text.Linewise

/-! A heading may go over several lines, so the headings of a source are those of its lines only if
none does. -/

namespace SqlTemplate

namespace Heading

/-- The name of the heading that a line is by itself. -/
def nameOn? (line : Text) : Option Text :=
  (read? line).map fun found => found.1.name

/-- The text of a heading from its dashes to the end of its name has no blanks at its ends. -/
theorem Parts.trimmed_core (parts : Parts) : parts.core.Trimmed := by
  constructor
  · -- The first character is a dash.
    intro c first
    have dash : isBlank '-' = false := by decide
    cases first
    exact dash
  · intro c last
    -- The last character is that of the name, which holds no blanks.
    have present := parts.named.ne_nil
    have split : parts.core = '-' :: '-' :: (parts.gap ++ (parts.word ++
        (parts.pause ++ ':' :: parts.space))) ++ parts.name := by simp [Parts.core]
    rw [split, List.getLast?_append_of_ne_nil _ present] at last
    exact parts.named.solid c (List.mem_of_getLast? last)

/-- Trimming leaves of a heading what is between its dashes and its name, both included. -/
theorem Parts.trim_source (parts : Parts) : Text.trim parts.heading.source = parts.core := by
  -- The blanks around the core are the margin and those after the name, and it has none at its
  -- ends.
  have whole := Text.trim_append parts.margined parts.ended parts.trimmed_core
  rwa [List.append_assoc] at whole

/-- A line is a heading by itself when trimming leaves the parts of one. -/
theorem nameOn?_eq_some_iff {line name : Text} (single : '\n' ∉ line) :
    nameOn? line = some name ↔ ∃ parts : Parts, parts.core = line.trim ∧ parts.name = name := by
  rw [nameOn?, Option.map_eq_some_iff]
  constructor
  · rintro ⟨⟨heading, rest⟩, read, rfl⟩
    obtain ⟨parts, rfl, rfl, leaves⟩ := read?_eq_some_iff.mp read
    -- Nothing is left of a single line.
    cases leaves with
    | nothing => exact ⟨parts, by rw [List.append_nil, parts.trim_source], rfl⟩
    | newline => simp at single
  · -- The blanks around the parts are its margin and its end.
    rintro ⟨parts, core, rfl⟩
    obtain ⟨before, after, front, back, whole⟩ := Text.trim_split line
    let outer : Parts := { parts with
      margin := before, after := after, margined := front, ended := back }
    have read := outer.read?_append .nothing
    have same : outer.heading.source ++ [] = line := by
      have core : outer.core = line.trim := core
      rw [whole, List.append_nil, Parts.heading, core, ← List.append_assoc]
    rw [same] at read
    exact ⟨_, read, rfl⟩

/-- The blanks around a line make no difference to whether it is a heading. -/
theorem unindented_nameOn? : Text.Unindented nameOn? where
  empty := by
    -- A name is read from what trimming leaves of a line, of which there is nothing for an empty
    -- one.
    have single : '\n' ∉ ([] : Text) := List.not_mem_nil
    rw [Option.eq_none_iff_forall_not_mem]
    intro name found
    obtain ⟨parts, core, -⟩ := (nameOn?_eq_some_iff single).mp found
    have empty : parts.core = [] := core
    simp [Parts.core] at empty
  congr single also same := by
    refine Option.ext fun name => ?_
    rw [nameOn?_eq_some_iff single, nameOn?_eq_some_iff also, same]

/-- A line that begins neither with a blank nor with a dash is no heading. -/
theorem nameOn?_eq_none {c : Char} {line : Text} (single : '\n' ∉ c :: line)
    (solid : isBlank c = false) (other : c ≠ '-') : nameOn? (c :: line) = none := by
  rw [Option.eq_none_iff_forall_not_mem]
  intro name found
  obtain ⟨parts, core, -⟩ := (nameOn?_eq_some_iff single).mp found
  -- What trimming leaves of the line begins with the same character.
  obtain ⟨rest, whole⟩ := @Text.trim_prefix (c :: line) (by rintro d ⟨rfl⟩; exact solid)
  rw [← core, Parts.core, List.cons_append] at whole
  exact other (List.cons.inj whole).1.symm

section Lines

variable {front blanks rest : Text}

/-- The first of several lines that a heading goes over is no heading by itself. -/
theorem Parts.nameOn?_front (parts : Parts) (split : parts.core = front ++ '\n' :: rest)
    (single : '\n' ∉ front) : nameOn? front = none := by
  rw [Option.eq_none_iff_forall_not_mem]
  intro name found
  obtain ⟨inner, core, -⟩ := (nameOn?_eq_some_iff single).mp found
  obtain ⟨before, after, margined, blank, whole⟩ := Text.trim_split front
  -- The inner heading would be read from the outer one, with something left after it.
  have ended : EndsLine (after ++ '\n' :: rest) := .intro blank (Or.inr rfl)
  obtain ⟨left, line⟩ := Option.isSome_iff_exists.mp (endOfLine?_isSome_iff.mpr ended)
  obtain ⟨blanks, also, cut, leaves⟩ := endOfLine?_eq_some_iff.mp line
  let short : Parts := { inner with
    margin := before, after := blanks, margined := margined, ended := also }
  let long : Parts := { parts with
    margin := [], after := [], margined := Text.blank_nil, ended := Text.blank_nil }
  have shorter : short.heading.source ++ left = parts.core := by
    have core : short.core = front.trim := core
    rw [split, whole, Parts.heading, core, List.append_assoc, List.append_assoc, ← cut]
    simp [short]
  have longer : long.heading.source ++ [] = parts.core := by
    have core : long.core = parts.core := rfl
    rw [Parts.heading, core]
    simp [long]
  have read := short.read?_append leaves
  rw [shorter, ← longer, long.read?_append .nothing] at read
  have empty : left = [] := (congrArg Prod.snd (Option.some.inj read)).symm
  -- So the outer heading would end with blanks, but it ends with its name.
  rw [empty, List.append_nil] at cut
  have present : blanks ≠ [] := by
    rintro rfl
    simp at cut
  have last : parts.core.getLast? = some (blanks.getLast present) := by
    rw [split, whole, List.append_assoc, cut, List.getLast?_append_of_ne_nil _ present,
      List.getLast?_eq_some_getLast present]
  have solid := parts.trimmed_core.last _ last
  rw [also _ (List.getLast_mem present)] at solid
  contradiction

/-- What is read from the lines of a heading is read after the first blanks that go over several. -/
theorem Parts.linewise_core (parts : Parts) (split : parts.core = front ++ (blanks ++ rest))
    (single : '\n' ∉ front) (blank : blanks.Blank) (newline : '\n' ∈ blanks) :
    Text.linewise nameOn? parts.core = Text.linewise nameOn? rest := by
  -- The first line ends within the blanks, and no heading is read from it.
  obtain ⟨first, later, rfl, absent⟩ := List.eq_append_cons_of_mem newline
  have lines : parts.core = (front ++ first) ++ '\n' :: (later ++ rest) := by
    rw [split]
    simp
  have joined : '\n' ∉ front ++ first := by simp [single, absent]
  rw [lines, Text.linewise_append, Text.linewise_of_not_mem joined,
    parts.nameOn?_front lines joined,
    unindented_nameOn?.blank_append (List.forall_mem_cons.mp blank.of_append.2).2]
  rfl

/-- From a word that is no heading, and what follows it after blanks, no more is read than from what
follows. -/
theorem linewise_word {c : Char} (single : '\n' ∉ c :: front) (also : '\n' ∉ rest)
    (solid : isBlank c = false) (other : c ≠ '-') (blank : blanks.Blank) :
    Text.linewise nameOn? (c :: front ++ (blanks ++ rest)) = [] ∨
      Text.linewise nameOn? (c :: front ++ (blanks ++ rest)) = Text.linewise nameOn? rest := by
  by_cases newline : '\n' ∈ blanks
  · -- The word has lines of its own, which are no headings.
    refine Or.inr ?_
    rw [unindented_nameOn?.append_lines blank newline, Text.linewise_of_not_mem single,
      nameOn?_eq_none single solid other]
    rfl
  · have joined : '\n' ∉ c :: (front ++ (blanks ++ rest)) := by
      simpa [newline, also] using single
    -- All is one line, which begins with the word.
    refine Or.inl ?_
    rw [List.cons_append, Text.linewise_of_not_mem joined, nameOn?_eq_none joined solid other]
    rfl

end Lines

/-- A name that is a heading by itself gives a shorter name. -/
theorem length_of_nameOn? {line name : Text} (single : '\n' ∉ line)
    (found : nameOn? line = some name) : name.length < line.length := by
  -- The dashes, the word and the colon stand on the line beside the name.
  obtain ⟨parts, core, rfl⟩ := (nameOn?_eq_some_iff single).mp found
  obtain ⟨before, after, -, -, whole⟩ := Text.trim_split line
  rw [whole, ← core, Parts.core]
  simp only [List.length_append, List.length_cons]
  omega

/-- A name is within a line. -/
theorem Names.single {name : Text} (names : Names name) : '\n' ∉ name := by
  -- A newline is a blank.
  intro newline
  have blank := names.solid '\n' newline
  contradiction

/-- The word of a heading is within a line and begins with a letter. -/
theorem Parts.exists_letter (parts : Parts) :
    '\n' ∉ parts.word ∧ ∃ c more, parts.word = c :: more ∧ isBlank c = false ∧ c ≠ '-' := by
  -- Lowered, the characters of the word are four given letters, of which none is a newline or a
  -- dash.
  have spelled := parts.spelled
  obtain ⟨c, more, word, lowered, -⟩ := List.map_eq_cons_iff.mp spelled
  refine ⟨fun newline => ?_, c, more, word, ?_, ?_⟩
  · have letter := List.mem_map_of_mem (f := Char.toLower) newline
    rw [spelled] at letter
    contradiction
  · exact head?_spelled (by decide) spelled c (by rw [word]; rfl)
  · rintro rfl
    contradiction

/-- From the lines of a heading that goes over several, at most the last is read, as what its name
is by itself. -/
theorem Parts.linewise_name (parts : Parts) (newline : '\n' ∈ parts.core) :
    Text.linewise nameOn? parts.core = [] ∨
      Text.linewise nameOn? parts.core = Text.linewise nameOn? parts.name := by
  obtain ⟨word, c, more, spelled, solid, other⟩ := parts.exists_letter
  have named := parts.named.single
  -- The lines that begin with the colon or the word are no headings.
  have fromColon := @linewise_word [] parts.space parts.name ':' (by decide) named (by decide)
    (by decide) parts.spaced
  have fromWord : Text.linewise nameOn?
        (parts.word ++ (parts.pause ++ ':' :: (parts.space ++ parts.name))) = [] ∨
      Text.linewise nameOn? (parts.word ++ (parts.pause ++ ':' :: (parts.space ++ parts.name))) =
        Text.linewise nameOn? parts.name := by
    by_cases pause : '\n' ∈ parts.pause
    · rw [unindented_nameOn?.append_lines parts.paused pause, Text.linewise_of_not_mem word,
        spelled, nameOn?_eq_none (spelled ▸ word) solid other]
      exact fromColon
    · have joined : '\n' ∉ c :: (more ++ (parts.pause ++ [':'])) := by
        rw [← List.cons_append, ← spelled]
        simp [word, pause]
      have whole := linewise_word joined named solid other parts.spaced
      rw [← List.cons_append, ← spelled] at whole
      simpa using whole
  -- The first blanks that go over several lines are those of the gap, the pause or the space.
  by_cases gap : '\n' ∈ parts.gap
  · have split : parts.core = ['-', '-'] ++ (parts.gap ++
        (parts.word ++ (parts.pause ++ ':' :: (parts.space ++ parts.name)))) := rfl
    rw [parts.linewise_core split (by decide) parts.gapped gap]
    exact fromWord
  · by_cases pause : '\n' ∈ parts.pause
    · have split : parts.core = ('-' :: '-' :: (parts.gap ++ parts.word)) ++
          (parts.pause ++ ':' :: (parts.space ++ parts.name)) := by simp [Parts.core]
      rw [parts.linewise_core split (by simp [gap, word]) parts.paused pause]
      exact fromColon
    · have space : '\n' ∈ parts.space := by
        simpa [Parts.core, gap, word, pause, named] using newline
      have split : parts.core = ('-' :: '-' :: (parts.gap ++ (parts.word ++
          (parts.pause ++ [':'])))) ++ (parts.space ++ parts.name) := by simp [Parts.core]
      rw [parts.linewise_core split (by simp [gap, word, pause]) parts.spaced space]
      exact Or.inr rfl

/-- The names that are read from the lines of a heading one by one: at most one, and that of the
heading just when the heading is within a line. -/
structure Seen (heading : Heading) (names : List Text) : Prop where
  /-- No two lines of a heading are headings. -/
  single : names.length ≤ 1
  /-- A heading within a line is seen, and no other gives its name. -/
  whole : names = [heading.name] ↔ '\n' ∉ heading.source.trim

/-- The lines of a heading are seen so. -/
theorem Parts.seen (parts : Parts) :
    Seen parts.heading (Text.linewise nameOn? parts.heading.source) := by
  rw [← unindented_nameOn?.trim, parts.trim_source]
  by_cases newline : '\n' ∈ parts.core
  · -- At most a shorter name is seen.
    have other : ∀ names : List Text, names ≠ [parts.name] →
        (names = [parts.heading.name] ↔ '\n' ∉ Text.trim parts.heading.source) := by
      intro names other
      rw [parts.trim_source]
      exact ⟨fun same => absurd same other, fun absent => absurd newline absent⟩
    rcases parts.linewise_name newline with none | last
    · rw [none]
      exact ⟨Nat.zero_le _, other _ (List.cons_ne_nil _ _).symm⟩
    · rw [last, Text.linewise_of_not_mem parts.named.single]
      cases found : nameOn? parts.name with
      | none => exact ⟨Nat.zero_le _, other _ (List.cons_ne_nil _ _).symm⟩
      | some name =>
        -- The name within a name leaves room for the dashes, the word and the colon.
        have shorter := length_of_nameOn? parts.named.single found
        refine ⟨le_refl _, other _ fun same => ?_⟩
        rw [List.singleton_inj.mp same] at shorter
        exact lt_irrefl _ shorter
  · -- A heading within a line is read from it.
    have found : nameOn? parts.core = some parts.name :=
      (nameOn?_eq_some_iff newline).mpr ⟨parts, parts.trimmed_core.trim_eq.symm, rfl⟩
    rw [Text.linewise_of_not_mem newline, found]
    refine ⟨le_refl _, fun _ => ?_, fun _ => rfl⟩
    rwa [parts.trim_source]

end Heading

namespace Outline

/-- What is left of a clear text after its first line is clear. -/
theorem Clear.later {beginsLine : Bool} {line text rest : Text}
    (clear : Clear beginsLine (line ++ '\n' :: text) rest) : Clear true text rest := by
  -- A place in the later text is one in the whole, with the first line before it.
  intro before after split present starts
  refine clear ((line ++ ['\n']) ++ before) after (by rw [split]; simp) present ?_
  rwa [startsLine_append, startsLine_newline]

/-- The first line of a clear text is no heading by itself. -/
theorem Clear.nameOn?_front {beginsLine : Bool} {line after rest : Text}
    (clear : Clear beginsLine (line ++ after) rest) (begins : beginsLine = true ∨ line = [])
    (ends : Heading.EndsLine (after ++ rest)) : Heading.nameOn? line = none := by
  by_cases empty : line = []
  · rw [empty]
    exact Heading.unindented_nameOn?.empty
  · have starts := begins.resolve_right empty
    rw [Heading.nameOn?, Option.map_eq_none_iff, ← Option.not_isSome_iff_eq_none,
      Heading.read?_isSome_iff]
    -- With what follows the line the heading would begin the text.
    intro heading
    have whole := heading.append ends
    rw [← List.append_assoc] at whole
    exact clear [] (line ++ after) rfl (by simp [empty]) starts whole

/-- No line of a clear text is a heading by itself. -/
theorem Clear.linewise_append {beginsLine : Bool} {text rest : Text}
    (clear : Clear beginsLine text rest)
    (begins : beginsLine = true ∨ text = [] ∨ text.head? = some '\n')
    (ends : startsLine beginsLine text = true ∨ rest = []) :
    Text.linewise Heading.nameOn? (text ++ rest) = Text.linewise Heading.nameOn? rest := by
  -- The induction is on the length, as a line is taken off at a time.
  induction size : text.length using Nat.strongRecOn generalizing beginsLine text with
  | _ count ih =>
    by_cases newline : '\n' ∈ text
    · obtain ⟨line, later, rfl, absent⟩ := List.eq_append_cons_of_mem newline
      have first : beginsLine = true ∨ line = [] := by
        refine begins.imp_right fun others => ?_
        cases line with
        | nil => rfl
        | cons c line =>
          -- Only a newline could come first, and none is in the line.
          obtain rfl : c = '\n' := by simpa using others
          exact absurd (List.mem_cons_self ..) absent
      have ended : Heading.EndsLine ('\n' :: later ++ rest) :=
        @Heading.EndsLine.intro [] _ Text.blank_nil (Or.inr rfl)
      have shorter : later.length < count := by
        rw [← size]
        simp only [List.length_append, List.length_cons]
        omega
      have starts : startsLine true later = true ∨ rest = [] := by
        rwa [startsLine_append, startsLine_cons, decide_eq_true rfl] at ends
      rw [List.append_assoc, List.cons_append, Text.linewise_append,
        Text.linewise_of_not_mem absent, clear.nameOn?_front first ended,
        ih later.length shorter clear.later (Or.inl rfl) starts rfl]
      rfl
    · cases text with
      | nil => rfl
      | cons c text =>
        -- No line begins after a text without newlines, so nothing follows it.
        have starts : beginsLine = true := by
          refine begins.resolve_right ?_
          rintro (none | first)
          · contradiction
          · exact newline (List.mem_of_head? first)
        have none : rest = [] := by
          refine ends.resolve_left fun starts => ?_
          rw [startsLine, List.getLast?_eq_some_getLast (List.cons_ne_nil c text)] at starts
          exact newline (decide_eq_true_eq.mp starts ▸ List.getLast_mem _)
        subst none
        rw [← List.append_nil (c :: text)] at clear
        rw [List.append_nil, Text.linewise_of_not_mem newline,
          clear.nameOn?_front (Or.inl starts) Heading.endsLine_nil]
        rfl

/-- From the lines of a text one by one the names of its headings are read that are seen there. -/
theorem Outlines.exists_seen {beginsLine : Bool} {text : Text} {outline : Outline}
    (outlines : Outlines beginsLine text outline)
    (begins : beginsLine = true ∨ text = [] ∨ text.head? = some '\n') :
    ∃ given : List (List Text),
      List.Forall₂ (fun part names => Heading.Seen part.heading names) outline.sections given ∧
        Text.linewise Heading.nameOn? text = given.flatten := by
  induction outlines with
  | @bare beginsLine text clear =>
    -- Without a heading no line of the text is one.
    have none := clear.linewise_append begins (Or.inr rfl)
    rw [List.append_nil] at none
    exact ⟨[], .nil, by rw [none]; exact Heading.unindented_nameOn?.blank Text.blank_nil⟩
  | @headed beginsLine preamble rest parts outline clear starts leaves others ih =>
    have first : beginsLine = true ∨ preamble = [] ∨ preamble.head? = some '\n' := by
      refine begins.imp_right fun others => ?_
      cases preamble with
      | nil => exact Or.inl rfl
      | cons c preamble => exact Or.inr (by simpa using others)
    -- The heading ends where a line does, so what is after it is read by itself.
    have apart : Text.linewise Heading.nameOn? (parts.heading.source ++ rest) =
        Text.linewise Heading.nameOn? parts.heading.source ++
          Text.linewise Heading.nameOn? rest := by
      cases leaves with
      | nothing => simp [Heading.unindented_nameOn?.blank Text.blank_nil]
      | newline blank single solid =>
        have newline : Text.Blank ['\n'] := Text.blank_singleton (by decide)
        rw [Text.linewise_append]
        exact congrArg _ (Heading.unindented_nameOn?.blank_append newline _).symm
    obtain ⟨given, seen, read⟩ := ih (by cases leaves <;> simp)
    refine ⟨Text.linewise Heading.nameOn? parts.heading.source :: given, .cons parts.seen seen, ?_⟩
    rw [clear.linewise_append first (Or.inl starts), apart, read, List.flatten_cons]

section Names

variable {sections : List Section} {given : List (List Text)}

/-- No more names are seen than there are headings. -/
theorem length_flatten_le
    (seen : List.Forall₂ (fun part names => Heading.Seen part.heading names) sections given) :
    given.flatten.length ≤ sections.length := by
  -- Of each heading one name is seen at most.
  induction seen with
  | nil => exact le_refl _
  | cons first _ ih =>
    have single := first.single
    rw [List.flatten_cons, List.length_append, List.length_cons]
    omega

/-- The names that are seen are all names just when each heading is seen with its own name. -/
theorem names_eq_flatten_iff
    (seen : List.Forall₂ (fun part names => Heading.Seen part.heading names) sections given) :
    sections.map (fun part => part.heading.name) = given.flatten ↔
      ∀ part ∈ sections, '\n' ∉ Text.trim part.heading.source := by
  induction seen with
  | nil => simp
  | @cons part names sections given first others ih =>
    rw [List.map_cons, List.flatten_cons, List.forall_mem_cons, ← first.whole, ← ih]
    constructor
    · intro same
      match names, first.single with
      | [], _ =>
        -- The others are too few to make up for a heading that is not seen.
        have fewer := length_flatten_le others
        have equal := congrArg List.length same
        rw [List.nil_append, List.length_cons, List.length_map] at equal
        omega
      -- A heading that is seen gives its own name, so the others give theirs.
      | [name], _ =>
        obtain ⟨rfl, rest⟩ := List.cons.inj same
        exact ⟨rfl, rest⟩
    · rintro ⟨rfl, rest⟩
      rw [rest]
      rfl

end Names

/-- The names of a source's headings are those that its lines have by themselves just when every
heading is within a line, from its dashes to its name. -/
theorem names_eq_linewise_iff (source : Text) :
    (ofText source).sections.map (fun part => part.heading.name) =
        Text.linewise Heading.nameOn? source ↔
      ∀ part ∈ (ofText source).sections, '\n' ∉ Text.trim part.heading.source := by
  -- The lines are read heading by heading, and each heading is seen on its lines or not.
  obtain ⟨given, seen, read⟩ := (outlines_cut true source).exists_seen (Or.inl rfl)
  rw [read]
  exact names_eq_flatten_iff seen

/-- A heading without a name takes the next line of text for its name, though no line of the two is
a heading by itself. -/
theorem missing_name_takes_line :
    (ofText "-- name: a\nSELECT 1\n-- name:\nCOMMIT\nSELECT 2\n".toList).sections.map
        (fun part => part.heading.name) = ["a".toList, "COMMIT".toList] ∧
      Text.linewise Heading.nameOn? "-- name: a\nSELECT 1\n-- name:\nCOMMIT\nSELECT 2\n".toList =
        ["a".toList] := by
  -- The heading without a name takes the line after it, which is no heading by itself.
  have outline : ofText "-- name: a\nSELECT 1\n-- name:\nCOMMIT\nSELECT 2\n".toList =
      ⟨[], [⟨⟨"-- name: a".toList, "a".toList⟩, "\nSELECT 1\n".toList⟩,
        ⟨⟨"-- name:\nCOMMIT".toList, "COMMIT".toList⟩, "\nSELECT 2\n".toList⟩]⟩ := by
    with_unfolding_all rfl
  rw [outline]
  exact ⟨rfl, by with_unfolding_all rfl⟩

end Outline

end SqlTemplate
