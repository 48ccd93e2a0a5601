import SqlTemplate.Proofs.Text.Linewise
import SqlTemplate.Statement.Parser

/-! Of the text under a heading nothing is left out but the comments before the first line of the
template and the blanks around it. -/

namespace SqlTemplate.Statement

/-- Whether a text begins with two dashes is seen in its first line. -/
theorem dashes_prefix_takeWhile {text : Text} :
    ['-', '-'] <+: text.takeWhile (· ≠ '\n') ↔ ['-', '-'] <+: text := by
  constructor
  · -- The first line is the beginning of the text.
    intro dashed
    exact dashed.trans (List.takeWhile_prefix _)
  · -- No dash is a newline, so both are in the first line.
    rintro ⟨rest, rfl⟩
    exact ⟨rest.takeWhile (· ≠ '\n'), rfl⟩

/-- A line is kept when something is left of it by trimming, and that is no comment. -/
theorem isCommentOrBlank_eq_false_iff {line : Text} :
    isCommentOrBlank line = false ↔ line.trim ≠ [] ∧ ¬ ['-', '-'] <+: line.trim := by
  -- A line is passed over for either of two reasons, and is kept for want of both.
  rw [isCommentOrBlank, Bool.or_eq_false_iff, Text.startsWith]
  simp only [← Bool.not_eq_true, List.isEmpty_iff, List.isPrefixOf_iff_prefix, ne_eq]

/-- A text whose first line is kept does not begin with a comment after trimming. -/
theorem uncommented_of_line {line rest : Text} (kept : isCommentOrBlank line = false)
    (follows : rest = [] ∨ rest.head? = some '\n') : ¬ ['-', '-'] <+: (line ++ rest).trim := by
  obtain ⟨present, uncommented⟩ := isCommentOrBlank_eq_false_iff.mp kept
  have trimmed := Text.trimmed_trim line
  obtain ⟨before, after, blank, also, whole⟩ := Text.trim_split line
  generalize line.trim = core at present uncommented trimmed whole
  subst whole
  -- The line has a core between its blanks, which is not empty.
  obtain ⟨c, core, rfl⟩ := List.exists_cons_of_ne_nil present
  have solid : isBlank c = false := trimmed.first c rfl
  -- After the blanks at its beginning the text begins with the core of the line.
  have start : Text.trimStart (before ++ (c :: core) ++ after ++ rest) =
      c :: (core ++ (after ++ rest)) := by
    have cut := @Text.trimStart_append before (c :: (core ++ (after ++ rest))) blank
      (by rintro d ⟨rfl⟩; exact solid)
    simpa using cut
  have front :
      (before ++ (c :: core) ++ after ++ rest).trim <+: c :: (core ++ (after ++ rest)) := by
    rw [Text.trim, start]
    exact List.rdropWhile_prefix isBlank _
  intro dashed
  obtain ⟨more, whole⟩ := dashed.trans front
  have dashes : '-' :: '-' :: more = c :: (core ++ (after ++ rest)) := whole
  obtain ⟨rfl, second⟩ := List.cons.inj dashes
  -- The second dash is in the line too, as neither a blank nor a newline is one.
  cases core with
  | cons d core =>
    obtain ⟨rfl, -⟩ := List.cons.inj second
    exact uncommented ⟨core, rfl⟩
  | nil =>
    cases after with
    | cons d after =>
      obtain ⟨rfl, -⟩ := List.cons.inj second
      have dash := also '-' (List.mem_cons_self ..)
      contradiction
    | nil =>
      -- The line would end between the dashes, which no newline does.
      have first : rest = '-' :: more := second.symm
      subst first
      simp at follows

/-- The first line of a text that a template may have is kept. -/
theorem kept_of_uncommented {text line rest : Text} (present : text ≠ []) (trimmed : text.Trimmed)
    (uncommented : ¬ ['-', '-'] <+: text) (whole : line ++ rest = text)
    (follows : rest = [] ∨ rest.head? = some '\n') : isCommentOrBlank line = false := by
  rw [← whole] at trimmed uncommented
  cases line with
  | nil =>
    -- Otherwise the text would be empty, or begin with a newline.
    rcases follows with rfl | newline
    · exact absurd whole.symm present
    · have solid := trimmed.first '\n' newline
      contradiction
  | cons c line =>
    -- What trimming leaves of the line is its beginning, so a comment in it would begin the text.
    have solid : isBlank c = false := trimmed.first c rfl
    have front : Text.trim (c :: line) <+: c :: line :=
      Text.trim_prefix (by rintro d ⟨rfl⟩; exact solid)
    refine isCommentOrBlank_eq_false_iff.mpr ⟨Text.trim_ne_nil (List.mem_cons_self ..) solid, ?_⟩
    intro dashed
    exact uncommented ((dashed.trans front).trans (List.prefix_append ..))

/-- A text whose lines are all blank or comments. -/
def Idle (text : Text) : Prop :=
  ∀ line ∈ text.pieces '\n', isCommentOrBlank line = true

/-- The content of a line, without the blanks around it, unless the line is blank or a comment. -/
def content? (line : Text) : Option Text :=
  if isCommentOrBlank line then none else some line.trim

/-- The blanks around a line make no difference to its content. -/
theorem unindented_content? : Text.Unindented content? where
  empty := rfl
  congr _ _ same := by rw [content?, content?, isCommentOrBlank, isCommentOrBlank, same]

/-- A text without content is of blank lines and comments alone. -/
theorem content_eq_nil_iff {text : Text} : Text.linewise content? text = [] ↔ Idle text := by
  -- A line has content just when it is kept.
  simp [Text.linewise, Idle, content?]

/-- A part of the text under a heading that begins at its first line with content, after the blanks
there, and goes on to the last character that is no blank. -/
inductive Carved : Text → Text → Prop
  /-- Whole lines come before it, and only blanks after it. -/
  | intro {skipped margin sql after : Text} (idle : Idle skipped)
    (lines : skipped = [] ∨ skipped.getLast? = some '\n') (margined : margin.Blank)
    (single : '\n' ∉ margin) (kept : isCommentOrBlank (sql.takeWhile (· ≠ '\n')) = false)
    (ended : after.Blank) : Carved (skipped ++ (margin ++ (sql ++ after))) sql

section Body

variable {body sql : Text}

/-- The blanks before a part may go over several lines. -/
theorem Carved.of_margin {skipped margin after : Text} (idle : Idle skipped)
    (lines : skipped = [] ∨ skipped.getLast? = some '\n') (margined : margin.Blank)
    (kept : isCommentOrBlank (sql.takeWhile (· ≠ '\n')) = false) (ended : after.Blank) :
    Carved (skipped ++ (margin ++ (sql ++ after))) sql := by
  by_cases newline : '\n' ∈ margin
  · -- The blanks up to the last newline are lines that are skipped.
    obtain ⟨front, last, rfl, single⟩ := Text.exists_last newline
    have split : skipped ++ ((front ++ '\n' :: last) ++ (sql ++ after)) =
        (skipped ++ (front ++ ['\n'])) ++ (last ++ (sql ++ after)) := by simp
    have blank : Text.Blank (front ++ ['\n']) :=
      margined.of_append.1.append (Text.blank_singleton (by decide))
    rw [split]
    refine .intro ?_ (Or.inr ?_) (List.forall_mem_cons.mp margined.of_append.2).2 single kept ended
    · rw [← content_eq_nil_iff, unindented_content?.append_blank blank]
      exact content_eq_nil_iff.mpr idle
    · rw [← List.append_assoc]
      exact List.getLast?_concat
  · exact .intro idle lines margined newline kept ended

/-- Blanks may come before the lines that are skipped. -/
theorem Carved.of_blank {before skipped margin after : Text} (front : before.Blank)
    (idle : Idle skipped) (lines : skipped = [] ∨ skipped.getLast? = some '\n')
    (margined : margin.Blank) (kept : isCommentOrBlank (sql.takeWhile (· ≠ '\n')) = false)
    (ended : after.Blank) :
    Carved (before ++ (skipped ++ (margin ++ (sql ++ after)))) sql := by
  rcases lines with rfl | newline
  · -- With no line skipped they come right before the part.
    have whole := Carved.of_margin idle (Or.inl rfl) (front.append margined) kept ended
    rwa [List.append_assoc] at whole
  · -- They join the first of the lines.
    have passed : Idle (before ++ skipped) := by
      rw [← content_eq_nil_iff, unindented_content?.blank_append front]
      exact content_eq_nil_iff.mpr idle
    have last : (before ++ skipped).getLast? = some '\n' := by
      rw [List.getLast?_append, newline]
      rfl
    have whole := Carved.of_margin passed (Or.inr last) margined kept ended
    rwa [List.append_assoc] at whole

/-- The content of a text is that of the part. -/
theorem Carved.content (carved : Carved body sql) :
    Text.linewise content? body = Text.linewise content? sql := by
  cases carved with
  | @intro skipped margin sql after idle lines margined single kept ended =>
    have inner : Text.linewise content? (margin ++ (sql ++ after)) =
        Text.linewise content? sql := by
      rw [unindented_content?.blank_append margined, unindented_content?.append_blank ended]
    rcases lines with rfl | newline
    · exact inner
    · -- The lines before the part have no content.
      obtain ⟨front, rfl⟩ := List.getLast?_eq_some_iff.mp newline
      have empty := content_eq_nil_iff.mpr idle
      rw [Text.linewise_append] at empty
      rw [List.append_assoc, List.singleton_append, Text.linewise_append, inner,
        (List.append_eq_nil_iff.mp empty).1, List.nil_append]

/-- The part is within the text, with nothing but blanks after it. -/
theorem Carved.exists_split (carved : Carved body sql) :
    ∃ before after, Text.Blank after ∧ body = before ++ sql ++ after := by
  -- The lines that are skipped and the margin stand before the part.
  cases carved with
  | @intro skipped margin sql after idle lines margined single kept ended =>
    exact ⟨skipped ++ margin, after, ended, by simp⟩

/-- The lines of a text that come before some of its last ones are skipped with the newline after
them. -/
theorem exists_skipped {dropped kept : List Text} (present : kept ≠ [])
    (unmarked : ∀ line ∈ dropped, '\n' ∉ line)
    (idle : ∀ line ∈ dropped, isCommentOrBlank line = true) :
    ∃ skipped, ['\n'].intercalate (dropped ++ kept) = skipped ++ ['\n'].intercalate kept ∧
      Idle skipped ∧ (skipped = [] ∨ skipped.getLast? = some '\n') := by
  -- Without lines to skip nothing is skipped, and otherwise they end with the newline that joins
  -- them to the rest.
  by_cases none : dropped = []
  · subst none
    exact ⟨[], rfl, content_eq_nil_iff.mp rfl, Or.inl rfl⟩
  · refine ⟨['\n'].intercalate dropped ++ ['\n'], ?_, ?_, Or.inr List.getLast?_concat⟩
    · rw [Text.intercalate_append none present]
      simp
    · have newline : Text.Blank ['\n'] := Text.blank_singleton (by decide)
      rw [← content_eq_nil_iff, unindented_content?.append_blank newline, content_eq_nil_iff,
        Idle, Text.pieces_intercalate none unmarked]
      exact idle

/-- What is read from a body has no blanks at its ends. -/
theorem trimmed_ofBody (body : Text) : (ofBody body).Trimmed :=
  -- Trimming is the last step of reading a body.
  Text.trimmed_trim _

/-- What is read from a body does not begin with a comment. -/
theorem uncommented_ofBody (present : ofBody body ≠ []) : ¬ ['-', '-'] <+: ofBody body := by
  have head := List.head?_dropWhile_not isCommentOrBlank (Text.pieces '\n' body.trim)
  rw [ofBody] at present ⊢
  cases lines : (Text.pieces '\n' body.trim).dropWhile isCommentOrBlank with
  | nil =>
    -- No line is left, so nothing would be read.
    rw [lines] at present
    exact absurd rfl present
  | cons line others =>
    rw [lines] at head
    obtain ⟨rest, joined, follows⟩ := @Text.intercalate_cons '\n' line others
    have uncommented := uncommented_of_line head follows
    rwa [← joined] at uncommented

/-- The first line of what is read from a body has content. -/
theorem kept_ofBody (present : ofBody body ≠ []) :
    isCommentOrBlank ((ofBody body).takeWhile (· ≠ '\n')) = false := by
  refine kept_of_uncommented present (trimmed_ofBody body) (uncommented_ofBody present)
    List.takeWhile_append_dropWhile ?_
  -- The line goes up to a newline.
  have stopped := List.head?_dropWhile_not (fun c => decide (c ≠ '\n')) (ofBody body)
  cases rest : (ofBody body).dropWhile (· ≠ '\n') with
  | nil => exact Or.inl rfl
  | cons c rest =>
    rw [rest] at stopped
    exact Or.inr (by simpa using stopped)

/-- Nothing is read from a body just when it has no content. -/
theorem ofBody_eq_nil_iff : ofBody body = [] ↔ Idle body := by
  -- What is left after the first comments begins with a line that is none, unless nothing is left.
  have unmarked : ∀ line ∈ (Text.pieces '\n' body.trim).dropWhile isCommentOrBlank, '\n' ∉ line :=
    fun line member => Text.not_mem_of_mem_pieces ((List.dropWhile_suffix _).mem member)
  have head := List.head?_dropWhile_not isCommentOrBlank (Text.pieces '\n' body.trim)
  have none := @List.dropWhile_eq_nil_iff _ isCommentOrBlank (Text.pieces '\n' body.trim)
  rw [← content_eq_nil_iff, ← unindented_content?.trim, content_eq_nil_iff, Idle, ← none, ofBody]
  generalize (Text.pieces '\n' body.trim).dropWhile isCommentOrBlank = lines at unmarked head
  constructor
  · intro empty
    cases lines with
    | nil => rfl
    | cons line others =>
      -- The first line that is left has content, and trimming leaves it.
      have content := unindented_content?.trim (['\n'].intercalate (line :: others))
      rw [empty] at content
      have idle := content_eq_nil_iff.mp content.symm
      rw [Idle, Text.pieces_intercalate (List.cons_ne_nil line others) unmarked] at idle
      have passed := idle line (List.mem_cons_self ..)
      exact absurd passed (Bool.eq_false_iff.mp head)
  · rintro rfl
    rfl

/-- What is read from a body is all from its first line with content on. -/
theorem carved_ofBody (present : ofBody body ≠ []) : Carved body (ofBody body) := by
  have kept := kept_ofBody present
  have whole := @Text.intercalate_pieces '\n' body.trim
  have cut := List.takeWhile_append_dropWhile (p := isCommentOrBlank)
    (l := Text.pieces '\n' body.trim)
  have idle : ∀ line ∈ (Text.pieces '\n' body.trim).takeWhile isCommentOrBlank,
      isCommentOrBlank line = true := List.all_eq_true.mp List.all_takeWhile
  have unmarked : ∀ line ∈ (Text.pieces '\n' body.trim).takeWhile isCommentOrBlank, '\n' ∉ line :=
    fun line member => Text.not_mem_of_mem_pieces ((List.takeWhile_prefix _).mem member)
  have left : (Text.pieces '\n' body.trim).dropWhile isCommentOrBlank ≠ [] := by
    intro none
    rw [ofBody, none] at present
    exact present rfl
  -- The lines that are skipped end in a newline, since lines are left after them.
  obtain ⟨skipped, lines, passed, newline⟩ := exists_skipped left unmarked idle
  obtain ⟨before, outer, front, back, ends⟩ := Text.trim_split body
  obtain ⟨margin, ended, margined, blank, split⟩ := Text.trim_split
    (['\n'].intercalate ((Text.pieces '\n' body.trim).dropWhile isCommentOrBlank))
  rw [cut, whole] at lines
  -- The text is trimmed, its first lines are skipped, and what is left is trimmed again.
  have all : body = before ++ (skipped ++ (margin ++ (ofBody body ++ (ended ++ outer)))) := by
    conv_lhs => rw [ends, lines, split]
    simp [ofBody]
  have carved := Carved.of_blank front passed newline margined kept (blank.append back)
  rwa [← all] at carved

end Body

section Preamble

/-- Every line break is a blank. -/
theorem isBlank_of_isLineBreak {c : Char} (ends : isLineBreak c = true) : isBlank c = true := by
  -- All line breaks are in one of the ranges of blanks, which are compared by their codes.
  simp only [isLineBreak, Bool.or_eq_true, Bool.and_eq_true, decide_eq_true_eq] at ends
  simp only [isBlank, CodeRange.Table.holds, blankRanges, List.any_cons, List.any_nil,
    Bool.or_false, Bool.or_eq_true, Bool.and_eq_true, decide_eq_true_eq]
  omega

/-- A text without line breaks is one line, and at the first line break the next one begins. -/
theorem lines_append {front : Text} (unbroken : ∀ c ∈ front, isLineBreak c = false) :
    front.lines = [front] ∧ ∀ (c : Char) (rest : Text), isLineBreak c = true →
      (front ++ c :: rest).lines = front :: rest.lines := by
  -- The characters in front are no line breaks, so each is added to the line that follows.
  induction front with
  | nil =>
    refine ⟨rfl, fun c rest ends => ?_⟩
    rw [List.nil_append, Text.lines, if_pos ends]
  | cons d front ih =>
    obtain ⟨first, others⟩ := List.forall_mem_cons.mp unbroken
    obtain ⟨single, cut⟩ := ih others
    have solid : ¬ isLineBreak d = true := Bool.eq_false_iff.mp first
    refine ⟨?_, fun c rest ends => ?_⟩
    · rw [Text.lines, if_neg solid, single]
    · rw [List.cons_append, Text.lines, if_neg solid, cut c rest ends]

/-- What begins with two dashes does so after trimming. -/
theorem dashes_prefix_trim (rest : Text) : ['-', '-'] <+: Text.trim ('-' :: '-' :: rest) := by
  have solid : ∀ blanks more : Text, blanks.Blank → blanks ≠ '-' :: more := by
    rintro blanks more blank rfl
    have dash := blank '-' (List.mem_cons_self ..)
    contradiction
  obtain ⟨before, after, front, back, whole⟩ := Text.trim_split ('-' :: '-' :: rest)
  -- Neither dash is among the blanks that are taken away.
  match before, (Text.trim ('-' :: '-' :: rest)), front, whole with
  | [], [], _, whole => exact absurd whole.symm (solid _ _ back)
  | [], [c], _, whole => exact absurd (List.cons.inj whole).2.symm (solid _ _ back)
  | [], c :: d :: more, _, whole =>
    obtain ⟨rfl, second⟩ := List.cons.inj whole
    obtain ⟨rfl, -⟩ := List.cons.inj second
    exact List.prefix_append ['-', '-'] more
  -- The first dash would have to be a blank in front.
  | c :: before, core, front, whole =>
    obtain ⟨rfl, -⟩ := List.cons.inj whole
    exact absurd rfl (solid _ before front)

/-- A line that is blank or a comment stays so with what comes up to a newline. -/
theorem idle_append {line text : Text} {c : Char} (single : '\n' ∉ line)
    (passed : isCommentOrBlank line = true) (blank : isBlank c = true) (idle : Idle text) :
    Idle (line ++ c :: text) := by
  have later : Idle (c :: text) := by
    rw [← content_eq_nil_iff] at idle ⊢
    rw [← idle]
    exact unindented_content?.blank_append (Text.blank_singleton blank) text
  obtain ⟨before, after, front, back, whole⟩ := Text.trim_split line
  simp only [isCommentOrBlank, Text.startsWith, Bool.or_eq_true, List.isEmpty_iff,
    List.isPrefixOf_iff_prefix] at passed
  rcases passed with empty | ⟨more, dashed⟩
  · -- A line of blanks adds nothing to the line after it.
    rw [empty, List.append_nil] at whole
    rw [← content_eq_nil_iff, whole, unindented_content?.blank_append (front.append back),
      content_eq_nil_iff]
    exact later
  · -- The comment goes on up to the next newline.
    have some := @Text.pieces_ne_nil '\n' (c :: text)
    obtain ⟨first, others, pieces⟩ := List.exists_cons_of_ne_nil some
    rw [Idle, pieces] at later
    rw [Idle, Text.pieces_append_of_not_mem single pieces]
    refine List.forall_mem_cons.mpr ⟨?_, (List.forall_mem_cons.mp later).2⟩
    have joined : line ++ first = before ++ '-' :: '-' :: (more ++ after ++ first) := by
      rw [whole, ← dashed]
      simp
    have comment := dashes_prefix_trim (more ++ after ++ first)
    rw [isCommentOrBlank, joined, Text.trim_blank_append front, Text.startsWith,
      List.isPrefixOf_iff_prefix.mpr comment, Bool.or_true]

/-- A text whose lines are all blank or comments is so when only newlines end its lines. -/
theorem idle_of_lines {text : Text} (idle : ∀ line ∈ text.lines, isCommentOrBlank line = true) :
    Idle text := by
  -- The induction is on what follows the beginning of a line.
  have extended : ∀ front : Text, (∀ c ∈ front, isLineBreak c = false) →
      (∀ line ∈ (front ++ text).lines, isCommentOrBlank line = true) → Idle (front ++ text) := by
    clear idle
    have single : ∀ front : Text, (∀ c ∈ front, isLineBreak c = false) → '\n' ∉ front := by
      intro front unbroken newline
      have solid := unbroken '\n' newline
      contradiction
    induction text with
    | nil =>
      intro front unbroken idle
      rw [List.append_nil] at idle ⊢
      rw [(lines_append unbroken).1] at idle
      rw [Idle, Text.pieces_of_not_mem (single front unbroken)]
      exact idle
    | cons c text ih =>
      intro front unbroken idle
      cases ends : isLineBreak c with
      | true =>
        -- The line ends here, so it is a comment or blank itself, and another one begins.
        rw [(lines_append unbroken).2 c text ends] at idle
        obtain ⟨first, later⟩ := List.forall_mem_cons.mp idle
        exact idle_append (single front unbroken) first (isBlank_of_isLineBreak ends)
          (ih [] (by simp) later)
      | false =>
        -- The line goes on.
        rw [← List.singleton_append, ← List.append_assoc] at idle ⊢
        refine ih (front ++ [c]) ?_ idle
        exact List.forall_mem_append.mpr ⟨unbroken, List.forall_mem_singleton.mpr ends⟩
  exact extended [] (by simp) idle

end Preamble

end SqlTemplate.Statement
