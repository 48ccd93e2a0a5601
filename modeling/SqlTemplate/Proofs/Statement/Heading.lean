import SqlTemplate.Proofs.Text.Trimming
import SqlTemplate.Statement.Heading

/-! The grammar of headings is stated without a reader, and a heading is read just where it says. -/

namespace SqlTemplate

/-- No word character is a blank. -/
theorem isBlank_of_isWordChar {c : Char} (word : isWordChar c = true) : isBlank c = false := by
  -- There are twenty-nine blanks, each of which is looked up in the table of word characters.
  let blanks : List Nat :=
    [9, 10, 11, 12, 13, 28, 29, 30, 31, 32, 133, 160, 5760, 8192, 8193, 8194, 8195, 8196, 8197,
     8198, 8199, 8200, 8201, 8202, 8232, 8233, 8239, 8287, 12288]
  have none : ∀ code ∈ blanks, isWordChar (Char.ofNat code) = false := by decide +kernel
  by_contra solid
  have listed : c.toNat ∈ blanks := by
    simp only [isBlank, CodeRange.Table.holds, blankRanges, List.any_cons, List.any_nil,
      Bool.or_false, Bool.not_eq_false, Bool.or_eq_true, Bool.and_eq_true, decide_eq_true_eq]
      at solid
    simp only [blanks, List.mem_cons, List.not_mem_nil, or_false]
    omega
  have spelled := none c.toNat listed
  rw [Char.ofNat_toNat, word] at spelled
  contradiction

/-- A blank is no capital letter, so lowering leaves it alone. -/
theorem toLower_of_isBlank {c : Char} (blank : isBlank c = true) : c.toLower = c := by
  -- No range of blanks meets the capital letters.
  have small : ¬(c.val ≥ 'A'.val ∧ c.val ≤ 'Z'.val) := by
    rintro ⟨low, high⟩
    have above : 65 ≤ c.toNat := UInt32.le_iff_toNat_le.mp low
    have below : c.toNat ≤ 90 := UInt32.le_iff_toNat_le.mp high
    simp only [isBlank, CodeRange.Table.holds, blankRanges, List.any_cons, List.any_nil,
      Bool.or_false, Bool.or_eq_true, Bool.and_eq_true, decide_eq_true_eq] at blank
    omega
  exact dif_neg small

/-- A character that is lowered to one before the small letters is that one. -/
theorem eq_of_toLower {c mark : Char} (early : mark.toNat < 97) (lowered : c.toLower = mark) :
    c = mark := by
  unfold Char.toLower at lowered
  by_cases capital : c.val ≥ 'A'.val ∧ c.val ≤ 'Z'.val
  · -- A capital letter is lowered to a small one, which comes later.
    have above : 65 ≤ c.toNat := UInt32.le_iff_toNat_le.mp capital.1
    have below : c.toNat ≤ 90 := UInt32.le_iff_toNat_le.mp capital.2
    rw [dif_pos capital] at lowered
    have code : mark.toNat = c.toNat + 32 := by
      rw [← lowered]
      show (c.val + ('a'.val - 'A'.val)).toNat = c.val.toNat + 32
      have difference : ('a'.val - 'A'.val).toNat = 32 := by decide
      rw [UInt32.toNat_add, difference]
      have small : c.val.toNat ≤ 90 := below
      omega
    omega
  · -- Any other character is left as it is.
    rwa [dif_neg capital] at lowered

namespace Heading

/-- A name in a heading: word characters and hyphens, and then marks that are neither. -/
inductive Names : Text → Prop
  /-- There is at least one word character or hyphen. -/
  | intro {front marks : Text} (present : front ≠ [])
    (inner : ∀ c ∈ front, isWordChar c = true ∨ c = '-')
    (outer : ∀ c ∈ marks, isWordChar c = false ∧ isBlank c = false) : Names (front ++ marks)

/-- A text that goes on with blanks up to its end or to a newline. -/
inductive EndsLine : Text → Prop
  /-- Whatever follows the newline is left open. -/
  | intro {blanks rest : Text} (blank : blanks.Blank) (ends : rest = [] ∨ rest.head? = some '\n') :
    EndsLine (blanks ++ rest)

/-- A text that begins with a heading: two dashes, the word in any case, a colon and a name that
ends its line, with blanks before and between them. -/
inductive Begins : Text → Prop
  /-- Blanks may be missing, and may be newlines. -/
  | intro {margin gap word pause space name rest : Text} (margined : margin.Blank)
    (gapped : gap.Blank) (spelled : word.map Char.toLower = ['n', 'a', 'm', 'e'])
    (paused : pause.Blank) (spaced : space.Blank) (named : Names name) (ended : EndsLine rest) :
    Begins (margin ++ '-' :: '-' :: (gap ++ (word ++ (pause ++ ':' :: (space ++ (name ++ rest))))))

/-- A name is not empty. -/
theorem Names.ne_nil {name : Text} (names : Names name) : name ≠ [] := by
  cases names with
  | intro present inner outer => simp [present]

/-- A name holds no blanks. -/
theorem Names.solid {name : Text} (names : Names name) : ∀ c ∈ name, isBlank c = false := by
  -- A name is of word characters and hyphens, and the marks after these are no blanks either.
  cases names with
  | intro present inner outer =>
    intro c member
    rcases List.mem_append.mp member with front | marks
    · rcases inner c front with word | rfl
      · exact isBlank_of_isWordChar word
      · decide
    · exact (outer c marks).2

/-- The words that are names are those without blanks that the reader takes for names. -/
theorem names_iff {name : Text} :
    Names name ↔ isName name = true ∧ ∀ c ∈ name, isBlank c = false := by
  let inside (c : Char) : Bool := isWordChar c || c = '-'
  have whole : isName name =
      (!(name.takeWhile inside).isEmpty && (name.dropWhile inside).all (!isWordChar ·)) := rfl
  rw [whole, Bool.and_eq_true]
  constructor
  · -- The reader takes the front for the front and finds nothing wrong with the marks.
    intro names
    refine ⟨?_, names.solid⟩
    cases names with
    | @intro front marks present inner outer =>
      have all : ∀ c ∈ front, inside c = true := fun c member => by
        simpa [inside] using inner c member
      rw [List.takeWhile_append_of_pos all, List.dropWhile_append_of_pos all]
      refine ⟨by simp [present], List.all_eq_true.mpr fun c member => ?_⟩
      have kept := (List.dropWhile_suffix inside).mem member
      simp [(outer c kept).1]
  · rintro ⟨⟨present, outer⟩, solid⟩
    -- The reader cuts the name where the word characters and hyphens end.
    have parts := List.takeWhile_append_dropWhile (p := inside) (l := name)
    rw [← parts]
    refine .intro (by simpa using present) (fun c member => ?_) fun c member => ⟨?_, ?_⟩
    · simpa [inside] using List.all_eq_true.mp List.all_takeWhile c member
    · simpa using List.all_eq_true.mp outer c member
    · exact solid c ((List.dropWhile_suffix inside).mem member)

/-- The reader reaches the end of a line just where one is. -/
theorem endOfLine?_isSome_iff {text : Text} : (endOfLine? text).isSome ↔ EndsLine text := by
  have parts := List.takeWhile_append_dropWhile (p := isBlank) (l := text)
  have blank : Text.Blank (text.takeWhile isBlank) := fun c member =>
    List.all_eq_true.mp List.all_takeWhile c member
  constructor
  · intro reads
    rw [endOfLine?] at reads
    split at reads
    · rename_i emptied
      rw [← parts, List.isEmpty_iff.mp emptied]
      exact .intro blank (Or.inl rfl)
    · split at reads
      · -- The line ends at the first newline among the blanks.
        rename_i newline
        obtain ⟨before, after, split⟩ := List.append_of_mem (by simpa using newline)
        rw [split] at blank
        rw [← parts, split, List.append_assoc]
        exact .intro blank.of_append.1 (Or.inr rfl)
      · contradiction
  · -- A line that ends is read to the end of the text or past a newline among its blanks.
    intro ends
    rw [endOfLine?]
    split
    · rfl
    · rename_i more
      cases ends with
      | @intro blanks rest margin ends =>
        rw [List.dropWhile_append_of_pos margin] at more
        rcases ends with rfl | newline
        · exact absurd rfl more
        · obtain ⟨later, rfl⟩ := List.head?_eq_some_iff.mp newline
          have reached : (blanks ++ '\n' :: later).takeWhile isBlank =
              blanks ++ '\n' :: later.takeWhile isBlank := by
            rw [List.takeWhile_append_of_pos margin, List.takeWhile_cons_of_pos (by decide)]
          simp [reached]

/-- The reader finds a beginning in any spelling with the same small letters. -/
theorem after?_eq_some_iff {start text rest : Text} :
    after? start text = some rest ↔
      ∃ spelled, text = spelled ++ rest ∧ spelled.map Char.toLower = start := by
  induction start generalizing text with
  | nil => simp [after?, eq_comm]
  | cons c start ih =>
    cases text with
    | nil => simp [after?]
    | cons d text =>
      rw [after?]
      by_cases same : c = d.toLower
      · -- The character belongs to the spelling, and the reader goes on.
        rw [if_pos same, ih]
        constructor
        · rintro ⟨spelled, rfl, lowered⟩
          exact ⟨d :: spelled, rfl, by rw [List.map_cons, lowered, same]⟩
        · rintro ⟨spelled, whole, lowered⟩
          obtain ⟨e, others, rfl, -, others_⟩ := List.map_eq_cons_iff.mp lowered
          obtain ⟨rfl, rfl⟩ := List.cons.inj whole
          exact ⟨others, rfl, others_⟩
      · -- No spelling begins with another character.
        rw [if_neg same]
        constructor
        · intro impossible
          contradiction
        · rintro ⟨spelled, whole, lowered⟩
          obtain ⟨e, others, rfl, first, -⟩ := List.map_eq_cons_iff.mp lowered
          obtain ⟨rfl, -⟩ := List.cons.inj whole
          exact absurd first.symm same

/-- A spelling that begins with a small letter or a mark does not begin with a blank. -/
theorem head?_spelled {c : Char} {start word : Text} (solid : isBlank c = false)
    (spelled : word.map Char.toLower = c :: start) : ∀ d ∈ word.head?, isBlank d = false := by
  obtain ⟨e, others, rfl, lowered, -⟩ := List.map_eq_cons_iff.mp spelled
  rintro d ⟨rfl⟩
  by_contra blank
  -- A blank would be lowered to itself.
  have blank : isBlank e = true := by simpa using blank
  rw [toLower_of_isBlank blank] at lowered
  rw [lowered, solid] at blank
  contradiction

/-- The parts of a heading are read from a text that has them. -/
theorem parts?_of_parts {margin gap word pause space name tail : Text} (margined : margin.Blank)
    (gapped : gap.Blank) (spelled : word.map Char.toLower = ['n', 'a', 'm', 'e'])
    (paused : pause.Blank) (spaced : space.Blank) (named : Names name) (ended : EndsLine tail) :
    parts? (margin ++ '-' :: '-' ::
        (gap ++ (word ++ (pause ++ ':' :: (space ++ (name ++ tail)))))) =
      (endOfLine? tail).map (name, ·) := by
  have dashes : ∀ text, after? ['-', '-'] ('-' :: '-' :: text) = some text := fun text =>
    after?_eq_some_iff.mpr ⟨['-', '-'], rfl, by decide⟩
  have colon : ∀ text, after? [':'] (':' :: text) = some text := fun text =>
    after?_eq_some_iff.mpr ⟨[':'], rfl, by decide⟩
  have named_ := names_iff.mp named
  -- Neither the word nor the name is empty, so their first characters end the blanks before.
  have wordFirst : ∀ rest : Text, ∀ d ∈ (word ++ rest).head?, isBlank d = false := by
    intro rest d first
    have present : word ≠ [] := by
      rintro rfl
      contradiction
    rw [List.head?_append_of_ne_nil _ present] at first
    exact head?_spelled (by decide) spelled d first
  have nameFirst : ∀ d ∈ (name ++ tail).head?, isBlank d = false := by
    intro d first
    rw [List.head?_append_of_ne_nil _ named.ne_nil] at first
    exact named.solid d (List.mem_of_mem_head? first)
  -- What follows the name is a blank or nothing, so the first word is the name.
  have wordEnds : firstWord (name ++ tail) = name := by
    rw [firstWord, List.takeWhile_append_of_pos fun c member => by simp [named.solid c member]]
    have stops : tail.takeWhile (!isBlank ·) = [] := by
      cases ended with
      | @intro blanks rest blank ends =>
        cases blanks with
        | nil =>
          rcases ends with rfl | newline
          · rfl
          · obtain ⟨later, rfl⟩ := List.head?_eq_some_iff.mp newline
            rfl
        | cons c others =>
          have first : isBlank c = true := blank c (List.mem_cons_self ..)
          exact List.takeWhile_cons_of_neg (by simp [first])
    rw [stops, List.append_nil]
  -- Now the reader takes one part after the other.
  rw [parts?, Text.trimStart_append margined (by rintro d ⟨rfl⟩; decide)]
  simp only [dashes, Option.bind_eq_bind, Option.bind_some]
  rw [Text.trimStart_append gapped (wordFirst _), after?_eq_some_iff.mpr ⟨word, rfl, spelled⟩,
    Option.bind_some, Text.trimStart_append paused (by rintro d ⟨rfl⟩; decide), colon,
    Option.bind_some, Text.trimStart_append spaced nameFirst, wordEnds, if_pos named_.1,
    List.drop_left]
  cases endOfLine? tail <;> rfl

/-- A heading is read from a text just when the text begins with one. -/
theorem read?_isSome_iff {text : Text} : (read? text).isSome ↔ Begins text := by
  have same : (read? text).isSome = (parts? text).isSome := by
    rw [read?]
    cases parts? text <;> rfl
  rw [same]
  constructor
  · -- What the reader has taken, part by part, makes a heading.
    intro reads
    obtain ⟨⟨name, rest⟩, reads⟩ := Option.isSome_iff_exists.mp reads
    simp only [parts?, Option.bind_eq_bind, Option.bind_eq_some_iff] at reads
    obtain ⟨afterDashes, dashes, afterWord, word, afterColon, colon, reads⟩ := reads
    -- Each part comes after the blanks that are trimmed before it.
    have margins : ∀ other : Text, Text.Blank (other.takeWhile isBlank) := fun other c member =>
      List.all_eq_true.mp List.all_takeWhile c member
    have parts : ∀ other : Text, other = other.takeWhile isBlank ++ other.trimStart := fun other =>
      List.takeWhile_append_dropWhile.symm
    obtain ⟨twice, dashed, lowered⟩ := after?_eq_some_iff.mp dashes
    obtain ⟨first, _, rfl, one, others⟩ := List.map_eq_cons_iff.mp lowered
    obtain ⟨second, _, rfl, two, none⟩ := List.map_eq_cons_iff.mp others
    obtain rfl := eq_of_toLower (by decide) one
    obtain rfl := eq_of_toLower (by decide) two
    obtain rfl := List.map_eq_nil_iff.mp none
    obtain ⟨spelled, worded, lowered⟩ := after?_eq_some_iff.mp word
    obtain ⟨single, coloned, marked⟩ := after?_eq_some_iff.mp colon
    obtain ⟨mark, _, rfl, lower, none⟩ := List.map_eq_cons_iff.mp marked
    obtain rfl := eq_of_toLower (by decide) lower
    obtain rfl := List.map_eq_nil_iff.mp none
    have dashed : text.trimStart = '-' :: '-' :: afterDashes := dashed
    have coloned : afterWord.trimStart = ':' :: afterColon := coloned
    split at reads
    · rename_i named
      simp only [Option.bind_eq_some_iff] at reads
      obtain ⟨_, ended, _⟩ := reads
      have named : Names (firstWord afterColon.trimStart) := by
        refine names_iff.mpr ⟨named, fun c member => ?_⟩
        simpa using List.all_eq_true.mp List.all_takeWhile c member
      have ended := endOfLine?_isSome_iff.mp (Option.isSome_iff_exists.mpr ⟨_, ended⟩)
      -- The name is a beginning of what follows the blanks after the colon.
      have cut : firstWord afterColon.trimStart ++
          afterColon.trimStart.drop (firstWord afterColon.trimStart).length =
            afterColon.trimStart :=
        List.prefix_iff_eq_append.mp (List.takeWhile_prefix _)
      have begins := Begins.intro (margins text) (margins afterDashes) lowered (margins afterWord)
        (margins afterColon) named ended
      rwa [cut, ← parts afterColon, ← coloned, ← parts afterWord, ← worded, ← parts afterDashes,
        ← dashed, ← parts text] at begins
    · contradiction
  · intro begins
    cases begins with
    | intro margined gapped spelled paused spaced named ended =>
      rw [parts?_of_parts margined gapped spelled paused spaced named ended, Option.isSome_map]
      exact endOfLine?_isSome_iff.mpr ended

/-- The end of a text ends its last line. -/
theorem endsLine_nil : EndsLine [] :=
  @EndsLine.intro [] [] Text.blank_nil (Or.inl rfl)

/-- A line ends with a newline, or with a blank before the end of the line. -/
theorem endsLine_cons_iff {c : Char} {text : Text} :
    EndsLine (c :: text) ↔ c = '\n' ∨ isBlank c = true ∧ EndsLine text := by
  constructor
  · intro ends
    generalize whole : c :: text = all at ends
    cases ends with
    | @intro blanks rest blank ends =>
      cases blanks with
      | nil =>
        -- The line ends at once, so there is nothing left or a newline.
        rw [List.nil_append] at whole
        subst whole
        exact Or.inl (by simpa using ends)
      | cons d blanks =>
        -- The first character is a blank, and the line ends after it.
        obtain ⟨rfl, rfl⟩ := List.cons.inj whole
        have others : Text.Blank blanks := fun e member => blank e (List.mem_cons_of_mem _ member)
        exact Or.inr ⟨blank c (List.mem_cons_self ..), .intro others ends⟩
  · rintro (rfl | ⟨first, ends⟩)
    · exact @EndsLine.intro [] ('\n' :: text) Text.blank_nil (Or.inr rfl)
    · cases ends with
      | @intro blanks rest blank ends =>
        have more : Text.Blank (c :: blanks) := List.forall_mem_cons.mpr ⟨first, blank⟩
        exact .intro more ends

/-- The end of a line goes on to the end of a line. -/
theorem EndsLine.append {text rest : Text} (ends : EndsLine text) (also : EndsLine rest) :
    EndsLine (text ++ rest) := by
  -- All that follows on the line of the first text is blank, and the second text goes on after it.
  induction text with
  | nil => exact also
  | cons c text ih =>
    rw [List.cons_append, endsLine_cons_iff]
    exact (endsLine_cons_iff.mp ends).imp_right fun further => ⟨further.1, ih further.2⟩

/-- A text that does not end with a blank ends its line by itself, if it does so with a newline
after it. -/
theorem EndsLine.of_append {text rest : Text} (solid : ∀ c ∈ text.getLast?, isBlank c = false)
    (ends : EndsLine (text ++ '\n' :: rest)) : EndsLine text := by
  induction text with
  | nil => exact endsLine_nil
  | cons c text ih =>
    rw [List.cons_append, endsLine_cons_iff] at ends
    rw [endsLine_cons_iff]
    refine ends.imp_right fun further => ⟨further.1, ?_⟩
    cases text with
    | nil =>
      -- A blank alone would be the last character.
      have last := solid c rfl
      rw [further.1] at last
      contradiction
    | cons d text => exact ih (by simpa using solid) further.2

/-- A heading still begins a text when the line goes on to its end after it. -/
theorem Begins.append {text rest : Text} (begins : Begins text) (ends : EndsLine rest) :
    Begins (text ++ rest) := by
  -- Only what comes after the name is longer, and it still ends the line.
  cases begins with
  | intro margined gapped spelled paused spaced named ended =>
    have whole := Begins.intro margined gapped spelled paused spaced named (ended.append ends)
    simpa only [List.append_assoc, List.cons_append] using whole

/-- A heading begins with its dashes when no blank is before them. -/
theorem Begins.dashes {text : Text} (begins : Begins text)
    (solid : ∀ c ∈ text.head?, isBlank c = false) : ['-', '-'] <+: text := by
  -- The dashes come after the margin, which is empty when its first character would be a blank.
  cases begins with
  | @intro margin _ _ _ _ _ _ margined =>
    cases margin with
    | nil => exact List.prefix_append ['-', '-'] _
    | cons c margin =>
      have blank := margined c (List.mem_cons_self ..)
      rw [solid c rfl] at blank
      contradiction

/-- No heading begins the empty text. -/
theorem not_begins_nil : ¬ Begins [] := by
  -- A heading has at least its two dashes.
  intro begins
  generalize empty : ([] : Text) = text at begins
  cases begins with
  | intro => simp at empty

section Straddling

variable {text rest further : Text}

/-- A word that a text with a newline after it begins with lies in the text, if the newline is not
in the word. -/
theorem word_within {mark : Char} {word : Text} (absent : mark ∉ word)
    (whole : word ++ further = text ++ mark :: rest) :
    ∃ later, text = word ++ later ∧ further = later ++ mark :: rest := by
  -- The word ends in the text, or else the text ends in the word, which then has the newline.
  rcases List.append_eq_append_iff.mp whole with ⟨later, same, split⟩ | ⟨later, same, split⟩
  · exact ⟨later, same, split⟩
  · cases later with
    | nil => exact ⟨[], by simpa using same.symm, split.symm⟩
    | cons c later =>
      obtain ⟨rfl, -⟩ := List.cons.inj split
      exact absurd (by simp [same]) absent

/-- Blanks that a text with a newline after it begins with lie in the text, or nothing else does
and they go on after the newline. -/
theorem blanks_within {blanks : Text} (blank : blanks.Blank)
    (solid : ∀ c ∈ text.getLast?, isBlank c = false)
    (whole : blanks ++ further = text ++ '\n' :: rest) :
    (∃ later, text = blanks ++ later ∧ further = later ++ '\n' :: rest) ∨
      text = [] ∧ ∃ more, Text.Blank more ∧ rest = more ++ further := by
  rcases List.append_eq_append_iff.mp whole with ⟨later, same, split⟩ | ⟨later, same, split⟩
  · exact Or.inl ⟨later, same, split⟩
  · rw [same] at blank
    -- The text is of blanks, and yet it does not end with one.
    have emptied : text = [] := by
      by_contra present
      have last := blank.of_append.1 _ (List.getLast_mem present)
      rw [solid _ (List.getLast?_eq_some_getLast present)] at last
      contradiction
    cases later with
    | nil => exact Or.inl ⟨[], by simpa using same.symm, split.symm⟩
    | cons c later =>
      obtain ⟨rfl, rfl⟩ := List.cons.inj split
      have blank := (@Text.Blank.of_append ['\n'] later blank.of_append.2).2
      exact Or.inr ⟨emptied, later, blank, rfl⟩

/-- The end of a text that does not end with a blank does not either. -/
theorem solid_of_append {first second : Text}
    (solid : ∀ c ∈ (first ++ second).getLast?, isBlank c = false) :
    ∀ c ∈ second.getLast?, isBlank c = false := by
  -- The last character of the second text is that of both together.
  intro c last
  refine solid c ?_
  rw [List.getLast?_append, Option.mem_def.mp last]
  rfl

/-- What a source may go on with after a newline: nothing, or the dashes of a heading and its word
after one space. -/
def Resumes (rest : Text) : Prop :=
  rest = [] ∨ ∃ later, rest = '-' :: '-' :: ' ' :: 'n' :: later

/-- What comes after the blanks at the beginning of such a rest is all of it. -/
theorem Resumes.eq_of_append {more : Text} (resumes : Resumes rest) (blank : more.Blank)
    (present : further ≠ []) (whole : rest = more ++ further) :
    ∃ later, further = '-' :: '-' :: ' ' :: 'n' :: later := by
  rcases resumes with rfl | ⟨later, rfl⟩
  · -- Nothing is left to be anything.
    exact absurd (List.append_eq_nil_iff.mp whole.symm).2 present
  · cases more with
    | nil => exact ⟨later, whole.symm⟩
    | cons c more =>
      -- A dash is no blank.
      have first := blank c (List.mem_cons_self ..)
      obtain ⟨rfl, -⟩ := List.cons.inj whole
      contradiction

/-- Blanks before a part of a heading that does not begin with a dash lie in the text. -/
theorem Resumes.blanks_within (resumes : Resumes rest) {blanks : Text} {c : Char}
    (blank : blanks.Blank) (solid : ∀ d ∈ text.getLast?, isBlank d = false) (undashed : c ≠ '-')
    (whole : blanks ++ c :: further = text ++ '\n' :: rest) :
    ∃ later, text = blanks ++ later ∧ c :: further = later ++ '\n' :: rest := by
  -- Otherwise the blanks would go on behind the text, where only a dash could follow them.
  rcases Heading.blanks_within blank solid whole with within | ⟨-, more, blank, straddles⟩
  · exact within
  · obtain ⟨_, same⟩ := resumes.eq_of_append blank (by simp) straddles
    exact absurd (List.cons.inj same).1 undashed

/-- The blanks before a name lie in the text: two dashes are no name that ends its line. -/
theorem Resumes.space_within (resumes : Resumes rest) {space name tail : Text}
    (blank : space.Blank) (solid : ∀ c ∈ text.getLast?, isBlank c = false) (named : Names name)
    (ended : EndsLine tail) (whole : space ++ (name ++ tail) = text ++ '\n' :: rest) :
    ∃ later, text = space ++ later ∧ name ++ tail = later ++ '\n' :: rest := by
  rcases Heading.blanks_within blank solid whole with within | ⟨-, more, blank, straddles⟩
  · exact within
  · have present := named.ne_nil
    obtain ⟨others, same⟩ := resumes.eq_of_append blank (by simp [present]) straddles
    -- The name ends at the space after the dashes, and so the letter after it is in the way.
    have gap : ' ' ∉ name := fun member => absurd (named.solid ' ' member) (by decide)
    obtain ⟨later, dashes, rfl⟩ := @word_within ['-', '-'] ('n' :: others) tail ' ' name gap same
    cases later with
    | nil => simp [endsLine_cons_iff, isBlank, CodeRange.Table.holds, blankRanges] at ended
    | cons c later =>
      have dash : c ∈ ['-', '-'] := dashes ▸ by simp
      obtain rfl : c = '-' := by simpa using dash
      simp [endsLine_cons_iff, isBlank, CodeRange.Table.holds, blankRanges] at ended

/-- No heading straddles a newline between a text that does not end with a blank and what a source
may go on with: it begins the text by itself. -/
theorem Begins.of_append (present : text ≠ []) (solid : ∀ c ∈ text.getLast?, isBlank c = false)
    (resumes : Resumes rest) (begins : Begins (text ++ '\n' :: rest)) : Begins text := by
  generalize straddling : text ++ '\n' :: rest = all at begins
  cases begins with
  | @intro margin gap word pause space name tail margined gapped spelled paused spaced named
      ended =>
    -- Part by part, the heading is found to lie within the text.
    rcases blanks_within margined solid straddling.symm with ⟨inDashes, rfl, dashed⟩ | ⟨empty, -⟩
    · have solid := solid_of_append solid
      obtain ⟨inGap, rfl, gap_⟩ := @word_within _ _ _ '\n' ['-', '-'] (by decide) dashed
      have solid := @solid_of_append ['-', '-'] inGap solid
      obtain ⟨first, others, rfl, lower, -⟩ := List.map_eq_cons_iff.mp spelled
      have letter : first ≠ '-' := by
        rintro rfl
        contradiction
      -- The blanks of the gap end in the text, for otherwise the rest would resume with the word.
      obtain ⟨inWord, rfl, worded⟩ := resumes.blanks_within gapped solid letter gap_
      have solid := solid_of_append solid
      have inLine : '\n' ∉ first :: others := fun member => by
        have lowered := @List.mem_map_of_mem _ _ _ _ Char.toLower member
        rw [spelled] at lowered
        contradiction
      obtain ⟨inPause, rfl, pause_⟩ := word_within inLine worded
      have solid := solid_of_append solid
      obtain ⟨inColon, rfl, coloned⟩ := resumes.blanks_within paused solid (by decide) pause_
      have solid := solid_of_append solid
      obtain ⟨inSpace, rfl, space_⟩ := @word_within _ _ _ '\n' [':'] (by decide) coloned
      have solid := @solid_of_append [':'] inSpace solid
      -- With the name in the text, only the blanks after it may go on.
      obtain ⟨inName, rfl, named_⟩ := resumes.space_within spaced solid named ended space_
      have solid := solid_of_append solid
      have inLine : '\n' ∉ name := fun member => absurd (named.solid _ member) (by decide)
      obtain ⟨inTail, rfl, rfl⟩ := word_within inLine named_
      have ended := EndsLine.of_append (solid_of_append solid) ended
      have begins := Begins.intro margined gapped spelled paused spaced named ended
      exact begins
    · exact absurd empty present

end Straddling

end Heading

end SqlTemplate
