import Mathlib.Data.List.DropRight
import SqlTemplate.Text.Blank

/-! Trimming takes the blanks off both ends of a text, and cutting a text at a mark is undone by
putting the mark back. -/

namespace SqlTemplate.Text

/-- A text of blanks alone. -/
def Blank (text : Text) : Prop :=
  ∀ c ∈ text, isBlank c = true

/-- A text that neither begins nor ends with a blank. -/
structure Trimmed (text : Text) : Prop where
  /-- Its first character is no blank. -/
  first : ∀ c ∈ text.head?, isBlank c = false
  /-- Its last character is no blank. -/
  last : ∀ c ∈ text.getLast?, isBlank c = false

/-- The empty text is of blanks. -/
theorem blank_nil : Blank [] := by
  intro c member
  cases member

/-- A blank alone is a text of blanks. -/
theorem blank_singleton {c : Char} (blank : isBlank c = true) : Blank [c] := by
  intro d member
  rwa [List.mem_singleton.mp member]

/-- Blanks one after the other are blanks. -/
theorem Blank.append {first second : Text} (blank : Blank first) (also : Blank second) :
    Blank (first ++ second) := by
  -- A character of both texts together is one of either.
  intro c member
  rcases List.mem_append.mp member with left | right
  · exact blank c left
  · exact also c right

/-- Both parts of blanks are of blanks. -/
theorem Blank.of_append {first second : Text} (blank : Blank (first ++ second)) :
    Blank first ∧ Blank second :=
  ⟨fun c member => blank c (List.mem_append_left _ member),
    fun c member => blank c (List.mem_append_right _ member)⟩

/-- Two texts are of blanks one after the other when both are. -/
theorem blank_append_iff {first second : Text} :
    Blank (first ++ second) ↔ Blank first ∧ Blank second :=
  ⟨Blank.of_append, fun ⟨blank, also⟩ => blank.append also⟩

/-- A text that does not begin with a blank is left after the blanks before it. -/
theorem trimStart_append {blanks text : Text} (blank : Blank blanks)
    (first : ∀ c ∈ text.head?, isBlank c = false) : trimStart (blanks ++ text) = text := by
  -- All of the blanks are dropped, and then the first character stops it.
  rw [trimStart, List.dropWhile_append_of_pos blank]
  cases text with
  | nil => rfl
  | cons c rest =>
    have solid : isBlank c = false := first c rfl
    exact List.dropWhile_cons_of_neg (by simp [solid])

/-- A text that does not end with a blank is left before the blanks after it. -/
theorem trimEnd_append {text blanks : Text} (blank : Blank blanks)
    (last : ∀ c ∈ text.getLast?, isBlank c = false) : trimEnd (text ++ blanks) = text := by
  -- Read backwards, the blanks come first.
  have reversed := @trimStart_append blanks.reverse text.reverse
    (fun c member => blank c (List.mem_reverse.mp member))
    (fun c member => last c (by rwa [List.head?_reverse] at member))
  rw [trimStart, ← List.reverse_append] at reversed
  rw [trimEnd, dropEndWhile, reversed, List.reverse_reverse]

/-- A trimmed text is what trimming leaves of it between blanks. -/
theorem trim_append {before core after : Text} (blank : Blank before) (also : Blank after)
    (trimmed : core.Trimmed) : trim (before ++ core ++ after) = core := by
  cases core with
  | nil =>
    -- Nothing but blanks is trimmed away from the left.
    have emptied : trimStart (before ++ [] ++ after) = [] := by
      rw [trimStart, List.dropWhile_eq_nil_iff, List.append_nil]
      exact blank.append also
    rw [trim, emptied]
    rfl
  | cons c rest =>
    -- The blanks go from the left first and then from the right.
    have start : trimStart (before ++ (c :: rest ++ after)) = c :: rest ++ after :=
      trimStart_append blank fun d first => trimmed.first d first
    rw [trim, List.append_assoc, start, trimEnd_append also trimmed.last]

/-- A trimmed text is left as it is by trimming. -/
theorem Trimmed.trim_eq {text : Text} (trimmed : text.Trimmed) : text.trim = text := by
  -- It stands between no blanks on either side.
  have whole := trim_append blank_nil blank_nil trimmed
  rwa [List.nil_append, List.append_nil] at whole

/-- What trimming leaves at the left does not begin with a blank. -/
theorem head?_trimStart (text : Text) : ∀ c ∈ (trimStart text).head?, isBlank c = false := by
  -- All blanks at the front have been dropped, and the first character was kept.
  intro c first
  have kept := List.head?_dropWhile_not isBlank text
  rw [trimStart] at first
  rw [first] at kept
  exact kept

/-- A text is what trimming leaves of it, between the blanks that it takes away. -/
theorem trim_split (text : Text) :
    ∃ before after, Blank before ∧ Blank after ∧ text = before ++ text.trim ++ after := by
  have blanks : ∀ other : Text, Blank (other.takeWhile isBlank) := fun other c member =>
    List.all_eq_true.mp List.all_takeWhile c member
  refine ⟨text.takeWhile isBlank, ((trimStart text).reverse.takeWhile isBlank).reverse, blanks text,
    fun c member => blanks _ c (List.mem_reverse.mp member), ?_⟩
  -- Both sides of a text at its end are a text read backwards.
  have end_ : (trimStart text).trimEnd ++ ((trimStart text).reverse.takeWhile isBlank).reverse =
      trimStart text := by
    rw [trimEnd, dropEndWhile, ← List.reverse_append, List.takeWhile_append_dropWhile,
      List.reverse_reverse]
  rw [trim, List.append_assoc, end_, trimStart, List.takeWhile_append_dropWhile]

/-- Trimming leaves a trimmed text. -/
theorem trimmed_trim (text : Text) : text.trim.Trimmed := by
  have start := head?_trimStart text
  have turned := head?_trimStart (trimStart text).reverse
  refine ⟨?_, ?_⟩
  · -- Taking blanks away at the end changes the first character only when nothing is left.
    have front : text.trim <+: trimStart text := List.rdropWhile_prefix isBlank (trimStart text)
    obtain ⟨rest, whole⟩ := front
    intro c first
    refine start c ?_
    rw [← whole, List.head?_append, Option.mem_def.mp first]
    rfl
  · intro c last
    refine turned c ?_
    rw [trim, trimEnd, dropEndWhile, List.getLast?_reverse] at last
    exact last

/-- A text is trimmed when trimming changes nothing in it. -/
theorem trim_eq_self_iff {text : Text} : text.trim = text ↔ text.Trimmed := by
  -- What trimming gives is trimmed, and what is trimmed has nothing to lose.
  constructor
  · intro same
    rw [← same]
    exact trimmed_trim text
  · exact Trimmed.trim_eq

/-- Trimming leaves something of a text that is not of blanks alone. -/
theorem trim_ne_nil {text : Text} {c : Char} (member : c ∈ text) (solid : isBlank c = false) :
    text.trim ≠ [] := by
  -- Otherwise the text would be of blanks, and so would this character.
  intro emptied
  obtain ⟨before, after, blank, also, whole⟩ := trim_split text
  rw [emptied, List.append_nil] at whole
  rw [whole] at member
  rw [blank.append also c member] at solid
  contradiction

/-- Trimming leaves nothing of just the texts of blanks alone. -/
theorem trim_eq_nil_iff {text : Text} : text.trim = [] ↔ text.Blank := by
  -- A character that is no blank stays, wherever it stands.
  constructor
  · intro emptied c member
    by_contra solid
    exact trim_ne_nil member (Bool.eq_false_iff.mpr solid) emptied
  · intro blank
    have whole := @trim_append text [] [] blank blank_nil ⟨by simp, by simp⟩
    rwa [List.append_nil, List.append_nil] at whole

/-- Trimming leaves the beginning of a text that does not begin with a blank. -/
theorem trim_prefix {text : Text} (first : ∀ c ∈ text.head?, isBlank c = false) :
    text.trim <+: text := by
  -- Nothing goes at the left, and at the right only an end goes.
  have start : text.trimStart = text := trimStart_append blank_nil first
  rw [trim, start]
  exact List.rdropWhile_prefix isBlank text

/-- Blanks before a text are trimmed away with those that it begins with. -/
theorem trim_blank_append {blanks : Text} (blank : Blank blanks) (text : Text) :
    trim (blanks ++ text) = text.trim := by
  -- The blanks and those that the text begins with are one run of blanks.
  obtain ⟨before, after, front, back, whole⟩ := trim_split text
  have split : blanks ++ text = (blanks ++ before) ++ text.trim ++ after := by
    conv_lhs => rw [whole]
    simp
  rw [split, trim_append (blank.append front) back (trimmed_trim text)]

/-- Blanks after a text are trimmed away with those that it ends with. -/
theorem trim_append_blank {blanks : Text} (blank : Blank blanks) (text : Text) :
    trim (text ++ blanks) = text.trim := by
  -- The blanks and those that the text ends with are one run of blanks.
  obtain ⟨before, after, front, back, whole⟩ := trim_split text
  have split : text ++ blanks = before ++ text.trim ++ (after ++ blanks) := by
    conv_lhs => rw [whole]
    simp
  rw [split, trim_append front (back.append blank) (trimmed_trim text)]

section Pieces

variable {mark : Char}

/-- A text is cut as a list is split at every occurrence of a value. -/
theorem pieces_eq_splitOn (text : Text) : text.pieces mark = List.splitOn mark text := by
  -- Both go through the text from its end, and add each character to the first piece or begin
  -- another.
  induction text with
  | nil => rfl
  | cons c rest ih =>
    have some := @List.splitOn_ne_nil _ _ mark rest
    rw [pieces, List.splitOn_cons_eq_if_modifyHead, ih]
    cases found : List.splitOn mark rest with
    | nil => contradiction
    | cons piece others => simp

/-- A text has at least one piece. -/
theorem pieces_ne_nil (text : Text) : text.pieces mark ≠ [] := by
  -- The library's cut has the same pieces, and at least one of them.
  rw [pieces_eq_splitOn]
  exact List.splitOn_ne_nil mark text

/-- A text is cut at a mark within it. -/
theorem pieces_append (front rest : Text) :
    (front ++ mark :: rest).pieces mark = front.pieces mark ++ rest.pieces mark := by
  -- The library's cut has the same pieces.
  simp only [pieces_eq_splitOn, List.splitOn_append_cons_self]

/-- A text without a mark joins the first piece of the text after it. -/
theorem pieces_append_of_not_mem {front text piece : Text} {others : List Text}
    (unmarked : mark ∉ front) (cut : text.pieces mark = piece :: others) :
    (front ++ text).pieces mark = (front ++ piece) :: others := by
  -- Each character in front is no mark, so it is added to the first piece.
  induction front with
  | nil => exact cut
  | cons c front ih =>
    obtain ⟨other, absent⟩ := List.ne_and_not_mem_of_not_mem_cons unmarked
    rw [List.cons_append, pieces, if_neg other.symm, ih absent]
    rfl

/-- A text without a mark is one piece. -/
theorem pieces_of_not_mem {text : Text} (unmarked : mark ∉ text) : text.pieces mark = [text] := by
  -- There is no mark in it to cut at, so it goes to the one piece of the empty text after it.
  have whole := @pieces_append_of_not_mem mark text [] [] [] unmarked rfl
  rwa [List.append_nil] at whole

/-- The pieces of a text do not hold the mark. -/
theorem not_mem_of_mem_pieces {text piece : Text} (member : piece ∈ text.pieces mark) :
    mark ∉ piece := by
  induction text generalizing piece with
  | nil =>
    rw [List.mem_singleton.mp member]
    exact List.not_mem_nil
  | cons c rest ih =>
    have some := @pieces_ne_nil mark rest
    rw [pieces] at member
    cases found : pieces mark rest with
    | nil => contradiction
    | cons first others =>
      rw [found] at ih member
      by_cases same : c = mark
      · -- The first piece is empty, and the others are those of the rest.
        rw [if_pos same] at member
        rcases List.mem_cons.mp member with rfl | later
        · exact List.not_mem_nil
        · exact ih later
      · -- Another character goes before the first piece of the rest.
        rw [if_neg same] at member
        rcases List.mem_cons.mp member with rfl | later
        · exact List.not_mem_cons_of_ne_of_not_mem (Ne.symm same) (ih (List.mem_cons_self ..))
        · exact ih (List.mem_cons_of_mem _ later)

/-- The pieces of a text are put together with the mark between them. -/
theorem intercalate_pieces (text : Text) : [mark].intercalate (text.pieces mark) = text := by
  -- The library's cut has the same pieces, which it puts together again.
  rw [pieces_eq_splitOn, List.intercalate_splitOn]

/-- Every character of pieces put together is a mark or in a piece. -/
theorem mem_intercalate {c : Char} {pieces : List Text}
    (member : c ∈ [mark].intercalate pieces) : c = mark ∨ ∃ piece ∈ pieces, c ∈ piece := by
  induction pieces with
  | nil => contradiction
  | cons piece others ih =>
    cases others with
    | nil =>
      rw [List.intercalate_singleton] at member
      exact Or.inr ⟨piece, List.mem_cons_self .., member⟩
    | cons next others =>
      -- The character is in the first piece, it is the mark after that, or it comes later.
      rw [List.intercalate_cons_cons, List.mem_append, List.mem_append] at member
      rcases member with (inside | between) | later
      · exact Or.inr ⟨piece, List.mem_cons_self .., inside⟩
      · exact Or.inl (List.mem_singleton.mp between)
      · exact (ih later).imp_right fun ⟨other, listed, inside⟩ =>
          ⟨other, List.mem_cons_of_mem _ listed, inside⟩

/-- Pieces put together begin with the first one, and a mark follows it if there are others. -/
theorem intercalate_cons (piece : Text) (others : List Text) :
    ∃ rest, [mark].intercalate (piece :: others) = piece ++ rest ∧
      (rest = [] ∨ rest.head? = some mark) := by
  -- Only a piece that others follow has a mark after it.
  cases others with
  | nil => exact ⟨[], by simp, Or.inl rfl⟩
  | cons next others =>
    refine ⟨mark :: [mark].intercalate (next :: others), ?_, Or.inr rfl⟩
    rw [List.intercalate_cons_cons, List.append_assoc]
    rfl

/-- Pieces without the mark are what a text made of them is cut into. -/
theorem pieces_intercalate {pieces : List Text} (present : pieces ≠ [])
    (unmarked : ∀ piece ∈ pieces, mark ∉ piece) :
    Text.pieces mark ([mark].intercalate pieces) = pieces := by
  -- The library's cut has the same pieces, and undoes what puts them together.
  rw [pieces_eq_splitOn, List.splitOn_intercalate mark unmarked present]

/-- The first piece of a text goes up to the first mark. -/
theorem head?_pieces (text : Text) :
    (text.pieces mark).head? = some (text.takeWhile (· ≠ mark)) := by
  -- At a mark the first piece has come to its end.
  induction text with
  | nil => rfl
  | cons c rest ih =>
    have some := @pieces_ne_nil mark rest
    rw [pieces]
    by_cases same : c = mark
    · rw [if_pos same, List.takeWhile_cons_of_neg (by simp [same])]
      rfl
    · -- Any other character is the first one of the first piece.
      rw [if_neg same, List.takeWhile_cons_of_pos (by simp [same])]
      cases found : pieces mark rest with
      | nil => contradiction
      | cons piece others =>
        rw [found, List.head?_cons, Option.some.injEq] at ih
        rw [← ih]
        rfl

/-- The characters after the last mark of a text are read from its end. -/
theorem afterLast_eq {front last : Text} (single : mark ∉ last) :
    ((front ++ mark :: last).reverse.takeWhile (· ≠ mark)).reverse = last := by
  -- Read from its end, the text has no mark before the characters are over.
  have others : ∀ c ∈ last.reverse, (decide (c ≠ mark)) = true := by
    intro c member
    have listed := List.mem_reverse.mp member
    simpa using fun same : c = mark => single (same ▸ listed)
  rw [List.reverse_append, List.reverse_cons, List.append_assoc,
    List.takeWhile_append_of_pos others, List.singleton_append,
    List.takeWhile_cons_of_neg (by simp), List.append_nil, List.reverse_reverse]

/-- A text with a mark is cut at the last one. -/
theorem exists_last {text : Text} (marked : mark ∈ text) :
    ∃ front last, text = front ++ mark :: last ∧ mark ∉ last := by
  -- Read backwards, the last mark comes first.
  obtain ⟨last, front, whole, single⟩ :=
    List.eq_append_cons_of_mem (List.mem_reverse.mpr marked)
  refine ⟨front.reverse, last.reverse, ?_, by simpa using single⟩
  rw [← List.reverse_reverse text, whole]
  simp

/-- Pieces before others are put together apart from them, with a mark between the two. -/
theorem intercalate_append {front others : List Text} (present : front ≠ [])
    (also : others ≠ []) : [mark].intercalate (front ++ others) =
      [mark].intercalate front ++ mark :: [mark].intercalate others := by
  -- The pieces in front are put on one by one, and the mark between the two comes after the last of
  -- them.
  induction front with
  | nil => contradiction
  | cons piece front ih =>
    obtain ⟨next, rest, rfl⟩ := List.exists_cons_of_ne_nil also
    cases front with
    | nil => simp [List.intercalate_cons_cons]
    | cons second front =>
      rw [List.cons_append, List.cons_append, List.intercalate_cons_cons,
        List.intercalate_cons_cons, ← List.cons_append, ih (by simp)]
      simp

/-- A text has one piece more than marks. -/
theorem length_pieces (text : Text) : (text.pieces mark).length = text.count mark + 1 := by
  -- A mark begins a new piece, and any other character goes into one that is there.
  induction text with
  | nil => rfl
  | cons c rest ih =>
    have some := @pieces_ne_nil mark rest
    rw [pieces]
    by_cases same : c = mark
    · rw [if_pos same, List.length_cons, ih, same, List.count_cons_self]
    · rw [if_neg same, List.count_cons_of_ne same]
      cases found : pieces mark rest with
      | nil => contradiction
      | cons piece others => rwa [found] at ih

/-- As many pieces as there are marks in the front of a text come before the piece where the front
ends. That piece begins after the last mark in the front and goes on to the next mark. -/
theorem getElem?_pieces_count (front rest : Text) :
    (Text.pieces mark (front ++ rest))[front.count mark]? =
      some ((front.reverse.takeWhile (· ≠ mark)).reverse ++ rest.takeWhile (· ≠ mark)) := by
  have unmarked : ∀ line : Text, mark ∉ line → ∀ c ∈ line, decide (c ≠ mark) = true := by
    intro line absent c member
    simpa using fun same : c = mark => absent (same ▸ member)
  by_cases marked : mark ∈ front
  · -- All pieces up to the last mark are passed over.
    obtain ⟨before, last, rfl, absent⟩ := exists_last marked
    have passed : (before ++ mark :: last).count mark = (before.pieces mark).length := by
      rw [length_pieces, List.count_append, List.count_cons_self, List.count_eq_zero.mpr absent]
    rw [passed, List.append_assoc, List.cons_append, pieces_append,
      List.getElem?_append_right (le_refl _), Nat.sub_self, ← List.head?_eq_getElem?, head?_pieces,
      List.takeWhile_append_of_pos (unmarked last absent), afterLast_eq absent]
  · -- Without a mark the front is the beginning of the first piece.
    have kept : (front.reverse.takeWhile (· ≠ mark)) = front.reverse :=
      List.takeWhile_eq_self_iff.mpr (unmarked front.reverse (by simpa using marked))
    rw [List.count_eq_zero.mpr marked, ← List.head?_eq_getElem?, head?_pieces,
      List.takeWhile_append_of_pos (unmarked front marked), kept, List.reverse_reverse]

end Pieces

end SqlTemplate.Text
