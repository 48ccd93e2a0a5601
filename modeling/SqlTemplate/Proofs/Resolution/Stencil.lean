import Mathlib.Algebra.GroupWithZero.Nat
import SqlTemplate.Proofs.Resolution.Reading
import SqlTemplate.Proofs.Text.Trimming

/-! A query has one hole for each value, and the marker of the settings stands in every hole. -/

namespace SqlTemplate

/-- A text with holes, each of which takes the place of a character. -/
abbrev Stencil := List (Option Char)

namespace Stencil

/-- The text of a stencil with a marker in every hole. -/
def mark (marker : Text) (stencil : Stencil) : Text :=
  stencil.flatMap fun place => place.elim marker fun c => [c]

/-- A text as a stencil without holes. -/
def ofText (text : Text) : Stencil :=
  text.map some

/-- How many holes a stencil has. -/
def holes (stencil : Stencil) : Nat :=
  stencil.count none

/-- The texts before, between and after the holes of a stencil. -/
def literals : Stencil → List Text
  | [] => [[]]
  | none :: rest => [] :: literals rest
  | some c :: rest => (literals rest).modifyHead (c :: ·)

/-- Whether a place holds a blank, which a hole does not. -/
def isBlankPlace (place : Option Char) : Bool :=
  place.any isBlank

/-- A stencil without the blanks at its two ends. -/
def trim (stencil : Stencil) : Stencil :=
  (stencil.dropWhile isBlankPlace).rdropWhile isBlankPlace

section Holes

/-- The holes of two stencils add up. -/
@[simp] theorem holes_append (first second : Stencil) :
    holes (first ++ second) = holes first + holes second :=
  List.count_append

/-- A text has no holes. -/
@[simp] theorem holes_ofText (text : Text) : holes (ofText text) = 0 := by
  -- A hole among its places would be a character.
  refine List.count_eq_zero.mpr fun member => ?_
  obtain ⟨c, _, same⟩ := List.mem_map.mp member
  cases same

/-- A text between stencils adds no holes to theirs. -/
theorem holes_intercalate (text : Text) (stencils : List Stencil) :
    holes ((ofText text).intercalate stencils) = (stencils.map holes).sum := by
  induction stencils with
  | nil => rfl
  | cons stencil rest ih =>
    cases rest with
    | nil => simp
    | cons next others =>
      -- The text comes once between the first stencil and the others.
      rw [List.intercalate_cons_cons, holes_append, holes_append, ih, holes_ofText]
      simp

/-- Blanks at the beginning of a stencil are no holes. -/
theorem holes_dropWhile (stencil : Stencil) :
    holes (stencil.dropWhile isBlankPlace) = holes stencil := by
  -- The holes lie in what is dropped and in what is left, and there are none in what is dropped.
  have whole := congrArg holes
    (List.takeWhile_append_dropWhile (p := isBlankPlace) (l := stencil))
  have cut : holes (stencil.takeWhile isBlankPlace) = 0 := by
    refine List.count_eq_zero.mpr fun member => ?_
    have blank := List.all_eq_true.mp (List.all_takeWhile (p := isBlankPlace)) none member
    exact Bool.false_ne_true blank
  rw [holes_append, cut, Nat.zero_add] at whole
  exact whole

/-- Trimming a stencil keeps its holes. -/
theorem holes_trim (stencil : Stencil) : holes (trim stencil) = holes stencil := by
  -- The blanks at the end are those at the beginning of the reversed stencil.
  have reversed : ∀ other : Stencil, holes other.reverse = holes other := fun _ =>
    List.count_reverse
  rw [trim, List.rdropWhile, reversed, holes_dropWhile, reversed, holes_dropWhile]

/-- There is one more literal than there are holes. -/
theorem length_literals (stencil : Stencil) : (literals stencil).length = holes stencil + 1 := by
  induction stencil with
  | nil => rfl
  | cons place rest ih =>
    cases place with
    | none =>
      -- A hole begins a new literal.
      have more : holes (none :: rest) = holes rest + 1 := List.count_cons_self
      rw [literals, List.length_cons, ih, more]
    | some c =>
      -- A character joins the first literal.
      have same : holes (some c :: rest) = holes rest := List.count_cons_of_ne (by simp)
      rw [literals, List.length_modifyHead, ih, same]

end Holes

section Marks

variable {marker : Text}

/-- A single hole is marked with the marker. -/
@[simp] theorem mark_hole : mark marker [none] = marker := by
  simp [mark]

/-- The first place is marked before the others. -/
theorem mark_cons (place : Option Char) (rest : Stencil) :
    mark marker (place :: rest) = place.elim marker (fun c => [c]) ++ mark marker rest :=
  List.flatMap_cons

/-- Two stencils are marked one after the other. -/
@[simp] theorem mark_append (first second : Stencil) :
    mark marker (first ++ second) = mark marker first ++ mark marker second :=
  List.flatMap_append

/-- A text is what it is with any marker. -/
@[simp] theorem mark_ofText (text : Text) : mark marker (ofText text) = text := by
  -- A text has no holes.
  simp [mark, ofText, List.flatMap_map]

/-- Stencils with a text between them are marked one by one. -/
theorem mark_intercalate (text : Text) (stencils : List Stencil) :
    mark marker ((ofText text).intercalate stencils) =
      text.intercalate (stencils.map (mark marker)) := by
  induction stencils with
  | nil => rfl
  | cons stencil rest ih =>
    cases rest with
    | nil => simp
    | cons next others =>
      -- The text between the first stencil and the others is the same in both.
      rw [List.intercalate_cons_cons, mark_append, mark_append, ih, mark_ofText]
      simp

/-- Marking a stencil puts the marker between its literals. -/
theorem mark_eq_intercalate (stencil : Stencil) :
    mark marker stencil = marker.intercalate (literals stencil) := by
  induction stencil with
  | nil => rfl
  | cons place rest ih =>
    -- There is always a literal for the next character to join.
    have room := length_literals rest
    cases found : literals rest with
    | nil => simp [found] at room
    | cons literal others =>
      rw [mark_cons, ih, found]
      cases place with
      | none =>
        -- The marker stands between the empty literal and the next one.
        rw [literals, found, List.intercalate_cons_cons]
        rfl
      | some c =>
        rw [literals, found, List.modifyHead_cons]
        cases others <;> simp [List.intercalate_cons_cons]

/-- A reversed stencil is marked with the reversed marker. -/
theorem mark_reverse (stencil : Stencil) :
    mark marker.reverse stencil.reverse = (mark marker stencil).reverse := by
  induction stencil with
  | nil => rfl
  | cons place rest ih =>
    -- The first place comes last, and its text is reversed like the others.
    rw [List.reverse_cons, mark_append, ih, mark_cons, mark_cons, List.reverse_append]
    cases place <;> simp [mark]

/-- Blanks at the beginning go from the text as from the stencil when the marker does not begin
with one. -/
theorem mark_dropWhile (present : marker ≠ []) (first : ∀ c ∈ marker.head?, isBlank c = false)
    (stencil : Stencil) :
    mark marker (stencil.dropWhile isBlankPlace) = (mark marker stencil).dropWhile isBlank := by
  induction stencil with
  | nil => rfl
  | cons place rest ih =>
    cases place with
    | none =>
      -- The first character of the marker stops both sides.
      obtain ⟨c, others, rfl⟩ := List.exists_cons_of_ne_nil present
      have solid : isBlank c = false := first c rfl
      have kept : List.dropWhile isBlankPlace (none :: rest) = none :: rest := rfl
      rw [kept, mark_cons, Option.elim_none, List.cons_append,
        List.dropWhile_cons_of_neg (by simp [solid])]
    | some c =>
      -- A character is dropped from both sides or from neither.
      rw [mark_cons, Option.elim_some, List.singleton_append]
      cases blank : isBlank c with
      | true =>
        rw [List.dropWhile_cons_of_pos (by simpa [isBlankPlace] using blank),
          List.dropWhile_cons_of_pos blank, ih]
      | false =>
        rw [List.dropWhile_cons_of_neg (by simp [isBlankPlace, blank]),
          List.dropWhile_cons_of_neg (by simp [blank]), mark_cons]
        rfl

/-- A marker that is trimmed itself is not touched by trimming. -/
theorem mark_trim (present : marker ≠ []) (trimmed : marker.Trimmed) (stencil : Stencil) :
    mark marker (trim stencil) = Text.trim (mark marker stencil) := by
  have start := mark_dropWhile present trimmed.first
  -- Seen from its end the marker begins with its last character.
  have stop := @mark_dropWhile marker.reverse (by simpa using present)
    (by simpa [List.head?_reverse] using trimmed.last)
  have turned := @mark_reverse marker.reverse
    ((stencil.dropWhile isBlankPlace).reverse.dropWhile isBlankPlace)
  rw [List.reverse_reverse] at turned
  rw [trim, List.rdropWhile, turned, stop, mark_reverse, start]
  rfl

/-- A character is counted in the marker, as often as that stands between two literals, and in the
literals. -/
theorem count_mark (c : Char) (stencil : Stencil) :
    (mark marker stencil).count c =
      holes stencil * marker.count c + (literals stencil).flatten.count c := by
  rw [mark_eq_intercalate]
  have length := length_literals stencil
  -- Only how many literals there are is used of the stencil.
  generalize literals stencil = texts at length
  generalize holes stencil = count at length
  induction texts generalizing count with
  | nil => simp at length
  | cons text rest ih =>
    cases rest with
    | nil =>
      -- A single literal has no hole beside it.
      have none : count = 0 := by simpa using length.symm
      simp [none]
    | cons next others =>
      -- The first literal is followed by one marker and by fewer literals.
      obtain ⟨fewer, rfl⟩ : ∃ fewer, count = fewer + 1 := by
        exact ⟨others.length, by simpa using length.symm⟩
      have later := ih fewer (by simpa using length)
      have parts : (text :: next :: others).flatten = text ++ (next :: others).flatten := rfl
      rw [List.intercalate_cons_cons, List.count_append, List.count_append, later, parts,
        List.count_append, Nat.succ_mul]
      omega

end Marks

end Stencil

end SqlTemplate
