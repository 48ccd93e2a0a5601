import SqlTemplate.Text.Basic

/-! Two texts are alike as far as stretches of the one stand in the same order in the other. -/

namespace SqlTemplate.Similarity

/-- A stretch that two texts share. -/
structure Block where
  /-- Where it begins in the first text. -/
  first : Nat
  /-- Where it begins in the second text. -/
  second : Nat
  /-- How long it is. -/
  length : Nat

/-- The length of the beginning that two texts share. -/
def common : Text → Text → Nat
  | a :: first, b :: second => if a = b then common first second + 1 else 0
  | _, _ => 0

/-- The blocks that begin at each pair of places, those further to the left first. -/
def blocks (first second : Text) : List Block :=
  (List.range first.length).flatMap fun i =>
    (List.range second.length).map fun j => ⟨i, j, common (first.drop i) (second.drop j)⟩

/-- The longest block, and the leftmost of several. -/
def longest (first second : Text) : Block :=
  (blocks first second).foldl
    (fun best block => if best.length < block.length then block else best) ⟨0, 0, 0⟩

/-- How many characters two texts share: those of the longest block, and those that are shared on
either side of it. -/
def shared (first second : Text) : Nat :=
  match longest first second with
  | ⟨i, j, length⟩ =>
    -- A block is within the first text and not empty, unless the two share nothing.
    if 0 < length ∧ i < first.length then
      shared (first.take i) (second.take j) + length +
        shared (first.drop (i + length)) (second.drop (j + length))
    else 0
termination_by first.length
decreasing_by
  · simp only [List.length_take]; omega
  · simp only [List.length_drop]; omega

/-- Whether at least three fifths of the characters of two texts are shared. -/
def isClose (first second : Text) : Bool :=
  3 * (first.length + second.length) ≤ 10 * shared first second

/-- Whether a name is more like a word than another one is, where of two that are equally like it
the later in the alphabet counts for more. -/
def isCloser (word : Text) (name other : String) : Bool :=
  let ofName := shared name.toList word * (other.length + word.length)
  let ofOther := shared other.toList word * (name.length + word.length)
  ofOther < ofName || (ofOther = ofName && other < name)

/-- The name that is most like a word, among those that are close to it. -/
def closest? (names : List String) (word : Text) : Option String :=
  let close := names.filter fun name => isClose name.toList word
  close.foldl (fun best name =>
    match best with
    | none => some name
    | some other => if isCloser word name other then some name else best) none

end SqlTemplate.Similarity
