import SqlTemplate.Catalog.Basic
import SqlTemplate.Proofs.Text.Trimming

/-! A dotted name is told from its parts, and its key is its head unless a dot ends the name. -/

namespace SqlTemplate.DottedName

/-- The dotted name of a key within a scope. -/
def joined (key : String) : List String → String
  | [] => key
  | name :: rest => name ++ "." ++ joined key rest

/-- The scope and the key of a dotted name. -/
def place (name : String) : List String × String :=
  ((ofString name).scope, (ofString name).key)

/-- A name ends in a dot. -/
def EndsInDot (name : String) : Prop :=
  name.toList.getLast? = some '.'

/-- The pieces of a dotted name are put together in its parts. -/
theorem joined_ofPieces {pieces : List String} (some_ : pieces ≠ []) :
    (joined (ofPieces pieces).key (ofPieces pieces).scope).toList =
      ['.'].intercalate (pieces.map String.toList) := by
  fun_induction ofPieces pieces with
  | case1 => contradiction
  | case2 head => simp [joined]
  | case3 head => simp [joined, List.intercalate_cons_cons]
  | case4 first rest longer _ inner ih =>
    -- The first piece and its dot come before the others.
    obtain ⟨next, others, rfl⟩ := List.exists_cons_of_ne_nil longer
    have later : (joined inner.key inner.scope).toList = _ := ih longer
    rw [joined, String.toList_append, String.toList_append, later, List.map_cons, List.map_cons,
      List.map_cons, List.intercalate_cons_cons]
    rfl

/-- A dotted name is put together from its parts. -/
theorem joined_ofString (name : String) :
    joined (ofString name).key (ofString name).scope = name := by
  -- Joining undoes the choice of parts, and putting dots between the pieces undoes the split.
  have some_ : (Text.pieces '.' name.toList).map String.ofList ≠ [] := by
    simpa using Text.pieces_ne_nil name.toList
  rw [← String.toList_inj, ofString, joined_ofPieces some_, List.map_map]
  simpa [Function.comp_def] using Text.intercalate_pieces name.toList

/-- Names in one place are the same. -/
theorem place_inj {name other : String} : place name = place other ↔ name = other := by
  -- The name can be put together from its place again.
  constructor
  · intro same
    obtain ⟨scope, key⟩ := Prod.mk.inj same
    rw [← joined_ofString name, ← joined_ofString other, scope, key]
  · rintro rfl
    rfl

/-- The key of pieces without dots is the head, after which their name does not end in a dot, or the
head with the dot that their name ends in. -/
theorem key_ofPieces {pieces : List String} (some_ : pieces ≠ [])
    (undotted : ∀ piece ∈ pieces, '.' ∉ piece.toList) :
    let dotted := ofPieces pieces
    let name := joined dotted.key dotted.scope
    (dotted.key = dotted.head ∧ ¬ EndsInDot name) ∨
      (dotted.key = dotted.head ++ "." ∧ EndsInDot name) := by
  fun_induction ofPieces pieces with
  | case1 => contradiction
  | case2 head =>
    refine Or.inl ⟨rfl, fun ends => ?_⟩
    -- A name that ends in a dot has one, and the only piece has none.
    exact undotted head (List.mem_singleton_self _) (List.mem_of_getLast? ends)
  | case3 head =>
    refine Or.inr ⟨rfl, ?_⟩
    simp [EndsInDot, joined]
  | case4 first rest longer twice inner ih =>
    have later := ih longer fun piece member => undotted piece (List.mem_cons_of_mem _ member)
    -- The pieces after the first are not an empty one alone, so their name decides how all end.
    have written : (joined inner.key inner.scope).toList ≠ [] := by
      rw [joined_ofPieces longer]
      intro empty
      obtain ⟨next, others, rfl⟩ := List.exists_cons_of_ne_nil longer
      cases others with
      | nil =>
        rw [List.map_singleton, List.intercalate_singleton, String.toList_eq_nil_iff] at empty
        exact twice (by rw [empty])
      | cons last more =>
        rw [List.map_cons, List.map_cons, List.intercalate_cons_cons] at empty
        simp at empty
    -- What comes before a name that is not empty does not change how it ends.
    have same : EndsInDot (joined inner.key (first :: inner.scope)) ↔
        EndsInDot (joined inner.key inner.scope) := by
      rw [EndsInDot, EndsInDot, joined, String.toList_append,
        List.getLast?_append_of_ne_nil _ written]
    show (_ ∧ ¬ EndsInDot (joined inner.key (first :: inner.scope))) ∨
      (_ ∧ EndsInDot (joined inner.key (first :: inner.scope)))
    rw [same]
    exact later

/-- The pieces of a name between its dots have no dots. -/
theorem undotted_of_mem_pieces {name piece : String}
    (member : piece ∈ (Text.pieces '.' name.toList).map String.ofList) : '.' ∉ piece.toList := by
  -- A split at dots leaves none in the pieces.
  obtain ⟨text, listed, rfl⟩ := List.mem_map.mp member
  rw [String.toList_ofList]
  exact Text.not_mem_of_mem_pieces listed

/-- The key of a dotted name is its head, with the dot that the name may end in. -/
theorem key_ofString (name : String) :
    ((ofString name).key = (ofString name).head ∧ ¬ EndsInDot name) ∨
      ((ofString name).key = (ofString name).head ++ "." ∧ EndsInDot name) := by
  -- The pieces are dotless, so the rule for pieces applies, and together they are the name.
  have some_ : (Text.pieces '.' name.toList).map String.ofList ≠ [] := by
    simpa using Text.pieces_ne_nil name.toList
  have split := key_ofPieces some_ fun _ => undotted_of_mem_pieces
  have whole := joined_ofString name
  rw [ofString] at whole ⊢
  simp only [whole] at split
  exact split

/-- The parts of a dotted name are among the pieces that it is made of. -/
theorem parts_ofPieces {pieces : List String} (some_ : pieces ≠ []) :
    (ofPieces pieces).head ∈ pieces ∧ ∀ part ∈ (ofPieces pieces).scope, part ∈ pieces := by
  -- By induction along the choice of parts, which drops at most an empty last piece.
  fun_induction ofPieces pieces with
  | case1 => contradiction
  | case2 head => simp
  | case3 head => simp
  | case4 first rest longer _ inner ih =>
    obtain ⟨head, scope⟩ := ih longer
    refine ⟨List.mem_cons_of_mem _ head, List.forall_mem_cons.mpr ⟨List.mem_cons_self .., ?_⟩⟩
    exact fun part member => List.mem_cons_of_mem _ (scope part member)

/-- What a dotted name is made of: parts without dots, the last of which is the key but for a dot
that may follow it. -/
structure Regular (dotted : DottedName) : Prop where
  /-- The names of the scope have no dots. -/
  scope : ∀ name ∈ dotted.scope, '.' ∉ name.toList
  /-- The head has none. -/
  head : '.' ∉ dotted.head.toList
  /-- The key is the head, with or without a dot. -/
  key : dotted.key = dotted.head ∨ dotted.key = dotted.head ++ "."

/-- Every dotted name is made of such parts. -/
theorem regular_ofString (name : String) : (ofString name).Regular := by
  -- Head and scope are pieces of the name and so dotless; the key is the head but for its dot.
  have some_ : (Text.pieces '.' name.toList).map String.ofList ≠ [] := by
    simpa using Text.pieces_ne_nil name.toList
  obtain ⟨head, scope⟩ := parts_ofPieces some_
  refine ⟨fun part member => undotted_of_mem_pieces (scope part member),
    undotted_of_mem_pieces head, ?_⟩
  exact (key_ofString name).imp And.left And.left

/-- The rest of a dotted name is made of such parts when the whole is. -/
theorem Regular.tail {name head key : String} {rest : List String}
    (regular : Regular ⟨name :: rest, head, key⟩) : Regular ⟨rest, head, key⟩ :=
  ⟨fun part member => regular.scope part (List.mem_cons_of_mem _ member), regular.head,
    regular.key⟩

/-- A name without dots has no scope. -/
theorem ofString_of_undotted {name : String} (undotted : '.' ∉ name.toList) :
    ofString name = ⟨[], name, name⟩ := by
  -- The name is its only piece, which is both head and key.
  rw [ofString, Text.pieces_of_not_mem undotted, List.map_singleton, String.ofList_toList]
  rfl


/-- The pieces of a name without dots, before a dot and another name, are it and those of the
other. -/
theorem ofPieces_cons {first : String} {rest : List String} (longer : rest ≠ [])
    (twice : rest ≠ [""]) :
    ofPieces (first :: rest) =
      ⟨first :: (ofPieces rest).scope, (ofPieces rest).head, (ofPieces rest).key⟩ := by
  -- The two hypotheses rule out the shapes in which the first piece is the head.
  rw [ofPieces]
  · exact longer
  · exact twice

/-- A name is put together from its pieces in one way only, so the name of regular parts is taken
apart into these, unless an empty key follows a dot. -/
theorem ofString_joined {scope : List String} {head key : String}
    (regular : Regular ⟨scope, head, key⟩) (written : scope = [] ∨ key ≠ "") :
    ofString (joined key scope) = ⟨scope, head, key⟩ := by
  induction scope with
  | nil =>
    have undotted : '.' ∉ head.toList := regular.head
    rcases regular.key with same | longer
    · obtain rfl : key = head := same
      exact ofString_of_undotted undotted
    · obtain rfl : key = head ++ "." := longer
      -- The dot at the end leaves an empty piece behind, which goes to the key.
      have pieces : Text.pieces '.' (head ++ ".").toList = [head.toList, []] := by
        rw [String.toList_append]
        exact (Text.pieces_append head.toList []).trans
          (congrArg (· ++ [[]]) (Text.pieces_of_not_mem undotted))
      rw [joined, ofString, pieces, List.map_cons, List.map_singleton, String.ofList_toList]
      rfl
  | cons name rest ih =>
    have some_ : key ≠ "" := written.resolve_left (List.cons_ne_nil _ _)
    have later := ih regular.tail (Or.inr some_)
    have undotted : '.' ∉ name.toList := regular.scope name (List.mem_cons_self ..)
    -- The first name has no dots, so it is the first piece, and those of the rest follow.
    have pieces : Text.pieces '.' (name ++ "." ++ joined key rest).toList =
        name.toList :: Text.pieces '.' (joined key rest).toList := by
      rw [String.toList_append, String.toList_append, List.append_assoc]
      exact (Text.pieces_append name.toList _).trans
        (congrArg (· ++ _) (Text.pieces_of_not_mem undotted))
    rw [joined, ofString, pieces, List.map_cons, String.ofList_toList, ofPieces_cons]
    · rw [← ofString, later]
    · simpa using Text.pieces_ne_nil (joined key rest).toList
    · -- One empty piece would be that of the empty name, which has an empty key.
      intro single
      rw [ofString, single] at later
      exact some_ (congrArg DottedName.key later).symm

end SqlTemplate.DottedName
