import SqlTemplate.Proofs.Resolution.Stencil

/-! A template reads with every marker as one stencil, in whose holes the marker stands. -/

namespace SqlTemplate

/-- Settings that differ in their marker at most, which is a trimmed one. -/
structure Config.Remarked (config other : Config) : Prop where
  /-- They treat unknown operators the same. -/
  ignores : other.ignoresUnknown = config.ignoresUnknown
  /-- The other marker is trimmed. -/
  trimmed : other.marker.Trimmed

/-- A piece whose text is a stencil with a marker in its holes. -/
def Piece.remark (marker : Text) (piece : Piece) (stencil : Stencil) : Piece :=
  { piece with text := stencil.mark marker }

/-- An operand whose query is a stencil with a marker in its holes. -/
def Operand.remark (marker : Text) (operand : Operand) (stencil : Stencil) : Operand :=
  { operand with query := stencil.mark marker }

/-- Items that all have a related result make a list of related pairs. -/
theorem exists_pairs {α β : Type} {related : α → β → Prop} {items : List α}
    (each : ∀ item ∈ items, ∃ result, related item result) :
    ∃ pairs : List (α × β),
      pairs.map Prod.fst = items ∧ ∀ pair ∈ pairs, related pair.1 pair.2 := by
  induction items with
  | nil => exact ⟨[], rfl, by simp⟩
  | cons item rest ih =>
    -- The result of the first item goes before those of the rest.
    obtain ⟨⟨result, first⟩, others⟩ := List.forall_mem_cons.mp each
    obtain ⟨pairs, rfl, later⟩ := ih others
    exact ⟨(item, result) :: pairs, rfl, List.forall_mem_cons.mpr ⟨first, later⟩⟩

/-- Values that are as many as the holes of stencils, one by one, are as many in all. -/
theorem length_values_eq {α : Type} (values : α → List Value) {pairs : List (α × Stencil)}
    (each : ∀ pair ∈ pairs, pair.2.holes = (values pair.1).length) :
    (pairs.map fun pair => pair.2.holes).sum = ((pairs.map Prod.fst).flatMap values).length := by
  rw [List.length_flatMap, List.map_map]
  exact congrArg List.sum (List.map_congr_left each)

/-- The markers of a value stand in the holes of one stencil, which has a hole for each value. -/
theorem Expands.stencil {marker text : Text} {value : Value} {values : List Value}
    (expands : Expands marker value text values) :
    ∃ stencil : Stencil, stencil.holes = values.length ∧
      ∀ other, Expands other value (stencil.mark other) values := by
  cases expands with
  | single alone =>
    -- The marker is all there is.
    refine ⟨[none], rfl, fun other => ?_⟩
    rw [Stencil.mark_hole]
    exact .single alone
  | array many =>
    -- The brackets and the commas are the same for every marker.
    refine ⟨.ofText ['('] ++ (Stencil.ofText [',', ' ']).intercalate
      (List.replicate values.length [none]) ++ .ofText [')'], ?_, fun other => ?_⟩
    · have single : Stencil.holes [none] = 1 := rfl
      rw [Stencil.holes_append, Stencil.holes_append, Stencil.holes_intercalate,
        List.map_replicate, single]
      simp
    · rw [Stencil.mark_append, Stencil.mark_append, Stencil.mark_intercalate, List.map_replicate,
        Stencil.mark_hole]
      simp only [Stencil.mark_ofText]
      exact .array many

/-- The gaps of a template are the same for all markers, and its pieces are stencils. -/
theorem weave_stencil (template : Text) (position : Nat)
    (pairs : List ((Placeholder × Piece) × Stencil)) :
    ∃ stencil : Stencil, stencil.holes = (pairs.map fun pair => pair.2.holes).sum ∧
      ∀ marker, stencil.mark marker = weave template position
        (pairs.map fun pair => (pair.1.1, pair.1.2.remark marker pair.2)) := by
  induction pairs generalizing position with
  | nil => exact ⟨.ofText (template.drop position), by simp, fun marker => by simp [weave]⟩
  | cons pair rest ih =>
    obtain ⟨⟨placeholder, piece⟩, stencil⟩ := pair
    obtain ⟨later, holes, marks⟩ := ih placeholder.stop
    -- The gap before the piece depends on the piece alone, and not on its text.
    let gap := Text.slice template position placeholder.start
    let kept := if piece.closesUp then gap.dropEndWhile isSpaceOrTab else gap
    refine ⟨.ofText kept ++ stencil ++ later, by simp [holes], fun marker => ?_⟩
    rw [Stencil.mark_append, Stencil.mark_append, Stencil.mark_ofText, marks]
    rfl

/-- The words of a group are stencils when its queries are. -/
theorem Operand.words_stencils (pairs : List (Operand × Stencil)) :
    ∃ stencils : List Stencil,
      (stencils.map Stencil.holes).sum = (pairs.map fun pair => pair.2.holes).sum ∧
        ∀ marker, stencils.map (Stencil.mark marker) =
          words (pairs.map fun pair => pair.1.remark marker pair.2) := by
  -- An operator is a text, and so a stencil without holes.
  let joint (pair : Operand × Stencil) : List Stencil := [.ofText pair.1.operator, pair.2]
  have joints : ∀ list : List (Operand × Stencil),
      ((list.flatMap joint).map Stencil.holes).sum = (list.map fun pair => pair.2.holes).sum ∧
        ∀ marker, (list.flatMap joint).map (Stencil.mark marker) =
          joined (list.map fun pair => pair.1.remark marker pair.2) := by
    intro list
    induction list with
    | nil => exact ⟨rfl, fun _ => rfl⟩
    | cons pair rest ih =>
      -- The operator adds no hole before the query, which brings its own.
      obtain ⟨holes, marks⟩ := ih
      refine ⟨by simp [joint, holes], fun marker => ?_⟩
      rw [List.flatMap_cons, List.map_append, marks]
      simp [joint, joined, remark]
  cases pairs with
  | nil => exact ⟨[], rfl, fun _ => rfl⟩
  | cons pair rest =>
    -- The first operand comes without its operator.
    obtain ⟨holes, marks⟩ := joints rest
    refine ⟨pair.2 :: rest.flatMap joint, by simp [holes], fun marker => ?_⟩
    rw [List.map_cons, marks]
    rfl

mutual

/-- A template that reads with one marker reads with every trimmed one, to the same values and to
one stencil with a hole for each. -/
theorem Reads.stencil {config : Config} {template query : Text} {parameters : Entries}
    {values : List Value} (reads : Reads config template parameters query values) :
    ∃ stencil : Stencil, stencil.holes = values.length ∧ ∀ other, config.Remarked other →
      Reads other template parameters (stencil.mark other.marker) values := by
  match reads with
  | @Reads.intro _ _ _ pieces scanned stands =>
    -- Each piece is a stencil, and the stencils are woven into the template.
    have framed : ∀ entry ∈ pieces, ∃ stencil : Stencil,
        stencil.holes = entry.2.values.length ∧ ∀ other, config.Remarked other →
          Stands other parameters entry.1 (entry.2.remark other.marker stencil) :=
      fun entry member => (stands entry member).stencil
    obtain ⟨pairs, rfl, each⟩ := exists_pairs framed
    obtain ⟨woven, holes, marks⟩ := weave_stencil template 0 pairs
    -- What is trimmed away are blanks of the template, never a part of a marker.
    refine ⟨woven.trim, ?_, fun other remarked => ?_⟩
    · have counted := length_values_eq (fun entry : Placeholder × Piece => entry.2.values)
        fun pair member => (each pair member).1
      rw [Stencil.holes_trim, holes, counted]
    · -- The other reading has the same placeholders, values and gaps.
      have same : ((pairs.map Prod.fst).flatMap fun entry => entry.2.values) =
          (pairs.map fun pair => (pair.1.1, pair.1.2.remark other.marker pair.2)).flatMap
            fun entry => entry.2.values := by
        rw [List.flatMap_map, List.flatMap_map]
        rfl
      rw [Stencil.mark_trim other.marker_ne_nil remarked.trimmed, marks, same]
      refine .intro ?_ ?_
      · rw [scanned, List.map_map, List.map_map]
        rfl
      · intro entry member
        obtain ⟨pair, within, rfl⟩ := List.mem_map.mp member
        exact (each pair within).2 other remarked

/-- What stands for a placeholder is one stencil, whichever the marker. -/
theorem Stands.stencil {config : Config} {parameters : Entries} {placeholder : Placeholder}
    {piece : Piece} (stands : Stands config parameters placeholder piece) :
    ∃ stencil : Stencil, stencil.holes = piece.values.length ∧ ∀ other, config.Remarked other →
      Stands other parameters placeholder (piece.remark other.marker stencil) := by
  match stands with
  | .plain form bound expands =>
    obtain ⟨stencil, holes, marks⟩ := expands.stencil
    exact ⟨stencil, holes, fun other _ => .plain form bound (marks other.marker)⟩
  | @Stands.filled _ _ _ before after _ _ _ form first bound expands =>
    -- The value is spliced in between two texts of the fragment, wherever those have marks.
    obtain ⟨stencil, holes, marks⟩ := expands.stencil
    refine ⟨.ofText before ++ stencil ++ .ofText after, by simpa using holes, fun other _ => ?_⟩
    rw [Piece.remark, Stencil.mark_append, Stencil.mark_append, Stencil.mark_ofText,
      Stencil.mark_ofText]
    exact .filled form first bound (marks other.marker)
  | @Stands.verbatim _ _ _ fragment _ form unmarked bound =>
    -- Nothing is bound, so there is no hole.
    refine ⟨.ofText fragment, Stencil.holes_ofText fragment, fun other _ => ?_⟩
    rw [Piece.remark, Stencil.mark_ofText]
    exact .verbatim form unmarked bound
  | .dropped form unbound => exact ⟨[], rfl, fun other _ => .dropped form unbound⟩
  | @Stands.group _ _ _ _ terms form bound read joins =>
    -- Each term that joins the group is a stencil, with the words of the group between them.
    have framed : ∀ entry ∈ terms, ∃ made : Option (Operand × Stencil),
        made.map Prod.fst = entry.2 ∧
          (∀ pair ∈ made, pair.2.holes = pair.1.values.length) ∧
            ∀ other, config.Remarked other →
              Joins other entry.1 (made.map fun pair => pair.1.remark other.marker pair.2) :=
      fun entry member => (joins entry member).stencil
    obtain ⟨pairs, rfl, each⟩ := exists_pairs framed
    -- Terms that are left out add no stencil, as they add no operand.
    let operands := pairs.filterMap Prod.snd
    have added : (pairs.map Prod.fst).filterMap Prod.snd = operands.map Prod.fst := by
      rw [List.filterMap_map, List.map_filterMap]
      exact List.filterMap_congr fun pair member => (each pair member).1.symm
    have single : ∀ made ∈ operands, made.2.holes = made.1.values.length := by
      intro made member
      obtain ⟨pair, within, some⟩ := List.mem_filterMap.mp member
      exact (each pair within).2.1 made some
    have counted := length_values_eq Operand.values single
    obtain ⟨stencils, holes, marks⟩ := Operand.words_stencils operands
    refine ⟨.ofText ['('] ++ (Stencil.ofText [' ']).intercalate stencils ++ .ofText [')'], ?_,
      fun other remarked => ?_⟩
    · rw [Stencil.holes_append, Stencil.holes_append, Stencil.holes_intercalate, holes, counted,
        added]
      simp
    · let remade := pairs.map fun pair =>
        (pair.1.1, pair.2.map fun made => made.1.remark other.marker made.2)
      have again : remade.filterMap Prod.snd =
          operands.map fun made => made.1.remark other.marker made.2 := by
        rw [List.filterMap_map, List.map_filterMap]
        rfl
      have values : (operands.map Prod.fst).flatMap Operand.values =
          (remade.filterMap Prod.snd).flatMap Operand.values := by
        rw [again, List.flatMap_map, List.flatMap_map]
        rfl
      rw [Piece.remark, Stencil.mark_append, Stencil.mark_append, Stencil.mark_intercalate, marks,
        ← again, Stencil.mark_ofText, Stencil.mark_ofText, added, values]
      refine .group form bound ?_ ?_
      · rw [read, List.map_map, List.map_map]
        rfl
      · intro entry member
        obtain ⟨pair, within, rfl⟩ := List.mem_map.mp member
        exact (each pair within).2.2 other remarked

/-- What a term adds to its group is one stencil, whichever the marker. -/
theorem Joins.stencil {config : Config} {term : Term} {added : Option Operand}
    (joins : Joins config term added) :
    ∃ made : Option (Operand × Stencil), made.map Prod.fst = added ∧
      (∀ pair ∈ made, pair.2.holes = pair.1.values.length) ∧ ∀ other, config.Remarked other →
        Joins other term (made.map fun pair => pair.1.remark other.marker pair.2) := by
  match joins with
  | .leftOut unknown allowed =>
    -- Both settings leave the term out, as they treat its operator the same.
    refine ⟨none, rfl, by simp, fun other remarked => .leftOut unknown ?_⟩
    rw [remarked.ignores, allowed]
  | .operand known reads =>
    obtain ⟨stencil, holes, marks⟩ := reads.stencil
    refine ⟨some (_, stencil), rfl, ?_, fun other remarked => .operand known (marks other remarked)⟩
    simpa using holes

end

/-- The markers of a query lie between literals that are the same for every trimmed marker, one for
each value. So no marker is lost, doubled or cut, and question marks are counted by the values and
by those that stand in the literals. -/
theorem resolve_marks_between_literals {config : Config} {template : Text} {parameters : Value}
    {resolution : Resolution}
    (resolved : (resolve template parameters config).outcome = .ok resolution) :
    ∃ literals : List Text, literals.length = resolution.values.length + 1 ∧
      ∀ other : Config, other.ignoresUnknown = config.ignoresUnknown → other.marker.Trimmed →
        ∃ another, (resolve template parameters other).outcome = .ok another ∧
          another.values = resolution.values ∧
          another.query = other.marker.intercalate literals ∧
          (other.marker = ['?'] → another.query.count '?' =
            resolution.values.length + literals.flatten.count '?') := by
  rw [outcome_resolve] at resolved
  cases given : parametersOf template parameters with
  | error fault => simp [given, Except.bind] at resolved
  | ok entries =>
    rw [given] at resolved
    have reads := (readsAlike config entries _ _ _).mpr ⟨resolution, resolved, rfl, rfl⟩
    -- The literals are those of the one stencil that serves all markers.
    obtain ⟨stencil, holes, marks⟩ := reads.stencil
    refine ⟨stencil.literals, ?_, fun other ignores trimmed => ?_⟩
    · rw [stencil.length_literals, holes]
    · have again := marks other ⟨ignores, trimmed⟩
      obtain ⟨another, resolves, query, values⟩ := (readsAlike other entries _ _ _).mp again
      refine ⟨another, ?_, values, ?_, fun question => ?_⟩
      · rw [outcome_resolve, given]
        exact resolves
      · rw [query, stencil.mark_eq_intercalate]
      · -- Question marks stand in the holes and wherever the literals have them.
        rw [query, question, Stencil.count_mark, holes]
        simp

/-- A list in a nested group and a filled fragment leave three places, which take a marker that
looks like a template as well as a question mark. -/
theorem three_markers_between_literals : ∃ literals : List Text, literals.length = 3 + 1 ∧
    ∀ other : Config, other.ignoresUnknown = false → other.marker.Trimmed →
      ∃ another, (resolve "'?' :~f :*n{LIMIT *}".toList (.mapping [("~f", .list [.tuple
          [.str " and ", .str " y IN :y ", .mapping [("y", .list [.int 1, .int 2])]]]),
        ("*n", .int 5)]) other).outcome = .ok another ∧
        another.values = [.int 1, .int 2, .int 5] ∧
        another.query = other.marker.intercalate literals ∧
        (other.marker = ['?'] → another.query.count '?' = 3 + literals.flatten.count '?') := by
  -- The values of one resolution are computed, and they say how many literals there are for any
  -- marker.
  have computed : (resolve "'?' :~f :*n{LIMIT *}".toList (.mapping [("~f", .list [.tuple
      [.str " and ", .str " y IN :y ", .mapping [("y", .list [.int 1, .int 2])]]]),
      ("*n", .int 5)]) .default).outcome.map Resolution.values =
        .ok [.int 1, .int 2, .int 5] := by
    simp only [outcome_resolve, outcome_resolveTemplate, outcome_occurrenceOf, outcome_resolveGroup]
    unfold Term.operand
    simp only [outcome_resolveTemplate, outcome_occurrenceOf]
    with_unfolding_all rfl
  obtain ⟨resolution, resolved, values⟩ := map_eq_ok_iff.mp computed
  have marked := resolve_marks_between_literals resolved
  rw [values] at marked
  exact marked

end SqlTemplate
