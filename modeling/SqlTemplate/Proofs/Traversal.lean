import Mathlib.Data.List.Forall2
import SqlTemplate.Journal

/-! Outcomes of computations that follow one another, and of those made for each item of a list. -/

namespace SqlTemplate

namespace Journal

variable {event fault α β : Type}

/-- A computation with nothing to do gives its result. -/
@[simp] theorem outcome_pure (result : α) :
    (pure result : Journal event fault α).outcome = .ok result :=
  rfl

/-- Noting an event gives no result of its own. -/
@[simp] theorem outcome_note (noted : event) :
    (note noted : Journal event fault Unit).outcome = .ok () :=
  rfl

/-- A known outcome is kept. -/
@[simp] theorem outcome_ofExcept (outcome : Except fault α) :
    (ofExcept outcome : Journal event fault α).outcome = outcome :=
  rfl

/-- The outcomes of two computations follow one another as the computations do. -/
@[simp] theorem outcome_bind (first : Journal event fault α) (next : α → Journal event fault β) :
    (first >>= next).outcome = first.outcome >>= fun result => (next result).outcome := by
  -- Only a first computation that succeeds has another one after it.
  show (andThen first next).outcome = _
  unfold andThen
  cases first.outcome <;> rfl

/-- A computation with nothing to do notes nothing. -/
@[simp] theorem events_pure (result : α) :
    (pure result : Journal event fault α).events = [] :=
  rfl

/-- What is noted is kept. -/
@[simp] theorem events_note (noted : event) :
    (note noted : Journal event fault Unit).events = [noted] :=
  rfl

/-- A known outcome comes with no events. -/
@[simp] theorem events_ofExcept (outcome : Except fault α) :
    (ofExcept outcome : Journal event fault α).events = [] :=
  rfl

/-- The events of two computations follow one another when the first has a result. -/
theorem events_bind_of_ok {first : Journal event fault α} {result : α}
    (made : first.outcome = .ok result) (next : α → Journal event fault β) :
    (first >>= next).events = first.events ++ (next result).events := by
  -- The second computation is made with the result of the first.
  show (andThen first next).events = _
  unfold andThen
  rw [made]

/-- Only the events of the first of two computations are left when it fails. -/
theorem events_bind_of_error {first : Journal event fault α} {reason : fault}
    (failed : first.outcome = .error reason) (next : α → Journal event fault β) :
    (first >>= next).events = first.events := by
  -- No second computation is made.
  show (andThen first next).events = _
  unfold andThen
  rw [failed]

/-- A second computation that notes nothing leaves the events of the first one. -/
theorem events_bind_of_silent (first : Journal event fault α) {next : α → Journal event fault β}
    (silent : ∀ result, (next result).events = []) : (first >>= next).events = first.events := by
  -- The first computation fails, or the second one follows it and has no events.
  cases outcome : first.outcome with
  | error reason => exact events_bind_of_error outcome next
  | ok result => rw [events_bind_of_ok outcome, silent, List.append_nil]

end Journal

section Traversal

variable {fault α β : Type} {compute : α → Except fault β}

/-- A result stays when faults are described in other terms. -/
@[simp] theorem mapError_ok {other : Type} (describe : fault → other) (result : α) :
    (Except.ok result : Except fault α).mapError describe = .ok result :=
  rfl

/-- A fault is described in other terms. -/
@[simp] theorem mapError_error {other : Type} (describe : fault → other) (reason : fault) :
    (Except.error reason : Except fault α).mapError describe = .error (describe reason) :=
  rfl

/-- Two computations that follow one another fail as the first one, or as the second after it. -/
theorem bind_eq_error_iff {first : Except fault α} {reason : fault} :
    (first >>= compute) = .error reason ↔
      first = .error reason ∨ ∃ result, first = .ok result ∧ compute result = .error reason := by
  -- The second computation is made only with a result of the first.
  cases first with
  | error other =>
    show Except.error other = _ ↔ _
    simp
  | ok result =>
    show compute result = _ ↔ _
    simp

/-- Two computations that follow one another have a result when both have one. -/
theorem bind_eq_ok_iff {first : Except fault α} {result : β} :
    (first >>= compute) = .ok result ↔ ∃ given, first = .ok given ∧ compute given = .ok result := by
  -- Without a result of the first computation there is none of the second.
  cases first with
  | error reason =>
    show Except.error reason = _ ↔ _
    simp
  | ok given =>
    show compute given = _ ↔ _
    simp

/-- What is made of an outcome is a result when the outcome is one. -/
theorem map_eq_ok_iff {outcome : Except fault α} {make : α → β} {result : β} :
    outcome.map make = .ok result ↔ ∃ given, outcome = .ok given ∧ make given = result := by
  -- Nothing is made of a fault.
  cases outcome <;> simp [Except.map]

/-- What is made of an outcome fails as the outcome does. -/
theorem map_eq_error_iff {outcome : Except fault α} {make : α → β} {reason : fault} :
    outcome.map make = .error reason ↔ outcome = .error reason := by
  -- What is made of a result is no fault.
  cases outcome <;> simp [Except.map]

/-- The first item of a list is computed before the others. -/
theorem mapM_cons_eq (item : α) (rest : List α) :
    (item :: rest).mapM compute =
      (compute item).bind fun first => (rest.mapM compute).map (first :: ·) := by
  -- The others are computed only if the first item has a result.
  rw [List.mapM_cons]
  cases compute item with
  | error reason => rfl
  | ok first => cases rest.mapM compute <;> rfl

/-- A list is computed when each of its items is. -/
theorem mapM_eq_ok_iff {items : List α} {results : List β} :
    items.mapM compute = .ok results ↔
      List.Forall₂ (fun item result => compute item = .ok result) items results := by
  -- The results are gone through along with the items.
  induction items generalizing results with
  | nil =>
    rw [List.mapM_nil, List.forall₂_nil_left_iff]
    exact ⟨fun computed => (Except.ok.inj computed).symm, fun empty => empty ▸ rfl⟩
  | cons item rest ih =>
    rw [mapM_cons_eq, List.forall₂_cons_left_iff]
    constructor
    · intro computed
      -- Neither the first item nor one of the others can have failed.
      cases first : compute item with
      | error reason => simp [first, Except.bind] at computed
      | ok result =>
        cases others : rest.mapM compute with
        | error reason => simp [first, others, Except.bind, Except.map] at computed
        | ok more =>
          simp only [first, others, Except.bind, Except.map, Except.ok.injEq] at computed
          exact ⟨result, more, rfl, ih.mp others, computed.symm⟩
    · rintro ⟨result, more, first, others, rfl⟩
      rw [first, ih.mpr others]
      rfl

/-- A list has the results of another computation that agrees wherever the first has one. -/
theorem mapM_eq_ok_of_agrees {items : List α} {recompute : α → Except fault β} {results : List β}
    (agrees : ∀ item ∈ items, ∀ result, compute item = .ok result → recompute item = .ok result)
    (computed : items.mapM compute = .ok results) : items.mapM recompute = .ok results := by
  rw [mapM_eq_ok_iff] at computed ⊢
  -- The items are gone through along with their results.
  induction computed with
  | nil => exact .nil
  | cons first _ ih =>
    obtain ⟨here, later⟩ := List.forall_mem_cons.mp agrees
    exact .cons (here _ first) (ih later)

/-- Two lists are related item by item when they are the two sides of a list of related pairs. -/
theorem forall₂_iff_pairs {related : α → β → Prop} {items : List α} {results : List β} :
    List.Forall₂ related items results ↔ ∃ pairs : List (α × β),
      pairs.map Prod.fst = items ∧ pairs.map Prod.snd = results ∧
        ∀ pair ∈ pairs, related pair.1 pair.2 := by
  constructor
  · intro each
    -- The pairs are put together as the two lists are.
    induction each with
    | nil => exact ⟨[], rfl, rfl, by simp⟩
    | @cons item result _ _ first _ ih =>
      obtain ⟨pairs, rfl, rfl, each⟩ := ih
      exact ⟨(item, result) :: pairs, rfl, rfl, List.forall_mem_cons.mpr ⟨first, each⟩⟩
  · rintro ⟨pairs, rfl, rfl, each⟩
    rw [List.forall₂_map_left_iff, List.forall₂_map_right_iff, List.forall₂_same]
    exact each

/-- Every item of a list that is computed has one of the results. -/
theorem exists_of_mem_mapM {items : List α} {results : List β} {item : α}
    (computed : items.mapM compute = .ok results) (member : item ∈ items) :
    ∃ result ∈ results, compute item = .ok result := by
  -- The items and their results stand in pairs.
  obtain ⟨pairs, rfl, rfl, each⟩ := forall₂_iff_pairs.mp (mapM_eq_ok_iff.mp computed)
  obtain ⟨pair, within, rfl⟩ := List.mem_map.mp member
  exact ⟨pair.2, List.mem_map_of_mem within, each pair within⟩

/-- A list fails as its first item that fails. -/
theorem mapM_eq_error_iff {items : List α} {reason : fault} :
    items.mapM compute = .error reason ↔ ∃ before item after,
      items = before ++ item :: after ∧
        (∀ earlier ∈ before, ∃ result, compute earlier = .ok result) ∧
          compute item = .error reason := by
  induction items with
  | nil => simp [pure, Except.pure]
  | cons head rest ih =>
    rw [mapM_cons_eq]
    -- The first item fails itself, or else the item to blame is among the others.
    cases first : compute head with
    | error other =>
      -- Nothing is computed after the first item, so no other item is to blame.
      constructor
      · rintro ⟨rfl⟩
        exact ⟨[], head, rest, rfl, by simp, first⟩
      · rintro ⟨before, item, after, split, computed, failed⟩
        cases before with
        | nil =>
          obtain ⟨rfl, rfl⟩ := List.cons.inj split
          rw [first] at failed
          cases failed
          rfl
        | cons earlier before =>
          obtain ⟨rfl, _⟩ := List.cons.inj split
          obtain ⟨result, computed⟩ := computed head (by simp)
          rw [first] at computed
          contradiction
    | ok result =>
      -- The result of the first item does not matter to a failure of the others.
      have later : ((Except.ok result).bind fun first => (rest.mapM compute).map (first :: ·)) =
          .error reason ↔ rest.mapM compute = .error reason := by
        cases rest.mapM compute <;> simp [Except.bind, Except.map]
      rw [later, ih]
      constructor
      · rintro ⟨before, item, after, rfl, computed, failed⟩
        refine ⟨head :: before, item, after, rfl, ?_, failed⟩
        simpa [first] using computed
      · rintro ⟨before, item, after, split, computed, failed⟩
        cases before with
        | nil =>
          obtain ⟨rfl, rfl⟩ := List.cons.inj split
          rw [first] at failed
          contradiction
        | cons earlier before =>
          obtain ⟨rfl, rfl⟩ := List.cons.inj split
          exact ⟨before, item, after, rfl, fun other member => computed other (by simp [member]),
            failed⟩

end Traversal

/-- Two outcomes are alike when both are results or both are faults, and the two are related. -/
inductive Alike {fault α β : Type} (results : α → β → Prop) (faults : fault → fault → Prop) :
    Except fault α → Except fault β → Prop
  /-- Both are results. -/
  | ok {result : α} {other : β} (same : results result other) :
    Alike results faults (.ok result) (.ok other)
  /-- Both are faults. -/
  | error {reason other : fault} (same : faults reason other) :
    Alike results faults (.error reason) (.error other)

namespace Alike

variable {fault α β γ δ : Type} {results : α → β → Prop} {faults : fault → fault → Prop}

/-- What is made of the results of outcomes that are alike is alike. -/
theorem map {first : Except fault α} {second : Except fault β} {make : α → γ} {remake : β → δ}
    {target : γ → δ → Prop} (alike : Alike results faults first second)
    (made : ∀ result other, results result other → target (make result) (remake other)) :
    Alike target faults (first.map make) (second.map remake) := by
  -- A fault is passed on as it is.
  cases alike with
  | ok same => exact .ok (made _ _ same)
  | error same => exact .error same

/-- Lists of outcomes that are alike one by one are alike as a whole. -/
theorem mapM {items : List γ} {others : List δ} {compute : γ → Except fault α}
    {recompute : δ → Except fault β}
    (each : List.Forall₂ (fun item other => Alike results faults (compute item) (recompute other))
      items others) :
    Alike (List.Forall₂ results) faults (items.mapM compute) (others.mapM recompute) := by
  induction each with
  | nil => exact .ok .nil
  | @cons item other rest more first _ ih =>
    rw [mapM_cons_eq, mapM_cons_eq]
    -- Both lists fail at their first items, or neither does.
    generalize compute item = computed at first
    generalize recompute other = recomputed at first
    cases first with
    | error same => exact .error same
    | ok same => exact ih.map fun _ _ later => .cons same later

end Alike

end SqlTemplate
