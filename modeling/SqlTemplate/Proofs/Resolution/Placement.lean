import SqlTemplate.Proofs.Placeholder.Recognition
import SqlTemplate.Proofs.Resolution.Splice

/-! Placeholders stand apart in their template, even when the blanks before one go with it. -/

namespace SqlTemplate

namespace Placeholder

/-- The character before a position, if there is one, is not a space or a tab. -/
def Tight (template : Text) (position : Nat) : Prop :=
  ∀ c ∈ (template.take position).getLast?, isSpaceOrTab c = false

/-- Placeholders from a position on, ascending and disjoint, of which none ends in a blank. -/
def Placed (template : Text) : Nat → List Placeholder → Prop
  | position, [] => position ≤ template.length
  | position, placeholder :: rest =>
    position ≤ placeholder.start ∧ Tight template placeholder.stop ∧
      Placed template placeholder.stop rest

/-- Placed placeholders begin within the template. -/
theorem Placed.le_length {template : Text} {position : Nat} {placeholders : List Placeholder}
    (placed : Placed template position placeholders) : position ≤ template.length := by
  -- The last placeholder ends within the template, and each begins before it ends.
  induction placeholders generalizing position with
  | nil => exact placed
  | cons placeholder rest ih =>
    obtain ⟨begins, _, placed⟩ := placed
    have room := start_lt_stop placeholder
    have := ih placed
    omega

/-- A placeholder ends with a character of its name or with a brace, and so not with a blank. -/
theorem tight_stop {template rest : Text} {position : Nat} {head : Head}
    {placeholder : Placeholder} (opens : Opens template position head rest)
    (makes : head.Makes rest position placeholder) : Tight template placeholder.stop := by
  intro c last
  obtain ⟨d, found, kind⟩ := opens.last makes
  have room := start_lt_stop placeholder
  have within := (opens.written makes).1
  rw [List.getLast?_eq_getElem?, List.length_take_of_le within,
    List.getElem?_take_of_lt (by omega), found] at last
  cases last
  -- Neither blank is in the class of names, and neither is the brace.
  have space : c ≠ ' ' := by
    rintro rfl
    exact kind.elim (by decide) (by decide)
  have tab : c ≠ '\t' := by
    rintro rfl
    exact kind.elim (by decide) (by decide)
  simp [isSpaceOrTab, space, tab]

/-- The placeholders that a scan finds are placed in its template. -/
theorem placed_of_scan {template : Text} {placeholders : List Placeholder}
    (scanned : scan template = .ok placeholders) : Placed template 0 placeholders := by
  have settled := scan_eq_ok_iff.mp scanned
  have tight : ∀ placeholder ∈ placeholders, Tight template placeholder.stop := by
    intro placeholder member
    obtain ⟨_, head, rest, candidate, makes⟩ := settled.sound placeholder member
    exact tight_stop candidate.opens makes
  -- The rest of the list begins where the first placeholder ends, or later.
  have general : ∀ (list : List Placeholder) (position : Nat), position ≤ template.length →
      (∀ placeholder ∈ list, position ≤ placeholder.start ∧
        placeholder.stop ≤ template.length ∧ Tight template placeholder.stop) →
      list.Pairwise (fun earlier later => earlier.stop ≤ later.start) →
      Placed template position list := by
    intro list
    induction list with
    | nil => exact fun position within _ _ => within
    | cons placeholder rest ih =>
      intro position within each apart
      obtain ⟨first, apart⟩ := List.pairwise_cons.mp apart
      obtain ⟨begins, ends, tight⟩ := each placeholder (by simp)
      refine ⟨begins, tight, ih placeholder.stop ends (fun later member => ?_) apart⟩
      exact ⟨first later member, (each later (by simp [member])).2⟩
  -- The scan finds the placeholders in order, inside the template, and each ends tightly.
  refine general placeholders 0 (Nat.zero_le _) (fun placeholder member => ?_) settled.ascending
  exact ⟨Nat.zero_le _, (settled.inside placeholder member).2, tight placeholder member⟩

end Placeholder

/-- The blanks before a position are the ones that end the gap before it. -/
theorem Occurrence.widenLeft_bounds {template : Text} {position start : Nat}
    (tight : Placeholder.Tight template position) (ordered : position ≤ start)
    (within : start ≤ template.length) :
    position ≤ widenLeft template start ∧ widenLeft template start ≤ start ∧
      Text.slice template position (widenLeft template start) =
        (Text.slice template position start).dropEndWhile isSpaceOrTab := by
  have cut := Text.dropEndWhile_prefix isSpaceOrTab (Text.slice template position start)
  have front : (template.take position).length = position :=
    List.length_take_of_le (by omega)
  -- What comes before the gap ends tightly, so nothing of it is cut off.
  have length : widenLeft template start =
      position + ((Text.slice template position start).dropEndWhile isSpaceOrTab).length := by
    rw [widenLeft, ← Text.take_append_slice ordered, Text.dropEndWhile_append _ tight,
      List.length_append, front]
  have gap : (Text.slice template position start).length = start - position := by
    rw [Text.slice, List.length_drop, List.length_take_of_le within]
  have shorter := cut.length_le
  rw [gap] at shorter
  refine ⟨by omega, by omega, ?_⟩
  -- What is left of the gap is a beginning of it, which ends where its length says.
  rw [length, ← Text.take_slice shorter]
  exact (List.prefix_iff_eq_take.mp cut).symm

end SqlTemplate
