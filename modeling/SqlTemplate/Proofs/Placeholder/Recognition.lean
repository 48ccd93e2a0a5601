import Mathlib.Data.List.Sort
import SqlTemplate.Proofs.Placeholder.Grammar

/-! A scan finds the placeholders of the grammar, or complains about the leftmost malformed one. -/

namespace SqlTemplate.Placeholder

/-- A colon with no colon beside it, after which a head begins. -/
structure Opens (template : Text) (position : Nat) (head : Head) (rest : Text) : Prop where
  /-- There is a colon at the position. -/
  colon : template[position]? = some ':'
  /-- There is none before it. -/
  before : ∀ previous, previous + 1 = position → template[previous]? ≠ some ':'
  /-- There is none after it. -/
  after : template[position + 1]? ≠ some ':'
  /-- It is followed by a head. -/
  begins : head.Begins (template.drop (position + 1)) rest

/-- A colon that may begin a placeholder, as it is not inside one that begins before it. -/
structure Candidate (template : Text) (found : List Placeholder) (position : Nat) (head : Head)
    (rest : Text) : Prop where
  /-- The colon may begin a placeholder. -/
  opens : Opens template position head rest
  /-- What begins before it ends before it. -/
  outside : ∀ earlier ∈ found, earlier.start < position → earlier.stop ≤ position

/-- The placeholders found are those of the candidates before a bound, from left to right. -/
structure Settled (template : Text) (bound : Nat) (found : List Placeholder) : Prop where
  /-- Each ends before the next one begins. -/
  ascending : found.Pairwise fun earlier later => earlier.stop ≤ later.start
  /-- Each takes some room within the template. -/
  inside : ∀ placeholder ∈ found,
    placeholder.start < placeholder.stop ∧ placeholder.stop ≤ template.length
  /-- Each stands in the template as it is written. -/
  written : ∀ placeholder ∈ found,
    Text.slice template placeholder.start placeholder.stop = placeholder.source
  /-- Each is made by a candidate before the bound. -/
  sound : ∀ placeholder ∈ found, placeholder.start < bound ∧
    ∃ head rest, Candidate template found placeholder.start head rest ∧
      head.Makes rest placeholder.start placeholder
  /-- Each candidate before the bound makes exactly one of them. -/
  complete : ∀ position < bound, ∀ head rest, Candidate template found position head rest →
    ∃! placeholder, placeholder ∈ found ∧ placeholder.start = position

/-- A placeholder takes at least the room of its colon. -/
theorem start_lt_stop (placeholder : Placeholder) : placeholder.start < placeholder.stop := by
  -- Its text begins with the colon, so it is not empty.
  simp [stop, length, source]

namespace Opens

variable {template rest : Text} {position : Nat} {head : Head} {placeholder : Placeholder}

/-- From its colon on, the template is a placeholder with something behind it. -/
theorem suffix (opens : Opens template position head rest)
    (makes : head.Makes rest position placeholder) :
    ∃ after, template.drop position = placeholder.source ++ after := by
  -- The colon is the first character of the placeholder, and the reader has taken the others from
  -- what follows.
  obtain ⟨_, after, whole⟩ := opens.begins.source_of_makes makes
  obtain ⟨within, colon⟩ := List.getElem?_eq_some_iff.mp opens.colon
  exact ⟨after, by rw [List.drop_eq_getElem_cons within, colon, ← whole]⟩

/-- A placeholder that a colon makes stands in the template as it is written. -/
theorem written (opens : Opens template position head rest)
    (makes : head.Makes rest position placeholder) :
    placeholder.stop ≤ template.length ∧
      Text.slice template placeholder.start placeholder.stop = placeholder.source := by
  obtain ⟨after, suffix⟩ := opens.suffix makes
  obtain ⟨rfl, _⟩ := opens.begins.source_of_makes makes
  -- Both follow from what the template is from the colon on.
  constructor
  · have room := start_lt_stop placeholder
    have lengths := congrArg List.length suffix
    simp only [List.length_drop, List.length_append] at lengths
    simp only [stop, length] at room ⊢
    omega
  · rw [Text.slice, List.drop_take, suffix, stop, Nat.add_sub_cancel_left]
    exact List.take_append_length

/-- The character before the end of a placeholder belongs to its name or is a brace. -/
theorem last (opens : Opens template position head rest)
    (makes : head.Makes rest position placeholder) :
    ∃ c, template[placeholder.stop - 1]? = some c ∧ (isNameChar c = true ∨ c = closeBrace) := by
  obtain ⟨c, last, kind⟩ := opens.begins.getLast?_of_makes makes
  obtain ⟨after, suffix⟩ := opens.suffix makes
  obtain ⟨rfl, _⟩ := opens.begins.source_of_makes makes
  have room := start_lt_stop placeholder
  refine ⟨c, ?_, kind⟩
  -- Counted from the colon, this is the last character of the source.
  have counted : placeholder.stop - 1 = placeholder.start + (placeholder.source.length - 1) := by
    simp only [stop, length] at room ⊢
    omega
  rw [counted, ← List.getElem?_drop, suffix, List.getElem?_append_left, ← List.getLast?_eq_getElem?,
    last]
  simp only [stop, length] at room
  omega

end Opens

namespace Settled

variable {template : Text} {bound limit position : Nat} {found others : List Placeholder}

/-- What one scan has found before the bound of another, the other has found too. -/
theorem mem_of_mem (settled : Settled template bound found)
    (other : Settled template limit others) {placeholder : Placeholder}
    (member : placeholder ∈ found) (before : placeholder.start < limit) : placeholder ∈ others := by
  -- The induction is on the position: what comes before it decides what a candidate is.
  induction start : placeholder.start using Nat.strong_induction_on
    generalizing placeholder bound limit found others with
  | _ position ih =>
    subst start
    obtain ⟨within, head, rest, candidate, makes⟩ := settled.sound placeholder member
    have outside : ∀ earlier ∈ others, earlier.start < placeholder.start →
        earlier.stop ≤ placeholder.start := by
      intro earlier known precedes
      have shared := ih earlier.start precedes other settled known (by omega) rfl
      exact candidate.outside earlier shared precedes
    obtain ⟨same, ⟨known, starts⟩, _⟩ :=
      other.complete placeholder.start before head rest ⟨candidate.opens, outside⟩
    obtain ⟨_, head', rest', candidate', makes'⟩ := other.sound same known
    -- Both are read after the same colon.
    have left := candidate.opens.begins.read?_of_makes makes
    have right := candidate'.opens.begins.read?_of_makes makes'
    rw [starts, left] at right
    cases right
    exact known

/-- A bound leaves no choice of what is found before it. -/
theorem unique (settled : Settled template bound found) (other : Settled template bound others) :
    found = others := by
  -- The two lists have the same members, and both are strictly ascending.
  have strict {list : List Placeholder} (listed : Settled template bound list) :
      list.Pairwise fun earlier later => earlier.start < later.start :=
    listed.ascending.imp fun {earlier _} ends => Nat.lt_of_lt_of_le (start_lt_stop earlier) ends
  have : Std.Irrefl fun earlier later : Placeholder => earlier.start < later.start :=
    ⟨fun placeholder => Nat.lt_irrefl placeholder.start⟩
  have : Std.Antisymm fun earlier later : Placeholder => earlier.start < later.start :=
    ⟨fun _ _ left right => absurd left (Nat.lt_asymm right)⟩
  refine (strict settled).eq_of_mem_iff (strict other) fun placeholder => ⟨?_, ?_⟩
  · exact fun member => settled.mem_of_mem other member (settled.sound _ member).1
  · exact fun member => other.mem_of_mem settled member (other.sound _ member).1

/-- What has been found up to a position decides whether it is that of a candidate. -/
theorem candidate (settled : Settled template bound found) (other : Settled template limit others)
    {head : Head} {rest : Text} (given : Candidate template found position head rest)
    (within : position ≤ bound) : Candidate template others position head rest := by
  -- Both lists have the same placeholders before the position, so it is outside those of the one as
  -- of the other.
  refine ⟨given.opens, fun earlier member precedes => ?_⟩
  have shared := other.mem_of_mem settled member (by omega)
  exact given.outside earlier shared precedes

/-- Nothing is wrong with a candidate that has been passed. -/
theorem not_spoils (settled : Settled template bound found) {head : Head} {rest : Text}
    (given : Candidate template found position head rest) (before : position < bound)
    {complaint : Complaint} : ¬ head.Spoils rest position complaint := by
  intro spoils
  -- The candidate made a placeholder, so the reader did not complain about its colon.
  obtain ⟨placeholder, ⟨member, rfl⟩, _⟩ := settled.complete position before head rest given
  obtain ⟨_, head', rest', candidate, makes⟩ := settled.sound placeholder member
  have read := candidate.opens.begins.read?_of_makes makes
  rw [given.opens.begins.read?_of_spoils spoils] at read
  contradiction

end Settled

/-- What holds of the items of a list with one more at its end holds of each of them and of it. -/
private theorem forall_mem_concat {holds : Placeholder → Prop} {found : List Placeholder}
    {placeholder : Placeholder} : (∀ known ∈ found ++ [placeholder], holds known) ↔
      (∀ known ∈ found, holds known) ∧ holds placeholder := by
  rw [List.forall_mem_append, List.forall_mem_singleton]

namespace Candidate

variable {template rest : Text} {found : List Placeholder} {position : Nat} {head : Head}
  {placeholder : Placeholder}

/-- A candidate is no less one when what is found later begins no earlier. -/
theorem concat (candidate : Candidate template found position head rest)
    (later : position ≤ placeholder.start) :
    Candidate template (found ++ [placeholder]) position head rest := by
  refine ⟨candidate.opens, forall_mem_concat.mpr ⟨candidate.outside, fun precedes => ?_⟩⟩
  omega

/-- A candidate is no less one when less has been found. -/
theorem of_concat (candidate : Candidate template (found ++ [placeholder]) position head rest) :
    Candidate template found position head rest :=
  ⟨candidate.opens, (forall_mem_concat.mp candidate.outside).1⟩

end Candidate

/-- A scan has come to a position with everything before it settled. -/
structure Frontier (template : Text) (position : Nat) (found : List Placeholder) : Prop where
  /-- The candidates before the position are settled. -/
  settled : Settled template position found
  /-- What has been found ends before the position. -/
  behind : ∀ placeholder ∈ found, placeholder.stop ≤ position
  /-- The position is not within a run of colons. -/
  apart : ∀ previous, previous + 1 = position → template[previous]? = some ':' →
    template[position]? ≠ some ':'

namespace Frontier

variable {template : Text} {position : Nat} {found : List Placeholder}

/-- Before the first character there is nothing to settle. -/
theorem start (template : Text) : Frontier template 0 [] where
  settled := ⟨.nil, by simp, by simp, by simp, by simp⟩
  behind := by simp
  apart := by simp

/-- A scan may move on past positions at which nothing opens. -/
theorem skip (frontier : Frontier template position found) {next : Nat} (onward : position ≤ next)
    (shut : ∀ passed, position ≤ passed → passed < next →
      ∀ head rest, ¬ Opens template passed head rest)
    (apart : ∀ previous, previous + 1 = next → template[previous]? = some ':' →
      template[next]? ≠ some ':') : Frontier template next found where
  settled := by
    -- Nothing is added, and the positions passed hold no candidate to complete.
    obtain ⟨ascending, inside, written, sound, complete⟩ := frontier.settled
    refine ⟨ascending, inside, written, fun placeholder member => ?_, ?_⟩
    · obtain ⟨before, made⟩ := sound placeholder member
      exact ⟨by omega, made⟩
    · intro passed before head rest candidate
      by_cases earlier : passed < position
      · exact complete passed earlier head rest candidate
      · exact absurd candidate.opens (shut passed (by omega) before head rest)
  behind := fun placeholder member => Nat.le_trans (frontier.behind placeholder member) onward
  apart := apart

/-- A scan may move on past one character when nothing opens there and no run of colons goes on. -/
theorem pass (frontier : Frontier template position found)
    (shut : ∀ head rest, ¬ Opens template position head rest)
    (apart : template[position]? = some ':' → template[position + 1]? ≠ some ':') :
    Frontier template (position + 1) found := by
  -- The only position that is passed is the one where nothing opens.
  refine frontier.skip (Nat.le_succ _) ?_ ?_
  · intro passed reached before
    obtain rfl : passed = position := by omega
    exact shut
  · rintro previous ⟨⟩
    exact apart

/-- A scan moves on past the placeholder that opens at its position. -/
theorem add (frontier : Frontier template position found) {head : Head} {rest : Text}
    (opens : Opens template position head rest) {placeholder : Placeholder}
    (makes : head.Makes rest position placeholder) :
    Frontier template placeholder.stop (found ++ [placeholder]) := by
  obtain ⟨rfl, _⟩ := opens.begins.source_of_makes makes
  have room := start_lt_stop placeholder
  obtain ⟨within, written⟩ := opens.written makes
  refine ⟨⟨?_, ?_, ?_, ?_, ?_⟩, ?_, ?_⟩
  · -- All that was found before ends before the colon.
    rw [List.pairwise_append]
    refine ⟨frontier.settled.ascending, List.pairwise_singleton .., fun earlier member => ?_⟩
    exact List.forall_mem_singleton.mpr (frontier.behind earlier member)
  · exact forall_mem_concat.mpr ⟨frontier.settled.inside, room, within⟩
  · exact forall_mem_concat.mpr ⟨frontier.settled.written, written⟩
  · refine forall_mem_concat.mpr ⟨fun known member => ?_, room, head, rest, ?_, makes⟩
    · obtain ⟨before, head', rest', candidate, makes'⟩ := frontier.settled.sound known member
      have still := candidate.concat (Nat.le_of_lt before)
      exact ⟨Nat.lt_trans before room, head', rest', still, makes'⟩
    · refine ⟨opens, forall_mem_concat.mpr ⟨fun earlier member _ => ?_, fun itself => ?_⟩⟩
      · exact frontier.behind earlier member
      · exact absurd itself (Nat.lt_irrefl _)
  · intro passed before head' rest' candidate
    rcases Nat.lt_trichotomy passed placeholder.start with earlier | rfl | later
    · -- A candidate passed before made one placeholder, which is not the one that is added.
      obtain ⟨known, ⟨member, starts⟩, only⟩ :=
        frontier.settled.complete passed earlier head' rest' candidate.of_concat
      refine ⟨known, ⟨List.mem_append_left _ member, starts⟩, fun other => ?_⟩
      rintro ⟨among, begins⟩
      rcases List.mem_append.mp among with among | among
      · exact only other ⟨among, begins⟩
      · cases List.mem_singleton.mp among
        omega
    · -- The candidate that opens makes the one that is added, and begins after all others.
      refine ⟨placeholder, ⟨List.mem_concat_self, rfl⟩, fun other => ?_⟩
      rintro ⟨among, begins⟩
      rcases List.mem_append.mp among with among | among
      · have := (frontier.settled.sound other among).1
        omega
      · exact List.mem_singleton.mp among
    · -- Past its colon the placeholder covers every position before its end.
      have := candidate.outside placeholder List.mem_concat_self later
      omega
  · refine forall_mem_concat.mpr ⟨fun known member => ?_, Nat.le_refl _⟩
    have := frontier.behind known member
    omega
  · -- A placeholder ends with a character of its name or with a brace, and so not with a colon.
    intro previous next colon
    obtain ⟨c, last, kind⟩ := opens.last makes
    rw [show placeholder.stop - 1 = previous by omega, colon] at last
    cases last
    rcases kind with named | brace
    · exact absurd named (by decide)
    · exact absurd brace (by decide)

end Frontier

/-- What a scan may answer, with the placeholders that it adds to those found before. -/
def Answers (template : Text) (found : List Placeholder) :
    Except Complaint (List Placeholder) → Prop
  -- A scan that ends has settled the whole template.
  | .ok more => Settled template template.length (found ++ more)
  -- A scan that stops has settled what comes before the candidate that it complains about.
  | .error complaint => ∃ more position head rest,
    Settled template position (found ++ more) ∧
      Candidate template (found ++ more) position head rest ∧
      head.Spoils rest position complaint

/-- A placeholder found before the answer may count as the first one of the answer. -/
theorem Answers.cons {template : Text} {found : List Placeholder} {placeholder : Placeholder}
    {outcome : Except Complaint (List Placeholder)}
    (answers : Answers template (found ++ [placeholder]) outcome) :
    Answers template found (outcome.map (placeholder :: ·)) := by
  -- The placeholder ends the one list and begins the other.
  cases outcome with
  | ok more => simpa [Answers, Except.map] using answers
  | error complaint =>
    obtain ⟨more, position, head, rest, settled, candidate, spoils⟩ := answers
    rw [List.append_assoc] at settled candidate
    exact ⟨placeholder :: more, position, head, rest, settled, candidate, spoils⟩

/-- The rest of the template, with one more character passed. -/
private theorem drop_succ {template rest : Text} {position : Nat} {c : Char}
    (here : c :: rest = template.drop position) :
    template[position]? = some c ∧ rest = template.drop (position + 1) ∧
      position + 1 ≤ template.length := by
  -- Past the end of the template no character would be left.
  have within : position < template.length := by
    by_contra past
    rw [List.drop_eq_nil_of_le (by omega)] at here
    contradiction
  rw [List.drop_eq_getElem_cons within] at here
  obtain ⟨rfl, rfl⟩ := List.cons.inj here
  exact ⟨List.getElem?_eq_getElem within, rfl, within⟩

/-- A run of colons is all that a test for them takes, and it ends where there is none. -/
private theorem colons_takeWhile (text : Text) :
    (∀ index < (text.takeWhile (· = ':')).length, text[index]? = some ':') ∧
      text[(text.takeWhile (· = ':')).length]? ≠ some ':' := by
  -- The run goes on with each colon, and it ends with anything else.
  induction text with
  | nil => simp
  | cons c rest ih =>
    by_cases colon : c = ':'
    · obtain ⟨within, ends⟩ := ih
      simp only [colon, List.takeWhile_cons, decide_true, if_true, List.length_cons]
      refine ⟨fun index before => ?_, by simpa using ends⟩
      cases index with
      | zero => rfl
      | succ index => exact within index (by omega)
    · simp [colon]

/-- Nothing opens in a run of colons that begins at the frontier. -/
theorem Frontier.skipRun {template : Text} {position length : Nat} {found : List Placeholder}
    (frontier : Frontier template position found)
    (run : length = ((template.drop position).takeWhile (· = ':')).length) (long : 1 < length) :
    Frontier template (position + length) found := by
  obtain ⟨colons, ends⟩ := colons_takeWhile (template.drop position)
  simp only [← run, List.getElem?_drop] at colons ends
  refine frontier.skip (by omega) ?_ fun previous next _ => ends
  intro passed reached before head rest opens
  -- The first colon has one after it, and every other one has one before it.
  by_cases first : passed = position
  · subst first
    exact opens.after (colons 1 long)
  · have previous := colons (passed - 1 - position) (by omega)
    rw [show position + (passed - 1 - position) = passed - 1 by omega] at previous
    exact opens.before (passed - 1) (by omega) previous

/-- A colon at the frontier with none after it opens with any head that follows it. -/
theorem Frontier.opens {template rest : Text} {position : Nat} {found : List Placeholder}
    (frontier : Frontier template position found) (colon : template[position]? = some ':')
    (single : template[position + 1]? ≠ some ':') {head : Head}
    (begins : head.Begins (template.drop (position + 1)) rest) :
    Opens template position head rest where
  colon := colon
  before := fun previous next before => frontier.apart previous next before colon
  after := single
  begins := begins

/-- A scan that goes on from a settled position settles the template or stops at a candidate. -/
theorem scanFrom_answers {template : Text} {position : Nat} {text : Text}
    {found : List Placeholder} (here : text = template.drop position)
    (within : position ≤ template.length) (frontier : Frontier template position found) :
    Answers template found (scanFrom position text) := by
  -- The induction follows the scan, and each step moves the frontier on.
  induction position, text using scanFrom.induct generalizing found with
  | case1 position =>
    have ended : position = template.length :=
      Nat.le_antisymm within (List.drop_eq_nil_iff.mp here.symm)
    rw [scanFrom, Answers, List.append_nil]
    exact ended ▸ frontier.settled
  | case2 position c rest other ih =>
    obtain ⟨first, rfl, within⟩ := drop_succ here
    rw [scanFrom, if_pos other]
    -- Nothing opens without a colon.
    have noColon : template[position]? ≠ some ':' :=
      fun colon => other (Option.some.inj (first.symm.trans colon))
    exact ih rfl within (frontier.pass (fun head rest opens => noColon opens.colon)
      fun colon => absurd colon noColon)
  | case3 position c rest colon next run =>
    rename_i ih
    obtain ⟨first, tail, within⟩ := drop_succ here
    obtain rfl : c = ':' := not_not.mp colon
    rw [scanFrom, if_neg colon, if_pos next]
    -- The run is counted from its first colon, and the second one is known.
    have counted : 1 + run.length = ((template.drop position).takeWhile (· = ':')).length := by
      rw [← here, List.takeWhile_cons_of_pos (by simp), List.length_cons, Nat.add_comm]
    have long : 0 < run.length := by
      obtain ⟨later, rfl⟩ := List.head?_eq_some_iff.mp next
      simp [run]
    have short : run.length ≤ template.length - (position + 1) := by
      rw [← List.length_drop, ← tail]
      exact (List.takeWhile_sublist _).length_le
    refine ih ?_ (by omega) ?_
    · rw [tail, List.drop_drop]
    · rw [Nat.add_assoc]
      exact frontier.skipRun counted (by omega)
  | case4 position c rest colon single complaint read =>
    -- The scan stops here, and nothing has been added since.
    obtain ⟨first, rfl, within⟩ := drop_succ here
    rw [scanFrom, if_neg colon, if_neg single, read]
    rw [not_not.mp colon] at first
    rw [List.head?_drop] at single
    obtain ⟨head, rest, begins, spoils⟩ := Head.spoils_of_read? read
    refine ⟨[], position, head, rest, by simpa using frontier.settled, ?_, spoils⟩
    exact ⟨frontier.opens first single begins,
      fun earlier member _ => frontier.behind earlier (by simpa using member)⟩
  | case5 position c rest colon single read ih =>
    obtain ⟨first, rfl, within⟩ := drop_succ here
    rw [scanFrom, if_neg colon, if_neg single, read]
    rw [List.head?_drop] at single
    -- No head follows the colon, for one would have been read.
    exact ih rfl within (frontier.pass
      (fun head rest opens => opens.begins.read?_ne_none position read) fun _ => single)
  | case6 position c rest colon single placeholder read ih =>
    obtain ⟨first, rfl, within⟩ := drop_succ here
    rw [scanFrom, if_neg colon, if_neg single, read]
    rw [not_not.mp colon] at first
    rw [List.head?_drop] at single
    obtain ⟨head, rest, begins, makes⟩ := Head.makes_of_read? read
    have opens := frontier.opens first single begins
    obtain ⟨starts, _⟩ := begins.source_of_makes makes
    have room := start_lt_stop placeholder
    -- The text goes on behind the placeholder.
    have behind : (template.drop (position + 1)).drop (placeholder.length - 1) =
        template.drop placeholder.stop := by
      rw [List.drop_drop]
      simp only [stop] at room ⊢
      congr 1
      omega
    have answers := ih behind (opens.written makes).1 (frontier.add opens makes)
    simp only [behind] at answers ⊢
    exact answers.cons

/-- A scan settles its template, or complains about a candidate before which all is settled. -/
theorem scan_answers (template : Text) :
    (∃ found, scan template = .ok found ∧ Settled template template.length found) ∨
      ∃ found position head rest cause blamed,
        scan template = .error (.placeholder cause blamed template) ∧
          Settled template position found ∧ Candidate template found position head rest ∧
          head.Spoils rest position (cause, blamed) := by
  -- The scan from the beginning answers for all of the template, as nothing has been found before.
  have answers : Answers template [] (scanFrom 0 template) :=
    scanFrom_answers List.drop_zero.symm (Nat.zero_le _) (Frontier.start template)
  cases scanned : scanFrom 0 template with
  | ok found =>
    rw [scanned] at answers
    exact Or.inl ⟨found, by rw [scan, scanned]; rfl, answers⟩
  | error complaint =>
    rw [scanned] at answers
    obtain ⟨found, position, head, rest, settled, candidate, spoils⟩ := answers
    exact Or.inr ⟨found, position, head, rest, complaint.1, complaint.2,
      by rw [scan, scanned]; rfl, settled, candidate, spoils⟩

/-- A scan ends with those placeholders that settle the whole template. -/
theorem scan_eq_ok_iff {template : Text} {found : List Placeholder} :
    scan template = .ok found ↔ Settled template template.length found := by
  rcases scan_answers template with ⟨known, scanned, whole⟩ |
    ⟨known, position, head, rest, cause, blamed, scanned, before, candidate, spoils⟩
  · rw [scanned, Except.ok.injEq]
    exact ⟨fun same => same ▸ whole, whole.unique⟩
  · rw [scanned]
    refine ⟨nofun, fun settled => ?_⟩
    -- The candidate complained about would have been passed.
    obtain ⟨within, _⟩ := List.getElem?_eq_some_iff.mp candidate.opens.colon
    have passed := before.candidate settled candidate (Nat.le_refl position)
    exact absurd spoils (settled.not_spoils passed within)

/-- A scan complains about the candidate that is the first one to make no placeholder. -/
theorem scan_eq_error_iff {template : Text} {fault : ResolutionFault} :
    scan template = .error fault ↔ ∃ found position head rest cause blamed,
      Settled template position found ∧ Candidate template found position head rest ∧
        head.Spoils rest position (cause, blamed) ∧
        fault = .placeholder cause blamed template := by
  constructor
  · intro failed
    rcases scan_answers template with ⟨known, scanned, _⟩ |
      ⟨known, position, head, rest, cause, blamed, scanned, before, candidate, spoils⟩
    · rw [scanned] at failed
      cases failed
    · rw [scanned] at failed
      cases failed
      exact ⟨known, position, head, rest, cause, blamed, before, candidate, spoils, rfl⟩
  · -- The scan cannot have come through, and where it stopped is the only such candidate.
    rintro ⟨found, position, head, rest, cause, blamed, settled, candidate, spoils, rfl⟩
    rcases scan_answers template with ⟨known, scanned, whole⟩ |
      ⟨known, position', head', rest', cause', blamed', scanned, before, candidate', spoils'⟩
    · obtain ⟨within, _⟩ := List.getElem?_eq_some_iff.mp candidate.opens.colon
      have passed := settled.candidate whole candidate (Nat.le_refl position)
      exact absurd spoils (whole.not_spoils passed within)
    · -- Of two such candidates neither has been passed on the way to the other.
      rcases Nat.lt_trichotomy position position' with earlier | rfl | later
      · have passed := settled.candidate before candidate (Nat.le_refl position)
        exact absurd spoils (before.not_spoils passed earlier)
      · have same := candidate'.opens.begins.read?_of_spoils spoils'
        rw [candidate.opens.begins.read?_of_spoils spoils] at same
        cases same
        exact scanned
      · have passed := before.candidate settled candidate' (Nat.le_refl position')
        exact absurd spoils' (settled.not_spoils passed later)

/-- What is to blame for a complaint is the brace of a fragment that is not closed, or else the
colon. -/
theorem Candidate.blamed {template rest : Text} {found : List Placeholder} {position blamed : Nat}
    {head : Head} {cause : PlaceholderFault}
    (candidate : Candidate template found position head rest)
    (spoils : head.Spoils rest position (cause, blamed)) :
    template[blamed]? = some (if cause = .fragmentUnclosed then openBrace else ':') := by
  -- Only an open fragment is blamed on its brace, which comes behind the colon and the head.
  cases spoils with
  | mixed => exact candidate.opens.colon
  | fragmentMissing => exact candidate.opens.colon
  | fragmentUnclosed marked unmixed opened =>
    rw [if_pos rfl, Nat.add_assoc, ← List.getElem?_drop, candidate.opens.begins.whole, opened,
      ← List.length_append, List.getElem?_append_right (Nat.le_refl _), Nat.sub_self]
    rfl

/-- A scan finds the placeholder of each candidate, taken from left to right, and nothing else; it
complains just when one of them is malformed, about the leftmost such one. -/
theorem scan_recognizes (template : Text) :
    (∀ found, scan template = .ok found ↔ Settled template template.length found) ∧
    (∀ fault, scan template = .error fault ↔ ∃ found position head rest cause blamed,
      Settled template position found ∧ Candidate template found position head rest ∧
        head.Spoils rest position (cause, blamed) ∧
        template[blamed]? = some (if cause = .fragmentUnclosed then openBrace else ':') ∧
        fault = .placeholder cause blamed template) ∧
    ((∃ found, scan template = .ok found) ↔ ∀ found position head rest complaint,
      Settled template position found → Candidate template found position head rest →
        ¬ head.Spoils rest position complaint) := by
  refine ⟨fun found => scan_eq_ok_iff, fun fault => ?_, ?_⟩
  · -- What a complaint blames follows from how the candidate is spoiled.
    rw [scan_eq_error_iff]
    constructor
    · rintro ⟨found, position, head, rest, cause, blamed, settled, candidate, spoils, rfl⟩
      exact ⟨found, position, head, rest, cause, blamed, settled, candidate, spoils,
        candidate.blamed spoils, rfl⟩
    · rintro ⟨found, position, head, rest, cause, blamed, settled, candidate, spoils, _, rfl⟩
      exact ⟨found, position, head, rest, cause, blamed, settled, candidate, spoils, rfl⟩
  · -- A scan either ends or stops, so it ends when there is no reason to stop.
    constructor
    · rintro ⟨found, scanned⟩ known position head rest ⟨cause, blamed⟩ settled candidate spoils
      have failed := scan_eq_error_iff.mpr
        ⟨known, position, head, rest, cause, blamed, settled, candidate, spoils, rfl⟩
      rw [scanned] at failed
      cases failed
    · intro sound
      rcases scan_answers template with ⟨found, scanned, _⟩ |
        ⟨found, position, head, rest, cause, blamed, _, settled, candidate, spoils⟩
      · exact ⟨found, scanned⟩
      · exact absurd spoils (sound found position head rest _ settled candidate)

end SqlTemplate.Placeholder
