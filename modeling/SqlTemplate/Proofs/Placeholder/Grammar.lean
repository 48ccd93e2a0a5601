import Mathlib.Data.List.TakeWhile
import SqlTemplate.Placeholder.Scanner

/-! The grammar of placeholders is stated without a reader, and one reading step follows it. -/

namespace SqlTemplate.Placeholder

/-- A text whose braces are balanced once some more have been opened before it. -/
structure Balanced (opened : Nat) (fragment : Text) : Prop where
  /-- No beginning of the text closes more braces than have been opened. -/
  within : ∀ start, start <+: fragment →
    start.count closeBrace ≤ start.count openBrace + opened
  /-- In the end every opened brace is closed. -/
  even : fragment.count closeBrace = fragment.count openBrace + opened

/-- The empty text closes nothing. -/
theorem balanced_nil {opened : Nat} : Balanced opened [] ↔ opened = 0 := by
  -- There are no braces in it, so as many were open before as are open at its end.
  constructor
  · intro balanced
    simpa using balanced.even.symm
  · rintro rfl
    exact ⟨by simp, rfl⟩

/-- A character in front of a text changes how many braces are open before it. -/
theorem balanced_cons {opened later : Nat} {c : Char} {rest : Text}
    (step : [c].count openBrace + opened = [c].count closeBrace + later) :
    Balanced opened (c :: rest) ↔ Balanced later rest := by
  -- The counts of a text and of its tail differ by those of the character alone.
  have counted (brace : Char) (text : Text) :
      (c :: text).count brace = [c].count brace + text.count brace := by
    rw [← List.count_append, List.singleton_append]
  constructor
  · intro balanced
    refine ⟨fun start within => ?_, ?_⟩
    · have bound := balanced.within (c :: start) ((List.prefix_cons_inj c).mpr within)
      rw [counted _ start, counted _ start] at bound
      omega
    · have even := balanced.even
      rw [counted _ rest, counted _ rest] at even
      omega
  · intro balanced
    refine ⟨fun start within => ?_, ?_⟩
    · -- A beginning of the longer text is empty, or it is the character before one of the shorter
      -- text.
      rcases List.prefix_cons_iff.mp within with rfl | ⟨shorter, rfl, inner⟩
      · simp
      · have bound := balanced.within shorter inner
        rw [counted _ shorter, counted _ shorter]
        omega
    · have even := balanced.even
      rw [counted _ rest, counted _ rest]
      omega

/-- With nothing opened before, a text cannot begin by closing a brace. -/
theorem not_balanced_closeBrace {rest : Text} : ¬ Balanced 0 (closeBrace :: rest) := by
  -- After the first character more braces would have been closed than opened.
  intro balanced
  have bound := balanced.within [closeBrace] ⟨rest, rfl⟩
  simp [openBrace, closeBrace] at bound

/-- The body of a fragment is the balanced text before a closing brace. -/
theorem fragmentBody_eq_some_iff {opened : Nat} {text fragment : Text} :
    fragmentBody opened text = some fragment ↔
      ∃ after, text = fragment ++ closeBrace :: after ∧ Balanced opened fragment := by
  -- The induction follows the reader, which counts the braces that are open.
  induction text generalizing opened fragment with
  | nil => simp [fragmentBody]
  | cons c rest ih =>
    -- A character that does not end the body is the first one of it.
    have further {later : Nat} (step : [c].count openBrace + opened = [c].count closeBrace + later)
        (goes : ¬ (c = closeBrace ∧ opened = 0)) :
        (fragmentBody later rest).map (c :: ·) = some fragment ↔
          ∃ after, c :: rest = fragment ++ closeBrace :: after ∧ Balanced opened fragment := by
      rw [Option.map_eq_some_iff]
      constructor
      · rintro ⟨body, read, rfl⟩
        obtain ⟨after, rfl, balanced⟩ := ih.mp read
        exact ⟨after, rfl, (balanced_cons step).mpr balanced⟩
      · rintro ⟨after, same, balanced⟩
        cases fragment with
        | nil =>
          simp only [List.nil_append, List.cons.injEq] at same
          exact absurd ⟨same.1, balanced_nil.mp balanced⟩ goes
        | cons d body =>
          simp only [List.cons_append, List.cons.injEq] at same
          obtain ⟨rfl, rfl⟩ := same
          exact ⟨body, ih.mpr ⟨after, rfl, (balanced_cons step).mp balanced⟩, rfl⟩
    unfold fragmentBody
    -- An opening brace adds one to the braces that are open, and a closing one takes one away.
    by_cases opens : c = openBrace
    · rw [if_pos opens]
      exact further (by simp [opens, openBrace, closeBrace]; omega)
        (by simp [opens, openBrace, closeBrace])
    · rw [if_neg opens]
      by_cases closes : c = closeBrace
      · rw [if_pos closes]
        cases opened with
        | zero =>
          -- A brace that closes nothing within ends the body.
          subst closes
          constructor
          · rintro ⟨rfl⟩
            exact ⟨rest, rfl, balanced_nil.mpr rfl⟩
          · rintro ⟨after, same, balanced⟩
            cases fragment with
            | nil => rfl
            | cons d body =>
              simp only [List.cons_append, List.cons.injEq] at same
              exact absurd (same.1 ▸ balanced) not_balanced_closeBrace
        | succ within =>
          exact further (by simp [closes, openBrace, closeBrace]; omega) (by simp)
      · rw [if_neg closes]
        exact further (by simp [opens, closes]) (by simp [closes])

/-- What stands after the colon of a placeholder, up to the end of its name. -/
structure Head where
  /-- The modifiers. -/
  modifiers : Text
  /-- The identifier. -/
  ident : Text

namespace Head

/-- The name under which the value is looked up. -/
def name (head : Head) : String :=
  String.ofList (head.modifiers ++ head.ident)

/-- A text begins with a head, after which the rest follows. -/
structure Begins (head : Head) (text rest : Text) : Prop where
  /-- The head and the rest make up the text. -/
  whole : text = head.modifiers ++ head.ident ++ rest
  /-- The modifiers are of the two kinds. -/
  modified : ∀ c ∈ head.modifiers, c = dynamicMark ∨ c = optionalMark
  /-- The identifier has a first character, which is of a narrower class than the others. -/
  named : ∃ first more, head.ident = first :: more ∧ isNameStart first = true ∧
    ∀ c ∈ more, isNameChar c = true
  /-- The identifier is the longest possible. -/
  longest : ∀ c ∈ rest.head?, isNameChar c = false

/-- The placeholder that a head makes with the rest of the text behind it. -/
inductive Makes (head : Head) (rest : Text) (position : Nat) : Placeholder → Prop
  /-- Without modifiers it is plain. -/
  | plain (bare : head.modifiers = []) : Makes head rest position ⟨head.name, .plain, position⟩
  /-- With modifiers of one kind it is dynamic. -/
  | dynamic (marked : dynamicMark ∈ head.modifiers) (unmixed : optionalMark ∉ head.modifiers) :
    Makes head rest position ⟨head.name, .dynamic, position⟩
  /-- With modifiers of the other kind it is optional, and needs a fragment in braces. -/
  | optional {fragment after : Text} (marked : optionalMark ∈ head.modifiers)
    (unmixed : dynamicMark ∉ head.modifiers)
    (enclosed : rest = openBrace :: fragment ++ closeBrace :: after)
    (balanced : Balanced 0 fragment) :
    Makes head rest position ⟨head.name, .optional fragment, position⟩

/-- What is wrong with a head that makes no placeholder, and the position to blame. -/
inductive Spoils (head : Head) (rest : Text) (position : Nat) : Complaint → Prop
  /-- It has modifiers of both kinds, and its colon is to blame. -/
  | mixed (dynamic : dynamicMark ∈ head.modifiers) (optional : optionalMark ∈ head.modifiers) :
    Spoils head rest position (.mixedModifiers head.name, position)
  /-- It is optional and no brace follows, and its colon is to blame. -/
  | fragmentMissing (marked : optionalMark ∈ head.modifiers)
    (unmixed : dynamicMark ∉ head.modifiers) (absent : rest.head? ≠ some openBrace) :
    Spoils head rest position (.fragmentMissing head.name, position)
  /-- It is optional and its brace is never balanced, and the brace is to blame. -/
  | fragmentUnclosed {inside : Text} (marked : optionalMark ∈ head.modifiers)
    (unmixed : dynamicMark ∉ head.modifiers) (opened : rest = openBrace :: inside)
    (unbalanced : ∀ fragment after, inside = fragment ++ closeBrace :: after →
      ¬ Balanced 0 fragment) :
    Spoils head rest position
      (.fragmentUnclosed, position + 1 + head.modifiers.length + head.ident.length)

end Head

/-- A modifier is not a character that begins an identifier. -/
private theorem isModifier_of_isNameStart {c : Char} (starts : isNameStart c = true) :
    isModifier c = false := by
  -- There are two modifiers, and an identifier begins with neither.
  have dynamic : c ≠ dynamicMark := by
    rintro rfl
    revert starts
    decide
  have optional : c ≠ optionalMark := by
    rintro rfl
    revert starts
    decide
  simp [isModifier, dynamic, optional]

/-- The longest identifier of a text that begins with one. -/
private theorem identifier_append {first : Char} {more rest : Text}
    (starts : isNameStart first = true) (goes : ∀ c ∈ more, isNameChar c = true)
    (ends : ∀ c ∈ rest.head?, isNameChar c = false) :
    identifier (first :: more ++ rest) = first :: more := by
  -- The characters that may go on are taken as far as they reach, which is up to the rest.
  have stops : rest.takeWhile isNameChar = [] := by
    cases rest with
    | nil => rfl
    | cons c later => exact List.takeWhile_cons_of_neg (by simp [ends c (by simp)])
  rw [List.cons_append, identifier, if_pos starts, List.takeWhile_append_of_pos goes, stops,
    List.append_nil]

/-- A head with its rest is what the reader takes apart. -/
theorem Head.begins_iff {head : Head} {text rest : Text} :
    head.Begins text rest ↔
      head.modifiers = text.takeWhile isModifier ∧
      head.ident = identifier (text.dropWhile isModifier) ∧
      rest = (text.dropWhile isModifier).drop head.ident.length ∧ head.ident ≠ [] := by
  constructor
  · intro begins
    obtain ⟨first, more, named, starts, goes⟩ := begins.named
    have marks : ∀ c ∈ head.modifiers, isModifier c = true := by
      intro c member
      simpa [isModifier] using begins.modified c member
    -- The first character of the identifier ends the run of modifiers.
    have unmarked := isModifier_of_isNameStart starts
    have whole : text = head.modifiers ++ (first :: more ++ rest) := by
      rw [begins.whole, named, List.append_assoc]
    have taken : text.takeWhile isModifier = head.modifiers := by
      rw [whole, List.takeWhile_append_of_pos marks, List.cons_append,
        List.takeWhile_cons_of_neg (by simp [unmarked]), List.append_nil]
    have dropped : text.dropWhile isModifier = first :: more ++ rest := by
      rw [whole, List.dropWhile_append_of_pos marks, List.cons_append,
        List.dropWhile_cons_of_neg (by simp [unmarked])]
    rw [taken, dropped, identifier_append starts goes begins.longest, named]
    exact ⟨rfl, rfl, List.drop_append_length.symm, by simp⟩
  · rintro ⟨taken, named, left, present⟩
    -- What is left behind the modifiers begins with the identifier.
    cases dropped : text.dropWhile isModifier with
    | nil => simp [dropped, identifier] at named; contradiction
    | cons first later =>
      rw [dropped] at named left
      by_cases starts : isNameStart first = true
      · rw [identifier, if_pos starts] at named
        -- The identifier ends where the run of its characters does.
        have split : later = later.takeWhile isNameChar ++ later.dropWhile isNameChar :=
          List.takeWhile_append_dropWhile.symm
        have left : rest = later.dropWhile isNameChar := by
          rw [left, named, List.length_cons, List.drop_succ_cons]
          exact (congrArg _ split).trans List.drop_append_length
        refine ⟨?_, ?_, ⟨first, _, named, starts, fun c => List.mem_takeWhile_imp⟩, ?_⟩
        · rw [taken, named, left, List.append_assoc, List.cons_append, ← split, ← dropped,
            List.takeWhile_append_dropWhile]
        · intro c member
          rw [taken] at member
          simpa [isModifier] using List.mem_takeWhile_imp member
        · intro c member
          have stopped := List.head?_dropWhile_not isNameChar later
          rw [← left, Option.mem_def.mp member] at stopped
          exact stopped
      · rw [identifier, if_neg starts] at named
        contradiction

/-- A text that begins with no head is not read as a placeholder. -/
theorem read?_of_no_head {text : Text} (position : Nat)
    (headless : ∀ head rest, ¬ Head.Begins head text rest) : read? position text = .ok none := by
  -- A text with an identifier behind its modifiers would begin with a head of just these.
  by_cases unnamed : identifier (text.dropWhile isModifier) = []
  · simp [read?, unnamed]
  · exact absurd (Head.begins_iff.mpr ⟨rfl, rfl, rfl, unnamed⟩) (headless ⟨_, _⟩ _)

namespace Head

variable {head : Head} {text rest : Text}

/-- The placeholder that a head makes is the one that is read. -/
theorem Begins.read?_of_makes (begins : head.Begins text rest) {position : Nat}
    {placeholder : Placeholder} (makes : head.Makes rest position placeholder) :
    read? position text = .ok (some placeholder) := by
  obtain ⟨taken, named, left, present⟩ := begins_iff.mp begins
  unfold read?
  simp only [← taken, ← named, ← left]
  -- The kinds of modifiers decide which of the branches is taken.
  cases makes with
  | plain bare => simp [bare, present, name]
  | dynamic marked unmixed => simp [marked, unmixed, present, name]
  | @optional fragment after marked unmixed enclosed balanced =>
    have body : fragmentBody 0 (fragment ++ closeBrace :: after) = some fragment :=
      fragmentBody_eq_some_iff.mpr ⟨after, rfl, balanced⟩
    have modified := List.ne_nil_of_mem marked
    simp [unmixed, present, modified, enclosed, body, name]

/-- What is wrong with a head is what the reader complains about. -/
theorem Begins.read?_of_spoils (begins : head.Begins text rest) {position : Nat}
    {complaint : Complaint} (spoils : head.Spoils rest position complaint) :
    read? position text = .error complaint := by
  obtain ⟨taken, named, left, present⟩ := begins_iff.mp begins
  unfold read?
  simp only [← taken, ← named, ← left]
  cases spoils with
  -- The reader checks the marks first, then the brace, and the fragment last.
  | mixed dynamic optional => simp [dynamic, optional, present, name]
  | fragmentMissing marked unmixed absent =>
    have modified := List.ne_nil_of_mem marked
    cases rest with
    | nil => simp [unmixed, present, modified, name]
    | cons c inside =>
      have unopened : c ≠ openBrace := by simpa using absent
      simp [unmixed, present, modified, unopened, name]
  | @fragmentUnclosed inside marked unmixed opened unbalanced =>
    have modified := List.ne_nil_of_mem marked
    -- A fragment that was read would be balanced.
    have body : fragmentBody 0 inside = none := by
      rw [Option.eq_none_iff_forall_ne_some]
      intro fragment read
      obtain ⟨after, split, balanced⟩ := fragmentBody_eq_some_iff.mp read
      exact unbalanced fragment after split balanced
    simp [unmixed, present, modified, opened, body]

/-- A head makes a placeholder, or there is something wrong with it. -/
theorem Begins.makes_or_spoils (begins : head.Begins text rest) (position : Nat) :
    (∃ placeholder, head.Makes rest position placeholder) ∨
      ∃ complaint, head.Spoils rest position complaint := by
  -- Only modifiers of one kind, the one that marks a fragment, need anything more.
  by_cases dynamic : dynamicMark ∈ head.modifiers
  · by_cases optional : optionalMark ∈ head.modifiers
    · exact Or.inr ⟨_, .mixed dynamic optional⟩
    · exact Or.inl ⟨_, .dynamic dynamic optional⟩
  · cases modified : head.modifiers with
    | nil => exact Or.inl ⟨_, .plain modified⟩
    | cons c others =>
      -- A modifier of the other kind remains, so a fragment has to follow.
      have member : c ∈ head.modifiers := by simp [modified]
      have optional : optionalMark ∈ head.modifiers := by
        rcases begins.modified c member with rfl | rfl
        · exact absurd member dynamic
        · exact member
      by_cases opened : rest.head? = some openBrace
      · obtain ⟨inside, opened⟩ := List.head?_eq_some_iff.mp opened
        by_cases balanced : ∃ fragment after,
            inside = fragment ++ closeBrace :: after ∧ Balanced 0 fragment
        · obtain ⟨fragment, after, split, balanced⟩ := balanced
          exact Or.inl ⟨_, .optional optional dynamic (by rw [opened, split]; rfl) balanced⟩
        · exact Or.inr ⟨_, .fragmentUnclosed optional dynamic opened
            fun fragment after split inner => balanced ⟨fragment, after, split, inner⟩⟩
      · exact Or.inr ⟨_, .fragmentMissing optional dynamic opened⟩

/-- A text that is read as a placeholder begins with the head that makes it. -/
theorem makes_of_read? {text : Text} {position : Nat} {placeholder : Placeholder}
    (read : read? position text = .ok (some placeholder)) :
    ∃ head rest, Begins head text rest ∧ head.Makes rest position placeholder := by
  -- The head that a text begins with makes a placeholder or spoils one, and the reader tells which.
  by_cases headed : ∃ head rest, Begins head text rest
  · obtain ⟨head, rest, begins⟩ := headed
    rcases begins.makes_or_spoils position with ⟨made, makes⟩ | ⟨complaint, spoils⟩
    · rw [begins.read?_of_makes makes] at read
      cases read
      exact ⟨head, rest, begins, makes⟩
    · rw [begins.read?_of_spoils spoils] at read
      cases read
  · rw [read?_of_no_head position fun head rest begins => headed ⟨head, rest, begins⟩] at read
    cases read

/-- A text about which the reader complains begins with a head that makes nothing. -/
theorem spoils_of_read? {text : Text} {position : Nat} {complaint : Complaint}
    (read : read? position text = .error complaint) :
    ∃ head rest, Begins head text rest ∧ head.Spoils rest position complaint := by
  -- The head that a text begins with makes a placeholder or spoils one, and the reader tells which.
  by_cases headed : ∃ head rest, Begins head text rest
  · obtain ⟨head, rest, begins⟩ := headed
    rcases begins.makes_or_spoils position with ⟨made, makes⟩ | ⟨other, spoils⟩
    · rw [begins.read?_of_makes makes] at read
      cases read
    · rw [begins.read?_of_spoils spoils] at read
      cases read
      exact ⟨head, rest, begins, spoils⟩
  · rw [read?_of_no_head position fun head rest begins => headed ⟨head, rest, begins⟩] at read
    cases read

/-- A text that begins with a head is not passed over. -/
theorem Begins.read?_ne_none (begins : head.Begins text rest) (position : Nat) :
    read? position text ≠ .ok none := by
  -- Whether the head makes a placeholder or spoils one, the reader says so.
  intro read
  rcases begins.makes_or_spoils position with ⟨made, makes⟩ | ⟨complaint, spoils⟩
  · rw [begins.read?_of_makes makes] at read
    cases read
  · rw [begins.read?_of_spoils spoils] at read
    cases read

/-- A placeholder stands in the text as it is written, colon included. -/
theorem Begins.source_of_makes (begins : head.Begins text rest) {position : Nat}
    {placeholder : Placeholder} (makes : head.Makes rest position placeholder) :
    placeholder.start = position ∧ placeholder.source <+: ':' :: text := by
  -- The head is written in front of its rest, and a fragment is written behind the head.
  have whole := begins.whole
  cases makes with
  | plain => exact ⟨rfl, rest, by simp [source, name, whole]⟩
  | dynamic => exact ⟨rfl, rest, by simp [source, name, whole]⟩
  | @optional fragment after _ _ enclosed _ =>
    exact ⟨rfl, after, by simp [source, name, whole, enclosed]⟩

/-- A placeholder is dynamic when its name has the mark for it. -/
theorem Begins.dynamic_iff_of_makes (begins : head.Begins text rest) {position : Nat}
    {placeholder : Placeholder} (makes : head.Makes rest position placeholder) :
    placeholder.form = .dynamic ↔ dynamicMark ∈ placeholder.name.toList := by
  -- The mark is no character of an identifier, so it can only be a modifier.
  have unmarked : dynamicMark ∉ head.ident := by
    obtain ⟨first, more, named, starts, goes⟩ := begins.named
    rw [named, List.mem_cons, not_or]
    constructor
    · rintro rfl
      revert starts
      decide
    · intro member
      exact absurd (goes _ member) (by decide)
  cases makes with
  | plain bare => simp [name, bare, unmarked]
  | dynamic marked unmixed => simp [name, marked]
  | optional marked unmixed enclosed balanced => simp [name, unmixed, unmarked]

/-- A placeholder ends with a character of its name or with a brace. -/
theorem Begins.getLast?_of_makes (begins : head.Begins text rest) {position : Nat}
    {placeholder : Placeholder} (makes : head.Makes rest position placeholder) :
    ∃ c, placeholder.source.getLast? = some c ∧ (isNameChar c = true ∨ c = closeBrace) := by
  obtain ⟨first, more, named, starts, goes⟩ := begins.named
  -- The last character of the identifier is one that may continue it.
  have last : ∃ c, (':' :: head.name.toList).getLast? = some c ∧ isNameChar c = true := by
    have continues : isNameChar first = true := by
      simp only [isNameStart, isNameChar, Char.isAlphanum, Bool.or_eq_true] at starts ⊢
      exact starts.imp_left Or.inl
    have all : ∀ c ∈ head.ident, isNameChar c = true := by
      rw [named]
      simpa [continues] using goes
    have present : head.ident ≠ [] := by simp [named]
    refine ⟨head.ident.getLast present, ?_, all _ (List.getLast_mem present)⟩
    rw [name, String.toList_ofList, ← List.cons_append, List.getLast?_append,
      List.getLast?_eq_some_getLast present, Option.some_or]
  cases makes with
  | plain =>
    obtain ⟨c, found, inside⟩ := last
    exact ⟨c, by simpa [source] using found, Or.inl inside⟩
  | dynamic =>
    obtain ⟨c, found, inside⟩ := last
    exact ⟨c, by simpa [source] using found, Or.inl inside⟩
  -- A fragment ends the text of an optional placeholder with its brace.
  | optional => exact ⟨closeBrace, by simp [source, List.getLast?_cons], Or.inr rfl⟩

end Head

end SqlTemplate.Placeholder
