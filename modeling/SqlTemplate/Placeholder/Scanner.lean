import SqlTemplate.Placeholder.Basic
import SqlTemplate.Resolution.Fault
import SqlTemplate.Text.Word

/-! A template is scanned once, from left to right, for its placeholders. -/

namespace SqlTemplate.Placeholder

/-- Whether a character is one of the two modifiers. -/
def isModifier (c : Char) : Bool :=
  c = dynamicMark || c = optionalMark

/-- The longest identifier at the beginning of a text, which is empty when there is none. -/
def identifier : Text → Text
  | [] => []
  | c :: rest => if isNameStart c then c :: rest.takeWhile isNameChar else []

/-- The text before the brace that closes a fragment, after some braces opened within it. -/
def fragmentBody (opened : Nat) : Text → Option Text
  | [] => none
  | c :: rest =>
    if c = openBrace then (fragmentBody (opened + 1) rest).map (c :: ·)
    else if c = closeBrace then
      match opened with
      | 0 => some []
      | within + 1 => (fragmentBody within rest).map (c :: ·)
    else (fragmentBody opened rest).map (c :: ·)

/-- Where a scan stops: what is wrong, and the position of the character to blame. -/
abbrev Complaint := PlaceholderFault × Nat

/-- The placeholder of a colon at a position, from the text after it, unless no identifier
follows. -/
def read? (position : Nat) (text : Text) : Except Complaint (Option Placeholder) :=
  let modifiers := text.takeWhile isModifier
  let ident := identifier (text.dropWhile isModifier)
  let rest := (text.dropWhile isModifier).drop ident.length
  let name := String.ofList (modifiers ++ ident)
  if ident.isEmpty then .ok none
  else if modifiers.contains dynamicMark then
    if modifiers.contains optionalMark then .error (.mixedModifiers name, position)
    else .ok (some ⟨name, .dynamic, position⟩)
  else if modifiers.isEmpty then .ok (some ⟨name, .plain, position⟩)
  else match rest with
    | [] => .error (.fragmentMissing name, position)
    | c :: inside =>
      if c ≠ openBrace then .error (.fragmentMissing name, position)
      else match fragmentBody 0 inside with
        | some fragment => .ok (some ⟨name, .optional fragment, position⟩)
        -- The brace to blame follows the colon, the modifiers and the identifier.
        | none => .error (.fragmentUnclosed, position + 1 + modifiers.length + ident.length)

/-- The placeholders of a text that begins at a position of its template. -/
def scanFrom (position : Nat) (text : Text) : Except Complaint (List Placeholder) :=
  match text with
  | [] => .ok []
  | c :: rest =>
    if c ≠ ':' then scanFrom (position + 1) rest
    else if rest.head? = some ':' then
      -- A run of colons is a cast, none of whose colons begins a placeholder.
      let run := rest.takeWhile (· = ':')
      scanFrom (position + 1 + run.length) (rest.drop run.length)
    else match read? position rest with
      | .error complaint => .error complaint
      | .ok none => scanFrom (position + 1) rest
      | .ok (some placeholder) =>
        (scanFrom placeholder.stop (rest.drop (placeholder.length - 1))).map (placeholder :: ·)
termination_by text.length
decreasing_by all_goals simp only [List.length_cons, List.length_drop]; omega

/-- The placeholders of a template, in ascending order. -/
def scan (template : Text) : Except ResolutionFault (List Placeholder) :=
  (scanFrom 0 template).mapError fun (cause, position) => .placeholder cause position template

end SqlTemplate.Placeholder
