import SqlTemplate.Config
import SqlTemplate.Journal
import SqlTemplate.Log.Event
import SqlTemplate.Resolution.Splice
import SqlTemplate.Resolution.TermDepth

/-! A template is resolved with its parameters, and the templates of its terms with theirs. -/

namespace SqlTemplate

/-- The journal of a resolution. -/
abbrev Resolving := Journal Event ResolutionFault

/-- The names of required placeholders without a value, each once, in order of appearance. -/
def undefinedNames (parameters : Entries) : List Placeholder → List String
  | [] => []
  | placeholder :: rest =>
    let later := undefinedNames parameters rest
    if placeholder.isOptional || parameters.has placeholder.name then later
    else placeholder.name :: later.filter (· ≠ placeholder.name)

/-- The parenthesized group of operators and operands, which bind some values. -/
def groupOf (parts : List Text) (values : List Value) : Markers :=
  ⟨'(' :: [' '].intercalate parts ++ [')'], values⟩

/-- The operators and operands of a term and of those after it, beside the values that the operands
bind. An operator joins its term to the one before it, so the first operand has none. A term whose
operator is unknown is left out or fails the group, and its operand is not looked at. -/
def joinTerm (config : Config) (name : String) (isFirst : Bool) (operator : Value)
    (operand : Resolving Resolution) (others : Bool → Resolving (List Text × List Value)) :
    Resolving (List Text × List Value) :=
  match Connective.ofValue? operator with
  | none =>
    if config.ignoresUnknown then do
      Journal.note (.termDropped operator name)
      others isFirst
    else .fail (.unknownOperator operator.plain name)
  | some connective => do
    let resolved ← operand
    let (parts, values) ← others false
    let joined := if isFirst then [resolved.query] else [connective.text, resolved.query]
    return (joined ++ parts, resolved.values ++ values)

mutual

/-- The resolution of a template with its parameters, not yet noted. -/
def resolveTemplate (config : Config) (template : Text) (parameters : Entries) :
    Resolving Resolution :=
  match Placeholder.scan template with
  | .error fault => .fail fault
  | .ok placeholders =>
    match undefinedNames parameters placeholders with
    | [] => do
      let occurrences ← occurrencesOf config template parameters placeholders
      return .assemble template occurrences
    | names => .fail (.undefined names template)
termination_by (parameters.depth, 2, 0)

/-- The occurrences of placeholders, in their order. -/
def occurrencesOf (config : Config) (template : Text) (parameters : Entries)
    (placeholders : List Placeholder) : Resolving (List Occurrence) :=
  match placeholders with
  | [] => return []
  | placeholder :: rest => do
    let occurrence ← occurrenceOf config template parameters placeholder
    let others ← occurrencesOf config template parameters rest
    return occurrence :: others
termination_by (parameters.depth, 1, placeholders.length)

/-- The occurrence of a placeholder, which may be without a value only when it is optional. -/
def occurrenceOf (config : Config) (template : Text) (parameters : Entries)
    (placeholder : Placeholder) : Resolving Occurrence :=
  match found : parameters.get? placeholder.name with
  | none =>
    if placeholder.isOptional then return .leavingOut template placeholder
    else .fail (.unbound placeholder.name)
  | some value =>
    match placeholder.form with
    | .plain => return .ofPlain config.marker placeholder value
    | .optional fragment => return .ofOptional config.marker placeholder fragment value
    | .dynamic => do
      have := Entries.depth_lt_of_get? found
      let markers ← resolveGroup config placeholder.name value
      return .replacing placeholder .dynamic markers
termination_by (parameters.depth, 0, 0)

/-- The parenthesized group of the value of a dynamic name. -/
def resolveGroup (config : Config) (name : String) (value : Value) : Resolving Markers :=
  match read : Term.ofValue name value with
  | .error cause => .fail (.shape cause none)
  | .ok terms => do
    have := Term.depthOf_le read
    let (parts, values) ← joinTerms config name true terms
    return groupOf parts values
termination_by (value.depth, 4, 0)
decreasing_by exact Prod.Lex.right' _ this (Prod.Lex.left _ _ (by decide))

/-- The operators and operands of terms, in order, beside the values that the operands bind. -/
def joinTerms (config : Config) (name : String) (isFirst : Bool) (terms : List Term) :
    Resolving (List Text × List Value) :=
  match terms with
  | [] => return ([], [])
  | term :: rest =>
    have : Term.depthOf rest ≤ Term.depthOf (term :: rest) := Nat.le_max_right ..
    have : term.parameters.depth ≤ Term.depthOf (term :: rest) := Nat.le_max_left ..
    joinTerm config name isFirst term.operator
      (resolveTemplate config term.template term.parameters)
      fun isFirst => joinTerms config name isFirst rest
termination_by (Term.depthOf terms, 3, terms.length)
decreasing_by
  -- Entering a term lowers the stage, and leaving one behind shortens the list.
  · exact Prod.Lex.right' _ ‹term.parameters.depth ≤ _› (Prod.Lex.left _ _ (by decide))
  · exact Prod.Lex.right' _ ‹_› (Prod.Lex.right _ (by simp))

end

/-- The entries of the parameters given for a template, where none may be given. -/
def parametersOf (template : Text) (parameters : Value) : Except ResolutionFault Entries :=
  match parameters with
  | .null => .ok []
  | given => match given.entries? with
    | some entries => .ok entries
    | none => .error (.shape (.notMapping given.kindName) (some template))

/-- The resolution of an outermost template, which is noted once it has succeeded. -/
def resolve (template : Text) (parameters : Value) (config : Config) : Resolving Resolution := do
  let entries ← Journal.ofExcept (parametersOf template parameters)
  let resolution ← resolveTemplate config template entries
  Journal.note (.resolved resolution.placeholderNames resolution.values.length)
  if config.isTraced then Journal.note (.traced ⟨template, entries.names, resolution⟩)
  return resolution

end SqlTemplate
