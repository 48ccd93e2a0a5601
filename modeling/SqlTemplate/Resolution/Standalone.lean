import SqlTemplate.Resolution.Resolver

/-! A group or a placeholder may stand alone, in no template that is resolved itself. -/

namespace SqlTemplate

/-- The operators and operands of terms that stand alone, as `joinTerms` has them. The template of
each term is an outermost one, and so its resolution is noted. -/
def joinAlone (config : Config) (name : String) (isFirst : Bool) :
    List Term → Resolving (List Text × List Value)
  | [] => return ([], [])
  | term :: rest =>
    joinTerm config name isFirst term.operator
      (resolve term.template (.mapping term.parameters) config)
      fun isFirst => joinAlone config name isFirst rest

/-- The parenthesized group of the value of a dynamic name, when it stands alone. -/
def groupAlone (config : Config) (name : String) (value : Value) : Resolving Markers := do
  let terms ← Journal.ofExcept ((Term.ofValue name value).mapError fun cause => .shape cause none)
  let (parts, values) ← joinAlone config name true terms
  return groupOf parts values

/-- The occurrence of a placeholder, when it stands alone. Only a dynamic one tells that it does. -/
def occurrenceAlone (config : Config) (template : Text) (parameters : Entries)
    (placeholder : Placeholder) : Resolving Occurrence :=
  match placeholder.form, parameters.get? placeholder.name with
  | .dynamic, some value => do
    let markers ← groupAlone config placeholder.name value
    return .replacing placeholder .dynamic markers
  | _, _ => occurrenceOf config template parameters placeholder

end SqlTemplate
