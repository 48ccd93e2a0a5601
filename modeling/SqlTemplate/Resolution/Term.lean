import SqlTemplate.Resolution.Fault
import SqlTemplate.Text.Uppercase

/-! A term is one operand of a boolean group: a template of its own, with its own parameters. -/

namespace SqlTemplate

/-- The operators that join the operands of a group. -/
inductive Connective where
  /-- Both operands must hold. -/
  | and
  /-- One of the operands must hold. -/
  | or
  deriving DecidableEq

namespace Connective

/-- An operator as a query shows it. -/
def text : Connective → Text
  | and => ['A', 'N', 'D']
  | or => ['O', 'R']

/-- The operator of a text in any case, with blanks around it. -/
def ofText? (written : Text) : Option Connective :=
  let name := written.trim.uppercase
  if name = and.text then some .and else if name = or.text then some .or else none

/-- The operator of a value, which is one of the two only when it is a text. -/
def ofValue? : Value → Option Connective
  | .str written => ofText? written.toList
  | _ => none

end Connective

/-- The three parts of a term before they have been checked. -/
structure Term.Draft where
  /-- What should be the operator. -/
  operator : Value
  /-- What should be the template. -/
  template : Value
  /-- What should be the parameters. -/
  parameters : Value

/-- A term whose template is a text and whose parameters are a mapping. -/
structure Term where
  /-- What should be the operator, which is judged only when the term is reached. -/
  operator : Value
  /-- The template of the operand. -/
  template : Text
  /-- The parameters of the operand. -/
  parameters : Entries

namespace Term.Draft

/-- A draft as a value. -/
def toValue (draft : Draft) : Value :=
  .term draft.operator draft.template draft.parameters

/-- The draft of a term written as a mapping, whose parameters may be missing or empty. -/
def ofEntries (name : String) (entries : Entries) : Except ShapeFault Draft :=
  match entries.get? "operator", entries.get? "template" with
  | none, _ => .error (.keyMissing name "operator")
  | _, none => .error (.keyMissing name "template")
  | some operator, some template =>
    match entries.get? "parameters" with
    | some parameters =>
      .ok ⟨operator, template, if parameters.isTruthy then parameters else .noParameters⟩
    | none => .ok ⟨operator, template, .noParameters⟩

/-- The draft of a term in one of its three forms: a term, a mapping, or a sequence of three. -/
def ofValue (name : String) (element : Value) : Except ShapeFault Draft :=
  match element with
  | .term operator template parameters => .ok ⟨operator, template, parameters⟩
  | .mapping entries => ofEntries name entries
  | .noParameters => ofEntries name []
  | .list [operator, template, parameters] => .ok ⟨operator, template, parameters⟩
  | .tuple [operator, template, parameters] => .ok ⟨operator, template, parameters⟩
  | _ => .error (.notTerm name element)

/-- The term of a draft whose parts have the right shapes. -/
def check (name : String) (draft : Draft) : Except ShapeFault Term :=
  match draft.template with
  | .str template =>
    match draft.parameters.entries? with
    | some parameters => .ok ⟨draft.operator, template.toList, parameters⟩
    | none => .error (.parametersNotMapping name)
  | _ => .error (.templateNotText name)

end Term.Draft

namespace Term

/-- The elements of the value of a dynamic name, which a single term is not. -/
def elements (name : String) (value : Value) : Except ShapeFault (List Value) :=
  match value with
  | .list items => .ok items
  | .tuple items => .ok items
  | _ => .error (.notSequence name value.kindName)

/-- The terms of the value of a dynamic name, every element being read before any is checked. -/
def ofValue (name : String) (value : Value) : Except ShapeFault (List Term) := do
  let items ← elements name value
  let drafts ← items.mapM (Draft.ofValue name)
  drafts.mapM (Draft.check name)

end Term

end SqlTemplate
