import SqlTemplate.Resolution.Term

/-! Terms of one operator are built from parts, each a template or a template with parameters. -/

namespace SqlTemplate

/-- Why a part makes no term. -/
inductive PartFault where
  /-- It falls into fewer than two pieces. -/
  | tooFew (pieces : Nat)
  /-- It falls into more than two pieces. -/
  | tooMany
  /-- It does not fall into pieces. -/
  | indivisible (kindName : String)

/-- The report of a part that makes no term. -/
def PartFault.report : PartFault → Report
  | tooFew pieces =>
    .plain "ValueError" s!"not enough values to unpack (expected 2, got {pieces})"
  | tooMany => .plain "ValueError" "too many values to unpack (expected 2)"
  | indivisible kindName => .plain "TypeError" s!"cannot unpack non-iterable {kindName} object"

namespace Term.Draft

/-- The draft of a part: a text is a template, and anything else falls into a pair. -/
def ofPart (operator : String) (part : Value) : Except PartFault Draft :=
  match part with
  | .str template => .ok ⟨.str operator, .str template, .noParameters⟩
  | _ => match part.pieces? with
    | some [template, parameters] => .ok ⟨.str operator, template, parameters⟩
    | some (_ :: _ :: _) => .error .tooMany
    | some pieces => .error (.tooFew pieces.length)
    | none => .error (.indivisible part.kindName)

/-- The value of a dynamic name whose terms are all joined by one operator. -/
def joined (connective : Connective) (parts : List Value) : Except PartFault Value := do
  let drafts ← parts.mapM (ofPart (String.ofList connective.text))
  return .list (drafts.map toValue)

end Term.Draft

end SqlTemplate
