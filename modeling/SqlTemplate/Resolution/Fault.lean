import SqlTemplate.Report.Wording

/-! A resolution fails for one of a few causes, each with its own words. -/

namespace SqlTemplate

/-- Why a placeholder cannot be read. -/
inductive PlaceholderFault where
  /-- It is marked both as dynamic and as optional. -/
  | mixedModifiers (name : String)
  /-- It is optional and no fragment follows. -/
  | fragmentMissing (name : String)
  /-- Its fragment is not closed. -/
  | fragmentUnclosed
  deriving DecidableEq

/-- The words for a placeholder that cannot be read. -/
def PlaceholderFault.message : PlaceholderFault → String
  | mixedModifiers name => s!"Placeholder ':{name}' mixes the '~' and '*' modifiers"
  | fragmentMissing name =>
    s!"Optional placeholder ':{name}' must be followed by a \x7bfragment\x7d"
  | fragmentUnclosed => "Unterminated optional fragment"

/-- Why a value has the wrong shape. -/
inductive ShapeFault where
  /-- The parameters are no mapping. -/
  | notMapping (found : String)
  /-- The value of a dynamic name is no sequence. -/
  | notSequence (name found : String)
  /-- A term written as a mapping lacks a key. -/
  | keyMissing (name key : String)
  /-- An element is not a term in any of its three forms. -/
  | notTerm (name : String) (element : Value)
  /-- The template of a term is no text. -/
  | templateNotText (name : String)
  /-- The parameters of a term are no mapping. -/
  | parametersNotMapping (name : String)

/-- The words for a value of the wrong shape. -/
def ShapeFault.message : ShapeFault → String
  | notMapping found => s!"Parameters must be a mapping of names to values, got {found}"
  | notSequence name found =>
    s!"Dynamic parameter {Quoted.ofString name} must be a sequence of combinator terms, got {found}"
  | keyMissing name key =>
    s!"Combinator term for {Quoted.ofString name} is missing the {Quoted.ofString key} key"
  | notTerm name element =>
    s!"Invalid combinator term for {Quoted.ofString name}: {element.shown}"
  | templateNotText name => s!"Combinator term template for {Quoted.ofString name} must be a string"
  | parametersNotMapping name =>
    s!"Combinator term parameters for {Quoted.ofString name} must be a mapping"

/-- Why a template cannot be resolved. -/
inductive ResolutionFault where
  /-- Required names have no value. -/
  | undefined (names : List String) (template : Text)
  /-- A term's operator is neither of the two. -/
  | unknownOperator (operator name : String)
  /-- A value has the wrong shape, in a template that is known when it is the outermost one. -/
  | shape (cause : ShapeFault) (template : Option Text)
  /-- A placeholder cannot be read. -/
  | placeholder (cause : PlaceholderFault) (position : Nat) (template : Text)
  /-- A name was looked up without a check that it has a value. -/
  | unbound (name : String)

namespace ResolutionFault

/-- A template as an attribute. -/
def sql : Option Text → Value
  | some template => .str (String.ofList template)
  | none => .null

/-- The report of a failed resolution. -/
def report : ResolutionFault → Report
  | undefined names template =>
    .undefinedNames (names.map .str) (", ".intercalate names) (sql template)
  | unknownOperator operator name =>
    .unknownOperator (.str operator) (Quoted.ofString operator) (Quoted.ofString name)
  | shape cause template => .unfit cause.message (sql template)
  | placeholder cause position template =>
    .brokenPlaceholder cause.message (.int position) (sql template)
  | unbound name => .plain "KeyError" (Quoted.ofString name)

end ResolutionFault

end SqlTemplate
