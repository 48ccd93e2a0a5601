import SqlTemplate.Json.Reader

/-! Parameters are given on a command line as one document, as single entries, or as both. -/

namespace SqlTemplate.Command

/-- Why parameters on a command line are refused. -/
inductive ArgumentFault where
  /-- The document cannot be read. -/
  | unreadable (fault : Json.Fault)
  /-- The document is no object. -/
  | notObject
  /-- An entry has no equals sign. -/
  | noSign (entry : String)

/-- The report of refused parameters. -/
def ArgumentFault.report : ArgumentFault → Report
  | unreadable fault => fault.report
  | notObject => .plain "ValueError" "--params must be a JSON object"
  | noSign entry => .plain "ValueError" s!"--param expects KEY=JSON, got {Quoted.ofString entry}"

/-- The entries of a document, where no text at all is no document. -/
def documentEntries (document : Option String) : Except ArgumentFault Entries :=
  match document with
  | none => .ok []
  | some "" => .ok []
  | some text =>
    match Json.readText text.toList with
    | .error fault => .error (.unreadable fault)
    | .ok (.mapping entries) => .ok entries
    | .ok _ => .error .notObject

/-- The value of an entry, which is the text itself when it is no document. Only a document that is
nested too deeply is refused. -/
def entryValue (text : Text) : Except ArgumentFault Value :=
  match Json.readText text with
  | .ok value => .ok value
  | .error .tooDeep => .error (.unreadable .tooDeep)
  | .error _ => .ok (.str (String.ofList text))

/-- Entries with one more, which is written as a name, an equals sign and a value. -/
def addEntry (entries : Entries) (entry : String) : Except ArgumentFault Entries :=
  match entry.toList.dropWhile (· ≠ '=') with
  | [] => .error (.noSign entry)
  | _ :: value =>
    (entryValue value).map
      (Entries.insert entries (String.ofList (entry.toList.takeWhile (· ≠ '='))))

/-- The parameters of a document and of further entries, each of which replaces an earlier one. -/
def parameters (document : Option String) (further : List String) :
    Except ArgumentFault Entries := do
  further.foldlM addEntry (← documentEntries document)

end SqlTemplate.Command
