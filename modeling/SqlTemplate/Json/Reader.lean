import SqlTemplate.Json.Token

/-! A document is read token by token, with a stack of the arrays and objects that are open. -/

namespace SqlTemplate.Json

/-- An array or an object that is open. -/
inductive Frame where
  /-- An array with the items before the present one, the latest first. -/
  | array (items : List Value)
  /-- An object with the entries before the present one, and the present name. -/
  | object (entries : Entries) (name : String)

/-- What may come next. -/
inductive Place where
  /-- A value. -/
  | value
  /-- The first item of an array, or its end. -/
  | itemOrEnd
  /-- The first name of an object, or its end. -/
  | nameOrEnd
  /-- A further name of an object. -/
  | name (entries : Entries)
  /-- The colon after a name. -/
  | colon (entries : Entries) (name : String)
  /-- A comma after a value, or the end of what it is in. -/
  | after (value : Value)

/-- The state of reading: what is open, the innermost first, and what may come next. -/
structure State where
  /-- The open arrays and objects. -/
  stack : List Frame
  /-- What may come next. -/
  place : Place

namespace State

/-- The state before the first token. -/
def start : State :=
  ⟨[], .value⟩

/-- How many arrays and objects may be open at once. -/
def mostOpen : Nat := 995

/-- The state after an array or an object is opened. -/
def opened (stack : List Frame) (place : Place) : Except Fault State :=
  if stack.length < mostOpen then .ok ⟨stack, place⟩ else .error .tooDeep

/-- The state after the beginning of a value. -/
def beginValue (stack : List Frame) : Token → Except Fault State
  | .openArray => opened stack .itemOrEnd
  | .openObject => opened stack .nameOrEnd
  | .string content => .ok ⟨stack, .after (.str content)⟩
  | .scalar value => .ok ⟨stack, .after value⟩
  | .broken fault => .error fault
  | _ => .error .malformed

/-- The state after a token that follows a value. -/
def afterValue (stack : List Frame) (value : Value) (token : Token) : Except Fault State :=
  match stack, token with
  | .array items :: outer, .comma => .ok ⟨.array (value :: items) :: outer, .value⟩
  | .array items :: outer, .closeArray => .ok ⟨outer, .after (.list (value :: items).reverse)⟩
  -- A name that comes again keeps its first place and takes its last value.
  | .object entries name :: outer, .comma => .ok ⟨outer, .name (entries.insert name value)⟩
  | .object entries name :: outer, .closeObject =>
    .ok ⟨outer, .after (.mapping (entries.insert name value))⟩
  | _, _ => .error .malformed

/-- The state after one more token. What is wrong within a token shows only where the token could
stand, and anywhere else the token itself is wrong. -/
def next (state : State) (token : Token) : Except Fault State :=
  match state.place, token with
  | .itemOrEnd, .closeArray => .ok ⟨state.stack, .after (.list [])⟩
  | .itemOrEnd, token => beginValue (.array [] :: state.stack) token
  | .nameOrEnd, .closeObject => .ok ⟨state.stack, .after (.mapping [])⟩
  | .nameOrEnd, .string name => .ok ⟨state.stack, .colon [] name⟩
  | .nameOrEnd, .broken fault => .error fault
  | .name entries, .string name => .ok ⟨state.stack, .colon entries name⟩
  | .name _, .broken fault => .error fault
  | .colon entries name, .colon => .ok ⟨.object entries name :: state.stack, .value⟩
  | .value, token => beginValue state.stack token
  | .after value, token => afterValue state.stack value token
  | _, _ => .error .malformed

/-- The value that has been read, if nothing is open. -/
def result (state : State) : Except Fault Value :=
  match state with
  | ⟨[], .after value⟩ => .ok value
  | _ => .error .malformed

end State

/-- The value of a document in bytes. -/
def read (bytes : List UInt8) : Except Fault Value := do
  let final ← (tokens bytes).foldlM State.next State.start
  final.result

/-- The value of a document in text. -/
def readText (text : Text) : Except Fault Value :=
  read (text.flatMap String.utf8EncodeChar)

end SqlTemplate.Json
