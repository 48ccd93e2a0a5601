/-! A value is what a parameter, a bound value or a result row may hold. -/

namespace SqlTemplate

/-- A value of any of the kinds that parameters and results are made of. -/
inductive Value where
  /-- The absent value. -/
  | null
  /-- A truth value. -/
  | bool (value : Bool)
  /-- An integer of any size. -/
  | int (value : Int)
  /-- A double-precision number. -/
  | float (value : Float)
  /-- A text. -/
  | str (value : String)
  /-- A sequence of bytes. -/
  | bytes (value : List UInt8)
  /-- A list of values. -/
  | list (items : List Value)
  /-- A tuple of values. -/
  | tuple (items : List Value)
  /-- An ordered mapping from names to values. -/
  | mapping (entries : List (String × Value))
  /-- The empty read-only mapping that a term has when it is given no parameters. -/
  | noParameters
  /-- A term of a boolean group, whose three parts have not been checked. -/
  | term (operator template parameters : Value)
  /-- A value of a kind unknown here, which has only its text. -/
  | foreign (text : String)
  deriving Inhabited

/-- The entries of a mapping, in insertion order. -/
abbrev Entries := List (String × Value)

namespace Entries

/-- The value kept under a name. -/
def get? (entries : Entries) (name : String) : Option Value :=
  entries.lookup name

/-- Whether a name has a value, be it null. -/
def has (entries : Entries) (name : String) : Bool :=
  (entries.get? name).isSome

/-- A value kept under a name, in place of the earlier one or else at the end. -/
def insert (entries : Entries) (name : String) (value : Value) : Entries :=
  match entries with
  | [] => [(name, value)]
  | (key, old) :: rest =>
    if key = name then (key, value) :: rest else (key, old) :: insert rest name value

/-- The entries of a list of pairs, in which a later pair replaces an earlier one in place. -/
def ofPairs (pairs : List (String × Value)) : Entries :=
  pairs.foldl (fun entries (name, value) => entries.insert name value) []

/-- Further pairs put into the entries, one after the other. -/
def update (entries : Entries) (pairs : List (String × Value)) : Entries :=
  pairs.foldl (fun entries (name, value) => entries.insert name value) entries

/-- The names, in insertion order. -/
def names (entries : Entries) : List String :=
  entries.map Prod.fst

end Entries

namespace Value

/-- The entries of a value that is a mapping. -/
def entries? : Value → Option Entries
  | mapping entries => some entries
  | noParameters => some []
  | _ => none

/-- The items of a value that expands into one marker per item, which a term does too. -/
def items? : Value → Option (List Value)
  | list items => some items
  | tuple items => some items
  | term operator template parameters => some [operator, template, parameters]
  | _ => none

/-- Whether a value expands into one marker per item. -/
def isArray (value : Value) : Bool :=
  value.items?.isSome

/-- The pieces that a value falls into: items, names, bytes or characters. -/
def pieces? : Value → Option (List Value)
  | list items => some items
  | tuple items => some items
  | term operator template parameters => some [operator, template, parameters]
  | mapping entries => some ((Entries.names entries).map str)
  | noParameters => some []
  | bytes content => some (content.map fun byte => int byte.toNat)
  | str text => some (text.toList.map fun c => str (String.singleton c))
  | _ => none

/-- Whether a value counts as present where emptiness and zero count as absent. -/
def isTruthy : Value → Bool
  | null => false
  | bool value => value
  | int value => value != 0
  | float value => value != 0.0
  | str value => !value.isEmpty
  | bytes value => !value.isEmpty
  | list items => !items.isEmpty
  | tuple items => !items.isEmpty
  | mapping entries => !entries.isEmpty
  | noParameters => false
  | term _ _ _ => true
  | foreign _ => true

/-- The name of the kind of a value, as messages give it. -/
def kindName : Value → String
  | null => "NoneType"
  | bool _ => "bool"
  | int _ => "int"
  | float _ => "float"
  | str _ => "str"
  | bytes _ => "bytes"
  | list _ => "list"
  | tuple _ => "tuple"
  | mapping _ => "dict"
  | noParameters => "mappingproxy"
  | term _ _ _ => "CombinatorTerm"
  | foreign _ => "Opaque"

end Value

end SqlTemplate
