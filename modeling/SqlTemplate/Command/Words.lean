import SqlTemplate.Text.Basic

/-! The words of a command line are options, each with its value, and arguments. -/

namespace SqlTemplate.Command

/-- What an option of a command is called, and whether it has a value. -/
structure OptionRule where
  /-- Its name, with two dashes. -/
  name : String
  /-- Whether a value belongs to it. -/
  hasValue : Bool

/-- Why a command line is refused. -/
inductive UsageFault where
  /-- The command has no such option. -/
  | unknownOption (name : String)
  /-- The value of an option is missing. -/
  | valueMissing (name : String)
  /-- An option without a value is given one. -/
  | valueUnwanted (name : String)
  /-- The value of an option is none of those it may have. -/
  | valueRefused (name value : String)
  /-- There is no command. -/
  | noCommand
  /-- The command is unknown. -/
  | unknownCommand (name : String)
  /-- An argument is missing. -/
  | argumentMissing (name : String)
  /-- There are more arguments than the command takes. -/
  | argumentUnwanted (word : String)
  /-- An argument leads to no file and no directory. -/
  | noSuchPath (path : String)
  /-- An argument cannot be a path, since it holds the character that ends paths. -/
  | endedPath

/-- The words for a command line that is refused. -/
def UsageFault.message : UsageFault → String
  | unknownOption name => s!"No such option: {name}"
  | valueMissing name => s!"Option '{name}' requires an argument."
  | valueUnwanted name => s!"Option '{name}' does not take a value."
  | valueRefused name value => s!"Invalid value for '{name}': '{value}'."
  | noCommand => "Missing command."
  | unknownCommand name => s!"No such command '{name}'."
  | argumentMissing name => s!"Missing argument '{name}'."
  | argumentUnwanted word => s!"Got unexpected extra argument ({word})"
  | noSuchPath path => s!"Path '{path}' does not exist."
  | endedPath => "embedded null byte"

/-- The options and the arguments of a command. -/
structure Words where
  /-- The options in their order, each with its value if it has one. -/
  options : List (String × String)
  /-- The other words. -/
  arguments : List String

namespace Words

/-- Words with an option before them. -/
def addOption (name value : String) (words : Words) : Words :=
  { words with options := (name, value) :: words.options }

/-- Words with an argument before them. -/
def addArgument (word : String) (words : Words) : Words :=
  { words with arguments := word :: words.arguments }

/-- Whether a word names an option. A dash alone does not. -/
def isOption (word : String) : Bool :=
  word.startsWith "-" && word ≠ "-"

/-- The name in a word that is an option, and the value after an equals sign in it. -/
def splitOption (word : String) : String × Option String :=
  match word.toList.dropWhile (· ≠ '=') with
  | [] => (word, none)
  | _ :: value => (String.ofList (word.toList.takeWhile (· ≠ '=')), some (String.ofList value))

/-- The options and arguments of a command line. Two dashes end the options, and so does the first
argument unless options may follow it. -/
def read (rules : List OptionRule) (mayFollow : Bool) : List String → Except UsageFault Words
  | [] => .ok ⟨[], []⟩
  | word :: rest =>
    if word = "--" then .ok ⟨[], rest⟩
    else if isOption word then
      let (name, attached) := splitOption word
      match rules.find? fun rule => rule.name = name with
      | none => .error (.unknownOption name)
      | some rule =>
        match rule.hasValue, attached with
        | true, some value => (read rules mayFollow rest).map (addOption name value)
        | true, none =>
          -- The next word is the value, whatever it looks like.
          match rest with
          | value :: after => (read rules mayFollow after).map (addOption name value)
          | [] => .error (.valueMissing name)
        | false, some _ => .error (.valueUnwanted name)
        | false, none => (read rules mayFollow rest).map (addOption name "")
    else if mayFollow then (read rules mayFollow rest).map (addArgument word)
    else .ok ⟨[], word :: rest⟩

/-- The values of an option, in their order. -/
def values (words : Words) (name : String) : List String :=
  (words.options.filter fun option => option.1 = name).map Prod.snd

/-- The last value of an option. -/
def value? (words : Words) (name : String) : Option String :=
  (words.values name).getLast?

/-- Whether an option is given. -/
def has (words : Words) (name : String) : Bool :=
  (words.value? name).isSome

end Words

end SqlTemplate.Command
