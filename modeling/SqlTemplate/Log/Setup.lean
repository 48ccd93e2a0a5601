import SqlTemplate.Log.Layout
import SqlTemplate.Log.Message
import SqlTemplate.Text.Uppercase

/-! A log shows nothing until it is set up, and then the records that matter enough. -/

namespace SqlTemplate

/-- The full name of a logger, which is below the root if it is not the root itself. -/
def loggerNamed (name : String) : String :=
  if name.isEmpty || name = rootLogger then rootLogger
  else if Text.startsWith name.toList (rootLogger ++ ".").toList then name
  else rootLogger ++ "." ++ name

/-- How the log is set up. -/
structure LogSetup where
  /-- The level that records need, unless it is zero. -/
  level : Level
  /-- Whether records are laid out as documents. -/
  isStructured : Bool
  /-- How many further readers there are, which get the records as they are. -/
  readers : Nat

/-- The level that a log is set up with, by its name or by its number. -/
inductive LevelChoice where
  /-- A name in either case. -/
  | named (name : String)
  /-- A number. -/
  | number (level : Level)
  /-- What is neither. -/
  | other (value : Value)

/-- Why a log is not set up. -/
inductive SetupFault where
  /-- No level has the name. -/
  | unknownLevel (name : String)
  /-- A level is given neither by name nor by number. -/
  | noLevel (value : Value)

/-- The report of a log that is not set up. -/
def SetupFault.report : SetupFault → Report
  | unknownLevel name => .plain "ValueError" s!"Unknown level: {Quoted.ofString name}"
  | noLevel value =>
    .plain "TypeError" s!"Level not an integer or a valid string: {value.shown}"

/-- The level that is chosen. -/
def LevelChoice.level : LevelChoice → Except SetupFault Level
  | number level => .ok level
  | other value => .error (.noLevel value)
  | named name =>
    let upper := String.ofList (Text.uppercase name.toList)
    match Level.ofName? upper with
    | some level => .ok level
    | none => .error (.unknownLevel upper)

namespace LogSetup

/-- A setup at a chosen level. -/
def make (choice : LevelChoice) (isStructured : Bool) (readers : Nat) :
    Except SetupFault LogSetup := do
  return ⟨← choice.level, isStructured, readers⟩

/-- The least level that is shown, where zero leaves the choice to the surroundings. -/
def threshold (setup : LogSetup) : Level :=
  if setup.level = 0 then Level.warning else setup.level

/-- Whether a record is shown. One that does not matter at all is not. -/
def shows (setup : LogSetup) (record : Record) : Bool :=
  0 < record.level && setup.threshold ≤ record.level

/-- A record as the setup lays it out. -/
def layOut (setup : LogSetup) (time : Timestamp) (record : Record) : Text :=
  if setup.isStructured then record.structured time else record.plain time

end LogSetup

/-- A log, which may have been set up. -/
abbrev Log := Option LogSetup

namespace Log

/-- The records that a log shows, among some. -/
def shown (log : Log) (records : List Record) : List Record :=
  match log with
  | some setup => records.filter setup.shows
  | none => []

/-- The lines that a log writes of some records. -/
def lines (log : Log) (time : Timestamp) (records : List Record) : List Text :=
  match log with
  | some setup => (log.shown records).flatMap fun record =>
      Text.pieces '\n' (setup.layOut time record)
  | none => []

/-- The record of a message with its arguments and its context. -/
def record (logger : String) (level : Level) (message : Text) (arguments : List Value)
    (context : Entries) : Except MessageFault Record := do
  let words ← Message.complete message arguments
  return ⟨level, loggerNamed logger, String.ofList words, some context, none⟩

end Log

end SqlTemplate
