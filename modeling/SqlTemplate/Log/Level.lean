/-! A level says how much a log record matters, by a number that may have a name. -/

namespace SqlTemplate

/-- How much a record matters; a greater number matters more. -/
abbrev Level := Int

namespace Level

/-- Details of interest while looking for a mistake. -/
def debug : Level := 10

/-- News of a normal course. -/
def info : Level := 20

/-- Something unusual that stops nothing. -/
def warning : Level := 30

/-- A failure. -/
def error : Level := 40

/-- A failure that stops everything. -/
def critical : Level := 50

/-- The names of levels; the first name of a number is the one shown. -/
def named : List (String × Level) :=
  [("CRITICAL", critical), ("FATAL", critical), ("ERROR", error), ("WARNING", warning),
   ("WARN", warning), ("INFO", info), ("DEBUG", debug), ("NOTSET", 0)]

/-- The level of a name in upper case. -/
def ofName? (name : String) : Option Level :=
  named.lookup name

/-- The name of a level, made from its number when it has none. -/
def name (level : Level) : String :=
  match named.find? fun entry => entry.2 = level with
  | some (known, _) => known
  | none => s!"Level {level}"

end Level

end SqlTemplate
