import SqlTemplate.Decimal.Layout
import SqlTemplate.Log.Event
import SqlTemplate.Log.Level

/-! A record is an event in words, with its level, its logger and its context. -/

namespace SqlTemplate

/-- The logger that all others are below. -/
def rootLogger : String := "puresql"

/-- One entry of the log. -/
structure Record where
  /-- How much it matters. -/
  level : Level
  /-- The name of the logger that it went through. -/
  logger : String
  /-- The words. -/
  message : String
  /-- Further names and values, if the record carries any. -/
  context : Option Entries
  /-- The failure that the record is about, if any. -/
  report : Option Report

/-- A stretch of time in microseconds. -/
structure Elapsed where
  /-- The number of microseconds. -/
  micros : Nat

namespace Elapsed

/-- A stretch of time in milliseconds, with three places. -/
def text (elapsed : Elapsed) : String :=
  s!"{elapsed.micros / 1000}." ++ Decimal.padZeros 3 (toString (elapsed.micros % 1000)) ++ "ms"

/-- A stretch of time as a number of milliseconds. -/
def millis (elapsed : Elapsed) : Float :=
  elapsed.micros.toFloat / 1000.0

end Elapsed

namespace Event

/-- The loggers of the library. -/
def loggerName (part : String) : String :=
  rootLogger ++ "." ++ part

/-- The record of an event that took some time, unless the event is not for the log. -/
def record? (elapsed : Elapsed) : Event → Option Record
  | termDropped operator name =>
    some ⟨.warning, loggerName "core.combinators",
      s!"Dropping combinator term with unknown operator {operator.shown} in {Quoted.ofString name}",
      none, none⟩
  | resolved placeholders bound =>
    some ⟨.debug, loggerName "core.engine",
      s!"Resolved {placeholders.length} placeholder(s) into {bound} bound value(s) in {elapsed.text}",
      some [("placeholders", .list (placeholders.map .str)), ("bound_values", .int bound),
        ("duration_ms", .float elapsed.millis)], none⟩
  | traced _ => none
  | statementSkipped name line file =>
    some ⟨.warning, loggerName "loader",
      s!"Skipping empty statement {Quoted.ofString name} at line {line} of {file}", none, none⟩
  | loaded files statements =>
    some ⟨.info, loggerName "loader",
      s!"Loaded {files} SQL files with {statements} new queries in {elapsed.text}",
      some [("files", .int files), ("queries", .int statements)], none⟩
  | loadFailed report =>
    some ⟨.error, loggerName "loader", s!"Failed to load SQL files after {elapsed.text}",
      none, some report⟩
  | executing query bound =>
    some ⟨.debug, loggerName "query", s!"Executing query {query} with {bound} bound value(s)",
      none, none⟩
  | sent driver query =>
    some ⟨.debug, loggerName ("adapters." ++ driver),
      s!"Executing on {driver}: {String.ofList query}", none, none⟩

/-- The traces among some events. -/
def traces (events : List Event) : List Trace :=
  events.filterMap fun
    | traced trace => some trace
    | _ => none

/-- The records of some events, each of which took the same time. -/
def records (elapsed : Elapsed) (events : List Event) : List Record :=
  events.filterMap (record? elapsed)

end Event

end SqlTemplate
