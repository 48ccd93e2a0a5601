import SqlTemplate.Json.Writer
import SqlTemplate.Log.Record
import SqlTemplate.Log.Timestamp

/-! A record is laid out as a line of text or as a document with named fields. -/

namespace SqlTemplate

/-- A report as a log shows it: the name of its kind, and its words if it has any. -/
def Report.logged (report : Report) : String :=
  let name := report.qualifiedName
  if report.message.isEmpty then name else name ++ ": " ++ report.message

namespace Record

/-- A record as text: when it was made, its level, its logger and its words. -/
def plain (record : Record) (time : Timestamp) : Text :=
  s!"{time.shown} {record.level.name} {record.logger}: {record.message}".toList

/-- The named fields of a record. Its context may replace the first four, and only its failure
replaces what the context says. -/
def fields (record : Record) (time : Timestamp) : Entries :=
  let own : Entries := [("timestamp", .str time.shown), ("level", .str record.level.name),
    ("logger", .str record.logger), ("message", .str record.message)]
  let further := own.update (record.context.getD [])
  match record.report with
  | some report => further.insert "exception" (.str report.logged)
  | none => further

/-- A record as a document. -/
def structured (record : Record) (time : Timestamp) : Text :=
  Json.write (.mapping (record.fields time))

end Record

end SqlTemplate
