import SqlTemplate.Command.Answer
import Std.Time.DateTime.Timestamp

/-! The command line reads files and the clock, and prints the answer and the log. -/

namespace SqlTemplate.Command

/-- A tree with what is found at a path, and below it. -/
partial def readInto (tree : FileTree) (path : String) : IO FileTree := do
  let found ← IO.FS.realPath path
  let place := tree.locate (Path.ofString path)
  if ← found.isDir then
    let mut grown := tree.write place none
    for entry in ← found.readDir do
      grown ← readInto grown (path ++ "/" ++ entry.fileName)
    return grown
  else if ← found.pathExists then
    let content ← IO.FS.readBinFile path
    return tree.write place (some content.toList)
  else return tree

/-- A tree with what is found at some paths. A path that leads nowhere adds nothing. -/
def readAll (paths : List String) : IO FileTree := do
  let current := Path.ofString (← IO.currentDir).toString
  let mut tree : FileTree := ⟨current.parts, []⟩
  for path in paths do
    tree ← try readInto tree path catch _ => pure tree
  return tree

/-- A table as lines, in which the second column begins in the same place throughout. -/
def tableLines (rows : List (Text × Text)) : List Text :=
  let width := rows.foldl (fun width row => max width row.1.cells) 0
  rows.map fun (name, file) => name ++ List.replicate (width + 2 - name.cells) ' ' ++ file

/-- Prints the log of some events, each of which took the same time. -/
def printLog (log : Log) (elapsed : Elapsed) (events : List Event) : IO Unit := do
  let now ← Std.Time.Timestamp.now
  let time : Timestamp := ⟨now.toMillisecondsSinceUnixEpoch.val⟩
  for line in log.lines time (Event.records elapsed events) do
    IO.eprintln (String.ofList line)

/-- Prints an answer or why there is none, and gives the exit code. -/
def printAnswer (answer : Except RequestFault Answer) : IO UInt32 := do
  match answer with
  | .ok (.table rows) =>
    (tableLines rows).forM fun line => IO.println (String.ofList line)
    return 0
  | .ok (.lines content) =>
    content.forM fun line => IO.println (String.ofList line)
    return 0
  | .error fault =>
    if fault.isAbrupt then IO.eprintln s!"{fault.report.kindName}: {fault.report.message}"
    else
      (messageLines fault.report.message.toList).forM fun line => IO.println (String.ofList line)
    return 1

/-- Answers a command line. -/
def run (line : List String) : IO UInt32 := do
  -- The paths are known once the line is understood, and only then is known which are there.
  let named := (Invocation.ofWords (fun _ => true) line).toOption
  let tree ← readAll ((named.map fun invocation => invocation.request.paths).getD [])
  match Invocation.ofWords (leads tree) line with
  | .error fault =>
    IO.eprintln fault.message
    return 2
  | .ok invocation =>
    let start ← IO.monoNanosNow
    let journal ← IO.lazyPure fun _ => answer tree invocation.request
    let stop ← IO.monoNanosNow
    printLog invocation.log ⟨(stop - start) / 1000⟩ journal.events
    printAnswer journal.outcome

end SqlTemplate.Command

/-- The command-line program. -/
def main (line : List String) : IO UInt32 :=
  SqlTemplate.Command.run line
