import SqlTemplate.Markup.Rendering
import SqlTemplate.Text.Cells
import SqlTemplate.Text.Lines

/-! Text is displayed in lines, without tabs and without characters that steer a terminal. -/

namespace SqlTemplate.Command

/-- Whether a character steers a terminal: the bell, a step back, a feed, or a return. -/
def isControl (c : Char) : Bool :=
  ['\x07', '\x08', '\x0B', '\x0C', '\r'].contains c

/-- The next multiple of a width at or above a number. -/
def nextStop (width reached : Nat) : Nat :=
  (reached + width - 1) / width * width

/-- The parts of a line that tabs divide, with spaces in place of each tab up to the next multiple
of eight cells, when the line begins in the given column. -/
def joinAtStops (column : Nat) : List Text → Text
  | [] => []
  | [last] => last
  | part :: rest =>
    let reached := column + Text.cells (part ++ [' '])
    let stop := nextStop 8 reached
    part ++ List.replicate (stop - reached + 1) ' ' ++ joinAtStops stop rest

/-- The lines of what is shown. -/
def linesOf (shown : Text) : List Text :=
  (Text.pieces '\n' (shown.filter fun c => !isControl c)).map fun line =>
    joinAtStops 0 (Text.pieces '\t' line)

/-- The lines of a message, which is shown as it is. -/
def messageLines (message : Text) : List Text :=
  linesOf (Markup.shown ("[red]".toList ++ Markup.escape message ++ "[/]".toList))

/-- The lines of some values, which are shown as they are after their title. -/
def valueLines (values : Text) : List Text :=
  linesOf (Markup.shown ("[bold]values:[/] ".toList ++ Markup.escape values))

/-- The lines of a cell of a table, which is markup. -/
def cellLines (cell : Text) : Except Markup.Fault (List Text) :=
  (Markup.render cell).map fun shown => (linesOf shown).map Text.trim

/-- A text in which spaces fill each tab up to the next multiple of four characters, when the text
begins in the given column. -/
def expandTabs (column : Nat) : Text → Text
  | [] => []
  | c :: rest =>
    if c = '\t' then
      let stop := nextStop 4 (column + 1)
      List.replicate (stop - column) ' ' ++ expandTabs stop rest
    else if c = '\n' || c = '\r' then c :: expandTabs 0 rest
    else c :: expandTabs (column + 1) rest

/-- A text without the mark of byte order that it may begin with. -/
def dropMark (text : Text) : Text :=
  match text with
  | '\uFEFF' :: rest => rest
  | _ => text

/-- The lines of a query, of which a newline ends the last one. -/
def queryLines (query : Text) : List Text :=
  let shown := Text.unifyNewlines (dropMark (expandTabs 0 (query ++ ['\n'])))
  (Text.pieces '\n' (shown.filter fun c => !isControl c)).dropLast

end SqlTemplate.Command
