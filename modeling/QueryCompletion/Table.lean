import QueryCompletion.Text.Cells

/-!
Tables on a terminal. A column is as wide as its widest cell or its header, and every cell is filled
up to the width of its column. A cell of several lines makes its row as high.
-/

namespace QueryCompletion

inductive Alignment where
  | left | right
deriving DecidableEq, Repr

/-- The text filled up with blanks to a width. -/
def Alignment.fill : Alignment → Nat → Text → Text
  | .left => Text.padRight
  | .right => Text.padLeft

structure Column where
  header : Text
  alignment : Alignment := .left
deriving DecidableEq, Repr

/-- A boxed table with a title above it. -/
structure Table where
  title : Text
  columns : List Column
  rows : List (List Text)
deriving DecidableEq, Repr

/-- Whether a character ends a line when the width of a text is taken. -/
def endsLine (c : Char) : Bool :=
  c == '\n' || c == '\x85' || c == '\u2028' || c == '\u2029' || (0x1C ≤ c.toNat && c.toNat ≤ 0x1E)

/-- The width of the widest line of a text, tabs aside. -/
def lineWidth (text : Text) : Nat :=
  let lines := Text.pieces '\n' (text.map fun c => if endsLine c then '\n' else c)
  lines.foldl (fun width line => max width (Text.cells line)) 0

/-- The width of the widest text. -/
def widest (texts : List Text) : Nat := texts.foldl (fun width text => max width (lineWidth text)) 0

/-- The text in the middle of a line of the given width; an odd blank goes to the right. -/
def centred (width : Nat) (text : Text) : Text :=
  Text.padRight width (List.replicate ((width - Text.cells text) / 2) ' ' ++ text)

/-- A line cut to a width; an ellipsis in the last cell says that something is missing. -/
def cutToWidth (width : Nat) (line : Text) : Text :=
  if Text.cells line ≤ width then line
  else Text.padRight (width - 1) ((Text.foldFrom (width - 1) [] 0 line).headD []) ++ ['…']

/-- The lines of a cell in a column, all as wide as the column. -/
def cellLines (alignment : Alignment) (width : Nat) (cell : Text) : List Text :=
  (Text.wrap width false cell).map fun line => alignment.fill width (cutToWidth width line)

/-- The cells of one row beside one another, line by line. -/
def rowLines (columns : List (Alignment × Nat)) (row : List Text) : List (List Text) :=
  let cells := (columns.zip row).map fun (column, cell) => (column.2, cellLines column.1 column.2 cell)
  let height := (cells.map fun cell => cell.2.length).foldl max 0
  (List.range height).map fun index =>
    cells.map fun cell => cell.2.getD index (List.replicate cell.1 ' ')

namespace Table

def headers (table : Table) : List Text := table.columns.map Column.header

/-- The cells of the column at an index, its header first. -/
def cellsAt (table : Table) (index : Nat) : List Text :=
  (table.headers :: table.rows).map fun row => row.getD index []

def widths (table : Table) : List Nat :=
  (List.range table.columns.length).map fun index => widest (table.cellsAt index)

/-- A line between rows: a run of the stroke for every column, with its two blanks. -/
def ruleLine (widths : List Nat) (left stroke joint right : Char) : Text :=
  left :: Text.joinWith [joint] (widths.map fun width => List.replicate (width + 2) stroke) ++ [right]

/-- The lines of a row with a bar before, between and behind its cells. -/
def barredLines (columns : List (Alignment × Nat)) (bar : Char) (row : List Text) : List Text :=
  (rowLines columns row).map fun cells =>
    bar :: Text.joinWith [bar] (cells.map fun cell => ' ' :: cell ++ [' ']) ++ [bar]

/-- The lines of the table. -/
def lines (table : Table) : List Text :=
  let widths := table.widths
  let columns := (table.columns.map Column.alignment).zip widths
  let top := ruleLine widths '┏' '━' '┳' '┓'
  [centred top.length table.title, top] ++ barredLines columns '┃' table.headers ++
    [ruleLine widths '┡' '━' '╇' '┩'] ++ table.rows.flatMap (barredLines columns '│') ++
    [ruleLine widths '└' '─' '┴' '┘']

end Table

/-- Names and values side by side, two blanks between them. -/
def pairLines (pairs : List (Text × Text)) : List Text :=
  let left := widest (pairs.map Prod.fst)
  let right := widest (pairs.map Prod.snd)
  pairs.flatMap fun pair =>
    (rowLines [(.left, left), (.left, right)] [pair.1, pair.2]).map (Text.joinWith [' ', ' '])

end QueryCompletion
