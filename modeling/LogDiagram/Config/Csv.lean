import LogDiagram.Text.Blank

/-!
# Tables of comma-separated values

A table is a text of records. A record ends at a line feed or carriage return, and empty lines do not count. Its cells
stand between commas; a cell that starts with a quote may hold commas and ends of lines up to its closing quote, and a
quote inside is written twice. A quote elsewhere stands for itself, and a quoted cell that is not closed goes on to the
end of the text.

* `Csv.records` takes a text apart;
* `Csv.Table.read?` reads a table with a header, all cells trimmed, in which no row is shorter than the header.
-/

namespace LogDiagram.Csv

/-- Where the reading of a record stands. -/
inductive Position where
  /-- In front of a record. -/
  | recordStart
  /-- In front of a cell. -/
  | cellStart
  /-- Inside a cell or its part behind the closing quote. -/
  | plain
  /-- Between quotes. -/
  | quoted
  /-- Behind a quote that closes the cell unless another quote follows. -/
  | afterQuote
  deriving DecidableEq, Repr

/-- What is read so far. All parts are listed last one first. -/
structure Scan where
  position : Position
  cell : Text
  cells : List Text
  records : List (List Text)
  deriving DecidableEq, Repr

namespace Scan

/-- In front of the first record. -/
def start : Scan := ⟨.recordStart, [], [], []⟩

/-- One more character of a cell. -/
def copy (scan : Scan) (c : Char) (position : Position) : Scan := { scan with position, cell := c :: scan.cell }

def endCell (scan : Scan) : Scan :=
  { scan with position := .cellStart, cell := [], cells := scan.cell.reverse :: scan.cells }

def endRecord (scan : Scan) : Scan :=
  let scan := scan.endCell
  { scan with position := .recordStart, cells := [], records := scan.cells.reverse :: scan.records }

/-- A character that is not between quotes. -/
def unquoted (scan : Scan) (c : Char) : Scan :=
  if c = ',' then scan.endCell
  else if c = '\n' ∨ c = '\r' then scan.endRecord
  else scan.copy c .plain

def step (scan : Scan) (c : Char) : Scan :=
  match scan.position with
  | .recordStart =>
    if c = '\n' ∨ c = '\r' then scan
    else if c = '"' then { scan with position := .quoted }
    else scan.unquoted c
  | .cellStart => if c = '"' then { scan with position := .quoted } else scan.unquoted c
  | .plain => scan.unquoted c
  | .quoted => if c = '"' then { scan with position := .afterQuote } else scan.copy c .quoted
  | .afterQuote => if c = '"' then scan.copy c .quoted else scan.unquoted c

def finish (scan : Scan) : List (List Text) :=
  match scan.position with
  | .recordStart => scan.records.reverse
  | _ => scan.endRecord.records.reverse

end Scan

/-- A text without the mark of its byte order. -/
def withoutMark : Text → Text
  | '\uFEFF' :: t => t
  | t => t

/-- The records of a text, each a list of cells. -/
def records (t : Text) : List (List Text) := ((withoutMark t).foldl Scan.step .start).finish

/-- A header and rows; all cells are trimmed. -/
structure Table where
  header : List Text
  rows : List (List Text)
  deriving DecidableEq, Repr

namespace Table

/-- The cell of a row in the column of the given name; empty if there is no such column. -/
def cell (header row : List Text) (column : String) : Text := ((header.zip row).lookup column.toList).getD []

/-- One of the columns is named twice in the header. -/
def repeats (header : List Text) (columns : List String) : Bool :=
  columns.any fun column => 1 < header.count column.toList

/--
The table that a text holds. A table with rows may not name one of the given columns twice, and none of its rows may be
shorter than its header.
-/
def read? (columns : List String) (t : Text) : Option Table :=
  match (records t).map fun record => record.map Text.trimmed with
  | [] => some ⟨[], []⟩
  | header :: rows =>
    if !rows.isEmpty && (repeats header columns || rows.any fun row => row.length < header.length) then none
    else some ⟨header, rows⟩

end Table

end LogDiagram.Csv
