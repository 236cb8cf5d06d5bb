import ScanWatch.Payload.Backend
import ScanWatch.Text.Blank

namespace ScanWatch.BackendTable

/-- The cells of a row, one for each column. -/
structure Row (α : Type) where
  id : α
  connection : α
  request : α
  progress : α

def header : Row String :=
  ⟨"id", "conn", "request", "progress"⟩

def cells (row : BackendRow) : Row String :=
  ⟨row.id, row.connection, row.request, row.progress⟩

/-- A column is as wide as the longest of its cells, in bytes. -/
def width (cell : Row String → String) (rows : List (Row String)) : Nat :=
  rows.foldl (fun width row => max width (cell row).utf8ByteSize) 0

def widths (rows : List (Row String)) : Row Nat :=
  ⟨width Row.id rows, width Row.connection rows, width Row.request rows,
    width Row.progress rows⟩

/-- Fills up with spaces to a number of characters. -/
def pad (width : Nat) (cell : String) : List Char :=
  cell.toList ++ List.replicate (width - cell.toList.length) ' '

def gap : List Char :=
  [' ', ' ']

/-- One line of the table, without the blanks at its end. -/
def line (widths : Row Nat) (row : Row String) : String :=
  String.ofList <| Text.dropEndWhile Text.isBlank <|
    pad widths.id row.id ++ gap ++ pad widths.connection row.connection ++ gap ++
      pad widths.request row.request ++ gap ++ pad widths.progress row.progress

/-- The lines of the table, the header first. -/
def lines (rows : List BackendRow) : List String :=
  let all := header :: rows.map cells
  all.map (line (widths all))

def render (rows : List BackendRow) : String :=
  "\n".intercalate (lines rows)

end ScanWatch.BackendTable
