import Mathlib.Data.List.Forall2
import ScanWatch.Display.BackendTable
import ScanWatch.Proofs.Text.Digits
import ScanWatch.Proofs.Text.Trimming

/-! The columns of the backend's table. A cell has no more characters than bytes, so none is wider
than its column, and what is dropped at the end of a line is padding, never a part of a cell. -/

namespace ScanWatch.BackendTable

open Text

private theorem length_le_utf8ByteSize (text : String) :
    text.toList.length ≤ text.utf8ByteSize := by
  have bound : ∀ cs : List Char, cs.length ≤ (String.ofList cs).utf8ByteSize := by
    intro cs
    induction cs with
    | nil => exact Nat.zero_le _
    | cons c rest ih =>
      have positive := c.utf8Size_pos
      rw [List.length_cons, String.ofList_cons, String.utf8ByteSize_append,
        String.utf8ByteSize_singleton]
      omega
  have whole := bound text.toList
  rwa [String.ofList_toList] at whole

private theorem le_foldl_max (size : Row String → Nat) (rows : List (Row String)) (start : Nat) :
    start ≤ rows.foldl (fun width row => max width (size row)) start ∧
      ∀ row ∈ rows, size row ≤ rows.foldl (fun width row => max width (size row)) start := by
  induction rows generalizing start with
  | nil => exact ⟨Nat.le_refl _, List.forall_mem_nil _⟩
  | cons head rest ih =>
    obtain ⟨grows, covers⟩ := ih (max start (size head))
    rw [List.foldl_cons]
    refine ⟨Nat.le_trans (Nat.le_max_left ..) grows, ?_⟩
    rw [List.forall_mem_cons]
    exact ⟨Nat.le_trans (Nat.le_max_right ..) grows, covers⟩

/-- No cell has more characters than its column is wide. -/
theorem length_le_width (cell : Row String → String) {rows : List (Row String)} {row : Row String}
    (member : row ∈ rows) : (cell row).toList.length ≤ width cell rows := by
  have covered := (le_foldl_max (fun row => (cell row).utf8ByteSize) rows 0).2 row member
  exact Nat.le_trans (length_le_utf8ByteSize _) covered

private theorem length_pad {width : Nat} {cell : String} (fits : cell.toList.length ≤ width) :
    (pad width cell).length = width := by
  rw [pad, List.length_append, List.length_replicate]
  omega

inductive Column where
  | id
  | connection
  | request
  | progress

def Row.at {α : Type} (row : Row α) : Column → α
  | .id => row.id
  | .connection => row.connection
  | .request => row.request
  | .progress => row.progress

/-- How many characters of a line stand before a column. -/
def Row.offset (widths : Row Nat) : Column → Nat
  | .id => 0
  | .connection => widths.id + 2
  | .request => widths.id + 2 + widths.connection + 2
  | .progress => widths.id + 2 + widths.connection + 2 + widths.request + 2

/-- A row as it is written before the blanks at its end are dropped. -/
def padded (widths : Row Nat) (row : Row String) : List Char :=
  pad widths.id row.id ++ gap ++ pad widths.connection row.connection ++ gap ++
    pad widths.request row.request ++ gap ++ pad widths.progress row.progress

def trimmed (widths : Row Nat) (row : Row String) : List Char :=
  pad widths.id row.id ++ gap ++ pad widths.connection row.connection ++ gap ++
    pad widths.request row.request ++ gap ++ row.progress.toList

/-- A line shows a row in columns of these widths. Each cell is filled up to the width of its
column, two blanks stand between columns, and nothing but the last cell's padding is dropped; so
each cell stands whole where its column starts in all lines. -/
structure Aligned (widths : Row Nat) (row : Row String) (line : String) : Prop where
  even : ∀ column, (pad (widths.at column) (row.at column)).length = widths.at column
  written : line.toList = trimmed widths row
  dropped : padded widths row =
    line.toList ++ List.replicate (widths.progress - row.progress.toList.length) ' '
  whole : ∀ column, (row.at column).toList <+: line.toList.drop (widths.offset column)

/-- The last cell of a row does not end in a blank. -/
def Row.Closed (row : Row String) : Prop :=
  row.progress.toList ≠ [] ∧ ¬EndsIn isBlank row.progress.toList

variable {columns : Row Nat} {row : Row String}

private theorem padded_eq (columns : Row Nat) (row : Row String) : padded columns row =
    trimmed columns row ++ List.replicate (columns.progress - row.progress.toList.length) ' ' := by
  rw [padded, trimmed, List.append_assoc _ row.progress.toList]
  rfl

private theorem toList_line (columns : Row Nat) (closed : row.Closed) :
    (line columns row).toList = trimmed columns row := by
  have text : (line columns row).toList = dropEndWhile isBlank (padded columns row) :=
    String.toList_ofList
  rw [text, dropEndWhile_eq_iff]
  constructor
  · refine ⟨_, padded_eq columns row, ?_⟩
    intro c member
    rw [List.eq_of_mem_replicate member]
    decide
  · rw [trimmed, endsIn_append closed.1]
    exact closed.2

def ahead (columns : Row Nat) (row : Row String) : Column → List Char
  | .id => []
  | .connection => pad columns.id row.id ++ gap
  | .request => pad columns.id row.id ++ gap ++ pad columns.connection row.connection ++ gap
  | .progress =>
    pad columns.id row.id ++ gap ++ pad columns.connection row.connection ++ gap ++
      pad columns.request row.request ++ gap

private theorem ahead_prefix (columns : Row Nat) (row : Row String) (column : Column) :
    ahead columns row column ++ (row.at column).toList <+: trimmed columns row := by
  cases column <;> simp [ahead, Row.at, trimmed, pad, List.prefix_append_right_inj]

private theorem length_ahead
    (even : ∀ column, (pad (columns.at column) (row.at column)).length = columns.at column)
    (column : Column) : (ahead columns row column).length = columns.offset column := by
  have id : (pad columns.id row.id).length = columns.id := even .id
  have connection : (pad columns.connection row.connection).length = columns.connection :=
    even .connection
  have request : (pad columns.request row.request).length = columns.request := even .request
  cases column <;> simp only [ahead, Row.offset, gap, List.length_append, List.length_cons,
    List.length_nil, id, connection, request]

/-- A closed row whose cells fit is written in a line that shows it. -/
theorem aligned_line (closed : row.Closed)
    (fits : ∀ column, (row.at column).toList.length ≤ columns.at column) :
    Aligned columns row (line columns row) := by
  have even : ∀ column, (pad (columns.at column) (row.at column)).length = columns.at column :=
    fun column => length_pad (fits column)
  have written := toList_line columns closed
  refine ⟨even, written, ?_, ?_⟩
  · rw [written]
    exact padded_eq columns row
  · intro column
    obtain ⟨rest, split⟩ := ahead_prefix columns row column
    rw [written, ← split, List.append_assoc, ← length_ahead even, List.drop_left]
    exact List.prefix_append _ _

private theorem isBlank_of_isDigit {c : Char} (digit : c.isDigit = true) : isBlank c = false := by
  have bounds : 48 ≤ c.toNat ∧ c.toNat ≤ 57 := Char.isDigit_iff_toNat.mp digit
  simp only [isBlank, Bool.or_eq_false_iff, Bool.and_eq_false_iff, decide_eq_false_iff_not,
    beq_eq_false_iff_ne]
  omega

private theorem closed_header : header.Closed :=
  ⟨by decide, by decide⟩

private theorem closed_cells (job : BackendJob) : (cells job.row).Closed := by
  have text : (cells job.row).progress.toList =
      (job.workDone.toNat.repr ++ " / ").toList ++ Nat.toDigits 10 job.workEstimated.toNat := by
    change (job.workDone.toNat.repr ++ " / " ++ job.workEstimated.toNat.repr).toList = _
    rw [String.toList_append, Nat.repr_eq_ofList_toDigits (n := job.workEstimated.toNat),
      String.toList_ofList]
  rw [Row.Closed, text]
  refine ⟨List.append_ne_nil_of_right_ne_nil _ Nat.toDigits_ne_nil, ?_⟩
  rw [endsIn_append Nat.toDigits_ne_nil]
  apply not_endsIn_of_forall
  intro c member
  exact isBlank_of_isDigit (isDigit_of_mem_toDigits member)

private theorem lines_aligned {rows : List (Row String)} (closed : ∀ row ∈ rows, row.Closed) :
    List.Forall₂ (Aligned (widths rows)) rows (rows.map (line (widths rows))) := by
  rw [List.forall₂_map_right_iff, List.forall₂_same]
  intro row member
  apply aligned_line (closed row member)
  intro column
  cases column with
  | id => exact length_le_width Row.id member
  | connection => exact length_le_width Row.connection member
  | request => exact length_le_width Row.request member
  | progress => exact length_le_width Row.progress member

/-- The table of some workers is its header and a line for each of them, in order, joined by line
breaks. All lines have the same columns, and no cell loses anything. -/
theorem render_aligned (jobs : List BackendJob) :
    ∃ (widths : Row Nat) (lines : List String),
      render (jobs.map BackendJob.row) = "\n".intercalate lines ∧
        List.Forall₂ (Aligned widths)
          (⟨"id", "conn", "request", "progress"⟩ :: jobs.map fun job =>
            ⟨job.id, job.connection, job.request,
              job.workDone.toNat.repr ++ " / " ++ job.workEstimated.toNat.repr⟩)
          lines := by
  refine ⟨widths (header :: (jobs.map BackendJob.row).map cells), lines (jobs.map BackendJob.row),
    rfl, ?_⟩
  have rows : (jobs.map BackendJob.row).map cells = jobs.map fun job => cells job.row :=
    List.map_map
  rw [lines, rows]
  apply lines_aligned
  rw [List.forall_mem_cons, List.forall_mem_map]
  exact ⟨closed_header, fun job _ => closed_cells job⟩

end ScanWatch.BackendTable
