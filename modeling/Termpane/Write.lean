import Termpane.Width

/-!
# Cell writes

The row helpers of `write.rs` and the two row edits inside `write_char_at_cursor`.
-/
namespace Termpane

/-- Display width of a cell: 2 for a wide lead, 1 for a filled narrow cell, else 0. -/
def cellWidth (c : Cell) : Nat :=
  if c.isWide then 2 else if c.isWideContinuation || c.contents.isEmpty then 0 else 1

/-- Set the wide flags of `row[col]` after its cluster changed width. -/
def setCellWidth (row : Row) (col width : Nat) (attrs : Attrs) (cols : Nat) : Checked Row := do
  let cell ← at? row col
  let row ← assign row col { cell with isWide := decide (width > 1), isWideContinuation := false }
  if col + 1 < cols ∧ col + 1 < row.length then
    if width > 1 then
      let orphan := row[col + 1]?.any (·.isWide) && decide (col + 2 < cols ∧ col + 2 < row.length)
      let row ← assign row (col + 1) (.continuationOf attrs cell.hyperlink)
      assignIf orphan row (col + 2) default
    else assignIf (row[col + 1]?.any (·.isWideContinuation)) row (col + 1) default
  else return row

/-- Erase `row[start..stop]` with a blank, and the half of a wide pair either
    end of the range cuts off. -/
def eraseCellsBce (row : Row) (start stop : Nat) (blank : Cell) : Checked Row := do
  let splitLead := decide (start > 0) && row[start]?.any (·.isWideContinuation)
  let splitContinuation := decide (stop > start ∧ stop < row.length) && row[stop - 1]?.any (·.isWide)
  let row ← fill row start stop blank
  let row ← assignIf splitLead row (start - 1) blank
  assignIf splitContinuation row stop blank

/-- One turn of the loop of `repair_wide_pairs`. -/
def repairAt (row : Row) (i : Nat) : Checked Row := do
  let cell ← at? row i
  let orphanContinuation := cell.isWideContinuation && (i == 0 || !row[i - 1]?.any (·.isWide))
  let orphanLead := cell.isWide && (decide (i + 1 ≥ row.length) || !row[i + 1]?.any (·.isWideContinuation))
  assignIf (orphanContinuation || orphanLead) row i default

/-- Blank a wide lead without its continuation and a continuation without its lead. -/
def repairWidePairs (row : Row) : Checked Row := (List.range row.length).foldlM repairAt row

/-- The first block of `write_char_at_cursor`: blank the halves of wide pairs
    that a glyph of `width` at `col` splits. With the columns to mark dirty. -/
def clearPartners (row : Row) (col width : Nat) : Row × Nat × Nat :=
  let dirtyStart := col
  let dirtyEnd := satAdd16 col width
  let splitsLead := row[col]?.any (·.isWideContinuation) && decide (col > 0)
  let dirtyStart := if splitsLead then dirtyStart - 1 else dirtyStart
  let row := if splitsLead then row.set (col - 1) default else row
  let splitsContinuation := row[col]?.any (·.isWide) && decide (width < 2 ∧ col + 1 < row.length)
  let dirtyEnd := if splitsContinuation then max dirtyEnd (satAdd16 col 2) else dirtyEnd
  let row := if splitsContinuation then row.set (col + 1) default else row
  -- the new continuation overwrites a wide lead, whose own is one cell further
  let splitsNext := decide (width > 1) && row[col + 1]?.any (·.isWide) && decide (col + 2 < row.length)
  let dirtyEnd := if splitsNext then max dirtyEnd (satAdd16 col 3) else dirtyEnd
  let row := if splitsNext then row.set (col + 2) default else row
  (row,dirtyStart,dirtyEnd)

/-- The second block of `write_char_at_cursor`: the glyph and, if wide and not
    in the last column, its continuation. -/
def putGlyph (row : Row) (col cols width : Nat) (cell : Cell) : Checked Row := do
  let row ← assign row col cell
  assignIf (width > 1 ∧ col + 1 < cols ∧ col + 1 < row.length) row (col + 1) (.continuationOf cell.attrs cell.hyperlink)

/-- What a glyph does to its row. -/
def writeGlyph (row : Row) (col cols width : Nat) (cell : Cell) : Checked Row :=
  putGlyph (clearPartners row col width).1 col cols width cell

/-- What a character that joins the cluster in `cell` does to the row: the
    cluster takes the active link, and the flags follow its new width. -/
def joinGlyph (row : Row) (col : Nat) (cell : Cell) (joined : List Char) (hyperlink : Option Hyperlink)
    (width cols : Nat) : Checked Row := do
  let row ← assign row col { cell with contents := joined, hyperlink := hyperlink }
  setCellWidth row col width cell.attrs cols

/-- What ICH does to the cursor's row. -/
def insertBlanks (row : Row) (col n cols : Nat) : Checked Row := do
  let stop := min cols row.length
  -- for c in (col..stop - n).rev() { row[c + n] = row[c].clone() }
  let row ← (List.range' col (stop - n - col)).reverse.foldlM
    (fun row c => do
      let cell ← at? row c
      assign row (c + n) cell) row
  let row := row.mapIdx fun c cell => if col ≤ c ∧ c < min (col + n) stop then default else cell
  if col < stop then repairWidePairs row else return row

/-- What DCH does to the cursor's row. -/
def deleteCells (row : Row) (col n cols : Nat) : Checked Row := do
  -- for c in col..cols - n { row[c] = row.get(c + n).cloned().unwrap_or_default() }
  let row ← (List.range' col (cols - n - col)).foldlM (fun row c => assign row c (row[c + n]?.getD default)) row
  let row ← fill row (cols - n) cols default
  repairWidePairs row

/-- What ECH does to the cursor's row. -/
def eraseCells (row : Row) (col n : Nat) (blank : Cell) : Checked Row :=
  let stop := min (col + n) row.length
  eraseCellsBce row (min col stop) stop blank

end Termpane
