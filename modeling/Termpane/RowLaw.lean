import Termpane.RowEdits
import Termpane.Width

/-!
# Properties of rows that every edit keeps

What has to be shown about a property of rows for it to hold of every row of
the grid at all times: it holds of blank rows, and each row edit succeeds on a
row that has it, with the row's length and the property kept.
-/
namespace Termpane

variable [UnicodeWidth]

/-- A row edit that succeeds, keeping the length and a property of the row. -/
def Edits (P : Row → Prop) (row : Row) (edit : Checked Row) : Prop :=
  ∃ edited, edit = .ok edited ∧ edited.length = row.length ∧ P edited

/-- The cell `write_char_at_cursor` puts down. -/
def glyphCell (ch : Char) (attrs : Attrs) (hyperlink : Option Hyperlink) : Cell :=
  { contents := [ch], isWide := decide (charWidth ch > 1), attrs := attrs, hyperlink := hyperlink }

/-- The column of the cluster a column belongs to: a continuation cell stands
    for the wide lead before it. -/
def clusterCol (row : Row) (col : Nat) : Nat :=
  if (cellAt row col).isWideContinuation ∧ col > 0 then col - 1 else col

/-- Whether `ch` is taken into a cluster. -/
def Joins (ch : Char) (cluster : List Char) : Prop :=
  cluster ≠ [] ∧ cluster.length ≤ maxClusterJoiners ∧ (charWidth ch = 0 ∨ endsWithZwj cluster = true)

structure RowLaw (Prints : Char → Prop) (P : Row → Prop) : Prop where
  blank : ∀ cols, P (List.replicate cols default)
  blankOn : ∀ cols background, P (List.replicate cols (.blankOn background))
  -- an empty range only at the right margin
  erase : ∀ row start stop background, P row → start ≤ stop → stop ≤ row.length → start < stop ∨ start = row.length →
    Edits P row (eraseCellsBce row start stop (.blankOn background))
  insert : ∀ row col n, P row → col ≤ row.length → Edits P row (insertBlanks row col n row.length)
  delete : ∀ row col n, P row → col ≤ row.length → 0 < n → Edits P row (deleteCells row col n row.length)
  glyph : ∀ row col ch attrs hyperlink, P row → col < row.length → Prints ch → charWidth ch ≠ 0 →
    col + charWidth ch ≤ u16Max → Edits P row (writeGlyph row col row.length (charWidth ch) (glyphCell ch attrs hyperlink))
  join : ∀ row col ch hyperlink, P row → col < row.length → Prints ch →
    Joins ch (cellAt row (clusterCol row col)).contents →
    clusterCol row col + min (clusterWidth ((cellAt row (clusterCol row col)).contents ++ [ch])) 2 ≤ u16Max →
    Edits P row (joinGlyph row (clusterCol row col) (cellAt row (clusterCol row col))
      ((cellAt row (clusterCol row col)).contents ++ [ch]) hyperlink
      (min (clusterWidth ((cellAt row (clusterCol row col)).contents ++ [ch])) 2) row.length)
  resize : ∀ row cols, P row → P (resizeRow cols row)

end Termpane
