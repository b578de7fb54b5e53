import Termpane.RowLaw

/-!
# Wide pairs

A wide glyph takes two cells, a lead and an empty continuation. In every row of
the grid the two stand side by side, and an empty cell carries nothing but a
background colour.
-/
namespace Termpane

/-- What holds of every cell. -/
structure CellOk (c : Cell) : Prop where
  continuation : c.isWideContinuation = true → c.contents = []
  lead : c.isWide = true → c.isWideContinuation = false ∧ c.contents ≠ []
  blank : c.contents = [] → c.isWideContinuation = false →
    c.attrs = { background := c.attrs.background } ∧ c.hyperlink = none
  scalars : c.contents.length ≤ maxClusterJoiners + 1

/-- Leads and continuations alternate: a continuation follows a lead, and a lead
    is followed by a continuation, the last column apart. -/
structure RowOk (row : Row) : Prop where
  cells : ∀ j, CellOk (cellAt row j)
  first : (cellAt row 0).isWideContinuation = false
  pairs : ∀ j, j + 1 < row.length → (cellAt row (j + 1)).isWideContinuation = (cellAt row j).isWide

/-- Leads and continuations alternate, whatever is in the cells. -/
structure Paired (row : Row) : Prop where
  exclusive : Exclusive row
  first : (cellAt row 0).isWideContinuation = false
  pairs : ∀ j, j + 1 < row.length → (cellAt row (j + 1)).isWideContinuation = (cellAt row j).isWide

theorem CellOk.default : CellOk (default : Cell) :=
  ⟨fun h => (by cases h),fun h => (by cases h),fun _ _ => ⟨rfl,rfl⟩,Nat.zero_le _⟩

theorem CellOk.blankOn (background : Color) : CellOk (.blankOn background) :=
  ⟨fun h => (by cases h),fun h => (by cases h),fun _ _ => ⟨rfl,rfl⟩,Nat.zero_le _⟩

theorem CellOk.continuationOf (attrs : Attrs) (hyperlink : Option Hyperlink) : CellOk (.continuationOf attrs hyperlink) :=
  ⟨fun _ => rfl,fun h => (by cases h),fun _ h => (by cases h),Nat.zero_le _⟩

namespace RowOk

theorem exclusive {row : Row} (ok : RowOk row) : Exclusive row := by
  intro j both
  have lead := (ok.cells j).lead both.1
  rw [both.2] at lead
  cases lead.1

theorem paired {row : Row} (ok : RowOk row) : Paired row := ⟨ok.exclusive,ok.first,ok.pairs⟩

/-- A row given by its cells. -/
theorem of_cells {row : Row} (cells : ∀ j, j < row.length → CellOk (cellAt row j))
    (first : 0 < row.length → (cellAt row 0).isWideContinuation = false)
    (pairs : ∀ j, j + 1 < row.length → (cellAt row (j + 1)).isWideContinuation = (cellAt row j).isWide) : RowOk row := by
  refine ⟨fun j => ?_,?_,pairs⟩
  · by_cases inside : j < row.length
    · exact cells j inside
    · rw [cellAt_outside (by omega)]; exact CellOk.default
  · by_cases some : 0 < row.length
    · exact first some
    · rw [cellAt_outside (by omega)]; rfl

theorem replicate {c : Cell} (ok : CellOk c) (narrow : c.isWide = false) (single : c.isWideContinuation = false)
    (cols : Nat) : RowOk (List.replicate cols c) := by
  refine of_cells (fun j inside => ?_) (fun some => ?_) (fun j inside => ?_)
  all_goals simp only [List.length_replicate] at *
  · rw [cellAt_replicate,if_pos inside]; exact ok
  · rw [cellAt_replicate,if_pos some]; exact single
  · rw [cellAt_replicate,cellAt_replicate,if_pos inside,if_pos (by omega),narrow,single]

theorem erase {row : Row} (ok : RowOk row) {start stop : Nat} (order : start ≤ stop) (inside : stop ≤ row.length)
    (some : start < stop ∨ start = row.length) (background : Color) : Edits RowOk row (eraseCellsBce row start stop (.blankOn background)) := by
  obtain ⟨erased,erasedEq,length,cells⟩ := eraseCellsBce_cellAt order inside (.blankOn background)
  refine ⟨erased,erasedEq,length,of_cells (fun j bound => ?_) (fun some => ?_) (fun j bound => ?_)⟩
  · rw [cells j (by omega)]
    split
    · exact CellOk.blankOn background
    · exact ok.cells j
  · rw [cells 0 (by omega)]
    split
    · rfl
    · exact ok.first
  · have here := ok.pairs j (by omega)
    have margin : cellAt row row.length = default := cellAt_outside (Nat.le_refl _)
    have left := ok.exclusive j
    have right := ok.exclusive (j + 1)
    have next := ok.pairs (j + 1)
    have afterStop := ok.pairs (stop - 1)
    rw [cells j (by omega),cells (j + 1) (by omega)]
    -- a pair is blanked as a whole or cut in the middle, where neither half is left
    by_cases leftErased : Erases row start stop j <;> by_cases rightErased : Erases row start stop (j + 1)
    · simp [leftErased,rightErased]
    · rw [if_neg rightErased,if_pos leftErased,here]
      unfold Erases at leftErased rightErased
      grind [blankOn_isWide,default_isWideContinuation]
    · rw [if_pos rightErased,if_neg leftErased]
      unfold Erases at leftErased rightErased
      grind [blankOn_isWideContinuation,default_isWideContinuation]
    · rw [if_neg rightErased,if_neg leftErased,here]

/-- Blanking the orphans of a row whose cells are well formed pairs it. -/
theorem repaired {row repaired : Row} (ok : ∀ j, CellOk (cellAt row j))
    (cells : ∀ j, cellAt repaired j = if Orphan row j then default else cellAt row j) : RowOk repaired := by
  have exclusive (j : Nat) := (ok j).lead
  refine of_cells (fun j bound => ?_) (fun some => ?_) (fun j bound => ?_)
  · rw [cells j]
    split
    · exact CellOk.default
    · exact ok j
  · rw [cells 0]
    unfold Orphan
    grind [default_isWideContinuation]
  · have here := exclusive j
    have next := exclusive (j + 1)
    rw [cells j,cells (j + 1)]
    unfold Orphan
    grind [default_isWide,default_isWideContinuation]

variable [UnicodeWidth]

theorem glyph {row : Row} (ok : RowOk row) {col : Nat} (inside : col < row.length) (ch : Char) (attrs : Attrs)
    (hyperlink : Option Hyperlink) :
    Edits RowOk row (writeGlyph row col row.length (charWidth ch) (glyphCell ch attrs hyperlink)) := by
  obtain ⟨written,writtenEq,length,cells⟩ := writeGlyph_cellAt inside (charWidth ch) (glyphCell ch attrs hyperlink)
  have glyphOk : CellOk (glyphCell ch attrs hyperlink) :=
    ⟨fun h => (by cases h),fun _ => ⟨rfl,by simp [glyphCell]⟩,fun h => (by cases h),by simp [glyphCell]⟩
  refine ⟨written,writtenEq,length,of_cells (fun j bound => ?_) (fun some => ?_) (fun j bound => ?_)⟩
  · rw [cells j (by omega)]
    split_ifs
    · exact glyphOk
    · exact CellOk.continuationOf _ _
    · exact CellOk.default
    · exact ok.cells j
  · rw [cells 0 (by omega)]
    rw [if_neg (show ¬ (0 = col + 1 ∧ charWidth ch > 1) by omega)]
    split_ifs
    · rfl
    · rfl
    · exact ok.first
  · have here := ok.pairs j (by omega)
    have next := ok.pairs (j + 1)
    have own := ok.pairs col
    have beyond := ok.pairs (col + 1)
    have left := ok.exclusive j
    have right := ok.exclusive (j + 1)
    have wide : (glyphCell ch attrs hyperlink).isWide = decide (charWidth ch > 1) := rfl
    have single : (glyphCell ch attrs hyperlink).isWideContinuation = false := rfl
    rw [cells j (by omega),cells (j + 1) (by omega)]
    generalize charWidth ch = width at *
    generalize glyphCell ch attrs hyperlink = cell at *
    clear writtenEq cells glyphOk
    unfold Splits
    -- the five places of the two columns around the glyph
    have place : j + 1 < col ∨ j + 1 = col ∨ j = col ∨ j = col + 1 ∨ col + 1 < j := by omega
    rcases place with before | rfl | rfl | rfl | after
    all_goals by_cases wideGlyph : width > 1
    all_goals grind [continuationOf_isWide,continuationOf_isWideContinuation,default_isWide,default_isWideContinuation]

omit [UnicodeWidth] in
/-- The cluster a column belongs to starts in the row, on no continuation cell. -/
theorem clusterCol_start {row : Row} (ok : RowOk row) {col : Nat} (inside : col < row.length) :
    clusterCol row col < row.length ∧ (cellAt row (clusterCol row col)).isWideContinuation = false := by
  unfold clusterCol
  split_ifs with second
  · have pair := ok.pairs (col - 1) (by omega)
    rw [show col - 1 + 1 = col by omega,second.1] at pair
    exact ⟨by omega,((ok.cells (col - 1)).lead pair.symm).1⟩
  · refine ⟨inside,?_⟩
    by_cases first : col = 0
    · rw [first]; exact ok.first
    · simpa [Nat.pos_of_ne_zero first] using second

theorem join {row : Row} (ok : RowOk row) {col : Nat} (inside : col < row.length) {ch : Char}
    (joins : Joins ch (cellAt row (clusterCol row col)).contents) (hyperlink : Option Hyperlink) (width : Nat) :
    Edits RowOk row (joinGlyph row (clusterCol row col) (cellAt row (clusterCol row col))
      ((cellAt row (clusterCol row col)).contents ++ [ch]) hyperlink width row.length) := by
  obtain ⟨inside',start⟩ := ok.clusterCol_start inside
  generalize clusterCol row col = col at *
  obtain ⟨written,writtenEq,length,cells⟩ := joinGlyph_cellAt inside' (cellAt row col) ((cellAt row col).contents ++ [ch])
    hyperlink width
  refine ⟨written,writtenEq,length,of_cells (fun j bound => ?_) (fun some => ?_) (fun j bound => ?_)⟩
  · rw [cells j (by omega)]
    split_ifs
    · refine ⟨fun h => (by cases h),fun _ => ⟨rfl,by simp⟩,fun empty => (by simp at empty),?_⟩
      have short := joins.2.1
      simp only [List.length_append,List.length_singleton]
      omega
    · exact CellOk.continuationOf _ _
    · exact CellOk.default
    · exact CellOk.default
    · exact ok.cells j
  · rw [cells 0 (by omega),if_neg (show ¬ (0 = col + 1 ∧ width > 1) by omega)]
    split_ifs
    · rfl
    · rfl
    · rfl
    · exact ok.first
  · have here := ok.pairs j (by omega)
    have own := ok.pairs col
    have beyond := ok.pairs (col + 1)
    have right := ok.exclusive (j + 1)
    have left := ok.exclusive j
    rw [cells j (by omega),cells (j + 1) (by omega)]
    clear writtenEq cells
    have place : j + 1 < col ∨ j + 1 = col ∨ j = col ∨ j = col + 1 ∨ col + 1 < j := by omega
    rcases place with before | rfl | rfl | rfl | after
    all_goals by_cases wideGlyph : width > 1
    all_goals grind [continuationOf_isWide,continuationOf_isWideContinuation,default_isWide,default_isWideContinuation]

omit [UnicodeWidth] in
theorem insert {row : Row} (ok : RowOk row) {col : Nat} (inside : col ≤ row.length) (n : Nat) :
    Edits RowOk row (insertBlanks row col n row.length) := by
  by_cases parked : col = row.length
  · rw [parked,insertBlanks_parked]
    exact ⟨row,rfl,rfl,ok⟩
  · obtain ⟨shifted,inserted,⟨shiftedLength,shiftedCells⟩,insertedEq,length,cells⟩ :=
      insertBlanks_cellAt (n := n) ok.exclusive (show col < row.length by omega)
    refine ⟨inserted,insertedEq,length,repaired (fun j => ?_) cells⟩
    by_cases bound : j < row.length
    · rw [shiftedCells j bound]
      split_ifs
      · exact ok.cells j
      · exact CellOk.default
      · exact ok.cells _
    · rw [cellAt_outside (by omega)]; exact CellOk.default

omit [UnicodeWidth] in
theorem delete {row : Row} (ok : RowOk row) {col : Nat} (inside : col ≤ row.length) {n : Nat} (some : 0 < n) :
    Edits RowOk row (deleteCells row col n row.length) := by
  obtain ⟨shifted,deleted,⟨shiftedLength,shiftedCells⟩,deletedEq,length,cells⟩ :=
    deleteCells_cellAt ok.exclusive inside some
  refine ⟨deleted,deletedEq,length,repaired (fun j => ?_) cells⟩
  by_cases bound : j < row.length
  · rw [shiftedCells j bound]
    split_ifs
    · exact CellOk.default
    · exact ok.cells _
    · exact ok.cells j
  · rw [cellAt_outside (by omega)]; exact CellOk.default

omit [UnicodeWidth] in
theorem resize {row : Row} (ok : RowOk row) (cols : Nat) : RowOk (resizeRow cols row) := by
  obtain ⟨length,cells⟩ := resizeRow_cellAt row cols
  refine of_cells (fun j bound => ?_) (fun some => ?_) (fun j bound => ?_)
  · rw [cells j (by omega)]
    split_ifs
    · exact CellOk.continuationOf _ _
    · exact ok.cells j
    · exact CellOk.default
    · exact ok.cells j
  · rw [cells 0 (by omega)]
    split_ifs with wider completed
    · omega
    · exact ok.first
    · rfl
    · exact ok.first
  · have here := ok.pairs j
    have left := ok.exclusive j
    have right := ok.exclusive (j + 1)
    have outside : row.length ≤ j + 1 → cellAt row (j + 1) = default := fun o => cellAt_outside o
    have outside' : row.length ≤ j → cellAt row j = default := fun o => cellAt_outside o
    rw [cells j (by omega),cells (j + 1) (by omega)]
    grind [continuationOf_isWide,continuationOf_isWideContinuation,default_isWide,default_isWideContinuation]

end RowOk

/-- Wide pairs survive every edit, whatever is printed. -/
theorem rowOk_law [UnicodeWidth] (Prints : Char → Prop) : RowLaw Prints RowOk where
  blank cols := RowOk.replicate CellOk.default rfl rfl cols
  blankOn cols background := RowOk.replicate (CellOk.blankOn background) rfl rfl cols
  erase _ _ _ background ok order inside some := ok.erase order inside some background
  insert _ _ n ok inside := ok.insert inside n
  delete _ _ _ ok inside some := ok.delete inside some
  glyph _ _ ch attrs hyperlink ok inside _ _ _ := ok.glyph inside ch attrs hyperlink
  join _ _ _ hyperlink ok inside _ joins _ := ok.join inside joins hyperlink _
  resize _ cols ok := ok.resize cols

end Termpane
