import Termpane.Calls
import Termpane.Serialize
import Termpane.Lib.Writes

/-!
# The serializer on a grid in shape

Its sums are the columns behind a cell and the rows below a position. They are `u16`s on
every grid the handlers leave: where the last column is the last a `u16` counts the column
behind, no wide glyph stands in it.
-/
namespace Termpane

open Lib

/-! ## The last column -/

/-- A row in which `u16` counts the columns behind every glyph. -/
structure RowFits (row : Row) : Prop where
  ok : RowOk row
  margin : row.length = u16Max → (cellAt row (row.length - 1)).isWide = false

namespace RowFits

theorem wide {row : Row} (fits : RowFits row) (length : row.length ≤ u16Max) {col : Nat} (inside : col < row.length)
    (wide : (cellAt row col).isWide = true) : col + 2 ≤ u16Max := by
  by_contra past
  have margin := fits.margin (by omega)
  rw [show row.length - 1 = col by omega,wide] at margin
  cases margin

/-- An edit that pairs the row and leaves no wide glyph in its last column. -/
theorem of_edit {row : Row} {edit : Checked Row} (edits : Edits RowOk row edit)
    (margin : ∀ edited, edit = .ok edited → row.length = u16Max → (cellAt edited (row.length - 1)).isWide = false) :
    Edits RowFits row edit := by
  obtain ⟨edited,done,length,ok⟩ := edits
  refine ⟨edited,done,length,ok,fun full => ?_⟩
  rw [length] at full ⊢
  exact margin edited done full

/-- What repairing the pairs leaves in the last column is no lead. -/
theorem repaired_margin {row repaired : Row} {last : Nat} (edge : row.length ≤ last + 1)
    (cells : ∀ j, cellAt repaired j = if Orphan row j then default else cellAt row j) :
    (cellAt repaired last).isWide = false := by
  rw [cells last]
  by_cases orphan : Orphan row last
  · rw [if_pos orphan]
    rfl
  · rw [if_neg orphan]
    by_contra wide
    have alone : (cellAt row (last + 1)).isWideContinuation = false := by rw [cellAt_outside edge]; rfl
    exact orphan (.inr ⟨by simpa using wide,alone⟩)

end RowFits

/-- No edit puts a wide glyph in a last column that `u16` does not count behind. -/
theorem rowFits_law [UnicodeWidth] (Prints : Char → Prop) : RowLaw Prints RowFits where
  blank cols := by
    refine ⟨(rowOk_law Prints).blank cols,fun _ => ?_⟩
    rw [cellAt_replicate]
    split <;> rfl
  blankOn cols background := by
    refine ⟨(rowOk_law Prints).blankOn cols background,fun _ => ?_⟩
    rw [cellAt_replicate]
    split <;> rfl
  erase row start stop background fits order inside some := by
    refine RowFits.of_edit (fits.ok.erase order inside some background) fun edited done full => ?_
    obtain ⟨erased,erasedEq,_,cells⟩ := eraseCellsBce_cellAt order inside (.blankOn background)
    cases erasedEq.symm.trans done
    rw [cells _ (by unfold u16Max at full; omega)]
    split
    · rfl
    · exact fits.margin full
  insert row col n fits inside := by
    refine RowFits.of_edit (fits.ok.insert inside n) fun edited done full => ?_
    by_cases parked : col = row.length
    · rw [parked,insertBlanks_parked] at done
      cases done
      exact fits.margin full
    · obtain ⟨shifted,inserted,⟨length,_⟩,insertedEq,_,cells⟩ :=
        insertBlanks_cellAt (n := n) fits.ok.exclusive (show col < row.length by omega)
      cases insertedEq.symm.trans done
      exact RowFits.repaired_margin (by omega) cells
  delete row col n fits inside some := by
    refine RowFits.of_edit (fits.ok.delete inside some) fun edited done full => ?_
    obtain ⟨shifted,deleted,⟨length,_⟩,deletedEq,_,cells⟩ := deleteCells_cellAt fits.ok.exclusive inside some
    cases deletedEq.symm.trans done
    exact RowFits.repaired_margin (by omega) cells
  glyph row col ch attrs hyperlink fits inside _ _ counted := by
    refine RowFits.of_edit (fits.ok.glyph inside ch attrs hyperlink) fun edited done full => ?_
    obtain ⟨written,writtenEq,_,cells⟩ := writeGlyph_cellAt inside (charWidth ch) (glyphCell ch attrs hyperlink)
    cases writtenEq.symm.trans done
    rw [cells _ (by omega)]
    split_ifs with here
    · exact decide_eq_false (show ¬ charWidth ch > 1 by omega)
    · rfl
    · rfl
    · exact fits.margin full
  join row col ch hyperlink fits inside _ joins counted := by
    refine RowFits.of_edit (fits.ok.join inside joins hyperlink _) fun edited done full => ?_
    have inside' := (fits.ok.clusterCol_start inside).1
    generalize clusterCol row col = col at *
    obtain ⟨written,writtenEq,_,cells⟩ := joinGlyph_cellAt inside' (cellAt row col) ((cellAt row col).contents ++ [ch]) hyperlink
      (min (clusterWidth ((cellAt row col).contents ++ [ch])) 2)
    cases writtenEq.symm.trans done
    rw [cells _ (by omega)]
    split_ifs with here
    · exact decide_eq_false (by omega)
    · rfl
    · rfl
    · rfl
    · exact fits.margin full
  resize row cols fits := by
    obtain ⟨length,cells⟩ := resizeRow_cellAt row cols
    refine ⟨fits.ok.resize cols,fun full => ?_⟩
    rw [length] at full ⊢
    rw [cells _ (by unfold u16Max at full; omega)]
    split_ifs with wider completed last
    · rfl
    · rw [cellAt_outside (by omega)]
      rfl
    · rfl
    · by_contra wide
      exact last ⟨by unfold u16Max at full; omega,by simpa using wide⟩

/-! ## Writers -/

variable {start goal : Pos} {brush : Brush} {ctx : RowCtx}

theorem moveTo_writes (pos : Pos) (row : pos.row < u16Max) (col : pos.col < u16Max) : Writes (fun _ => True) (writeMoveTo pos) := by
  unfold writeMoveTo
  split_ifs
  · exact writes_tell _
  · refine (writes_tell _).bind fun _ _ => ?_
    refine (writes_lift (add16_ok row)).bind fun below _ => ?_
    refine (writes_tell _).bind fun _ _ => (writes_tell _).bind fun _ _ => ?_
    refine (writes_lift (add16_ok col)).bind fun right _ => ?_
    exact (writes_tell _).bind fun _ _ => writes_tell _

theorem count_writes (n : Nat) (action : String) : Writes (fun _ => True) (writeCount n action) := by
  unfold writeCount
  split
  · exact writes_pure trivial
  · exact writes_tell _
  · exact writes_tell _

/-- The move needs no column of the place it starts from, and none at all where it stays. -/
theorem moveFromTo_writes (startRow : start.row < u16Max) (goalRow : goal.row < u16Max)
    (goalCol : goal ≠ start → goal.col < u16Max) : Writes (fun _ => True) (writeMoveFromTo start goal) := by
  unfold writeMoveFromTo
  refine (writes_lift (add16_ok startRow)).bind fun below _ => ?_
  split_ifs with newline right moves
  · exact writes_tell _
  · exact count_writes _ _
  · exact moveTo_writes goal goalRow (goalCol moves)
  · exact writes_pure trivial

theorem attrsDiff_writes (target prev : Attrs) : Writes (fun _ => True) (writeAttrsDiff target prev) := by
  unfold writeAttrsDiff
  split_ifs
  · exact writes_pure trivial
  · exact writes_tell _
  · exact writes_tell _

theorem setAttrs_writes (brush : Brush) (attrs : Attrs) : Writes (fun b => b.prevPos = brush.prevPos) (brush.setAttrs attrs) := by
  unfold Brush.setAttrs
  dsimp only
  split_ifs
  · exact (attrsDiff_writes _ _).bind fun _ _ => writes_pure rfl
  · exact writes_pure rfl

theorem mouseNumber_writes (number prev : Nat) : Writes (fun _ => True) (writeMouseNumber number prev) := by
  unfold writeMouseNumber
  split_ifs
  · exact writes_pure trivial
  · exact writes_tell _
  · exact writes_tell _

/-! ## Rows -/

/-- A brush in a row that has a row below it in `u16`. -/
def Brush.Counted (brush : Brush) : Prop := brush.prevPos.row < u16Max

/-- The row being painted is as wide as the screen, and `u16` counts what is behind it. -/
structure RowCtx.Counted (ctx : RowCtx) : Prop where
  row : ctx.row < u16Max
  cells : RowFits ctx.cells
  some : 0 < ctx.cells.length
  width : ctx.cells.length ≤ u16Max

theorem flushEraseRun_writes (counted : brush.Counted) {row : Nat} (rowFits : row < u16Max) {erase : Option (Nat × Attrs)}
    {endCol : Option Nat} (startFits : ∀ run ∈ erase, run.1 < u16Max) (order : ∀ run ∈ erase, ∀ stop ∈ endCol, run.1 ≤ stop) :
    Writes Brush.Counted (flushEraseRun erase row endCol brush) := by
  unfold flushEraseRun
  cases erase with
  | none => exact writes_pure counted
  | some run =>
    refine (moveFromTo_writes counted rowFits fun _ => startFits run rfl).bind fun _ _ => ?_
    refine (setAttrs_writes _ _).bind fun set same => ?_
    have placed : set.Counted := by
      unfold Brush.Counted
      rw [same]
      exact rowFits
    cases endCol with
    | none => exact (writes_tell _).bind fun _ _ => writes_pure placed
    | some stop =>
      refine (writes_lift (sub_ok (order run rfl stop rfl))).bind fun n _ => ?_
      exact (count_writes n "X").bind fun _ _ => writes_pure placed

theorem zwjJoinHazard_ok {row : Row} {col : Nat} (inside : col < row.length) : ∃ hazard, zwjJoinHazard row col = .ok hazard := by
  unfold zwjJoinHazard
  split_ifs with first
  · exact ⟨false,rfl⟩
  · simp only [at?_cellAt (show col - 1 < row.length by omega),ok_bind]
    split_ifs with second
    · simp only [at?_cellAt (show col - 2 < row.length by omega),ok_bind]
      exact ⟨_,rfl⟩
    · exact ⟨_,rfl⟩

theorem naturalWrap_ok (ctx : RowCtx) (pos : Pos) {prevPos : Pos} (row : prevPos.row < u16Max) :
    ∃ wraps, naturalWrap ctx pos prevPos = .ok wraps := by
  unfold naturalWrap
  split_ifs
  · rw [add16_ok row]
    exact ⟨_,rfl⟩
  · exact ⟨_,rfl⟩

theorem contentMove_writes (counted : ctx.Counted) {prevPos : Pos} (prevRow : prevPos.row < u16Max) {col : Nat}
    (inside : col < ctx.cells.length) : Writes (fun _ => True) (writeContentMove ctx ⟨ctx.row,col⟩ prevPos) := by
  have colFits : col < u16Max := Nat.lt_of_lt_of_le inside counted.width
  unfold writeContentMove
  split_ifs with moves
  · obtain ⟨wraps,found⟩ := naturalWrap_ok ctx ⟨ctx.row,col⟩ prevRow
    refine (writes_lift found).bind fun wraps _ => ?_
    split_ifs
    · exact writes_pure trivial
    · exact moveTo_writes ⟨ctx.row,col⟩ counted.row colFits
    · exact moveFromTo_writes prevRow counted.row fun _ => colFits
  · obtain ⟨hazard,found⟩ := zwjJoinHazard_ok inside
    refine (writes_lift found).bind fun hazard _ => ?_
    split_ifs
    · exact moveTo_writes ⟨ctx.row,col⟩ counted.row colFits
    · exact writes_pure trivial

theorem contents_writes (counted : ctx.Counted) (placed : brush.Counted) {col : Nat} (inside : col < ctx.cells.length) :
    Writes Brush.Counted (paintContents ctx brush col (cellAt ctx.cells col)) := by
  have width := counted.width
  unfold paintContents
  refine (contentMove_writes counted placed inside).bind fun _ _ => ?_
  refine (setAttrs_writes _ _).bind fun _ _ => (writes_tell _).bind fun _ _ => ?_
  refine (writes_lift (add16_ok (show col + 1 ≤ u16Max by omega))).bind fun _ same => ?_
  subst same
  -- the column behind a wide glyph is the one that may not be a `u16`
  have behind : col + 1 + (if (cellAt ctx.cells col).isWide then 1 else 0) ≤ u16Max := by
    split_ifs with wide
    · exact counted.cells.wide width inside wide
    · omega
  exact (writes_lift (add16_ok behind)).bind fun _ _ => writes_pure counted.row

/-- The variables of the loop after so many columns. -/
def Painter.Counted (col : Nat) (p : Painter) : Prop := p.brush.Counted ∧ ∀ run ∈ p.erase, run.1 < col

theorem paintCell_writes (counted : ctx.Counted) (narrows : Cell → Bool) {col : Nat} (inside : col < ctx.cells.length)
    (prevCell : Cell) (p : Painter) (known : p.Counted col) :
    Writes (Painter.Counted (col + 1)) (paintCell ctx narrows p ((cellAt ctx.cells col,prevCell),col)) := by
  obtain ⟨placed,before⟩ := known
  have width := counted.width
  unfold paintCell
  dsimp only
  by_cases second : p.prevWasWide = true
  · rw [if_pos second]
    exact writes_pure ⟨placed,fun run left => Nat.lt_succ_of_lt (before run left)⟩
  rw [if_neg second]
  -- the rest of the turn, with the run flushed or not
  have rest (brush : Brush) (placed : brush.Counted) (erase : Option (Nat × Attrs)) (before : ∀ run ∈ erase, run.1 < col) :
      Writes (Painter.Counted (col + 1)) (if p.repaintNext = true ∨ cellAt ctx.cells col ≠ prevCell then
        if (cellAt ctx.cells col).hasContents = true then do
          let brush ← paintContents ctx brush col (cellAt ctx.cells col)
          pure { brush := brush, erase := erase, prevWasWide := (cellAt ctx.cells col).isWide,
                 repaintNext := narrows (cellAt ctx.cells col) }
        else pure { brush := brush, erase := erase.or (some (col,(cellAt ctx.cells col).attrs)),
                    prevWasWide := (cellAt ctx.cells col).isWide }
      else pure { brush := brush, erase := erase, prevWasWide := (cellAt ctx.cells col).isWide } : Out Painter) := by
    have later : ∀ run ∈ erase, run.1 < col + 1 := fun run left => Nat.lt_succ_of_lt (before run left)
    split_ifs
    · exact (contents_writes counted placed inside).bind fun _ painted => writes_pure ⟨painted,later⟩
    · refine writes_pure ⟨placed,fun run left => ?_⟩
      cases erase with
      | none => cases left; exact Nat.lt_succ_self col
      | some run' => exact later run left
    · exact writes_pure ⟨placed,later⟩
  by_cases flush : p.erase.any (fun run => (cellAt ctx.cells col).hasContents || decide ((cellAt ctx.cells col).attrs ≠ run.2)) = true
  · simp only [flush,if_true]
    have startFits : ∀ run ∈ p.erase, run.1 < u16Max := fun run left => by have := before run left; omega
    refine (flushEraseRun_writes placed counted.row startFits fun run left stop same => ?_).bind fun brush placed => ?_
    · cases same
      exact Nat.le_of_lt (before run left)
    · exact rest brush placed none fun _ left => nomatch left
  · simp only [flush,Bool.false_eq_true,if_false]
    exact (writes_pure placed).bind fun brush placed => rest brush placed p.erase before

theorem paintCells_writes (counted : ctx.Counted) (narrows : Cell → Bool) (prevCells : Row) (repaintFirst : Bool)
    (placed : brush.Counted) : Writes Brush.Counted (paintCells ctx narrows prevCells repaintFirst brush) := by
  have width := counted.width
  have loop : Writes (Painter.Counted (ctx.cells.zip prevCells).zipIdx.length)
      ((ctx.cells.zip prevCells).zipIdx.foldlM (paintCell ctx narrows) { brush := brush, repaintNext := repaintFirst }) := by
    refine writes_foldlM (fun i inside p known => ?_) ⟨placed,fun _ left => nomatch left⟩
    simp only [List.length_zipIdx,List.length_zip] at inside
    have bound : i < ctx.cells.length := by omega
    rw [List.getElem_zipIdx,List.getElem_zip,Nat.zero_add,← cellAt_inside bound]
    exact paintCell_writes counted narrows bound _ p known
  refine loop.bind fun p painted => flushEraseRun_writes painted.1 counted.row (fun run left => ?_) fun _ _ _ stop => nomatch stop
  have before := painted.2 run left
  simp only [List.length_zipIdx,List.length_zip] at before
  omega

theorem wrapWithSpace_writes {row : Nat} (rowFits : row < u16Max) (attrs : Attrs) (brush : Brush) :
    Writes Brush.Counted (wrapWithSpace row attrs brush) := by
  refine (setAttrs_writes brush attrs).bind fun _ _ => (writes_tell _).bind fun _ _ => ?_
  exact (count_writes 1 "X").bind fun _ _ => writes_pure rowFits

theorem rowFormatted_writes (counted : ctx.Counted) (placed : brush.Counted) :
    Writes Brush.Counted (writeRowFormatted ctx brush) := by
  have painted (brush : Brush) (placed : brush.Counted) := paintCells_writes counted (fun _ => false)
    (List.replicate ctx.cells.length default) false placed
  refine (writes_lift (at?_cellAt counted.some)).bind fun firstCell _ => ?_
  dsimp only
  split_ifs
  · refine (writes_lift (add16_ok placed)).bind fun below _ => ?_
    split_ifs
    · exact (wrapWithSpace_writes counted.row _ _).bind painted
    · refine (moveTo_writes ⟨ctx.row,0⟩ counted.row (show 0 < u16Max by decide)).bind fun _ _ => ?_
      have placed : Brush.Counted ⟨⟨ctx.row,0⟩,brush.prevAttrs⟩ := counted.row
      exact (writes_pure placed).bind painted
  · exact (writes_pure placed).bind painted

theorem wrapRedraw_ok (some : 0 < ctx.cells.length) {prevCells : Row} (prevSome : 0 < prevCells.length) (prevWrapping : Bool)
    {prevPos : Pos} (row : prevPos.row < u16Max) : ∃ redraw, wrapRedraw ctx prevCells prevWrapping prevPos = .ok redraw := by
  unfold wrapRedraw
  simp only [at?_cellAt some,at?_cellAt prevSome,add16_ok (show prevPos.row + 1 ≤ u16Max from row),ok_bind,pure_ok]
  split_ifs
  all_goals exact ⟨_,rfl⟩

theorem rowDiff_writes [UnicodeWidth] (counted : ctx.Counted) {prevCells : Row} (prevSome : 0 < prevCells.length)
    (prevWrapping : Bool) (placed : brush.Counted) : Writes Brush.Counted (writeRowDiff ctx prevCells prevWrapping brush) := by
  refine (writes_lift (at?_cellAt counted.some)).bind fun firstCell _ => ?_
  obtain ⟨redraw,found⟩ := wrapRedraw_ok counted.some prevSome prevWrapping placed
  refine (writes_lift found).bind fun redraw _ => ?_
  dsimp only
  split_ifs
  · exact (wrapWithSpace_writes counted.row _ _).bind fun _ placed => paintCells_writes counted _ _ _ placed
  · exact (writes_pure placed).bind fun _ placed => paintCells_writes counted _ _ _ placed

theorem cursorPosition_writes (screen : RowStore) {cursor prevPos : Pos} {cols : Nat} (hasCols : 0 < cols) (colsFit : cols ≤ u16Max)
    (row : cursor.row < u16Max) (prevRow : prevPos.row < u16Max) (prevAttrs : Option Attrs) :
    Writes (fun _ => True) (writeCursorPositionFormatted screen cursor cols (some prevPos) prevAttrs) := by
  unfold writeCursorPositionFormatted
  dsimp only
  by_cases parked : some prevPos ≠ some cursor ∧ cursor.col ≥ cols
  -- the phantom column is reached from the last cell, or from the lead before it
  · rw [if_pos parked]
    split
    · refine Writes.bind (moveTo_writes _ ?_ ?_) fun _ _ => (attrsDiff_writes _ _).bind fun _ _ => ?_
      · exact row
      · dsimp only
        split <;> omega
      · exact (writes_tell _).bind fun _ _ => attrsDiff_writes _ _
    · refine (moveTo_writes ⟨cursor.row,cols - 1⟩ row (show cols - 1 < u16Max by omega)).bind fun _ _ => ?_
      refine (writes_tell _).bind fun _ _ => (attrsDiff_writes _ _).bind fun _ _ => (writes_tell _).bind fun _ _ => ?_
      refine (writes_tell _).bind fun _ _ => (count_writes 1 "X").bind fun _ _ => ?_
      exact (writes_tell _).bind fun _ _ => attrsDiff_writes _ _
    · exact writes_pure trivial
  · rw [if_neg parked]
    refine moveFromTo_writes prevRow row fun moves => ?_
    by_contra past
    exact parked ⟨by rw [ne_eq,Option.some.injEq]; exact Ne.symm moves,by omega⟩

/-! ## Grids -/

namespace Grid
variable {g prev : Grid}

theorem Shaped.rowCtx_counted (shaped : g.Shaped RowFits) {i : Nat} (inside : i < g.rows) (wrapping : Bool) :
    ∃ cells, at? g.activeGrid.rows i = .ok cells ∧ (g.rowCtx i cells wrapping).Counted := by
  obtain ⟨cells,read,_,width,fits⟩ := shaped.active.get inside
  refine ⟨cells,read,Nat.lt_of_lt_of_le inside shaped.rowsFit,fits,?_,?_⟩
  · exact width.symm ▸ shaped.hasCols
  · exact width.symm ▸ shaped.colsFit

theorem Shaped.cursorAndPen_writes (shaped : g.Shaped RowFits) {brush : Brush} (placed : brush.Counted) :
    Writes (fun _ => True) (g.writeCursorAndPen brush) := by
  have row : g.cursorRow < u16Max := Nat.lt_of_lt_of_le shaped.cursorRow shaped.rowsFit
  refine (cursorPosition_writes g.activeGrid shaped.hasCols shaped.colsFit row placed _).bind fun _ _ => ?_
  exact attrsDiff_writes _ _

theorem Shaped.fullPaint_writes (shaped : g.Shaped RowFits) : Writes (fun _ => True) g.writeContentsFullPaint := by
  refine (writes_tell _).bind fun _ _ => (writes_tell _).bind fun _ _ => ?_
  refine Writes.bind (writes_foldlM (I := fun _ (painted : Brush × Bool) => painted.1.Counted) (fun i inside painted placed => ?_) ?_)
    fun painted placed => shaped.cursorAndPen_writes placed
  case refine_2 => exact show 0 < u16Max by decide
  rw [List.length_range] at inside
  have bound : i < g.rows := by omega
  obtain ⟨cells,read,counted⟩ := shaped.rowCtx_counted bound painted.2
  rw [List.getElem_range]
  refine (writes_lift read).bind fun _ same => ?_
  subst same
  refine (rowFormatted_writes counted placed).bind fun brush placed => ?_
  exact (writes_lift (add16_ok counted.row)).bind fun _ _ => writes_pure placed

theorem Shaped.contentsFormatted_writes (shaped : g.Shaped RowFits) : Writes (fun _ => True) g.writeContentsFormatted := by
  refine (writes_tell _).bind fun _ _ => (writes_tell _).bind fun _ _ => shaped.fullPaint_writes.bind fun _ _ => ?_
  split_ifs
  · exact writes_tell _
  · exact writes_pure trivial

theorem inputModeFormatted_writes (g : Grid) : Writes (fun _ => True) g.writeInputModeFormatted := by
  refine (writes_tell _).bind fun _ _ => (writes_tell _).bind fun _ _ => (writes_tell _).bind fun _ _ => ?_
  refine (writes_tell _).bind fun _ _ => (mouseNumber_writes _ _).bind fun _ _ => (mouseNumber_writes _ _).bind fun _ _ => ?_
  exact writes_when (writes_tell _) ((writes_tell _).bind fun _ _ => writes_tell _)

/-- The bytes that repaint a grid in shape are written whatever it shows. -/
theorem Shaped.stateFormatted_ok (shaped : g.Shaped RowFits) : ∃ bytes, g.stateFormatted = .ok bytes := by
  obtain ⟨_,bytes,ran,_⟩ := g.inputModeFormatted_writes.bind fun _ _ => shaped.contentsFormatted_writes
  exact ⟨bytes,by rw [stateFormatted]; exact congrArg (Prod.snd <$> ·) ran⟩

section
variable [UnicodeWidth]

theorem Shaped.contentsDiff_writes (shaped : g.Shaped RowFits) (prevShaped : prev.Shaped RowFits) :
    Writes (fun _ => True) (g.writeContentsDiff prev) := by
  have autowrap : Writes (fun _ => True) (if g.autowrap = false then writeAutowrap false else pure ()) := by
    split_ifs
    · exact writes_tell _
    · exact writes_pure trivial
  refine (writes_tell _).bind fun _ _ => writes_when (writes_tell _) ?_
  dsimp only
  by_cases redraws : (g.rows,g.cols) ≠ (prev.rows,prev.cols) ∨ g.modeFlags.altScreen ≠ prev.modeFlags.altScreen
  · rw [if_pos redraws]
    exact shaped.fullPaint_writes.bind fun _ _ => autowrap
  rw [if_neg redraws]
  -- a diff is between screens of one size
  obtain ⟨sameRows,sameCols⟩ : g.rows = prev.rows ∧ g.cols = prev.cols := by
    simpa using (not_or.mp redraws).1
  refine Writes.bind (writes_foldlM (I := fun _ (painted : Brush × Bool × Bool) => painted.1.Counted)
    (fun i inside painted placed => ?_) ?_) fun painted placed => (shaped.cursorAndPen_writes placed).bind fun _ _ => autowrap
  case refine_2 => exact Nat.lt_of_lt_of_le prevShaped.cursorRow prevShaped.rowsFit
  rw [List.length_range] at inside
  have bound : i < g.rows := by omega
  obtain ⟨cells,read,counted⟩ := shaped.rowCtx_counted bound painted.2.1
  obtain ⟨prevCells,prevRead,_,prevWidth,_⟩ := prevShaped.active.get (sameRows ▸ bound)
  rw [List.getElem_range]
  refine (writes_lift read).bind fun _ same => (writes_lift prevRead).bind fun _ prevSame => ?_
  subst same prevSame
  refine (rowDiff_writes counted (prevWidth.symm ▸ prevShaped.hasCols) painted.2.2 placed).bind fun brush placed => ?_
  exact (writes_lift (add16_ok counted.row)).bind fun _ _ => writes_pure placed

omit [UnicodeWidth] in
theorem inputModeDiff_writes (g prev : Grid) : Writes (fun _ => True) (g.writeInputModeDiff prev) := by
  unfold writeInputModeDiff
  dsimp only
  refine writes_when (writes_tell _) ?_
  refine writes_when (writes_tell _) ?_
  refine writes_when (writes_tell _) ?_
  refine writes_when (writes_tell _) ?_
  refine (mouseNumber_writes _ _).bind fun _ _ => (mouseNumber_writes _ _).bind fun _ _ => ?_
  refine writes_when (writes_tell _) ?_
  refine writes_when (writes_tell _) ?_
  split_ifs
  · exact writes_tell _
  · exact writes_pure trivial

/-- The bytes that turn a grid in shape into another are written whatever the two show. -/
theorem Shaped.stateDiff_ok (shaped : g.Shaped RowFits) (prevShaped : prev.Shaped RowFits) :
    ∃ bytes, g.stateDiff prev = .ok bytes := by
  obtain ⟨_,bytes,ran,_⟩ := (g.inputModeDiff_writes prev).bind fun _ _ => shaped.contentsDiff_writes prevShaped
  exact ⟨bytes,by rw [stateDiff]; exact congrArg (Prod.snd <$> ·) ran⟩

end

end Grid

end Termpane
