import Termpane.Perform
import Termpane.RowLaw
import Mathlib.Data.List.InsertIdx

/-!
# The shape of the grid

What holds of the grid between any two callbacks: both screens have the grid's
dimensions, the cursor is on the screen or parked past its right margin with the
wrap pending, margins and scrollback are in bounds. It is proved together with
any property of rows that the row edits keep.
-/
namespace Termpane

open Lib

/-- A screen of the given dimensions, every row with a property. -/
structure RowStore.Shaped (P : Row → Prop) (rows cols : Nat) (s : RowStore) : Prop where
  rowCount : s.rows.length = rows
  wrapCount : s.wraps.length = rows
  width : ∀ row ∈ s.rows, row.length = cols
  all : ∀ row ∈ s.rows, P row

namespace RowStore

variable {P : Row → Prop} {rows cols : Nat} {s : RowStore}

theorem Shaped.get (shaped : s.Shaped P rows cols) {i : Nat} (inside : i < rows) :
    ∃ row, at? s.rows i = .ok row ∧ row ∈ s.rows ∧ row.length = cols ∧ P row := by
  have bound : i < s.rows.length := by rw [shaped.rowCount]; exact inside
  have member : s.rows[i] ∈ s.rows := List.getElem_mem bound
  refine ⟨s.rows[i],?_,member,shaped.width _ member,shaped.all _ member⟩
  simp [at?,List.getElem?_eq_getElem bound]

theorem Shaped.mono {Q : Row → Prop} (shaped : s.Shaped P rows cols) (imp : ∀ row, P row → Q row) : s.Shaped Q rows cols :=
  { shaped with all := fun row inside => imp row (shaped.all row inside) }

theorem shaped_blank (blank : P (blankRow cols)) : (RowStore.blank rows cols).Shaped P rows cols where
  rowCount := List.length_replicate
  wrapCount := List.length_replicate
  width row inside := by rw [List.eq_of_mem_replicate inside]; exact List.length_replicate
  all row inside := by rw [List.eq_of_mem_replicate inside]; exact blank

/-- Rows put in place of others. -/
theorem Shaped.of_rows (shaped : s.Shaped P rows cols) {rows' : List Row} (length : rows'.length = s.rows.length)
    (each : ∀ row ∈ rows', row.length = cols ∧ P row) : ({ s with rows := rows' } : RowStore).Shaped P rows cols where
  rowCount := length.trans shaped.rowCount
  wrapCount := shaped.wrapCount
  width row inside := (each row inside).1
  all row inside := (each row inside).2

theorem Shaped.modifyRow (shaped : s.Shaped P rows cols) {i : Nat} (inside : i < rows) {f : Row → Checked Row}
    (edits : ∀ row, at? s.rows i = .ok row → P row → row.length = cols → Edits P row (f row)) :
    ∃ t, s.modifyRow i f = .ok t ∧ t.Shaped P rows cols := by
  obtain ⟨row,read,_,length,holds⟩ := shaped.get inside
  obtain ⟨edited,editedEq,length',holds'⟩ := edits row read holds length
  refine ⟨{ s with rows := s.rows.set i edited },by simp [RowStore.modifyRow,read,editedEq],
    shaped.of_rows (by simp) fun other member => ?_⟩
  rcases List.mem_or_eq_of_mem_set member with old | rfl
  · exact ⟨shaped.width _ old,shaped.all _ old⟩
  · exact ⟨length'.trans length,holds'⟩

theorem Shaped.fillRows (shaped : s.Shaped P rows cols) (start stop : Nat) {blank : Row} (length : blank.length = cols)
    (holds : P blank) : (s.fillRows start stop blank).Shaped P rows cols := by
  refine shaped.of_rows (by simp) fun row member => ?_
  obtain ⟨i,bound,rfl⟩ := List.mem_mapIdx.mp member
  split
  · exact ⟨length,holds⟩
  · exact ⟨shaped.width _ (List.getElem_mem _),shaped.all _ (List.getElem_mem _)⟩

theorem Shaped.setWrap (shaped : s.Shaped P rows cols) (i : Nat) (wrap : RowWrap) :
    (s.setWrap i wrap).Shaped P rows cols :=
  { shaped with wrapCount := by simp [RowStore.setWrap,shaped.wrapCount] }

/-- A row taken out and another put in. -/
theorem Shaped.replace (shaped : s.Shaped P rows cols) {i k : Nat} (inside : i < rows) {row : Row}
    (length : row.length = cols) (holds : P row) (wrap : RowWrap) :
    ∃ t, (s.removeWithWrap i).2.insertWithWrap k row wrap = .ok t ∧ t.Shaped P rows cols := by
  have rowsBound : i < s.rows.length := by rw [shaped.rowCount]; exact inside
  have found : s.rows[i]? = some s.rows[i] := List.getElem?_eq_getElem rowsBound
  have wrapsBound : i < s.wraps.length := by rw [shaped.wrapCount]; exact inside
  have kept : (s.rows.eraseIdx i).length = rows - 1 := by rw [List.length_eraseIdx_of_lt rowsBound,shaped.rowCount]
  have keptWraps : (s.wraps.eraseIdx i).length = rows - 1 := by rw [List.length_eraseIdx_of_lt wrapsBound,shaped.wrapCount]
  have place : min k (s.rows.eraseIdx i).length ≤ rows - 1 := by omega
  have fitsWraps : min k (s.rows.eraseIdx i).length ≤ (s.wraps.eraseIdx i).length := by omega
  simp only [removeWithWrap,found,insertWithWrap,if_pos fitsWraps]
  have each (other : Row) (member : other ∈ (s.rows.eraseIdx i).insertIdx (min k (s.rows.eraseIdx i).length) row) :
      other.length = cols ∧ P other := by
    rcases List.eq_or_mem_of_mem_insertIdx member with rfl | old
    · exact ⟨length,holds⟩
    · have inRows := List.mem_of_mem_eraseIdx old
      exact ⟨shaped.width _ inRows,shaped.all _ inRows⟩
  refine ⟨_,rfl,⟨?_,?_,fun other member => (each other member).1,fun other member => (each other member).2⟩⟩
  · rw [List.length_insertIdx_of_le_length (by omega)]; omega
  · rw [List.length_insertIdx_of_le_length fitsWraps]; omega

theorem Shaped.resize (shaped : s.Shaped P rows cols) {targetRows targetCols : Nat} (blank : P (blankRow targetCols))
    (resized : ∀ row, P row → P (resizeRow targetCols row)) : (s.resize targetRows targetCols).Shaped P targetRows targetCols := by
  have refits : ∀ row ∈ s.rows, (refitted cols targetCols row).length = targetCols ∧ P (refitted cols targetCols row) := by
    intro row inside
    unfold refitted
    split_ifs with same
    · exact ⟨(shaped.width row inside).trans same,shaped.all row inside⟩
    · exact ⟨(resizeRow_cellAt row targetCols).1,resized row (shaped.all row inside)⟩
  have each : ∀ row ∈ (s.resize targetRows targetCols).rows, row.length = targetCols ∧ P row := by
    intro row inside
    rw [resize_eq shaped.width (by rw [shaped.wrapCount,shaped.rowCount])] at inside
    rcases List.mem_append.mp inside with kept | added
    · obtain ⟨old,member,rfl⟩ := List.mem_map.mp (List.mem_of_mem_take kept)
      exact refits old member
    · rw [List.eq_of_mem_replicate added]
      exact ⟨List.length_replicate,blank⟩
  refine ⟨?_,?_,fun row inside => (each row inside).1,fun row inside => (each row inside).2⟩
  · rw [resize_eq shaped.width (by rw [shaped.wrapCount,shaped.rowCount])]
    simp
    omega
  · rw [resize_eq shaped.width (by rw [shaped.wrapCount,shaped.rowCount])]
    simp [shaped.rowCount,shaped.wrapCount]
    omega

end RowStore

/-- What holds of the grid between two callbacks. -/
structure Grid.Shaped (P : Row → Prop) (g : Grid) : Prop where
  primary : g.primary.Shaped P g.rows g.cols
  alternate : g.alternate.Shaped P g.rows g.cols
  rowsFit : g.rows ≤ u16Max
  colsFit : g.cols ≤ u16Max
  hasCols : 0 < g.cols
  cursorRow : g.cursorRow < g.rows
  cursorCol : g.cursorCol ≤ g.cols
  parked : g.cursorCol = g.cols ↔ g.modeFlags.pendingWrap = true
  margins : g.scrollTop ≤ g.scrollBottom
  bottom : g.scrollBottom < g.rows
  historyWraps : g.scrollback.wraps.length = g.scrollback.rows.length
  historyLimit : g.scrollback.rows.length ≤ g.scrollbackLimit
  offset : g.scrollbackOffset ≤ g.scrollback.rows.length
  history : ∀ row ∈ g.scrollback.rows, P row
  profile : g.profile = {}
  keyboard : ∀ flags ∈ g.kittyKbStack, 0 < flags

/-- A handler that keeps the shape, unless a sum leaves `u16`. -/
def Keeps (P : Row → Prop) (handler : Checked Grid) : Prop := Ends (Grid.Shaped P) (· = .overflow) handler

@[simp] theorem keeps_ok {P : Row → Prop} {g : Grid} : Keeps P (.ok g) ↔ g.Shaped P := Iff.rfl

namespace Grid

/-! ## Screens -/

@[simp] theorem setActiveGrid_rows (g : Grid) (s : RowStore) : (g.setActiveGrid s).rows = g.rows := rfl
@[simp] theorem setActiveGrid_cols (g : Grid) (s : RowStore) : (g.setActiveGrid s).cols = g.cols := rfl
@[simp] theorem setActiveGrid_cursorRow (g : Grid) (s : RowStore) : (g.setActiveGrid s).cursorRow = g.cursorRow := rfl
@[simp] theorem setActiveGrid_cursorCol (g : Grid) (s : RowStore) : (g.setActiveGrid s).cursorCol = g.cursorCol := rfl
@[simp] theorem setActiveGrid_modeFlags (g : Grid) (s : RowStore) : (g.setActiveGrid s).modeFlags = g.modeFlags := rfl
@[simp] theorem setActiveGrid_dirty (g : Grid) (s : RowStore) : (g.setActiveGrid s).dirty = g.dirty := rfl

@[simp] theorem activeGrid_setActiveGrid (g : Grid) (s : RowStore) : (g.setActiveGrid s).activeGrid = s := by
  unfold activeGrid setActiveGrid
  cases g.modeFlags.altScreen <;> rfl

variable {P : Row → Prop} {g : Grid}

theorem Shaped.mono {Q : Row → Prop} (shaped : g.Shaped P) (imp : ∀ row, P row → Q row) : g.Shaped Q :=
  { shaped with
    primary := shaped.primary.mono imp
    alternate := shaped.alternate.mono imp
    history := fun row inside => imp row (shaped.history row inside) }

theorem Shaped.active (shaped : g.Shaped P) : g.activeGrid.Shaped P g.rows g.cols := by
  unfold activeGrid
  split
  · exact shaped.alternate
  · exact shaped.primary

theorem Shaped.setActive (shaped : g.Shaped P) {s : RowStore} (ok : s.Shaped P g.rows g.cols) :
    (g.setActiveGrid s).Shaped P := by
  refine { shaped with primary := ?_, alternate := ?_ }
  all_goals
    unfold setActiveGrid
    cases g.modeFlags.altScreen
  · exact ok
  · exact shaped.primary
  · exact shaped.alternate
  · exact ok

theorem Shaped.modifyActiveRow (shaped : g.Shaped P) {row : Nat} (inside : row < g.rows) {f : Row → Checked Row}
    (edits : ∀ cells, at? g.activeGrid.rows row = .ok cells → P cells → cells.length = g.cols → Edits P cells (f cells)) :
    ∃ s, g.modifyActiveRow row f = .ok (g.setActiveGrid s) ∧ (g.setActiveGrid s).Shaped P := by
  obtain ⟨s,modified,ok⟩ := shaped.active.modifyRow inside edits
  exact ⟨s,by simp [Grid.modifyActiveRow,modified],shaped.setActive ok⟩

/-! ## Scrolling -/

theorem Shaped.pushScrollbackRow (shaped : g.Shaped P) (some : 0 < g.scrollbackLimit) {row : Row} (holds : P row)
    (wrap : RowWrap) : (g.pushScrollbackRow row wrap).Shaped P := by
  have limit := shaped.historyLimit
  have wraps := shaped.historyWraps
  have offset := shaped.offset
  by_cases full : g.scrollback.rows.length ≥ g.scrollbackLimit
  · have nonempty : g.scrollback.rows.isEmpty = false := by
      cases rows : g.scrollback.rows with
      | nil => rw [rows] at full; simp at full; omega
      | cons row rows => rfl
    have pushed : g.pushScrollbackRow row wrap = { g with
        scrollback := ⟨g.scrollback.rows.tail ++ [row],g.scrollback.wraps.tail ++ [wrap]⟩ } := by
      simp [Grid.pushScrollbackRow,RowStore.len,full,RowStore.recycleFront,nonempty,RowStore.pushBackWithWrap]
    rw [pushed]
    refine { shaped with historyWraps := ?_, historyLimit := ?_, offset := ?_, history := ?_ }
    · simp [wraps]
    · simp; omega
    · simp; omega
    · intro other inside
      rcases List.mem_append.mp inside with old | new
      · exact shaped.history other (List.mem_of_mem_tail old)
      · rw [List.mem_singleton.mp new]; exact holds
  · have pushed : g.pushScrollbackRow row wrap = { g with
        scrollback := ⟨g.scrollback.rows ++ [row],g.scrollback.wraps ++ [wrap]⟩ } := by
      simp [Grid.pushScrollbackRow,RowStore.len,full,RowStore.pushBackWithWrap]
    rw [pushed]
    refine { shaped with historyWraps := ?_, historyLimit := ?_, offset := ?_, history := ?_ }
    · simp [wraps]
    · simp; omega
    · simp; omega
    · intro other inside
      rcases List.mem_append.mp inside with old | new
      · exact shaped.history other old
      · rw [List.mem_singleton.mp new]; exact holds

theorem repeatBody_ends {Inv : Grid → Prop} {body : Grid → Checked Grid} {Allowed : Panic → Prop}
    (turn : ∀ g, Inv g → Ends Inv Allowed (body g)) (n : Nat) (g : Grid) (holds : Inv g) :
    Ends Inv Allowed (repeatBody body n g) := by
  induction n generalizing g with
  | zero => exact holds
  | succ n ih => exact (turn g holds).bind ih

theorem Shaped.regionHeight (shaped : g.Shaped P) {top : Nat} (order : top ≤ g.scrollBottom) :
    g.regionHeight top = .ok (g.scrollBottom - top + 1) := by
  have bottom := shaped.bottom
  have fits := shaped.rowsFit
  simp only [Grid.regionHeight,sub_ok order,ok_bind]
  exact add16_ok (by omega)

@[simp] theorem setActiveGrid_setActiveGrid (g : Grid) (s t : RowStore) :
    (g.setActiveGrid s).setActiveGrid t = g.setActiveGrid t := by
  unfold setActiveGrid
  cases g.modeFlags.altScreen <;> rfl

@[simp] theorem pushScrollbackRow_setActiveGrid (g : Grid) (s : RowStore) (row : Row) (wrap : RowWrap) :
    (g.setActiveGrid s).pushScrollbackRow row wrap = (g.pushScrollbackRow row wrap).setActiveGrid s := rfl

@[simp] theorem pushScrollbackRow_cols (g : Grid) (row : Row) (wrap : RowWrap) :
    (g.pushScrollbackRow row wrap).cols = g.cols := rfl

/-- The grid with the row a scroll evicts in its history. -/
def evict (g : Grid) (top : Nat) (row : Row) : Grid :=
  if !g.modeFlags.altScreen && decide (top = 0 ∧ g.scrollbackLimit > 0) then
    g.pushScrollbackRow row (g.activeGrid.wraps[top]?.getD .hard)
  else g

theorem scrollUpOnce_eq {top bottom : Nat} (order : top < bottom) (inside : bottom < g.activeGrid.rows.length)
    (wrap : RowWrap) : scrollUpOnce top bottom wrap g = (do
      let inserted ← (g.activeGrid.removeWithWrap top).2.insertWithWrap bottom (blankRow g.cols) wrap
      .ok ((g.evict top g.activeGrid.rows[top]).setActiveGrid inserted)) := by
  have evicted : (g.activeGrid.removeWithWrap top).1 = some (g.activeGrid.rows[top],g.activeGrid.wraps[top]?.getD .hard) := by
    simp [RowStore.removeWithWrap,show top < g.activeGrid.rows.length by omega]
  simp only [Grid.scrollUpOnce,RowStore.len,if_neg (show ¬ (bottom ≥ g.activeGrid.rows.length ∨ top ≥ bottom) by omega),
    evicted,evict]
  cases !g.modeFlags.altScreen && decide (top = 0 ∧ g.scrollbackLimit > 0) <;> simp

theorem Shaped.scrollUpOnce (shaped : g.Shaped P) (blank : ∀ cols, P (blankRow cols)) (top bottom : Nat)
    (wrap : RowWrap) : Keeps P (scrollUpOnce top bottom wrap g) := by
  have count := shaped.active.rowCount
  by_cases outside : bottom ≥ g.activeGrid.rows.length ∨ top ≥ bottom
  · simpa [Grid.scrollUpOnce,RowStore.len,outside] using shaped
  · have inside : top < g.activeGrid.rows.length := by omega
    obtain ⟨s,inserted,ok⟩ := shaped.active.replace (i := top) (k := bottom) (by omega)
      (show (blankRow g.cols).length = g.cols from List.length_replicate) (blank g.cols) wrap
    rw [scrollUpOnce_eq (by omega) (by omega),inserted,ok_bind,keeps_ok]
    unfold evict
    split_ifs with saved
    · have some : 0 < g.scrollbackLimit := by simp at saved; exact saved.2.2
      exact (shaped.pushScrollbackRow some (shaped.active.all _ (List.getElem_mem inside)) _).setActive ok
    · exact shaped.setActive ok

theorem Shaped.scrollUp (shaped : g.Shaped P) (blank : ∀ cols, P (blankRow cols)) (n : Nat) (wrap : RowWrap) :
    Keeps P (g.scrollUp n wrap) := by
  have marked : ({ g with modeFlags.mutatedSincePreserve := true } : Grid).Shaped P := { shaped with }
  simp only [Grid.scrollUp,marked.regionHeight marked.margins,ok_bind]
  have recorded : (if min n (g.scrollBottom - g.scrollTop + 1) > 0 then
      ({ g with modeFlags.mutatedSincePreserve := true,
                scrollOps := g.scrollOps ++ [.up g.scrollTop g.scrollBottom (min n (g.scrollBottom - g.scrollTop + 1))] } : Grid)
      else { g with modeFlags.mutatedSincePreserve := true }).Shaped P := by
    split
    · exact { marked with }
    · exact marked
  have scrolled : Keeps P (repeatBody (Grid.scrollUpOnce g.scrollTop g.scrollBottom wrap) _ _) :=
    repeatBody_ends (fun _ shaped => shaped.scrollUpOnce blank _ _ wrap) (min n (g.scrollBottom - g.scrollTop + 1)) _ recorded
  exact scrolled.bind fun g shaped => { shaped with }

theorem Shaped.shiftDownOnce (shaped : g.Shaped P) (blank : P (blankRow g.cols)) (row : Nat) {bottom : Nat}
    (inside : bottom < g.rows) :
    ∃ s, Grid.shiftDownOnce row bottom g = .ok (g.setActiveGrid s) ∧ (g.setActiveGrid s).Shaped P := by
  have count := shaped.active.rowCount
  obtain ⟨s,inserted,ok⟩ := shaped.active.replace (i := bottom) (k := row) inside
    (show (blankRow g.cols).length = g.cols from List.length_replicate) blank .hard
  refine ⟨s,?_,shaped.setActive ok⟩
  simp [Grid.shiftDownOnce,RowStore.len,count,inside,RowStore.insert,RowStore.remove,inserted]

theorem Shaped.deleteLineOnce (shaped : g.Shaped P) (blank : P (blankRow g.cols)) {row bottom : Nat}
    (inside : row < g.rows) (inside' : bottom < g.rows) :
    ∃ s, Grid.deleteLineOnce row bottom g = .ok (g.setActiveGrid s) ∧ (g.setActiveGrid s).Shaped P := by
  have count := shaped.active.rowCount
  obtain ⟨s,inserted,ok⟩ := shaped.active.replace (i := row) (k := bottom) inside
    (show (blankRow g.cols).length = g.cols from List.length_replicate) blank .hard
  refine ⟨s,?_,shaped.setActive ok⟩
  have bound : row < g.activeGrid.len := by rw [RowStore.len]; omega
  have left : (g.activeGrid.remove row).len = g.rows - 1 := by
    have found : g.activeGrid.rows[row]? = some g.activeGrid.rows[row] := List.getElem?_eq_getElem bound
    simp only [RowStore.remove,RowStore.removeWithWrap,found,RowStore.len]
    rw [List.length_eraseIdx_of_lt bound,count]
  rw [← RowStore.remove] at inserted
  simp only [Grid.deleteLineOnce,if_pos bound,left,if_pos (show bottom < g.rows - 1 + 1 by omega),
    RowStore.insert,inserted,ok_bind,pure_ok]

/-- A loop of line shifts inside a region of the screen. -/
theorem Shaped.repeatShift (shaped : g.Shaped P) {row bottom : Nat} (top : row < g.rows) (inside : bottom < g.rows)
    {body : Grid → Checked Grid}
    (turn : ∀ g : Grid, g.Shaped P → row < g.rows → bottom < g.rows →
      ∃ s, body g = .ok (g.setActiveGrid s) ∧ (g.setActiveGrid s).Shaped P) (n : Nat) : Keeps P (repeatBody body n g) := by
  have each (g : Grid) (holds : g.Shaped P ∧ row < g.rows ∧ bottom < g.rows) :
      Ends (fun g => g.Shaped P ∧ row < g.rows ∧ bottom < g.rows) (· = .overflow) (body g) := by
    obtain ⟨shaped,top,inside⟩ := holds
    obtain ⟨s,shifted,ok⟩ := turn g shaped top inside
    rw [shifted]
    exact ⟨ok,top,inside⟩
  exact (repeatBody_ends each n g ⟨shaped,top,inside⟩).mono fun g ends => ends.1

theorem Shaped.record (shaped : g.Shaped P) (op : ScrollOp) :
    ({ g with scrollOps := g.scrollOps ++ [op] } : Grid).Shaped P := { shaped with }

theorem Shaped.insertLines (shaped : g.Shaped P) (blank : ∀ cols, P (blankRow cols)) (p0 : Nat) :
    Keeps P (g.insertLines p0) := by
  unfold Grid.insertLines
  split_ifs with outside
  · exact shaped
  · have region : g.cursorRow ≤ g.scrollBottom := by omega
    simp only [shaped.regionHeight region,ok_bind]
    exact ((shaped.record _).repeatShift shaped.cursorRow shaped.bottom
      (fun g shaped _ inside => shaped.shiftDownOnce (blank _) _ inside) _).bind fun g shaped => { shaped with }

theorem Shaped.deleteLines (shaped : g.Shaped P) (blank : ∀ cols, P (blankRow cols)) (p0 : Nat) :
    Keeps P (g.deleteLines p0) := by
  unfold Grid.deleteLines
  split_ifs with outside
  · exact shaped
  · have region : g.cursorRow ≤ g.scrollBottom := by omega
    simp only [shaped.regionHeight region,ok_bind]
    exact ((shaped.record _).repeatShift shaped.cursorRow shaped.bottom
      (fun g shaped top inside => shaped.deleteLineOnce (blank _) top inside) _).bind fun g shaped => { shaped with }

theorem Shaped.scrollDown (shaped : g.Shaped P) (blank : ∀ cols, P (blankRow cols)) (p0 : Nat) :
    Keeps P (g.scrollDown p0) := by
  have top : g.scrollTop < g.rows := Nat.lt_of_le_of_lt shaped.margins shaped.bottom
  simp only [Grid.scrollDown,shaped.regionHeight shaped.margins,ok_bind]
  exact ((shaped.record _).repeatShift top shaped.bottom
    (fun g shaped _ inside => shaped.shiftDownOnce (blank _) _ inside) _).bind fun g shaped => { shaped with }

theorem Shaped.reverseIndex (shaped : g.Shaped P) (blank : P (blankRow g.cols)) : Keeps P g.reverseIndex := by
  unfold Grid.reverseIndex
  split_ifs with atTop
  · obtain ⟨s,shifted,ok⟩ := (shaped.record (.down g.scrollTop g.scrollBottom 1)).shiftDownOnce blank g.scrollTop shaped.bottom
    simp only [shifted,ok_bind,pure_ok,keeps_ok]
    exact { ok with }
  · have row := shaped.cursorRow
    exact { shaped with cursorRow := by simp; omega }

theorem Shaped.newlineActionWithWrap (shaped : g.Shaped P) (blank : ∀ cols, P (blankRow cols)) (wrap : RowWrap) :
    Keeps P (g.newlineActionWithWrap wrap) := by
  unfold Grid.newlineActionWithWrap
  split_ifs with atBottom
  · exact shaped.scrollUp blank 1 wrap
  · have row := shaped.cursorRow
    have moved : ({ g with cursorRow := addCursorOffset g.cursorRow 1 (g.rows - 1) } : Grid).Shaped P :=
      { shaped with cursorRow := by simp [addCursorOffset]; omega }
    exact moved.setActive (moved.active.setWrap _ wrap)

end Grid

end Termpane
