import Termpane.Print
import Termpane.Walks

/-!
# Every handler keeps the shape

One lemma a handler, and from them one an operation and one a callback. The
handlers that move the cursor rely on the pending wrap having been cancelled,
and every dispatcher that calls one cancels it first.
-/
namespace Termpane

open Lib

/-- Operations that move the cursor and leave the pending wrap to be cancelled
    before them. -/
def Op.Moves : Op → Bool
  | .carriageReturn | .tab | .cursorUp _ | .cursorDown _ | .cursorForward _ | .cursorBack _ | .nextLine _
  | .previousLine _ | .cursorColumn _ | .cursorPosition _ _ | .cursorRow _ | .setMargins _ _ => true
  | _ => false

/-- What the dispatchers grant of an operation's argument. -/
def Op.Granted (Prints : Char → Prop) : Op → Prop
  | .print ch => Prints ch
  | .deleteChars n | .eraseChars n | .kittyPush n => 0 < n
  | _ => True

namespace Grid

variable {P : Row → Prop} {g : Grid}

/-! ## Cursor and history -/

theorem Shaped.clearPendingWrap (shaped : g.Shaped P) : g.clearPendingWrap.Shaped P := by
  have cols := shaped.hasCols
  have inside := shaped.cursorCol
  refine { shaped with cursorCol := ?_, parked := ?_ }
  all_goals simp only [Grid.clearPendingWrap,Bool.false_eq_true,iff_false]
  all_goals split <;> omega

theorem Shaped.restoreAutowrap (shaped : g.Shaped P) : g.restoreAutowrap.Shaped P := by
  unfold Grid.restoreAutowrap
  split
  · exact { shaped.clearPendingWrap with }
  · exact shaped

/-- Putting the cursor on the screen, with no wrap pending. -/
theorem Shaped.moveTo (shaped : g.Shaped P) (unparked : g.modeFlags.pendingWrap = false) {row col : Nat}
    (rowInside : row < g.rows) (colInside : col < g.cols) :
    ({ g with cursorRow := row, cursorCol := col } : Grid).Shaped P :=
  { shaped with
    cursorRow := rowInside
    cursorCol := Nat.le_of_lt colInside
    parked := by simp [unparked]; omega }

theorem Shaped.unparked_lt (shaped : g.Shaped P) (unparked : g.modeFlags.pendingWrap = false) : g.cursorCol < g.cols := by
  have inside := shaped.cursorCol
  have parked := shaped.parked
  rw [unparked] at parked
  have apart : g.cursorCol ≠ g.cols := fun same => by simpa using parked.mp same
  omega

/-- A clamped cursor is on the screen. -/
theorem Shaped.clamped (shaped : g.Shaped P) (unparked : g.modeFlags.pendingWrap = false) (row col : Nat) :
    ({ g with cursorRow := row, cursorCol := col } : Grid).clampCursor.Shaped P := by
  have rows := shaped.cursorRow
  have cols := shaped.hasCols
  exact shaped.moveTo unparked (by dsimp only; omega) (by dsimp only; omega)

theorem Shaped.restoreSavedCursor (shaped : g.Shaped P) : g.restoreSavedCursor.Shaped P := by
  have rows := shaped.cursorRow
  have cols := shaped.hasCols
  rw [restoreSavedCursor_eq]
  split
  case isTrue phantom =>
    exact { shaped with cursorRow := by dsimp only; omega, cursorCol := Nat.le_refl _, parked := by simp }
  case isFalse inside =>
    exact { shaped with cursorRow := by dsimp only; omega, cursorCol := by dsimp only; omega, parked := by simp; omega }

theorem visibleBlock_subset {s : RowStore} {block : List Row} (found : visibleBlock s = some block) :
    ∀ row ∈ block, row ∈ s.rows := by
  unfold visibleBlock at found
  split at found
  · cases found
  · cases found
    intro row inside
    rw [List.mem_reverse] at inside
    exact List.mem_of_mem_drop (List.mem_reverse.mp ((List.dropWhile_suffix _).subset inside))

theorem Shaped.pushRows (shaped : g.Shaped P) (some : 0 < g.scrollbackLimit) {block : List Row}
    (all : ∀ row ∈ block, P row) : (block.foldl (fun g row => g.pushScrollbackRow row .hard) g).Shaped P := by
  induction block generalizing g with
  | nil => exact shaped
  | cons row block ih =>
    exact ih (shaped.pushScrollbackRow some (all row List.mem_cons_self) .hard) some
      fun other inside => all other (List.mem_cons_of_mem row inside)

theorem Shaped.preserveVisibleRowsToScrollback (shaped : g.Shaped P) : g.preserveVisibleRowsToScrollback.Shaped P := by
  unfold Grid.preserveVisibleRowsToScrollback
  split_ifs with skipped changed
  · exact shaped
  · exact shaped
  · split
    · exact shaped
    case h_2 block found =>
      split_ifs with same
      · exact { shaped with }
      · exact { shaped.pushRows (by omega) fun row inside => shaped.primary.all row (visibleBlock_subset found row inside) with }

/-! ## Resets and resizing -/

theorem Shaped.setAltScreen (shaped : g.Shaped P) (active : Bool) : (g.setAltScreen active).Shaped P :=
  { shaped with }

theorem Shaped.setDecMode (shaped : g.Shaped P) (mode : Nat) (enabled : Bool) : (g.setDecMode mode enabled).Shaped P := by
  unfold Grid.setDecMode
  split
  case h_9 =>
    cases enabled with
    | true => exact (Shaped.setAltScreen (g := g.saveCursor) { shaped with } true).clearPendingWrap
    | false => exact { (shaped.setAltScreen false).restoreSavedCursor with keyboard := by rintro _ ⟨⟩ }
  all_goals exact { shaped with }

theorem Shaped.softReset (shaped : g.Shaped P) : g.softReset.Shaped P := by
  have rows := shaped.cursorRow
  have margins : ({ g with currentAttrs := {}, scrollTop := 0, scrollBottom := g.rows - 1 } : Grid).Shaped P :=
    { shaped with margins := Nat.zero_le _, bottom := by simp; omega }
  exact { margins.restoreAutowrap with }

theorem Shaped.fullReset (shaped : g.Shaped P) (blank : ∀ cols, P (blankRow cols)) : g.fullReset.Shaped P := by
  have rows := shaped.cursorRow
  have cols := shaped.hasCols
  exact { shaped with
    primary := RowStore.shaped_blank (blank g.cols)
    alternate := RowStore.shaped_blank (blank g.cols)
    cursorRow := by simp [Grid.fullReset,resetModes,markAll]; omega
    cursorCol := Nat.zero_le _
    parked := by simp [Grid.fullReset,resetModes,markAll]; omega
    margins := Nat.zero_le _
    bottom := by simp [Grid.fullReset,resetModes,markAll]; omega
    offset := Nat.zero_le _ }

theorem Shaped.setMargins (shaped : g.Shaped P) (unparked : g.modeFlags.pendingWrap = false) (p0 p1 : Nat) :
    (g.setMargins p0 p1).Shaped P := by
  have rows := shaped.cursorRow
  have cols := shaped.hasCols
  have home := shaped.moveTo unparked (show 0 < g.rows by omega) (show 0 < g.cols from cols)
  have bound : (if p1 = 0 then g.rows - 1 else min (p1 - 1) (g.rows - 1)) < g.rows := by split <;> omega
  refine { home with margins := ?_, bottom := ?_ }
  all_goals
    simp only [Grid.setMargins]
    split_ifs at * <;> omega

theorem Shaped.setSize (shaped : g.Shaped P) (blank : ∀ cols, P (blankRow cols))
    (resized : ∀ row cols, P row → P (resizeRow cols row)) (rows cols : UInt16) : (g.setSize rows cols).Shaped P := by
  have rowsMax : rows.toNat < 65536 := rows.toNat_lt
  have colsMax : cols.toNat < 65536 := cols.toNat_lt
  refine
    { primary := shaped.primary.resize (blank _) fun row => resized row _
      alternate := shaped.alternate.resize (blank _) fun row => resized row _
      rowsFit := ?_, colsFit := ?_, hasCols := ?_, cursorRow := ?_, cursorCol := ?_, parked := ?_, margins := Nat.zero_le _
      bottom := ?_, historyWraps := shaped.historyWraps, historyLimit := shaped.historyLimit, offset := shaped.offset
      history := shaped.history, profile := shaped.profile, keyboard := shaped.keyboard }
  all_goals simp only [Grid.setSize,Grid.clearPendingWrap,u16Max,Bool.false_eq_true,iff_false]
  all_goals first | omega | (split <;> omega)

theorem shaped_new (blank : ∀ cols, P (blankRow cols)) {rows cols : UInt16} (hasRows : 0 < rows) (hasCols : 0 < cols)
    (scrollbackLimit : Nat) : (new rows cols scrollbackLimit).Shaped P := by
  have rowsMax : rows.toNat < 65536 := rows.toNat_lt
  have colsMax : cols.toNat < 65536 := cols.toNat_lt
  have rowsPos : 0 < rows.toNat := hasRows
  have colsPos : 0 < cols.toNat := hasCols
  exact
    { primary := RowStore.shaped_blank (blank _)
      alternate := RowStore.shaped_blank (blank _)
      rowsFit := Nat.le_of_lt_succ rowsMax
      colsFit := Nat.le_of_lt_succ colsMax
      hasCols := colsPos
      cursorRow := rowsPos
      cursorCol := Nat.zero_le _
      parked := by simp [new]; omega
      margins := Nat.zero_le _
      bottom := by simp [new]; omega
      historyWraps := rfl
      historyLimit := Nat.zero_le _
      offset := Nat.zero_le _
      history := by simp [new]
      profile := rfl
      keyboard := by simp [new] }

section
variable [UnicodeWidth] {Prints : Char → Prop} (law : RowLaw Prints P)
include law

/-! ## Erasing and editing -/

theorem Shaped.eraseFrom (shaped : g.Shaped P) : ∃ s,
    (g.modifyActiveRow g.cursorRow fun row => eraseCellsBce row g.cursorCol g.cols g.blankCell) = .ok (g.setActiveGrid s) ∧
      (g.setActiveGrid s).Shaped P := by
  have inside := shaped.cursorCol
  exact shaped.modifyActiveRow shaped.cursorRow fun cells _ holds width => width ▸
    law.erase cells g.cursorCol cells.length _ holds (by omega) (Nat.le_refl _) (by omega)

theorem Shaped.eraseTo (shaped : g.Shaped P) : ∃ s,
    (g.modifyActiveRow g.cursorRow fun row => eraseCellsBce row 0 (min g.cursorCol (g.cols - 1) + 1) g.blankCell) =
      .ok (g.setActiveGrid s) ∧ (g.setActiveGrid s).Shaped P := by
  have cols := shaped.hasCols
  exact shaped.modifyActiveRow shaped.cursorRow fun cells _ holds width =>
    law.erase cells 0 _ _ holds (Nat.zero_le _) (by omega) (by omega)

theorem Shaped.fillActive (shaped : g.Shaped P) (start stop : Nat) :
    (g.setActiveGrid (g.activeGrid.fillRows start stop g.blankRowBce)).Shaped P :=
  shaped.setActive (shaped.active.fillRows start stop List.length_replicate (law.blankOn _ _))

theorem Shaped.eraseLine (shaped : g.Shaped P) (mode : Nat) : Keeps P (g.eraseLine mode) := by
  unfold Grid.eraseLine
  split
  · obtain ⟨s,erased,ok⟩ := shaped.eraseFrom law
    simp only [erased,ok_bind,pure_ok,keeps_ok]
    exact { ok with }
  · obtain ⟨s,erased,ok⟩ := shaped.eraseTo law
    simp only [sub_ok (show 1 ≤ g.cols from shaped.hasCols),erased,ok_bind,pure_ok,keeps_ok]
    exact { ok with }
  · obtain ⟨s,erased,ok⟩ := shaped.modifyActiveRow shaped.cursorRow (f := fun _ => .ok g.blankRowBce)
      fun cells _ holds width => ⟨_,rfl,by rw [width]; exact List.length_replicate,law.blankOn _ _⟩
    simp only [erased,ok_bind,pure_ok,keeps_ok]
    exact { ok with }
  · exact shaped

theorem Shaped.eraseDisplayCells (shaped : g.Shaped P) (mode : Nat) : Keeps P (g.eraseDisplayCells mode) := by
  unfold Grid.eraseDisplayCells
  split
  · have kept : (if g.cursorRow = 0 ∧ g.cursorCol = 0 then g.preserveVisibleRowsToScrollback else g).Shaped P := by
      split
      · exact shaped.preserveVisibleRowsToScrollback
      · exact shaped
    obtain ⟨s,erased,ok⟩ := kept.eraseFrom law
    simp only [erased,ok_bind,pure_ok,keeps_ok]
    exact ok.fillActive law _ _
  · have filled := shaped.fillActive law 0 g.cursorRow
    obtain ⟨s,erased,ok⟩ := filled.eraseTo law
    have cols : sub (g.setActiveGrid (g.activeGrid.fillRows 0 g.cursorRow g.blankRowBce)).cols 1 = .ok (g.cols - 1) :=
      sub_ok shaped.hasCols
    simp only [cols,ok_bind]
    exact erased ▸ ok
  · exact shaped.preserveVisibleRowsToScrollback.fillActive law _ _
  · have cleared : ({ g with scrollback := g.scrollback.clear, scrollbackOffset := 0 } : Grid).Shaped P :=
      { shaped with historyWraps := rfl, historyLimit := Nat.zero_le _, offset := Nat.zero_le _,
                    history := by simp [RowStore.clear] }
    exact { cleared.fillActive law 0 g.rows with }
  · exact shaped

theorem Shaped.eraseDisplay (shaped : g.Shaped P) (mode : Nat) : Keeps P (g.eraseDisplay mode) :=
  (shaped.eraseDisplayCells law mode).bind fun _ erased => { erased with }

theorem Shaped.insertChars (shaped : g.Shaped P) (n : Nat) : Keeps P (g.insertChars n) := by
  have inside := shaped.cursorCol
  obtain ⟨s,edited,ok⟩ := shaped.modifyActiveRow shaped.cursorRow
    (f := fun row => insertBlanks row g.cursorCol n g.cols)
    fun cells _ holds width => width ▸ law.insert cells g.cursorCol n holds (by omega)
  simp only [Grid.insertChars,edited,ok_bind,pure_ok,keeps_ok]
  exact { ok with }

theorem Shaped.deleteChars (shaped : g.Shaped P) {n : Nat} (some : 0 < n) : Keeps P (g.deleteChars n) := by
  have inside := shaped.cursorCol
  obtain ⟨s,edited,ok⟩ := shaped.modifyActiveRow shaped.cursorRow
    (f := fun row => deleteCells row g.cursorCol n g.cols)
    fun cells _ holds width => width ▸ law.delete cells g.cursorCol n holds (by omega) some
  simp only [Grid.deleteChars,edited,ok_bind,pure_ok,keeps_ok]
  exact { ok with }

theorem Shaped.eraseChars (shaped : g.Shaped P) {n : Nat} (some : 0 < n) : Keeps P (g.eraseChars n) := by
  have inside := shaped.cursorCol
  obtain ⟨row,read,_,width,_⟩ := shaped.active.get shaped.cursorRow
  obtain ⟨s,edited,ok⟩ := shaped.modifyActiveRow shaped.cursorRow
    (f := fun row => eraseCells row g.cursorCol n g.blankCell)
    fun cells _ holds width => law.erase cells _ _ _ holds (by omega) (by omega) (by omega)
  simp only [Grid.eraseChars,read,edited,ok_bind,pure_ok,keeps_ok]
  exact { ok with }

/-! ## Printing -/

omit law in
theorem joinCol_some {ch : Char} {col : Nat} (hasCols : 0 < g.cols) (joins : g.joinCol ch = some col) :
    ∃ target, target < g.cols ∧ (g.cursorCol < g.cols → target < g.cursorCol) ∧ col = clusterCol g.cursorCells target ∧
      Joins ch (cellAt g.cursorCells (clusterCol g.cursorCells target)).contents := by
  unfold joinCol at joins
  split_ifs at joins
  obtain ⟨target,found,taken⟩ := Option.bind_eq_some_iff.mp joins
  split_ifs at taken with joined
  cases taken
  refine ⟨target,?_,?_,rfl,joined⟩
  all_goals
    unfold clusterTarget at found
    split_ifs at found <;> cases found <;> omega

theorem Shaped.joinCluster (shaped : g.Shaped P) {ch : Char} (prints : Prints ch) {col : Nat}
    (joins : g.joinCol ch = some col) : Keeps P (g.joinCluster ch col (cellAt g.cursorCells col)) := by
  obtain ⟨target,inside,before,rfl,joined⟩ := joinCol_some shaped.hasCols joins
  obtain ⟨_,_,width,holds⟩ := shaped.cursorCells
  have start : clusterCol g.cursorCells target ≤ target := by unfold clusterCol; split_ifs <;> omega
  have cursor := shaped.cursorCol
  have parked := shaped.parked
  have colsFit := shaped.colsFit
  have narrow : g.grownWidth ch (clusterCol g.cursorCells target) ≤ 2 := Nat.min_le_right _ _
  by_cases fits : g.JoinFits (clusterCol g.cursorCells target)
      (cellWidth (cellAt g.cursorCells (clusterCol g.cursorCells target))) (g.grownWidth ch (clusterCol g.cursorCells target))
  case pos =>
    have newFits : clusterCol g.cursorCells target + g.grownWidth ch (clusterCol g.cursorCells target) ≤ u16Max := by
      by_cases left : g.cursorCol < g.cols
      · have := before left; omega
      · exact fits.2 (.inr (by omega))
    obtain ⟨s,edited,ok⟩ := shaped.modifyCursorRow (f := g.joinEdit ch (clusterCol g.cursorCells target))
      (by rw [joinEdit,← width]; exact law.join _ target ch g.activeHyperlink holds (by omega) prints joined newFits)
    rw [joinCluster_eq shaped edited,if_pos fits,keeps_ok]
    refine { ok with cursorCol := ?_, parked := ?_ }
    all_goals
      simp only [Grid.joined,setCursorCol,joinedCursor,setActiveGrid_cols]
      split_ifs
    · exact cursor
    · exact Nat.min_le_right _ _
    · exact parked
    · rw [decide_eq_true_eq]; omega
  case neg =>
    obtain ⟨written,writtenEq,length,_⟩ := joinGlyph_cellAt
      (show clusterCol g.cursorCells target < g.cursorCells.length by omega) (cellAt g.cursorCells (clusterCol g.cursorCells target))
      ((cellAt g.cursorCells (clusterCol g.cursorCells target)).contents ++ [ch]) g.activeHyperlink
      (g.grownWidth ch (clusterCol g.cursorCells target))
    obtain ⟨s,edited,_⟩ := (shaped.mono (Q := fun _ => True) fun _ _ => trivial).modifyCursorRow
      (f := g.joinEdit ch (clusterCol g.cursorCells target))
      ⟨written,by rw [joinEdit,← width]; exact writtenEq,length,trivial⟩
    rw [joinCluster_eq shaped edited,if_neg fits]
    exact rfl

/-- A glyph is put down, or there is no room to count its end. -/
theorem Shaped.placeChar (shaped : g.Shaped P) {ch : Char} (prints : Prints ch) (wide : charWidth ch ≠ 0) :
    Keeps P (g.placeChar ch (charWidth ch)) := by
  have row := shaped.cursorRow
  obtain ⟨_,_,width,holds⟩ := shaped.cursorCells
  by_cases inside : g.cursorCol < g.cols
  case neg =>
    simp only [Grid.placeChar,if_pos (show g.cursorRow ≥ g.rows ∨ g.cursorCol ≥ g.cols by omega)]
    exact shaped
  by_cases fits : g.cursorCol + charWidth ch ≤ u16Max
  case pos =>
    obtain ⟨s,edited,ok⟩ := shaped.modifyCursorRow (f := g.placeEdit ch)
      (by rw [placeEdit,← width]; exact law.glyph _ _ ch g.currentAttrs g.activeHyperlink holds (by omega) prints wide fits)
    rw [placeChar_eq shaped inside edited,if_pos fits,keeps_ok]
    exact { ok with cursorCol := Nat.min_le_right _ _, parked := by simp only [placed,setCursorCol,setActiveGrid_cols,decide_eq_true_eq]; omega }
  case neg =>
    obtain ⟨written,writtenEq,length,_⟩ := writeGlyph_cellAt
      (show g.cursorCol < g.cursorCells.length by omega) (charWidth ch) (glyphCell ch g.currentAttrs g.activeHyperlink)
    obtain ⟨s,edited,_⟩ := (shaped.mono (Q := fun _ => True) fun _ _ => trivial).modifyCursorRow
      (f := g.placeEdit ch) ⟨written,by rw [placeEdit,← width]; exact writtenEq,length,trivial⟩
    rw [placeChar_eq shaped inside edited,if_neg fits]
    exact rfl

theorem Shaped.deferredWrap (shaped : g.Shaped P) : Keeps P g.deferredWrap := by
  have cols := shaped.hasCols
  unfold Grid.deferredWrap
  split_ifs
  · have unparked : ({ g with modeFlags.pendingWrap := false, cursorCol := 0 } : Grid).Shaped P :=
      { shaped with cursorCol := Nat.zero_le _, parked := by simp; omega }
    exact unparked.newlineActionWithWrap law.blank .soft
  · exact shaped

theorem Shaped.writeNewCell (shaped : g.Shaped P) {ch : Char} (prints : Prints ch) (wide : charWidth ch ≠ 0) :
    Keeps P (g.writeNewCell ch (charWidth ch)) := by
  refine (shaped.deferredWrap law).bind fun g shaped => ?_
  have cols := shaped.hasCols
  dsimp only
  split_ifs
  · exact shaped
  · have clamped : ({ g with modeFlags.pendingWrap := false, cursorCol := min g.cursorCol (g.cols - 1) } : Grid).Shaped P :=
      { shaped with cursorCol := by dsimp only; omega, parked := by simp; omega }
    exact clamped.placeChar law prints wide
  · exact shaped.placeChar law prints wide

theorem Shaped.writeCharAtCursor (shaped : g.Shaped P) {ch : Char} (prints : Prints ch) :
    Keeps P (g.writeCharAtCursor ch) := by
  have touched : g.touched.Shaped P := { shaped with }
  rw [writeCharAtCursor_eq shaped]
  cases joins : g.touched.joinCol ch with
  | some col => exact touched.joinCluster law prints joins
  | none =>
    dsimp only
    split_ifs with zero
    · exact touched
    · exact touched.writeNewCell law prints zero

/-! ## Operations and callbacks -/

omit [UnicodeWidth] law in
theorem Shaped.handleOsc (shaped : g.Shaped P) (params : List Bytes) (bell : Bool) : (g.handleOsc params bell).Shaped P := by
  obtain ⟨_,_,_,same⟩ := g.handleOsc_writes params bell
  rw [same]
  exact { shaped with }

theorem Shaped.exec (shaped : g.Shaped P) {op : Op} (granted : op.Granted Prints)
    (still : op.Moves = true → g.modeFlags.pendingWrap = false) : Keeps P (g.exec op) := by
  have rows := shaped.cursorRow
  have cols := shaped.hasCols
  have col := shaped.cursorCol
  cases op
  case print ch => exact shaped.writeCharAtCursor law granted
  case clearPendingWrap => exact shaped.clearPendingWrap
  case newline => exact shaped.newlineActionWithWrap law.blank .hard
  case carriageReturn => exact shaped.moveTo (still rfl) rows cols
  case backspace =>
    simp only [Grid.exec,keeps_ok]
    split_ifs with pending left
    · exact shaped.clearPendingWrap
    · simp only [Bool.not_eq_true] at pending
      exact shaped.moveTo pending rows (by omega)
    · exact shaped
  case tab =>
    have column (stop : Nat) : Keeps P (.ok { g with cursorCol := min stop (g.cols - 1) }) :=
      shaped.moveTo (still rfl) rows (by omega)
    have stop : Ends (fun _ => True) (· = .overflow) (add16 (g.cursorCol / 8) 1) := by unfold add16; split <;> trivial
    refine stop.bind fun stop _ => ?_
    split_ifs
    · exact column _
    · exact rfl
  case emit e => exact { shaped with }
  case insertChars n => exact shaped.insertChars law n
  case cursorUp n => exact shaped.clamped (still rfl) _ _
  case cursorDown n => exact shaped.clamped (still rfl) _ _
  case cursorForward n => exact shaped.clamped (still rfl) _ _
  case cursorBack n => exact shaped.clamped (still rfl) _ _
  case nextLine n => exact shaped.moveTo (still rfl) (by simp only [addCursorOffset]; omega) cols
  case previousLine n => exact shaped.moveTo (still rfl) (by omega) cols
  case cursorColumn p0 => exact shaped.moveTo (still rfl) rows (by omega)
  case cursorPosition p0 p1 => exact shaped.moveTo (still rfl) (by omega) (by omega)
  case cursorRow p0 => exact shaped.moveTo (still rfl) (by omega) (shaped.unparked_lt (still rfl))
  case eraseDisplay mode => exact shaped.eraseDisplay law mode
  case eraseLine mode => exact shaped.eraseLine law mode
  case insertLines p0 => exact shaped.insertLines law.blank p0
  case deleteLines p0 => exact shaped.deleteLines law.blank p0
  case deleteChars n => exact shaped.deleteChars law granted
  case scrollUp n => exact shaped.scrollUp law.blank n .hard
  case scrollDown p0 => exact shaped.scrollDown law.blank p0
  case eraseChars n => exact shaped.eraseChars law granted
  case decMode mode enabled => exact shaped.setDecMode mode enabled
  case setMargins p0 p1 => exact shaped.setMargins (still rfl) p0 p1
  case restoreCursor => exact shaped.restoreSavedCursor
  case kittyPush flags =>
    refine { shaped with keyboard := fun other inside => ?_ }
    simp only [pushEvent] at inside
    split_ifs at inside
    · rcases List.mem_append.mp inside with old | new
      · exact shaped.keyboard other old
      · rw [List.mem_singleton.mp new]; exact granted
    · exact shaped.keyboard other inside
  case kittyPop count =>
    exact { shaped with keyboard := fun other inside => shaped.keyboard other (List.mem_of_mem_take inside) }
  case softReset => exact shaped.softReset
  case reverseIndex => exact shaped.reverseIndex (law.blank _)
  case fullReset => exact shaped.fullReset law.blank
  case osc params bell => exact shaped.handleOsc params bell
  all_goals exact { shaped with }

omit [UnicodeWidth] law in
theorem csiOps_moves {action : Char} (moves : movesCursor action = true) (params : List Param) (intermediates : Bytes) :
    ∃ op, csiOps params intermediates action = [op] := by
  have listed : action ∈ ['A','B','C','D','E','F','G','H','f','d','r'] := by simpa [movesCursor] using moves
  simp only [List.mem_cons,List.not_mem_nil,or_false] at listed
  rcases listed with rfl | rfl | rfl | rfl | rfl | rfl | rfl | rfl | rfl | rfl | rfl
  all_goals exact ⟨_,rfl⟩

omit [UnicodeWidth] law in
theorem csiOps_still {action : Char} (still : movesCursor action = false) (params : List Param) (intermediates : Bytes) :
    (csiOps params intermediates action).Forall (fun op => op.Moves = false) := by
  unfold csiOps
  split
  all_goals first
    | exact absurd still (by decide)
    | skip
  all_goals
    dsimp only
    repeat' split
    all_goals first
      | exact rfl
      | simp [List.forall_iff_forall_mem,Op.Moves]

omit [UnicodeWidth] law in
/-- A callback is one operation after the pending wrap was cancelled, or else
    moves nothing. -/
theorem ops_cases (c : Callback) : (∃ op, c.ops = [.clearPendingWrap,op]) ∨ ∀ op ∈ c.ops, op.Moves = false := by
  cases c with
  | execute byte =>
    simp only [Callback.ops,Termpane.execute]
    split_ifs
    all_goals simp [Op.Moves]
  | csiDispatch params intermediates ignore action =>
    simp only [Callback.ops,Termpane.csiDispatch]
    cases moves : movesCursor action with
    | true => exact .inl ((csiOps_moves moves _ _).imp fun op same => by rw [same]; rfl)
    | false => exact .inr (List.forall_iff_forall_mem.mp (csiOps_still moves _ _))
  | escDispatch intermediates ignore byte =>
    simp only [Callback.ops,Termpane.escDispatch]
    split_ifs
    all_goals simp [Op.Moves]
  | _ => exact .inr (by simp [Callback.ops,Op.Moves])

omit [UnicodeWidth] law in
theorem csiOps_granted (params : List Param) (intermediates : Bytes) (action : Char) :
    (csiOps params intermediates action).Forall (Op.Granted Prints) := by
  have one (n : Nat) : 0 < max n 1 := by omega
  unfold csiOps
  split
  all_goals
    dsimp only
    repeat' split
    all_goals first
      | exact one _
      | trivial
      | simp [List.forall_iff_forall_mem,Op.Granted]

omit [UnicodeWidth] law in
theorem ops_granted {c : Callback} (prints : ∀ ch, c = .print ch → Prints ch) : ∀ op ∈ c.ops, op.Granted Prints := by
  cases c with
  | print ch => simpa [Callback.ops,Op.Granted] using prints ch rfl
  | execute byte =>
    simp only [Callback.ops,Termpane.execute]
    split_ifs
    all_goals simp [Op.Granted]
  | csiDispatch params intermediates ignore action =>
    have granted : ∀ op ∈ csiOps (params.map (·.map UInt16.toNat)) intermediates action, op.Granted Prints :=
      List.forall_iff_forall_mem.mp (csiOps_granted (params.map (·.map UInt16.toNat)) intermediates action)
    intro op inside
    rcases List.mem_append.mp inside with cleared | dispatched
    · split_ifs at cleared
      · rw [List.mem_singleton.mp cleared]; trivial
      · cases cleared
    · exact granted op dispatched
  | escDispatch intermediates ignore byte =>
    simp only [Callback.ops,Termpane.escDispatch]
    split_ifs
    all_goals simp [Op.Granted]
  | _ => simp [Callback.ops,Op.Granted]

theorem Shaped.perform (shaped : g.Shaped P) {c : Callback} (prints : ∀ ch, c = .print ch → Prints ch) :
    Keeps P (g.perform c) := by
  have granted := ops_granted prints
  unfold Grid.perform execAll
  rcases ops_cases c with ⟨op,same⟩ | still
  · rw [same] at granted
    have moved := shaped.clearPendingWrap.exec law (granted op (by simp)) fun _ => rfl
    simpa only [same,List.foldlM_cons,List.foldlM_nil,Grid.exec.eq_2,ok_bind,pure_ok,bind_ok] using moved
  · exact run_ends (fun op inside g shaped => shaped.exec law (granted op inside) (by simp [still op inside])) shaped

theorem Shaped.performAll (shaped : g.Shaped P) {cs : List Callback} (prints : ∀ ch, .print ch ∈ cs → Prints ch) :
    Keeps P (g.performAll cs) :=
  run_ends (fun _ inside _ shaped => shaped.perform law fun ch same => prints ch (same ▸ inside)) shaped

end

end Grid

end Termpane
