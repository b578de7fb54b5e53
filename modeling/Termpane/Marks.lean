import Termpane.Coverage

/-!
# Handlers that mark what they edit

Erases, inserts, deletes and prints mark columns of the cursor's row by hand. The
row helpers they call also blank the half of a wide pair an end of the range cuts
off, and that half is marked or not. `Op.Marks` says on the state before an
operation when all of it is.
-/
namespace Termpane

open Lib

/-! ## Columns a row edit leaves alone -/

/-- An erase whose ends cut no pair changes its range alone. -/
theorem eraseCellsBce_outside {row : Row} {start stop : Nat} (order : start ≤ stop) (inside : stop ≤ row.length)
    (left : (cellAt row start).isWideContinuation = false)
    (right : start < stop → stop < row.length → (cellAt row (stop - 1)).isWide = false) (blank : Cell) :
    ∃ erased, eraseCellsBce row start stop blank = .ok erased ∧
      ∀ j, j < row.length → ¬ (start ≤ j ∧ j < stop) → cellAt erased j = cellAt row j := by
  obtain ⟨erased,erasedEq,_,cells⟩ := eraseCellsBce_cellAt order inside blank
  refine ⟨erased,erasedEq,fun j bound outside => ?_⟩
  rw [cells j bound,if_neg]
  rintro (within | ⟨_,cut⟩ | ⟨rfl,some,cut⟩)
  · exact outside within
  · rw [left] at cut; cases cut
  · rw [right some bound] at cut; cases cut

/-- ICH at no continuation changes nothing left of the cursor. -/
theorem insertBlanks_outside {row : Row} (ok : RowOk row) {col : Nat} (inside : col ≤ row.length)
    (left : (cellAt row col).isWideContinuation = false) (n : Nat) :
    ∃ inserted, insertBlanks row col n row.length = .ok inserted ∧
      ∀ j, j < row.length → j < col → cellAt inserted j = cellAt row j := by
  rcases Nat.lt_or_eq_of_le inside with before | rfl
  case inr => exact ⟨row,insertBlanks_parked n,fun _ _ _ => rfl⟩
  obtain ⟨shifted,inserted,⟨_,shiftedCells⟩,insertedEq,_,cells⟩ := insertBlanks_cellAt (n := n) ok.exclusive before
  refine ⟨inserted,insertedEq,fun j bound early => ?_⟩
  have same (i : Nat) (early : i < col) : cellAt shifted i = cellAt row i := by
    rw [shiftedCells i (by omega),if_pos early]
  rw [cells,if_neg,same j early]
  rintro (⟨continuation,first | alone⟩ | ⟨lead,alone⟩)
  · rw [same j early,first,ok.first] at continuation; cases continuation
  · obtain ⟨i,rfl⟩ : ∃ i, j = i + 1 := ⟨j - 1,by
      have first : j ≠ 0 := by rintro rfl; rw [same 0 early,ok.first] at continuation; cases continuation
      omega⟩
    rw [same _ early,ok.pairs i bound] at continuation
    rw [Nat.add_sub_cancel,same i (by omega),continuation] at alone
    cases alone
  · rw [same j early,← ok.pairs j (by omega)] at lead
    by_cases last : j + 1 = col
    · rw [last,left] at lead; cases lead
    · rw [same (j + 1) (by omega),lead] at alone; cases alone

/-- DCH that moves no continuation away from its lead changes nothing left of the
    cursor but the cells its blanks reach. -/
theorem deleteCells_outside {row : Row} (ok : RowOk row) {col n : Nat} (inside : col ≤ row.length) (some : 0 < n)
    (left : (cellAt row col).isWideContinuation = true → (cellAt row (col + n)).isWideContinuation = true)
    (reached : ∀ j, j < col → row.length ≤ j + n → cellAt row j = default) :
    ∃ deleted, deleteCells row col n row.length = .ok deleted ∧
      ∀ j, j < row.length → j < col → cellAt deleted j = cellAt row j := by
  obtain ⟨shifted,deleted,⟨length,shiftedCells⟩,deletedEq,_,cells⟩ := deleteCells_cellAt ok.exclusive inside some
  refine ⟨deleted,deletedEq,fun j bound early => ?_⟩
  have same (i : Nat) (early : i < col) : cellAt shifted i = cellAt row i := by
    rw [shiftedCells i (by omega)]
    split_ifs with blank right
    · exact (reached i early blank).symm
    · omega
    · rfl
  rw [cells,if_neg,same j early]
  rintro (⟨continuation,first | alone⟩ | ⟨lead,alone⟩)
  · rw [same j early,first,ok.first] at continuation; cases continuation
  · obtain ⟨i,rfl⟩ : ∃ i, j = i + 1 := ⟨j - 1,by
      have first : j ≠ 0 := by rintro rfl; rw [same 0 early,ok.first] at continuation; cases continuation
      omega⟩
    rw [same _ early,ok.pairs i bound] at continuation
    rw [Nat.add_sub_cancel,same i (by omega),continuation] at alone
    cases alone
  · rw [same j early] at lead
    by_cases last : j + 1 = col
    · subst last
      by_cases parked : j + 1 < row.length
      · have shift := left (by rw [ok.pairs j parked,lead])
        have within : j + 1 + n < row.length := by
          by_contra outside
          rw [cellAt_outside (by omega)] at shift
          cases shift
        rw [shiftedCells _ parked,if_neg (by omega),if_pos (Nat.le_refl _),shift] at alone
        cases alone
      · rw [reached j early (by omega)] at lead
        cases lead
    · have paired := ok.pairs j (by omega)
      rw [← same (j + 1) (by omega),alone,lead] at paired
      cases paired

/-- The columns a glyph is said to touch are the ones it touches. -/
theorem clearPartners_marks {row : Row} {col width j : Nat} (inside : j < row.length) (fits : row.length ≤ u16Max)
    (some : width ≠ 0) (changed : j = col ∨ (j = col + 1 ∧ width > 1) ∨ Splits row col width j) :
    (clearPartners row col width).2.1 ≤ j ∧ j < (clearPartners row col width).2.2 := by
  simp only [clearPartners,any_isWide,any_isWideContinuation]
  have here : cellAt (if (cellAt row col).isWideContinuation && decide (col > 0) then row.set (col - 1) default
      else row) col = cellAt row col := by
    rw [cellAt_setIf,if_neg]
    simp only [Bool.and_eq_true,decide_eq_true_eq]
    omega
  have length := length_setIf ((cellAt row col).isWideContinuation && decide (col > 0)) row (col - 1) default
  have next : cellAt (if (cellAt row col).isWideContinuation && decide (col > 0) then row.set (col - 1) default
      else row) (col + 1) = cellAt row (col + 1) := by
    rw [cellAt_setIf,if_neg]
    simp only [Bool.and_eq_true,decide_eq_true_eq]
    omega
  generalize (if (cellAt row col).isWideContinuation && decide (col > 0) then row.set (col - 1) default else row) = row1
    at here length next
  have right (wide : width > 1) : cellAt (if (cellAt row1 col).isWide && decide (width < 2 ∧ col + 1 < row1.length) then
      row1.set (col + 1) default else row1) (col + 1) = cellAt row (col + 1) := by
    rw [cellAt_setIf,if_neg,next]
    simp only [Bool.and_eq_true,decide_eq_true_eq]
    omega
  have length2 := length_setIf ((cellAt row1 col).isWide && decide (width < 2 ∧ col + 1 < row1.length)) row1 (col + 1) default
  generalize (if (cellAt row1 col).isWide && decide (width < 2 ∧ col + 1 < row1.length) then row1.set (col + 1) default
    else row1) = row2 at right length2
  simp only [satAdd16,Bool.and_eq_true,decide_eq_true_eq,here]
  rcases changed with rfl | ⟨rfl,wide⟩ | ⟨same,cut⟩ | ⟨rfl,narrow,cut⟩ | ⟨rfl,wide,cut⟩
  · grind
  · grind
  · grind
  · grind
  · rw [← right wide] at cut
    grind

/-! ## Erases and edits -/

namespace Grid

/-- The cell under the cursor, a default cell past the right margin. -/
def cursorCell (g : Grid) : Cell := cellAt g.cursorCells g.cursorCol

variable {g : Grid}

/-- A handler that edits the cursor's row and then marks a range of it. -/
theorem Shaped.tracks_edit (shaped : g.Shaped RowOk) {f : Row → Checked Row} {finish : Grid → Checked Grid} (i k : Nat)
    (marks : ∀ s, finish (g.setActiveGrid s) = .ok ((g.setActiveGrid s).markRange g.cursorRow i k))
    (edits : ∃ edited, f g.cursorCells = .ok edited ∧
      ∀ c, c < g.cursorCells.length → ¬ (i ≤ c ∧ c < k) → cellAt edited c = cellAt g.cursorCells c) :
    g.Tracks (g.modifyActiveRow g.cursorRow f >>= finish) := by
  obtain ⟨edited,same,outside⟩ := edits
  rw [shaped.cursorCells.2.2.1] at outside
  obtain ⟨s,modified,tracked⟩ := shaped.tracked_edit same outside
  rw [modified,ok_bind,marks]
  exact tracked

theorem Shaped.tracks_eraseLine (shaped : g.Shaped RowOk) {mode : Nat}
    (left : mode = 0 → g.cursorCell.isWideContinuation = false)
    (right : mode = 1 → g.cursorCol + 1 < g.cols → g.cursorCell.isWide = false) : g.Tracks (g.eraseLine mode) := by
  obtain ⟨_,_,width,holds⟩ := shaped.cursorCells
  have inside := shaped.cursorCol
  have cols := shaped.hasCols
  have fits := shaped.colsFit
  unfold Grid.eraseLine
  split
  · obtain ⟨erased,erasedEq,outside⟩ := eraseCellsBce_outside (show g.cursorCol ≤ g.cols from inside)
      (Nat.le_of_eq width.symm) (left rfl) (fun _ beyond => by omega) g.blankCell
    exact shaped.tracks_edit g.cursorCol g.cols (fun _ => rfl) ⟨erased,erasedEq,outside⟩
  · obtain ⟨erased,erasedEq,outside⟩ := eraseCellsBce_outside (Nat.zero_le (min g.cursorCol (g.cols - 1) + 1))
      (show _ ≤ g.cursorCells.length by omega) holds.first
      (fun _ within => by
        rw [show min g.cursorCol (g.cols - 1) + 1 - 1 = g.cursorCol by omega]
        exact right rfl (by omega)) g.blankCell
    rw [sub_ok cols,ok_bind]
    refine shaped.tracks_edit 0 (satAdd16 g.cursorCol 1) (fun _ => rfl) ⟨erased,erasedEq,fun c bound unmarked => outside c bound fun within => unmarked ?_⟩
    simp only [satAdd16]
    omega
  · obtain ⟨s,modified,tracked⟩ := shaped.tracked_edit (f := fun _ => .ok g.blankRowBce) rfl (k := u16Max)
      (fun c bound unmarked => absurd ⟨Nat.zero_le c,by omega⟩ unmarked)
    simp only [modified,ok_bind]
    exact tracked
  · exact Tracked.refl g

theorem Shaped.tracks_insertChars (shaped : g.Shaped RowOk) (left : g.cursorCell.isWideContinuation = false) (n : Nat) :
    g.Tracks (g.insertChars n) := by
  obtain ⟨_,_,width,holds⟩ := shaped.cursorCells
  have inside := shaped.cursorCol
  obtain ⟨inserted,insertedEq,outside⟩ := insertBlanks_outside holds (show g.cursorCol ≤ _ by omega) left n
  rw [width] at insertedEq
  exact shaped.tracks_edit g.cursorCol g.cols (fun _ => rfl) ⟨inserted,insertedEq,fun c bound unmarked => outside c bound (by omega)⟩

theorem Shaped.tracks_deleteChars (shaped : g.Shaped RowOk) {n : Nat} (some : 0 < n)
    (left : g.cursorCell.isWideContinuation = true → (cellAt g.cursorCells (g.cursorCol + n)).isWideContinuation = true)
    (reached : ∀ j, j < g.cursorCol → g.cols ≤ j + n → cellAt g.cursorCells j = default) :
    g.Tracks (g.deleteChars n) := by
  obtain ⟨_,_,width,holds⟩ := shaped.cursorCells
  have inside := shaped.cursorCol
  obtain ⟨deleted,deletedEq,outside⟩ := deleteCells_outside holds (show g.cursorCol ≤ _ by omega) some left
    (by rw [width]; exact reached)
  rw [width] at deletedEq
  exact shaped.tracks_edit g.cursorCol g.cols (fun _ => rfl) ⟨deleted,deletedEq,fun c bound unmarked => outside c bound (by omega)⟩

theorem Shaped.tracks_eraseChars (shaped : g.Shaped RowOk) {n : Nat}
    (left : g.cursorCell.isWideContinuation = false)
    (right : g.cursorCol + n < g.cols → (cellAt g.cursorCells (g.cursorCol + n - 1)).isWide = false) :
    g.Tracks (g.eraseChars n) := by
  obtain ⟨read,_,width,_⟩ := shaped.cursorCells
  have inside := shaped.cursorCol
  have fits := shaped.colsFit
  unfold u16Max at fits
  obtain ⟨erased,erasedEq,outside⟩ := eraseCellsBce_outside
    (show g.cursorCol ≤ min (g.cursorCol + n) g.cursorCells.length by omega) (Nat.min_le_right _ _) left
    (fun _ within => by
      rw [Nat.min_eq_left (by omega)]
      exact right (by omega)) g.blankCell
  simp only [Grid.eraseChars,read,ok_bind]
  refine shaped.tracks_edit g.cursorCol (min (g.cursorCol + n) g.cursorCells.length % 65536) (fun _ => rfl) ⟨erased,?_,fun c bound unmarked => outside c bound fun within => unmarked ?_⟩
  · have order : min g.cursorCol (min (g.cursorCol + n) g.cursorCells.length) = g.cursorCol := by omega
    simp only [eraseCells,order]
    exact erasedEq
  · rw [Nat.mod_eq_of_lt (by omega)]
    exact within

/-! ## Prints -/

section
variable [UnicodeWidth]

theorem Shaped.tracks_joinCluster (shaped : g.Shaped RowOk) {ch : Char} {col : Nat} (joins : g.joinCol ch = some col)
    (apart : 1 < g.grownWidth ch col → col + 2 < g.cols → (cellAt g.cursorCells (col + 1)).isWide = false) :
    g.Tracks (g.joinCluster ch col (cellAt g.cursorCells col)) := by
  obtain ⟨target,inside,_,same,_⟩ := joinCol_some shaped.hasCols joins
  obtain ⟨_,_,width,holds⟩ := shaped.cursorCells
  have fits := shaped.colsFit
  have bound : col < g.cursorCells.length := by
    rw [same,clusterCol]
    split_ifs <;> omega
  obtain ⟨written,writtenEq,_,cells⟩ := joinGlyph_cellAt bound (cellAt g.cursorCells col)
    ((cellAt g.cursorCells col).contents ++ [ch]) g.activeHyperlink (g.grownWidth ch col)
  rw [width] at writtenEq
  obtain ⟨s,modified,tracked⟩ := shaped.tracked_edit (f := g.joinEdit ch col) writtenEq
    (i := col) (k := satAdd16 col (max (max (cellWidth (cellAt g.cursorCells col)) (g.grownWidth ch col)) 1))
    (fun c inside unmarked => by
      have paired := holds.pairs col
      simp only [satAdd16] at unmarked
      rw [cells c (by omega),if_neg (by omega),if_neg (by omega),if_neg,if_neg]
      · rintro ⟨rfl,wide,cut⟩
        rw [apart wide (by omega)] at cut
        cases cut
      · rintro ⟨rfl,_,cut⟩
        rw [paired (by omega)] at cut
        have two : cellWidth (cellAt g.cursorCells col) = 2 := by simp [cellWidth,cut]
        omega)
  rw [joinCluster_eq shaped modified]
  split_ifs
  · exact tracked.trans (Tracked.of_same rfl rfl rfl rfl)
  · trivial

theorem Shaped.tracks_placeChar (shaped : g.Shaped RowOk) {ch : Char} (wide : charWidth ch ≠ 0) :
    g.Tracks (g.placeChar ch (charWidth ch)) := by
  obtain ⟨_,_,width,_⟩ := shaped.cursorCells
  have fits := shaped.colsFit
  by_cases inside : g.cursorCol < g.cols
  case neg =>
    simp only [Grid.placeChar,if_pos (show g.cursorRow ≥ g.rows ∨ g.cursorCol ≥ g.cols by omega)]
    exact Tracked.refl g
  obtain ⟨written,writtenEq,_,cells⟩ := writeGlyph_cellAt (show g.cursorCol < g.cursorCells.length by omega) (charWidth ch)
    (glyphCell ch g.currentAttrs g.activeHyperlink)
  rw [width] at writtenEq
  obtain ⟨s,modified,tracked⟩ := shaped.tracked_edit (f := g.placeEdit ch) writtenEq
    (i := (clearPartners g.cursorCells g.cursorCol (charWidth ch)).2.1)
    (k := (clearPartners g.cursorCells g.cursorCol (charWidth ch)).2.2)
    (fun c bound unmarked => by
      have untouched (changed : c = g.cursorCol ∨ (c = g.cursorCol + 1 ∧ charWidth ch > 1) ∨
          Splits g.cursorCells g.cursorCol (charWidth ch) c) : False :=
        unmarked (clearPartners_marks (by omega) (by omega) wide changed)
      rw [cells c (by omega),if_neg fun here => untouched (.inl here),if_neg fun next => untouched (.inr (.inl next)),
        if_neg fun splits => untouched (.inr (.inr splits))])
  rw [placeChar_eq shaped inside modified]
  split_ifs
  · exact tracked.trans (Tracked.of_same rfl rfl rfl rfl)
  · trivial

omit [UnicodeWidth] in
theorem Shaped.tracks_deferredWrap (shaped : g.Shaped RowOk) : g.Tracks g.deferredWrap := by
  unfold Grid.deferredWrap
  split_ifs
  · have moved : g.Tracked { g with modeFlags.pendingWrap := false, cursorCol := 0 } := Tracked.of_same rfl rfl rfl rfl
    exact (tracks_newline { g with modeFlags.pendingWrap := false, cursorCol := 0 } shaped.colsFit .soft).mono
      fun _ tracked => moved.trans tracked
  · exact Tracked.refl g

theorem Shaped.tracks_writeNewCell (shaped : g.Shaped RowOk) {ch : Char} (wide : charWidth ch ≠ 0) :
    g.Tracks (g.writeNewCell ch (charWidth ch)) := by
  have wrapped := (shaped.deferredWrap (rowOk_law fun _ => True)).and shaped.tracks_deferredWrap
  refine (wrapped.allow fun _ _ => trivial).bind ?_
  rintro h ⟨shaped,tracked⟩
  have cols := shaped.hasCols
  dsimp only
  split_ifs
  · exact tracked
  · have clamped : ({ h with modeFlags.pendingWrap := false, cursorCol := min h.cursorCol (h.cols - 1) } : Grid).Shaped RowOk :=
      { shaped with cursorCol := by dsimp only; omega, parked := by simp; omega }
    have moved : h.Tracked { h with modeFlags.pendingWrap := false, cursorCol := min h.cursorCol (h.cols - 1) } :=
      Tracked.of_same rfl rfl rfl rfl
    exact (clamped.tracks_placeChar wide).mono fun _ placed => (tracked.trans moved).trans placed
  · exact (shaped.tracks_placeChar wide).mono fun _ placed => tracked.trans placed

theorem Shaped.tracks_writeCharAtCursor (shaped : g.Shaped RowOk) {ch : Char}
    (apart : ∀ col ∈ g.joinCol ch, 1 < g.grownWidth ch col → col + 2 < g.cols →
      (cellAt g.cursorCells (col + 1)).isWide = false) : g.Tracks (g.writeCharAtCursor ch) := by
  have touched : g.touched.Shaped RowOk := { shaped with }
  have begun : g.Tracked g.touched := Tracked.of_same rfl rfl rfl rfl
  rw [writeCharAtCursor_eq shaped]
  cases joins : g.touched.joinCol ch with
  | some col => exact (touched.tracks_joinCluster joins (apart col joins)).mono fun _ => begun.trans
  | none =>
    dsimp only
    split_ifs with zero
    · exact begun
    · exact (touched.tracks_writeNewCell zero).mono fun _ => begun.trans

end

/-! ## Operations -/

theorem tracked_clearPendingWrap (g : Grid) : g.Tracked g.clearPendingWrap := Tracked.of_same rfl rfl rfl rfl

theorem tracked_cursor (g : Grid) {e : Edit} (cursor : e.OnCursor) : g.Tracked (g.edit e) := by
  cases e with
  | cursor => exact Tracked.of_same rfl rfl rfl rfl
  | _ => exact cursor.elim

theorem tracked_restoreSavedCursor (g : Grid) : g.Tracked g.restoreSavedCursor := by
  rw [restoreSavedCursor_eq]
  split_ifs <;> exact Tracked.of_same rfl rfl rfl rfl

theorem tracked_setDecMode (g : Grid) (mode : Nat) (enabled : Bool) : g.Tracked (g.setDecMode mode enabled) := by
  have switched (g : Grid) (active : Bool) : g.Tracked (g.setAltScreen active) := Tracked.of_all rfl rfl rfl
  unfold setDecMode
  split
  case h_7 => exact switched g enabled
  case h_8 => exact switched g enabled
  case h_9 =>
    cases enabled with
    | true =>
      have saved : g.Tracked g.saveCursor := Tracked.of_same rfl rfl rfl rfl
      exact (saved.trans (switched g.saveCursor true)).trans (tracked_clearPendingWrap _)
    | false =>
      have restored := (switched g false).trans (tracked_restoreSavedCursor _)
      exact restored.trans (Tracked.of_same rfl rfl rfl rfl)
  all_goals exact Tracked.of_same rfl rfl rfl rfl

theorem tracked_softReset (g : Grid) : g.Tracked g.softReset := by
  unfold softReset restoreAutowrap
  dsimp only
  split_ifs <;> exact Tracked.of_same rfl rfl rfl rfl

theorem tracked_handleOsc (g : Grid) (params : List Bytes) (bell : Bool) : g.Tracked (g.handleOsc params bell) := by
  obtain ⟨_,_,_,same⟩ := g.handleOsc_writes params bell
  rw [same]
  exact Tracked.of_same rfl rfl rfl rfl

end Grid

section
variable [UnicodeWidth]

/-- The state an operation has to start in for its mark to cover every cell it
    changes: no end of its range cuts a wide pair, and no mark starts right of a
    cell that is written. -/
def Op.Marks (g : Grid) : Op → Prop
  | .print ch => ∀ col ∈ g.joinCol ch, 1 < g.grownWidth ch col → col + 2 < g.cols →
      (cellAt g.cursorCells (col + 1)).isWide = false
  | .eraseLine mode => (mode = 0 → g.cursorCell.isWideContinuation = false) ∧
      (mode = 1 → g.cursorCol + 1 < g.cols → g.cursorCell.isWide = false)
  | .insertChars _ => g.cursorCell.isWideContinuation = false
  | .deleteChars n =>
      (g.cursorCell.isWideContinuation = true → (cellAt g.cursorCells (g.cursorCol + n)).isWideContinuation = true) ∧
        ∀ j, j < g.cursorCol → g.cols ≤ j + n → cellAt g.cursorCells j = default
  | .eraseChars n => g.cursorCell.isWideContinuation = false ∧
      (g.cursorCol + n < g.cols → (cellAt g.cursorCells (g.cursorCol + n - 1)).isWide = false)
  | _ => True

namespace Grid

variable {g : Grid}

/-- An operation that meets the condition is framed by the damage. -/
theorem Shaped.tracks_exec (shaped : g.Shaped RowOk) {op : Op} (granted : op.Granted fun _ => True) (marks : op.Marks g) :
    g.Tracks (g.exec op) := by
  have fits := shaped.colsFit
  cases op
  case print ch => exact shaped.tracks_writeCharAtCursor marks
  case newline => exact tracks_newline g fits .hard
  case backspace | tab => exact exec_keeps rfl (fun h _ cursor tracked => tracked.trans (h.tracked_cursor cursor)) (.refl g)
  case insertChars n => exact shaped.tracks_insertChars marks n
  case eraseDisplay mode => exact tracks_eraseDisplay g mode
  case eraseLine mode => exact shaped.tracks_eraseLine marks.1 marks.2
  case insertLines p0 => exact tracks_insertLines g p0
  case deleteLines p0 => exact tracks_deleteLines g p0
  case deleteChars n => exact shaped.tracks_deleteChars granted marks.1 marks.2
  case scrollUp n => exact tracks_scrollUp g fits n .hard
  case scrollDown p0 => exact tracks_scrollDown g p0
  case eraseChars n => exact shaped.tracks_eraseChars marks.1 marks.2
  case decMode mode enabled => exact tracked_setDecMode g mode enabled
  case restoreCursor => exact tracked_restoreSavedCursor g
  case softReset => exact tracked_softReset g
  case reverseIndex => exact tracks_reverseIndex g
  case fullReset => exact Tracked.of_all rfl rfl rfl
  case osc params bell => exact tracked_handleOsc g params bell
  all_goals exact Tracked.of_same rfl rfl rfl rfl

end Grid

end

end Termpane
