import Termpane.Lib.Sheet
import Termpane.History

/-!
# Text read back

Lines of narrow characters, printed one after the other, are a sheet of text in the
scrollback and on the screen. Joining the rows that are marked as wrapped gives back the
lines.
-/
namespace Termpane

open Lib

/-! ## Rows of text -/

/-- A character as it is printed by a new grid. -/
def letterCell (ch : Char) : Cell := { contents := [ch] }

/-- Text at the start of a row. -/
def inked (cols : Nat) (text : List Char) : Row := text.map letterCell ++ List.replicate (cols - text.length) default

/-- The text of a row. -/
def rowText (row : Row) : List Char := row.flatMap Cell.contents

theorem rowText_inked (cols : Nat) (text : List Char) : rowText (inked cols text) = text := by
  have blank (n : Nat) : rowText (List.replicate n default) = [] := by
    induction n with
    | zero => rfl
    | succ n ih => exact ih
  have letters : rowText (text.map letterCell) = text := by
    induction text with
    | nil => rfl
    | cons ch text ih => exact congrArg (ch :: ·) ih
  unfold rowText inked at *
  rw [List.flatMap_append,letters,blank,List.append_nil]

theorem length_inked {cols : Nat} {text : List Char} (fits : text.length ≤ cols) : (inked cols text).length = cols := by
  unfold inked
  rw [List.length_append,List.length_map,List.length_replicate]
  omega

theorem inked_set {cols : Nat} {text : List Char} (room : text.length < cols) (ch : Char) :
    (inked cols text).set text.length (letterCell ch) = inked cols (text ++ [ch]) := by
  have blanks : List.replicate (cols - text.length) (default : Cell) =
      default :: List.replicate (cols - (text ++ [ch]).length) default := by
    rw [List.length_append,List.length_singleton,← List.replicate_succ]
    congr 1
    omega
  unfold inked
  rw [blanks,List.set_append_right _ _ (by rw [List.length_map]),List.length_map,Nat.sub_self,List.set_cons_zero,List.map_append,
    List.append_assoc]
  rfl

/-- A cell of such a row holds a letter, or nothing. -/
theorem cellAt_inked (cols : Nat) (text : List Char) (j : Nat) :
    cellAt (inked cols text) j = default ∨ ∃ ch ∈ text, cellAt (inked cols text) j = letterCell ch := by
  by_cases inside : j < (inked cols text).length
  · have member := cellAt_mem inside
    generalize cellAt (inked cols text) j = cell at member
    rcases List.mem_append.mp member with letter | blank
    · obtain ⟨ch,here,same⟩ := List.mem_map.mp letter
      exact .inr ⟨ch,here,same.symm⟩
    · exact .inl (List.eq_of_mem_replicate blank)
  · exact .inl (cellAt_outside (by omega))

theorem inked_narrow (cols : Nat) (text : List Char) (j : Nat) : (cellAt (inked cols text) j).isWide = false ∧
    (cellAt (inked cols text) j).isWideContinuation = false := by
  rcases cellAt_inked cols text j with blank | ⟨ch,_,letter⟩
  · rw [blank]; exact ⟨rfl,rfl⟩
  · rw [letter]; exact ⟨rfl,rfl⟩

section
variable [UnicodeWidth]

/-- A narrow glyph replaces its cell and nothing else. -/
theorem writeGlyph_inked {cols : Nat} {text : List Char} (room : text.length < cols) {ch : Char} (narrow : charWidth ch = 1) :
    writeGlyph (inked cols text) text.length cols (charWidth ch) (glyphCell ch {} none) = .ok (inked cols (text ++ [ch])) := by
  have width := length_inked (Nat.le_of_lt room)
  obtain ⟨written,writtenEq,length,cells⟩ :=
    writeGlyph_cellAt (show text.length < (inked cols text).length by omega) (charWidth ch) (glyphCell ch {} none)
  rw [width] at writtenEq
  have cell : glyphCell ch {} none = letterCell ch := by
    unfold glyphCell letterCell
    rw [narrow]
    rfl
  have same : written = inked cols (text ++ [ch]) := by
    rw [← inked_set room]
    refine row_ext (by rw [length,List.length_set]) fun j bound => ?_
    rw [length] at bound
    have whole : ¬ Splits (inked cols text) text.length (charWidth ch) j := by
      rintro (⟨_,continuation⟩ | ⟨_,_,wide⟩ | ⟨_,double,_⟩)
      · exact absurd ((inked_narrow cols text _).2.symm.trans continuation) Bool.false_ne_true
      · exact absurd ((inked_narrow cols text _).1.symm.trans wide) Bool.false_ne_true
      · omega
    rw [cells j bound,cellAt_set,if_neg whole,cell]
    by_cases here : j = text.length
    · rw [if_pos here,if_pos ⟨here.symm,bound⟩]
    · rw [if_neg here,if_neg (by omega),if_neg (fun same => here same.1.symm)]
  rw [writtenEq,same]

end

/-! ## The tape -/

namespace RowStore

variable {s : RowStore}

theorem entries_setRow (aligned : s.wraps.length = s.rows.length) {i : Nat} {old : Row} {wrap : RowWrap}
    (here : s.entries[i]? = some (old,wrap)) (row : Row) :
    ({ s with rows := s.rows.set i row } : RowStore).entries = s.entries.set i (row,wrap) := by
  have flags : (s.entries.map Prod.snd).set i wrap = s.entries.map Prod.snd := by
    obtain ⟨inside,same⟩ := List.getElem?_eq_some_iff.mp here
    rw [show wrap = s.entries[i].2 from congrArg Prod.snd same.symm,← List.map_set,List.set_getElem_self]
  have stored : ({ s with rows := s.rows.set i row } : RowStore) = ofEntries (s.entries.set i (row,wrap)) := by
    have whole := ofEntries_entries aligned
    unfold ofEntries at whole ⊢
    rw [List.map_set,List.map_set,flags]
    exact congrArg (fun s : RowStore => { s with rows := s.rows.set i row }) whole.symm
  rw [stored,entries_ofEntries]

theorem entries_setWrap (aligned : s.wraps.length = s.rows.length) {i : Nat} {row : Row} {old : RowWrap}
    (here : s.entries[i]? = some (row,old)) (wrap : RowWrap) : (s.setWrap i wrap).entries = s.entries.set i (row,wrap) := by
  have kept : (s.entries.map Prod.fst).set i row = s.entries.map Prod.fst := by
    obtain ⟨inside,same⟩ := List.getElem?_eq_some_iff.mp here
    rw [show row = s.entries[i].1 from congrArg Prod.fst same.symm,← List.map_set,List.set_getElem_self]
  have stored : s.setWrap i wrap = ofEntries (s.entries.set i (row,wrap)) := by
    have whole := ofEntries_entries aligned
    unfold ofEntries at whole ⊢
    rw [List.map_set,List.map_set,kept]
    exact congrArg (fun s : RowStore => s.setWrap i wrap) whole.symm
  rw [stored,entries_ofEntries]

/-- The whole screen scrolled by a line. -/
theorem entries_scrolled (aligned : s.wraps.length = s.rows.length) (some : s.rows ≠ []) (cols : Nat) (wrap : RowWrap) :
    (s.shiftUp 0 (s.rows.length - 1) 1 cols wrap).entries = s.entries.tail ++ [(blankRow cols,wrap)] := by
  have count : s.entries.length = s.rows.length := length_entries aligned
  have someEntry : s.entries ≠ [] := List.length_pos_iff.mp (count ▸ List.length_pos_iff.mpr some)
  rw [entries_shiftUp aligned,← count,shiftUp_whole someEntry]

/-- A row fed to a store with room for it. -/
theorem entries_feed_room {limit : Nat} (aligned : s.wraps.length = s.rows.length) (entry : Row × RowWrap) (room : s.len < limit) :
    (s.feed limit [entry]).entries = s.entries ++ [entry] := by
  rw [entries_feed aligned,List.foldl_cons,List.foldl_nil]
  unfold slide
  rw [if_neg (by rw [length_entries aligned]; omega)]

end RowStore

/-- A row of a sheet on a screen. -/
def inkedRow (cols : Nat) (row : List Char × Bool) : Row × RowWrap := (inked cols row.1,if row.2 then .soft else .hard)

/-- The operations of CR LF. -/
def crlf : List Op := [.clearPendingWrap,.carriageReturn,.clearPendingWrap,.newline]

namespace Grid

variable {g h : Grid} {s : Sheet Char} {rows cols limit : Nat}

/-- The scrollback, and the primary screen below it. -/
def tape (g : Grid) : List (Row × RowWrap) := g.scrollback.entries ++ g.primary.entries

/-- The rows from the oldest one to the cursor. -/
def writtenRows (g : Grid) : List (Row × RowWrap) := g.scrollback.entries ++ g.activeGrid.entries.take (g.cursorRow + 1)

/-- Their lines: a row that is marked as wrapped is joined to the one above. -/
def textLines (g : Grid) : List (List Char) := Lib.joined (g.writtenRows.map fun entry => (rowText entry.1,entry.2 == .soft))

/-- A sheet of text, and nothing below it. -/
structure Shows (rows cols limit : Nat) (s : Sheet Char) (g : Grid) : Prop where
  shaped : g.Shaped RowOk
  size : g.rows = rows ∧ g.cols = cols ∧ g.scrollbackLimit = limit
  primary : g.modeFlags.altScreen = false
  autowrap : g.modeFlags.noAutowrap = false
  margins : g.scrollTop = 0 ∧ g.scrollBottom = rows - 1
  pen : g.currentAttrs = {} ∧ g.activeHyperlink = none
  tape : g.tape = s.rows.map (inkedRow cols) ++ List.replicate (rows - 1 - g.cursorRow) (blankRow cols,.hard)
  letters : ∀ ch ∈ s.row, ch ≠ zwj

namespace Shows

theorem activeGrid (shows : Shows rows cols limit s g) : g.activeGrid = g.primary := by
  unfold Grid.activeGrid
  rw [shows.primary]
  rfl

/-- How many rows are above the one typed on. -/
theorem place (shows : Shows rows cols limit s g) : s.above.length = g.scrollback.len + g.cursorRow := by
  have cursor := shows.shaped.cursorRow
  have length := congrArg List.length shows.tape
  have screen := shows.shaped.primary
  rw [Grid.tape,List.length_append,RowStore.length_entries shows.shaped.historyWraps,
    RowStore.length_entries (screen.wrapCount.trans screen.rowCount.symm),RowStore.len,RowStore.len,screen.rowCount,List.length_append,
    List.length_map,List.length_replicate,Sheet.length_rows,shows.size.1] at length
  rw [shows.size.1] at cursor
  rw [RowStore.len]
  omega

theorem tape_at (shows : Shows rows cols limit s g) (i : Nat) : g.tape[g.scrollback.len + i]? = g.primary.entries[i]? := by
  have history := RowStore.length_entries shows.shaped.historyWraps
  unfold Grid.tape
  rw [List.getElem?_append_right (by omega),history,Nat.add_sub_cancel_left]

/-- The row typed on is the cursor's. -/
theorem cursorEntry (shows : Shows rows cols limit s g) :
    g.primary.entries[g.cursorRow]? = some (inkedRow cols (s.row,s.goesOn)) := by
  rw [← shows.tape_at,← shows.place,shows.tape]
  simp [Sheet.rows]

theorem cursorCells (shows : Shows rows cols limit s g) : g.cursorCells = inked cols s.row := by
  have entry := shows.cursorEntry
  unfold RowStore.entries at entry
  rw [List.getElem?_zip_eq_some] at entry
  unfold Grid.cursorCells
  rw [shows.activeGrid,entry.1]
  rfl

/-- An edit of the screen, on the tape. -/
theorem tape_set (shows : Shows rows cols limit s g) (i : Nat) (entry : Row × RowWrap) :
    g.scrollback.entries ++ g.primary.entries.set i entry = g.tape.set (g.scrollback.len + i) entry := by
  have history := RowStore.length_entries shows.shaped.historyWraps
  unfold Grid.tape
  rw [List.set_append_right _ _ (by omega),history,Nat.add_sub_cancel_left]

/-- The cursor at the margin. -/
theorem home (shows : Shows rows cols limit s g) : Shows rows cols limit s (g.setCursorCol 0 false) := by
  have cols := shows.shaped.hasCols
  have shaped : (g.setCursorCol 0 false).Shaped RowOk :=
    { shows.shaped with cursorCol := Nat.zero_le _, parked := by simp only [setCursorCol,Bool.false_eq_true,iff_false]; omega }
  exact { shows with shaped := shaped }

/-- A line feed at the bottom scrolls the first row of the screen into the scrollback. -/
theorem tape_scrolled (shows : Shows rows cols limit s g) (two : 2 ≤ rows) (room : s.rows.length < rows + limit)
    (atBottom : g.cursorRow = rows - 1) (wrap : RowWrap) :
    (g.scrollback.feed g.scrollbackLimit (g.leaving g.scrollTop (g.scrollDistance 1))).entries ++
      (g.scrolledScreen 1 wrap).entries = g.tape ++ [(blankRow cols,wrap)] := by
  obtain ⟨sizeRows,sizeCols,sizeLimit⟩ := shows.size
  obtain ⟨top,bottom⟩ := shows.margins
  have place := shows.place
  have screen := shows.shaped.primary
  have aligned : g.primary.wraps.length = g.primary.rows.length := screen.wrapCount.trans screen.rowCount.symm
  have some : g.primary.rows ≠ [] := List.length_pos_iff.mp (by rw [screen.rowCount]; omega)
  rw [Sheet.length_rows] at room
  have distance : g.scrollDistance 1 = 1 := by
    unfold scrollDistance
    rw [if_pos (by omega)]
    omega
  obtain ⟨first,later,entries⟩ : ∃ first later, g.primary.entries = first :: later := by
    refine List.exists_cons_of_ne_nil (List.length_pos_iff.mp ?_)
    rw [RowStore.length_entries aligned,RowStore.len,screen.rowCount]
    omega
  have leaves : g.leaving g.scrollTop 1 = [first] := by
    have taken : g.leaving g.scrollTop 1 = g.primary.entries.take 1 := if_pos ⟨shows.primary,top,by omega⟩
    rw [taken,entries]
    rfl
  have scrolled : g.scrolledScreen 1 wrap = g.primary.shiftUp 0 (g.primary.rows.length - 1) 1 cols wrap := by
    unfold scrolledScreen
    rw [shows.activeGrid,distance,top,bottom,sizeCols,screen.rowCount,sizeRows]
  rw [distance,leaves,scrolled,RowStore.entries_feed_room shows.shaped.historyWraps _ (by omega),RowStore.entries_scrolled aligned some,
    Grid.tape,entries]
  simp

/-- Off the bottom it takes the next of the blank rows. -/
theorem tape_lineDown (shows : Shows rows cols limit s g) (above : g.cursorRow < rows - 1) (wrap : RowWrap) :
    (g.lineDown wrap).cursorRow = g.cursorRow + 1 ∧ (g.lineDown wrap).tape =
      s.rows.map (inkedRow cols) ++ (blankRow cols,wrap) :: List.replicate (rows - 1 - (g.cursorRow + 1)) (blankRow cols,.hard) := by
  obtain ⟨sizeRows,_,_⟩ := shows.size
  have place := shows.place
  have screen := shows.shaped.primary
  have next : addCursorOffset g.cursorRow 1 (g.rows - 1) = g.cursorRow + 1 := by
    have fits := shows.shaped.rowsFit
    unfold addCursorOffset satAdd16
    rw [Nat.min_eq_left (show g.cursorRow + 1 ≤ u16Max by omega),Nat.min_eq_left (by omega)]
  have below : List.replicate (rows - 1 - g.cursorRow) (blankRow cols,RowWrap.hard) =
      (blankRow cols,.hard) :: List.replicate (rows - 1 - (g.cursorRow + 1)) (blankRow cols,.hard) := by
    rw [← List.replicate_succ]
    congr 1
    omega
  have written : (s.rows.map (inkedRow cols)).length = g.scrollback.len + (g.cursorRow + 1) := by
    rw [List.length_map,Sheet.length_rows]
    omega
  have nextEntry : g.primary.entries[g.cursorRow + 1]? = some (blankRow cols,.hard) := by
    rw [← shows.tape_at,shows.tape,List.getElem?_append_right (by omega),written,Nat.sub_self,below]
    rfl
  have flagged : (g.lineDown wrap).primary = g.primary.setWrap (g.cursorRow + 1) wrap := by
    unfold lineDown setActiveRowWrap setActiveGrid Grid.activeGrid
    simp only [shows.primary,Bool.false_eq_true,if_false,next]
  refine ⟨next,?_⟩
  have tape : (g.lineDown wrap).tape = g.scrollback.entries ++ (g.lineDown wrap).primary.entries := rfl
  rw [tape,flagged,RowStore.entries_setWrap (screen.wrapCount.trans screen.rowCount.symm) nextEntry,shows.tape_set,shows.tape,
    List.set_append_right _ _ (by omega),written,Nat.sub_self,below,List.set_cons_zero]

section
variable [UnicodeWidth]

/-- A line feed starts a row of the sheet. -/
theorem newline (shows : Shows rows cols limit s g) (two : 2 ≤ rows) (room : s.rows.length < rows + limit) (goesOn : Bool) :
    ∃ h, g.newlineActionWithWrap (if goesOn then .soft else .hard) = .ok h ∧ Shows rows cols limit (s.breakRow goesOn) h ∧
      h.cursorCol = g.cursorCol ∧ h.modeFlags.pendingWrap = g.modeFlags.pendingWrap := by
  have inside := shows.shaped.cursorRow
  rw [shows.size.1] at inside
  have kept (h : Grid) (feeds : g.newlineActionWithWrap (if goesOn then .soft else .hard) = .ok h) : h.Shaped RowOk :=
    (shows.shaped.newlineActionWithWrap (rowOk_law fun _ => True).blank _).of_ok feeds
  have rowsAfter : (s.breakRow goesOn).rows.map (inkedRow cols) =
      s.rows.map (inkedRow cols) ++ [(blankRow cols,if goesOn then .soft else .hard)] := by
    unfold Sheet.breakRow
    rw [Sheet.rows,List.map_append,List.map_singleton]
    rfl
  by_cases atBottom : g.cursorRow = g.scrollBottom
  · have bottom := atBottom.trans shows.margins.2
    have feeds : g.newlineActionWithWrap (if goesOn then .soft else .hard) = .ok _ :=
      (if_pos atBottom).trans (shows.shaped.scrollUp_eq 1 _)
    have scrolled := shows.tape_scrolled two room bottom (if goesOn then .soft else .hard)
    rw [shows.tape,bottom,Nat.sub_self,List.replicate_zero,List.append_nil,← rowsAfter] at scrolled
    refine ⟨_,feeds,{ shows with shaped := kept _ feeds, tape := ?_, letters := fun _ none => absurd none List.not_mem_nil },rfl,rfl⟩
    have store : (if g.modeFlags.altScreen then g.primary else g.scrolledScreen 1 (if goesOn then .soft else .hard)) =
        g.scrolledScreen 1 (if goesOn then .soft else .hard) := by
      rw [shows.primary]
      rfl
    change _ ++ RowStore.entries (if g.modeFlags.altScreen then g.primary else _) = _ ++ List.replicate (rows - 1 - g.cursorRow) _
    rw [store,bottom,Nat.sub_self,List.replicate_zero,List.append_nil]
    exact scrolled
  · have bottom := shows.margins.2
    have feeds : g.newlineActionWithWrap (if goesOn then .soft else .hard) = .ok (g.lineDown _) := if_neg atBottom
    obtain ⟨next,tape⟩ := shows.tape_lineDown (show g.cursorRow < rows - 1 by omega) (if goesOn then .soft else .hard)
    refine ⟨_,feeds,{ shows with shaped := kept _ feeds, tape := ?_, letters := fun _ none => absurd none List.not_mem_nil },rfl,rfl⟩
    rw [tape,next,rowsAfter,List.append_assoc,List.singleton_append]

/-- A letter at the cursor. -/
theorem put (shows : Shows rows cols limit s g) (col : g.cursorCol = s.row.length) (room : s.row.length < cols) {ch : Char}
    (narrow : charWidth ch = 1) (letter : ch ≠ zwj) :
    ∃ h, g.placeChar ch (charWidth ch) = .ok h ∧ Shows rows cols limit (s.put ch) h ∧ h.cursorCol = (s.put ch).row.length := by
  obtain ⟨sizeRows,sizeCols,sizeLimit⟩ := shows.size
  have shaped := shows.shaped
  have inside : g.cursorCol < g.cols := by omega
  have fits : g.cursorCol + charWidth ch ≤ u16Max := by
    have fit := shaped.colsFit
    omega
  have screen := shaped.primary
  have edits : g.placeEdit ch g.cursorCells = .ok (inked cols (s.row ++ [ch])) := by
    unfold placeEdit
    rw [shows.cursorCells,col,sizeCols,shows.pen.1,shows.pen.2]
    exact writeGlyph_inked room narrow
  have edited : g.modifyActiveRow g.cursorRow (g.placeEdit ch) = .ok (g.setActiveGrid
      { g.activeGrid with rows := g.activeGrid.rows.set g.cursorRow (inked cols (s.row ++ [ch])) }) := by
    simp only [Grid.modifyActiveRow,RowStore.modifyRow,shaped.cursorCells.1,edits,ok_bind,pure_ok]
  have placed := placeChar_eq shaped inside edited
  rw [if_pos fits] at placed
  refine ⟨_,placed,?_,?_⟩
  · refine
      { shaped := (shaped.placeChar (rowOk_law fun _ => True) trivial (by omega)).of_ok placed
        size := ⟨sizeRows,sizeCols,sizeLimit⟩
        primary := shows.primary
        autowrap := shows.autowrap
        margins := shows.margins
        pen := shows.pen
        tape := ?_
        letters := ?_ }
    · have store : (if g.modeFlags.altScreen then g.primary else
          { g.activeGrid with rows := g.activeGrid.rows.set g.cursorRow (inked cols (s.row ++ [ch])) }) =
          { g.primary with rows := g.primary.rows.set g.cursorRow (inked cols (s.row ++ [ch])) } := by
        rw [shows.activeGrid,shows.primary]
        rfl
      change g.scrollback.entries ++ RowStore.entries (if g.modeFlags.altScreen then g.primary else _) = _
      rw [store,RowStore.entries_setRow (screen.wrapCount.trans screen.rowCount.symm) shows.cursorEntry,shows.tape_set,← shows.place,
        shows.tape]
      simp only [Sheet.rows,Sheet.put,List.map_append,List.append_assoc,List.map_cons,List.map_nil]
      rw [List.set_append_right _ _ (by rw [List.length_map]),List.length_map,Nat.sub_self]
      rfl
    · intro other inside
      rcases List.mem_append.mp inside with before | now
      · exact shows.letters other before
      · rw [List.mem_singleton.mp now]
        exact letter
  · change min (g.cursorCol + charWidth ch) g.cols = (s.row ++ [ch]).length
    rw [List.length_append,List.length_singleton]
    omega

/-- A letter is no part of the cluster before it. -/
theorem joinCol_none (shows : Shows rows cols limit s g) {ch : Char} (narrow : charWidth ch = 1) : g.joinCol ch = none := by
  have apart (j : Nat) : ¬ Joins ch (cellAt g.cursorCells j).contents := by
    rintro ⟨_,_,zero | ends⟩
    · omega
    · rw [shows.cursorCells] at ends
      rcases cellAt_inked cols s.row j with blank | ⟨other,inside,letter⟩
      · rw [blank] at ends
        cases ends
      · rw [letter] at ends
        exact shows.letters other inside (by simpa [letterCell,endsWithZwj] using ends)
  unfold joinCol
  split
  · rfl
  · cases g.clusterTarget with
    | none => rfl
    | some target => exact if_neg (apart _)

/-- Printing a letter types it on the sheet. -/
theorem print (shows : Shows rows cols limit s g) (two : 2 ≤ rows) (col : g.cursorCol = s.row.length) {ch : Char}
    (narrow : charWidth ch = 1) (letter : ch ≠ zwj) (room : (s.type cols ch).rows.length ≤ rows + limit) :
    ∃ h, g.writeCharAtCursor ch = .ok h ∧ Shows rows cols limit (s.type cols ch) h ∧
      h.cursorCol = (s.type cols ch).row.length := by
  have hasCols := shows.shaped.hasCols
  have inside := shows.shaped.cursorCol
  have parked := shows.shaped.parked
  rw [shows.size.2.1] at hasCols inside parked
  rw [Sheet.length_type] at room
  have touched : Shows rows cols limit s g.touched := { shows with shaped := { shows.shaped with } }
  have writes : g.writeCharAtCursor ch = g.touched.writeNewCell ch (charWidth ch) := by
    rw [writeCharAtCursor_eq shows.shaped,touched.joinCol_none narrow]
    exact if_neg (by omega)
  have places {h : Grid} (autowrap : h.modeFlags.noAutowrap = false) (wraps : g.touched.deferredWrap = .ok h) :
      g.touched.writeNewCell ch (charWidth ch) = h.placeChar ch (charWidth ch) := by
    unfold writeNewCell
    rw [wraps,ok_bind,autowrap]
    rfl
  rw [writes]
  unfold Sheet.type
  by_cases full : s.row.length = cols
  · have pending : g.modeFlags.pendingWrap = true := parked.mp (col.trans full)
    have wraps : g.touched.deferredWrap = (g.touched.setCursorCol 0 false).newlineActionWithWrap .soft :=
      if_pos ⟨pending,shows.autowrap⟩
    rw [if_pos full] at room ⊢
    obtain ⟨f,feeds,broken,cursor,_⟩ := touched.home.newline two (by omega) true
    have start : f.cursorCol = (s.breakRow true).row.length := cursor
    rw [places broken.autowrap (wraps.trans feeds)]
    exact broken.put start hasCols narrow letter
  · have unparked : g.modeFlags.pendingWrap = false := by
      cases pending : g.modeFlags.pendingWrap with
      | false => rfl
      | true => exact absurd (col.symm.trans (parked.mpr pending)) full
    have stays : g.touched.deferredWrap = .ok g.touched :=
      if_neg fun wraps => Bool.false_ne_true (unparked.symm.trans wraps.1)
    rw [if_neg full]
    rw [places touched.autowrap stays]
    exact touched.put col (by omega) narrow letter

/-- CR LF ends the row. -/
theorem endLine (shows : Shows rows cols limit s g) (two : 2 ≤ rows) (room : s.rows.length < rows + limit) :
    ∃ h, g.execAll crlf = .ok h ∧ Shows rows cols limit (s.breakRow false) h ∧ h.cursorCol = 0 := by
  have returned : ({ g.clearPendingWrap with cursorCol := 0 } : Grid).Shaped RowOk :=
    shows.shaped.clearPendingWrap.moveTo rfl shows.shaped.cursorRow shows.shaped.hasCols
  have ready : Shows rows cols limit s ({ g.clearPendingWrap with cursorCol := 0 } : Grid).clearPendingWrap :=
    { shows with shaped := returned.clearPendingWrap }
  obtain ⟨h,feeds,ended,cursor,_⟩ := ready.newline two room false
  refine ⟨h,?_,ended,?_⟩
  · simp only [crlf,execAll,List.foldlM_cons,List.foldlM_nil,Grid.exec,ok_bind]
    exact (congrArg (· >>= pure) feeds).trans (ok_bind _ _)
  · rw [cursor]
    exact if_neg (Nat.not_le.mpr shows.shaped.hasCols)

/-- Letters printed one after the other. -/
theorem write {line : List Char} (two : 2 ≤ rows) (letters : ∀ ch ∈ line, charWidth ch = 1 ∧ ch ≠ zwj) {s : Sheet Char} {g : Grid}
    (shows : Shows rows cols limit s g) (col : g.cursorCol = s.row.length)
    (room : (s.write cols line).rows.length ≤ rows + limit) :
    ∃ h, g.execAll (line.map .print) = .ok h ∧ Shows rows cols limit (s.write cols line) h := by
  induction line generalizing s g with
  | nil => exact ⟨g,rfl,shows⟩
  | cons ch line ih =>
    obtain ⟨narrow,letter⟩ := letters ch List.mem_cons_self
    have mono := Sheet.length_le_write cols (s.type cols ch) line
    obtain ⟨f,printed,shown,cursor⟩ := shows.print two col narrow letter (Nat.le_trans mono room)
    obtain ⟨h,rest,written⟩ := ih (fun ch inside => letters ch (List.mem_cons_of_mem _ inside)) shown cursor room
    refine ⟨h,?_,written⟩
    unfold execAll at rest ⊢
    rw [List.map_cons,List.foldlM_cons,Grid.exec,printed]
    exact rest

/-- Lines after CR LF each. -/
theorem writeAll {lines : List (List Char)} (two : 2 ≤ rows) (letters : ∀ line ∈ lines, ∀ ch ∈ line, charWidth ch = 1 ∧ ch ≠ zwj)
    {s : Sheet Char} {g : Grid} (shows : Shows rows cols limit s g) (room : (s.writeAll cols lines).rows.length ≤ rows + limit) :
    ∃ h, g.execAll (lines.flatMap fun line => crlf ++ line.map .print) = .ok h ∧
      Shows rows cols limit (s.writeAll cols lines) h := by
  induction lines generalizing s g with
  | nil => exact ⟨g,rfl,shows⟩
  | cons line lines ih =>
    have whole := Nat.le_trans (Sheet.length_le_writeAll cols ((s.breakRow false).write cols line) lines) room
    have first := Nat.le_trans (Sheet.length_le_write cols (s.breakRow false) line) whole
    rw [Sheet.length_breakRow] at first
    obtain ⟨e,ended,fresh,cursor⟩ := shows.endLine two first
    obtain ⟨f,written,shown⟩ := fresh.write two (letters line List.mem_cons_self) cursor whole
    obtain ⟨h,rest,all⟩ := ih (fun line inside => letters line (List.mem_cons_of_mem _ inside)) shown room
    refine ⟨h,?_,all⟩
    unfold execAll at ended written rest ⊢
    rw [List.flatMap_cons,List.foldlM_append,List.foldlM_append,ended,ok_bind,written,ok_bind,rest]

end

/-- A new grid shows an empty sheet. -/
theorem new [UnicodeWidth] {rows cols : UInt16} (hasRows : 0 < rows) (hasCols : 0 < cols) (limit : Nat) :
    Shows rows.toNat cols.toNat limit {} (Grid.new rows cols limit) := by
  have positive : 0 < rows.toNat := UInt16.lt_iff_toNat_lt.mp hasRows
  refine
    { shaped := shaped_new (rowOk_law fun _ => True).blank hasRows hasCols limit
      size := ⟨rfl,rfl,rfl⟩
      primary := rfl
      autowrap := rfl
      margins := ⟨rfl,rfl⟩
      pen := ⟨rfl,rfl⟩
      tape := ?_
      letters := fun _ none => absurd none List.not_mem_nil }
  have blank := RowStore.entries_blank rows.toNat cols.toNat
  rw [show rows.toNat = rows.toNat - 1 + 1 by omega,List.replicate_succ] at blank
  rw [show rows.toNat - 1 + 1 = rows.toNat by omega] at blank
  exact blank

/-- The rows of the sheet are the rows down to the cursor. -/
theorem writtenRows (shows : Shows rows cols limit s g) : g.writtenRows = s.rows.map (inkedRow cols) := by
  have place := shows.place
  have history := RowStore.length_entries shows.shaped.historyWraps
  have written : (s.rows.map (inkedRow cols)).length = g.scrollback.entries.length + (g.cursorRow + 1) := by
    rw [List.length_map,Sheet.length_rows,history]
    omega
  have tape : g.scrollback.entries ++ g.primary.entries = _ := shows.tape
  unfold Grid.writtenRows
  rw [shows.activeGrid,← List.take_length_add_append,tape,← written,List.take_append_length]

theorem textLines (shows : Shows rows cols limit s g) : g.textLines = s.lines := by
  have back (row : List Char × Bool) : (rowText (inkedRow cols row).1,(inkedRow cols row).2 == .soft) = row := by
    obtain ⟨text,goesOn⟩ := row
    unfold inkedRow
    rw [rowText_inked]
    cases goesOn <;> rfl
  unfold Grid.textLines Sheet.lines
  rw [shows.writtenRows,List.map_map]
  exact congrArg Lib.joined ((List.map_congr_left fun row _ => back row).trans (List.map_id _))

end Shows

end Grid

/-! ## Lines -/

/-- The lines separated by CR LF. -/
def separated (lines : List (List Char)) : Bytes := List.intercalate [0x0d,0x0a] (lines.map utf8.spell)

/-- A line after CR LF, as the parser reads it. -/
def lineTokens (line : List Char) : List Token := .control 0x0d :: .control 0x0a :: line.map .text

theorem encodeAll_text (line : List Char) : encodeAll (line.map .text) = utf8.spell line := by
  unfold encodeAll
  rw [List.flatMap_map]
  rfl

theorem separated_cons (line : List Char) (lines : List (List Char)) :
    separated (line :: lines) = encodeAll (line.map .text ++ lines.flatMap lineTokens) := by
  unfold separated
  rw [encodeAll_append,encodeAll_text]
  induction lines generalizing line with
  | nil => exact List.append_nil _ ▸ List.intercalate_singleton
  | cons next lines ih =>
    rw [List.map_cons,List.map_cons,List.intercalate_cons_cons,← List.map_cons,ih,List.append_assoc,List.flatMap_cons,encodeAll_append,lineTokens,encodeAll_cons,encodeAll_cons,encodeAll_text]
    rfl

theorem lineTokens_ops (line : List Char) (lines : List (List Char)) :
    ((line.map Token.text ++ lines.flatMap lineTokens).map Token.callback).flatMap Callback.ops =
      line.map .print ++ lines.flatMap fun line => crlf ++ line.map .print := by
  have letters (line : List Char) : ((line.map Token.text).map Token.callback).flatMap Callback.ops = line.map .print := by
    induction line with
    | nil => rfl
    | cons ch line ih => exact congrArg (Op.print ch :: ·) ih
  rw [List.map_append,List.flatMap_append,letters]
  congr 1
  induction lines with
  | nil => rfl
  | cons next lines ih =>
    rw [List.flatMap_cons,List.flatMap_cons,List.map_append,List.flatMap_append,ih]
    congr 1
    exact congrArg (crlf ++ ·) (letters next)

section
variable [Vte] [UnicodeWidth]

omit [Vte] in
/-- What a new grid shows of the lines it is given. -/
theorem Grid.Shows.lines (joiner : charWidth zwj = 0) {rows cols : UInt16} (two : 2 ≤ rows) (hasCols : 0 < cols) {scrollbackLimit : Nat}
    {line : List Char} {lines : List (List Char)} (narrow : ∀ each ∈ line :: lines, ∀ ch ∈ each, charWidth ch = 1)
    (enough : ((line :: lines).map (Sheet.rowsFor cols.toNat)).sum ≤ rows.toNat + scrollbackLimit) :
    ∃ g, (Grid.new rows cols scrollbackLimit).execAll (line.map .print ++ lines.flatMap fun line => crlf ++ line.map .print) = .ok g ∧
      g.textLines = line :: lines := by
  have twoRows : 2 ≤ rows.toNat := UInt16.le_iff_toNat_le.mp two
  have oneCol : 0 < cols.toNat := UInt16.lt_iff_toNat_lt.mp hasCols
  have hasRows : 0 < rows := UInt16.lt_iff_toNat_lt.mpr (Nat.lt_of_lt_of_le Nat.zero_lt_two twoRows)
  have letters : ∀ each ∈ line :: lines, ∀ ch ∈ each, charWidth ch = 1 ∧ ch ≠ zwj := by
    intro each inside ch here
    refine ⟨narrow each inside ch here,?_⟩
    rintro rfl
    exact absurd (joiner.symm.trans (narrow each inside zwj here)) (by decide)
  have length : ((({} : Sheet Char).write cols.toNat line).writeAll cols.toNat lines).rows.length =
      ((line :: lines).map (Sheet.rowsFor cols.toNat)).sum := by
    rw [Sheet.length_writeAll_rows oneCol,Sheet.length_write_rows oneCol rfl,List.map_cons,List.sum_cons]
    exact congrArg (· + _) (Nat.zero_add _)
  have room := Nat.le_trans (Nat.le_of_eq length) enough
  obtain ⟨f,written,shown⟩ := (Grid.Shows.new hasRows hasCols scrollbackLimit).write twoRows (letters line List.mem_cons_self) rfl
    (Nat.le_trans (Sheet.length_le_writeAll _ _ lines) room)
  obtain ⟨g,later,shows⟩ := shown.writeAll twoRows (fun each inside => letters each (List.mem_cons_of_mem _ inside)) room
  refine ⟨g,?_,?_⟩
  · unfold Grid.execAll at written later ⊢
    rw [List.foldlM_append,written,ok_bind,later]
  · rw [shows.textLines,Sheet.lines_writeAll,Sheet.lines_write]
    rfl

namespace DamageGrid

omit [UnicodeWidth] in
/-- What the bytes of lines of text ask of the grid. -/
theorem ops_separated (laws : VteLaws) (rows cols : UInt16) (scrollbackLimit : Nat) {line : List Char} {lines : List (List Char)}
    (printable : ∀ each ∈ line :: lines, ∀ ch ∈ each, Printable ch) {chunks : List Bytes}
    (fed : chunks.flatten = separated (line :: lines)) :
    (new rows cols scrollbackLimit).ops chunks = line.map .print ++ lines.flatMap fun line => crlf ++ line.map .print := by
  have wellFormed : ∀ t ∈ line.map Token.text ++ lines.flatMap lineTokens, t.WellFormed := by
    intro t inside
    rcases List.mem_append.mp inside with start | later
    · obtain ⟨ch,here,rfl⟩ := List.mem_map.mp start
      exact printable line List.mem_cons_self ch here
    · obtain ⟨each,among,there⟩ := List.mem_flatMap.mp later
      rcases there with _ | ⟨_,_ | ⟨_,there⟩⟩
      · exact (by decide : IsC0 0x0d)
      · exact (by decide : IsC0 0x0a)
      · obtain ⟨ch,here,rfl⟩ := List.mem_map.mp there
        exact printable each (List.mem_cons_of_mem _ among) ch here
  rw [← lineTokens_ops,← parsed_tokens laws wellFormed (fed.trans (separated_cons line lines))]
  rfl

/-- Lines printed with CR LF between them are read back from the scrollback and the
    screen. No lines are printed as an empty one is. -/
theorem text_read_back (laws : VteLaws) (joiner : charWidth zwj = 0) {rows cols : UInt16} (two : 2 ≤ rows) (hasCols : 0 < cols)
    {scrollbackLimit : Nat} {lines : List (List Char)} (letters : ∀ line ∈ lines, ∀ ch ∈ line, Printable ch ∧ charWidth ch = 1)
    (enough : (lines.map (Sheet.rowsFor cols.toNat)).sum ≤ rows.toNat + scrollbackLimit) {chunks : List Bytes}
    (fed : chunks.flatten = separated lines) : ∃ d, (new rows cols scrollbackLimit).processAll chunks = .ok d ∧
      d.grid.textLines = if lines = [] then [[]] else lines := by
  have twoRows : 2 ≤ rows.toNat := UInt16.le_iff_toNat_le.mp two
  have some : ∃ first rest, separated lines = separated (first :: rest) ∧
      first :: rest = (if lines = [] then [[]] else lines) ∧
      (∀ line ∈ first :: rest, ∀ ch ∈ line, Printable ch ∧ charWidth ch = 1) ∧
      ((first :: rest).map (Sheet.rowsFor cols.toNat)).sum ≤ rows.toNat + scrollbackLimit := by
    cases lines with
    | nil => exact ⟨[],[],rfl,rfl,by simp,by simp [Sheet.rowsFor]; omega⟩
    | cons first rest => exact ⟨first,rest,rfl,rfl,letters,enough⟩
  obtain ⟨first,rest,bytes,whole,letters,enough⟩ := some
  have ops := ops_separated laws rows cols scrollbackLimit (fun each inside ch here => (letters each inside ch here).1)
    (fed.trans bytes)
  obtain ⟨g,ran,read⟩ := Grid.Shows.lines joiner two hasCols (fun each inside ch here => (letters each inside ch here).2) enough
  have performed := processAll_execAll (new rows cols scrollbackLimit) chunks
  rw [ops] at performed
  have performed := performed.trans ran
  cases done : (new rows cols scrollbackLimit).processAll chunks with
  | error e => rw [done] at performed; cases performed
  | ok d =>
    rw [done] at performed
    cases performed
    exact ⟨d,rfl,read.trans whole⟩

end DamageGrid

end

section
attribute [local instance] byteParser blockWidth

/-- Two columns: `abcd` fills two rows, and an empty line is between it and `e`. -/
theorem text_read_back_full_rows : ∃ d,
    (DamageGrid.new 2 2 2).processAll [separated [['a','b','c','d'],[],['e']]] = .ok d ∧
      d.grid.textLines = [['a','b','c','d'],[],['e']] :=
  DamageGrid.text_read_back byteParser_laws (by decide) (show (2 : UInt16) ≤ 2 by decide) (show (0 : UInt16) < 2 by decide)
    (show ∀ line ∈ [['a','b','c','d'],[],['e']], ∀ ch ∈ line, Printable ch ∧ charWidth ch = 1 by
      simp only [List.forall_mem_cons,List.not_mem_nil,false_implies,implies_true,and_true]
      decide)
    (by decide) (List.append_nil _)

/-- Nothing is fed for no lines, and the screen reads as an empty one. -/
theorem no_lines_read_as_one : ∃ d,
    (DamageGrid.new 2 2 2).processAll [separated []] = .ok d ∧ d.grid.textLines ≠ [] :=
  ⟨_,rfl,by decide⟩

end

end Termpane
