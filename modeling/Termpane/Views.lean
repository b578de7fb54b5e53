import Termpane.ByteParser
import Termpane.Observe
import Termpane.History

/-!
# Views of the history

The readers of a grid scrolled back by some rows: the owned snapshot of
`dump_scrollback_view`, the borrowed `GridView` and the row under a click. Each
lays a prefix of the scrollback over the screen with clamps of its own; all three
are one window of the history followed by the screen.
-/
namespace Termpane

/-- `RowStore::get`. -/
def RowStore.get (s : RowStore) (row : Nat) : Option Row := s.rows[row]?

/-! ## The readers -/

/-- Borrowed terminal view for render paths that do not need an owned snapshot. -/
structure GridView where
  rows : Nat
  cols : Nat
  cursor : Nat × Nat
  alternateScreen : Bool
  screen : RowStore
  scrollback : RowStore
  scrollbackStart : Nat
  scrollbackPrefix : Nat
  deriving DecidableEq, Repr

namespace GridView

/-- `GridView::cell`. -/
def cell (v : GridView) (row col : Nat) : Option Cell :=
  if row ≥ v.rows ∨ col ≥ v.cols then none
  else if row < v.scrollbackPrefix then (v.scrollback.get (v.scrollbackStart + row)).bind (·[col]?)
  else (v.screen.get (row - v.scrollbackPrefix)).bind (·[col]?)

/-- `GridView::row_wrap`. -/
def rowWrap (v : GridView) (row : Nat) : Option RowWrap :=
  if row ≥ v.rows then none
  else if row < v.scrollbackPrefix then v.scrollback.wrap (v.scrollbackStart + row)
  else v.screen.wrap (row - v.scrollbackPrefix)

end GridView

/-- The cell of a snapshot at a position. -/
def GridSnapshot.cell (s : GridSnapshot) (row col : Nat) : Option SnapCell := s.cells[row]?.bind (·[col]?)

namespace Grid

/-- `scrollback_rows_at_offset`. -/
def scrollbackRowsAtOffset (g : Grid) (offset maxRows : Nat) : List Row :=
  let len := g.scrollback.len
  if offset = 0 ∨ len = 0 ∨ maxRows = 0 then []
  else
    let clamped := min offset len
    let start := len - clamped
    let stop := min (start + maxRows) len
    (List.range' start (stop - start)).filterMap g.scrollback.get

/-- `dump_scrollback_view`. -/
def dumpScrollbackView (g : Grid) (offset viewportRows : Nat) : GridSnapshot :=
  let live := g.dump
  if offset = 0 then live
  else
    let rowsToDraw := min viewportRows g.rows
    let sb := g.scrollbackRowsAtOffset offset rowsToDraw
    if sb.isEmpty then live
    else
      let prefixRows := min sb.length rowsToDraw
      let cells := (sb.take prefixRows).map (·.map SnapCell.ofCell) ++ live.cells.take (rowsToDraw - prefixRows)
      let clamped := min offset g.scrollback.len
      let start := g.scrollback.len - clamped
      let rowWraps := (List.range' start prefixRows).map (fun idx => (g.scrollback.wrap idx).getD .hard) ++
        live.rowWraps.take (rowsToDraw - prefixRows)
      { rows := rowsToDraw
        cols := g.cols
        cursor := live.cursor
        alternateScreen := live.alternateScreen
        cells := cells
        rowWraps := rowWraps }

/-- `scrollback_view`. -/
def scrollbackView (g : Grid) (offset viewportRows : Nat) : GridView :=
  let view : GridView :=
    { rows := g.rows
      cols := g.cols
      cursor := (g.cursorRow,g.cursorCol)
      alternateScreen := g.modeFlags.altScreen
      screen := g.activeGrid
      scrollback := g.scrollback
      scrollbackStart := 0
      scrollbackPrefix := 0 }
  if offset = 0 ∨ g.scrollback.len = 0 ∨ viewportRows = 0 then view
  else
    let rowsToDraw := min viewportRows g.rows
    let clamped := min offset g.scrollback.len
    let start := g.scrollback.len - clamped
    { view with
      rows := rowsToDraw
      scrollbackStart := start
      scrollbackPrefix := min (min (start + rowsToDraw) g.scrollback.len - start) rowsToDraw }

/-- `active_content_row_cells`. -/
def activeContentRowCells (g : Grid) (contentRow : Nat) : Option Row :=
  if g.scrollbackOffset = 0 then g.activeGrid.get contentRow
  else
    let viewportRows := g.rows
    let start := g.scrollback.len - min g.scrollbackOffset g.scrollback.len
    let prefixRows := min (min (start + viewportRows) g.scrollback.len - start) viewportRows
    if contentRow < prefixRows then g.scrollback.get (start + contentRow)
    else g.activeGrid.get (contentRow - prefixRows)

/-- `hyperlink_target_at_content_row`. -/
def hyperlinkTargetAtContentRow (g : Grid) (contentRow col : Nat) : Option (List Char) := do
  let cells ← g.activeContentRowCells contentRow
  let cell ← cells[col]?
  let link ← cell.hyperlink
  return link.uri

/-! ## The window -/

/-- The rows of the history and, below them, of the screen. -/
def transcript (g : Grid) : List (Row × RowWrap) := g.scrollback.entries ++ g.activeGrid.entries

/-- How many rows above the screen a viewer stands: an empty viewport shows the
    screen itself. -/
def viewBack (offset viewportRows : Nat) : Nat := if viewportRows = 0 then 0 else offset

/-- How many rows it sees: the viewport's only where there is history to show. -/
def viewHeight (g : Grid) (offset viewportRows : Nat) : Nat :=
  if offset = 0 ∨ g.scrollback.len = 0 ∨ viewportRows = 0 then g.rows else min viewportRows g.rows

/-- What is to see from `back` rows above the screen. -/
def window (g : Grid) (back height : Nat) : List (Row × RowWrap) :=
  (g.transcript.drop (g.scrollback.len - back)).take height

/-- What a viewer of some height sees. -/
def viewed (g : Grid) (offset viewportRows : Nat) : List (Row × RowWrap) :=
  g.window (viewBack offset viewportRows) (g.viewHeight offset viewportRows)

end Grid

section
variable {α : Type} {history screen : List α} {start : Nat}

private theorem laid_eq (inside : start ≤ history.length) (height : Nat) :
    ((history ++ screen).drop start).take height =
      (history.drop start).take height ++ screen.take (height - min (history.length - start) height) := by
  have beyond : height - (history.length - start) = height - min (history.length - start) height := by omega
  rw [List.drop_append_of_le_length inside,List.take_append,List.length_drop,beyond]

private theorem laid_getElem? (inside : start ≤ history.length) {height row : Nat} (shown : row < height) :
    (((history ++ screen).drop start).take height)[row]? =
      if row < min (history.length - start) height then history[start + row]?
      else screen[row - min (history.length - start) height]? := by
  rw [List.getElem?_take_of_lt shown,List.getElem?_drop]
  split_ifs with above
  · exact List.getElem?_append_left (by omega)
  · rw [List.getElem?_append_right (by omega)]
    congr 1
    omega

private theorem take_clamped (list : List α) (start height : Nat) :
    (list.drop start).take (min (list.length - start) height) = (list.drop start).take height := by
  rw [List.take_eq_take_iff,List.length_drop]
  omega

private theorem filterMap_range' (list : List α) (start count : Nat) :
    (List.range' start count).filterMap (list[·]?) = (list.drop start).take count := by
  induction count generalizing start with
  | zero => simp
  | succ count ih =>
    rw [List.range'_succ,List.filterMap_cons,ih (start + 1)]
    rcases Nat.lt_or_ge start list.length with inside | past
    · rw [List.getElem?_eq_getElem inside,List.drop_eq_getElem_cons inside,List.take_succ_cons]
    · simp [List.drop_eq_nil_of_le past,List.drop_eq_nil_of_le (Nat.le_succ_of_le past),past]

private theorem map_range'_getD (list : List α) (default : α) {start count : Nat} (inside : start + count ≤ list.length) :
    (List.range' start count).map (fun idx => list[idx]?.getD default) = (list.drop start).take count := by
  rw [← filterMap_range',← List.filterMap_eq_map]
  refine List.filterMap_congr fun idx member => ?_
  have bound : idx < list.length := by
    have := (List.mem_range'_1.mp member).2
    omega
  simp [List.getElem?_eq_getElem bound]

end

namespace Grid

variable {P : Row → Prop} {g : Grid}

theorem Shaped.window_rows (shaped : g.Shaped P) (back height : Nat) :
    (g.window back height).map Prod.fst =
      ((g.scrollback.rows ++ g.activeGrid.rows).drop (g.scrollback.rows.length - back)).take height := by
  have wraps := shaped.historyWraps
  have screenWraps : g.activeGrid.rows.length = g.activeGrid.wraps.length :=
    shaped.active.rowCount.trans shaped.active.wrapCount.symm
  unfold window transcript RowStore.entries
  rw [List.map_take,List.map_drop,List.map_append,List.map_fst_zip (Nat.le_of_eq wraps.symm),
    List.map_fst_zip (Nat.le_of_eq screenWraps)]
  rfl

theorem Shaped.window_wraps (shaped : g.Shaped P) (back height : Nat) :
    (g.window back height).map Prod.snd =
      ((g.scrollback.wraps ++ g.activeGrid.wraps).drop (g.scrollback.wraps.length - back)).take height := by
  have wraps := shaped.historyWraps
  have screenWraps : g.activeGrid.wraps.length = g.activeGrid.rows.length :=
    shaped.active.wrapCount.trans shaped.active.rowCount.symm
  unfold window transcript RowStore.entries
  rw [List.map_take,List.map_drop,List.map_append,List.map_snd_zip (Nat.le_of_eq wraps),
    List.map_snd_zip (Nat.le_of_eq screenWraps),wraps]
  rfl

theorem Shaped.window_row (shaped : g.Shaped P) (back : Nat) {height row : Nat} (shown : row < height) :
    (g.window back height)[row]?.map Prod.fst =
      if row < min (g.scrollback.len - (g.scrollback.len - back)) height then g.scrollback.get (g.scrollback.len - back + row)
      else g.activeGrid.get (row - min (g.scrollback.len - (g.scrollback.len - back)) height) := by
  rw [← List.getElem?_map,shaped.window_rows]
  exact laid_getElem? (Nat.sub_le ..) shown

theorem Shaped.window_wrap (shaped : g.Shaped P) (back : Nat) {height row : Nat} (shown : row < height) :
    (g.window back height)[row]?.map Prod.snd =
      if row < min (g.scrollback.len - (g.scrollback.len - back)) height then g.scrollback.wrap (g.scrollback.len - back + row)
      else g.activeGrid.wrap (row - min (g.scrollback.len - (g.scrollback.len - back)) height) := by
  have count : g.scrollback.wraps.length = g.scrollback.len := shaped.historyWraps
  rw [← List.getElem?_map,shaped.window_wraps,laid_getElem? (Nat.sub_le ..) shown,count]
  rfl

theorem scrollbackRowsAtOffset_eq (g : Grid) (offset maxRows : Nat) :
    g.scrollbackRowsAtOffset offset maxRows = (g.scrollback.rows.drop (g.scrollback.len - offset)).take maxRows := by
  have count : g.scrollback.rows.length = g.scrollback.len := rfl
  unfold scrollbackRowsAtOffset
  dsimp only
  split_ifs with none
  · rcases none with rfl | empty | rfl
    · simp [← count]
    · simp [List.length_eq_zero_iff.mp empty]
    · simp
  · have start : g.scrollback.len - min offset g.scrollback.len = g.scrollback.len - offset := by omega
    rw [start]
    refine (filterMap_range' g.scrollback.rows _ _).trans ?_
    rcases Nat.le_total (g.scrollback.len - offset + maxRows) g.scrollback.len with fits | past
    · rw [Nat.min_eq_left fits,Nat.add_sub_cancel_left]
    · rw [Nat.min_eq_right past,List.take_of_length_le (by rw [List.length_drop,count]),
        List.take_of_length_le (by rw [List.length_drop]; omega)]

/-! ## Each reader shows the window -/

theorem Shaped.dump_rowWraps (shaped : g.Shaped P) : g.dump.rowWraps = g.activeGrid.wraps := by
  have count := shaped.active.rowCount
  have wraps := shaped.active.wrapCount
  have len : g.activeGrid.len = g.activeGrid.wraps.length := count.trans wraps.symm
  have flags := map_range'_getD g.activeGrid.wraps .hard (show 0 + g.activeGrid.len ≤ g.activeGrid.wraps.length by omega)
  rw [List.drop_zero,len,List.take_length,← len,← List.range_eq_range'] at flags
  exact flags

theorem Shaped.dump_eq (shaped : g.Shaped P) : g.dump =
    { rows := g.rows
      cols := g.cols
      cursor := (g.cursorRow,g.cursorCol)
      alternateScreen := g.modeFlags.altScreen
      cells := (g.window 0 g.rows).map fun line => line.1.map SnapCell.ofCell
      rowWraps := (g.window 0 g.rows).map Prod.snd } := by
  have lines := shaped.window_rows 0 g.rows
  have flags := shaped.window_wraps 0 g.rows
  rw [Nat.sub_zero,List.drop_left,List.take_of_length_le (Nat.le_of_eq shaped.active.rowCount)] at lines
  rw [Nat.sub_zero,List.drop_left,List.take_of_length_le (Nat.le_of_eq shaped.active.wrapCount)] at flags
  have cells : (g.window 0 g.rows).map (fun line => line.1.map SnapCell.ofCell) =
      g.activeGrid.rows.map (·.map SnapCell.ofCell) := by
    rw [← lines,List.map_map]
    rfl
  rw [cells,flags,← shaped.dump_rowWraps]
  rfl

theorem scrollbackRowsAtOffset_length (g : Grid) (offset maxRows : Nat) : (g.scrollbackRowsAtOffset offset maxRows).length =
    min maxRows (g.scrollback.len - (g.scrollback.len - offset)) := by
  have count : g.scrollback.rows.length = g.scrollback.len := rfl
  rw [scrollbackRowsAtOffset_eq,List.length_take,List.length_drop,count]

/-- Not scrolled back, or with nothing to scroll back to, the dump is the live one. -/
theorem dumpScrollbackView_live (g : Grid) {offset viewportRows : Nat}
    (live : offset = 0 ∨ g.scrollback.len = 0 ∨ viewportRows = 0) : g.dumpScrollbackView offset viewportRows = g.dump := by
  unfold dumpScrollbackView
  dsimp only
  split_ifs with none empty
  · rfl
  · rfl
  · rw [List.isEmpty_iff_length_eq_zero,scrollbackRowsAtOffset_length] at empty
    omega

/-- The owned snapshot is the window, cell by cell and flag by flag. -/
theorem Shaped.dumpScrollbackView_eq (shaped : g.Shaped P) (offset viewportRows : Nat) :
    g.dumpScrollbackView offset viewportRows =
      { rows := g.viewHeight offset viewportRows
        cols := g.cols
        cursor := (g.cursorRow,g.cursorCol)
        alternateScreen := g.modeFlags.altScreen
        cells := (g.viewed offset viewportRows).map fun line => line.1.map SnapCell.ofCell
        rowWraps := (g.viewed offset viewportRows).map Prod.snd } := by
  have count : g.scrollback.rows.length = g.scrollback.len := rfl
  have wraps := shaped.historyWraps
  have hasRows : 0 < g.rows := Nat.zero_lt_of_lt shaped.cursorRow
  have length := g.scrollbackRowsAtOffset_length offset (min viewportRows g.rows)
  by_cases live : offset = 0 ∨ g.scrollback.len = 0 ∨ viewportRows = 0
  · have shown : g.viewed offset viewportRows = g.window 0 g.rows := by
      unfold viewed window viewHeight viewBack
      rw [if_pos live]
      rcases live with rfl | none | rfl
      · rw [ite_self]
      · rw [none,Nat.zero_sub,Nat.zero_sub]
      · rw [if_pos rfl]
    rw [g.dumpScrollbackView_live live,shaped.dump_eq,shown,viewHeight,if_pos live]
  · have shown : g.viewed offset viewportRows = g.window offset (min viewportRows g.rows) := by
      rw [viewed,viewHeight,viewBack,if_neg live,if_neg (by omega)]
    have start : g.scrollback.len - min offset g.scrollback.len = g.scrollback.len - offset := by omega
    have nonempty : ¬(g.scrollbackRowsAtOffset offset (min viewportRows g.rows)).isEmpty = true := by
      rw [List.isEmpty_iff_length_eq_zero,length]
      omega
    have lines := shaped.window_rows offset (min viewportRows g.rows)
    have flags := shaped.window_wraps offset (min viewportRows g.rows)
    rw [laid_eq (Nat.sub_le _ _)] at lines flags
    have cells : (g.window offset (min viewportRows g.rows)).map (fun line => line.1.map SnapCell.ofCell) =
        ((g.window offset (min viewportRows g.rows)).map Prod.fst).map (·.map SnapCell.ofCell) := (List.map_map ..).symm
    have screen : g.dump.cells = g.activeGrid.rows.map (·.map SnapCell.ofCell) := rfl
    have prefixRows : min (min (min viewportRows g.rows) (g.scrollback.len - (g.scrollback.len - offset))) (min viewportRows g.rows) =
        min (g.scrollback.len - (g.scrollback.len - offset)) (min viewportRows g.rows) := by omega
    have rowWraps := map_range'_getD g.scrollback.wraps .hard (show g.scrollback.len - offset +
      min (g.scrollback.len - (g.scrollback.len - offset)) (min viewportRows g.rows) ≤ g.scrollback.wraps.length by omega)
    unfold dumpScrollbackView
    dsimp only
    rw [if_neg (by omega),if_neg nonempty,shown,viewHeight,if_neg live,cells,lines,flags,shaped.dump_rowWraps,screen,
      length,start,prefixRows,List.map_append,List.map_take,List.map_take]
    congr 2
    · rw [← List.map_take,scrollbackRowsAtOffset_eq,List.take_take,← count,Nat.min_assoc,Nat.min_self,take_clamped,
        List.map_take]
    · rw [List.map_take,count]
    · rw [← take_clamped,wraps]
      exact rowWraps
    · rw [wraps,count]

/-- The clamps of a borrowed view are those of the window. -/
theorem scrollbackView_eq (g : Grid) (offset viewportRows : Nat) : ∃ start, g.scrollbackView offset viewportRows =
    { rows := g.viewHeight offset viewportRows
      cols := g.cols
      cursor := (g.cursorRow,g.cursorCol)
      alternateScreen := g.modeFlags.altScreen
      screen := g.activeGrid
      scrollback := g.scrollback
      scrollbackStart := start
      scrollbackPrefix := min (g.scrollback.len - (g.scrollback.len - viewBack offset viewportRows)) (g.viewHeight offset viewportRows) } ∧
    (0 < g.scrollback.len - (g.scrollback.len - viewBack offset viewportRows) →
      start = g.scrollback.len - viewBack offset viewportRows) := by
  unfold scrollbackView viewHeight viewBack
  dsimp only
  by_cases live : offset = 0 ∨ g.scrollback.len = 0 ∨ viewportRows = 0
  · have none : g.scrollback.len - (g.scrollback.len - if viewportRows = 0 then 0 else offset) = 0 := by
      split_ifs <;> omega
    refine ⟨0,?_,by omega⟩
    rw [if_pos live,if_pos live,none,Nat.zero_min]
  · have start : g.scrollback.len - min offset g.scrollback.len = g.scrollback.len - offset := by omega
    have clamp : min (min (g.scrollback.len - offset + min viewportRows g.rows) g.scrollback.len - (g.scrollback.len - offset))
        (min viewportRows g.rows) = min (g.scrollback.len - (g.scrollback.len - offset)) (min viewportRows g.rows) := by omega
    refine ⟨g.scrollback.len - offset,?_,fun _ => by rw [if_neg (by omega)]⟩
    rw [if_neg live,if_neg live,if_neg (by omega),start,clamp]

/-- What a borrowed view looks up, row by row, is the window. -/
theorem Shaped.scrollbackView_cell (shaped : g.Shaped P) (offset viewportRows : Nat) {row col : Nat}
    (shown : row < g.viewHeight offset viewportRows) (inside : col < g.cols) :
    (g.scrollbackView offset viewportRows).cell row col =
      (g.viewed offset viewportRows)[row]?.bind fun line => line.1[col]? := by
  obtain ⟨start,view,starts⟩ := g.scrollbackView_eq offset viewportRows
  have line := shaped.window_row (viewBack offset viewportRows) shown
  have fst : (g.viewed offset viewportRows)[row]?.bind (fun line => line.1[col]?) =
      ((g.viewed offset viewportRows)[row]?.map Prod.fst).bind (·[col]?) := by rw [Option.bind_map]; rfl
  rw [fst,viewed,line,view,GridView.cell]
  dsimp only
  rw [if_neg (by omega)]
  split_ifs with above
  · rw [starts (by omega)]
  · rfl

theorem Shaped.scrollbackView_rowWrap (shaped : g.Shaped P) (offset viewportRows : Nat) {row : Nat}
    (shown : row < g.viewHeight offset viewportRows) :
    (g.scrollbackView offset viewportRows).rowWrap row = (g.viewed offset viewportRows)[row]?.map Prod.snd := by
  obtain ⟨start,view,starts⟩ := g.scrollbackView_eq offset viewportRows
  rw [viewed,shaped.window_wrap _ shown,view,GridView.rowWrap]
  dsimp only
  rw [if_neg (by omega)]
  split_ifs with above
  · rw [starts (by omega)]
  · rfl

/-- So is the row under a click. -/
theorem Shaped.activeContentRowCells_eq (shaped : g.Shaped P) {row : Nat} (inside : row < g.rows) :
    g.activeContentRowCells row = (g.viewed g.scrollbackOffset g.rows)[row]?.map Prod.fst := by
  have height : g.viewHeight g.scrollbackOffset g.rows = g.rows := by
    unfold viewHeight
    split_ifs <;> omega
  have back : viewBack g.scrollbackOffset g.rows = g.scrollbackOffset := if_neg (by omega)
  rw [viewed,height,back,shaped.window_row _ inside]
  unfold activeContentRowCells
  dsimp only
  by_cases live : g.scrollbackOffset = 0
  · have none : g.scrollback.len - (g.scrollback.len - g.scrollbackOffset) = 0 := by omega
    rw [if_pos live,none,Nat.zero_min,if_neg (Nat.not_lt_zero _),Nat.sub_zero]
  · have start : g.scrollback.len - min g.scrollbackOffset g.scrollback.len = g.scrollback.len - g.scrollbackOffset := by omega
    have clamp : min (min (g.scrollback.len - g.scrollbackOffset + g.rows) g.scrollback.len -
        (g.scrollback.len - g.scrollbackOffset)) g.rows =
        min (g.scrollback.len - (g.scrollback.len - g.scrollbackOffset)) g.rows := by omega
    rw [if_neg live,start,clamp]

end Grid

/-! ## The readers agree -/

/-- A borrowed view and an owned snapshot that show the same. -/
structure GridView.Agrees (view : GridView) (dump : GridSnapshot) : Prop where
  rows : dump.rows = view.rows
  cols : dump.cols = view.cols
  cursor : dump.cursor = view.cursor
  alternateScreen : dump.alternateScreen = view.alternateScreen
  cells : ∀ row col, row < view.rows → col < view.cols → dump.cell row col = (view.cell row col).map SnapCell.ofCell
  rowWraps : ∀ row, row < view.rows → dump.rowWraps[row]? = view.rowWrap row

/-- The link of a view's cell. -/
def GridView.linkAt (view : GridView) (row col : Nat) : Option (List Char) :=
  (view.cell row col).bind fun cell => cell.hyperlink.map Hyperlink.uri

namespace Grid

variable {P : Row → Prop} {g : Grid}

theorem Shaped.view_agrees (shaped : g.Shaped P) (offset viewportRows : Nat) :
    (g.scrollbackView offset viewportRows).Agrees (g.dumpScrollbackView offset viewportRows) := by
  have dump := shaped.dumpScrollbackView_eq offset viewportRows
  obtain ⟨start,view,-⟩ := g.scrollbackView_eq offset viewportRows
  have rows : (g.scrollbackView offset viewportRows).rows = g.viewHeight offset viewportRows := by rw [view]
  have cols : (g.scrollbackView offset viewportRows).cols = g.cols := by rw [view]
  constructor
  case rows => rw [dump,view]
  case cols => rw [dump,view]
  case cursor => rw [dump,view]
  case alternateScreen => rw [dump,view]
  case cells =>
    intro row col shown inside
    rw [rows] at shown
    rw [cols] at inside
    rw [shaped.scrollbackView_cell offset viewportRows shown inside,dump,GridSnapshot.cell]
    dsimp only
    rw [List.getElem?_map]
    cases (g.viewed offset viewportRows)[row]? with
    | none => rfl
    | some line => exact List.getElem?_map ..
  case rowWraps =>
    intro row shown
    rw [rows] at shown
    rw [shaped.scrollbackView_rowWrap offset viewportRows shown,dump]
    exact List.getElem?_map ..

/-- A click finds the link of the cell drawn under it. -/
theorem Shaped.click_eq (shaped : g.Shaped P) {row col : Nat} (rowInside : row < g.rows) (colInside : col < g.cols) :
    g.hyperlinkTargetAtContentRow row col = (g.scrollbackView g.scrollbackOffset g.rows).linkAt row col := by
  have height : g.viewHeight g.scrollbackOffset g.rows = g.rows := by
    unfold viewHeight
    split_ifs <;> omega
  unfold hyperlinkTargetAtContentRow GridView.linkAt
  rw [shaped.activeContentRowCells_eq rowInside,shaped.scrollbackView_cell _ _ (by omega) colInside]
  cases (g.viewed g.scrollbackOffset g.rows)[row]? with
  | none => rfl
  | some line =>
    cases found : line.1[col]? with
    | none => simp [found]
    | some cell => cases linked : cell.hyperlink <;> simp [found,linked]

end Grid

section
variable [UnicodeWidth] [Vte]

namespace DamageGrid

/-- In every reachable state, at every offset and for every viewport, the readers
    of the history show the same rows, and a click hits the row drawn there. -/
theorem readers_agree {rows cols : UInt16} (hasRows : 0 < rows) (hasCols : 0 < cols) {scrollbackLimit : Nat}
    {run : List Call} {d : DamageGrid} (reached : (new rows cols scrollbackLimit).calls run = .ok d) :
    (∀ offset viewportRows,
      (d.grid.scrollbackView offset viewportRows).Agrees (d.grid.dumpScrollbackView offset viewportRows)) ∧
    ∀ row col, row < d.grid.rows → col < d.grid.cols → d.grid.hyperlinkTargetAtContentRow row col =
      (d.grid.scrollbackView d.grid.scrollbackOffset d.grid.rows).linkAt row col := by
  have shaped := ((calls_rowOk hasRows hasCols scrollbackLimit run).of_ok reached).1
  exact ⟨shaped.view_agrees,fun _ _ rowInside colInside => shaped.click_eq rowInside colInside⟩

end DamageGrid

end

section
attribute [local instance] byteParser blockWidth

/-- `A LF LF`, then a grid of twice the width scrolled back by one row: the row above
    the screen has no cell in the new columns. -/
theorem readers_agree_narrow_history : ∃ d, (DamageGrid.new 2 2 5).calls
      [.process [0x41,0x0a,0x0a],.host (.setSize 2 4),.host (.setScrollback 1)] = .ok d ∧
    (∀ offset viewportRows,
      (d.grid.scrollbackView offset viewportRows).Agrees (d.grid.dumpScrollbackView offset viewportRows)) ∧
    (∀ row col, row < d.grid.rows → col < d.grid.cols → d.grid.hyperlinkTargetAtContentRow row col =
      (d.grid.scrollbackView d.grid.scrollbackOffset d.grid.rows).linkAt row col) ∧
    ((d.grid.scrollbackView 1 9).cell 0 0).map Cell.contents = some ['A'] ∧ (d.grid.scrollbackView 1 9).cell 0 3 = none ∧
    (d.grid.scrollbackView 1 9).cell 1 3 = some default := by
  obtain ⟨views,clicks⟩ := DamageGrid.readers_agree (show (0 : UInt16) < 2 by decide) (show (0 : UInt16) < 2 by decide)
    (show (DamageGrid.new 2 2 5).calls [.process [0x41,0x0a,0x0a],.host (.setSize 2 4),.host (.setScrollback 1)] = _ from rfl)
  exact ⟨_,rfl,views,clicks,rfl,rfl,rfl⟩

end

end Termpane
