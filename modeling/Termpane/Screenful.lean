import Termpane.Frames
import Termpane.Painting

/-!
# Painting a screen

The full paint and the diff go through the rows with one brush, which knows where the
destination's cursor and pen are, and end with the cursor of the source.
-/
namespace Termpane

open Lib

section
variable [UnicodeWidth] {s : Settings} {k : Canvas}

/-! ## The start of a full paint -/

theorem resetPen_paints : Paints s (tell (ascii "\x1b[m")) k fun _ k' => k' = { k with pen := {} } := by
  have valid : (Token.plain [] 'm').WellFormed := plain_wellFormed (List.forall_mem_nil _) (Nat.zero_le _) (by decide)
  refine paints_tokens [.plain [] 'm'] { k with pen := {} } rfl (List.forall_mem_singleton.mpr valid) (fun g bears => ?_) rfl
  obtain ⟨shaped,rfl,rfl⟩ := bears
  exact ⟨{ g with currentAttrs := {} },terminal_one [.sgr [[0]]] rfl rfl,rfl,rfl⟩

omit [UnicodeWidth] in
theorem cuts_all {line : Nat → Cell} {cols j : Nat} (bound : j < cols) : Canvas.Cuts line 0 cols j := .inl ⟨Nat.zero_le _,bound⟩

omit [UnicodeWidth] in
theorem visibleRow_fillRows {g : Grid} (start : Nat) (blank : Row) (i : Nat) (inside : i < g.activeGrid.rows.length) :
    (g.setActiveGrid (g.activeGrid.fillRows start g.rows blank)).visibleRow i =
      if start ≤ i ∧ i < g.rows then blank else g.visibleRow i := by
  unfold Grid.visibleRow
  rw [Grid.activeGrid_setActiveGrid]
  unfold RowStore.fillRows
  simp [List.getElem?_mapIdx,List.getElem?_eq_getElem inside]

/-- `CSI J` at the origin blanks the screen, whatever it keeps of it in the scrollback. -/
theorem eraseDisplay_paints (home : k.pos = ⟨0,0⟩) :
    Paints s (tell (ascii "\x1b[J")) k fun _ k' => k'.pos = k.pos ∧ k'.pen = k.pen ∧
      ∀ i, i < s.rows → ∀ j, j < s.cols → k'.lines i j = .blankOn k.pen.background := by
  intro g bears
  have valid : (Token.plain [] 'J').WellFormed := plain_wellFormed (List.forall_mem_nil _) (Nat.zero_le _) (by decide)
  have atOrigin : g.cursorRow = 0 ∧ g.cursorCol = 0 := by
    obtain ⟨_,_,rfl⟩ := bears
    exact ⟨congrArg Pos.row home,congrArg Pos.col home⟩
  -- what is kept of the screen leaves it as it is
  have kept : g.preserveVisibleRowsToScrollback.Bears s k := by
    obtain ⟨shaped,rfl,rfl⟩ := bears
    refine ⟨shaped.preserveVisibleRowsToScrollback,?_,?_⟩
    all_goals
      rw [Grid.preserve_eq]
      split <;> rfl
  generalize keptEq : g.preserveVisibleRowsToScrollback = w at kept
  obtain ⟨shaped,rfl,rfl⟩ := kept
  change (⟨w.cursorRow,w.cursorCol⟩ : Pos) = ⟨0,0⟩ at home
  obtain ⟨row,col⟩ := Pos.mk.inj home
  obtain ⟨cells,done,canvas⟩ := erased_canvas shaped (Nat.le_refl w.cols) (by omega)
  have written := shaped.modifyCursorRow_eq (f := fun row => eraseCellsBce row w.cursorCol w.cols w.blankCell) done
  let filled := (w.withRow w.cursorRow cells).setActiveGrid
    ((w.withRow w.cursorRow cells).activeGrid.fillRows (w.cursorRow + 1) w.rows w.blankRowBce)
  have ran : [Token.plain [] 'J'].foldlM terminal.exec g = .ok filled.markAll := by
    refine terminal_one [.eraseDisplay 0] rfl ?_
    change g.eraseDisplay 0 >>= pure = _
    unfold Grid.eraseDisplay Grid.eraseDisplayCells
    dsimp only
    rw [if_pos atOrigin,keptEq,written]
    rfl
  refine ⟨(),[.plain [] 'J'],_,rfl,List.forall_mem_singleton.mpr valid,ran,filled.markAll.canvas,
    ⟨rfl,rfl,fun i bound j inside => ?_⟩,bears.played ran rfl rfl⟩
  change j < w.cols at inside
  have rowCount : i < (w.withRow w.cursorRow cells).activeGrid.rows.length := by
    have active : (w.withRow w.cursorRow cells).activeGrid = { w.activeGrid with rows := w.activeGrid.rows.set w.cursorRow cells } :=
      Grid.activeGrid_setActiveGrid w _
    rw [active,List.length_set,shaped.active.rowCount]
    exact bound
  change (cellAt (filled.visibleRow i) j).face = _
  rw [show filled.visibleRow i = _ from visibleRow_fillRows (w.cursorRow + 1) w.blankRowBce i rowCount]
  split_ifs with below
  · change (cellAt (List.replicate w.cols w.blankCell) j).face = _
    rw [cellAt_replicate,if_pos inside]
    rfl
  · have here : i = w.cursorRow := by
      change i < w.rows at bound
      have rows : (w.withRow w.cursorRow cells).rows = w.rows := rfl
      omega
    have line := congrFun (congrFun (congrArg Canvas.lines canvas) i) j
    change (cellAt ((w.withRow w.cursorRow cells).visibleRow i) j).face = _ at line
    rw [line,here]
    have cut : Canvas.Cuts w.canvas.line w.canvas.pos.col w.cols j := by
      rw [show w.canvas.pos.col = 0 from col]
      exact cuts_all inside
    exact (congrFun (Canvas.withLine_same ..) j).trans (if_pos ⟨inside,cut⟩)

/-! ## The cursor -/

omit [UnicodeWidth] in
theorem tell_tell (x y : Bytes) {α : Type} (rest : Out α) :
    (tell x >>= fun _ => tell y >>= fun _ => rest) = tell (x ++ y) >>= fun _ => rest := by
  have run (x : Bytes) (rest : Out α) : (tell x >>= fun _ => rest).run = (fun r => (r.1,x ++ r.2)) <$> rest.run := rfl
  change (tell x >>= fun _ => tell y >>= fun _ => rest).run = (tell (x ++ y) >>= fun _ => rest).run
  rw [run,run,run]
  cases rest.run with
  | error e => rfl
  | ok r => exact congrArg (fun out => Except.ok (r.1,out)) (List.append_assoc x y r.2).symm

/-- The last column is blanked from under a parked cursor, between a save and a restore of it. -/
theorem erasePhantom_paints (parked : k.pos.col = s.cols) :
    Paints s (tell (ascii "\x1b7" ++ [0x08] ++ ascii "\x1b[X" ++ ascii "\x1b8")) k fun _ k' =>
      k' = { (k.moved ⟨k.pos.row,s.cols - 1⟩).erased s s.cols with pos := k.pos } := by
  refine paints_tokens [.esc 0x37,.control 0x08,countToken 1 'X',.esc 0x38]
    { (k.moved ⟨k.pos.row,s.cols - 1⟩).erased s s.cols with pos := k.pos } rfl ?_ (fun g bears => ?_) rfl
  · simp only [List.forall_mem_cons]
    refine ⟨?_,show IsC0 0x08 by decide,countToken_wellFormed (by decide) (by decide),?_,List.forall_mem_nil _⟩
    all_goals exact ⟨by decide,by decide,by decide⟩
  have pending := bears.parked.mp parked
  obtain ⟨shaped,rfl,rfl⟩ := bears
  have hasCols := shaped.hasCols
  have inRows := shaped.cursorRow
  change g.cursorCol = g.cols at parked
  let start := g.saveCursor.clearPendingWrap
  have col : start.cursorCol = g.cols - 1 := if_pos (Nat.le_of_eq parked.symm)
  have startShaped : start.Shaped RowOk := Grid.Shaped.clearPendingWrap (g := g.saveCursor) { shaped with }
  have next : start.cursorCol + 1 = g.cols := by omega
  obtain ⟨cells,ran,canvas⟩ := eraseChars_run startShaped (n := 1) (Nat.le_of_eq next)
  let erased := (start.withRow start.cursorRow cells).markRange start.cursorRow start.cursorCol
    (min (start.cursorCol + 1) start.cursorCells.length % 65536)
  have played : g.execAll [.saveCursor,.backspace,.eraseChars 1,.restoreCursor] = .ok erased.restoreSavedCursor := by
    have back : g.saveCursor.exec .backspace = .ok start := congrArg Except.ok (if_pos pending)
    change g.saveCursor.exec .backspace >>= (fun h => h.eraseChars 1 >>= fun h => h.exec .restoreCursor >>= pure) = _
    rw [back,ok_bind,ran,ok_bind]
    rfl
  have restored : erased.restoreSavedCursor =
      { erased with modeFlags.pendingWrap := true, lastPrint := none, cursorRow := min g.cursorRow (g.rows - 1), cursorCol := g.cols } :=
    (Grid.restoreSavedCursor_eq erased).trans (if_pos (Nat.le_of_eq parked.symm))
  refine ⟨erased.restoreSavedCursor,terminal_played rfl played,?_,?_⟩
  · rw [restored]
    rfl
  · have lines : erased.canvas.lines = ((g.canvas.moved ⟨g.cursorRow,g.cols - 1⟩).erased g.settings g.cols).lines := by
      rw [next] at canvas
      rw [show erased.canvas.lines = (start.withRow start.cursorRow cells).canvas.lines from rfl,canvas,← col]
      rfl
    have row : min g.cursorRow (g.rows - 1) = g.cursorRow := Nat.min_eq_left (by omega)
    rw [restored,row,← parked]
    change (⟨erased.canvas.lines,⟨g.cursorRow,g.cursorCol⟩,g.currentAttrs,none⟩ : Canvas) = _
    rw [lines]
    rfl

/-- A grid that can be painted: every cell holds what was printed there, and each cluster
    has a width whenever it grows. -/
structure Grid.Legible (g : Grid) : Prop where
  shaped : g.Shaped (EachCell Cell.Filled)
  few : g.cols < u16Max
  sized : ∀ i j, HasWidth (cellAt (g.visibleRow i) j).contents

omit [UnicodeWidth] in
/-- The destination is of the size of the grid that is painted. -/
structure Settings.Fits (s : Settings) (g : Grid) : Prop where
  rows : s.rows = g.rows
  cols : s.cols = g.cols

omit [UnicodeWidth] in
/-- Every cell of the destination is seen as the grid's. -/
def Canvas.Shows (k : Canvas) (g : Grid) : Prop := ∀ i, i < g.rows → ∀ j, j < g.cols → k.lines i j = mirrored (g.visibleRow i) j

variable {g : Grid}

omit [UnicodeWidth] in
theorem Grid.Shaped.visibleRow_at {P : Row → Prop} (shaped : g.Shaped P) {i : Nat} (inside : i < g.rows) :
    g.activeGrid.rows[i]? = some (g.visibleRow i) ∧ (g.visibleRow i).length = g.cols ∧ P (g.visibleRow i) := by
  obtain ⟨row,read,_,width,holds⟩ := shaped.active.get inside
  have found : g.activeGrid.rows[i]? = some row := by
    unfold at? at read
    cases at' : g.activeGrid.rows[i]? with
    | none => rw [at'] at read; cases read
    | some other => rw [at'] at read; cases read; rfl
  have same : g.visibleRow i = row := by unfold Grid.visibleRow; rw [found]; rfl
  rw [same]
  exact ⟨found,width,holds⟩

/-- The last cell, or the lead before it, printed again parks the cursor and shows what was there. -/
theorem Canvas.Stroke.redraws {row : Row} (ok : EachCell Cell.Filled row) (width : row.length = s.cols)
    (sized : ∀ j, HasWidth (cellAt row j).contents) {k' : Canvas} {r lead : Nat}
    (stroke : k.Stroke s ⟨r,lead⟩ (cellAt row lead).contents k') (pen : k.pen = (cellAt row lead).attrs)
    (filled : (cellAt row lead).contents ≠ []) (alone : (cellAt row lead).isWideContinuation = false)
    (reach : lead + 1 = s.cols ∨ lead + 2 = s.cols ∧ (cellAt row lead).isWide = true)
    (shown : ∀ j, j < s.cols → k.lines r j = mirrored row j) :
    k'.pos = ⟨r,s.cols⟩ ∧ ∀ j, j < s.cols → k'.lines r j = mirrored row j := by
  obtain ⟨printed,isWide⟩ := ok.each lead filled
  have gw := printed.width (sized lead)
  have wide (lead' : (cellAt row lead).isWide = true) : glyphWidth (cellAt row lead).contents > 1 :=
    of_decide_eq_true (isWide.symm.trans lead')
  refine ⟨?_,fun j bound => ?_⟩
  · rw [stroke.pos]
    refine congrArg (Pos.mk r) ?_
    dsimp only
    rcases reach with next | ⟨second,isLead⟩
    · omega
    · have := wide isLead
      omega
  · rcases Nat.lt_trichotomy j lead with left | here | right
    · rw [stroke.line.left j left]
      exact shown j bound
    · rw [here,stroke.line.here,mirrored_of_alone alone,← isWide,pen]
      exact (congrArg (fun flag => ({ (cellAt row lead).face with isWideContinuation := flag } : Cell)) alone).symm
    · rcases reach with next | ⟨second,isLead⟩
      · omega
      · have here : j = lead + 1 := by omega
        subst here
        have continues : (cellAt row (lead + 1)).isWideContinuation = true := (ok.ok.pairs lead (by omega)).trans isLead
        rw [stroke.line.second bound (wide isLead),mirrored_of_continuation continues,pen]
        rfl

omit [UnicodeWidth] in
theorem Canvas.Shows.of_row {k' : Canvas} (shows : k.Shows g) {r : Nat} (others : ∀ i, i ≠ r → k'.lines i = k.lines i)
    (row : ∀ j, j < g.cols → k'.lines r j = mirrored (g.visibleRow r) j) : k'.Shows g := by
  intro i bound j inside
  by_cases here : i = r
  · rw [here]
    exact row j inside
  · rw [others i here]
    exact shows i bound j inside

/-- The phantom column is reached from the cell at the end of its row. -/
theorem phantom_paints (narrow : NarrowSpace) (opened : s.Open) (legible : g.Legible) (fits : s.Fits g) (sound : k.Sound s)
    (shows : k.Shows g) {pen : Attrs} (isPen : k.pen = pen) {r : Nat} (inside : r < g.rows) :
    let row := g.visibleRow r
    let lead := if g.cols ≥ 2 ∧ (cellAt row (g.cols - 1)).isWideContinuation = true then g.cols - 2 else g.cols - 1
    Paints s
      (if (cellAt row lead).hasContents = true then do
        writeMoveTo ⟨r,lead⟩
        writeAttrsDiff (cellAt row lead).attrs pen
        tell (utf8.spell (cellAt row lead).contents)
        writeAttrsDiff pen (cellAt row lead).attrs
      else do
        writeMoveTo ⟨r,g.cols - 1⟩
        tell (ascii " ")
        writeAttrsDiff (cellAt row (g.cols - 1)).attrs pen
        tell (ascii "\x1b7")
        tell [0x08]
        writeEraseChars 1
        tell (ascii "\x1b8")
        writeAttrsDiff pen (cellAt row (g.cols - 1)).attrs : Out Unit) k
      fun _ k' => k'.pos = ⟨r,g.cols⟩ ∧ k'.pen = pen ∧ k'.Shows g := by
  intro row lead
  have cells : EachCell Cell.Filled row := (legible.shaped.visibleRow_at inside).2.2
  have width : row.length = g.cols := (legible.shaped.visibleRow_at inside).2.1
  have hasCols := sound.hasCols
  have inRows : r < s.rows := by rw [fits.rows]; exact inside
  have sizeCols := fits.cols
  have few : s.cols < u16Max := by rw [sizeCols]; exact legible.few
  have ok := cells.ok
  -- the end of the row is the second half of a pair, or a cell of its own
  have reach : (lead + 1 = s.cols ∧ (cellAt row lead).isWideContinuation = false) ∨
      lead + 2 = s.cols ∧ (cellAt row lead).isWide = true := by
    by_cases second : g.cols ≥ 2 ∧ (cellAt row (g.cols - 1)).isWideContinuation = true
    · have isLead : lead = g.cols - 2 := if_pos second
      refine .inr ⟨by omega,?_⟩
      have pair := ok.pairs (g.cols - 2) (show g.cols - 2 + 1 < row.length by omega)
      rw [show g.cols - 2 + 1 = g.cols - 1 by omega] at pair
      rw [isLead]
      exact pair.symm.trans second.2
    · have isLead : lead = g.cols - 1 := if_neg second
      refine .inl ⟨by omega,?_⟩
      rw [isLead]
      by_cases one : g.cols ≥ 2
      · exact Bool.eq_false_iff.mpr fun continues => second ⟨one,continues⟩
      · rw [show g.cols - 1 = 0 by omega]
        exact ok.first
  have alone : (cellAt row lead).isWideContinuation = false := by
    rcases reach with ⟨_,alone⟩ | ⟨_,wide⟩
    · exact alone
    · exact Bool.eq_false_iff.mpr fun continues => ok.exclusive lead ⟨wide,continues⟩
  have bound : lead < s.cols := by omega
  have shown : ∀ j, j < s.cols → k.lines r j = mirrored row j := fun j inside' => shows r inside j (by omega)
  have single : (k.lines r lead).isWideContinuation = false := by rw [shown lead bound,mirrored_isWideContinuation]; exact alone
  split_ifs with filled
  · have filled : (cellAt row lead).contents ≠ [] := by simpa [Cell.hasContents] using filled
    refine (moveTo_paints ⟨r,lead⟩ sound inRows bound).bind fun _ k₁ _ moved => ?_
    rw [moved]
    refine (attrsDiff_paints (k := k.moved ⟨r,lead⟩) pen isPen).bind fun _ k₂ _ inked => ?_
    have ready : k₂.ReadyAt s r lead := by
      rw [inked]
      exact readyAt_pen (readyAt_moved ⟨r,lead⟩ bound) _
    have base := ready.base
    have lines : k₂.lines = k.lines := by rw [inked]; rfl
    refine (cluster_paints opened few ready.clear (by rw [base]; exact inRows) (by rw [base,lines]; exact single)
      (cells.each lead filled).1 (legible.sized r lead)).bind fun _ k₃ _ stroke => ?_
    rw [base] at stroke
    have ink : k₂.pen = (cellAt row lead).attrs := by rw [inked]
    obtain ⟨pos,drawn⟩ := stroke.redraws cells (width.trans sizeCols.symm) (legible.sized r) ink filled alone
      (reach.imp_left And.left) (by rw [lines]; exact shown)
    refine (attrsDiff_paints (cellAt row lead).attrs (stroke.pen.trans ink)).mono fun _ k₄ _ restored => ?_
    rw [restored]
    refine ⟨pos.trans (by rw [sizeCols]),rfl,
      Canvas.Shows.of_row (k := k) shows (fun i other => ?_) fun j inside' => drawn j (by omega)⟩
    exact (stroke.others i other).trans (by rw [lines])
  · have empty : (cellAt row lead).contents = [] := by simpa [Cell.hasContents] using filled
    have isLast : lead = g.cols - 1 := by
      rcases reach with ⟨next,_⟩ | ⟨_,wide⟩
      · omega
      · exact absurd empty ((ok.cells lead).lead wide).2
    rw [isLast] at alone empty bound single
    have unwide : (k.lines r (g.cols - 1)).isWide = false := by
      rw [shown _ bound,ok.mirrored_isWide]
      cases wide : (cellAt row (g.cols - 1)).isWide with
      | false => rfl
      | true => exact absurd empty ((ok.cells _).lead wide).2
    refine (moveTo_paints ⟨r,g.cols - 1⟩ sound inRows bound).bind fun _ k₁ _ moved => ?_
    rw [moved]
    have ready := readyAt_moved (s := s) (k := k) ⟨r,g.cols - 1⟩ bound
    have base := ready.base
    refine (cluster_paints opened few ready.clear (by rw [base]; exact inRows) (by rw [base]; exact single) narrow.printed
      (hasWidth_one ' ')).bind fun _ k₂ _ stroke => ?_
    rw [base] at stroke
    have pos : k₂.pos = ⟨r,g.cols⟩ := by
      rw [stroke.pos,narrow.width]
      exact congrArg (Pos.mk r) (by dsimp only; omega)
    refine (attrsDiff_paints pen (stroke.pen.trans isPen)).bind fun _ k₃ _ inked => ?_
    change Paints s (tell (ascii "\x1b7") >>= fun _ => tell [0x08] >>= fun _ => tell (ascii "\x1b[X") >>= fun _ =>
      tell (ascii "\x1b8") >>= fun _ => writeAttrsDiff pen (cellAt row (g.cols - 1)).attrs) _ _
    rw [tell_tell,tell_tell,tell_tell]
    have parked : k₃.pos.col = s.cols := by rw [inked]; exact (congrArg Pos.col pos).trans sizeCols.symm
    refine (erasePhantom_paints parked).bind fun _ k₄ _ erased => ?_
    have pen₄ : k₄.pen = (cellAt row (g.cols - 1)).attrs := by rw [erased,inked]; rfl
    refine (attrsDiff_paints _ pen₄).mono fun _ k₅ _ restored => ?_
    have blanked : (k₃.moved ⟨r,g.cols - 1⟩).lines = k₂.lines := by rw [inked]; rfl
    have blank := narrow.erased stroke unwide blanked rfl
    obtain ⟨others,drawn⟩ := blank
    have row₃ : k₃.pos.row = r := by rw [inked]; exact congrArg Pos.row pos
    have lines : k₅.lines = ((k₃.moved ⟨r,g.cols - 1⟩).erased s (g.cols - 1 + 1)).lines := by
      rw [restored,erased,row₃,sizeCols,show g.cols - 1 + 1 = g.cols by omega]
    rw [← lines] at others drawn
    refine ⟨?_,by rw [restored],Canvas.Shows.of_row (k := k) shows others fun j inside' => ?_⟩
    · rw [restored,erased,inked]
      exact pos
    · rw [drawn j (by omega)]
      split_ifs with here
      · rw [here,ok.mirrored_blank empty alone,inked]
        rfl
      · exact shown j (by omega)

theorem cursorPosition_paints (narrow : NarrowSpace) (opened : s.Open) (legible : g.Legible) (fits : s.Fits g) (sound : k.Sound s)
    (shows : k.Shows g) {brush : Brush} (tracks : brush.Tracks k) :
    Paints s (writeCursorPositionFormatted g.activeGrid g.cursorPos g.cols (some brush.prevPos) (some brush.prevAttrs)) k
      fun _ k' => k'.pos = g.cursorPos ∧ k'.pen = brush.prevAttrs ∧ k'.Shows g := by
  have inRows := legible.shaped.cursorRow
  have inCols := legible.shaped.cursorCol
  have hasCols := legible.shaped.hasCols
  have sizeCols := fits.cols
  unfold writeCursorPositionFormatted
  dsimp only
  by_cases parked : some brush.prevPos ≠ some g.cursorPos ∧ g.cursorPos.col ≥ g.cols
  · rw [if_pos parked]
    obtain ⟨read,width,_⟩ := legible.shaped.visibleRow_at inRows
    have cell {j : Nat} (bound : j < g.cols) :
        g.activeGrid.rows[g.cursorPos.row]?.bind (·[j]?) = some (cellAt (g.visibleRow g.cursorRow) j) := by
      rw [show g.cursorPos.row = g.cursorRow from rfl,read,Option.bind_some,cellAt_inside (by omega)]
      exact List.getElem?_eq_getElem (by omega)
    have phantom := phantom_paints narrow opened legible fits sound shows tracks.pen inRows
    dsimp only at phantom
    have pos : g.cursorPos = ⟨g.cursorRow,g.cols⟩ := congrArg (Pos.mk g.cursorRow) (Nat.le_antisymm inCols parked.2)
    have last := cell (j := g.cols - 1) (by omega)
    simp only [last,Option.any_some,Option.getD_some]
    rw [cell (by split <;> omega),Option.filter_some]
    split_ifs at phantom ⊢
    all_goals
      rw [pos]
      exact phantom
  · rw [if_neg parked]
    have goes := moveFromTo_paints g.cursorPos opened sound (by rw [fits.rows]; exact inRows) fun moves => by
      by_contra past
      exact parked ⟨fun same => moves ((Option.some.inj same).symm.trans tracks.pos.symm),by omega⟩
    rw [tracks.pos] at goes
    refine goes.mono fun _ k' _ moved => ?_
    rw [moved]
    split_ifs with stays
    · exact ⟨tracks.pos.trans stays.symm,tracks.pen,shows⟩
    · exact ⟨rfl,tracks.pen,shows⟩

/-! ## The loops over the rows -/

omit [UnicodeWidth] in
/-- The rows above row `i` are painted, the others are as before. -/
def Canvas.Drawn (k : Canvas) (g : Grid) (before : Nat → Nat → Cell) (i : Nat) : Prop :=
  ∀ r, r < g.rows → ∀ j, j < g.cols → k.lines r j = if r < i then mirrored (g.visibleRow r) j else before r j

theorem Grid.Legible.sits (legible : g.Legible) (fits : s.Fits g) {i : Nat} (inside : i < g.rows) {before : Nat → Nat → Cell}
    (drawn : k.Drawn g before i) (wrapping : Bool) : (g.rowCtx i (g.visibleRow i) wrapping).Sits s k := by
  obtain ⟨_,width,cells⟩ := legible.shaped.visibleRow_at inside
  refine ⟨by rw [fits.rows]; exact inside,fits.cols.symm,width.trans fits.cols.symm,cells,legible.sized i,fun some => ?_⟩
  change 0 < i at some
  obtain ⟨read,widthAbove,cellsAbove⟩ := legible.shaped.visibleRow_at (show i - 1 < g.rows by omega)
  refine ⟨_,(if_pos some).trans read,widthAbove.trans fits.cols.symm,cellsAbove.ok,fun j bound => ?_⟩
  rw [fits.cols] at bound
  exact (drawn (i - 1) (by omega) j bound).trans (if_pos (show i - 1 < i by omega))

omit [UnicodeWidth] in
theorem Painted.drawn {before : Nat → Nat → Cell} {i : Nat} (drawn : k.Drawn g before i) (fits : s.Fits g) {wrapping : Bool}
    {b : Brush} {k' : Canvas} (painted : Painted s (g.rowCtx i (g.visibleRow i) wrapping) k b k') :
    k'.Drawn g before (i + 1) := by
  intro r bound j inside
  by_cases here : r = i
  · rw [if_pos (by omega),here]
    exact painted.row j (by rw [fits.cols]; exact inside)
  · rw [painted.others r here,drawn r bound j inside]
    by_cases above : r < i
    · rw [if_pos above,if_pos (by omega)]
    · rw [if_neg above,if_neg (by omega)]

omit [UnicodeWidth] in
/-- The canvas shows what the grid shows, with its cursor and its pen. -/
structure Canvas.Mirrors (k : Canvas) (g : Grid) : Prop where
  pos : k.pos = g.cursorPos
  pen : k.pen = g.currentAttrs
  shows : k.Shows g

theorem cursorAndPen_paints (narrow : NarrowSpace) (opened : s.Open) (legible : g.Legible) (fits : s.Fits g) (sound : k.Sound s)
    {before : Nat → Nat → Cell} (drawn : k.Drawn g before g.rows) {brush : Brush} (tracks : brush.Tracks k) :
    Paints s (g.writeCursorAndPen brush) k fun _ k' => k'.Mirrors g := by
  have shows : k.Shows g := fun i inside j bound => (drawn i inside j bound).trans (if_pos inside)
  refine (cursorPosition_paints narrow opened legible fits sound shows tracks).bind fun _ k₁ _ placed => ?_
  obtain ⟨pos,pen,shows⟩ := placed
  refine (attrsDiff_paints _ pen).mono fun _ k₂ _ inked => ?_
  rw [inked]
  exact ⟨pos,rfl,shows⟩

omit [UnicodeWidth] in
theorem Grid.Shaped.at_visibleRow {P : Row → Prop} (shaped : g.Shaped P) {i : Nat} (inside : i < g.rows) :
    at? g.activeGrid.rows i = .ok (g.visibleRow i) := by
  unfold at?
  rw [(shaped.visibleRow_at inside).1]

/-- The full paint, on whatever the destination shows. -/
theorem fullPaint_paints (narrow : NarrowSpace) (opened : s.Open) (legible : g.Legible) (fits : s.Fits g) :
    Paints s g.writeContentsFullPaint k fun _ k' => k'.Mirrors g := by
  have rowCount := legible.shaped.active.rowCount
  have rowsFit := legible.shaped.rowsFit
  have few : s.cols < u16Max := by rw [fits.cols]; exact legible.few
  unfold Grid.writeContentsFullPaint
  refine resetPen_paints.bind fun _ k₁ sound₁ cleared => ?_
  refine Paints.bind (Q := fun _ k₂ => k₂.pos = ⟨0,0⟩ ∧ k₂.pen = {} ∧ ∀ i, i < s.rows → ∀ j, j < s.cols → k₂.lines i j = default)
    ?_ fun _ k₂ _ blank => ?_
  · rw [show ascii "\x1b[H\x1b[J" = ascii "\x1b[H" ++ ascii "\x1b[J" by decide,tell_append]
    have home : writeMoveTo ⟨0,0⟩ = tell (ascii "\x1b[H") := if_pos ⟨rfl,rfl⟩
    rw [← home]
    refine (moveTo_paints ⟨0,0⟩ sound₁ (Nat.zero_lt_of_lt sound₁.row) sound₁.hasCols).bind fun _ k' _ moved => ?_
    have pen : k'.pen = {} := by rw [moved,cleared]; rfl
    refine (eraseDisplay_paints (by rw [moved]; rfl)).mono fun _ k₂ _ erased => ?_
    obtain ⟨pos,pen₂,lines⟩ := erased
    refine ⟨pos.trans (by rw [moved]; rfl),pen₂.trans pen,fun i inside j bound => ?_⟩
    rw [lines i inside j bound,pen]
    rfl
  obtain ⟨pos,pen,blank⟩ := blank
  have length : (List.range (min g.rows g.activeGrid.len)).length = g.rows := by
    rw [List.length_range,show g.activeGrid.len = g.rows from rowCount,Nat.min_self]
  have loop := paints_foldlM (s := s) (k := k₂) (l := List.range (min g.rows g.activeGrid.len)) (b := (⟨⟨0,0⟩,{}⟩,false))
    (I := fun i (painted : Brush × Bool) k => painted.1.Tracks k ∧ k.Drawn g (fun _ _ => default) i)
    (f := fun (painted : Brush × Bool) i => do
      let cells ← (at? g.activeGrid.rows i : Checked Row)
      let brush ← writeRowFormatted (g.rowCtx i cells painted.2) painted.1
      return (brush,g.rowIsContinuation (← add16 i 1)))
    (fun i inside painted k sound progress => ?_) ⟨⟨pos,pen⟩,fun r bound j inside => ?_⟩
  · rw [length] at loop
    refine loop.bind fun painted k₃ sound₃ done => ?_
    exact cursorAndPen_paints narrow opened legible fits sound₃ done.2 done.1
  · rw [length] at inside
    obtain ⟨tracks,drawn⟩ := progress
    rw [List.getElem_range]
    refine Paints.lift_bind (legible.shaped.at_visibleRow inside) ?_
    have sits := legible.sits fits inside drawn painted.2
    have blank : ∀ j, j < s.cols → k.lines i j = default := fun j bound =>
      (drawn i inside j (by rw [← fits.cols]; exact bound)).trans (if_neg (Nat.lt_irrefl i))
    refine (rowFormatted_paints narrow opened few sound sits tracks blank).bind fun b k' _ row => ?_
    exact Paints.lift_bind (add16_ok (by omega)) (paints_pure ⟨row.tracks,row.drawn drawn fits⟩)
  · rw [if_neg (Nat.not_lt_zero r)]
    exact blank r (by rw [fits.rows]; exact bound) j (by rw [fits.cols]; exact inside)

/-- The loop of the diff, on a destination that shows the grid before the change. -/
theorem rowsDiff_paints (narrow : NarrowSpace) (opened : s.Open) (legible : g.Legible) (fits : s.Fits g)
    (steady : ∀ i j, Steady (cellAt (g.visibleRow i) j).contents) {prev : Grid} (prevShaped : prev.Shaped RowOk)
    (sameRows : prev.rows = g.rows) (sameCols : prev.cols = g.cols) (pos : k.pos = prev.cursorPos) (pen : k.pen = prev.currentAttrs)
    (shows : k.Shows prev) :
    Paints s ((List.range (min g.rows (min g.activeGrid.len prev.activeGrid.len))).foldlM
        (fun (painted : Brush × Bool × Bool) i => do
          let cells ← (at? g.activeGrid.rows i : Checked Row)
          let prevCells ← (at? prev.activeGrid.rows i : Checked Row)
          let brush ← writeRowDiff (g.rowCtx i cells painted.2.1) prevCells painted.2.2 painted.1
          let next ← add16 i 1
          return (brush,g.rowIsContinuation next,prev.rowIsContinuation next))
        (⟨prev.cursorPos,prev.currentAttrs⟩,false,false)) k
      fun painted k' => painted.1.Tracks k' ∧ k'.Drawn g (fun r j => mirrored (prev.visibleRow r) j) g.rows := by
  have rowsFit := legible.shaped.rowsFit
  have few : s.cols < u16Max := by rw [fits.cols]; exact legible.few
  have length : (List.range (min g.rows (min g.activeGrid.len prev.activeGrid.len))).length = g.rows := by
    have rows : g.activeGrid.len = g.rows := legible.shaped.active.rowCount
    have prevRows : prev.activeGrid.len = prev.rows := prevShaped.active.rowCount
    rw [List.length_range]
    omega
  have loop := paints_foldlM (s := s) (k := k) (l := List.range (min g.rows (min g.activeGrid.len prev.activeGrid.len)))
    (b := (⟨prev.cursorPos,prev.currentAttrs⟩,false,false))
    (I := fun i (painted : Brush × Bool × Bool) k => painted.1.Tracks k ∧ k.Drawn g (fun r j => mirrored (prev.visibleRow r) j) i)
    (f := fun (painted : Brush × Bool × Bool) i => do
      let cells ← (at? g.activeGrid.rows i : Checked Row)
      let prevCells ← (at? prev.activeGrid.rows i : Checked Row)
      let brush ← writeRowDiff (g.rowCtx i cells painted.2.1) prevCells painted.2.2 painted.1
      let next ← add16 i 1
      return (brush,g.rowIsContinuation next,prev.rowIsContinuation next))
    (fun i inside painted k sound progress => ?_) ⟨⟨pos,pen⟩,fun r bound j inside => ?_⟩
  · rw [length] at loop
    exact loop
  · rw [length] at inside
    obtain ⟨tracks,drawn⟩ := progress
    have prevInside : i < prev.rows := by omega
    rw [List.getElem_range]
    refine Paints.lift_bind (legible.shaped.at_visibleRow inside) (Paints.lift_bind (prevShaped.at_visibleRow prevInside) ?_)
    have sits := legible.sits fits inside drawn painted.2.1
    obtain ⟨_,prevWidth,prevOk⟩ := prevShaped.visibleRow_at prevInside
    have shown : ∀ j, j < s.cols → k.lines i j = mirrored (prev.visibleRow i) j := fun j bound =>
      (drawn i inside j (by rw [← fits.cols]; exact bound)).trans (if_neg (Nat.lt_irrefl i))
    refine (rowDiff_paints narrow opened few sound sits (steady i) (prevWidth.trans (sameCols.trans fits.cols.symm)) prevOk tracks
      shown painted.2.2).bind fun b k' _ row => ?_
    exact Paints.lift_bind (add16_ok (by omega)) (paints_pure ⟨row.tracks,row.drawn drawn fits⟩)
  · rw [if_neg (Nat.not_lt_zero r)]
    exact shows r (by omega) j (by omega)

end

end Termpane
