import Termpane.Frames
import Termpane.Steps
import Mathlib.Logic.Function.Iterate

/-!
# The log of scrolls, replayed

Whoever shifts a copy of the screen by the recorded scrolls has the screen, unless
a region of a single row was scrolled up: that is recorded and not done.
-/
namespace Termpane

open Lib

/-- A recorded scroll, done to the rows of a screen. -/
def ScrollOp.replay (cols : Nat) (rows : List Row) : ScrollOp → List Row
  | .up top bottom n => Lib.shiftUp top bottom n (blankRow cols) rows
  | .down top bottom n => Lib.shiftDown top bottom n (blankRow cols) rows

namespace RowStore

variable {P : Row → Prop} {rows cols : Nat} {s : RowStore}

theorem Shaped.iterate_shiftUp (shaped : s.Shaped P rows cols) {bottom : Nat} (inside : bottom < rows) (top n : Nat)
    (wrap : RowWrap) : (fun s : RowStore => s.shiftUp top bottom 1 cols wrap)^[n] s = s.shiftUp top bottom n cols wrap := by
  induction n with
  | zero => exact (shaped.shiftUp_zero inside top wrap).symm
  | succ n ih => rw [Function.iterate_succ_apply',ih,shaped.shiftUp_shiftUp inside]

theorem Shaped.iterate_shiftDown (shaped : s.Shaped P rows cols) {bottom : Nat} (inside : bottom < rows) (top n : Nat) :
    (fun s : RowStore => s.shiftDown top bottom 1 cols)^[n] s = s.shiftDown top bottom n cols := by
  induction n with
  | zero => exact (shaped.shiftDown_zero inside top).symm
  | succ n ih => rw [Function.iterate_succ_apply',ih,shaped.shiftDown_shiftDown inside]

theorem Shaped.shiftUp_min (shaped : s.Shaped P rows cols) {bottom : Nat} (inside : bottom < rows) (top n : Nat)
    (wrap : RowWrap) : s.shiftUp top bottom (min n (bottom - top + 1)) cols wrap = s.shiftUp top bottom n cols wrap := by
  unfold shiftUp
  rw [Lib.shiftUp_min (by rw [shaped.rowCount]; exact inside),Lib.shiftUp_min (by rw [shaped.wrapCount]; exact inside)]

theorem Shaped.shiftDown_min (shaped : s.Shaped P rows cols) {bottom : Nat} (inside : bottom < rows) (top n : Nat) :
    s.shiftDown top bottom (min n (bottom - top + 1)) cols = s.shiftDown top bottom n cols := by
  unfold shiftDown
  rw [Lib.shiftDown_min (by rw [shaped.rowCount]; exact inside),Lib.shiftDown_min (by rw [shaped.wrapCount]; exact inside)]

end RowStore

namespace Grid

variable {P : Row → Prop} {g h : Grid}

/-! ## One line at a time -/

/-- What one line of SU, SD, IL or DL does to the screen. -/
def lineShift (g : Grid) : Op → RowStore → RowStore
  | .scrollUp _, s => if g.scrollTop < g.scrollBottom then s.shiftUp g.scrollTop g.scrollBottom 1 g.cols .hard else s
  | .scrollDown _, s => s.shiftDown g.scrollTop g.scrollBottom 1 g.cols
  | .insertLines _, s =>
    if g.cursorRow < g.scrollTop ∨ g.cursorRow > g.scrollBottom then s else s.shiftDown g.cursorRow g.scrollBottom 1 g.cols
  | .deleteLines _, s =>
    if g.cursorRow < g.scrollTop ∨ g.cursorRow > g.scrollBottom then s
    else s.shiftUp g.cursorRow g.scrollBottom 1 g.cols .hard
  | _, s => s

end Grid

/-- The lines by which SU, SD, IL or DL moves a region, and the operation for one. -/
def Op.lines : Op → Option (Nat × Op)
  | .scrollUp n => some (n,.scrollUp 1)
  | .scrollDown p0 => some (max p0 1,.scrollDown 1)
  | .insertLines p0 => some (max p0 1,.insertLines 1)
  | .deleteLines p0 => some (max p0 1,.deleteLines 1)
  | _ => none

namespace Grid

variable {P : Row → Prop} {f g h : Grid}

/-- The same region, cursor row and width. -/
def SameRegion (g h : Grid) : Prop :=
  h.scrollTop = g.scrollTop ∧ h.scrollBottom = g.scrollBottom ∧ h.cursorRow = g.cursorRow ∧ h.cols = g.cols

theorem SameRegion.lineShift (same : g.SameRegion h) (op : Op) : h.lineShift op = g.lineShift op := by
  obtain ⟨top,bottom,row,cols⟩ := same
  funext s
  unfold Grid.lineShift
  rw [top,bottom,row,cols]

section
variable [UnicodeWidth]

omit [UnicodeWidth] in
theorem activeGrid_shifted (g : Grid) (s : RowStore) (ops : List ScrollOp) (dirty : DirtyTracker) :
    ({ g.setActiveGrid s with scrollOps := ops, dirty := dirty } : Grid).activeGrid = s := activeGrid_setActiveGrid g s

/-- SU, SD, IL and DL by some lines. -/
theorem Shaped.exec_lines (shaped : g.Shaped P) {op one : Op} {n : Nat} (lines : op.lines = some (n,one)) :
    ∃ h, g.exec op = .ok h ∧ g.SameRegion h ∧ h.activeGrid = (g.lineShift one)^[n] g.activeGrid := by
  have margins := shaped.margins
  have bottom := shaped.bottom
  have stays : (fun s : RowStore => s)^[n] g.activeGrid = g.activeGrid := Function.iterate_fixed rfl n
  cases op
  case scrollUp =>
    cases lines
    have line : g.lineShift (.scrollUp 1) = fun s =>
      if g.scrollTop < g.scrollBottom then s.shiftUp g.scrollTop g.scrollBottom 1 g.cols .hard else s := rfl
    refine ⟨_,shaped.scrollUp_eq n .hard,⟨rfl,rfl,rfl,rfl⟩,?_⟩
    refine (activeGrid_setActiveGrid (g.enter (g.leaving g.scrollTop (g.scrollDistance n))) _).trans ?_
    rw [line]
    unfold scrolledScreen scrollDistance
    by_cases region : g.scrollTop < g.scrollBottom
    · simp only [if_pos region]
      rw [shaped.active.shiftUp_min bottom,shaped.active.iterate_shiftUp bottom]
    · simp only [if_neg region]
      rw [stays,shaped.active.shiftUp_zero bottom]
  case scrollDown p0 =>
    cases lines
    refine ⟨_,shaped.scrollDown_eq p0,⟨rfl,rfl,rfl,rfl⟩,?_⟩
    rw [activeGrid_shifted,shaped.active.shiftDown_min bottom]
    exact (shaped.active.iterate_shiftDown bottom _ _).symm
  case insertLines p0 =>
    cases lines
    have line : g.lineShift (.insertLines 1) = fun s =>
      if g.cursorRow < g.scrollTop ∨ g.cursorRow > g.scrollBottom then s
      else s.shiftDown g.cursorRow g.scrollBottom 1 g.cols := rfl
    refine ⟨_,shaped.insertLines_eq p0,?_,?_⟩
    · split <;> exact ⟨rfl,rfl,rfl,rfl⟩
    · rw [line]
      by_cases outside : g.cursorRow < g.scrollTop ∨ g.cursorRow > g.scrollBottom
      · simp only [if_pos outside]
        exact stays.symm
      · simp only [if_neg outside]
        rw [activeGrid_shifted,shaped.active.shiftDown_min bottom,shaped.active.iterate_shiftDown bottom]
  case deleteLines p0 =>
    cases lines
    have line : g.lineShift (.deleteLines 1) = fun s =>
      if g.cursorRow < g.scrollTop ∨ g.cursorRow > g.scrollBottom then s
      else s.shiftUp g.cursorRow g.scrollBottom 1 g.cols .hard := rfl
    refine ⟨_,shaped.deleteLines_eq p0,?_,?_⟩
    · split <;> exact ⟨rfl,rfl,rfl,rfl⟩
    · rw [line]
      by_cases outside : g.cursorRow < g.scrollTop ∨ g.cursorRow > g.scrollBottom
      · simp only [if_pos outside]
        exact stays.symm
      · simp only [if_neg outside]
        rw [activeGrid_shifted,shaped.active.shiftUp_min bottom,shaped.active.iterate_shiftUp bottom]
  all_goals cases lines

/-- The operation for one line, again and again. -/
theorem Shaped.exec_singles (shaped : g.Shaped RowOk) {one : Op} (lines : one.lines = some (1,one)) (n : Nat) :
    ∃ h, g.execAll (List.replicate n one) = .ok h ∧ h.Shaped RowOk ∧ g.SameRegion h ∧
      h.activeGrid = (g.lineShift one)^[n] g.activeGrid := by
  have granted : one.Granted fun _ => True := by cases one <;> trivial
  have moves : one.Moves = false := by cases one <;> first | rfl | cases lines
  induction n with
  | zero => exact ⟨g,rfl,shaped,⟨rfl,rfl,rfl,rfl⟩,rfl⟩
  | succ n ih =>
    obtain ⟨f,ran,shapedBefore,region,screen⟩ := ih
    obtain ⟨h,taken,same,shifted⟩ := shapedBefore.exec_lines lines
    have kept := (shapedBefore.exec (rowOk_law fun _ => True) granted fun moving => absurd (moves.symm.trans moving)
      Bool.false_ne_true).of_ok taken
    refine ⟨h,?_,kept,?_,?_⟩
    · have split : g.execAll (List.replicate n one ++ [one]) = g.execAll (List.replicate n one) >>= fun f => f.exec one >>= .ok :=
        List.foldlM_append
      rw [List.replicate_succ',split,ran,ok_bind,taken]
      rfl
    · exact ⟨same.1.trans region.1,same.2.1.trans region.2.1,same.2.2.1.trans region.2.2.1,same.2.2.2.trans region.2.2.2⟩
    · rw [shifted,region.lineShift,screen,Function.iterate_one,Function.iterate_succ_apply']

end

/-! ## The truth of the log -/

/-- What was done to the rows of the screen is what was recorded. -/
def Told (g h : Grid) : Prop :=
  ∃ recorded, h.scrollOps = g.scrollOps ++ recorded ∧
    h.activeGrid.rows = recorded.foldl (ScrollOp.replay g.cols) g.activeGrid.rows

/-- The rows that scroll up do move, or have nothing to lose. -/
def RegionMoves (g : Grid) : Prop :=
  g.scrollTop < g.scrollBottom ∨ g.activeGrid.rows[g.scrollTop]? = some (blankRow g.cols)

instance (g : Grid) : Decidable g.RegionMoves := by unfold RegionMoves; infer_instance

theorem told_iff {recorded : List ScrollOp} (log : h.scrollOps = g.scrollOps ++ recorded) :
    g.Told h ↔ h.activeGrid.rows = recorded.foldl (ScrollOp.replay g.cols) g.activeGrid.rows := by
  constructor
  · rintro ⟨others,same,rows⟩
    rw [log] at same
    rwa [← List.append_cancel_left same] at rows
  · exact fun rows => ⟨recorded,log,rows⟩

theorem told_of_quiet (log : h.scrollOps = g.scrollOps) (rows : h.activeGrid.rows = g.activeGrid.rows) : g.Told h :=
  (told_iff (log.trans (List.append_nil _).symm)).mpr rows

/-- A line feed or SU does what it records exactly if the region moves. -/
theorem Shaped.scrollUp_told (shaped : g.Shaped P) (n : Nat) (wrap : RowWrap) :
    ∃ h, g.scrollUp n wrap = .ok h ∧ (g.Told h ↔ (0 < n → g.RegionMoves)) ∧ h.cursorCol = g.cursorCol ∧
      h.modeFlags = { g.modeFlags with mutatedSincePreserve := true } := by
  have margins := shaped.margins
  have bottom := shaped.bottom
  have rows := shaped.active.rowCount
  refine ⟨_,shaped.scrollUp_eq n wrap,?_,rfl,rfl⟩
  have screen := activeGrid_setActiveGrid (g.enter (g.leaving g.scrollTop (g.scrollDistance n))) (g.scrolledScreen n wrap)
  rw [told_iff rfl]
  change (Grid.activeGrid (setActiveGrid _ _)).rows = _ ↔ _
  rw [screen]
  change Lib.shiftUp g.scrollTop g.scrollBottom (g.scrollDistance n) (blankRow g.cols) g.activeGrid.rows = _ ↔ _
  unfold scrollDistance scrollUpOps RegionMoves
  rcases Nat.eq_zero_or_pos n with rfl | some
  · refine iff_of_true ?_ fun none => absurd none (Nat.lt_irrefl 0)
    rw [Nat.zero_min,ite_self,Lib.shiftUp_zero (by omega)]
    rfl
  rw [if_pos some]
  by_cases region : g.scrollTop < g.scrollBottom
  · rw [if_pos region]
    exact iff_of_true rfl fun _ => .inl region
  · have single : g.scrollBottom = g.scrollTop := by omega
    rw [if_neg region,Lib.shiftUp_zero (by omega)]
    change _ = Lib.shiftUp _ _ _ _ _ ↔ _
    rw [single,shiftUp_single (by omega) (by omega),forall_prop_of_true some,or_iff_right (Nat.lt_irrefl _)]
    constructor
    · intro same
      rw [same,List.getElem?_set_self (by omega)]
    · intro blank
      rw [List.getElem?_eq_getElem (by omega)] at blank
      rw [← Option.some.inj blank,List.set_getElem_self]

theorem Shaped.newline_told (shaped : g.Shaped P) (wrap : RowWrap) :
    ∃ h, g.newlineActionWithWrap wrap = .ok h ∧ (g.Told h ↔ (g.cursorRow = g.scrollBottom → g.RegionMoves)) ∧
      h.cursorCol = g.cursorCol ∧ h.modeFlags.noAutowrap = g.modeFlags.noAutowrap := by
  rw [newline_eq]
  by_cases atBottom : g.cursorRow = g.scrollBottom
  · obtain ⟨h,ran,told,col,flags⟩ := shaped.scrollUp_told 1 wrap
    rw [if_pos atBottom]
    refine ⟨h,ran,?_,col,by rw [flags]⟩
    rw [told,forall_prop_of_true Nat.one_pos,forall_prop_of_true atBottom]
  · rw [if_neg atBottom]
    have screen : (g.lineDown wrap).activeGrid = g.activeGrid.setWrap (addCursorOffset g.cursorRow 1 (g.rows - 1)) wrap :=
      activeGrid_setActiveGrid _ _
    refine ⟨_,rfl,iff_of_true (told_of_quiet rfl ?_) fun atBottom' => absurd atBottom' atBottom,rfl,rfl⟩
    rw [screen]
    rfl

/-- The other scrolls do what they record. -/
theorem told_shift (g : Grid) (s : RowStore) (op : ScrollOp) (dirty : DirtyTracker)
    (rows : s.rows = op.replay g.cols g.activeGrid.rows) :
    g.Told { g.setActiveGrid s with scrollOps := g.scrollOps ++ [op], dirty := dirty } := by
  rw [told_iff rfl,activeGrid_shifted,rows]
  rfl

section
variable [UnicodeWidth]

/-- What an operation has done when it comes to writing its glyph, if it writes one. -/
def beforeGlyph (g : Grid) : Op → Checked Grid
  | .print _ => g.touched.deferredWrap
  | op => g.exec op

/-- LF, VT, FF, SU, SD, IL, DL, RI and characters that wrap. -/
def Scrolls (g : Grid) : Op → Prop
  | .print ch => g.Wraps ch
  | .newline | .scrollUp _ | .scrollDown _ | .insertLines _ | .deleteLines _ | .reverseIndex => True
  | _ => False

/-- The log tells what an operation does to the screen, but for a glyph it then writes
    in its row; and many lines at once are as many lines one by one. -/
structure Replays (g : Grid) (op : Op) : Prop where
  told : ∀ h, g.beforeGlyph op = .ok h → g.Told h
  glyph : ∀ ch f h, op = .print ch → g.beforeGlyph op = .ok f → g.exec op = .ok h →
    h.scrollOps = f.scrollOps ∧ ∃ cells, f.placeEdit ch f.cursorCells = .ok cells ∧
      h.activeGrid.rows = f.activeGrid.rows.set f.cursorRow cells
  singles : ∀ n one, op.lines = some (n,one) → SameUpTo activeGrid (g.exec op) (g.execAll (List.replicate n one))

theorem Shaped.wrap_told (shaped : g.Shaped P) {ch : Char} (wraps : g.Wraps ch) :
    ∃ h, g.beforeGlyph (.print ch) = .ok h ∧ (g.Told h ↔ (g.cursorRow = g.scrollBottom → g.RegionMoves)) ∧
      h.cursorCol = 0 ∧ h.modeFlags.noAutowrap = false := by
  have cols := shaped.hasCols
  have unparked : ({ g.touched with modeFlags.pendingWrap := false, cursorCol := 0 } : Grid).Shaped P :=
    { shaped with cursorCol := Nat.zero_le _, parked := by simp [touched]; omega }
  obtain ⟨h,ran,told,col,flag⟩ := unparked.newline_told .soft
  refine ⟨h,?_,told,col,flag.trans wraps.2.2.2⟩
  exact (if_pos wraps.2.2).trans ran

theorem Shaped.print_glyph (shaped : g.Shaped RowOk) {ch : Char} (wraps : g.Wraps ch) {f h : Grid}
    (before : g.beforeGlyph (.print ch) = .ok f) (ran : g.exec (.print ch) = .ok h) :
    h.scrollOps = f.scrollOps ∧ ∃ cells, f.placeEdit ch f.cursorCells = .ok cells ∧
      h.activeGrid.rows = f.activeGrid.rows.set f.cursorRow cells := by
  have touched : g.touched.Shaped RowOk := { shaped with }
  have shapedBefore := (touched.deferredWrap (rowOk_law fun _ => True)).of_ok before
  obtain ⟨_,same,_,col,flag⟩ := shaped.wrap_told wraps
  cases before.symm.trans same
  have inside : f.cursorCol < f.cols := by rw [col]; exact shapedBefore.hasCols
  obtain ⟨read,_,width,_⟩ := shapedBefore.cursorCells
  obtain ⟨cells,written,_⟩ := writeGlyph_cellAt (show f.cursorCol < f.cursorCells.length by rw [width]; exact inside)
    (charWidth ch) (glyphCell ch f.currentAttrs f.activeHyperlink)
  have placed : f.placeEdit ch f.cursorCells = .ok cells := by rw [placeEdit,← width]; exact written
  have edited : f.modifyActiveRow f.cursorRow (f.placeEdit ch) =
      .ok (f.setActiveGrid { f.activeGrid with rows := f.activeGrid.rows.set f.cursorRow cells }) := by
    simp only [Grid.modifyActiveRow,RowStore.modifyRow,read,placed,ok_bind,pure_ok]
  have joins : g.touched.joinCol ch = none := wraps.1
  change g.writeCharAtCursor ch = .ok h at ran
  change g.touched.deferredWrap = .ok f at before
  rw [writeCharAtCursor_eq shaped,joins] at ran
  dsimp only at ran
  rw [if_neg wraps.2.1,Grid.writeNewCell,before,ok_bind] at ran
  dsimp only at ran
  rw [flag,if_neg Bool.false_ne_true,placeChar_eq shapedBefore inside edited] at ran
  split at ran
  · cases ran
    refine ⟨rfl,cells,placed,?_⟩
    exact congrArg RowStore.rows (activeGrid_setActiveGrid f _)
  · cases ran

/-- An operation replays exactly if the lines it scrolls up move. -/
theorem Shaped.replays_iff (shaped : g.Shaped RowOk) {op : Op} (scrolls : g.Scrolls op) :
    g.Replays op ↔ (0 < g.scrollLines op → g.RegionMoves) := by
  have margins := shaped.margins
  have bottom := shaped.bottom
  have singles (n : Nat) (one : Op) (lines : op.lines = some (n,one)) :
      SameUpTo activeGrid (g.exec op) (g.execAll (List.replicate n one)) := by
    have single : one.lines = some (1,one) := by cases op <;> cases lines <;> rfl
    obtain ⟨h,ran,_,screen⟩ := shaped.exec_lines lines
    obtain ⟨h',ran',_,_,screen'⟩ := shaped.exec_singles single n
    rw [ran,ran']
    exact congrArg Except.ok (screen.trans screen'.symm)
  have told_iff_of {c : Prop} (before : ∃ h, g.beforeGlyph op = .ok h ∧ (g.Told h ↔ c)) : g.Replays op ↔ c := by
    obtain ⟨h,ran,told⟩ := before
    constructor
    · intro replays
      exact told.mp (replays.told h ran)
    · intro holds
      refine ⟨fun h' ran' => ?_,fun ch f h' print before ran' => ?_,singles⟩
      · cases ran.symm.trans ran'
        exact told.mpr holds
      · subst print
        exact shaped.print_glyph scrolls before ran'
  -- operations that do not scroll up
  have always (none : g.scrollLines op = 0) (before : ∃ h, g.beforeGlyph op = .ok h ∧ g.Told h) :
      g.Replays op ↔ (0 < g.scrollLines op → g.RegionMoves) := by
    obtain ⟨h,ran,told⟩ := before
    exact told_iff_of ⟨h,ran,iff_of_true told fun some => absurd some (by omega)⟩
  cases op
  case print ch =>
    obtain ⟨h,ran,told,_⟩ := shaped.wrap_told scrolls
    refine told_iff_of ⟨h,ran,told.trans ?_⟩
    have wraps : g.Wraps ch := scrolls
    by_cases atBottom : g.cursorRow = g.scrollBottom
    · simp [scrollLines,wraps,atBottom]
    · simp [scrollLines,atBottom]
  case newline =>
    obtain ⟨h,ran,told,_⟩ := shaped.newline_told .hard
    refine told_iff_of ⟨h,ran,told.trans ?_⟩
    by_cases atBottom : g.cursorRow = g.scrollBottom
    · simp [scrollLines,atBottom]
    · simp [scrollLines,atBottom]
  case scrollUp n =>
    obtain ⟨h,ran,told,_⟩ := shaped.scrollUp_told n .hard
    exact told_iff_of ⟨h,ran,told⟩
  case scrollDown p0 =>
    exact always rfl ⟨_,shaped.scrollDown_eq p0,told_shift _ _ _ _ rfl⟩
  case insertLines p0 =>
    refine always rfl ⟨_,shaped.insertLines_eq p0,?_⟩
    split
    · exact told_of_quiet rfl rfl
    · exact told_shift _ _ _ _ rfl
  case deleteLines p0 =>
    refine always rfl ⟨_,shaped.deleteLines_eq p0,?_⟩
    split
    · exact told_of_quiet rfl rfl
    · exact told_shift _ _ _ _ rfl
  case reverseIndex =>
    refine always rfl ⟨_,shaped.reverseIndex_eq,?_⟩
    split
    · exact told_shift _ _ _ _ rfl
    · exact told_of_quiet rfl rfl
  all_goals exact scrolls.elim

end

end Grid

section
variable [Vte] [UnicodeWidth]

namespace DamageGrid

/-- Wherever a run scrolls, the log tells what it does exactly if, where it scrolls up
    by lines, the region has more than one row or its row is blank already. -/
theorem scroll_replays_iff {rows cols : UInt16} (hasRows : 0 < rows) (hasCols : 0 < cols) {scrollbackLimit : Nat}
    {run : List Call} {g : Grid} (visited : (new rows cols scrollbackLimit).Visits run g) {op : Op}
    (scrolls : g.Scrolls op) : g.Replays op ↔ (0 < g.scrollLines op → g.RegionMoves) :=
  (visited.shaped hasRows hasCols).replays_iff scrolls

end DamageGrid

end

section
attribute [local instance] byteParser blockWidth

/-- `A` in two rows, then `CSI S`. -/
theorem scroll_replays_iff_up : ∃ g, (DamageGrid.new 2 2 5).Visits [.process [0x41,0x1b,0x5b,0x53]] g ∧
    (g.Replays (.scrollUp 1) ↔ (0 < g.scrollLines (.scrollUp 1) → g.RegionMoves)) := by
  refine ⟨_,⟨[.op (.print 'A')],[.op (.scrollUp 1)],rfl,rfl⟩,?_⟩
  exact DamageGrid.scroll_replays_iff (show (0 : UInt16) < 2 by decide) (show (0 : UInt16) < 2 by decide)
    (show (DamageGrid.new 2 2 5).Visits [.process [0x41,0x1b,0x5b,0x53]] _ from
      ⟨[.op (.print 'A')],[.op (.scrollUp 1)],rfl,rfl⟩) trivial

/-- `A` and a line feed in one row: a scroll of it is recorded, and it stays. -/
theorem single_row_stays : ∃ g, (DamageGrid.new 1 2 5).Visits [.process [0x41,0x0a]] g ∧ g.Scrolls .newline ∧
    ¬ g.Replays .newline := by
  refine ⟨_,⟨[.op (.print 'A'),.op .clearPendingWrap],[.op .newline],rfl,rfl⟩,trivial,fun replays => ?_⟩
  exact absurd ((Grid.told_iff rfl).mp (replays.told _ rfl)) (by decide)

end

end Termpane
