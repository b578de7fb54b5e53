import Termpane.Shape
import Termpane.Lib.Region

/-!
# What scrolling does

The loops of the scrolling handlers as shifts of a region of the screen, together
with the rows that leave it for the scrollback and the operation that is recorded.
-/
namespace Termpane

open Lib

namespace RowStore

variable {P : Row → Prop} {rows cols : Nat} {s : RowStore}

/-- Rows and flags of a region moved up, blank rows with a flag shifted in. -/
def shiftUp (s : RowStore) (top bottom n cols : Nat) (wrap : RowWrap) : RowStore :=
  { rows := Lib.shiftUp top bottom n (blankRow cols) s.rows, wraps := Lib.shiftUp top bottom n wrap s.wraps }

/-- Rows and flags of a region moved down, blank rows shifted in. -/
def shiftDown (s : RowStore) (top bottom n cols : Nat) : RowStore :=
  { rows := Lib.shiftDown top bottom n (blankRow cols) s.rows, wraps := Lib.shiftDown top bottom n .hard s.wraps }

/-- Append a row to a store that holds at most `limit`. -/
def push (limit : Nat) (s : RowStore) (entry : Row × RowWrap) : RowStore :=
  (if s.len ≥ limit then s.recycleFront else s).pushBackWithWrap entry.1 entry.2

def feed (limit : Nat) (entries : List (Row × RowWrap)) (s : RowStore) : RowStore := entries.foldl (push limit) s

theorem Shaped.removed (shaped : s.Shaped P rows cols) {i : Nat} (inside : i < rows) :
    (s.removeWithWrap i).2 = { rows := s.rows.eraseIdx i, wraps := s.wraps.eraseIdx i } := by
  have bound : i < s.rows.length := by rw [shaped.rowCount]; exact inside
  have found : s.rows[i]? = some s.rows[i] := List.getElem?_eq_getElem bound
  simp only [removeWithWrap,found]

theorem Shaped.replaced (shaped : s.Shaped P rows cols) {i k : Nat} (inside : i < rows) (place : k < rows) (row : Row)
    (wrap : RowWrap) : (s.removeWithWrap i).2.insertWithWrap k row wrap =
      .ok { rows := (s.rows.eraseIdx i).insertIdx k row, wraps := (s.wraps.eraseIdx i).insertIdx k wrap } := by
  have kept : (s.rows.eraseIdx i).length = rows - 1 := by
    rw [List.length_eraseIdx_of_lt (by rw [shaped.rowCount]; exact inside),shaped.rowCount]
  have keptWraps : (s.wraps.eraseIdx i).length = rows - 1 := by
    rw [List.length_eraseIdx_of_lt (by rw [shaped.wrapCount]; exact inside),shaped.wrapCount]
  rw [shaped.removed inside]
  simp only [insertWithWrap,kept,keptWraps,Nat.min_eq_left (show k ≤ rows - 1 by omega),
    if_pos (show k ≤ rows - 1 by omega)]

theorem Shaped.shiftUp_once (shaped : s.Shaped P rows cols) {top bottom : Nat} (order : top ≤ bottom)
    (inside : bottom < rows) (wrap : RowWrap) :
    (s.removeWithWrap top).2.insertWithWrap bottom (blankRow cols) wrap = .ok (s.shiftUp top bottom 1 cols wrap) := by
  rw [shaped.replaced (by omega) inside]
  unfold shiftUp
  rw [insertIdx_eraseIdx_top order (by rw [shaped.rowCount]; exact inside),
    insertIdx_eraseIdx_top order (by rw [shaped.wrapCount]; exact inside)]

theorem Shaped.shiftDown_once (shaped : s.Shaped P rows cols) {top bottom : Nat} (order : top ≤ bottom)
    (inside : bottom < rows) :
    (s.removeWithWrap bottom).2.insertWithWrap top (blankRow cols) .hard = .ok (s.shiftDown top bottom 1 cols) := by
  rw [shaped.replaced inside (by omega)]
  unfold shiftDown
  rw [insertIdx_eraseIdx_bottom order (by rw [shaped.rowCount]; exact inside),
    insertIdx_eraseIdx_bottom order (by rw [shaped.wrapCount]; exact inside)]

theorem Shaped.shiftUp_zero (shaped : s.Shaped P rows cols) {bottom : Nat} (inside : bottom < rows) (top : Nat)
    (wrap : RowWrap) : s.shiftUp top bottom 0 cols wrap = s := by
  unfold shiftUp
  rw [Lib.shiftUp_zero (by rw [shaped.rowCount]; exact inside),Lib.shiftUp_zero (by rw [shaped.wrapCount]; exact inside)]

theorem Shaped.shiftDown_zero (shaped : s.Shaped P rows cols) {bottom : Nat} (inside : bottom < rows) (top : Nat) :
    s.shiftDown top bottom 0 cols = s := by
  unfold shiftDown
  rw [Lib.shiftDown_zero (by rw [shaped.rowCount]; exact inside),
    Lib.shiftDown_zero (by rw [shaped.wrapCount]; exact inside)]

theorem Shaped.shiftUp_shiftUp (shaped : s.Shaped P rows cols) {bottom : Nat} (inside : bottom < rows) (top m n : Nat)
    (wrap : RowWrap) :
    (s.shiftUp top bottom n cols wrap).shiftUp top bottom m cols wrap = s.shiftUp top bottom (n + m) cols wrap := by
  simp only [shiftUp]
  rw [Lib.shiftUp_shiftUp (by rw [shaped.rowCount]; exact inside),
    Lib.shiftUp_shiftUp (by rw [shaped.wrapCount]; exact inside)]

theorem Shaped.shiftDown_shiftDown (shaped : s.Shaped P rows cols) {bottom : Nat} (inside : bottom < rows) (top m n : Nat) :
    (s.shiftDown top bottom n cols).shiftDown top bottom m cols = s.shiftDown top bottom (n + m) cols := by
  simp only [shiftDown]
  rw [Lib.shiftDown_shiftDown (by rw [shaped.rowCount]; exact inside),
    Lib.shiftDown_shiftDown (by rw [shaped.wrapCount]; exact inside)]

end RowStore

namespace Grid

variable {P : Row → Prop} {g : Grid}

/-- Rows appended to the scrollback, one after the other. -/
def enter (g : Grid) (entries : List (Row × RowWrap)) : Grid :=
  { g with scrollback := g.scrollback.feed g.scrollbackLimit entries }

@[simp] theorem enter_nil (g : Grid) : g.enter [] = g := rfl

theorem enter_append (g : Grid) (left right : List (Row × RowWrap)) : g.enter (left ++ right) = (g.enter left).enter right := by
  simp only [enter,RowStore.feed,List.foldl_append]

theorem enter_setActiveGrid (g : Grid) (s : RowStore) (entries : List (Row × RowWrap)) :
    (g.setActiveGrid s).enter entries = (g.enter entries).setActiveGrid s := rfl

@[simp] theorem setActiveGrid_activeGrid (g : Grid) : g.setActiveGrid g.activeGrid = g := by
  have screens : (if g.modeFlags.altScreen then g.primary else g.activeGrid) = g.primary ∧
      (if g.modeFlags.altScreen then g.activeGrid else g.alternate) = g.alternate := by
    unfold activeGrid
    cases g.modeFlags.altScreen <;> exact ⟨rfl,rfl⟩
  unfold setActiveGrid
  rw [screens.1,screens.2]

/-- The last turn of a loop taken apart. -/
theorem repeatBody_succ (body : Grid → Checked Grid) (n : Nat) (g : Grid) :
    repeatBody body (n + 1) g = repeatBody body n g >>= body := by
  induction n generalizing g with
  | zero => simp only [repeatBody,bind_ok,ok_bind]
  | succ n ih =>
    change body g >>= repeatBody body (n + 1) = (body g >>= repeatBody body n) >>= body
    cases body g with
    | error e => rfl
    | ok h => exact ih h

theorem Shaped.zip_length (shaped : g.Shaped P) : (g.primary.rows.zip g.primary.wraps).length = g.rows := by
  rw [List.length_zip,shaped.primary.rowCount,shaped.primary.wrapCount,Nat.min_self]

/-- Whether a row that leaves the region's top is kept. -/
def Saves (g : Grid) (top : Nat) : Prop := g.modeFlags.altScreen = false ∧ top = 0 ∧ 0 < g.scrollbackLimit

instance (g : Grid) (top : Nat) : Decidable (g.Saves top) := by unfold Saves; infer_instance

/-- A row of the screen with its flag, as one turn of `scroll_up` evicts it. -/
def evicted (g : Grid) (top : Nat) (s : RowStore) (i : Nat) : List (Row × RowWrap) :=
  if g.Saves top then [((s.rows[i]?).getD [],(s.wraps[i]?).getD .hard)] else []

/-- The rows that leave the top of the primary screen for the scrollback when
    the region below `top` moves up by `n`. -/
def leaving (g : Grid) (top n : Nat) : List (Row × RowWrap) :=
  if g.Saves top then (g.primary.rows.zip g.primary.wraps).take n else []

theorem leaving_zero (g : Grid) (top : Nat) : g.leaving top 0 = [] := by
  unfold leaving
  split <;> rfl

theorem Shaped.leaving_succ (shaped : g.Shaped P) {top n : Nat} (inside : top + n < g.rows) :
    g.leaving top (n + 1) = g.leaving top n ++ g.evicted top g.activeGrid (top + n) := by
  unfold leaving evicted
  split_ifs with saved
  · obtain ⟨primary,rfl,_⟩ := saved
    have rowBound : n < g.primary.rows.length := by rw [shaped.primary.rowCount]; omega
    have wrapBound : n < g.primary.wraps.length := by rw [shaped.primary.wrapCount]; omega
    have screen : g.activeGrid = g.primary := by simp [activeGrid,primary]
    have found : (g.primary.rows.zip g.primary.wraps)[n]? = some (g.primary.rows[n],g.primary.wraps[n]) := by
      rw [List.getElem?_zip_eq_some]
      exact ⟨List.getElem?_eq_getElem rowBound,List.getElem?_eq_getElem wrapBound⟩
    rw [screen,Nat.zero_add,List.getElem?_eq_getElem rowBound,List.getElem?_eq_getElem wrapBound,List.take_add_one,found]
    rfl
  · rfl

theorem Shaped.scrollUpOnce_step (shaped : g.Shaped P) {top bottom : Nat} (order : top < bottom) (inside : bottom < g.rows)
    (wrap : RowWrap) : Grid.scrollUpOnce top bottom wrap g =
      .ok ((g.enter (g.evicted top g.activeGrid top)).setActiveGrid (g.activeGrid.shiftUp top bottom 1 g.cols wrap)) := by
  have count := shaped.active.rowCount
  rw [scrollUpOnce_eq order (by omega),shaped.active.shiftUp_once (Nat.le_of_lt order) inside,ok_bind]
  congr 2
  unfold evict evicted
  by_cases saved : g.Saves top
  · rw [if_pos (by simp only [Bool.and_eq_true,Bool.not_eq_true',decide_eq_true_eq]; exact saved),if_pos saved,List.getElem?_eq_getElem (show top < g.activeGrid.rows.length by omega)]
    rfl
  · rw [if_neg (by simp only [Bool.and_eq_true,Bool.not_eq_true',decide_eq_true_eq]; exact saved),if_neg saved]
    rfl

/-- Rows scrolled off one after the other. -/
theorem Shaped.scrollUpOnce_turns (shaped : g.Shaped P) {top bottom : Nat} (order : top < bottom) (inside : bottom < g.rows)
    (wrap : RowWrap) {n : Nat} (bound : top + n ≤ bottom + 1) :
    repeatBody (Grid.scrollUpOnce top bottom wrap) n g =
      .ok ((g.enter (g.leaving top n)).setActiveGrid (g.activeGrid.shiftUp top bottom n g.cols wrap)) := by
  induction n with
  | zero =>
    rw [shaped.active.shiftUp_zero inside,leaving_zero,enter_nil,setActiveGrid_activeGrid]
    rfl
  | succ n ih =>
    have before := ih (by omega)
    have ends : Keeps (fun _ => True) (repeatBody (Grid.scrollUpOnce top bottom wrap) n g) :=
      repeatBody_ends (fun _ shaped => shaped.scrollUpOnce (fun _ => trivial) _ _ wrap) n g
        (shaped.mono fun _ _ => trivial)
    have step := (ends.of_ok before).scrollUpOnce_step order inside wrap
    rw [repeatBody_succ,before,ok_bind,step,activeGrid_setActiveGrid,enter_setActiveGrid,setActiveGrid_setActiveGrid,
      setActiveGrid_cols,shaped.leaving_succ (show top + n < g.rows by omega),enter_append]
    have screen : (g.activeGrid.shiftUp top bottom n g.cols wrap).shiftUp top bottom 1 g.cols wrap =
        g.activeGrid.shiftUp top bottom (n + 1) g.cols wrap := shaped.active.shiftUp_shiftUp inside top 1 n wrap
    have leaves : evicted ((g.enter (g.leaving top n)).setActiveGrid (g.activeGrid.shiftUp top bottom n g.cols wrap)) top
        (g.activeGrid.shiftUp top bottom n g.cols wrap) top = g.evicted top g.activeGrid (top + n) := by
      have row : (g.activeGrid.shiftUp top bottom n g.cols wrap).rows[top]? = g.activeGrid.rows[top + n]? := by
        refine (getElem?_shiftUp (by rw [shaped.active.rowCount]; exact inside) _ _ _).trans ?_
        rw [if_pos ⟨Nat.le_refl top,Nat.le_of_lt order⟩,if_pos (show top + n ≤ bottom by omega)]
      have flag : (g.activeGrid.shiftUp top bottom n g.cols wrap).wraps[top]? = g.activeGrid.wraps[top + n]? := by
        refine (getElem?_shiftUp (by rw [shaped.active.wrapCount]; exact inside) _ _ _).trans ?_
        rw [if_pos ⟨Nat.le_refl top,Nat.le_of_lt order⟩,if_pos (show top + n ≤ bottom by omega)]
      unfold evicted
      rw [row,flag]
      rfl
    rw [leaves]
    exact congrArg (fun s => Except.ok (setActiveGrid _ s)) screen

/-- Lines moved down one after the other. -/
theorem Shaped.shiftDownOnce_turns (shaped : g.Shaped P) {row bottom : Nat} (order : row ≤ bottom) (inside : bottom < g.rows)
    (n : Nat) : repeatBody (Grid.shiftDownOnce row bottom) n g =
      .ok (g.setActiveGrid (g.activeGrid.shiftDown row bottom n g.cols)) := by
  have shaped : g.Shaped fun _ => True := shaped.mono fun _ _ => trivial
  induction n with
  | zero =>
    rw [shaped.active.shiftDown_zero inside,setActiveGrid_activeGrid]
    rfl
  | succ n ih =>
    have ends : Keeps (fun _ => True) (repeatBody (Grid.shiftDownOnce row bottom) n g) :=
      shaped.repeatShift (show row < g.rows by omega) inside (fun g shaped _ inside => shaped.shiftDownOnce trivial _ inside) n
    have count := (ends.of_ok ih).active.rowCount
    have step := (ends.of_ok ih).active.shiftDown_once order inside
    rw [activeGrid_setActiveGrid] at count step
    rw [repeatBody_succ,ih,ok_bind]
    simp only [Grid.shiftDownOnce,RowStore.len,activeGrid_setActiveGrid,count,setActiveGrid_rows,if_pos inside,
      RowStore.insert,RowStore.remove]
    simp only [setActiveGrid_cols] at step ⊢
    rw [step,ok_bind,setActiveGrid_setActiveGrid,shaped.active.shiftDown_shiftDown inside]
    rfl

/-- Lines deleted one after the other. -/
theorem Shaped.deleteLineOnce_turns (shaped : g.Shaped P) {row bottom : Nat} (order : row ≤ bottom) (inside : bottom < g.rows)
    (n : Nat) : repeatBody (Grid.deleteLineOnce row bottom) n g =
      .ok (g.setActiveGrid (g.activeGrid.shiftUp row bottom n g.cols .hard)) := by
  have shaped : g.Shaped fun _ => True := shaped.mono fun _ _ => trivial
  induction n with
  | zero =>
    rw [shaped.active.shiftUp_zero inside,setActiveGrid_activeGrid]
    rfl
  | succ n ih =>
    have ends : Keeps (fun _ => True) (repeatBody (Grid.deleteLineOnce row bottom) n g) :=
      shaped.repeatShift (show row < g.rows by omega) inside
        (fun g shaped top inside => shaped.deleteLineOnce trivial top inside) n
    have active := (ends.of_ok ih).active
    rw [activeGrid_setActiveGrid] at active
    simp only [setActiveGrid_rows,setActiveGrid_cols] at active
    have step := active.shiftUp_once order inside .hard
    have left : ((g.activeGrid.shiftUp row bottom n g.cols .hard).remove row).len = g.rows - 1 := by
      rw [RowStore.remove,active.removed (show row < g.rows by omega),RowStore.len]
      dsimp only
      rw [List.length_eraseIdx_of_lt (by rw [active.rowCount]; omega),active.rowCount]
    rw [repeatBody_succ,ih,ok_bind]
    rw [← RowStore.remove] at step
    simp only [Grid.deleteLineOnce,activeGrid_setActiveGrid,setActiveGrid_cols]
    rw [if_pos (show row < (g.activeGrid.shiftUp row bottom n g.cols .hard).len by
        rw [RowStore.len,active.rowCount]; omega),left,if_pos (show bottom < g.rows - 1 + 1 by omega)]
    simp only [RowStore.insert,step,ok_bind,pure_ok,setActiveGrid_setActiveGrid,
      shaped.active.shiftUp_shiftUp inside]

/-! ## The handlers -/

/-- The rows by which a scroll up of `n` moves the region: a region of one row
    is not moved. -/
def scrollDistance (g : Grid) (n : Nat) : Nat :=
  if g.scrollTop < g.scrollBottom then min n (g.scrollBottom - g.scrollTop + 1) else 0

/-- What a scroll up by `n` records. -/
def scrollUpOps (g : Grid) (n : Nat) : List ScrollOp :=
  if 0 < n then [.up g.scrollTop g.scrollBottom (min n (g.scrollBottom - g.scrollTop + 1))] else []

/-- The screen after a scroll up by `n`. -/
def scrolledScreen (g : Grid) (n : Nat) (wrap : RowWrap) : RowStore :=
  g.activeGrid.shiftUp g.scrollTop g.scrollBottom (g.scrollDistance n) g.cols wrap

theorem Shaped.scrollUp_eq (shaped : g.Shaped P) (n : Nat) (wrap : RowWrap) :
    g.scrollUp n wrap = .ok { (g.enter (g.leaving g.scrollTop (g.scrollDistance n))).setActiveGrid (g.scrolledScreen n wrap) with
      modeFlags.mutatedSincePreserve := true
      scrollOps := g.scrollOps ++ g.scrollUpOps n
      dirty := g.dirty.markRows g.scrollTop g.scrollBottom } := by
  have order := shaped.margins
  have bottom := shaped.bottom
  have touched : ({ g with modeFlags.mutatedSincePreserve := true } : Grid).Shaped P := { shaped with }
  have recorded : (if min n (g.scrollBottom - g.scrollTop + 1) > 0 then
      ({ g with modeFlags.mutatedSincePreserve := true,
                scrollOps := g.scrollOps ++ [.up g.scrollTop g.scrollBottom (min n (g.scrollBottom - g.scrollTop + 1))] } : Grid)
      else { g with modeFlags.mutatedSincePreserve := true }) =
      { g with modeFlags.mutatedSincePreserve := true, scrollOps := g.scrollOps ++ g.scrollUpOps n } := by
    unfold scrollUpOps
    by_cases some : 0 < n
    · rw [if_pos (show min n (g.scrollBottom - g.scrollTop + 1) > 0 by omega),if_pos some]
    · rw [if_neg (show ¬ min n (g.scrollBottom - g.scrollTop + 1) > 0 by omega),if_neg some,List.append_nil]
  simp only [Grid.scrollUp,touched.regionHeight touched.margins,ok_bind,recorded]
  have ready : ({ g with modeFlags.mutatedSincePreserve := true, scrollOps := g.scrollOps ++ g.scrollUpOps n } : Grid).Shaped P :=
    { shaped with }
  unfold scrolledScreen scrollDistance
  by_cases region : g.scrollTop < g.scrollBottom
  · rw [if_pos region,ready.scrollUpOnce_turns region bottom wrap
      (show g.scrollTop + min n (g.scrollBottom - g.scrollTop + 1) ≤ g.scrollBottom + 1 by omega)]
    rfl
  · have still (n : Nat) (h : Grid) : repeatBody (Grid.scrollUpOnce g.scrollTop g.scrollBottom wrap) n h = .ok h := by
      induction n generalizing h with
      | zero => rfl
      | succ n ih =>
        have turn : Grid.scrollUpOnce g.scrollTop g.scrollBottom wrap h = .ok h :=
          if_pos (.inr (show g.scrollTop ≥ g.scrollBottom by omega))
        simp only [repeatBody,turn,ok_bind,ih]
    rw [if_neg region,still,leaving_zero,shaped.active.shiftUp_zero bottom,enter_nil,setActiveGrid_activeGrid]
    rfl

/-- A line feed off the bottom margin. -/
def lineDown (g : Grid) (wrap : RowWrap) : Grid :=
  { g with cursorRow := addCursorOffset g.cursorRow 1 (g.rows - 1) }.setActiveRowWrap
    (addCursorOffset g.cursorRow 1 (g.rows - 1)) wrap

theorem newline_eq (g : Grid) (wrap : RowWrap) :
    g.newlineActionWithWrap wrap = if g.cursorRow = g.scrollBottom then g.scrollUp 1 wrap else .ok (g.lineDown wrap) := rfl

theorem Shaped.insertLines_eq (shaped : g.Shaped P) (p0 : Nat) :
    g.insertLines p0 = .ok (
      if g.cursorRow < g.scrollTop ∨ g.cursorRow > g.scrollBottom then g
      else
        { g.setActiveGrid (g.activeGrid.shiftDown g.cursorRow g.scrollBottom
            (min (max p0 1) (g.scrollBottom - g.cursorRow + 1)) g.cols) with
          scrollOps := g.scrollOps ++ [.down g.cursorRow g.scrollBottom (min (max p0 1) (g.scrollBottom - g.cursorRow + 1))]
          dirty := g.dirty.markAll }) := by
  unfold Grid.insertLines
  split
  case isTrue => rfl
  case isFalse inside =>
    have order : g.cursorRow ≤ g.scrollBottom := by omega
    simp only [shaped.regionHeight order,ok_bind,(shaped.record _).shiftDownOnce_turns order shaped.bottom]
    rfl

theorem Shaped.deleteLines_eq (shaped : g.Shaped P) (p0 : Nat) :
    g.deleteLines p0 = .ok (
      if g.cursorRow < g.scrollTop ∨ g.cursorRow > g.scrollBottom then g
      else
        { g.setActiveGrid (g.activeGrid.shiftUp g.cursorRow g.scrollBottom
            (min (max p0 1) (g.scrollBottom - g.cursorRow + 1)) g.cols .hard) with
          scrollOps := g.scrollOps ++ [.up g.cursorRow g.scrollBottom (min (max p0 1) (g.scrollBottom - g.cursorRow + 1))]
          dirty := g.dirty.markAll }) := by
  unfold Grid.deleteLines
  split
  case isTrue => rfl
  case isFalse inside =>
    have order : g.cursorRow ≤ g.scrollBottom := by omega
    simp only [shaped.regionHeight order,ok_bind,(shaped.record _).deleteLineOnce_turns order shaped.bottom]
    rfl

theorem Shaped.scrollDown_eq (shaped : g.Shaped P) (p0 : Nat) :
    g.scrollDown p0 = .ok
      { g.setActiveGrid (g.activeGrid.shiftDown g.scrollTop g.scrollBottom
          (min (max p0 1) (g.scrollBottom - g.scrollTop + 1)) g.cols) with
        scrollOps := g.scrollOps ++ [.down g.scrollTop g.scrollBottom (min (max p0 1) (g.scrollBottom - g.scrollTop + 1))]
        dirty := g.dirty.markAll } := by
  simp only [Grid.scrollDown,shaped.regionHeight shaped.margins,ok_bind,
    (shaped.record _).shiftDownOnce_turns shaped.margins shaped.bottom]
  rfl

theorem Shaped.reverseIndex_eq (shaped : g.Shaped P) :
    g.reverseIndex = .ok (
      if g.cursorRow = g.scrollTop then
        { g.setActiveGrid (g.activeGrid.shiftDown g.scrollTop g.scrollBottom 1 g.cols) with
          scrollOps := g.scrollOps ++ [.down g.scrollTop g.scrollBottom 1]
          dirty := g.dirty.markAll }
      else { g with cursorRow := g.cursorRow - 1 }) := by
  unfold Grid.reverseIndex
  split
  case isFalse => rfl
  case isTrue =>
    have once := (shaped.record (.down g.scrollTop g.scrollBottom 1)).shiftDownOnce_turns shaped.margins shaped.bottom 1
    simp only [repeatBody,bind_ok] at once
    simp only [once,ok_bind]
    rfl

end Grid

end Termpane
