import Termpane.Calls

/-!
# Damage covers what changes

Between a grid and what a handler makes of it: the damage of before is kept, and
a cell the damage does not cover is the cell it was. Handlers compose; the ones
that mark by hand do so under a condition on the cursor's row, where the mark
and the helper they call agree on the halves of wide pairs.
-/
namespace Termpane

open Lib

namespace DirtyTracker

def Covers (t : DirtyTracker) (row col : Nat) : Prop :=
  t.allDirty = true ∨ ∃ s ∈ t.rows, s.row = row ∧ s.startCol ≤ col ∧ col < s.endCol

theorem searchRow_inl {row idx : Nat} {spans : List DirtySpan} (found : searchRow row spans = .inl idx) :
    ∃ s, spans[idx]? = some s ∧ s.row = row := by
  induction spans generalizing idx with
  | nil => cases found
  | cons s spans ih =>
    unfold searchRow at found
    split_ifs at found with same
    · cases found; exact ⟨s,rfl,same⟩
    · cases deeper : searchRow row spans with
      | inl i => rw [deeper] at found; cases found; exact ih deeper
      | inr i => rw [deeper] at found; cases found

theorem searchRow_inr {row idx : Nat} {spans : List DirtySpan} (missing : searchRow row spans = .inr idx) :
    idx ≤ spans.length := by
  induction spans generalizing idx with
  | nil => cases missing; exact Nat.le_refl 0
  | cons s spans ih =>
    unfold searchRow at missing
    split_ifs at missing
    · cases missing; exact Nat.zero_le _
    · cases deeper : searchRow row spans with
      | inl i => rw [deeper] at missing; cases missing
      | inr i => rw [deeper] at missing; cases missing; exact Nat.succ_le_succ (ih deeper)

/-- A mark covers its range and what was covered. -/
theorem markRange_covers (t : DirtyTracker) {row start stop r c : Nat}
    (covered : t.Covers r c ∨ (r = row ∧ start ≤ c ∧ c < stop)) : (t.markRange row start stop).Covers r c := by
  unfold markRange
  split_ifs with all empty
  · exact .inl all
  · rcases covered with old | ⟨_,_,_⟩
    · exact old
    · omega
  have listed : t.Covers r c → ∃ s ∈ t.rows, s.row = r ∧ s.startCol ≤ c ∧ c < s.endCol := fun old =>
    old.resolve_left all
  unfold pushOrMerge
  split
  case h_2 none => exact .inl rfl
  case h_1 rows pushed =>
    right
    split at pushed
    case h_1 idx found =>
      obtain ⟨s,at_idx,same⟩ := searchRow_inl found
      cases pushed
      have bound : idx < t.rows.length := (List.getElem?_eq_some_iff.mp at_idx).1
      have merged : s.merge start stop ∈ t.rows.modify idx (·.merge start stop) := by
        rw [List.mem_iff_getElem?]
        exact ⟨idx,by simp [at_idx]⟩
      rcases covered with old | ⟨rfl,_,_⟩
      · obtain ⟨s',inside,here,_,_⟩ := listed old
        obtain ⟨i,at_i⟩ := List.mem_iff_getElem?.mp inside
        by_cases hit : idx = i
        · subst hit
          rw [at_idx] at at_i
          cases at_i
          exact ⟨_,merged,here,by simp only [DirtySpan.merge]; omega,by simp only [DirtySpan.merge]; omega⟩
        · refine ⟨s',List.mem_iff_getElem?.mpr ⟨i,?_⟩,here,by omega,by omega⟩
          simp [hit,at_i]
      · exact ⟨_,merged,same,by simp only [DirtySpan.merge]; omega,by simp only [DirtySpan.merge]; omega⟩
    case h_2 insertAt missing =>
      split_ifs at pushed
      cases pushed
      have place := searchRow_inr missing
      rcases covered with old | ⟨rfl,_,_⟩
      · obtain ⟨s',inside,bounds⟩ := listed old
        exact ⟨s',(List.mem_insertIdx place).mpr (.inr inside),bounds⟩
      · exact ⟨⟨r,start,stop⟩,(List.mem_insertIdx place).mpr (.inl rfl),rfl,by omega,by omega⟩

theorem markRows_covers (t : DirtyTracker) {top bottom r c : Nat}
    (covered : t.Covers r c ∨ (c < u16Max ∧ top ≤ r ∧ r ≤ bottom)) : (t.markRows top bottom).Covers r c := by
  unfold markRows
  have each (rows : List Nat) (t : DirtyTracker) (covered : t.Covers r c ∨ (c < u16Max ∧ r ∈ rows)) :
      (rows.foldl markRow t).Covers r c := by
    induction rows generalizing t with
    | nil => simpa using covered
    | cons row rows ih =>
      refine ih _ ?_
      rcases covered with old | ⟨narrow,listed⟩
      · exact .inl (markRange_covers t (.inl old))
      · rcases List.mem_cons.mp listed with rfl | later
        · exact .inl (markRange_covers t (.inr ⟨rfl,Nat.zero_le _,narrow⟩))
        · exact .inr ⟨narrow,later⟩
  refine each _ t (covered.imp_right fun ⟨narrow,inside⟩ => ⟨narrow,?_⟩)
  rw [List.mem_range'_1]
  omega

end DirtyTracker

/-- The cell at a position of a screen. -/
def screenCell (screen : List Row) (row col : Nat) : Cell := cellAt (screen[row]?.getD []) col

namespace Grid

/-- The cell at a position of the visible screen. -/
def visibleCell (g : Grid) (row col : Nat) : Cell := screenCell g.activeGrid.rows row col

/-- The frame between a grid and a later one: a cell no damage covers is unchanged. -/
structure Tracked (g h : Grid) : Prop where
  rows : h.rows = g.rows
  cols : h.cols = g.cols
  kept : ∀ r c, g.dirty.Covers r c → h.dirty.Covers r c
  cells : ∀ r c, r < g.rows → c < g.cols → ¬ h.dirty.Covers r c → h.visibleCell r c = g.visibleCell r c

variable {f g h : Grid}

theorem Tracked.refl (g : Grid) : g.Tracked g := ⟨rfl,rfl,fun _ _ covered => covered,fun _ _ _ _ _ => rfl⟩

theorem Tracked.trans (left : f.Tracked g) (right : g.Tracked h) : f.Tracked h where
  rows := right.rows.trans left.rows
  cols := right.cols.trans left.cols
  kept r c covered := right.kept r c (left.kept r c covered)
  cells r c rowInside colInside clean := by
    rw [right.cells r c (left.rows ▸ rowInside) (left.cols ▸ colInside) clean,
      left.cells r c rowInside colInside fun covered => clean (right.kept r c covered)]

/-- Nothing of the screen or the damage is touched. -/
theorem Tracked.of_same (rows : h.rows = g.rows) (cols : h.cols = g.cols) (dirty : h.dirty = g.dirty)
    (screen : h.activeGrid.rows = g.activeGrid.rows) : g.Tracked h where
  rows := rows
  cols := cols
  kept r c covered := by rw [dirty]; exact covered
  cells r c _ _ _ := by unfold visibleCell; rw [screen]

/-- Everything is marked. -/
theorem Tracked.of_all (rows : h.rows = g.rows) (cols : h.cols = g.cols) (all : h.dirty.allDirty = true) : g.Tracked h where
  rows := rows
  cols := cols
  kept _ _ _ := .inl all
  cells _ _ _ _ clean := absurd (.inl all) clean

/-- A handler whose result is framed. -/
def Tracks (g : Grid) (handler : Checked Grid) : Prop := Ends g.Tracked (fun _ => True) handler

@[simp] theorem tracks_ok : g.Tracks (.ok h) ↔ g.Tracked h := Iff.rfl

/-- The dimensions stay. -/
def SameSize (g h : Grid) : Prop := h.rows = g.rows ∧ h.cols = g.cols

theorem SameSize.markAll {handler : Checked Grid} (sized : Ends g.SameSize (fun _ => True) handler) :
    g.Tracks (handler >>= fun h => .ok h.markAll) :=
  sized.bind fun _ same => Tracked.of_all same.1 same.2 rfl

theorem respects_size (Allowed : Edit → Prop) (g : Grid) : Respects Allowed fun f h => f = h ∧ g.SameSize h :=
  respects_kept fun h e _ same => by
    have rows : (h.edit e).unwritten.rows = h.unwritten.rows := by rw [h.edit_unwritten e]
    have cols : (h.edit e).unwritten.cols = h.unwritten.cols := by rw [h.edit_unwritten e]
    exact ⟨rows.trans same.1,cols.trans same.2⟩

theorem tracks_eraseDisplay (g : Grid) (mode : Nat) : g.Tracks (g.eraseDisplay mode) :=
  SameSize.markAll ((respects_size _ g).eraseDisplayCells ⟨rfl,rfl,rfl⟩ mode).ends

/-- A loop of line shifts, then everything marked. -/
theorem tracks_shift {body : Grid → Checked Grid}
    (turn : ∀ e f : Grid, e = f ∧ g.SameSize f → Both (fun e f => e = f ∧ g.SameSize f) (body e) (body f)) (n : Nat)
    (same : g.SameSize h) : g.Tracks (repeatBody body n h >>= fun h => .ok h.markAll) :=
  SameSize.markAll (both_repeatBody turn n ⟨rfl,same⟩).ends

theorem tracks_insertLines (g : Grid) (p0 : Nat) : g.Tracks (g.insertLines p0) := by
  unfold insertLines
  split_ifs
  · exact Tracked.refl g
  · exact (ends_trivial (g.regionHeight g.cursorRow)).bind fun _ _ =>
      tracks_shift ((respects_size _ g).shiftDownOnce _ _) _ ⟨rfl,rfl⟩

theorem tracks_deleteLines (g : Grid) (p0 : Nat) : g.Tracks (g.deleteLines p0) := by
  unfold deleteLines
  split_ifs
  · exact Tracked.refl g
  · exact (ends_trivial (g.regionHeight g.cursorRow)).bind fun _ _ =>
      tracks_shift ((respects_size _ g).deleteLineOnce _ _) _ ⟨rfl,rfl⟩

theorem tracks_scrollDown (g : Grid) (p0 : Nat) : g.Tracks (g.scrollDown p0) :=
  (ends_trivial (g.regionHeight g.scrollTop)).bind fun _ _ =>
    tracks_shift ((respects_size _ g).shiftDownOnce _ _) _ ⟨rfl,rfl⟩

theorem tracks_reverseIndex (g : Grid) : g.Tracks g.reverseIndex := by
  unfold reverseIndex
  split_ifs
  · refine SameSize.markAll (Both.ends ((respects_size _ g).shiftDownOnce _ _ _ _ ?_))
    exact ⟨rfl,rfl,rfl⟩
  · exact Tracked.of_same rfl rfl rfl rfl

/-- What a scroll leaves as it was: the damage, the dimensions, the rows outside the region. -/
def Scrolled (g : Grid) (top bottom : Nat) (h : Grid) : Prop :=
  h.dirty = g.dirty ∧ g.SameSize h ∧ ∀ r, r < top ∨ bottom < r → h.activeGrid.rows[r]? = g.activeGrid.rows[r]?

theorem scrollUpOnce_scrolled (g : Grid) (top bottom : Nat) (wrap : RowWrap) :
    Ends (g.Scrolled top bottom) (fun _ => True) (scrollUpOnce top bottom wrap g) := by
  by_cases outside : bottom ≥ g.activeGrid.rows.length ∨ top ≥ bottom
  · have same : scrollUpOnce top bottom wrap g = .ok g := by simp [Grid.scrollUpOnce,RowStore.len,outside]
    rw [same]
    exact ⟨rfl,⟨rfl,rfl⟩,fun _ _ => rfl⟩
  · rw [scrollUpOnce_eq (by omega) (by omega)]
    have removed : (g.activeGrid.removeWithWrap top).2.rows = g.activeGrid.rows.eraseIdx top := by
      simp [RowStore.removeWithWrap,show top < g.activeGrid.rows.length by omega]
    have length : (g.activeGrid.rows.eraseIdx top).length = g.activeGrid.rows.length - 1 :=
      List.length_eraseIdx_of_lt (by omega)
    unfold RowStore.insertWithWrap
    dsimp only
    split_ifs
    · obtain ⟨_,evicted⟩ := evict_writes g top g.activeGrid.rows[top]
      rw [evicted]
      refine ⟨rfl,⟨rfl,rfl⟩,fun r beyond => ?_⟩
      rw [activeGrid_setActiveGrid]
      dsimp only
      rw [removed,length,Nat.min_eq_left (by omega)]
      rcases beyond with above | below
      · rw [List.getElem?_insertIdx_of_lt (by omega),List.getElem?_eraseIdx_of_lt above]
      · rw [List.getElem?_insertIdx_of_gt below,List.getElem?_eraseIdx_of_ge (by omega)]
        congr 1
        omega
    · trivial

theorem Scrolled.trans {top bottom : Nat} {h' : Grid} (left : g.Scrolled top bottom h) (right : h.Scrolled top bottom h') :
    g.Scrolled top bottom h' :=
  ⟨right.1.trans left.1,⟨right.2.1.1.trans left.2.1.1,right.2.1.2.trans left.2.1.2⟩,
    fun r outside => (right.2.2 r outside).trans (left.2.2 r outside)⟩

theorem tracks_scrollUp (g : Grid) (fits : g.cols ≤ u16Max) (n : Nat) (wrap : RowWrap) : g.Tracks (g.scrollUp n wrap) := by
  unfold scrollUp
  refine (ends_trivial _).bind fun height _ => ?_
  dsimp only
  have turns (start : Grid) (same : g.Scrolled g.scrollTop g.scrollBottom start) (n : Nat) :
      Ends (g.Scrolled g.scrollTop g.scrollBottom) (fun _ => True)
        (repeatBody (scrollUpOnce g.scrollTop g.scrollBottom wrap) n start) :=
    repeatBody_ends (fun g' scrolled => (scrollUpOnce_scrolled g' _ _ wrap).mono fun _ => scrolled.trans) n start same
  refine (turns _ ?_ _).bind fun h scrolled => ?_
  · split_ifs <;> exact ⟨rfl,⟨rfl,rfl⟩,fun _ _ => rfl⟩
  · obtain ⟨dirty,⟨rows,cols⟩,outside⟩ := scrolled
    refine ⟨rows,cols,fun r c covered => ?_,fun r c _ colInside clean => ?_⟩
    · exact DirtyTracker.markRows_covers _ (.inl (by rw [dirty]; exact covered))
    · have beyond : r < g.scrollTop ∨ g.scrollBottom < r := by
        by_contra inside
        exact clean (DirtyTracker.markRows_covers _ (.inr ⟨by omega,by omega,by omega⟩))
      exact congrArg (fun row : Option Row => cellAt (row.getD []) c) (outside r beyond)

theorem tracks_newline (g : Grid) (fits : g.cols ≤ u16Max) (wrap : RowWrap) : g.Tracks (g.newlineActionWithWrap wrap) := by
  unfold newlineActionWithWrap
  split_ifs
  · exact tracks_scrollUp g fits 1 wrap
  · exact Tracked.of_same rfl rfl rfl (by simp [setActiveRowWrap,RowStore.setWrap]; rfl)

variable {P : Row → Prop}

/-- An edit of the cursor's row, marked where it changes a cell. -/
theorem Shaped.tracked_edit (shaped : g.Shaped P) {f : Row → Checked Row} {edited : Row} {i k : Nat}
    (same : f g.cursorCells = .ok edited)
    (outside : ∀ c, c < g.cols → ¬ (i ≤ c ∧ c < k) → cellAt edited c = cellAt g.cursorCells c) :
    ∃ s, g.modifyActiveRow g.cursorRow f = .ok (g.setActiveGrid s) ∧
      g.Tracked { g.setActiveGrid s with dirty := g.dirty.markRange g.cursorRow i k } := by
  have bound : g.cursorRow < g.activeGrid.rows.length := by rw [shaped.active.rowCount]; exact shaped.cursorRow
  refine ⟨{ g.activeGrid with rows := g.activeGrid.rows.set g.cursorRow edited },
    by simp [Grid.modifyActiveRow,RowStore.modifyRow,shaped.cursorCells.1,same],rfl,rfl,
    fun r c covered => DirtyTracker.markRange_covers _ (.inl covered),fun r c rowInside colInside clean => ?_⟩
  have screen : (g.setActiveGrid { g.activeGrid with rows := g.activeGrid.rows.set g.cursorRow edited }).activeGrid.rows =
      g.activeGrid.rows.set g.cursorRow edited := by rw [activeGrid_setActiveGrid]
  change screenCell (g.setActiveGrid _).activeGrid.rows r c = _
  unfold screenCell
  rw [screen,List.getElem?_set]
  by_cases here : g.cursorRow = r
  · subst here
    rw [if_pos rfl,if_pos bound]
    have unmarked : ¬ (i ≤ c ∧ c < k) := fun marked =>
      clean (DirtyTracker.markRange_covers _ (.inr ⟨rfl,marked⟩))
    exact outside c colInside unmarked
  · rw [if_neg here]
    rfl

end Grid

end Termpane
