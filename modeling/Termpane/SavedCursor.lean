import Termpane.Printing
import Termpane.Screens

/-!
# Saving and restoring the cursor

The slot holds the column of a parked cursor, one past the margin, and nothing else
tells that the wrap was pending. After a resize the column says something else.
-/
namespace Termpane

open Lib

/-- A cursor as it was saved. -/
structure Save where
  row : Nat := 0
  col : Nat := 0
  pending : Bool := false
  deriving DecidableEq

/-- DECRC and `CSI u`, and `CSI ? 1049 l`. -/
def Op.Restores (op : Op) : Prop := op = .restoreCursor ∨ op = .decMode 1049 false

namespace Grid

variable {P : Row → Prop} {g h : Grid}

def save (g : Grid) : Save := ⟨g.cursorRow,g.cursorCol,g.modeFlags.pendingWrap⟩

/-- What the slot keeps of a save. -/
def Holds (g : Grid) (last : Save) : Prop := g.savedCursorRow = last.row ∧ g.savedCursorCol = last.col

section
variable [UnicodeWidth]

/-- The cursor is back at a saved position, as far as the grid reaches, and only a wrap
    that was pending there is pending: else the next glyph goes to that cell. -/
structure BackAt (h : Grid) (last : Save) : Prop where
  row : h.cursorRow = min last.row (h.rows - 1)
  col : h.baseCol = min last.col (h.cols - 1)
  pending : h.modeFlags.pendingWrap = true → last.pending = true
  prints : last.pending = false → ∀ ch h', charWidth ch ≠ 0 → ¬ h.TooWide ch → h.exec (.print ch) = .ok h' →
    h'.cell (min last.row (h.rows - 1)) (min last.col (h.cols - 1)) = some (glyphCell ch h.currentAttrs h.activeHyperlink)

omit [UnicodeWidth] in
theorem activeGrid_of_screens (same : h.screens = g.screens) : h.activeGrid = g.activeGrid := by
  have alternate : h.modeFlags.altScreen = g.modeFlags.altScreen := congrArg Screens.altScreen same
  unfold activeGrid
  rw [alternate,show h.primary = g.primary from congrArg Screens.primary same,
    show h.alternate = g.alternate from congrArg Screens.alternate same]

/-- A glyph that joins nothing goes to the cell at the cursor, once the wrap that was
    pending is done. -/
theorem Shaped.print_at (shaped : g.Shaped P) {ch : Char} (alone : g.joinCol ch = none) (wide : charWidth ch ≠ 0)
    (room : ¬ g.TooWide ch) (done : g.exec (.print ch) = .ok h) : ∃ w : Grid, g.touched.deferredWrap = .ok w ∧
      h.cell w.cursorRow w.baseCol = some (glyphCell ch g.currentAttrs g.activeHyperlink) := by
  have touched : g.touched.Shaped P := { shaped with }
  obtain ⟨w,wrapped,attrs,link,_,⟨cells,⟨length,put⟩,puts,stops⟩,_⟩ := shaped.print_places alone wide room
  obtain ⟨w',wrapped',wShaped,_⟩ := touched.deferredWrap_cases
  cases wrapped.symm.trans wrapped'
  refine ⟨w,wrapped,?_⟩
  have fits : w.baseCol + charWidth ch ≤ u16Max := by
    by_contra past
    cases done.symm.trans (stops past)
  obtain ⟨h',done',screens,_⟩ := puts fits
  cases done.symm.trans done'
  have cols := wShaped.hasCols
  have width := wShaped.cursorCells.2.2.1
  have cursor : w.cursorRow < w.activeGrid.rows.length := by rw [wShaped.active.rowCount]; exact wShaped.cursorRow
  have bound : w.baseCol < cells.length := by
    rw [length,width,baseCol]
    omega
  have screen : h.activeGrid.rows = w.activeGrid.rows.set w.cursorRow cells := by
    rw [activeGrid_of_screens screens,withRow,activeGrid_setActiveGrid]
  have glyph := put w.baseCol (length ▸ bound)
  rw [if_pos rfl,attrs,link] at glyph
  rw [cell,screen,List.getElem?_set_self cursor,Option.bind_some,List.getElem?_eq_getElem bound,← cellAt_inside bound,glyph]

/-- With no wrap pending that is the cell at the cursor. -/
theorem Shaped.print_here (shaped : g.Shaped P) (unparked : g.modeFlags.pendingWrap = false) {ch : Char}
    (alone : g.joinCol ch = none) (wide : charWidth ch ≠ 0) (room : ¬ g.TooWide ch) (done : g.exec (.print ch) = .ok h) :
    h.cell g.cursorRow g.cursorCol = some (glyphCell ch g.currentAttrs g.activeHyperlink) := by
  have inside := shaped.unparked_lt unparked
  obtain ⟨w,wrapped,written⟩ := shaped.print_at alone wide room done
  have still : g.touched.deferredWrap = .ok g.touched := if_neg fun both => by
    rw [show g.touched.modeFlags.pendingWrap = false from unparked] at both
    cases both.1
  cases still.symm.trans wrapped
  have base : g.touched.baseCol = g.cursorCol := by
    change min g.cursorCol (g.cols - 1) = _
    omega
  rw [base] at written
  exact written

omit [UnicodeWidth] in
/-- A restore keeps the size and the slot, and forgets the last print. -/
theorem restoreSavedCursor_keeps (g : Grid) : (g.restoreSavedCursor.rows = g.rows ∧ g.restoreSavedCursor.cols = g.cols) ∧
    (g.restoreSavedCursor.savedCursorRow = g.savedCursorRow ∧ g.restoreSavedCursor.savedCursorCol = g.savedCursorCol) ∧
    g.restoreSavedCursor.lastPrint = none := by
  rw [restoreSavedCursor_eq]
  split <;> exact ⟨⟨rfl,rfl⟩,⟨rfl,rfl⟩,rfl⟩

theorem Shaped.restores_cases (shaped : g.Shaped P) {op : Op} (restores : op.Restores) : ∃ h : Grid, g.exec op = .ok h ∧
    h.Shaped P ∧ h.rows = g.rows ∧ h.cols = g.cols ∧ h.cursorRow = min g.savedCursorRow (g.rows - 1) ∧
    h.cursorCol = (if g.savedCursorCol ≥ g.cols then g.cols else min g.savedCursorCol (g.cols - 1)) ∧
    h.modeFlags.pendingWrap = decide (g.savedCursorCol ≥ g.cols) ∧ h.lastPrint = none := by
  rcases restores with rfl | rfl
  · obtain ⟨row,col,pending⟩ := restoreSavedCursor_cursor g
    obtain ⟨size,_,forgotten⟩ := restoreSavedCursor_keeps g
    exact ⟨_,rfl,shaped.restoreSavedCursor,size.1,size.2,row,col,pending,forgotten⟩
  · obtain ⟨row,col,pending⟩ := restoreSavedCursor_cursor (g.setAltScreen false)
    obtain ⟨size,_,forgotten⟩ := restoreSavedCursor_keeps (g.setAltScreen false)
    exact ⟨_,rfl,shaped.setDecMode 1049 false,size.1,size.2,row,col,pending,forgotten⟩

/-- A restore goes back to the last save exactly if that column is still left of the
    margin, or the wrap was pending there. -/
theorem Shaped.restore_iff (shaped : g.Shaped P) {last : Save} (holds : g.Holds last) {op : Op} (restores : op.Restores) :
    (∃ h, g.exec op = .ok h ∧ h.BackAt last) ↔ last.col < g.cols ∨ last.pending = true := by
  obtain ⟨h,done,hShaped,rows,cols,row,col,pending,forgotten⟩ := shaped.restores_cases restores
  have hasCols := shaped.hasCols
  rw [holds.1,← rows] at row
  rw [holds.2,← cols] at col pending
  rw [← cols]
  constructor
  · rintro ⟨h',done',back⟩
    cases done.symm.trans done'
    by_cases inside : last.col < h.cols
    · exact .inl inside
    · exact .inr (back.pending (by rw [pending]; exact decide_eq_true (by omega)))
  · intro condition
    have base : h.baseCol = min last.col (h.cols - 1) := by
      unfold baseCol
      rw [col]
      split_ifs <;> omega
    refine ⟨h,done,row,base,fun parked => ?_,fun free ch h' wide room printed => ?_⟩
    · rw [pending,decide_eq_true_eq] at parked
      exact condition.resolve_left (by omega)
    · have inside : last.col < h.cols := condition.resolve_right (by rw [free]; exact Bool.false_ne_true)
      have unparked : h.modeFlags.pendingWrap = false := by rw [pending]; exact decide_eq_false (by omega)
      have alone : h.joinCol ch = none := by
        rw [hShaped.joinCol_eq (show h.Continues false from .inl forgotten)]
        exact if_pos ⟨wide,rfl⟩
      have here := hShaped.print_here unparked alone wide room printed
      have column : h.cursorCol = min last.col (h.cols - 1) := by rw [col,if_neg (by omega)]
      rw [row,column] at here
      exact here

end

end Grid

section
variable [UnicodeWidth]

/-- The last save of a run: home before there is one, and after DECSTR, which puts the
    slot there. -/
def noteSave (g : Grid) : Step → Save → Save
  | .op .saveCursor, _ => g.save
  | .op (.decMode mode enabled), last => if mode = 1049 ∧ enabled = true then g.save else last
  | .op .softReset, _ => {}
  | _, last => last

def lastSave (g : Grid) (steps : List Step) : Save := noted Grid.take noteSave g steps {}

namespace Grid

variable {P : Row → Prop} {g : Grid}

theorem Shaped.exec_holds (shaped : g.Shaped P) {last : Save} (holds : g.Holds last) (op : Op) :
    Ends (fun h => h.Holds (noteSave g (.op op) last)) (fun _ => True) (g.exec op) := by
  cases switches : op.Switches with
  | true =>
    cases op
    case decMode mode enabled =>
      change (g.setDecMode mode enabled).Holds (if mode = 1049 ∧ enabled = true then g.save else last)
      by_cases alternate : mode = 1049
      · subst alternate
        cases enabled with
        | true => exact ⟨rfl,rfl⟩
        | false =>
          obtain ⟨_,slot,_⟩ := restoreSavedCursor_keeps (g.setAltScreen false)
          exact ⟨slot.1.trans holds.1,slot.2.trans holds.2⟩
      · rw [if_neg (fun both => alternate both.1)]
        unfold Grid.setDecMode
        split
        case h_9 => exact absurd rfl alternate
        all_goals exact holds
    case fullReset => exact holds
    all_goals exact absurd switches Bool.false_ne_true
  | false =>
    refine (shaped.exec_saved switches).mono fun h after => ?_
    have slot : (h.savedCursorRow,h.savedCursorCol) =
        if op.SavesCursor then g.savedBy op else (g.savedCursorRow,g.savedCursorCol) := after.2
    have kept : op.SavesCursor = false → h.Holds last := fun still => by
      rw [still] at slot
      have same := Prod.ext_iff.mp slot
      exact ⟨same.1.trans holds.1,same.2.trans holds.2⟩
    cases op
    case saveCursor => exact Prod.ext_iff.mp slot
    case softReset => exact Prod.ext_iff.mp slot
    case decMode mode enabled =>
      have other : mode ≠ 1049 := by
        rintro rfl
        cases switches
      change h.Holds (if mode = 1049 ∧ enabled = true then g.save else last)
      rw [if_neg (fun both => other both.1)]
      exact kept rfl
    all_goals exact kept rfl

omit [UnicodeWidth] in
theorem host_holds {last : Save} (holds : g.Holds last) (c : HostCall) : (g.host c).Holds (noteSave g (.host c) last) := by
  cases c
  all_goals exact holds

end Grid

namespace DamageGrid

variable [Vte]

/-- Wherever a run restores the cursor it is back where it was last saved exactly if the
    grid is still wider than the saved column, or the wrap was pending at that save. -/
theorem restores_iff {rows cols : UInt16} (hasRows : 0 < rows) (hasCols : 0 < cols) {scrollbackLimit : Nat} {run : List Call}
    {before after : List Step} {op : Op} {g : Grid}
    (split : (new rows cols scrollbackLimit).steps run = before ++ .op op :: after)
    (ran : before.foldlM Grid.take (new rows cols scrollbackLimit).grid = .ok g) (restores : op.Restores) :
    (∃ h, g.exec op = .ok h ∧ h.BackAt (lastSave (new rows cols scrollbackLimit).grid before)) ↔
      (lastSave (new rows cols scrollbackLimit).grid before).col < g.cols ∨
        (lastSave (new rows cols scrollbackLimit).grid before).pending = true := by
  have shaped := (sound_new (rowOk_law fun _ => True).blank hasRows hasCols scrollbackLimit).grid
  have tame : Tame false (before ++ .op op :: after) := split ▸ stepsFrom_tame _ _ run
  have kept := (@Grid.Shaped.takes _ _ Grid.Holds noteSave (fun _ _ => True)
    (fun _ op _ shaped _ _ holds => shaped.exec_holds holds op) (fun _ c _ _ _ holds => Grid.host_holds holds c)
    _ _ shaped _ (fun none => absurd none Bool.false_ne_true) tame.left (.of_all (fun _ _ _ => trivial) _) {} ⟨rfl,rfl⟩).of_ok ran
  exact kept.1.restore_iff kept.2 restores

end DamageGrid

end

section
attribute [local instance] byteParser blockWidth

/-- `AB`, a save, a narrower grid, and a restore: the column is still there. -/
theorem restores_iff_narrower : ∃ before g,
    (DamageGrid.new 1 4 0).steps [.process [0x41,0x42,0x1b,0x37],.host (.setSize 1 3),.process [0x1b,0x38]] =
        before ++ .op .restoreCursor :: [] ∧
      before.foldlM Grid.take (DamageGrid.new 1 4 0).grid = .ok g ∧
      ((∃ h, g.exec .restoreCursor = .ok h ∧ h.BackAt (lastSave (DamageGrid.new 1 4 0).grid before)) ↔
        (lastSave (DamageGrid.new 1 4 0).grid before).col < g.cols ∨
          (lastSave (DamageGrid.new 1 4 0).grid before).pending = true) :=
  ⟨[.op (.print 'A'),.op (.print 'B'),.op .saveCursor,.host (.setSize 1 3)],_,rfl,rfl,
    DamageGrid.restores_iff (show (0 : UInt16) < 1 by decide) (show (0 : UInt16) < 4 by decide)
      (show (DamageGrid.new 1 4 0).steps [.process [0x41,0x42,0x1b,0x37],.host (.setSize 1 3),.process [0x1b,0x38]] =
        [.op (.print 'A'),.op (.print 'B'),.op .saveCursor,.host (.setSize 1 3)] ++ .op .restoreCursor :: [] from rfl) rfl
      (.inl rfl)⟩

/-- `ABC` and a save in four columns, two columns, and a restore: a wrap is pending that
    was not when the cursor was saved. -/
theorem restore_parks : ∃ before g,
    (DamageGrid.new 1 4 0).steps [.process [0x41,0x42,0x43,0x1b,0x37],.host (.setSize 1 2),.process [0x1b,0x38]] =
        before ++ .op .restoreCursor :: [] ∧
      before.foldlM Grid.take (DamageGrid.new 1 4 0).grid = .ok g ∧
      ¬ ∃ h, g.exec .restoreCursor = .ok h ∧ h.BackAt (lastSave (DamageGrid.new 1 4 0).grid before) := by
  refine ⟨[.op (.print 'A'),.op (.print 'B'),.op (.print 'C'),.op .saveCursor,.host (.setSize 1 2)],_,rfl,rfl,?_⟩
  rintro ⟨h,done,back⟩
  cases done
  have pending : false = true := back.pending rfl
  cases pending

end

end Termpane
