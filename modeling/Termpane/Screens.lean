import Termpane.Frames
import Termpane.Steps

/-!
# The two screens

What runs on one screen leaves the other alone, and what leaving the alternate
screen restores.
-/
namespace Termpane

open Lib

namespace Grid

variable {P : Row → Prop} {f g h : Grid}

/-- A later grid that shows the same screen and has the other one as it was; under
    the alternate screen the scrollback is as it was too, or else emptied. -/
structure Apart (Empties : Prop) (g h : Grid) : Prop where
  shown : h.modeFlags.altScreen = g.modeFlags.altScreen
  hidden : h.hiddenGrid = g.hiddenGrid
  history : g.modeFlags.altScreen = true → h.scrollback = g.scrollback ∨ h.scrollback = {} ∧ Empties

theorem Apart.refl (Empties : Prop) (g : Grid) : g.Apart Empties g := ⟨rfl,rfl,fun _ => .inl rfl⟩

theorem Apart.trans {Empties : Prop} (left : f.Apart Empties g) (right : g.Apart Empties h) : f.Apart Empties h where
  shown := right.shown.trans left.shown
  hidden := right.hidden.trans left.hidden
  history alternate := by
    rcases right.history (left.shown.trans alternate) with same | emptied
    · rw [same]; exact left.history alternate
    · exact .inr emptied

variable [UnicodeWidth]

theorem Shaped.exec_apart (shaped : g.Shaped P) {op : Op} (stays : op.Switches = false) :
    Ends (g.Apart (op = .eraseDisplay 3)) (fun _ => True) (g.exec op) := by
  refine (shaped.exec_ledger stays).mono fun h same => ?_
  have frame := ledgerAfter_frame g op
  have shown := congrArg Ledger.altScreen same
  have hidden := congrArg Ledger.hidden same
  have history := congrArg Ledger.scrollback same
  refine ⟨shown.trans frame.2.2.2.1,hidden.trans frame.2.2.2.2.1,fun alternate => ?_⟩
  -- rows enter the scrollback from the primary screen only
  have none : g.entering op = [] := if_neg fun saved => Bool.true_eq_false.mp (alternate.symm.trans saved.1)
  cases op
  case eraseDisplay mode =>
    change h.scrollback = (g.eraseHistory mode).scrollback at history
    rw [history]
    unfold eraseHistory
    split
    case isTrue three => subst three; exact .inr ⟨rfl,rfl⟩
    case isFalse =>
      split
      · rw [preserve_eq,show g.clearBlock = .none by simp [clearBlock,alternate]]
        exact .inl rfl
      · exact .inl rfl
  all_goals
    simp only [ledgerAfter,Ledger.silent,Ledger.add,none] at history
    exact .inl history

end Grid

section
variable [Vte] [UnicodeWidth]

namespace DamageGrid

/-- Output that never switches screens leaves the hidden one as it was, flags and
    all. Under the alternate screen only ED 3 changes the scrollback, and empties it. -/
theorem hidden_untouched {rows cols : UInt16} (hasRows : 0 < rows) (hasCols : 0 < cols) {scrollbackLimit : Nat}
    {run : List Call} {d d' : DamageGrid} (reached : (new rows cols scrollbackLimit).calls run = .ok d)
    {chunks : List Bytes} (stays : ∀ op ∈ d.ops chunks, op.Switches = false) (done : d.processAll chunks = .ok d') :
    d'.grid.modeFlags.altScreen = d.grid.modeFlags.altScreen ∧
      (d.grid.modeFlags.altScreen = true → d'.grid.primary = d.grid.primary ∧
        (d'.grid.scrollback = d.grid.scrollback ∨ d'.grid.scrollback = {} ∧ .eraseDisplay 3 ∈ d.ops chunks)) ∧
      (d.grid.modeFlags.altScreen = false → d'.grid.alternate = d.grid.alternate) := by
  have shaped := ((calls_rowOk hasRows hasCols scrollbackLimit run).of_ok reached).1
  have meets : StepsMeet Grid.exec (fun _ op => op.Switches = false ∧ op ∈ d.ops chunks) d.grid (d.ops chunks) :=
    .of_all (fun op inside _ => ⟨stays op inside,inside⟩) d.grid
  have apart := (stream_keeps (d.grid.Apart (.eraseDisplay 3 ∈ d.ops chunks)) _ (fun g op shaped _ meets kept => ?_)
    shaped meets (.refl _ _) done).2
  · have shown := apart.shown
    have hidden := apart.hidden
    unfold Grid.hiddenGrid at hidden
    refine ⟨shown,fun alternate => ⟨?_,apart.history alternate⟩,fun primary => ?_⟩
    · rwa [shown,alternate] at hidden
    · rwa [shown,primary] at hidden
  · refine (shaped.exec_apart meets.1).mono fun h apart => kept.trans ⟨apart.shown,apart.hidden,fun alternate => ?_⟩
    rcases apart.history alternate with same | ⟨emptied,erases⟩
    · exact .inl same
    · exact .inr ⟨emptied,erases ▸ meets.2⟩

end DamageGrid

end

/-! ## The saved cursor -/

namespace Grid

variable {P : Row → Prop} {g h : Grid}

/-- The cursor and the deferred wrap are the same. -/
def SameCursor (g h : Grid) : Prop :=
  h.cursorRow = g.cursorRow ∧ h.cursorCol = g.cursorCol ∧ h.modeFlags.pendingWrap = g.modeFlags.pendingWrap

/-- A saved cursor that a grid of these dimensions can have saved. -/
def SlotInside (g : Grid) : Prop := g.savedCursorRow < g.rows ∧ g.savedCursorCol ≤ g.cols

theorem restoreSavedCursor_cursor (g : Grid) : g.restoreSavedCursor.cursorRow = min g.savedCursorRow (g.rows - 1) ∧
    g.restoreSavedCursor.cursorCol = (if g.savedCursorCol ≥ g.cols then g.cols else min g.savedCursorCol (g.cols - 1)) ∧
    g.restoreSavedCursor.modeFlags.pendingWrap = decide (g.savedCursorCol ≥ g.cols) := by
  rw [restoreSavedCursor_eq]
  split
  case isTrue phantom => exact ⟨rfl,rfl,(decide_eq_true phantom).symm⟩
  case isFalse inside => exact ⟨rfl,rfl,(decide_eq_false inside).symm⟩

/-- Leaving the alternate screen brings back what is saved. -/
theorem Shaped.leave_sameCursor (before : g.Shaped P) (size : h.ledger.size = g.ledger.size) (inside : h.SlotInside) :
    g.SameCursor (h.setDecMode 1049 false) ↔ h.ledger.savedCursor = (g.cursorRow,g.cursorCol) := by
  obtain ⟨row,col⟩ := inside
  have sizes : h.rows = g.rows ∧ h.cols = g.cols := Prod.ext_iff.mp size
  have parked := before.parked
  have colInside := before.cursorCol
  have cols := before.hasCols
  obtain ⟨rowBack,colBack,wrapBack⟩ := restoreSavedCursor_cursor (h.setAltScreen false)
  have slot : h.ledger.savedCursor = (g.cursorRow,g.cursorCol) ↔
      h.savedCursorRow = g.cursorRow ∧ h.savedCursorCol = g.cursorCol := Prod.ext_iff
  rw [slot]
  change (h.setAltScreen false).restoreSavedCursor.cursorRow = _ ∧ (h.setAltScreen false).restoreSavedCursor.cursorCol = _ ∧
    (h.setAltScreen false).restoreSavedCursor.modeFlags.pendingWrap = _ ↔ _
  rw [rowBack,colBack,wrapBack]
  change min h.savedCursorRow (h.rows - 1) = _ ∧
    (if h.savedCursorCol ≥ h.cols then h.cols else min h.savedCursorCol (h.cols - 1)) = _ ∧
    decide (h.savedCursorCol ≥ h.cols) = _ ↔ _
  have column : (if h.savedCursorCol ≥ h.cols then h.cols else min h.savedCursorCol (h.cols - 1)) = h.savedCursorCol := by
    split <;> omega
  rw [Nat.min_eq_left (show h.savedCursorRow ≤ h.rows - 1 by omega),column]
  constructor
  · rintro ⟨sameRow,sameCol,_⟩
    exact ⟨sameRow,sameCol⟩
  · rintro ⟨sameRow,sameCol⟩
    refine ⟨sameRow,sameCol,?_⟩
    rw [sameCol,sizes.2,Bool.eq_iff_iff,decide_eq_true_eq,← parked]
    omega

variable [UnicodeWidth]

omit [UnicodeWidth] in
theorem Shaped.savedBy_inside (shaped : g.Shaped P) (op : Op) : (g.savedBy op).1 < g.rows ∧ (g.savedBy op).2 ≤ g.cols := by
  unfold savedBy
  split
  · exact ⟨Nat.zero_lt_of_lt shaped.cursorRow,Nat.zero_le _⟩
  · exact ⟨shaped.cursorRow,shaped.cursorCol⟩

theorem Shaped.exec_saved (shaped : g.Shaped P) {op : Op} (stays : op.Switches = false) :
    Ends (fun h => h.ledger.size = g.ledger.size ∧
      h.ledger.savedCursor = if op.SavesCursor then g.savedBy op else g.ledger.savedCursor) (fun _ => True) (g.exec op) := by
  refine (shaped.exec_ledger stays).mono fun h same => ?_
  obtain ⟨size,_,_,_,_,saved⟩ := ledgerAfter_frame g op
  have sizeAfter := congrArg Ledger.size same
  have savedAfter := congrArg Ledger.savedCursor same
  exact ⟨sizeAfter.trans size,savedAfter.trans saved⟩

/-- Operations that stay on the screen keep what is saved inside it. -/
theorem Shaped.slot_kept (shaped : g.Shaped RowOk) {ops : List Op} (tame : Tame false (ops.map .op))
    (stays : ∀ op ∈ ops, op.Switches = false) (inside : g.SlotInside) :
    Ends (fun h => h.Shaped RowOk ∧ h.ledger.size = g.ledger.size ∧ h.SlotInside) (fun _ => True) (g.execAll ops) := by
  refine shaped.execAll_keeps (fun h => h.ledger.size = g.ledger.size ∧ h.SlotInside) (fun _ op => op.Switches = false)
    (fun f op shaped _ stays kept => ?_) tame (.of_all (fun op member _ => stays op member) g) ⟨rfl,inside⟩
  refine (shaped.exec_saved stays).mono fun h after => ⟨after.1.trans kept.1,?_⟩
  change h.ledger.savedCursor.1 < h.ledger.size.1 ∧ h.ledger.savedCursor.2 ≤ h.ledger.size.2
  rw [after.1,after.2]
  split
  · exact shaped.savedBy_inside op
  · exact kept.2

/-- Operations that save nothing leave the slot. -/
theorem Shaped.slot_same (shaped : g.Shaped RowOk) {ops : List Op} (tame : Tame false (ops.map .op))
    (stays : ∀ op ∈ ops, op.Switches = false) (none : ∀ op ∈ ops, op.SavesCursor = false) :
    Ends (fun h => h.Shaped RowOk ∧ h.ledger.savedCursor = g.ledger.savedCursor) (fun _ => True) (g.execAll ops) := by
  refine shaped.execAll_keeps (fun h => h.ledger.savedCursor = g.ledger.savedCursor)
    (fun _ op => op.Switches = false ∧ op.SavesCursor = false) (fun f op shaped _ meets kept => ?_) tame
    (.of_all (fun op member _ => ⟨stays op member,none op member⟩) g) rfl
  refine (shaped.exec_saved meets.1).mono fun h after => ?_
  rw [after.2,meets.2]
  exact kept

/-- The slot has what the last operation that writes it saved. -/
theorem Shaped.slot_last (shaped : g.Shaped RowOk) {before after : List Op} {op : Op}
    (tame : Tame false ((before ++ op :: after).map .op)) (stays : ∀ o ∈ before ++ op :: after, o.Switches = false)
    (saves : op.SavesCursor = true) (none : ∀ o ∈ after, o.SavesCursor = false) (reached : g.execAll before = .ok f)
    (run : g.execAll (before ++ op :: after) = .ok h) : h.ledger.savedCursor = f.savedBy op := by
  rw [List.map_append,List.map_cons] at tame
  have other : op ≠ .clearPendingWrap := by rintro rfl; cases saves
  -- the state the operation is taken in, and the one it leaves
  have shapedAt := (shaped.execAll_keeps (fun _ => True) (fun _ _ => True) (fun _ _ _ _ _ _ => ends_trivial _)
    tame.left (.of_all (fun _ _ _ => trivial) g) trivial).of_ok reached
  have split : g.execAll (before ++ op :: after) = g.execAll before >>= fun f => f.exec op >>= fun f => f.execAll after :=
    List.foldlM_append
  rw [split,reached,ok_bind] at run
  obtain ⟨f',taken,later⟩ := bind_ok_iff.mp run
  have written := ((shapedAt.1.exec_saved (stays op (by simp))).of_ok taken).2
  have prefixTame : Tame false ((before ++ [op]).map .op) := by
    have whole : (before.map Step.op ++ [.op op]) ++ after.map .op = before.map .op ++ .op op :: after.map .op := by simp
    rw [List.map_append]
    exact (whole ▸ tame).left
  have step : g.execAll (before ++ [op]) = .ok f' := by
    have split : g.execAll (before ++ [op]) = g.execAll before >>= fun f => f.exec op >>= .ok := List.foldlM_append
    rw [split,reached,ok_bind,taken]
    rfl
  have shapedAfter := (shaped.execAll_keeps (fun _ => True) (fun _ _ => True) (fun _ _ _ _ _ _ => ends_trivial _)
    prefixTame (.of_all (fun _ _ _ => trivial) g) trivial).of_ok step
  have kept := (shapedAfter.1.slot_same (tame.right other) (fun o member => stays o (by simp [member])) none).of_ok later
  rw [kept.2,written,saves]
  rfl

/-- What runs between entering the alternate screen and leaving it saves, if it
    saves a cursor, the position from before last. -/
def SlotKept (g : Grid) (ops : List Op) : Prop :=
  ∀ before op after, ops = before ++ op :: after → op.SavesCursor = true → (∀ o ∈ after, o.SavesCursor = false) →
    ∀ f, (g.setDecMode 1049 true).execAll before = .ok f → f.savedBy op = (g.cursorRow,g.cursorCol)

end Grid

section
variable [Vte] [UnicodeWidth]

namespace DamageGrid

/-- `CSI ? 1049 h`, operations that switch no screen, `CSI ? 1049 l`: the cursor and
    its deferred wrap are back exactly if what was last saved in between, if
    anything was, is the old position. -/
theorem leave_restores_iff {rows cols : UInt16} (hasRows : 0 < rows) (hasCols : 0 < cols) {scrollbackLimit : Nat}
    {run : List Call} {d d' : DamageGrid} (reached : (new rows cols scrollbackLimit).calls run = .ok d)
    {chunks : List Bytes} {before inside : List Op}
    (stream : d.ops chunks = before ++ .decMode 1049 true :: (inside ++ [.decMode 1049 false])) {g : Grid}
    (ran : d.grid.execAll before = .ok g) (stays : ∀ op ∈ inside, op.Switches = false)
    (done : d.processAll chunks = .ok d') : g.SameCursor d'.grid ↔ g.SlotKept inside := by
  have shaped := ((calls_rowOk hasRows hasCols scrollbackLimit run).of_ok reached).1
  have tame := d.ops_tame chunks
  rw [stream,List.map_append,List.map_cons] at tame
  have shapedBefore := ((shaped.execAll_keeps (fun _ => True) (fun _ _ => True) (fun _ _ _ _ _ _ => ends_trivial _)
    tame.left (.of_all (fun _ _ _ => trivial) d.grid) trivial).of_ok ran).1
  have entered : (g.setDecMode 1049 true).Shaped RowOk := shapedBefore.setDecMode 1049 true
  have insideTame : Tame false (inside.map .op) := by
    have rest := tame.right (by simp)
    rw [List.map_append] at rest
    exact rest.left
  -- the state in which the screen is left
  have performed := processAll_execAll d chunks
  rw [done,stream] at performed
  have split : d.grid.execAll (before ++ .decMode 1049 true :: (inside ++ [.decMode 1049 false])) =
      d.grid.execAll before >>= fun g => (g.setDecMode 1049 true).execAll (inside ++ [.decMode 1049 false]) :=
    List.foldlM_append
  have splitInside (f : Grid) : f.execAll (inside ++ [.decMode 1049 false]) =
      f.execAll inside >>= fun h => .ok (h.setDecMode 1049 false) := List.foldlM_append
  rw [split,ran,ok_bind,splitInside] at performed
  obtain ⟨h,within,left⟩ := bind_ok_iff.mp performed.symm
  have leaves : d'.grid = h.setDecMode 1049 false := (Except.ok.inj left).symm
  obtain ⟨_,size,slot⟩ := (entered.slot_kept insideTame stays ⟨shapedBefore.cursorRow,shapedBefore.cursorCol⟩).of_ok within
  rw [leaves,shapedBefore.leave_sameCursor size slot]
  have last (early : List Op) (op : Op) (late : List Op) (same : inside = early ++ op :: late)
      (saves : op.SavesCursor = true) (none : ∀ o ∈ late, o.SavesCursor = false) (f : Grid)
      (at' : (g.setDecMode 1049 true).execAll early = .ok f) : h.ledger.savedCursor = f.savedBy op := by
    subst same
    exact entered.slot_last insideTame stays saves none at' within
  constructor
  · intro restored early op late same saves none f at'
    rw [← last early op late same saves none f at',restored]
  · intro kept
    rcases none_or_last Op.SavesCursor inside with none | ⟨early,op,late,same,saves,none⟩
    · exact ((entered.slot_same insideTame stays none).of_ok within).2
    · have ranInside := within
      rw [same] at ranInside
      have split : (g.setDecMode 1049 true).execAll (early ++ op :: late) =
          (g.setDecMode 1049 true).execAll early >>= fun f => f.execAll (op :: late) := List.foldlM_append
      rw [split] at ranInside
      obtain ⟨f,at',_⟩ := bind_ok_iff.mp ranInside
      rw [last early op late same saves none f at']
      exact kept early op late same saves none f at'

end DamageGrid

end

section
attribute [local instance] byteParser blockWidth

/-- `A` and two line feeds after `ESC [ ? 4 7 h`. -/
theorem hidden_untouched_scrolled : ∃ d d',
    (DamageGrid.new 1 2 5).calls [.process [0x1b,0x5b,0x3f,0x34,0x37,0x68]] = .ok d ∧
      d.processAll [[0x41,0x0a,0x0a]] = .ok d' ∧ d'.grid.modeFlags.altScreen = d.grid.modeFlags.altScreen ∧
      (d.grid.modeFlags.altScreen = true → d'.grid.primary = d.grid.primary ∧
        (d'.grid.scrollback = d.grid.scrollback ∨ d'.grid.scrollback = {} ∧ .eraseDisplay 3 ∈ d.ops [[0x41,0x0a,0x0a]])) ∧
      (d.grid.modeFlags.altScreen = false → d'.grid.alternate = d.grid.alternate) :=
  ⟨_,_,rfl,rfl,DamageGrid.hidden_untouched (show (0 : UInt16) < 1 by decide) (show (0 : UInt16) < 2 by decide)
    (show (DamageGrid.new 1 2 5).calls [.process [0x1b,0x5b,0x3f,0x34,0x37,0x68]] = .ok _ from rfl) (by decide) rfl⟩

/-- `A` on the alternate screen, and back. -/
theorem leave_restores_iff_print : ∃ d',
    (DamageGrid.new 2 3 0).processAll [[0x1b,0x5b,0x3f,0x31,0x30,0x34,0x39,0x68,0x41,0x1b,0x5b,0x3f,0x31,0x30,0x34,0x39,0x6c]] =
      .ok d' ∧ ((DamageGrid.new 2 3 0).grid.SameCursor d'.grid ↔ (DamageGrid.new 2 3 0).grid.SlotKept [.print 'A']) :=
  ⟨_,rfl,DamageGrid.leave_restores_iff (show (0 : UInt16) < 2 by decide) (show (0 : UInt16) < 3 by decide)
    (show (DamageGrid.new 2 3 0).calls [] = .ok _ from rfl)
    (show (DamageGrid.new 2 3 0).ops [[0x1b,0x5b,0x3f,0x31,0x30,0x34,0x39,0x68,0x41,0x1b,0x5b,0x3f,0x31,0x30,0x34,0x39,0x6c]] =
      [] ++ .decMode 1049 true :: ([.print 'A'] ++ [.decMode 1049 false]) from rfl) rfl (by decide) rfl⟩

/-- `CSI 2 ; 2 H` and `ESC 7` on the alternate screen: leaving it puts the cursor
    where it was saved there. -/
theorem save_inside_moves_cursor : ∃ d',
    (DamageGrid.new 2 3 0).ops [[0x1b,0x5b,0x3f,0x31,0x30,0x34,0x39,0x68,0x1b,0x5b,0x32,0x3b,0x32,0x48,0x1b,0x37,
      0x1b,0x5b,0x3f,0x31,0x30,0x34,0x39,0x6c]] =
      [.decMode 1049 true,.clearPendingWrap,.cursorPosition 2 2,.saveCursor,.decMode 1049 false] ∧
    (DamageGrid.new 2 3 0).processAll [[0x1b,0x5b,0x3f,0x31,0x30,0x34,0x39,0x68,0x1b,0x5b,0x32,0x3b,0x32,0x48,0x1b,0x37,
      0x1b,0x5b,0x3f,0x31,0x30,0x34,0x39,0x6c]] = .ok d' ∧
    ¬ (DamageGrid.new 2 3 0).grid.SameCursor d'.grid := by
  refine ⟨_,rfl,rfl,fun same => ?_⟩
  exact absurd same.1 (by decide)

end

end Termpane
