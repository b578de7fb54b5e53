import Termpane.Vte
import Termpane.Walks

/-!
# What output can observe

History is written by the handlers and never read back into the screen, the
cursor or a mode, and neither are damage, the buffers for the host and the host's
settings. `core` puts them at their defaults, and no operation can tell a grid
from its core.
-/
namespace Termpane

open Lib

namespace Grid

/-- What there is of a grid without its history and, unless the observer is the
    host, without damage, buffers and settings; the saved row is then clamped as
    it is on its way back. -/
def core (host : Bool) (g : Grid) : Grid :=
  { g with
    scrollback := {}
    scrollbackLimit := 0
    scrollbackOffset := 0
    lastPreservedBlock := none
    eraseDisplayPolicy := .saveToScrollback
    modeFlags.mutatedSincePreserve := false
    savedCursorRow := if host then g.savedCursorRow else min g.savedCursorRow (g.rows - 1)
    reportedFg := if host then g.reportedFg else (0,0,0)
    reportedBg := if host then g.reportedBg else (0,0,0)
    recentHyperlinks := if host then g.recentHyperlinks else []
    scrollOps := if host then g.scrollOps else []
    dirty := if host then g.dirty else {}
    passthrough := if host then g.passthrough else [] }

/-- Two computations that no operation can tell apart. -/
abbrev Alike (host : Bool) (x y : Checked Grid) : Prop := SameUpTo (core host) x y

variable {host : Bool}

/-- Cores are equal when they are so but for the saved row, and the saved row is. -/
theorem core_eq {f g : Grid}
    (rest : ({ f with savedCursorRow := 0 } : Grid).core host = ({ g with savedCursorRow := 0 } : Grid).core host)
    (row : (f.core host).savedCursorRow = (g.core host).savedCursorRow) : f.core host = g.core host := by
  have left : f.core host =
      { ({ f with savedCursorRow := 0 } : Grid).core host with savedCursorRow := (f.core host).savedCursorRow } := rfl
  have right : g.core host =
      { ({ g with savedCursorRow := 0 } : Grid).core host with savedCursorRow := (g.core host).savedCursorRow } := rfl
  rw [left,right,rest,row]

theorem core_savedCursorRow (g : Grid) : (g.core host).savedCursorRow = ((g.core host).core host).savedCursorRow := by
  cases host with
  | true => rfl
  | false => simp only [core,Bool.false_eq_true,if_false,Nat.min_assoc,Nat.min_self]

theorem core_core (g : Grid) : (g.core host).core host = g.core host :=
  core_eq (by cases host <;> rfl) (core_savedCursorRow g).symm

/-- What treats a grid as its core treats two grids with one core alike. -/
theorem alike_of_core {h : Grid → Checked Grid} (respects : ∀ g, Alike host (h g) (h (g.core host))) {f g : Grid}
    (same : f.core host = g.core host) : Alike host (h f) (h g) := by
  refine (respects f).trans ?_
  rw [same]
  exact (respects g).symm

/-- An update that cannot tell a grid from its core. -/
theorem core_update {u : Grid → Grid} (respects : ∀ g, (u g).core host = (u (g.core host)).core host) {f g : Grid}
    (same : f.core host = g.core host) : (u f).core host = (u g).core host := by
  rw [respects f,same,← respects g]

/-- No edit can tell grids of one core apart, and what is read of them is the same. -/
theorem respects_core : Respects (fun _ => True) fun f g => f.core host = g.core host where
  read {f g} same := by
    have agree : f.reading (f.core host) = f.reading (g.core host) := congrArg f.reading same
    exact ⟨f,agree⟩
  edit e _ same := by
    refine core_update (u := fun g => g.edit e) (fun g => ?_) same
    cases e with
    | evict top row =>
      obtain ⟨_,kept⟩ := g.evict_writes top row
      obtain ⟨_,kept'⟩ := (g.core host).evict_writes top row
      refine (congrArg (core host) kept).trans (Eq.trans ?_ (congrArg (core host) kept').symm)
      exact core_eq (by cases host <;> rfl) (core_savedCursorRow g)
    | preserve =>
      obtain ⟨_,_,_,kept⟩ := g.preserve_writes
      obtain ⟨_,_,_,kept'⟩ := (g.core host).preserve_writes
      refine (congrArg (core host) kept).trans (Eq.trans ?_ (congrArg (core host) kept').symm)
      exact core_eq (by cases host <;> rfl) (core_savedCursorRow g)
    | _ => exact core_eq (by cases host <;> rfl) (core_savedCursorRow g)

section
variable [UnicodeWidth]

/-! ## Operations and callbacks -/

/-- A cursor put back in a row, with the saved column. -/
def restoredTo (g : Grid) (row : Nat) : Grid :=
  if g.savedCursorCol ≥ g.cols then
    { g with modeFlags.pendingWrap := true, lastPrint := none, cursorRow := row, cursorCol := g.cols }
  else
    { g with modeFlags.pendingWrap := false, lastPrint := none, cursorRow := row,
             cursorCol := min g.savedCursorCol (g.cols - 1) }

omit [UnicodeWidth] in
/-- A saved cursor comes back clamped, so clamping it before makes no difference. -/
theorem core_restoreSavedCursor {f g : Grid} (same : f.core host = g.core host) :
    f.restoreSavedCursor.core host = g.restoreSavedCursor.core host := by
  refine core_update (fun g => ?_) same
  have row : min (g.core host).savedCursorRow (g.rows - 1) = min g.savedCursorRow (g.rows - 1) := by
    cases host with
    | true => rfl
    | false => simp only [core,Bool.false_eq_true,if_false,Nat.min_assoc,Nat.min_self]
  have restored (g : Grid) : g.restoreSavedCursor = g.restoredTo (min g.savedCursorRow (g.rows - 1)) := rfl
  rw [restored,restored,show (g.core host).rows = g.rows from rfl,row]
  unfold restoredTo
  change (if g.savedCursorCol ≥ g.cols then _ else _ : Grid).core host = (if g.savedCursorCol ≥ g.cols then _ else _ : Grid).core host
  split
  · exact core_eq (by cases host <;> rfl) (core_savedCursorRow g)
  · exact core_eq (by cases host <;> rfl) (core_savedCursorRow g)

omit [UnicodeWidth] in
theorem core_setDecMode (g : Grid) (mode : Nat) (enabled : Bool) :
    (g.setDecMode mode enabled).core host = ((g.core host).setDecMode mode enabled).core host := by
  unfold setDecMode
  split
  case h_9 =>
    cases enabled with
    | true =>
      cases host with
      | true => rfl
      | false => exact core_eq rfl (by simp [core,clearPendingWrap,setAltScreen,saveCursor])
    | false =>
      have switched : (g.setAltScreen false).restoreSavedCursor.core host =
          ((g.core host).setAltScreen false).restoreSavedCursor.core host :=
        core_restoreSavedCursor (core_eq (by cases host <;> rfl) (core_savedCursorRow g))
      exact core_update (u := fun f => { f with
        kittyKbStack := []
        passthrough := f.passthrough ++ List.replicate f.kittyKbStack.length (.unhandledCsi (ascii "\x1b[<u")) })
        (fun f => core_eq (by cases host <;> rfl) (core_savedCursorRow f)) switched
  all_goals exact core_eq (by cases host <;> rfl) (core_savedCursorRow g)

omit [UnicodeWidth] in
theorem core_softReset (g : Grid) : g.softReset.core host = (g.core host).softReset.core host := by
  have wraps (g : Grid) : g.restoreAutowrap.core host = (g.core host).restoreAutowrap.core host := by
    change (if g.modeFlags.noAutowrap then _ else _ : Grid).core host = (if g.modeFlags.noAutowrap then _ else _ : Grid).core host
    split
    · exact core_eq (by cases host <;> rfl) (core_savedCursorRow g)
    · exact (core_core g).symm
  refine core_update (u := fun g => { g with
    lastPrint := none
    modeFlags.hideCursor := false
    modeFlags.applicationCursor := false
    modeFlags.applicationKeypad := false
    savedCursorRow := 0
    savedCursorCol := 0 }) (fun g => core_eq (by cases host <;> rfl) (by cases host <;> rfl)) (core_update wraps ?_)
  exact core_eq (by cases host <;> rfl) (core_savedCursorRow g)

omit [UnicodeWidth] in
theorem core_handleOsc (g : Grid) (params : List Bytes) (bell : Bool) :
    (g.handleOsc params bell).core host = ((g.core host).handleOsc params bell).core host := by
  unfold handleOsc
  split
  · exact (core_core g).symm
  · dsimp only
    split
    case h_9 =>
      unfold oscHyperlink
      dsimp only
      split <;> exact core_eq (by cases host <;> rfl) (core_savedCursorRow g)
    all_goals exact core_eq (by cases host <;> rfl) (core_savedCursorRow g)

/-- No operation can tell a grid from its core. -/
theorem exec_alike (g : Grid) (op : Op) : Alike host (g.exec op) ((g.core host).exec op) := by
  cases walked : op.walk with
  | some walk =>
    have respects : Respects walk.Edits fun f g : Grid => f.core host = g.core host := respects_core.mono fun _ _ => trivial
    exact sameUpTo_iff.mpr (respects.exec (core_core g).symm walked)
  | none =>
    cases op
    case decMode mode enabled => exact congrArg Except.ok (core_setDecMode g mode enabled)
    case restoreCursor => exact congrArg Except.ok (core_restoreSavedCursor (core_core g).symm)
    case osc params bell => exact congrArg Except.ok (core_handleOsc g params bell)
    case saveCursor =>
      refine congrArg Except.ok ?_
      cases host with
      | true => rfl
      | false => exact core_eq rfl (by simp [core,saveCursor])
    case softReset => exact congrArg Except.ok (core_softReset g)
    all_goals first
      | exact congrArg Except.ok (core_eq (by cases host <;> rfl) (core_savedCursorRow g))
      | cases walked

/-- No callback can tell grids of one core apart. -/
theorem perform_alike {f g : Grid} (same : f.core host = g.core host) (c : Callback) :
    Alike host (f.perform c) (g.perform c) :=
  run_sameUpTo (fun _ _ op same => alike_of_core (fun g => exec_alike g op) same) c.ops same

/-- Nor can any run of callbacks. -/
theorem performAll_alike {f g : Grid} (same : f.core host = g.core host) (cs : List Callback) :
    Alike host (f.performAll cs) (g.performAll cs) :=
  run_sameUpTo (fun _ _ c same => perform_alike same c) cs same

end

end Grid

end Termpane
