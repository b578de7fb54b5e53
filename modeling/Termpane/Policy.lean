import Termpane.Core
import Termpane.History

/-!
# The erase policy

What a clear does to the history under either policy does not show. Where clears
save nothing, the log of scrolls counts the rows of the scrollback.
-/
namespace Termpane

open Lib

namespace Grid

variable {P : Row → Prop} {f g : Grid}

/-! ## Two policies -/

/-- A grid that discards what it clears, behind one that may save it: the same but
    for the history, of which it has no more. -/
structure Trails (f g : Grid) : Prop where
  core : f.core true = g.core true
  limit : f.scrollbackLimit = g.scrollbackLimit
  discards : f.eraseDisplayPolicy = .discard
  shorter : f.scrollback.len ≤ g.scrollback.len

section
variable [UnicodeWidth]

/-- What scrolls off a screen is a matter of the screen and the limit. -/
theorem entering_core (core : f.core true = g.core true) (limit : f.scrollbackLimit = g.scrollbackLimit) (op : Op) :
    f.entering op = g.entering op := by
  have left : f.entering op = ({ f.core true with scrollbackLimit := f.scrollbackLimit } : Grid).entering op := rfl
  have right : g.entering op = ({ g.core true with scrollbackLimit := g.scrollbackLimit } : Grid).entering op := rfl
  rw [left,right,core,limit]

omit [UnicodeWidth] in
theorem clearBlock_of_discard (discards : g.eraseDisplayPolicy = .discard) : g.clearBlock = none := if_pos (.inl discards)

theorem admitted_of_discard (discards : g.eraseDisplayPolicy = .discard) (mode : Nat) :
    g.admitted (.eraseDisplay mode) = [] := by
  unfold admitted
  rw [clearBlock_of_discard discards]
  exact ite_self _

theorem Trails.exec (trails : f.Trails g) (left : f.Shaped P) (right : g.Shaped P) {op : Op} {f' g' : Grid}
    (leftRuns : f.exec op = .ok f') (rightRuns : g.exec op = .ok g') : f'.Trails g' := by
  have alike := alike_of_core (fun g => exec_alike g op) trails.core
  rw [leftRuns,rightRuns] at alike
  obtain ⟨leftLimit,leftPolicy⟩ := (left.exec_settings op).of_ok leftRuns
  obtain ⟨rightLimit,_⟩ := (right.exec_settings op).of_ok rightRuns
  refine ⟨Except.ok.inj alike,?_,leftPolicy.trans trails.discards,?_⟩
  · rw [leftLimit,rightLimit,trails.limit]
  rw [(left.exec_scrollback op).of_ok leftRuns,(right.exec_scrollback op).of_ok rightRuns]
  by_cases empties : op = .eraseDisplay 3
  · rw [if_pos empties,if_pos empties]
  · rw [if_neg empties,if_neg empties,trails.limit]
    by_cases erases : ∃ mode, op = .eraseDisplay mode
    · obtain ⟨mode,rfl⟩ := erases
      rw [admitted_of_discard trails.discards]
      exact Nat.le_trans trails.shorter (RowStore.len_le_feed right.historyWraps _ _)
    · rw [not_exists] at erases
      rw [admitted_of_scroll f erases,admitted_of_scroll g erases,entering_core trails.core trails.limit]
      exact RowStore.feed_len_mono left.historyWraps right.historyWraps trails.shorter _ _

/-- Two runs of one list of operations. -/
theorem Trails.execAll {ops : List Op} (trails : f.Trails g) (left : f.Shaped RowOk) (right : g.Shaped RowOk)
    {cleared : Bool} (leftUnparked : cleared = true → f.modeFlags.pendingWrap = false)
    (rightUnparked : cleared = true → g.modeFlags.pendingWrap = false) (tame : Tame cleared (ops.map .op)) {f' g' : Grid}
    (leftRuns : f.execAll ops = .ok f') (rightRuns : g.execAll ops = .ok g') : f'.Trails g' := by
  have law := rowOk_law fun _ => True
  induction ops generalizing f g cleared with
  | nil =>
    cases leftRuns
    cases rightRuns
    exact trails
  | cons op ops ih =>
    obtain ⟨f₁,leftStep,leftRest⟩ := bind_ok_iff.mp leftRuns
    obtain ⟨g₁,rightStep,rightRest⟩ := bind_ok_iff.mp rightRuns
    have unparked (h h₁ : Grid) (step : h.exec op = .ok h₁) (cancelled : decide (op = .clearPendingWrap) = true) :
        h₁.modeFlags.pendingWrap = false := by
      rw [decide_eq_true_eq] at cancelled
      subst cancelled
      cases step
      rfl
    exact ih (trails.exec left right leftStep rightStep)
      ((left.exec law tame.1 fun moves => leftUnparked (tame.2.1 moves)).of_ok leftStep)
      ((right.exec law tame.1 fun moves => rightUnparked (tame.2.1 moves)).of_ok rightStep)
      (unparked f f₁ leftStep) (unparked g g₁ rightStep) tame.2.2 leftRest rightRest

end

end Grid

section
variable [Vte] [UnicodeWidth]

namespace DamageGrid

/-- What there is of a grid and its parser without the history, the block a clear
    remembers and the erase policy. -/
def shown (d : DamageGrid) : DamageGrid := { d with grid := d.grid.core true }

/-- `set_erase_display_policy`. -/
def withPolicy (d : DamageGrid) (policy : EraseDisplayPolicy) : DamageGrid :=
  { d with grid := d.grid.host (.setEraseDisplayPolicy policy) }

/-- What there is of a grid and its parser as far as output observes them. -/
def core (host : Bool) (d : DamageGrid) : DamageGrid := { d with grid := d.grid.core host }

theorem process_alike {host : Bool} {d e : DamageGrid} (same : d.core host = e.core host) (bytes : Bytes) :
    SameUpTo (core host) (d.process bytes) (e.process bytes) := by
  have grids : d.grid.core host = e.grid.core host := congrArg DamageGrid.grid same
  have parser : d.parser = e.parser := (congrArg DamageGrid.parser same : (d.core host).parser = (e.core host).parser)
  have seqState : d.seqState = e.seqState := (congrArg DamageGrid.seqState same : (d.core host).seqState = (e.core host).seqState)
  have pending : d.pendingUtf8 = e.pendingUtf8 :=
    (congrArg DamageGrid.pendingUtf8 same : (d.core host).pendingUtf8 = (e.core host).pendingUtf8)
  rw [process_parts,process_parts,parser,seqState,pending]
  have alike := Grid.performAll_alike grids
    ((nextSlice e.pendingUtf8 bytes).1.elim [] fun slice => (Vte.advance e.parser slice).2)
  unfold SameUpTo at alike ⊢
  revert alike
  generalize d.grid.performAll _ = x
  generalize e.grid.performAll _ = y
  intro alike
  cases x with
  | error e =>
    cases y with
    | error e' => cases alike; rfl
    | ok g => cases alike
  | ok f =>
    cases y with
    | error e => cases alike
    | ok g =>
      have cores : f.core host = g.core host := Except.ok.inj alike
      simp only [Except.map,core,cores]

/-- The erase policy does not show: what is done to one grid under either policy
    leaves it the same but for the history, of which it has no more when it
    discards what it clears. -/
theorem policy_not_shown {rows cols : UInt16} (hasRows : 0 < rows) (hasCols : 0 < cols) {scrollbackLimit : Nat}
    {run : List Call} {d : DamageGrid} (reached : (new rows cols scrollbackLimit).calls run = .ok d) (chunks : List Bytes) :
    SameUpTo shown ((d.withPolicy .discard).processAll chunks) ((d.withPolicy .saveToScrollback).processAll chunks) ∧
      ∀ discards saves, (d.withPolicy .discard).processAll chunks = .ok discards →
        (d.withPolicy .saveToScrollback).processAll chunks = .ok saves →
        discards.grid.scrollback.len ≤ saves.grid.scrollback.len := by
  have shaped := ((calls_rowOk hasRows hasCols scrollbackLimit run).of_ok reached).1
  refine ⟨run_sameUpTo (fun _ _ bytes same => process_alike same bytes) chunks rfl,fun discards saves left right => ?_⟩
  have leftRuns := processAll_execAll (d.withPolicy .discard) chunks
  have rightRuns := processAll_execAll (d.withPolicy .saveToScrollback) chunks
  rw [left] at leftRuns
  rw [right] at rightRuns
  have start : (d.withPolicy .discard).grid.Trails (d.withPolicy .saveToScrollback).grid := ⟨rfl,rfl,rfl,Nat.le_refl _⟩
  exact (start.execAll { shaped with } { shaped with } (fun none => absurd none Bool.false_ne_true)
    (fun none => absurd none Bool.false_ne_true) (d.ops_tame chunks) leftRuns.symm rightRuns.symm).shorter

end DamageGrid

end

section
attribute [local instance] byteParser blockWidth

/-- `A` and `CSI 2 J` on a fresh grid. -/
theorem policy_not_shown_clear :
    SameUpTo DamageGrid.shown (((DamageGrid.new 2 2 5).withPolicy .discard).processAll [[0x41,0x1b,0x5b,0x32,0x4a]])
        (((DamageGrid.new 2 2 5).withPolicy .saveToScrollback).processAll [[0x41,0x1b,0x5b,0x32,0x4a]]) ∧
      ∀ discards saves, ((DamageGrid.new 2 2 5).withPolicy .discard).processAll [[0x41,0x1b,0x5b,0x32,0x4a]] = .ok discards →
        ((DamageGrid.new 2 2 5).withPolicy .saveToScrollback).processAll [[0x41,0x1b,0x5b,0x32,0x4a]] = .ok saves →
        discards.grid.scrollback.len ≤ saves.grid.scrollback.len :=
  DamageGrid.policy_not_shown (show (0 : UInt16) < 2 by decide) (show (0 : UInt16) < 2 by decide)
    (show (DamageGrid.new 2 2 5).calls [] = .ok _ from rfl) [[0x41,0x1b,0x5b,0x32,0x4a]]

end

/-! ## Rows and scrolls counted -/

/-- The rows by which a scroll moves up a region that starts at the top. -/
def ScrollOp.topRows : ScrollOp → Nat
  | .up top _ rows => if top = 0 then rows else 0
  | .down _ _ _ => 0

def upRows (ops : List ScrollOp) : Nat := (ops.map ScrollOp.topRows).sum

@[simp] theorem upRows_nil : upRows [] = 0 := rfl

@[simp] theorem upRows_append (left right : List ScrollOp) : upRows (left ++ right) = upRows left + upRows right := by
  simp [upRows]

namespace Grid

variable {P : Row → Prop} {g : Grid}

theorem Shaped.length_leaving (shaped : g.Shaped P) (top n : Nat) :
    (g.leaving top n).length = if g.Saves top then min n g.rows else 0 := by
  unfold leaving
  split
  · rw [List.length_take,shaped.zip_length]
  · rfl

section
variable [UnicodeWidth]

/-- The rows an operation records as scrolled off the top that do not enter the
    scrollback: those DL deletes, and the one a region of a single row at the top does
    not move. -/
def unsaved (g : Grid) : Op → Nat
  | .deleteLines p0 =>
    if g.scrollTop = 0 ∧ g.cursorRow = 0 then min (max p0 1) (g.scrollBottom - g.cursorRow + 1) else 0
  | op => if g.scrollTop = 0 ∧ g.scrollBottom = 0 then min (g.scrollLines op) 1 else 0

/-- No line is deleted at the top of the screen, and no single row there is scrolled. -/
def Counts (g : Grid) : Op → Prop
  | .deleteLines _ => ¬ (g.scrollTop = 0 ∧ g.cursorRow = 0)
  | op => ¬ (g.scrollTop = 0 ∧ g.scrollBottom = 0 ∧ 0 < g.scrollLines op)

theorem unsaved_eq_zero_iff (g : Grid) (op : Op) : g.unsaved op = 0 ↔ g.Counts op := by
  unfold unsaved Counts
  split
  · split <;> omega
  · split <;> omega

omit [UnicodeWidth] in
theorem upRows_scrollUpOps (g : Grid) (n : Nat) :
    upRows (g.scrollUpOps n) = if g.scrollTop = 0 then min n (g.scrollBottom - g.scrollTop + 1) else 0 := by
  unfold scrollUpOps
  split
  case isTrue => simp only [upRows,List.map_cons,List.map_nil,List.sum_cons,List.sum_nil,Nat.add_zero,ScrollOp.topRows]
  case isFalse none =>
    rw [Nat.eq_zero_of_not_pos none,Nat.zero_min,ite_self]
    rfl

omit [UnicodeWidth] in
/-- A scroll up by some lines: what is recorded enters, unless a single row is not moved. -/
theorem Shaped.scrollUp_rows (shaped : g.Shaped P) (primary : g.modeFlags.altScreen = false) (some : 0 < g.scrollbackLimit)
    (n : Nat) : upRows (g.scrollUpOps n) = (g.leaving g.scrollTop (g.scrollDistance n)).length +
      if g.scrollTop = 0 ∧ g.scrollBottom = 0 then min n 1 else 0 := by
  have margins := shaped.margins
  have bottom := shaped.bottom
  rw [upRows_scrollUpOps,shaped.length_leaving]
  by_cases top : g.scrollTop = 0
  · rw [if_pos top,if_pos ⟨primary,top,some⟩]
    unfold scrollDistance
    split <;> split <;> omega
  · rw [if_neg top,if_neg fun saves => top saves.2.1,if_neg fun single => top single.1]

/-- What an operation records is what enters and what is not saved. -/
theorem Shaped.recording_rows (shaped : g.Shaped P) (primary : g.modeFlags.altScreen = false)
    (discards : g.eraseDisplayPolicy = .discard) (some : 0 < g.scrollbackLimit) (op : Op) :
    upRows (g.recording op) = (g.admitted op).length + g.unsaved op := by
  have scrolled := shaped.scrollUp_rows primary some (g.scrollLines op)
  have recorded : upRows (g.recording op) = upRows (g.scrollUpOps (g.scrollLines op)) + upRows (g.shiftOps op) :=
    upRows_append _ _
  rw [recorded,scrolled]
  cases op
  case eraseDisplay mode =>
    have still : g.leaving g.scrollTop (g.scrollDistance 0) = [] := by rw [scrollDistance_zero,leaving_zero]
    rw [admitted_of_discard discards,show g.scrollLines (.eraseDisplay mode) = 0 from rfl,still]
    rfl
  case deleteLines p0 =>
    have still : g.leaving g.scrollTop (g.scrollDistance 0) = [] := by rw [scrollDistance_zero,leaving_zero]
    rw [admitted_of_scroll g (by simp),entering_of_still rfl,show g.scrollLines (.deleteLines p0) = 0 from rfl,still]
    simp only [shiftOps,unsaved]
    by_cases outside : g.cursorRow < g.scrollTop ∨ g.cursorRow > g.scrollBottom
    · rw [if_pos outside,if_neg (show ¬ (g.scrollTop = 0 ∧ g.cursorRow = 0) by omega)]
      split <;> simp
    · rw [if_neg outside]
      simp only [upRows,List.map_cons,List.map_nil,List.sum_cons,List.sum_nil,ScrollOp.topRows]
      split <;> split <;> split <;> simp <;> omega
  case insertLines p0 =>
    have none : upRows (g.shiftOps (.insertLines p0)) = 0 := by
      simp only [shiftOps]
      split <;> rfl
    rw [none]
    rfl
  case reverseIndex =>
    have none : upRows (g.shiftOps .reverseIndex) = 0 := by
      simp only [shiftOps]
      split <;> rfl
    rw [none]
    rfl
  all_goals rfl

/-- How far the scrollback is behind the log of scrolls since a state, while it has
    room. -/
structure CountsUp (before g : Grid) (behind : Nat) : Prop where
  limit : g.scrollbackLimit = before.scrollbackLimit
  discards : g.eraseDisplayPolicy = .discard
  rows : ∃ recorded, g.scrollOps = before.scrollOps ++ recorded ∧
    (g.scrollback.len < g.scrollbackLimit → g.scrollback.len + behind = before.scrollback.len + upRows recorded)

theorem ledgerAfter_scrollOps (g : Grid) (op : Op) : (g.ledgerAfter op).scrollOps = g.scrollOps ++ g.recording op := by
  have quiet (lines : g.scrollLines op = 0) (shift : g.shiftOps op = []) : g.scrollOps = g.scrollOps ++ g.recording op := by
    unfold recording
    rw [lines,shift]
    exact (List.append_nil _).symm
  cases op
  case eraseDisplay mode =>
    obtain ⟨_,_,_,same⟩ := eraseHistory_ledger g mode
    rw [show g.ledgerAfter (.eraseDisplay mode) = (g.eraseHistory mode).ledger from rfl,same]
    exact quiet rfl rfl
  case saveCursor | softReset | kittyPush | kittyPop => exact quiet rfl rfl
  all_goals rfl

theorem Shaped.exec_countsUp {before : Grid} (shaped : g.Shaped P) (primary : g.modeFlags.altScreen = false) {op : Op}
    (keeps : op ≠ .eraseDisplay 3) {behind : Nat} (counts : before.CountsUp g behind) :
    Ends (fun h => before.CountsUp h (behind + g.unsaved op)) (fun _ => True) (g.exec op) := by
  have after := ((shaped.exec_scrollback op).and ((shaped.exec_settings op).and (shaped.exec_past op))).allow fun _ _ => trivial
  refine after.mono fun h ⟨scrollback,⟨limit,policy⟩,past⟩ => ?_
  obtain ⟨recorded,log,rows⟩ := counts.rows
  refine ⟨limit.trans counts.limit,policy.trans counts.discards,recorded ++ g.recording op,?_,fun room => ?_⟩
  · have logged : h.scrollOps = (g.ledgerAfter op).scrollOps := congrArg Ledger.scrollOps past
    rw [logged,ledgerAfter_scrollOps,log,List.append_assoc]
  · rw [if_neg keeps] at scrollback
    rw [scrollback,limit] at room
    have grows := RowStore.len_le_feed shaped.historyWraps g.scrollbackLimit (g.admitted op)
    have length := RowStore.len_feed_of_room shaped.historyWraps room
    have rest := shaped.recording_rows primary counts.discards (by omega) op
    have earlier := rows (by omega)
    rw [scrollback,length,upRows_append,rest]
    omega

end

end Grid

section
variable [Vte] [UnicodeWidth]

namespace DamageGrid

/-- While clears save nothing, the primary screen is shown and the scrollback has room
    and is not emptied, it grows by as many rows as the log of scrolls counts, exactly
    if no line is deleted at the top of the screen and no single row there is scrolled. -/
theorem growth_counted_iff {rows cols : UInt16} (hasRows : 0 < rows) (hasCols : 0 < cols) {scrollbackLimit : Nat}
    {run : List Call} {d d' : DamageGrid} (reached : (new rows cols scrollbackLimit).calls run = .ok d)
    (discards : d.grid.eraseDisplayPolicy = .discard) {chunks : List Bytes}
    (primary : StepsMeet Grid.exec (fun g op => g.modeFlags.altScreen = false ∧ op ≠ .eraseDisplay 3) d.grid (d.ops chunks))
    (done : d.processAll chunks = .ok d') (room : d'.grid.scrollback.len < d'.grid.scrollbackLimit) :
    d'.grid.scrollback.len = d.grid.scrollback.len + upRows (d'.grid.scrollOps.drop d.grid.scrollOps.length) ↔
      StepsMeet Grid.exec Grid.Counts d.grid (d.ops chunks) := by
  have shaped := ((calls_rowOk hasRows hasCols scrollbackLimit run).of_ok reached).1
  have performed := processAll_execAll d chunks
  rw [done] at performed
  have start : d.grid.CountsUp d.grid 0 := ⟨rfl,discards,[],(List.append_nil _).symm,fun _ => rfl⟩
  have counted := ((shaped.execAll_notes d.grid.CountsUp (fun g op behind => behind + g.unsaved op) _
    (fun _ _ _ shaped _ meets counts => shaped.exec_countsUp meets.1 meets.2 counts) (d.ops_tame chunks) primary
    start).of_ok performed.symm).2
  have free : StepsMeet Grid.exec Grid.Counts d.grid (d.ops chunks) ↔
      noted Grid.exec (fun g op behind => behind + g.unsaved op) d.grid (d.ops chunks) 0 = 0 := by
    rw [noted_cost_eq_zero performed.symm 0,eq_self_iff_true,true_and]
    exact ⟨fun meets => meets.mono fun g op _ => (g.unsaved_eq_zero_iff op).mpr,
      fun meets => meets.mono fun g op _ => (g.unsaved_eq_zero_iff op).mp⟩
  obtain ⟨recorded,log,rows⟩ := counted.rows
  have earlier := rows room
  rw [free,log,List.drop_left]
  change d'.grid.scrollback.len + _ = _ at earlier
  omega

end DamageGrid

end

section
attribute [local instance] byteParser blockWidth

/-- `A` and two line feeds, in two rows. -/
theorem growth_counted_iff_lines : ∃ d d',
    (DamageGrid.new 2 2 5).calls [.host (.setEraseDisplayPolicy .discard)] = .ok d ∧
      d.processAll [[0x41,0x0a,0x0a]] = .ok d' ∧
      (d'.grid.scrollback.len = d.grid.scrollback.len + upRows (d'.grid.scrollOps.drop d.grid.scrollOps.length) ↔
        StepsMeet Grid.exec Grid.Counts d.grid (d.ops [[0x41,0x0a,0x0a]])) :=
  ⟨_,_,rfl,rfl,DamageGrid.growth_counted_iff (show (0 : UInt16) < 2 by decide) (show (0 : UInt16) < 2 by decide)
    (show (DamageGrid.new 2 2 5).calls [.host (.setEraseDisplayPolicy .discard)] = .ok _ from rfl) rfl (by decide) rfl
    (by decide)⟩

/-- `CSI M` in the first row: a scroll is recorded, and no row enters. -/
theorem delete_line_not_counted : ∃ d d',
    (DamageGrid.new 2 2 5).calls [.host (.setEraseDisplayPolicy .discard)] = .ok d ∧
      d.grid.eraseDisplayPolicy = .discard ∧ d.ops [[0x1b,0x5b,0x4d]] = [.deleteLines 0] ∧
      d.grid.modeFlags.altScreen = false ∧ d.processAll [[0x1b,0x5b,0x4d]] = .ok d' ∧
      d'.grid.modeFlags.altScreen = false ∧ d'.grid.scrollback.len < d'.grid.scrollbackLimit ∧
      d'.grid.scrollback.len ≠ d.grid.scrollback.len + upRows (d'.grid.scrollOps.drop d.grid.scrollOps.length) :=
  ⟨_,_,rfl,rfl,rfl,rfl,rfl,rfl,by decide,by decide⟩

end

end Termpane
