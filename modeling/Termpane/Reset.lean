import Termpane.Core
import Termpane.Screens

/-!
# The full reset

RIS resets a list of fields. What it leaves of a grid that later output can observe
is the saved cursor, the keyboard stack and the cursor style.
-/
namespace Termpane

open Lib

namespace Grid

variable {P : Row → Prop} {f g h : Grid}

/-- What there is of a grid once it was reset. -/
def leftover (g : Grid) : Grid := g.fullReset.core false

/-- Only the saved cursor, the keyboard stack and the cursor style are left. -/
theorem leftover_eq (g : Grid) : g.leftover =
    { profile := g.profile, rows := g.rows, cols := g.cols, primary := .blank g.rows g.cols, alternate := .blank g.rows g.cols,
      scrollbackLimit := 0, scrollBottom := g.rows - 1, reportedFg := (0,0,0), reportedBg := (0,0,0),
      savedCursorRow := min g.savedCursorRow (g.rows - 1), savedCursorCol := g.savedCursorCol,
      kittyKbStack := g.kittyKbStack, cursorStyle := g.cursorStyle } := rfl

/-- Whether nothing is left. -/
def LeavesNothing (g : Grid) : Prop :=
  g.cursorStyle = 0 ∧ g.kittyKbStack = [] ∧ g.savedCursorCol = 0 ∧ (g.savedCursorRow = 0 ∨ g.rows = 1)

instance (g : Grid) : Decidable g.LeavesNothing := by unfold LeavesNothing; infer_instance

theorem leavesNothing_iff (hasRows : 0 < g.rows) : g.LeavesNothing ↔ g.leftover.cursorStyle = 0 ∧ g.leftover.kittyKbStack = [] ∧
    g.leftover.savedCursorCol = 0 ∧ g.leftover.savedCursorRow = 0 := by
  rw [leftover_eq]
  unfold LeavesNothing
  dsimp only
  have row : min g.savedCursorRow (g.rows - 1) = 0 ↔ g.savedCursorRow = 0 ∨ g.rows = 1 := by omega
  rw [row]

/-- A grid that is reset is then a new one. -/
theorem Shaped.leftover_new (shaped : g.Shaped P) {rows cols : UInt16} (sameRows : rows.toNat = g.rows)
    (sameCols : cols.toNat = g.cols) (scrollbackLimit : Nat) (nothing : g.LeavesNothing) :
    g.leftover = (Grid.new rows cols scrollbackLimit).core false := by
  obtain ⟨style,keyboard,col,row⟩ := nothing
  have saved : min g.savedCursorRow (g.rows - 1) = min 0 (g.rows - 1) := by omega
  have fresh : (Grid.new rows cols scrollbackLimit).core false =
      { profile := {}, rows := rows.toNat, cols := cols.toNat, primary := .blank rows.toNat cols.toNat,
        alternate := .blank rows.toNat cols.toNat, scrollbackLimit := 0, scrollBottom := rows.toNat - 1, reportedFg := (0,0,0),
        reportedBg := (0,0,0), savedCursorRow := min 0 (rows.toNat - 1), savedCursorCol := 0, kittyKbStack := [], cursorStyle := 0 } :=
    rfl
  rw [leftover_eq,fresh,style,keyboard,col,saved,shaped.profile,sameRows,sameCols]

/-! ## What is printed and dropped before -/

section
variable [UnicodeWidth]

theorem print_leftover (g : Grid) (ch : Char) : Ends (fun h => h.leftover = g.leftover) (fun _ => True) (g.writeCharAtCursor ch) :=
  exec_unwritten (fun _ => rfl) (show (Op.print ch).walk = _ from rfl) g

omit [UnicodeWidth] in
theorem handleOsc_leftover (g : Grid) (params : List Bytes) (bell : Bool) : (g.handleOsc params bell).leftover = g.leftover := by
  obtain ⟨_,_,_,same⟩ := g.handleOsc_writes params bell
  exact (congrArg leftover same).trans rfl

/-- What ESC interrupts changes nothing a reset leaves. -/
theorem Shaped.interrupted_leaves (shaped : g.Shaped RowOk) {c : Callback} (ended : c.EndsString ∨ c.FromHigh) :
    Ends (fun h => h.Shaped RowOk ∧ h.leftover = g.leftover) (fun _ => True) (g.perform c) := by
  have kept : Keeps RowOk (g.perform c) := shaped.perform (rowOk_law fun _ => True) fun _ _ => trivial
  have leaves : Ends (fun h => h.leftover = g.leftover) (fun _ => True) (g.perform c) := ?_
  · exact (kept.and leaves).allow fun _ _ => trivial
  cases c with
  | print ch =>
    have one : g.perform (.print ch) = g.writeCharAtCursor ch := bind_ok _
    rw [one]
    exact print_leftover g ch
  | oscDispatch params bell => exact handleOsc_leftover g params bell
  | execute byte =>
    rcases ended with none | high
    · exact none.elim
    · have high : isAscii byte = false := high
      have nothing : Termpane.execute byte = [] := by
        unfold Termpane.execute
        simp only [isAscii,decide_eq_false_iff_not,UInt8.le_iff_toNat_le,UInt8.lt_iff_toNat_lt,← UInt8.toNat_inj,
          UInt8.reduceToNat] at *
        rw [if_neg (by omega),if_neg (by omega),if_neg (by omega),if_neg (by omega),if_neg (by omega)]
      have same : g.perform (.execute byte) = .ok g := congrArg g.execAll nothing
      rw [same]
      exact rfl
  | put byte => exact rfl
  | unhook => exact rfl
  | csiDispatch | escDispatch | hook =>
    rcases ended with none | none
    · exact none.elim
    · exact none.elim

end

/-! ## What the getters report -/

/-- What the getters report, but for the scrollback, the erase policy, the reported
    colours, damage and the buffers for the host. -/
structure Observation where
  size : Nat × Nat
  cell : Nat → Nat → Option Cell
  cursorPosition : Nat × Nat
  currentAttrs : Attrs
  kittyKbFlags : Nat
  cursorStyle : Nat
  textCursorEnable : Option Bool
  alternateScreen : Bool
  mouseProtocolMode : MouseProtocolMode
  mouseProtocolEncoding : MouseProtocolEncoding
  hideCursor : Bool
  bracketedPaste : Bool
  applicationCursor : Bool
  focusEvents : Bool
  autowrap : Bool
  applicationKeypad : Bool
  inSynchronizedUpdate : Bool
  decrqmStatus : Nat → Nat

def observed (g : Grid) : Observation :=
  { size := (g.rows,g.cols)
    cell := g.cell
    cursorPosition := (g.cursorRow,g.cursorCol)
    currentAttrs := g.currentAttrs
    kittyKbFlags := g.kittyKbFlags
    cursorStyle := g.cursorStyle
    textCursorEnable := g.textCursorEnable
    alternateScreen := g.modeFlags.altScreen
    mouseProtocolMode := g.mouseMode
    mouseProtocolEncoding := g.mouseEncoding
    hideCursor := g.modeFlags.hideCursor
    bracketedPaste := g.modeFlags.bracketedPaste
    applicationCursor := g.modeFlags.applicationCursor
    focusEvents := g.modeFlags.focusEvents
    autowrap := g.autowrap
    applicationKeypad := g.modeFlags.applicationKeypad
    inSynchronizedUpdate := g.modeFlags.synchronizedUpdate
    decrqmStatus := g.decrqmStatus }

/-- A saved cursor that comes back home after a reset was saved there. -/
theorem home_of_restored {rows cols : UInt16} (hasCols : 0 < g.cols) (sameCols : cols.toNat = g.cols)
    (restored : g.fullReset.restoreSavedCursor.observed = (Grid.new rows cols 0).restoreSavedCursor.observed) :
    g.leftover.savedCursorCol = 0 ∧ g.leftover.savedCursorRow = 0 := by
  obtain ⟨row,col,_⟩ := restoreSavedCursor_cursor g.fullReset
  obtain ⟨row',col',_⟩ := restoreSavedCursor_cursor (Grid.new rows cols 0)
  have cursor := Prod.ext_iff.mp (congrArg Observation.cursorPosition restored)
  have atRow : min g.savedCursorRow (g.rows - 1) = min 0 (rows.toNat - 1) := row.symm.trans (cursor.1.trans row')
  have atCol : (if g.savedCursorCol ≥ g.cols then g.cols else min g.savedCursorCol (g.cols - 1)) =
      if 0 ≥ cols.toNat then cols.toNat else min 0 (cols.toNat - 1) := col.symm.trans (cursor.2.trans col')
  refine ⟨?_,atRow.trans (Nat.zero_min _)⟩
  change g.savedCursorCol = 0
  split at atCol <;> split at atCol <;> omega

end Grid

section
variable [Vte]

/-- What ends when ESC c comes, the reset, and then what a new parser makes of the
    rest. -/
theorem DamageGrid.callbacks_reset (laws : VteLaws) {d : DamageGrid} (reached : Vte.Reached d.parser)
    (carried : Carried d.pendingUtf8) : ∃ ended, (∀ c ∈ ended, c.EndsString ∨ c.FromHigh) ∧
      ∀ reset stream : List Bytes, reset.flatten = [0x1b,0x63] ++ stream.flatten →
        d.callbacks reset = ended ++ .escDispatch [] false 0x63 :: parsed Vte.start (slices [] stream).1 := by
  have high : ∀ b ∈ d.pendingUtf8, isAscii b = false := fun b inside => held_nonAscii (carried.symm ▸ inside)
  have read (more : Bytes) : ∃ ended, (∀ c ∈ ended, c.EndsString ∨ c.FromHigh) ∧
      (Vte.advance d.parser (d.pendingUtf8 ++ [0x1b,0x63] ++ more)).2 =
        ended ++ .escDispatch [] false 0x63 :: (Vte.advance Vte.start more).2 := by
    obtain ⟨ended,aborts,ends⟩ := laws.aborts_high d.parser reached d.pendingUtf8 (0x63 :: more) high
    refine ⟨ended,ends,?_⟩
    rw [List.append_assoc]
    refine aborts.trans (congrArg _ (laws.decodes [.esc 0x63] more fun t inside => ?_))
    rw [List.mem_singleton.mp inside]
    exact ⟨by decide,by decide,by decide⟩
  obtain ⟨ended,ends,first⟩ := read []
  refine ⟨ended,ends,fun reset stream split => ?_⟩
  have front {ended rest : List Callback} (ends : ∀ c ∈ ended, c.EndsString ∨ c.FromHigh) :
      (ended ++ .escDispatch [] false 0x63 :: rest).takeWhile (· ≠ .escDispatch [] false 0x63) = ended := by
    rw [List.takeWhile_append_of_pos,List.takeWhile_cons_of_neg (by simp),List.append_nil]
    intro c inside
    rw [decide_eq_true_eq]
    rintro rfl
    exact (ends _ inside).elim id id
  have handed : (slices d.pendingUtf8 reset).1.flatten = d.pendingUtf8 ++ [0x1b,0x63] ++ (slices [] stream).1.flatten := by
    have left := slices_spell d.pendingUtf8 reset
    have right := slices_spell [] stream
    have none : held (d.pendingUtf8 ++ [0x1b,0x63]) = [] := by
      rw [show d.pendingUtf8 ++ [0x1b,0x63] = (d.pendingUtf8 ++ [0x1b]) ++ [0x63] by simp]
      exact held_of_ascii _ (by decide)
    rw [slices_pending carried,split,← List.append_assoc,← held_append,none,List.nil_append] at left
    rw [slices_pending held_nil,List.nil_append] at right
    refine List.append_cancel_right (left.trans ?_)
    rw [List.append_assoc _ (slices [] stream).1.flatten,right]
  obtain ⟨ended',ends',later⟩ := read (slices [] stream).1.flatten
  have persists := congrArg Prod.snd
    (laws.persists d.parser (d.pendingUtf8 ++ [0x1b,0x63]) (slices [] stream).1.flatten
      (.inl ⟨d.pendingUtf8 ++ [0x1b],0x63,by simp,by decide⟩))
  rw [List.append_nil] at first
  rw [first,later,laws.nothing,List.append_assoc] at persists
  -- the reset is where both begin
  have same := (front ends').symm.trans ((congrArg (List.takeWhile _) persists).trans (front ends))
  have whole : d.callbacks reset = (Vte.advance d.parser (slices d.pendingUtf8 reset).1.flatten).2 :=
    parsed_flatten laws (fun slice handed => slices_ends handed) d.parser
  rw [whole,handed,later,same,parsed_flatten laws fun slice handed => slices_ends handed]

variable [UnicodeWidth]

namespace DamageGrid

/-- RIS and then any output, however it is cut, shows what the output shows on a new
    grid of the same size. -/
def FullReset (d : DamageGrid) : Prop :=
  ∀ (rows cols : UInt16) (scrollbackLimit : Nat) (reset stream : List Bytes), rows.toNat = d.grid.rows → cols.toNat = d.grid.cols →
    reset.flatten = [0x1b,0x63] ++ stream.flatten →
      SameUpTo (fun d => d.grid.observed) (d.processAll reset) ((new rows cols scrollbackLimit).processAll stream)

omit [UnicodeWidth] in
theorem observed_grid (x y : Checked DamageGrid) : SameUpTo (fun d => d.grid.observed) x y ↔
    (x.map (·.grid)).map Grid.observed = (y.map (·.grid)).map Grid.observed := by
  cases x <;> cases y <;> exact Iff.rfl

/-- The state that is reset. -/
theorem reset_grid (laws : VteLaws) {d d₁ : DamageGrid} (sound : d.Sound RowOk) (resets : d.process [0x1b,0x63] = .ok d₁) :
    ∃ g : Grid, g.Shaped RowOk ∧ g.leftover = d.grid.leftover ∧
      ∀ reset stream : List Bytes, reset.flatten = [0x1b,0x63] ++ stream.flatten →
        (d.processAll reset).map (·.grid) = g.fullReset.performAll (parsed Vte.start (slices [] stream).1) := by
  obtain ⟨ended,ends,callbacks⟩ := callbacks_reset laws sound.parser sound.carried
  have split (rest : List Callback) : d.grid.performAll (ended ++ .escDispatch [] false 0x63 :: rest) =
      d.grid.performAll ended >>= fun g => g.fullReset.performAll rest := List.foldlM_append
  have performed := processAll_grid d [[0x1b,0x63]]
  have once : d.processAll [[0x1b,0x63]] = .ok d₁ := (congrArg (· >>= pure) resets).trans (ok_bind _ _)
  rw [once,callbacks [[0x1b,0x63]] [] rfl,split] at performed
  obtain ⟨g,interrupted,_⟩ := bind_ok_iff.mp performed.symm
  have kept : Ends (fun h => h.Shaped RowOk ∧ h.leftover = d.grid.leftover) (fun _ => True) (d.grid.performAll ended) :=
    run_ends (fun c inside h holds => (holds.1.interrupted_leaves (ends c inside)).mono
      fun _ later => ⟨later.1,later.2.trans holds.2⟩) ⟨sound.grid,rfl⟩
  obtain ⟨shaped,same⟩ := kept.of_ok interrupted
  refine ⟨g,shaped,same,fun reset stream whole => ?_⟩
  rw [processAll_grid,callbacks reset stream whole,split,interrupted]
  rfl

/-- RIS is a full reset exactly if the cursor style is the default one, the keyboard
    stack is empty and the cursor saved is, clamped, at home. -/
theorem full_reset_iff (laws : VteLaws) {rows cols : UInt16} (hasRows : 0 < rows) (hasCols : 0 < cols) {scrollbackLimit : Nat}
    {run : List Call} {d d₁ : DamageGrid} (reached : (new rows cols scrollbackLimit).calls run = .ok d)
    (resets : d.process [0x1b,0x63] = .ok d₁) : d.FullReset ↔ d.grid.LeavesNothing := by
  have law := rowOk_law fun _ => True
  have sound : d.Sound RowOk := ((sound_new law.blank hasRows hasCols scrollbackLimit).calls law (fun _ _ _ _ _ => trivial) run).of_ok reached
  have positive := Nat.zero_lt_of_lt sound.grid.cursorRow
  obtain ⟨g,shaped,leftover,performed⟩ := reset_grid laws sound resets
  have sameRows : g.rows = d.grid.rows := (congrArg Grid.rows leftover : g.leftover.rows = d.grid.leftover.rows)
  have sameCols : g.cols = d.grid.cols := (congrArg Grid.cols leftover : g.leftover.cols = d.grid.leftover.cols)
  rw [Grid.leavesNothing_iff positive,← leftover]
  constructor
  · intro full
    obtain ⟨rows,rowsEq⟩ : ∃ rows : UInt16, rows.toNat = d.grid.rows :=
      ⟨.ofNat d.grid.rows,UInt16.toNat_ofNat_of_lt' (Nat.lt_succ_of_le sound.grid.rowsFit)⟩
    obtain ⟨cols,colsEq⟩ : ∃ cols : UInt16, cols.toNat = d.grid.cols :=
      ⟨.ofNat d.grid.cols,UInt16.toNat_ofNat_of_lt' (Nat.lt_succ_of_le sound.grid.colsFit)⟩
    have shows (stream : List Bytes) : (g.fullReset.performAll (parsed Vte.start (slices [] stream).1)).map Grid.observed =
        ((Grid.new rows cols 0).performAll (parsed Vte.start (slices [] stream).1)).map Grid.observed := by
      have shown := (observed_grid _ _).mp
        (full rows cols 0 [[0x1b,0x63] ++ stream.flatten] stream rowsEq colsEq (List.append_nil _))
      rw [performed _ stream (List.append_nil _),processAll_grid] at shown
      exact shown
    have plain : g.fullReset.observed = (Grid.new rows cols 0).observed := Except.ok.inj (shows [])
    have token : ∀ t ∈ [Token.esc 0x38], t.WellFormed := fun t inside => by
      rw [List.mem_singleton.mp inside]
      exact ⟨by decide,by decide,by decide⟩
    have escape : parsed Vte.start (slices [] [[0x1b,0x38]]).1 = [.escDispatch [] false 0x38] := parsed_tokens laws token rfl
    have again := shows [[0x1b,0x38]]
    rw [escape] at again
    have restored : g.fullReset.restoreSavedCursor.observed = (Grid.new rows cols 0).restoreSavedCursor.observed :=
      Except.ok.inj again
    refine ⟨congrArg Grid.Observation.cursorStyle plain,?_,Grid.home_of_restored shaped.hasCols (colsEq.trans sameCols.symm) restored⟩
    -- every level of the keyboard stack has flags
    have flags : g.kittyKbStack.getLast?.getD 0 = 0 := congrArg Grid.Observation.kittyKbFlags plain
    change g.kittyKbStack = []
    rcases List.eq_nil_or_concat g.kittyKbStack with none | ⟨front,top,stack⟩
    · exact none
    · have positive := shaped.keyboard top (by rw [stack]; simp)
      rw [stack,List.concat_eq_append,List.getLast?_concat] at flags
      exact absurd flags (Nat.ne_of_gt positive)
  · intro nothing rows cols limit reset stream rowsEq colsEq split
    rw [observed_grid,performed reset stream split,processAll_grid]
    have fresh := shaped.leftover_new (rowsEq.trans sameRows.symm) (colsEq.trans sameCols.symm) limit
      ((Grid.leavesNothing_iff (sameRows.symm ▸ positive)).mpr nothing)
    have alike : Grid.Alike false (g.fullReset.performAll (parsed Vte.start (slices [] stream).1))
        ((Grid.new rows cols limit).performAll (parsed Vte.start (slices [] stream).1)) := Grid.performAll_alike fresh _
    have same : SameUpTo (Grid.observed ∘ Grid.core false) _ _ := alike.map
    exact same

end DamageGrid

end

section
attribute [local instance] byteParser blockWidth

/-- `A` and `ESC 7` with the cursor after it. -/
theorem full_reset_iff_saved : ∃ d, (DamageGrid.new 2 3 0).calls [.process [0x41,0x1b,0x37]] = .ok d ∧
    (d.FullReset ↔ d.grid.LeavesNothing) :=
  ⟨_,rfl,DamageGrid.full_reset_iff byteParser_laws (show (0 : UInt16) < 2 by decide) (show (0 : UInt16) < 3 by decide)
    (show (DamageGrid.new 2 3 0).calls [.process [0x41,0x1b,0x37]] = .ok _ from rfl) rfl⟩

/-- `CSI 5 SP q` and RIS: the cursor style is still 5. -/
theorem reset_keeps_style : ∃ d d₁,
    (DamageGrid.new 2 3 0).calls [.process [0x1b,0x5b,0x35,0x20,0x71]] = .ok d ∧ d.process [0x1b,0x63] = .ok d₁ ∧
      d₁.grid.observed.cursorStyle = 5 ∧ (DamageGrid.new 2 3 0).grid.observed.cursorStyle = 0 ∧ ¬ d.FullReset := by
  refine ⟨_,_,rfl,rfl,rfl,rfl,fun full => ?_⟩
  have shown := full 2 3 0 [[0x1b,0x63]] [] rfl rfl rfl
  have style := congrArg (Except.map Grid.Observation.cursorStyle) shown
  exact absurd (Except.ok.inj style) (by decide)

end

end Termpane
