import Termpane.Frames
import Termpane.Steps

/-!
# Modes

The modes of a terminal are what its mode sequences and its resets made them: nothing that
is printed, edited, moved, scrolled or resized in between changes one. DECRQM reads them back.
-/
namespace Termpane

open Lib

/-- What printing, editing, moving and scrolling leave as it is. -/
structure Modes where
  mouseMode : MouseProtocolMode
  mouseEncoding : MouseProtocolEncoding
  cursorStyle : Nat
  textCursorEnable : Option Bool
  flags : ModeFlags

def Grid.modes (g : Grid) : Modes where
  mouseMode := g.mouseMode
  mouseEncoding := g.mouseEncoding
  cursorStyle := g.cursorStyle
  textCursorEnable := g.textCursorEnable
  flags := { g.modeFlags with pendingWrap := false, mutatedSincePreserve := false }

/-- Operations that are about modes. -/
def Op.Modal : Op → Bool
  | .decMode _ _ | .cursorStyle _ | .softReset | .keypad _ | .fullReset => true
  | _ => false

namespace Grid

variable {P : Row → Prop} {f g h : Grid}

/-- Whatever is not about modes leaves them as they are. -/
theorem exec_unmodal [UnicodeWidth] (g : Grid) {op : Op} (plain : op.Modal = false) :
    Ends (fun h => h.modes = g.modes) (fun _ => True) (g.exec op) := by
  cases walked : op.walk with
  | some walk => exact exec_unwritten (fun _ => rfl) walked g
  | none =>
    cases op
    case osc params bell =>
      obtain ⟨_,_,_,same⟩ := g.handleOsc_writes params bell
      exact (congrArg modes same).trans rfl
    case restoreCursor =>
      simp only [Grid.exec,restoreSavedCursor_eq,ends_ok]
      split <;> rfl
    all_goals first
      | exact absurd plain Bool.true_eq_false.mp
      | exact rfl
      | cases walked

end Grid

/-! ## Groups of modes -/

/-- What private modes are about. Of the modes of a group at most one is set. -/
inductive ModeGroup
  | cursorKeys
  | autowrap
  | blink
  | visible
  | screen
  | mouse
  | focus
  | encoding
  | paste
  | sync
  deriving DecidableEq

/-- The group of a mode the grid keeps. -/
def modeGroup : Nat → Option ModeGroup
  | 1 => some .cursorKeys
  | 7 => some .autowrap
  | 12 => some .blink
  | 25 => some .visible
  | 47 | 1047 | 1049 => some .screen
  | 1000 | 1002 | 1003 => some .mouse
  | 1004 => some .focus
  | 1005 | 1006 | 1015 => some .encoding
  | 2004 => some .paste
  | 2026 => some .sync
  | _ => none

/-- The modes of the alternate screen are one. -/
def modeNumber (mode : Nat) : Nat := if mode = 47 ∨ mode = 1047 then 1049 else mode

/-- The mode of a group that is set, 0 if none is. -/
def Modes.setIn (m : Modes) : ModeGroup → Nat
  | .cursorKeys => if m.flags.applicationCursor then 1 else 0
  | .autowrap => if m.flags.noAutowrap then 0 else 7
  | .blink => if m.textCursorEnable.getD false then 12 else 0
  | .visible => if m.flags.hideCursor then 0 else 25
  | .screen => if m.flags.altScreen then 1049 else 0
  | .mouse => mouseModeNumber m.mouseMode
  | .focus => if m.flags.focusEvents then 1004 else 0
  | .encoding => mouseEncodingNumber m.mouseEncoding
  | .paste => if m.flags.bracketedPaste then 2004 else 0
  | .sync => if m.flags.synchronizedUpdate then 2026 else 0

/-- What a group is set to at the start and by a full reset. -/
def ModeGroup.start : ModeGroup → Nat
  | .autowrap => 7
  | .visible => 25
  | _ => 0

/-- What an operation sets a group to, if it is about it. -/
def Op.setsIn : Op → ModeGroup → Option Nat
  | .decMode mode enabled,group => if modeGroup mode = some group then some (if enabled then modeNumber mode else 0) else none
  | .softReset,.cursorKeys => some ModeGroup.cursorKeys.start
  | .softReset,.autowrap => some ModeGroup.autowrap.start
  | .softReset,.visible => some ModeGroup.visible.start
  | .fullReset,group => some group.start
  | _,_ => none

/-- The shape of a cursor, if an operation sets it. -/
def Op.setsStyle : Op → Option Nat
  | .cursorStyle style => some style
  | _ => none

namespace Grid

variable {P : Row → Prop} {g h : Grid}

/-- A report answers whether the mode is the one of its group that is set. -/
theorem Shaped.decrqmStatus_eq (shaped : g.Shaped P) (mode : Nat) : g.decrqmStatus mode =
    match modeGroup mode with
    | none => 0
    | some group => if g.modes.setIn group = modeNumber mode then 1 else 2 := by
  have answers (b : Bool) (n : Nat) (some : n ≠ 0) :
      (if b = true then 1 else 2) = if (if b = true then n else 0) = n then 1 else 2 := by
    cases b
    · exact (if_neg (Ne.symm some)).symm
    · exact (if_pos rfl).symm
  have denies (b : Bool) (n : Nat) (some : n ≠ 0) :
      (if (!b) = true then 1 else 2) = if (if b = true then 0 else n) = n then 1 else 2 := by
    cases b
    · exact (if_pos rfl).symm
    · exact (if_neg (Ne.symm some)).symm
  have number (n m : Nat) : (if (n == m) = true then 1 else 2) = if n = m then 1 else 2 := if_congr beq_iff_eq rfl rfl
  unfold decrqmStatus
  split
  case h_1 => exact answers g.modeFlags.applicationCursor 1 (by decide)
  case h_2 => exact denies g.modeFlags.noAutowrap 7 (by decide)
  case h_3 => exact answers (g.textCursorEnable.getD false) 12 (by decide)
  case h_4 => exact denies g.modeFlags.hideCursor 25 (by decide)
  case h_5 | h_6 | h_7 => exact answers g.modeFlags.altScreen 1049 (by decide)
  case h_8 | h_9 | h_10 => exact number (mouseModeNumber g.mouseMode) _
  case h_11 => exact answers g.modeFlags.focusEvents 1004 (by decide)
  case h_12 | h_13 | h_14 => exact number (mouseEncodingNumber g.mouseEncoding) _
  case h_15 => exact answers g.modeFlags.bracketedPaste 2004 (by decide)
  case h_16 => exact answers g.modeFlags.synchronizedUpdate 2026 (by decide)
  case h_17 =>
    rw [shaped.profile]
    rfl
  case h_18 =>
    have untracked : modeGroup mode = none := by
      unfold modeGroup
      split
      all_goals first
        | rfl
        | contradiction
    rw [untracked]

theorem restoreSavedCursor_modes (g : Grid) : g.restoreSavedCursor.modes = g.modes := by
  rw [restoreSavedCursor_eq]
  split <;> rfl

/-- Leaving the alternate screen restores the cursor, which is no mode. -/
theorem leaveAlternate_modes (g : Grid) : (g.setDecMode 1049 false).modes = (g.setAltScreen false).modes :=
  restoreSavedCursor_modes (g.setAltScreen false)

theorem setDecMode_setIn (g : Grid) (mode : Nat) (enabled : Bool) (group : ModeGroup) :
    (g.setDecMode mode enabled).modes.setIn group = ((Op.decMode mode enabled).setsIn group).getD (g.modes.setIn group) := by
  change _ = (if modeGroup mode = some group then some (if enabled then modeNumber mode else 0) else none).getD (g.modes.setIn group)
  by_cases leaves : mode = 1049 ∧ enabled = false
  · obtain ⟨rfl,rfl⟩ := leaves
    rw [leaveAlternate_modes]
    cases group <;> rfl
  by_cases about : modeGroup mode = some group
  · rw [if_pos about,Option.getD_some]
    unfold modeGroup at about
    split at about
    all_goals
      cases about
      all_goals cases enabled
    all_goals first
      | rfl
      | exact absurd ⟨rfl,rfl⟩ leaves
  · rw [if_neg about,Option.getD_none]
    unfold Grid.setDecMode
    split
    case h_9 =>
      rw [if_pos (by simpa using leaves)]
      cases group <;> first | rfl | exact absurd (show modeGroup 1049 = some ModeGroup.screen from rfl) about
    all_goals first
      | rfl
      | (cases group <;> first | rfl | exact absurd rfl about)

theorem softReset_modes (g : Grid) : g.softReset.modes = { g.modes with flags := { g.modes.flags with
    noAutowrap := false, hideCursor := false, applicationCursor := false, applicationKeypad := false } } := by
  unfold Grid.softReset Grid.restoreAutowrap
  dsimp only
  split
  case isTrue => rfl
  case isFalse on =>
    have off : g.modeFlags.noAutowrap = false := by simpa using on
    unfold modes
    rw [← off]

/-- What an operation sets of the modes it is about, and no other mode, is set after it. -/
theorem exec_setIn [UnicodeWidth] (g : Grid) (op : Op) : Ends (fun h => (∀ group, h.modes.setIn group =
    (op.setsIn group).getD (g.modes.setIn group)) ∧ h.cursorStyle = op.setsStyle.getD g.cursorStyle) (fun _ => True) (g.exec op) := by
  by_cases plain : op.Modal = false
  · refine (exec_unmodal _ plain).mono fun h same => ⟨fun group => ?_,?_⟩
    · rw [same]
      cases op <;> first | rfl | exact absurd plain Bool.true_eq_false.mp
    · refine (congrArg Modes.cursorStyle same).trans ?_
      cases op <;> first | rfl | exact absurd plain Bool.true_eq_false.mp
  · cases op
    case decMode mode enabled =>
      refine ⟨setDecMode_setIn g mode enabled,?_⟩
      change (g.setDecMode mode enabled).cursorStyle = g.cursorStyle
      by_cases leaves : mode = 1049 ∧ enabled = false
      · obtain ⟨rfl,rfl⟩ := leaves
        exact congrArg Modes.cursorStyle (leaveAlternate_modes g)
      unfold Grid.setDecMode
      split
      case h_9 =>
        rw [if_pos (by simpa using leaves)]
        rfl
      all_goals rfl
    case cursorStyle style => exact ⟨fun _ => rfl,rfl⟩
    case softReset =>
      have modes := softReset_modes g
      refine ⟨fun group => ?_,(congrArg Modes.cursorStyle modes :)⟩
      rw [modes]
      cases group <;> rfl
    case keypad application => exact ⟨fun _ => rfl,rfl⟩
    case fullReset => exact ⟨fun group => by cases group <;> rfl,rfl⟩
    all_goals exact absurd rfl plain

end Grid

/-! ## Runs -/

/-- What a step of a run sets a group to: the calls of the host set none. -/
def Step.setsIn : Step → ModeGroup → Option Nat
  | .op edit,group => edit.setsIn group
  | .host _,_ => none

def Step.setsStyle : Step → Option Nat
  | .op edit => edit.setsStyle
  | .host _ => none

theorem csiOps_style {params : List Param} (small : ∀ param ∈ params, ∀ n ∈ param, n ≤ u16Max) (intermediates : Bytes)
    (action : Char) : (csiOps params intermediates action).Forall fun op => ∀ style ∈ op.setsStyle, style ≤ u16Max := by
  have first : (params.map Param.first)[0]?.getD 0 ≤ u16Max := by
    match params,small with
    | [],_ => exact Nat.zero_le _
    | [] :: _,_ => exact Nat.zero_le _
    | (n :: param) :: _,small => exact small _ List.mem_cons_self n List.mem_cons_self
  unfold csiOps
  split
  all_goals
    dsimp only
    repeat' split
    all_goals simp [List.forall_iff_forall_mem,Op.setsStyle]
  simpa using first

theorem ops_style (c : Callback) : ∀ op ∈ c.ops, ∀ style ∈ op.setsStyle, style ≤ u16Max := by
  cases c with
  | execute byte =>
    simp only [Callback.ops,Termpane.execute]
    split_ifs
    all_goals simp [Op.setsStyle]
  | csiDispatch params intermediates ignore action =>
    have small : ∀ param ∈ params.map (·.map UInt16.toNat), ∀ n ∈ param, n ≤ u16Max := by
      intro param inside n listed
      obtain ⟨words,_,rfl⟩ := List.mem_map.mp inside
      obtain ⟨word,_,rfl⟩ := List.mem_map.mp listed
      exact Nat.le_of_lt_succ word.toNat_lt
    intro op inside
    rcases List.mem_append.mp inside with cleared | dispatched
    · split_ifs at cleared
      · rw [List.mem_singleton.mp cleared]
        simp [Op.setsStyle]
      · cases cleared
    · exact List.forall_iff_forall_mem.mp (csiOps_style small intermediates action) op dispatched
  | escDispatch intermediates ignore byte =>
    simp only [Callback.ops,Termpane.escDispatch]
    split_ifs
    all_goals simp [Op.setsStyle]
  | _ => simp [Callback.ops,Op.setsStyle]

theorem stepsFrom_style [Vte] (s : Vte.State) (pending : Bytes) (run : List Call) :
    ∀ step ∈ stepsFrom s pending run, ∀ style ∈ step.setsStyle, style ≤ u16Max := by
  induction run generalizing s pending with
  | nil => intro _ none; cases none
  | cons call run ih =>
    intro step inside
    cases call with
    | process bytes =>
      rcases List.mem_append.mp inside with now | later
      · obtain ⟨op,listed,rfl⟩ := List.mem_map.mp now
        obtain ⟨c,_,among⟩ := List.mem_flatMap.mp listed
        exact ops_style c op among
      · exact ih _ _ step later
    | host c =>
      rcases List.mem_cons.mp inside with rfl | later
      · intro _ none
        cases none
      · exact ih _ _ step later

/-- The modes set in each group and the style, after a step. -/
def Step.note (step : Step) (t : (ModeGroup → Nat) × Nat) : (ModeGroup → Nat) × Nat :=
  (fun group => (step.setsIn group).getD (t.1 group),step.setsStyle.getD t.2)

def Grid.HasModes (g : Grid) (t : (ModeGroup → Nat) × Nat) : Prop :=
    (∀ group, g.modes.setIn group = t.1 group) ∧ g.cursorStyle = t.2

section
variable [Vte] [UnicodeWidth]

namespace DamageGrid

variable {rows cols : UInt16} {scrollbackLimit : Nat} {run : List Call} {d : DamageGrid}

/-- After any run each group is set as the last step that is about it set it, and so is the cursor's shape. -/
theorem calls_setIn (hasRows : 0 < rows) (hasCols : 0 < cols) (reached : (new rows cols scrollbackLimit).calls run = .ok d) :
    d.grid.Shaped RowOk ∧
    (∀ group, d.grid.modes.setIn group =
      ((new rows cols scrollbackLimit).steps run).foldl (fun set step => (step.setsIn group).getD set) group.start) ∧
    d.grid.cursorStyle = ((new rows cols scrollbackLimit).steps run).foldl (fun style step => step.setsStyle.getD style) 0 := by
  have ran : ((new rows cols scrollbackLimit).steps run).foldlM Grid.take (new rows cols scrollbackLimit).grid = .ok d.grid := by
    rw [← calls_grid,reached]
    rfl
  have shaped := (sound_new (rowOk_law fun _ => True).blank hasRows hasCols scrollbackLimit).grid
  have tame : Tame false ((new rows cols scrollbackLimit).steps run) := stepsFrom_tame _ _ run
  have ops (g : Grid) (op : Op) (t : (ModeGroup → Nat) × Nat) (known : g.HasModes t) :
      Ends (fun h : Grid => h.HasModes ((Step.op op).note t)) (fun _ => True) (g.exec op) :=
    (g.exec_setIn op).mono fun h set => ⟨fun group => by rw [set.1 group,known.1 group]; rfl,by rw [set.2,known.2]; rfl⟩
  have hosts (g : Grid) (c : HostCall) (t : (ModeGroup → Nat) × Nat) (known : g.HasModes t) :
      (g.host c).HasModes ((Step.host c).note t) := by
    cases c <;> exact known
  have taken : Ends (fun h : Grid => h.Shaped RowOk ∧ h.HasModes (noted Grid.take (fun _ => Step.note)
      (new rows cols scrollbackLimit).grid ((new rows cols scrollbackLimit).steps run) (ModeGroup.start,0))) (fun _ => True)
      (((new rows cols scrollbackLimit).steps run).foldlM Grid.take (new rows cols scrollbackLimit).grid) :=
    shaped.takes (fun g op t _ _ (_ : True) => ops g op t) (fun g c t _ _ => hosts g c t)
      (fun none => absurd none Bool.false_ne_true) tame (.of_all (fun _ _ _ => trivial) _)
      ⟨fun group => by cases group <;> rfl,rfl⟩
  obtain ⟨shaped,known⟩ := taken.of_ok ran
  rw [noted_foldl ran] at known
  -- the groups and the shape are noted each for itself
  have apart (steps : List Step) (t : (ModeGroup → Nat) × Nat) : steps.foldl (fun t step => step.note t) t =
      (fun group => steps.foldl (fun set step => (step.setsIn group).getD set) (t.1 group),
        steps.foldl (fun style step => step.setsStyle.getD style) t.2) := by
    induction steps generalizing t with
    | nil => rfl
    | cons step steps ih => exact ih _
  rw [apart] at known
  exact ⟨shaped,known⟩

theorem calls_style (hasRows : 0 < rows) (hasCols : 0 < cols) (reached : (new rows cols scrollbackLimit).calls run = .ok d) :
    d.grid.cursorStyle ≤ u16Max := by
  have small := stepsFrom_style (new rows cols scrollbackLimit).parser (new rows cols scrollbackLimit).pendingUtf8 run
  rw [(calls_setIn hasRows hasCols reached).2.2]
  change ∀ step ∈ (new rows cols scrollbackLimit).steps run, _ at small
  generalize (new rows cols scrollbackLimit).steps run = steps at small
  have fold (style : Nat) (fits : style ≤ u16Max) : steps.foldl (fun style step => step.setsStyle.getD style) style ≤ u16Max := by
    induction steps generalizing style with
    | nil => exact fits
    | cons step steps ih =>
      refine ih (fun step inside => small step (List.mem_cons_of_mem _ inside)) _ ?_
      change step.setsStyle.getD style ≤ u16Max
      cases sets : step.setsStyle with
      | none => exact fits
      | some n => exact small step List.mem_cons_self n sets
  exact fold 0 (Nat.zero_le _)

/-- DECRQM reports of a mode whether the last step about its group set it: whatever else
    was processed or called, no other step changes the report. -/
theorem decrqm_reports (hasRows : 0 < rows) (hasCols : 0 < cols) (reached : (new rows cols scrollbackLimit).calls run = .ok d)
    (mode : UInt16) : d.grid.perform (.csiDispatch [[mode]] (ascii "?$") false 'p') =
      .ok (d.grid.pushEvent (.reply (ascii "\x1b[?" ++ decimal mode.toNat ++ ascii ";" ++ decimal
        (match modeGroup mode.toNat with
        | none => 0
        | some group =>
          if ((new rows cols scrollbackLimit).steps run).foldl (fun set step => (step.setsIn group).getD set) group.start =
            modeNumber mode.toNat then 1 else 2) ++ ascii "$y"))) := by
  obtain ⟨shaped,set,_⟩ := calls_setIn hasRows hasCols reached
  have status := shaped.decrqmStatus_eq mode.toNat
  have ops : (Callback.csiDispatch [[mode]] (ascii "?$") false 'p').ops = [.requestMode mode.toNat true] := rfl
  unfold Grid.perform
  rw [ops]
  change d.grid.exec (.requestMode mode.toNat true) >>= pure = _
  refine (bind_pure _).trans ?_
  change Except.ok (d.grid.pushEvent (.reply (ascii "\x1b[?" ++ decimal mode.toNat ++ ascii ";" ++
    decimal (d.grid.decrqmStatus mode.toNat) ++ ascii "$y"))) = _
  rw [status]
  cases modeGroup mode.toNat with
  | none => rfl
  | some group =>
    dsimp only
    rw [set group]

end DamageGrid

end

section
attribute [local instance] byteParser blockWidth

/-- `CSI ? 1002 h`, `CSI ? 1000 l` and a resize: neither mode is set any more. -/
theorem decrqm_reports_mouse : ∃ d,
    (DamageGrid.new 2 2 0).calls [.process (ascii "\x1b[?1002h\x1b[?1000l"),.host (.setSize 3 3)] = .ok d ∧
      d.grid.perform (.csiDispatch [[1002]] (ascii "?$") false 'p') =
        .ok (d.grid.pushEvent (.reply (ascii "\x1b[?1002;2$y"))) := by
  cases reached : (DamageGrid.new 2 2 0).calls [.process (ascii "\x1b[?1002h\x1b[?1000l"),.host (.setSize 3 3)] with
  | ok d =>
    exact ⟨d,rfl,DamageGrid.decrqm_reports (show (0 : UInt16) < 2 by decide) (show (0 : UInt16) < 2 by decide) reached 1002⟩
  | error e =>
    have succeeds : ((DamageGrid.new 2 2 0).calls
      [.process (ascii "\x1b[?1002h\x1b[?1000l"),.host (.setSize 3 3)]).isOk = true := rfl
    rw [reached] at succeeds
    cases succeeds

end

end Termpane
