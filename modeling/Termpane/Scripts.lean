import Termpane.SavedCursor
import Termpane.Sync
import Termpane.Lib.Script

/-!
# Scripts

A run of calls is worth a script: the bytes it processes and the sizes it sets, in order.
The script decides what the terminal shows. How the bytes are cut into calls, and which
calls of the host stand between them, does not matter.
-/
namespace Termpane

open Lib

/-- The call that gives one cue. -/
def Cue.call : Cue → Call
  | .byte b => .process [b]
  | .size rows cols => .host (.setSize rows cols)
  | .clearKeyboard => .host .clearKittyKbStack

namespace Grid

/-- The core of a grid, and the row of the saved cursor as a resize finds it. -/
def look (g : Grid) : Grid × Nat := (g.core false,g.savedCursorRow)

variable {f g : Grid}

section
variable [UnicodeWidth]

theorem Shaped.exec_look {P Q : Row → Prop} (left : f.Shaped P) (right : g.Shaped Q) (same : f.look = g.look) (op : Op) :
    SameUpTo look (f.exec op) (g.exec op) := by
  obtain ⟨cores,row⟩ := Prod.ext_iff.mp same
  have alike : Alike false (f.exec op) (g.exec op) := alike_of_core (fun g => exec_alike g op) cores
  -- the slots are known from the saves, and a save is of what the cores share
  have cursor : f.save = g.save := (congrArg Grid.save cores : (f.core false).save = (g.core false).save)
  have col : f.savedCursorCol = g.savedCursorCol :=
    (congrArg Grid.savedCursorCol cores : (f.core false).savedCursorCol = (g.core false).savedCursorCol)
  let last : Save := ⟨f.savedCursorRow,f.savedCursorCol,false⟩
  have leftHolds := left.exec_holds (show f.Holds last from ⟨rfl,rfl⟩) op
  have rightHolds := right.exec_holds (show g.Holds last from ⟨row.symm,col.symm⟩) op
  have notes (last : Save) : noteSave f (.op op) last = noteSave g (.op op) last := by
    cases op
    case saveCursor => exact cursor
    case decMode mode enabled =>
      unfold noteSave
      rw [cursor]
    all_goals rfl
  rw [notes] at leftHolds
  have both : SameUpTo look (f.exec op >>= pure) (g.exec op >>= pure) :=
    alike.bind_ends leftHolds rightHolds fun a b left right same => congrArg Except.ok (Prod.ext same (left.1.trans right.1.symm))
  rwa [bind_pure,bind_pure] at both

/-- Two runs of one list of operations. -/
theorem Shaped.execAll_look {ops : List Op} (left : f.Shaped RowOk) (right : g.Shaped RowOk) (same : f.look = g.look)
    {cleared : Bool} (unparked : cleared = true → f.modeFlags.pendingWrap = false) (tame : Tame cleared (ops.map .op)) :
    SameUpTo look (f.execAll ops) (g.execAll ops) := by
  have law := rowOk_law fun _ => True
  induction ops generalizing f g cleared with
  | nil => exact congrArg Except.ok same
  | cons op ops ih =>
    have parked : f.modeFlags.pendingWrap = g.modeFlags.pendingWrap :=
      congrArg (fun seen : Grid × Nat => seen.1.modeFlags.pendingWrap) same
    have ends (h : Grid) (shaped : h.Shaped RowOk) (unparked : cleared = true → h.modeFlags.pendingWrap = false) :
        Ends (fun h' => h'.Shaped RowOk ∧ (decide (op = .clearPendingWrap) = true → h'.modeFlags.pendingWrap = false))
          (fun _ => True) (h.exec op) := by
      by_cases cancels : op = .clearPendingWrap
      · subst cancels
        exact ⟨(shaped.exec law tame.1 fun moves => unparked (tame.2.1 moves)).of_ok rfl,fun _ => rfl⟩
      · refine ((shaped.exec law tame.1 fun moves => unparked (tame.2.1 moves)).allow fun _ _ => trivial).mono
          fun h' holds => ⟨holds,?_⟩
        exact fun cancelled => absurd (of_decide_eq_true cancelled) cancels
    exact (left.exec_look right same op).bind_ends (ends f left unparked)
      (ends g right fun cancelled => parked ▸ unparked cancelled)
      fun _ _ left right same => ih left.1 right.1 same left.2 tame.2.2

theorem Shaped.performAll_look (left : f.Shaped RowOk) (right : g.Shaped RowOk) (same : f.look = g.look) (cs : List Callback) :
    SameUpTo look (f.performAll cs) (g.performAll cs) := by
  have tame := tame_callbacks cs (show Tame false [] from trivial)
  rw [List.append_nil] at tame
  rw [performAll_steps,performAll_steps,List.foldlM_map,List.foldlM_map]
  exact left.execAll_look right same (fun none => absurd none Bool.false_ne_true) tame

end

theorem core_setSize (g : Grid) (rows cols : UInt16) : ({ g.setSize rows cols with savedCursorRow := 0 } : Grid).core false =
    ({ (g.core false).setSize rows cols with savedCursorRow := 0 } : Grid).core false := by
  simp only [core,setSize,clearPendingWrap,Bool.false_eq_true,if_false]

/-- A resize puts no bound on the saved row, so it has to be looked at as it is. -/
theorem setSize_look (same : f.look = g.look) (rows cols : UInt16) : (f.setSize rows cols).look = (g.setSize rows cols).look := by
  obtain ⟨cores,row⟩ := Prod.ext_iff.mp same
  have core : (f.setSize rows cols).core false = (g.setSize rows cols).core false := by
    refine core_eq ?_ (congrArg (fun row => min row (max rows.toNat 1 - 1)) row)
    rw [core_setSize f,show f.core false = g.core false from cores,← core_setSize g]
  exact Prod.ext core row

theorem clearKeyboard_look (same : f.look = g.look) : (f.host .clearKittyKbStack).look = (g.host .clearKittyKbStack).look :=
  congrArg (fun seen : Grid × Nat => (({ seen.1 with kittyKbStack := [] } : Grid),seen.2)) same

/-- The serialization of a grid reads no more than is seen. -/
theorem stateFormatted_core (g : Grid) : (g.core false).stateFormatted = g.stateFormatted := rfl

/-- A call that gives no cue is not seen. -/
theorem host_look (g : Grid) {c : HostCall} (silent : (Call.host c).cues = []) : (g.host c).look = g.look := by
  cases c
  case setSize => cases silent
  case clearKittyKbStack => cases silent
  all_goals rfl

end Grid

namespace DamageGrid

section
variable [Vte] {d e : DamageGrid}

/-- What there is to see of a terminal: `Grid.look`, its parser and what is carried. -/
def look (d : DamageGrid) : DamageGrid × Nat := (d.core false,d.grid.savedCursorRow)

theorem grid_look (same : d.look = e.look) : d.grid.look = e.grid.look :=
  congrArg (fun seen : DamageGrid × Nat => (seen.1.grid,seen.2)) same

theorem host_look (same : d.look = e.look) {c : HostCall} (grids : (d.grid.host c).look = (e.grid.host c).look) :
    ({ d with grid := d.grid.host c } : DamageGrid).look = ({ e with grid := e.grid.host c } : DamageGrid).look :=
  congrArg₂ (fun (seen : DamageGrid × Nat) (grids : Grid × Nat) => (({ seen.1 with grid := grids.1 } : DamageGrid),grids.2)) same grids

variable [UnicodeWidth]

theorem process_look (left : d.Sound RowOk) (right : e.Sound RowOk) (same : d.look = e.look) (bytes : Bytes) :
    SameUpTo look (d.process bytes) (e.process bytes) := by
  have parser : d.parser = e.parser := congrArg (fun seen : DamageGrid × Nat => seen.1.parser) same
  have pending : d.pendingUtf8 = e.pendingUtf8 := congrArg (fun seen : DamageGrid × Nat => seen.1.pendingUtf8) same
  have seqState : d.seqState = e.seqState := congrArg (fun seen : DamageGrid × Nat => seen.1.seqState) same
  rw [process_parts,process_parts,parser,seqState,pending]
  have alike := left.grid.performAll_look right.grid (grid_look same)
    ((nextSlice e.pendingUtf8 bytes).1.elim [] fun slice => (Vte.advance e.parser slice).2)
  unfold SameUpTo at alike ⊢
  revert alike
  generalize d.grid.performAll _ = x
  generalize e.grid.performAll _ = y
  intro alike
  cases x with
  | error e =>
    cases y with
    | error e' => cases alike; rfl
    | ok g => cases alike
  | ok f =>
    cases y with
    | error e => cases alike
    | ok g =>
      obtain ⟨cores,row⟩ := Prod.ext_iff.mp (Except.ok.inj alike)
      have grids : f.core false = g.core false := cores
      have rows : f.savedCursorRow = g.savedCursorRow := row
      simp only [Except.map,look,core,grids,rows]

/-- A call looks like its cues. -/
theorem Sound.call_cues (laws : VteLaws) (sound : d.Sound RowOk) (c : Call) :
    SameUpTo look (d.call c) (c.cues.foldlM (fun d cue => d.call cue.call) d) := by
  cases c with
  | process bytes =>
    have whole : (Call.process bytes).cues.foldlM (fun d cue => d.call cue.call) d =
        d.processAll (bytes.map fun byte => [byte]) := by
      rw [Call.cues,List.foldlM_map,processAll,List.foldlM_map]
      rfl
    rw [whole,processAll_flatten laws sound.carried,← List.flatMap_def,List.flatMap_singleton']
    exact .refl _
  | host c => 
    by_cases silent : (Call.host c).cues = []
    · rw [silent]
      exact congrArg Except.ok (congrArg (fun grids : Grid × Nat => (({ d.core false with grid := grids.1 } : DamageGrid),grids.2))
        (Grid.host_look d.grid silent))
    · cases c
      case setSize | clearKittyKbStack => rfl
      all_goals exact absurd rfl silent

theorem Sound.call (sound : d.Sound RowOk) (c : Call) : Ends (Sound RowOk) (fun _ => True) (d.call c) := by
  have law := rowOk_law fun _ => True
  cases c with
  | process bytes => exact (sound.process law (fun _ _ _ _ _ => trivial) bytes).allow fun _ _ => trivial
  | host c => exact { sound with grid := sound.grid.host law.blank law.resize c }

theorem cue_look (left : d.Sound RowOk) (right : e.Sound RowOk) (same : d.look = e.look) (cue : Cue) :
    SameUpTo look (d.call cue.call) (e.call cue.call) := by
  cases cue with
  | byte b => exact process_look left right same [b]
  | size rows cols => exact congrArg Except.ok (host_look same (Grid.setSize_look (grid_look same) rows cols))
  | clearKeyboard => exact congrArg Except.ok (host_look same (Grid.clearKeyboard_look (grid_look same)))

theorem cued (laws : VteLaws) : Cued look (Sound RowOk) call Call.cues fun d cue => d.call cue.call where
  acts _ c sound := sound.call c
  gives _ cue sound := sound.call cue.call
  looks _ c sound := sound.call_cues laws c
  respects _ _ cue left right same := cue_look left right same cue

/-- What a run shows is decided by its script. -/
theorem calls_look (laws : VteLaws) {rows cols : UInt16} (hasRows : 0 < rows) (hasCols : 0 < cols) (limit limit' : Nat)
    {run run' : List Call} (same : script run = script run') :
    SameUpTo look ((new rows cols limit).calls run) ((new rows cols limit').calls run') :=
  have blank := (rowOk_law fun _ => True).blank
  (cued laws).runs_alike same (sound_new blank hasRows hasCols limit) (sound_new blank hasRows hasCols limit') rfl

/-- What the script decides is what there is to see, and the bytes that bring a new terminal there. -/
def pictured (d : DamageGrid) : DamageGrid × Checked Bytes := (d.core false,d.grid.stateFormatted)

/-- Two runs of one script show the same, whatever the limits of their scrollbacks are,
    however the output is cut, and whatever the host does in between. -/
theorem script_pictured (laws : VteLaws) {rows cols : UInt16} (hasRows : 0 < rows) (hasCols : 0 < cols) (limit limit' : Nat)
    {run run' : List Call} (same : script run = script run') :
    SameUpTo pictured ((new rows cols limit).calls run) ((new rows cols limit').calls run') := by
  have seen : pictured = (fun seen => (seen.1,seen.1.grid.stateFormatted)) ∘ look :=
    funext fun d => Prod.ext rfl (Grid.stateFormatted_core d.grid).symm
  rw [seen]
  exact (calls_look laws hasRows hasCols limit limit' same).map

end

end DamageGrid

section
attribute [local instance] byteParser blockWidth

/-- A character cut in two, with drains and a policy in between and no scrollback, against one call. -/
theorem script_pictured_cut :
    SameUpTo DamageGrid.pictured
      ((DamageGrid.new 2 3 0).calls [.process [0x41,0xe4],.host .dirtySpans,.host (.setEraseDisplayPolicy .discard),
        .process [0xb8,0xad],.host (.setSize 1 2),.process [0x1b,0x5b,0x32,0x4a]])
      ((DamageGrid.new 2 3 9).calls [.process [0x41,0xe4,0xb8,0xad],.host (.setSize 1 2),.process [0x1b,0x5b],.process [0x32,0x4a]]) :=
  DamageGrid.script_pictured byteParser_laws (by decide) (by decide) 0 9 (by decide)

end

end Termpane
