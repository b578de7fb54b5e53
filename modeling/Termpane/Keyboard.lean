import Termpane.Frames
import Termpane.Steps

/-!
# The keyboard of the outer terminal

The grid forwards the pushes and pops of keyboard modes, and the outer terminal
does them to a stack of its own. The two stay level unless a push finds the grid's
stack full, or a pop asks for more levels than it holds.
-/
namespace Termpane

open Lib

/-! ## The outer terminal -/

/-- A change of the outer terminal's stack of keyboard modes. -/
inductive KeyboardChange
  | push
  | pop (levels : Nat)
  deriving DecidableEq

/-- The levels `CSI < digits u` pops: one when there are no digits. -/
def popLevels (digits : Bytes) : Nat :=
  if digits = [] then 1 else Nat.ofDigitChars 10 (digits.map fun b => Char.ofNat b.toNat) 0

/-- What a sequence is to a terminal that speaks the kitty keyboard protocol. -/
def keyboardChange (bytes : Bytes) : Option KeyboardChange :=
  if bytes.getLast? ≠ some 0x75 then none
  else
    match bytes with
    | 0x1b :: 0x5b :: 0x3e :: _ => some .push
    | 0x1b :: 0x5b :: 0x3c :: rest => some (.pop (popLevels rest.dropLast))
    | _ => none

def PassthroughEvent.keyboard : PassthroughEvent → Option KeyboardChange
  | .unhandledCsi bytes => keyboardChange bytes
  | _ => none

/-- The depth of the outer terminal's stack after an event is applied. -/
def outerDepth (depth : Nat) (e : PassthroughEvent) : Nat :=
  match e.keyboard with
  | some .push => depth + 1
  | some (.pop levels) => depth - levels
  | none => depth

/-- The levels an event pops. -/
def levelsPopped (e : PassthroughEvent) : Nat :=
  match e.keyboard with
  | some (.pop levels) => levels
  | _ => 0

/-- The levels an event adds to a stack deep enough. -/
def levelsGained (e : PassthroughEvent) : Int :=
  match e.keyboard with
  | some .push => 1
  | some (.pop levels) => -levels
  | none => 0

/-- A stack with the levels an event pops. -/
theorem outerDepth_of_deep {e : PassthroughEvent} {depth : Nat} (deep : levelsPopped e ≤ depth) :
    depth ≤ outerDepth depth e + levelsPopped e ∧ ((outerDepth depth e : Nat) : Int) = depth + levelsGained e := by
  unfold levelsPopped at deep
  unfold outerDepth levelsGained levelsPopped
  rcases kind : e.keyboard with _ | _ | levels
  · simp
  · simp
  · simp only [kind] at deep ⊢
    omega

theorem foldl_outerDepth (events : List PassthroughEvent) (depth : Nat) (deep : (events.map levelsPopped).sum ≤ depth) :
    ((events.foldl outerDepth depth : Nat) : Int) = depth + (events.map levelsGained).sum := by
  induction events generalizing depth with
  | nil => simp
  | cons e events ih =>
    simp only [List.map_cons,List.sum_cons,List.foldl_cons] at deep ⊢
    obtain ⟨left,gained⟩ := outerDepth_of_deep (show levelsPopped e ≤ depth by omega)
    rw [ih _ (by omega),gained]
    omega

theorem keyboardChange_of_final {bytes : Bytes} {final : UInt8} (other : final ≠ 0x75) :
    keyboardChange (bytes ++ [final]) = none := by
  unfold keyboardChange
  rw [if_pos]
  simpa using other

theorem popLevels_decimal (n : Nat) : popLevels (decimal n) = n := by
  have digits : (decimal n).map (fun b => Char.ofNat b.toNat) = Nat.toDigits 10 n := by
    unfold decimal
    rw [List.map_map]
    refine (List.map_congr_left fun ch inside => ?_).trans (List.map_id _)
    have digit : ch.toNat ≤ 57 := by
      have isDigit := Nat.isDigit_of_mem_toDigits (by decide) (by decide) inside
      rw [Char.isDigit_iff_toNat] at isDigit
      exact isDigit.2
    have byte : (UInt8.ofNat ch.toNat).toNat = ch.toNat := UInt8.toNat_ofNat_of_lt' (show ch.toNat < 256 by omega)
    simp [byte]
  have some : decimal n ≠ [] := by simp [decimal]
  rw [popLevels,if_neg some,digits,Nat.ofDigitChars_ten_toDigits]

/-- What the grid forwards for a push, and for a pop. -/
theorem keyboard_push (flags : Nat) :
    (PassthroughEvent.unhandledCsi (ascii "\x1b[>" ++ decimal flags ++ ascii "u")).keyboard = some .push := by
  have final : (ascii "\x1b[>" ++ decimal flags ++ ascii "u").getLast? = some 0x75 := List.getLast?_concat
  change keyboardChange _ = _
  unfold keyboardChange
  rw [if_neg (by rw [final]; decide)]
  rfl

theorem keyboard_pop (count : Nat) :
    (PassthroughEvent.unhandledCsi (ascii "\x1b[<" ++ decimal count ++ ascii "u")).keyboard = some (.pop count) := by
  have final : (ascii "\x1b[<" ++ decimal count ++ ascii "u").getLast? = some 0x75 := List.getLast?_concat
  have digits : popLevels (decimal count ++ ascii "u").dropLast = count := by
    rw [show ascii "u" = [0x75] from rfl,List.dropLast_concat,popLevels_decimal]
  change keyboardChange _ = _
  unfold keyboardChange
  rw [if_neg (by rw [final]; decide)]
  exact congrArg (fun levels => some (KeyboardChange.pop levels)) digits

namespace Grid

variable {f g h : Grid}

/-! ## What is forwarded -/

/-- The events forwarded between two states. -/
def forwarded (g h : Grid) : List PassthroughEvent := h.passthrough.drop g.passthrough.length

/-- An outer terminal with levels enough, that applies what was forwarded, is as many
    levels above where it started as the grid holds. -/
def Balanced (g h : Grid) : Prop :=
  ∀ depth, ((g.forwarded h).map levelsPopped).sum ≤ depth →
    (g.forwarded h).foldl outerDepth (depth + g.kittyKbStack.length) = depth + h.kittyKbStack.length

/-- The levels forwarded beyond those the grid holds. -/
def drift (g : Grid) : Int := (g.passthrough.map levelsGained).sum - g.kittyKbStack.length

theorem balanced_iff (log : g.passthrough <+: h.passthrough) : g.Balanced h ↔ h.drift = g.drift := by
  obtain ⟨events,grown⟩ := log
  have new : g.forwarded h = events := by rw [forwarded,← grown,List.drop_left]
  have outer (depth : Nat) (deep : (events.map levelsPopped).sum ≤ depth) :=
    foldl_outerDepth events (depth + g.kittyKbStack.length) (Nat.le_add_right_of_le deep)
  have levels : h.drift = g.drift + (events.map levelsGained).sum + g.kittyKbStack.length - h.kittyKbStack.length := by
    unfold drift
    rw [← grown,List.map_append,List.sum_append]
    omega
  unfold Balanced
  rw [new]
  constructor
  · intro level
    have gained := outer _ (Nat.le_refl _)
    rw [level _ (Nat.le_refl _)] at gained
    omega
  · intro same depth deep
    have gained := outer depth deep
    omega

/-- A push finds room on the stack, and a pop asks for no more levels than it holds. -/
def Matches (g : Grid) : Op → Prop
  | .kittyPush _ => g.kittyKbStack.length < kittyKbStackCap
  | .kittyPop count => count ≤ g.kittyKbStack.length
  | _ => True

instance (g : Grid) (op : Op) : Decidable (g.Matches op) :=
  decidable_of_bool (match op with
    | .kittyPush _ => decide (g.kittyKbStack.length < kittyKbStackCap)
    | .kittyPop count => decide (count ≤ g.kittyKbStack.length)
    | _ => true) (by cases op <;> simp [Matches])

/-! ## Handlers that forward nothing -/

/-- The log of events and the keyboard stack. -/
def voice (g : Grid) : List PassthroughEvent × List Nat := (g.passthrough,g.kittyKbStack)

/-- A handler that leaves both. -/
def Mute (g : Grid) (handler : Checked Grid) : Prop := Ends (fun h => h.voice = g.voice) (fun _ => True) handler

theorem Framed.voice {entered : List (Row × RowWrap)} {recorded : List ScrollOp} (framed : g.Framed entered recorded h) :
    h.voice = g.voice := by
  have events : h.passthrough = g.passthrough := congrArg Ledger.events framed.ledger
  have keyboard : h.kittyKbStack = g.kittyKbStack := congrArg Ledger.keyboard framed.ledger
  unfold Grid.voice
  rw [events,keyboard]

/-- No edit but of the display forwards an event. -/
theorem edit_voice (g : Grid) {e : Edit} (text : e.OnText) : (g.edit e).voice = g.voice := by
  cases e with
  | evict top row =>
    obtain ⟨_,same⟩ := g.evict_writes top row
    exact (congrArg voice same).trans rfl
  | preserve | forget => rcases text with (cells | cursor) | lines <;> contradiction
  | _ => rfl

theorem exec_mute [UnicodeWidth] {op : Op} {walk : Walk} (walked : op.walk = some walk) (other : walk ≠ .display) (g : Grid) :
    g.Mute (g.exec op) :=
  exec_keeps walked (fun h _ edits same => (h.edit_voice (walk.onText other edits)).trans same) rfl

/-! ## Operations -/

end Grid

/-- Whether an operation is an event that is no push or pop, if it is an event. -/
def Op.Quiet : Op → Prop
  | .emit e => e.keyboard = none
  | _ => True

theorem csiOps_quiet (params : List Param) (intermediates : Bytes) (action : Char) :
    (csiOps params intermediates action).Forall Op.Quiet := by
  have carried (bytes : Bytes) {final : UInt8} (other : final ≠ 0x75) :
      (PassthroughEvent.unhandledCsi (bytes ++ [final])).keyboard = none := keyboardChange_of_final other
  unfold csiOps
  split
  all_goals
    dsimp only
    repeat' split
    all_goals first
      | trivial
      | exact carried _ (by decide)
      | simp [List.forall_iff_forall_mem,Op.Quiet]

theorem ops_quiet (c : Callback) : ∀ op ∈ c.ops, op.Quiet := by
  cases c with
  | csiDispatch params intermediates ignore action =>
    intro op inside
    rcases List.mem_append.mp inside with cleared | dispatched
    · split_ifs at cleared
      · rw [List.mem_singleton.mp cleared]; trivial
      · cases cleared
    · exact List.forall_iff_forall_mem.mp (csiOps_quiet _ _ _) op dispatched
  | execute byte =>
    simp only [Callback.ops,Termpane.execute]
    split_ifs
    all_goals simp [Op.Quiet,PassthroughEvent.keyboard]
  | escDispatch intermediates ignore byte =>
    simp only [Callback.ops,Termpane.escDispatch]
    split_ifs
    all_goals simp [Op.Quiet]
  | _ => simp [Callback.ops,Op.Quiet]

namespace Grid

variable {f g h : Grid}

/-- What a handler forwards comes after what was forwarded before, and it keeps the
    drift exactly under a condition. -/
def Forwards (g : Grid) (level : Prop) (handler : Checked Grid) : Prop :=
  Ends (fun h => g.passthrough <+: h.passthrough ∧ (h.drift = g.drift ↔ level)) (fun _ => level) handler

theorem Mute.forwards {handler : Checked Grid} (mute : g.Mute handler) : g.Forwards True handler := by
  refine (mute.mono fun h same => ?_).allow fun _ _ => trivial
  obtain ⟨events,keyboard⟩ := Prod.mk.inj same
  unfold drift
  rw [events,keyboard]
  exact ⟨List.prefix_rfl,iff_of_true rfl trivial⟩

/-- A handler that forwards some events. -/
theorem forwards_ok (events : List PassthroughEvent) {level : Prop} (log : h.passthrough = g.passthrough ++ events)
    (gained : (events.map levelsGained).sum + g.kittyKbStack.length = h.kittyKbStack.length ↔ level) :
    g.Forwards level (.ok h) := by
  refine ⟨⟨events,log.symm⟩,Iff.trans ?_ gained⟩
  unfold drift
  rw [log,List.map_append,List.sum_append]
  omega

/-- An event that is no push or pop. -/
theorem forwards_event {e : PassthroughEvent} (quiet : e.keyboard = none) (log : h.passthrough = g.passthrough ++ [e])
    (keyboard : h.kittyKbStack = g.kittyKbStack) : g.Forwards True (.ok h) := by
  refine forwards_ok [e] log (iff_of_true ?_ trivial)
  simp [levelsGained,quiet,keyboard]

theorem setDecMode_forwards (g : Grid) (mode : Nat) (enabled : Bool) : g.Forwards True (.ok (g.setDecMode mode enabled)) := by
  unfold setDecMode
  split
  case h_4 | h_5 | h_6 => exact forwards_event rfl rfl rfl
  case h_9 =>
    split
    · exact Mute.forwards rfl
    · -- one pop for each level held
      rw [restoreSavedCursor_eq]
      refine forwards_ok (List.replicate g.kittyKbStack.length (.unhandledCsi (ascii "\x1b[<u"))) ?_
        (iff_of_true ?_ trivial)
      · split <;> rfl
      · have one : levelsGained (.unhandledCsi (ascii "\x1b[<u")) = -1 := by decide
        rw [List.map_replicate,one,List.sum_replicate_int]
        change _ * (-1) + (g.kittyKbStack.length : Int) = 0
        omega
  all_goals exact Mute.forwards rfl

theorem handleOsc_forwards (g : Grid) (params : List Bytes) (bell : Bool) :
    g.Forwards True (.ok (g.handleOsc params bell)) := by
  unfold handleOsc
  split
  · exact Mute.forwards rfl
  · dsimp only
    split
    case h_9 => unfold oscHyperlink; dsimp only; split <;> exact Mute.forwards rfl
    case h_10 => exact Mute.forwards rfl
    all_goals exact forwards_event rfl rfl rfl

theorem eraseDisplay_forwards (g : Grid) (mode : Nat) : g.Forwards True (g.eraseDisplay mode) := by
  refine ((eraseDisplay_framed g mode).mono fun h framed => ?_).allow fun _ _ => trivial
  change g.Forwards True (.ok h)
  obtain ⟨events,keyboard⟩ := Prod.mk.inj framed.voice
  unfold eraseHistory at events keyboard
  split_ifs at events keyboard
  · exact forwards_event (e := .scrollbackClear) rfl events keyboard
  · rw [preserve_eq] at events keyboard
    have same : h.voice = g.voice := by
      unfold voice
      rw [events,keyboard]
      cases g.clearBlock <;> rfl
    exact Mute.forwards same
  · exact Mute.forwards (congrArg₂ Prod.mk events keyboard)

section
variable [UnicodeWidth]

/-- One step keeps the drift exactly if a push finds room and a pop finds its levels. -/
theorem exec_forwards (g : Grid) {op : Op} (quiet : op.Quiet) : g.Forwards (g.Matches op) (g.exec op) := by
  cases op
  case kittyPush flags =>
    refine forwards_ok [.unhandledCsi (ascii "\x1b[>" ++ decimal flags ++ ascii "u")] rfl ?_
    have gained : levelsGained (.unhandledCsi (ascii "\x1b[>" ++ decimal flags ++ ascii "u")) = 1 := by
      rw [levelsGained,keyboard_push]
    simp only [List.map_cons,List.map_nil,List.sum_cons,List.sum_nil,gained,Grid.pushEvent,Matches]
    split
    case isTrue room =>
      refine iff_of_true ?_ room
      rw [List.length_append,List.length_singleton]
      omega
    case isFalse full => exact iff_of_false (by omega) full
  case kittyPop count =>
    refine forwards_ok [.unhandledCsi (ascii "\x1b[<" ++ decimal count ++ ascii "u")] rfl ?_
    have gained : levelsGained (.unhandledCsi (ascii "\x1b[<" ++ decimal count ++ ascii "u")) = -count := by
      rw [levelsGained,keyboard_pop]
    simp only [List.map_cons,List.map_nil,List.sum_cons,List.sum_nil,gained,Grid.pushEvent,Matches,List.rdrop,List.length_take]
    omega
  case emit e => exact forwards_event quiet rfl rfl
  case cursorReport | requestMode => exact forwards_event rfl rfl rfl
  case eraseDisplay mode => exact eraseDisplay_forwards g mode
  case decMode mode enabled => exact setDecMode_forwards g mode enabled
  case osc params bell => exact handleOsc_forwards g params bell
  case softReset =>
    refine Mute.forwards ?_
    simp only [Mute,Grid.exec,Grid.softReset,Grid.restoreAutowrap,ends_ok]
    split <;> rfl
  -- the rest forwards nothing
  all_goals refine Mute.forwards ?_
  case restoreCursor =>
    simp only [Mute,Grid.exec,restoreSavedCursor_eq,ends_ok]
    split <;> exact rfl
  all_goals first
    | exact exec_mute rfl (by decide) g
    | exact rfl

end

end Grid

section
variable [Vte] [UnicodeWidth]

namespace DamageGrid

/-- All along a stream, an outer terminal with levels enough that does what the grid
    forwards is level with the grid's keyboard stack, exactly if every push finds
    room on that stack and no pop asks for more levels than it holds. -/
theorem keyboard_level_iff (d : DamageGrid) (chunks : List Bytes) :
    (∀ before after g, d.ops chunks = before ++ after → d.grid.execAll before = .ok g → d.grid.Balanced g) ↔
      StepsMeet Grid.exec Grid.Matches d.grid (d.ops chunks) := by
  have quiet : ∀ op ∈ d.ops chunks, op.Quiet := by
    intro op inside
    obtain ⟨c,_,made⟩ := List.mem_flatMap.mp inside
    exact ops_quiet c op made
  have steps : ∀ op ∈ d.ops chunks, ∀ g : Grid,
      Ends (fun h => h.drift = g.drift ↔ g.Matches op) (fun _ => g.Matches op) (g.exec op) :=
    fun op inside g => (g.exec_forwards (quiet op inside)).mono fun h forwarded => forwarded.2
  rw [← run_keeps_iff steps]
  refine forall_congr' fun before => forall_congr' fun after => forall_congr' fun g => ?_
  refine imp_congr_right fun split => imp_congr_right fun ran => ?_
  have logged : Ends (fun h => d.grid.passthrough <+: h.passthrough) (fun _ => True) (d.grid.execAll before) :=
    run_ends (fun op inside g grown => ((g.exec_forwards (quiet op (split ▸ List.mem_append_left after inside))).mono
      fun h forwarded => grown.trans forwarded.1).allow fun _ _ => trivial) List.prefix_rfl
  exact Grid.balanced_iff (logged.of_ok ran)

end DamageGrid

end

section
attribute [local instance] byteParser blockWidth

/-- `CSI < u` before any push: the outer terminal pops a level of its own. -/
theorem pop_of_none : ∃ g, (DamageGrid.new 2 2 5).ops [[0x1b,0x5b,0x3c,0x75]] = [.kittyPop 1] ++ [] ∧
    (DamageGrid.new 2 2 5).grid.execAll [.kittyPop 1] = .ok g ∧ ¬ (DamageGrid.new 2 2 5).grid.Balanced g :=
  ⟨_,rfl,rfl,fun level => absurd (level 1 (by decide)) (by decide)⟩

end

end Termpane
