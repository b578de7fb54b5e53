import Termpane.Process
import Termpane.Handlers
import Termpane.Pairs

/-!
# Runs of calls

A grid is driven by its host: output to process, resizes, and the calls that set
or drain what the output left. What holds after every call and every callback is
proved here once, for any property of rows that the row edits keep.
-/
namespace Termpane

open Lib

/-- The calls of the host beside `process`. Getters are left out. -/
inductive HostCall
  | setSize (rows cols : UInt16)
  | setScrollback (offset : Nat)
  | clearScrollback
  | dirtySpans
  | drainPassthrough
  | clearScrollOps
  | clearKittyKbStack
  | setEraseDisplayPolicy (policy : EraseDisplayPolicy)
  | setReportedColors (fg bg : Option (UInt8 × UInt8 × UInt8))

inductive Call
  | process (bytes : Bytes)
  | host (c : HostCall)

def Grid.host (g : Grid) : HostCall → Grid
  | .setSize rows cols => g.setSize rows cols
  | .setScrollback offset => g.setScrollback offset
  | .clearScrollback => { g with scrollback := g.scrollback.clear, scrollbackOffset := 0 }
  | .dirtySpans => { g with dirty := g.dirty.take.2 }
  | .drainPassthrough => { g with passthrough := [] }
  | .clearScrollOps => { g with scrollOps := [] }
  | .clearKittyKbStack => { g with kittyKbStack := [] }
  | .setEraseDisplayPolicy policy => { g with eraseDisplayPolicy := policy }
  | .setReportedColors fg bg =>
    { g with reportedFg := fg.getD g.reportedFg, reportedBg := bg.getD g.reportedBg }

/-- Every row of the screens and the scrollback. -/
def Grid.EveryRow (P : Row → Prop) (g : Grid) : Prop :=
  ∀ row, row ∈ g.primary.rows ∨ row ∈ g.alternate.rows ∨ row ∈ g.scrollback.rows → P row

/-- The shape alone. -/
def Grid.WellShaped (g : Grid) : Prop := g.Shaped fun _ => True

/-! ## What a run gives to the terminal -/

/-- What a call gives to the terminal itself: a byte of output, a size, or an empty keyboard stack. -/
inductive Cue
  | byte (b : UInt8)
  | size (rows cols : UInt16)
  | clearKeyboard
  deriving DecidableEq, Repr

def Call.cues : Call → List Cue
  | .process bytes => bytes.map .byte
  | .host (.setSize rows cols) => [.size rows cols]
  | .host .clearKittyKbStack => [.clearKeyboard]
  | .host _ => []

def script (run : List Call) : List Cue := run.flatMap Call.cues

namespace Cue

def byte? : Cue → Option UInt8
  | .byte b => some b
  | _ => none

end Cue

/-- The bytes among some cues. -/
def typed (cues : List Cue) : Bytes := cues.filterMap Cue.byte?

/-- How many of them are no bytes. -/
def untypedCues (cues : List Cue) : Nat := cues.countP fun cue => cue.byte?.isNone

theorem typed_append (left right : List Cue) : typed (left ++ right) = typed left ++ typed right := List.filterMap_append

theorem untypedCues_append (left right : List Cue) : untypedCues (left ++ right) = untypedCues left + untypedCues right :=
  List.countP_append

theorem typed_bytes (bytes : Bytes) : typed (bytes.map .byte) = bytes := by
  induction bytes with
  | nil => rfl
  | cons b bytes ih => exact congrArg (b :: ·) ih

theorem untypedCues_bytes (bytes : Bytes) : untypedCues (bytes.map .byte) = 0 := by
  refine List.countP_eq_zero.mpr fun cue inside => ?_
  obtain ⟨b,_,rfl⟩ := List.mem_map.mp inside
  exact Bool.false_ne_true

/-- Cues that are all bytes. -/
theorem cues_of_typed {cues : List Cue} (none : untypedCues cues = 0) : cues = (typed cues).map .byte := by
  induction cues with
  | nil => rfl
  | cons cue cues ih =>
    have all := List.countP_eq_zero.mp none
    have rest := ih (List.countP_eq_zero.mpr fun cue inside => all cue (List.mem_cons_of_mem _ inside))
    cases cue with
    | byte b => exact congrArg (Cue.byte b :: ·) rest
    | size rows cols => exact absurd rfl (all _ List.mem_cons_self)
    | clearKeyboard => exact absurd rfl (all _ List.mem_cons_self)

theorem script_append (left right : List Call) : script (left ++ right) = script left ++ script right := List.flatMap_append

theorem script_process (chunks : List Bytes) : script (chunks.map .process) = chunks.flatten.map .byte := by
  induction chunks with
  | nil => rfl
  | cons chunk chunks ih =>
    have first : script (chunk :: chunks |>.map .process) = chunk.map .byte ++ script (chunks.map .process) := List.flatMap_cons
    rw [first,ih,List.flatten_cons,List.map_append]

/-! ## What runs keep -/

section
variable {P : Row → Prop}

theorem Grid.Shaped.everyRow {g : Grid} (shaped : g.Shaped P) : g.EveryRow P := by
  rintro row (inside | inside | inside)
  · exact shaped.primary.all row inside
  · exact shaped.alternate.all row inside
  · exact shaped.history row inside

theorem Grid.Shaped.host {g : Grid} (shaped : g.Shaped P) (blank : ∀ cols, P (blankRow cols))
    (resized : ∀ row cols, P row → P (resizeRow cols row)) (c : HostCall) : (g.host c).Shaped P := by
  cases c
  case setSize rows cols => exact shaped.setSize blank resized rows cols
  case setScrollback offset => exact { shaped with offset := Nat.min_le_right _ _ }
  case clearScrollback =>
    exact { shaped with historyWraps := rfl, historyLimit := Nat.zero_le _, offset := Nat.zero_le _,
                        history := by simp [Grid.host,RowStore.clear] }
  case clearKittyKbStack => exact { shaped with keyboard := by rintro _ ⟨⟩ }
  all_goals exact { shaped with }

variable [Vte] [UnicodeWidth]

namespace DamageGrid

/-- One call. -/
def call (d : DamageGrid) : Call → Checked DamageGrid
  | .process bytes => d.process bytes
  | .host c => .ok { d with grid := d.grid.host c }

/-- A run of calls. -/
def calls (d : DamageGrid) (run : List Call) : Checked DamageGrid := run.foldlM call d

theorem calls_process (d : DamageGrid) (chunks : List Bytes) : d.calls (chunks.map .process) = d.processAll chunks := by
  unfold calls processAll
  rw [List.foldlM_map]
  rfl

theorem calls_append (d : DamageGrid) (left right : List Call) : d.calls (left ++ right) =
    d.calls left >>= fun d => d.calls right :=
  List.foldlM_append

/-- What holds between two calls. -/
structure Sound (P : Row → Prop) (d : DamageGrid) : Prop where
  grid : d.grid.Shaped P
  parser : Vte.Reached d.parser
  carried : Carried d.pendingUtf8

variable {Prints : Char → Prop} {d : DamageGrid}

omit [UnicodeWidth] in
theorem sound_new (blank : ∀ cols, P (blankRow cols)) {rows cols : UInt16} (hasRows : 0 < rows) (hasCols : 0 < cols)
    (scrollbackLimit : Nat) : (new rows cols scrollbackLimit).Sound P where
  grid := Grid.shaped_new blank hasRows hasCols scrollbackLimit
  parser := .start
  carried := rfl

theorem Sound.process (law : RowLaw Prints P)
    (prints : ∀ s : Vte.State, Vte.Reached s → ∀ (slice : Bytes) (ch : Char), .print ch ∈ (Vte.advance s slice).2 → Prints ch)
    (sound : d.Sound P) (bytes : Bytes) : Ends (Sound P) (· = .overflow) (d.process bytes) := by
  have carried : Carried (nextSlice d.pendingUtf8 bytes).2 := by
    rw [nextSlice_pending sound.carried]; exact held_carried _
  cases cut : (nextSlice d.pendingUtf8 bytes).1 with
  | none =>
    have same : d.process bytes = .ok { d with pendingUtf8 := (nextSlice d.pendingUtf8 bytes).2 } := by
      simp [DamageGrid.process,cut]
    rw [same]
    exact { sound with carried := carried }
  | some slice =>
    have ran := sound.grid.performAll law (prints d.parser sound.parser slice)
    have same : d.process bytes = (do
        let grid ← d.grid.performAll (Vte.advance d.parser slice).2
        .ok { d with grid := grid, parser := (Vte.advance d.parser slice).1, seqState := d.seqState.advanceBytes slice,
                     pendingUtf8 := (nextSlice d.pendingUtf8 bytes).2 }) := by
      simp only [DamageGrid.process,cut,advanceParser]
      cases d.grid.performAll (Vte.advance d.parser slice).2 <;> rfl
    rw [same]
    exact ran.bind fun grid shaped => ⟨shaped,.advance _ _ sound.parser (nextSlice_ends cut),carried⟩

theorem Sound.calls (law : RowLaw Prints P)
    (prints : ∀ s : Vte.State, Vte.Reached s → ∀ (slice : Bytes) (ch : Char), .print ch ∈ (Vte.advance s slice).2 → Prints ch)
    (sound : d.Sound P) (run : List Call) : Ends (Sound P) (· = .overflow) (d.calls run) := by
  refine run_ends (fun c _ d sound => ?_) sound
  cases c with
  | process bytes => exact sound.process law prints bytes
  | host c => exact { sound with grid := sound.grid.host law.blank law.resize c }

/-- A run from a new grid, and any callbacks after it, keep the shape together
    with the pairing of rows. -/
theorem calls_rowOk {rows cols : UInt16} (hasRows : 0 < rows) (hasCols : 0 < cols) (scrollbackLimit : Nat)
    (run : List Call) :
    Ends (fun d : DamageGrid => d.grid.Shaped RowOk ∧ ∀ callbacks, Keeps RowOk (d.grid.performAll callbacks)) (· = .overflow)
      ((new rows cols scrollbackLimit).calls run) := by
  have law := rowOk_law fun _ => True
  exact ((sound_new law.blank hasRows hasCols scrollbackLimit).calls law (fun _ _ _ _ _ => trivial) run).mono
    fun d sound => ⟨sound.grid,fun callbacks => sound.grid.performAll law fun _ _ => trivial⟩

/-- After any run of calls the grid is in shape, and so it is after each callback
    of the next slice; nothing on the way indexes out of bounds. -/
theorem calls_shaped {rows cols : UInt16} (hasRows : 0 < rows) (hasCols : 0 < cols) (scrollbackLimit : Nat)
    (run : List Call) :
    (new rows cols scrollbackLimit).calls run ≠ .error .index ∧
      ∀ d, (new rows cols scrollbackLimit).calls run = .ok d → d.grid.WellShaped ∧
        ∀ slice callbacks, callbacks <+: (Vte.advance d.parser slice).2 →
          d.grid.performAll callbacks ≠ .error .index ∧
            ∀ g, d.grid.performAll callbacks = .ok g → g.WellShaped := by
  have ends := calls_rowOk hasRows hasCols scrollbackLimit run
  refine ⟨fun failed => (by cases ends.of_error failed),fun d reached => ?_⟩
  obtain ⟨shaped,performed⟩ := ends.of_ok reached
  refine ⟨shaped.mono fun _ _ => trivial,fun _ callbacks _ => ⟨fun failed => ?_,fun g after => ?_⟩⟩
  · cases (performed callbacks).of_error failed
  · exact ((performed callbacks).of_ok after).mono fun _ _ => trivial

/-- In every reachable state every row of both screens and of the scrollback is
    well formed. -/
theorem calls_rows {rows cols : UInt16} (hasRows : 0 < rows) (hasCols : 0 < cols) {scrollbackLimit : Nat}
    {run : List Call} {d : DamageGrid} (reached : (new rows cols scrollbackLimit).calls run = .ok d) :
    d.grid.EveryRow RowOk ∧
      ∀ slice callbacks g, callbacks <+: (Vte.advance d.parser slice).2 → d.grid.performAll callbacks = .ok g →
        g.EveryRow RowOk := by
  obtain ⟨shaped,performed⟩ := (calls_rowOk hasRows hasCols scrollbackLimit run).of_ok reached
  exact ⟨shaped.everyRow,fun _ callbacks _ _ after => ((performed callbacks).of_ok after).everyRow⟩

end DamageGrid

end

section
attribute [local instance] byteParser blockWidth

theorem calls_shaped_resized :
    (DamageGrid.new 2 3 1).calls [.process [0x41,0x42,0x43],.host (.setSize 0 0)] ≠ .error .index ∧
      ∀ d, (DamageGrid.new 2 3 1).calls [.process [0x41,0x42,0x43],.host (.setSize 0 0)] = .ok d → d.grid.WellShaped ∧
        ∀ slice callbacks, callbacks <+: (Vte.advance d.parser slice).2 →
          d.grid.performAll callbacks ≠ .error .index ∧
            ∀ g, d.grid.performAll callbacks = .ok g → g.WellShaped :=
  DamageGrid.calls_shaped (by decide) (by decide) 1 _

theorem calls_rows_wide :
    ∃ d, (DamageGrid.new 2 3 1).calls [.process [0xe4,0xb8,0xad]] = .ok d ∧ d.grid.EveryRow RowOk := by
  cases reached : (DamageGrid.new 2 3 1).calls [.process [0xe4,0xb8,0xad]] with
  | ok d => exact ⟨d,rfl,(DamageGrid.calls_rows (by decide) (by decide) reached).1⟩
  | error e =>
    have succeeds : ((DamageGrid.new 2 3 1).calls [.process [0xe4,0xb8,0xad]]).isOk = true := rfl
    rw [reached] at succeeds
    cases succeeds

end

end Termpane
