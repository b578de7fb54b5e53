import Termpane.Calls

/-!
# Runs as lists of steps

What the parser makes of the bytes depends on the bytes alone. So a run of calls
is one list of steps of the grid, operations and calls of the host, and what a
step keeps in every grid in shape, a run keeps.
-/
namespace Termpane

open Lib

/-- An operation of a callback, or a call of the host. -/
inductive Step
  | op (op : Op)
  | host (c : HostCall)

/-- Operations have the arguments dispatchers grant, and those that move the
    cursor come right after the pending wrap was cancelled. -/
def Tame : Bool → List Step → Prop
  | _, [] => True
  | cleared, .op op :: steps =>
    op.Granted (fun _ => True) ∧ (op.Moves = true → cleared = true) ∧ Tame (decide (op = .clearPendingWrap)) steps
  | _, .host _ :: steps => Tame false steps

theorem Tame.of_cleared {cleared : Bool} {steps : List Step} (tame : Tame false steps) : Tame cleared steps := by
  cases steps with
  | nil => trivial
  | cons step steps =>
    cases step with
    | op op => exact ⟨tame.1,fun moves => absurd (tame.2.1 moves) Bool.false_ne_true,tame.2.2⟩
    | host c => exact tame

/-- The operations of a callback, before others. -/
theorem tame_ops (c : Callback) {steps : List Step} (tame : Tame false steps) :
    Tame false (c.ops.map .op ++ steps) := by
  have granted : ∀ op ∈ c.ops, op.Granted fun _ => True := Grid.ops_granted fun _ _ => trivial
  rcases Grid.ops_cases c with ⟨op,same⟩ | still
  · rw [same] at granted ⊢
    exact ⟨trivial,fun moves => absurd moves Bool.false_ne_true,granted op (by simp),fun _ => rfl,tame.of_cleared⟩
  · generalize c.ops = ops at granted still
    induction ops with
    | nil => exact tame
    | cons op ops ih =>
      refine ⟨granted op List.mem_cons_self,fun moves => ?_,Tame.of_cleared (ih ?_ ?_)⟩
      · rw [still op List.mem_cons_self] at moves; cases moves
      · exact fun other inside => granted other (List.mem_cons_of_mem op inside)
      · exact fun other inside => still other (List.mem_cons_of_mem op inside)

theorem tame_callbacks (cs : List Callback) {steps : List Step} (tame : Tame false steps) :
    Tame false ((cs.flatMap Callback.ops).map .op ++ steps) := by
  induction cs with
  | nil => exact tame
  | cons c cs ih =>
    rw [List.flatMap_cons,List.map_append,List.append_assoc]
    exact tame_ops c ih

theorem Tame.left {cleared : Bool} {steps more : List Step} (tame : Tame cleared (steps ++ more)) : Tame cleared steps := by
  induction steps generalizing cleared with
  | nil => trivial
  | cons step steps ih =>
    cases step with
    | op op => exact ⟨tame.1,tame.2.1,ih tame.2.2⟩
    | host c => exact @ih false tame

theorem Tame.right {cleared : Bool} {steps more : List Step} {op : Op} (tame : Tame cleared (steps ++ .op op :: more))
    (other : op ≠ .clearPendingWrap) : Tame false more := by
  induction steps generalizing cleared with
  | nil =>
    have rest := tame.2.2
    rwa [decide_eq_false other] at rest
  | cons step steps ih =>
    cases step with
    | op op => exact ih tame.2.2
    | host c => exact @ih false tame

section
variable [UnicodeWidth]

def Grid.take (g : Grid) : Step → Checked Grid
  | .op op => g.exec op
  | .host c => .ok (g.host c)

/-- A step of a run keeps the shape, and what the rest of the run needs. -/
theorem Grid.Shaped.take {P : Row → Prop} (law : RowLaw (fun _ => True) P) {g h : Grid} (shaped : g.Shaped P) {step : Step}
    {steps : List Step} {cleared : Bool} (unparked : cleared = true → g.modeFlags.pendingWrap = false)
    (tame : Tame cleared (step :: steps)) (taken : g.take step = .ok h) : h.Shaped P ∧
      ∃ cleared', (cleared' = true → h.modeFlags.pendingWrap = false) ∧ Tame cleared' steps := by
  cases step with
  | host c =>
    cases taken
    exact ⟨shaped.host law.blank law.resize c,false,fun none => absurd none Bool.false_ne_true,tame⟩
  | op op =>
    refine ⟨(shaped.exec law tame.1 fun moves => unparked (tame.2.1 moves)).of_ok taken,_,fun cancelled => ?_,tame.2.2⟩
    rw [decide_eq_true_eq] at cancelled
    subst cancelled
    cases taken
    rfl

/-- What a step of a run may rely on. -/
def Grid.Ready (P : Row → Prop) (g : Grid) : Step → Prop
  | .op op => g.Shaped P ∧ op.Granted (fun _ => True) ∧ (op.Moves = true → g.modeFlags.pendingWrap = false)
  | .host _ => g.Shaped P

/-- A run keeps the shape with what a law keeps of the rows, and each of its steps finds it so. -/
theorem Grid.Shaped.takes_ready {P : Row → Prop} (law : RowLaw (fun _ => True) P) {steps : List Step} {g : Grid}
    (shaped : g.Shaped P) {cleared : Bool} (unparked : cleared = true → g.modeFlags.pendingWrap = false)
    (tame : Tame cleared steps) :
    Ends (Grid.Shaped P) (fun _ => True) (steps.foldlM Grid.take g) ∧ StepsMeet Grid.take (Grid.Ready P) g steps := by
  induction steps generalizing g cleared with
  | nil => exact ⟨shaped,trivial⟩
  | cons step steps ih =>
    have rest (h : Grid) (taken : g.take step = .ok h) :
        Ends (Grid.Shaped P) (fun _ => True) (steps.foldlM Grid.take h) ∧ StepsMeet Grid.take (Grid.Ready P) h steps := by
      obtain ⟨kept,cleared',unparked',tame'⟩ := shaped.take law unparked tame taken
      exact ih kept unparked' tame'
    refine ⟨?_,?_,fun h taken => (rest h taken).2⟩
    · rw [List.foldlM_cons]
      cases taken : g.take step with
      | error e => trivial
      | ok h => exact (rest h taken).1
    · cases step with
      | host c => exact shaped
      | op op => exact ⟨shaped,tame.1,fun moves => unparked (tame.2.1 moves)⟩

/-- What every step of a run keeps, from a grid in shape and with what was noted
    so far, the run does. -/
theorem Grid.Shaped.takes {τ : Type} {Inv : Grid → τ → Prop} {note : Grid → Step → τ → τ} {Meets : Grid → Step → Prop}
    (ops : ∀ g op t, g.Shaped RowOk → op.Granted (fun _ => True) → Meets g (.op op) → Inv g t →
      Ends (fun h => Inv h (note g (.op op) t)) (fun _ => True) (g.exec op))
    (hosts : ∀ g c t, g.Shaped RowOk → Meets g (.host c) → Inv g t → Inv (g.host c) (note g (.host c) t))
    {steps : List Step} {g : Grid} (shaped : g.Shaped RowOk) {cleared : Bool}
    (unparked : cleared = true → g.modeFlags.pendingWrap = false) (tame : Tame cleared steps)
    (meets : StepsMeet Grid.take Meets g steps) {t : τ} (holds : Inv g t) :
    Ends (fun h => h.Shaped RowOk ∧ Inv h (noted Grid.take note g steps t)) (fun _ => True) (steps.foldlM Grid.take g) := by
  induction steps generalizing g cleared t with
  | nil => exact ⟨shaped,holds⟩
  | cons step steps ih =>
    rw [List.foldlM_cons]
    cases taken : g.take step with
    | error e => trivial
    | ok h =>
      obtain ⟨kept,cleared',unparked',tame'⟩ := shaped.take (rowOk_law _) unparked tame taken
      have holds' : Inv h (note g step t) := by
        cases step with
        | host c => cases taken; exact hosts g c t shaped meets.1 holds
        | op op => exact (ops g op t shaped tame.1 meets.1 holds).of_ok taken
      rw [noted_cons taken]
      exact ih kept unparked' tame' (meets.2 h taken) holds'

/-- What every step keeps holds wherever a run takes a step. -/
theorem Grid.Shaped.takes_visits {Inv : Grid → Prop}
    (ops : ∀ g op, g.Shaped RowOk → op.Granted (fun _ => True) → Inv g → Ends Inv (fun _ => True) (g.exec op))
    (hosts : ∀ g c, g.Shaped RowOk → Inv g → Inv (g.host c)) {steps : List Step} {g : Grid} (shaped : g.Shaped RowOk)
    {cleared : Bool} (unparked : cleared = true → g.modeFlags.pendingWrap = false) (tame : Tame cleared steps)
    (holds : Inv g) : StepsMeet Grid.take (fun g _ => g.Shaped RowOk ∧ Inv g) g steps := by
  induction steps generalizing g cleared with
  | nil => trivial
  | cons step steps ih =>
    refine ⟨⟨shaped,holds⟩,fun h taken => ?_⟩
    obtain ⟨kept,cleared',unparked',tame'⟩ := shaped.take (rowOk_law _) unparked tame taken
    refine ih kept unparked' tame' ?_
    cases step with
    | host c => cases taken; exact hosts g c shaped holds
    | op op => exact (ops g op shaped tame.1 holds).of_ok taken

/-- A condition on operations, which no call of the host meets. -/
def OpMeets (Meets : Grid → Op → Prop) (g : Grid) : Step → Prop
  | .op op => Meets g op
  | .host _ => False

/-- What every operation that meets a condition keeps, with what was noted so far,
    operations one after the other do. -/
theorem Grid.Shaped.execAll_notes {τ : Type} (Inv : Grid → τ → Prop) (note : Grid → Op → τ → τ) (Meets : Grid → Op → Prop)
    (step : ∀ g op t, g.Shaped RowOk → op.Granted (fun _ => True) → Meets g op → Inv g t →
      Ends (fun h => Inv h (note g op t)) (fun _ => True) (g.exec op))
    {g : Grid} (shaped : g.Shaped RowOk) {ops : List Op} (tame : Tame false (ops.map .op))
    (meets : StepsMeet Grid.exec Meets g ops) {t : τ} (holds : Inv g t) :
    Ends (fun h => h.Shaped RowOk ∧ Inv h (noted Grid.exec note g ops t)) (fun _ => True) (g.execAll ops) := by
  have run := @Grid.Shaped.takes _ τ Inv (fun g step t => match step with | .op op => note g op t | .host _ => t) (OpMeets Meets)
    step (fun _ _ _ _ none => none.elim) _ _ shaped _ (fun none => absurd none Bool.false_ne_true)
    tame (StepsMeet.map (f := Step.op) meets) t holds
  rwa [List.foldlM_map,noted_map] at run

/-- What every operation that meets a condition keeps, operations one after the
    other do. -/
theorem Grid.Shaped.execAll_keeps (Inv : Grid → Prop) (Meets : Grid → Op → Prop)
    (step : ∀ g op, g.Shaped RowOk → op.Granted (fun _ => True) → Meets g op → Inv g → Ends Inv (fun _ => True) (g.exec op))
    {g : Grid} (shaped : g.Shaped RowOk) {ops : List Op} (tame : Tame false (ops.map .op))
    (meets : StepsMeet Grid.exec Meets g ops) (holds : Inv g) :
    Ends (fun h => h.Shaped RowOk ∧ Inv h) (fun _ => True) (g.execAll ops) :=
  shaped.execAll_notes (fun g (_ : Unit) => Inv g) (fun _ _ _ => ()) Meets (fun g op _ => step g op) tame meets (t := ()) holds

/-- Callbacks one after the other are their operations one after the other. -/
theorem Grid.performAll_steps (g : Grid) (cs : List Callback) :
    g.performAll cs = ((cs.flatMap Callback.ops).map Step.op).foldlM take g := by
  induction cs generalizing g with
  | nil => rfl
  | cons c cs ih =>
    rw [List.flatMap_cons,List.map_append,List.foldlM_append,List.foldlM_map]
    change (g.perform c >>= fun h => h.performAll cs) = _
    simp only [ih]
    rfl

variable [Vte]

/-- The steps of a run of calls, from a state of the parser and the bytes carried. -/
def stepsFrom (s : Vte.State) (pending : Bytes) : List Call → List Step
  | [] => []
  | .process bytes :: run =>
    let (slice,pending) := nextSlice pending bytes
    let (s,callbacks) := slice.elim (s,[]) (Vte.advance s)
    (callbacks.flatMap Callback.ops).map .op ++ stepsFrom s pending run
  | .host c :: run => .host c :: stepsFrom s pending run

omit [UnicodeWidth] in
theorem stepsFrom_tame (s : Vte.State) (pending : Bytes) (run : List Call) : Tame false (stepsFrom s pending run) := by
  induction run generalizing s pending with
  | nil => trivial
  | cons call run ih =>
    cases call with
    | process bytes => exact tame_callbacks _ (ih _ _)
    | host c => exact ih s pending

namespace DamageGrid

/-- The steps of a run of calls. -/
def steps (d : DamageGrid) (run : List Call) : List Step := stepsFrom d.parser d.pendingUtf8 run

/-- The operations of a stream. -/
def ops (d : DamageGrid) (chunks : List Bytes) : List Op := (d.callbacks chunks).flatMap Callback.ops

theorem process_parts (d : DamageGrid) (bytes : Bytes) :
    d.process bytes = (d.grid.performAll ((nextSlice d.pendingUtf8 bytes).1.elim [] fun slice => (Vte.advance d.parser slice).2)).map
      fun g => { d with
        grid := g
        parser := (nextSlice d.pendingUtf8 bytes).1.elim d.parser fun slice => (Vte.advance d.parser slice).1
        seqState := (nextSlice d.pendingUtf8 bytes).1.elim d.seqState d.seqState.advanceBytes
        pendingUtf8 := (nextSlice d.pendingUtf8 bytes).2 } := by
  cases cut : (nextSlice d.pendingUtf8 bytes).1 with
  | none =>
    simp only [DamageGrid.process,cut]
    rfl
  | some slice =>
    simp only [DamageGrid.process,cut,advanceParser,Option.elim_some]
    cases d.grid.performAll (Vte.advance d.parser slice).2 <;> rfl

/-- A run of calls does to the grid what its steps do. -/
theorem calls_grid (d : DamageGrid) (run : List Call) :
    (d.calls run).map (·.grid) = (d.steps run).foldlM Grid.take d.grid := by
  induction run generalizing d with
  | nil => rfl
  | cons call run ih =>
    change (d.call call >>= fun d => d.calls run).map _ = _
    cases call with
    | host c => exact ih { d with grid := d.grid.host c }
    | process bytes =>
      have split : (d.steps (.process bytes :: run)).foldlM Grid.take d.grid =
          d.grid.performAll ((nextSlice d.pendingUtf8 bytes).1.elim [] fun slice => (Vte.advance d.parser slice).2) >>= fun g =>
            (stepsFrom ((nextSlice d.pendingUtf8 bytes).1.elim d.parser fun slice => (Vte.advance d.parser slice).1)
              (nextSlice d.pendingUtf8 bytes).2 run).foldlM Grid.take g := by
        rw [Grid.performAll_steps,← List.foldlM_append,steps,stepsFrom]
        generalize nextSlice d.pendingUtf8 bytes = cut
        obtain ⟨slice,pending⟩ := cut
        cases slice <;> rfl
      rw [split]
      change (d.process bytes >>= fun d => d.calls run).map _ = _
      rw [process_parts]
      cases d.grid.performAll ((nextSlice d.pendingUtf8 bytes).1.elim [] fun slice => (Vte.advance d.parser slice).2) with
      | error e => rfl
      | ok g => exact ih _

theorem processAll_execAll (d : DamageGrid) (chunks : List Bytes) :
    (d.processAll chunks).map (·.grid) = d.grid.execAll (d.ops chunks) := by
  rw [processAll_grid,Grid.performAll_steps,List.foldlM_map]
  rfl

omit [UnicodeWidth] in
theorem ops_tame (d : DamageGrid) (chunks : List Bytes) : Tame false ((d.ops chunks).map Step.op) := by
  have tame := tame_callbacks (d.callbacks chunks) (show Tame false [] from trivial)
  rwa [List.append_nil] at tame

/-- What every operation that meets a condition keeps of a grid in shape, a stream
    of them does. -/
theorem stream_keeps (Inv : Grid → Prop) (Meets : Grid → Op → Prop)
    (step : ∀ g op, g.Shaped RowOk → op.Granted (fun _ => True) → Meets g op → Inv g → Ends Inv (fun _ => True) (g.exec op))
    {d d' : DamageGrid} {chunks : List Bytes} (shaped : d.grid.Shaped RowOk)
    (meets : StepsMeet Grid.exec Meets d.grid (d.ops chunks)) (holds : Inv d.grid) (done : d.processAll chunks = .ok d') :
    d'.grid.Shaped RowOk ∧ Inv d'.grid := by
  have performed := processAll_execAll d chunks
  rw [done] at performed
  exact (shaped.execAll_keeps Inv Meets step (d.ops_tame chunks) meets holds).of_ok performed.symm

/-- A state a run passes through, between two of its steps. -/
def Visits (d : DamageGrid) (run : List Call) (g : Grid) : Prop :=
  ∃ before after, d.steps run = before ++ after ∧ before.foldlM Grid.take d.grid = .ok g

theorem Visits.shaped_law {P : Row → Prop} (law : RowLaw (fun _ => True) P) {rows cols : UInt16} (hasRows : 0 < rows)
    (hasCols : 0 < cols) {scrollbackLimit : Nat} {run : List Call} {g : Grid}
    (visited : (new rows cols scrollbackLimit).Visits run g) : g.Shaped P := by
  obtain ⟨before,after,split,ran⟩ := visited
  have shaped := (sound_new law.blank hasRows hasCols scrollbackLimit).grid
  have tame := stepsFrom_tame (new rows cols scrollbackLimit).parser (new rows cols scrollbackLimit).pendingUtf8 run
  have whole : Tame false (before ++ after) := split ▸ tame
  exact (shaped.takes_ready law (fun none => absurd none Bool.false_ne_true) whole.left).1.of_ok ran

theorem Visits.shaped {rows cols : UInt16} (hasRows : 0 < rows) (hasCols : 0 < cols) {scrollbackLimit : Nat}
    {run : List Call} {g : Grid} (visited : (new rows cols scrollbackLimit).Visits run g) : g.Shaped RowOk :=
  visited.shaped_law (rowOk_law _) hasRows hasCols

end DamageGrid

end

end Termpane
