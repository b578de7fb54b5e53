import Termpane.WorkerFrames
import Termpane.Walks
import Termpane.Policy
import Termpane.ByteParser

/-!
# Frames of synchronized output

The worker counts the ends of synchronized updates. A batch without an `ESC` is
processed whole and looked at once: one sequence at most ends in it, for the parser is
at ground after that and only an `ESC` leads out of there. So the count is that of the
stream looked at after every byte.
-/
namespace Termpane

open Lib

/-! ## What changes the mode -/

/-- An operation that text and strings are made of. -/
def Op.Textual : Op → Prop
  | .print _ | .clearPendingWrap | .newline | .carriageReturn | .backspace | .tab | .emit _ | .osc _ _ => True
  | _ => False

theorem execute_textual {byte : UInt8} {op : Op} (inside : op ∈ execute byte) : op.Textual := by
  unfold execute at inside
  repeat' split at inside
  all_goals simp only [List.mem_cons,List.not_mem_nil,or_false] at inside
  · rcases inside with rfl | rfl <;> trivial
  · rcases inside with rfl | rfl <;> trivial
  · rw [inside]; trivial
  · rcases inside with rfl | rfl <;> trivial
  · rw [inside]; trivial

theorem ops_textual {c : Callback} (plain : ¬ c.Dispatches) {op : Op} (inside : op ∈ c.ops) : op.Textual := by
  cases c with
  | print ch => rw [List.mem_singleton.mp inside]; trivial
  | execute byte => exact execute_textual inside
  | csiDispatch params intermediates ignore action => exact absurd trivial plain
  | escDispatch intermediates ignore byte => exact absurd trivial plain
  | oscDispatch params bell => rw [List.mem_singleton.mp inside]; trivial
  | hook params intermediates ignore action => cases inside
  | put byte => cases inside
  | unhook => cases inside

namespace Grid
variable {g : Grid}

/-- `in_synchronized_update`. -/
def inSynchronizedUpdate (g : Grid) : Bool := g.modeFlags.synchronizedUpdate

variable [UnicodeWidth]

theorem exec_sync (g : Grid) {op : Op} (textual : op.Textual) :
    Ends (fun h => h.inSynchronizedUpdate = g.inSynchronizedUpdate) (fun _ => True) (g.exec op) := by
  cases walked : op.walk with
  | some walk => exact exec_unwritten (fun _ => rfl) walked g
  | none =>
    cases op
    case osc params bell =>
      obtain ⟨_,_,_,same⟩ := g.handleOsc_writes params bell
      exact (congrArg inSynchronizedUpdate same).trans rfl
    case emit => exact rfl
    all_goals first
      | exact textual.elim
      | cases walked

/-- Callbacks of which none dispatches leave the mode. -/
theorem performAll_sync (g : Grid) {cs : List Callback} (plain : ∀ c ∈ cs, ¬ c.Dispatches) :
    Ends (fun h => h.inSynchronizedUpdate = g.inSynchronizedUpdate) (fun _ => True) (g.performAll cs) := by
  refine run_ends (fun c inside h same => ?_) rfl
  refine run_ends (fun op inside' h same => ?_) same
  exact (exec_sync h (ops_textual (plain c inside) inside')).mono fun _ more => more.trans same

end Grid

section
variable [Vte] [UnicodeWidth]

namespace DamageGrid
variable {d e : DamageGrid}

/-! ## The stream byte by byte -/

/-- The stream processed one byte at a time, and the ends of a synchronized update
    seen between two bytes. -/
def syncEnds (d : DamageGrid) : Bytes → Checked (DamageGrid × Nat)
  | [] => .ok (d,0)
  | byte :: stream => do
    let next ← d.process [byte]
    let (last,ends) ← next.syncEnds stream
    return (last,(if d.grid.inSynchronizedUpdate && !next.grid.inSynchronizedUpdate then 1 else 0) + ends)

theorem syncEnds_append (left right : Bytes) (d : DamageGrid) : d.syncEnds (left ++ right) = (do
    let (middle,ends) ← d.syncEnds left
    let (last,later) ← middle.syncEnds right
    return (last,ends + later)) := by
  induction left generalizing d with
  | nil =>
    simp only [List.nil_append,syncEnds,ok_bind,Nat.zero_add]
    exact (bind_pure _).symm
  | cons byte left ih =>
    simp only [List.cons_append,syncEnds,bind_assoc,ih,pure_bind,Nat.add_assoc]

/-- The states passed are those of the calls. -/
theorem syncEnds_grid (stream : Bytes) (d : DamageGrid) :
    (d.syncEnds stream).map (·.1) = d.processAll (stream.map fun byte => [byte]) := by
  induction stream generalizing d with
  | nil => rfl
  | cons byte stream ih =>
    simp only [syncEnds,processAll,List.map_cons,List.foldlM_cons] at ih ⊢
    cases d.process [byte] with
    | error e => rfl
    | ok next =>
      rw [ok_bind,ok_bind,← ih next]
      cases next.syncEnds stream <;> rfl

/-- Output cannot tell apart grids of one core, so neither can the count. -/
theorem syncEnds_alike (stream : Bytes) (same : d.core false = e.core false) :
    SameUpTo (fun r : DamageGrid × Nat => (r.1.core false,r.2)) (d.syncEnds stream) (e.syncEnds stream) := by
  have modes {d e : DamageGrid} (same : d.core false = e.core false) :
      d.grid.inSynchronizedUpdate = e.grid.inSynchronizedUpdate := by
    have both : (d.core false).grid.inSynchronizedUpdate = (e.core false).grid.inSynchronizedUpdate := by rw [same]
    exact both
  induction stream generalizing d e with
  | nil => exact congrArg (fun d : DamageGrid => (Except.ok (d,0) : Checked (DamageGrid × Nat))) same
  | cons byte stream ih =>
    refine (process_alike same [byte]).bind fun d' e' same' => (ih same').bind fun r r' last => ?_
    obtain ⟨grids,counts⟩ := Prod.mk.inj last
    refine congrArg Except.ok ?_
    simp only [modes same,modes same',grids,counts]

/-! ## Batches without an escape -/

/-- No `ESC` is among the bytes to come. -/
def Plain (d : DamageGrid) (bytes : Bytes) : Prop := 0x1b ∉ d.pendingUtf8 ++ bytes

omit [Vte] [UnicodeWidth] in
theorem plain_parts {pending bytes : Bytes} (plain : 0x1b ∉ pending ++ bytes) :
    (∀ slice ∈ (nextSlice pending bytes).1, 0x1b ∉ slice) ∧ 0x1b ∉ (nextSlice pending bytes).2 := by
  rw [← nextSlice_spell,List.mem_append,not_or] at plain
  refine ⟨fun slice cut inside => plain.1 ?_,plain.2⟩
  rw [Option.mem_def.mp cut]
  simpa using inside

variable {Ground : Vte.State → Prop}

/-- At ground a plain byte string changes no mode. -/
theorem process_quiet (ground : VteGround Ground) {bytes : Bytes} (plain : d.Plain bytes) (atGround : Ground d.parser) :
    Ends (fun d' => Ground d'.parser ∧ 0x1b ∉ d'.pendingUtf8 ∧ d'.grid.inSynchronizedUpdate = d.grid.inSynchronizedUpdate)
      (fun _ => True) (d.process bytes) := by
  obtain ⟨handed,kept⟩ := plain_parts plain
  rw [process_parts]
  cases cut : (nextSlice d.pendingUtf8 bytes).1 with
  | none => exact ⟨atGround,kept,rfl⟩
  | some slice =>
    obtain ⟨stays,quiet⟩ := ground.stays d.parser slice atGround (handed slice cut)
    have same := d.grid.performAll_sync quiet
    simp only [Option.elim_some]
    revert same
    cases d.grid.performAll (Vte.advance d.parser slice).2 with
    | error e => exact fun _ => trivial
    | ok g => exact fun same => ⟨stays,kept,same⟩

theorem syncEnds_quiet (ground : VteGround Ground) {bytes : Bytes} (plain : d.Plain bytes) (atGround : Ground d.parser) :
    Ends (fun r => r.2 = 0 ∧ r.1.grid.inSynchronizedUpdate = d.grid.inSynchronizedUpdate) (fun _ => True) (d.syncEnds bytes) := by
  induction bytes generalizing d with
  | nil => exact ⟨rfl,rfl⟩
  | cons byte bytes ih =>
    have split : 0x1b ∉ d.pendingUtf8 ++ [byte] ∧ 0x1b ∉ bytes := by simpa [Plain,not_or,and_assoc] using plain
    refine (process_quiet ground split.1 atGround).bind fun d' ⟨atGround',kept,same⟩ => ?_
    have plain' : d'.Plain bytes := by simpa [Plain,not_or] using ⟨kept,split.2⟩
    refine (ih plain' atGround').bind fun r ⟨noEnd,same'⟩ => ⟨?_,same'.trans same⟩
    rw [noEnd,same]
    cases d.grid.inSynchronizedUpdate <;> rfl

/-- A plain byte string leaves the mode, or it leaves the parser at ground. -/
theorem process_once (laws : VteLaws) (ground : VteGround Ground) {bytes : Bytes} (plain : d.Plain bytes) :
    Ends (fun d' => 0x1b ∉ d'.pendingUtf8 ∧ (d'.grid.inSynchronizedUpdate = d.grid.inSynchronizedUpdate ∨ Ground d'.parser))
      (fun _ => True) (d.process bytes) := by
  obtain ⟨handed,kept⟩ := plain_parts plain
  rw [process_parts]
  cases cut : (nextSlice d.pendingUtf8 bytes).1 with
  | none => exact ⟨kept,.inl rfl⟩
  | some slice =>
    simp only [Option.elim_some]
    by_cases quiet : ∀ c ∈ (Vte.advance d.parser slice).2, ¬ c.Dispatches
    · have same := d.grid.performAll_sync quiet
      revert same
      cases d.grid.performAll (Vte.advance d.parser slice).2 with
      | error e => exact fun _ => trivial
      | ok g => exact fun same => ⟨kept,.inl same⟩
    · -- the rest of the slice, after the final byte, is read at ground
      simp only [not_forall,not_not] at quiet
      obtain ⟨c,inside,dispatches⟩ := quiet
      obtain ⟨before,after,made⟩ := List.append_of_mem inside
      obtain ⟨left,right,split,ends,_,atGround⟩ := ground.returns d.parser slice before c after made dispatches
      have rest : 0x1b ∉ right := fun inside => handed slice cut (by rw [split]; exact List.mem_append_right _ inside)
      have stays := (ground.stays _ right atGround rest).1
      have last : Ground (Vte.advance d.parser slice).1 := by
        rw [split,laws.persists d.parser left right ends]
        exact stays
      cases d.grid.performAll (Vte.advance d.parser slice).2 with
      | error e => trivial
      | ok g => exact ⟨kept,.inr last⟩

/-- A plain byte string ends one update at most, and does if it is over afterwards. -/
theorem syncEnds_plain (laws : VteLaws) (ground : VteGround Ground) {bytes : Bytes} (plain : d.Plain bytes) :
    Ends (fun r => r.2 = if d.grid.inSynchronizedUpdate && !r.1.grid.inSynchronizedUpdate then 1 else 0) (fun _ => True)
      (d.syncEnds bytes) := by
  induction bytes generalizing d with
  | nil =>
    change 0 = if d.grid.inSynchronizedUpdate && !d.grid.inSynchronizedUpdate then 1 else 0
    cases d.grid.inSynchronizedUpdate <;> rfl
  | cons byte bytes ih =>
    have split : 0x1b ∉ d.pendingUtf8 ++ [byte] ∧ 0x1b ∉ bytes := by simpa [Plain,not_or,and_assoc] using plain
    refine (process_once laws ground split.1).bind fun d' step => ?_
    obtain ⟨kept,done⟩ := step
    have plain' : d'.Plain bytes := by simpa [Plain,not_or] using ⟨kept,split.2⟩
    rcases done with same | atGround
    · refine (ih plain').bind fun r count => ?_
      simp only [pure_ok,ends_ok]
      rw [count,same]
      cases d.grid.inSynchronizedUpdate <;> simp
    · refine (syncEnds_quiet ground plain' atGround).bind fun r none => ?_
      obtain ⟨noEnd,same⟩ := none
      simp only [pure_ok,ends_ok]
      rw [noEnd,same,Nat.add_zero]

/-! ## Batches and bytes -/

/-- Slices that cut no character are advanced over as one. -/
theorem foldlM_advanceParser (laws : VteLaws) {slices : List Bytes} (ends : ∀ slice ∈ slices, EndsCharacter slice)
    (some : slices ≠ []) (d : DamageGrid) : slices.foldlM advanceParser d = d.advanceParser slices.flatten := by
  induction slices generalizing d with
  | nil => exact absurd rfl some
  | cons slice slices ih =>
    cases slices with
    | nil => rw [List.foldlM_cons,List.flatten_cons,List.flatten_nil,List.append_nil]; exact bind_pure _
    | cons next slices =>
      have rest := ih (fun slice inside => ends slice (List.mem_cons_of_mem _ inside)) (by simp)
      have whole := laws.persists d.parser slice (next :: slices).flatten (ends slice List.mem_cons_self)
      rw [List.foldlM_cons,List.flatten_cons]
      simp only [rest,advanceParser,whole,Grid.performAll,List.foldlM_append,SeqState.advanceBytes_append,bind_assoc,pure_bind]

/-- A stream does the same in one call. -/
theorem processAll_flatten (laws : VteLaws) (carried : Carried d.pendingUtf8) (chunks : List Bytes) :
    d.processAll chunks = d.process chunks.flatten := by
  have one : d.process chunks.flatten = d.processAll [chunks.flatten] := (bind_pure _).symm
  have same := slices_flatten carried chunks
  have kept : (slices d.pendingUtf8 chunks).2 = (slices d.pendingUtf8 [chunks.flatten]).2 := by
    rw [slices_pending carried,slices_pending carried,List.flatten_cons,List.flatten_nil,List.append_nil]
  have filled {chunks : List Bytes} : (slices d.pendingUtf8 chunks).1 = [] ↔ (slices d.pendingUtf8 chunks).1.flatten = [] := by
    refine ⟨fun nothing => by rw [nothing]; rfl,fun empty => List.eq_nil_iff_forall_not_mem.mpr fun slice handed => ?_⟩
    have blank := List.flatten_eq_nil_iff.mp empty slice handed
    rcases slices_ends handed with ⟨front,b,split,_⟩ | ⟨front,ch,split⟩
    · rw [blank] at split; simp at split
    · rw [blank] at split
      exact utf8.encode_ne_nil ch (List.append_eq_nil_iff.mp split.symm).2
  rw [one,processAll_eq,processAll_eq,kept]
  congr 1
  by_cases nothing : (slices d.pendingUtf8 chunks).1 = []
  · rw [nothing,filled.mpr (same ▸ filled.mp nothing)]
  · have some : (slices d.pendingUtf8 [chunks.flatten]).1 ≠ [] := fun empty => nothing (filled.mpr (same ▸ filled.mp empty))
    rw [foldlM_advanceParser laws (fun _ => slices_ends) nothing,foldlM_advanceParser laws (fun _ => slices_ends) some,same]

theorem process_carried (carried : Carried d.pendingUtf8) (bytes : Bytes) :
    Ends (fun d' => Carried d'.pendingUtf8) (fun _ => True) (d.process bytes) := by
  rw [process_parts]
  cases d.grid.performAll _ with
  | error e => trivial
  | ok g =>
    change Carried (nextSlice d.pendingUtf8 bytes).2
    rw [nextSlice_pending carried]
    exact held_carried _

theorem syncEnds_carried (carried : Carried d.pendingUtf8) (stream : Bytes) :
    Ends (fun r => Carried r.1.pendingUtf8) (fun _ => True) (d.syncEnds stream) := by
  induction stream generalizing d with
  | nil => exact carried
  | cons byte stream ih => exact (process_carried carried [byte]).bind fun _ carried' => (ih carried').bind fun _ last => last

end DamageGrid

/-! ## The worker -/

namespace Worker
variable {w : Worker} {Ground : Vte.State → Prop}

/-- The last sample is of the state the grid is in. -/
def Sampled (w : Worker) : Prop := w.wasInSync = w.grid.grid.inSynchronizedUpdate

/-- The grid and the frames counted. -/
def framing (w : Worker) : DamageGrid × Nat := (w.grid,w.frames)

theorem process_map (w : Worker) (bytes : Bytes) :
    w.process bytes = (w.grid.process bytes).map fun d => ({ w with grid := d } : Worker).noteSyncSample := by
  unfold process
  cases w.grid.process bytes <;> rfl

omit [UnicodeWidth] in
theorem noteSyncSample_framing (w : Worker) : w.noteSyncSample.Sampled ∧ w.noteSyncSample.framing =
    (w.grid,w.frames + if w.wasInSync && !w.grid.grid.inSynchronizedUpdate then 1 else 0) := by
  unfold noteSyncSample
  dsimp only
  change (_ : Worker).Sampled ∧ _ = (w.grid,w.frames + if (w.wasInSync && !w.inSynchronizedUpdate) = true then 1 else 0)
  split
  · exact ⟨rfl,rfl⟩
  · exact ⟨rfl,rfl⟩

/-- A batch with an `ESC`, which is processed byte by byte. -/
theorem foldlM_process_framing (batch : Bytes) (sampled : w.Sampled) :
    (batch.foldlM (fun (w : Worker) byte => w.process [byte]) w).map framing =
      (w.grid.syncEnds batch).map fun r => (r.1,w.frames + r.2) := by
  induction batch generalizing w with
  | nil => rfl
  | cons byte batch ih =>
    rw [List.foldlM_cons,process_map,DamageGrid.syncEnds]
    cases w.grid.process [byte] with
    | error e => rfl
    | ok d =>
      obtain ⟨sampled',frames⟩ := noteSyncSample_framing { w with grid := d }
      obtain ⟨grid,count⟩ := Prod.mk.inj frames
      have rest := ih sampled'
      rw [grid,count] at rest
      refine rest.trans ?_
      rw [ok_bind]
      cases d.syncEnds batch with
      | error e => rfl
      | ok r =>
        have mode : w.wasInSync = w.grid.grid.inSynchronizedUpdate := sampled
        simp only [Except.map,ok_bind,pure_ok,Nat.add_assoc,mode]

theorem pump_framing (laws : VteLaws) (ground : VteGround Ground) (sampled : w.Sampled) (carried : Carried w.grid.pendingUtf8)
    (batch : Bytes) : (w.pump batch).map framing = (w.grid.syncEnds batch).map fun r => (r.1,w.frames + r.2) := by
  unfold pump
  split
  case isTrue => exact foldlM_process_framing batch sampled
  case isFalse plain =>
    have plain : w.grid.Plain batch := by
      intro inside
      rcases List.mem_append.mp inside with before | now
      · rw [← carried] at before
        exact absurd (held_nonAscii before) (by decide)
      · exact plain (List.contains_iff_mem.mpr now)
    have whole := w.grid.syncEnds_grid batch
    have bytes : (batch.map fun byte => [byte]).flatten = batch := by rw [← List.flatMap_def,List.flatMap_singleton']
    rw [DamageGrid.processAll_flatten laws carried,bytes] at whole
    have once := DamageGrid.syncEnds_plain laws ground plain
    rw [process_map,← whole]
    revert once
    cases w.grid.syncEnds batch with
    | error e => exact fun _ => rfl
    | ok r =>
      intro once
      have count : r.2 = if w.wasInSync && !r.1.grid.inSynchronizedUpdate then 1 else 0 := by rw [sampled]; exact once
      refine congrArg Except.ok ((noteSyncSample_framing { w with grid := r.1 }).2.trans ?_)
      exact congrArg (fun ends => (r.1,w.frames + ends)) count.symm

theorem process_sampled (w : Worker) (bytes : Bytes) : Ends Sampled (fun _ => True) (w.process bytes) := by
  rw [process_map]
  cases w.grid.process bytes with
  | error e => trivial
  | ok d => exact (noteSyncSample_framing { w with grid := d }).1

theorem pump_sampled (sampled : w.Sampled) (batch : Bytes) : Ends Sampled (fun _ => True) (w.pump batch) := by
  unfold pump
  split
  · exact run_ends (fun byte _ w _ => w.process_sampled [byte]) sampled
  · exact w.process_sampled batch

/-- What a feed does after the batch is pumped. -/
def fed (w : Worker) (answers : Nat → ReplyAnswer) (batch : Bytes) : Worker :=
  ((w.recordBatch batch).forwardEvents answers).bumpRevision

omit [UnicodeWidth] in
theorem fed_eq (w : Worker) (answers : Nat → ReplyAnswer) (batch : Bytes) : (w.fed answers batch).frames = w.frames ∧
    (w.fed answers batch).wasInSync = w.wasInSync ∧ (w.fed answers batch).finalized = w.finalized ∧
    (w.fed answers batch).grid = w.drainPassthrough.grid := by
  obtain ⟨_,_,_,_,_,_,forwarded⟩ := (w.recordBatch batch).forwardEvents_forwards answers
  obtain ⟨_,_,_,recorded⟩ := w.recordBatch_eq batch
  unfold fed
  rw [forwarded,recorded]
  exact ⟨rfl,rfl,rfl,rfl⟩

/-- Batches fed one after the other, each with the answers its replies get. -/
def feedAll (w : Worker) (batches : List (Bytes × (Nat → ReplyAnswer))) : Checked Worker :=
  batches.foldlM (fun w batch => w.feed batch.2 batch.1) w

theorem feed_map (open' : w.finalized = false) (answers : Nat → ReplyAnswer) (batch : Bytes) :
    w.feed answers batch = (w.pump batch).map (·.fed answers batch) := by
  unfold feed
  rw [open']
  cases w.pump batch <;> rfl

theorem pump_finalized (batch : Bytes) : Ends (fun p => p.finalized = w.finalized) (fun _ => True) (w.pump batch) := by
  cases pumped : w.pump batch with
  | error e => trivial
  | ok p =>
    obtain ⟨_,_,_,_,rfl⟩ := (pump_ok pumped).2
    rfl

theorem feedAll_framing (laws : VteLaws) (ground : VteGround Ground) (batches : List (Bytes × (Nat → ReplyAnswer)))
    (open' : w.finalized = false) (sampled : w.Sampled) (carried : Carried w.grid.pendingUtf8) :
    (w.feedAll batches).map (fun w => (w.grid.core false,w.frames)) =
      (w.grid.syncEnds (batches.flatMap Prod.fst)).map fun r => (r.1.core false,w.frames + r.2) := by
  induction batches generalizing w with
  | nil => rfl
  | cons batch batches ih =>
    have framing := pump_framing laws ground sampled carried batch.1
    have keeps := (pump_sampled sampled batch.1).and (w.pump_finalized batch.1)
    have carries := w.grid.syncEnds_carried carried batch.1
    unfold feedAll at ih ⊢
    rw [List.foldlM_cons,feed_map open',List.flatMap_cons,DamageGrid.syncEnds_append]
    cases pumped : w.pump batch.1 with
    | error e =>
      cases counted : w.grid.syncEnds batch.1 with
      | error e' => rw [pumped,counted] at framing; cases framing; rfl
      | ok r => rw [pumped,counted] at framing; cases framing
    | ok p =>
      cases counted : w.grid.syncEnds batch.1 with
      | error e => rw [pumped,counted] at framing; cases framing
      | ok r =>
        obtain ⟨middle,ends⟩ := r
        rw [pumped,counted] at framing
        have grid : p.grid = middle := (Prod.mk.inj (Except.ok.inj framing)).1
        have count : p.frames = w.frames + ends := (Prod.mk.inj (Except.ok.inj framing)).2
        obtain ⟨sampled',finalized⟩ := keeps.of_ok pumped
        obtain ⟨frames,inSync,final,drained⟩ := p.fed_eq batch.2 batch.1
        -- the events are drained, which output cannot tell
        have same : (p.fed batch.2 batch.1).grid.core false = middle.core false := by rw [drained,← grid]; rfl
        have mode : (p.fed batch.2 batch.1).Sampled := by unfold Sampled; rw [inSync,drained]; exact sampled'
        have carried' : Carried (p.fed batch.2 batch.1).grid.pendingUtf8 := by
          rw [drained]
          change Carried p.grid.pendingUtf8
          rw [grid]
          exact carries.of_ok counted
        have rest := ih (final.trans (finalized.trans open')) mode carried'
        have alike := DamageGrid.syncEnds_alike (batches.flatMap Prod.fst) same
        refine rest.trans ?_
        rw [frames,count,ok_bind]
        dsimp only
        unfold SameUpTo at alike
        revert alike
        generalize (p.fed batch.2 batch.1).grid.syncEnds _ = x
        generalize middle.syncEnds _ = y
        intro alike
        cases x with
        | error e =>
          cases y with
          | error e' => cases alike; rfl
          | ok _ => cases alike
        | ok x =>
          cases y with
          | error e => cases alike
          | ok y =>
            obtain ⟨grids,counts⟩ := Prod.mk.inj (Except.ok.inj alike)
            refine congrArg Except.ok (Prod.ext grids ?_)
            change w.frames + ends + x.2 = w.frames + (ends + y.2)
            rw [show x.2 = y.2 from counts,Nat.add_assoc]

/-- However the output is cut into batches, the frames counted are the ends of a
    synchronized update seen when it is processed byte by byte. -/
theorem frames_of_batches (laws : VteLaws) (ground : VteGround Ground) (config : WorkerConfig)
    (batches : List (Bytes × (Nat → ReplyAnswer))) : ((new config).feedAll batches).map (·.frames) =
      ((DamageGrid.new config.rows config.cols config.scrollback).syncEnds (batches.flatMap Prod.fst)).map (·.2) := by
  have framing := feedAll_framing laws ground batches (show (new config).finalized = false from rfl) rfl
    (show Carried [] from held_nil)
  have counts := congrArg (Except.map Prod.snd) framing
  revert counts
  change _ → _ = ((new config).grid.syncEnds _).map _
  cases (new config).feedAll batches <;> cases (new config).grid.syncEnds (batches.flatMap Prod.fst)
  · exact id
  · exact nofun
  · exact nofun
  · rename_i w r
    intro counts
    have zero : (new config).frames + r.2 = r.2 := Nat.zero_add _
    have same : w.frames = (new config).frames + r.2 := Except.ok.inj counts
    exact congrArg Except.ok (same.trans zero)

end Worker

end

section
attribute [local instance] byteParser blockWidth

/-- An update whose sequences are cut by the batches. -/
def cutBatches : List (Bytes × (Nat → ReplyAnswer)) :=
  [(ascii "a\x1b[?20",fun _ => {}),(ascii "26hb",fun _ => {}),(ascii "\x1b[?2026",fun _ => {}),(ascii "lc",fun _ => {})]

theorem frames_of_cut_batches : ((Worker.new ⟨3,2,0,false,4,0⟩).feedAll cutBatches).map (·.frames) = .ok 1 ∧
    ((Worker.new ⟨3,2,0,false,4,0⟩).feedAll cutBatches).map (·.frames) =
      ((DamageGrid.new 2 3 0).syncEnds (cutBatches.flatMap Prod.fst)).map (·.2) :=
  ⟨rfl,Worker.frames_of_batches byteParser_laws byteParser_ground ⟨3,2,0,false,4,0⟩ _⟩

end

end Termpane
