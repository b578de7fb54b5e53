import Termpane.Session

/-!
# What the worker's functions leave alone

Each function of the worker is described once, by the fields it writes. What follows
of a whole session is read off these descriptions.
-/
namespace Termpane

open Lib

/-- The calls of `process` that `feed` makes for a batch. -/
def parts (batch : Bytes) : List Bytes := if batch.contains 0x1b then batch.map fun byte => [byte] else [batch]

theorem parts_flatten (batch : Bytes) : (parts batch).flatten = batch := by
  unfold parts
  split
  · rw [← List.flatMap_def,List.flatMap_singleton']
  · exact List.append_nil batch

section
variable [Vte]

namespace Worker
variable {w w' : Worker}

/-! ## Output -/

theorem noteSyncSample_eq (w : Worker) : ∃ frames shared, w.noteSyncSample =
    { w with frames := frames, shared := { w.shared with frames := shared }, wasInSync := w.inSynchronizedUpdate } := by
  unfold noteSyncSample
  dsimp only
  split
  · exact ⟨w.frames + 1,w.frames + 1,rfl⟩
  · exact ⟨w.frames,w.shared.frames,rfl⟩

theorem recordBatch_eq (w : Worker) (batch : Bytes) : ∃ total log truncated, w.recordBatch batch =
    { w with bytesPumped := w.bytesPumped + batch.length, feeds := w.feeds + 1, outputBytesTotal := total,
             outputLog := log, outputTruncated := truncated } := by
  unfold recordBatch
  dsimp only
  split
  · split <;> exact ⟨_,_,_,rfl⟩
  · exact ⟨_,_,_,rfl⟩

theorem dropOldest_eq (fuel : Nat) (w : Worker) : ∃ events dropped, dropOldest fuel w =
    { w with events := events, eventsDropped := dropped } := by
  induction fuel generalizing w with
  | zero => exact ⟨w.events,w.eventsDropped,rfl⟩
  | succ fuel ih =>
    unfold dropOldest
    split
    · obtain ⟨events,dropped,same⟩ := ih { w with events := w.events.tail, eventsDropped := w.eventsDropped + 1 }
      exact ⟨events,dropped,same⟩
    · exact ⟨w.events,w.eventsDropped,rfl⟩

/-- A worker with another stash and other counts of replies. -/
def Forwards (w w' : Worker) : Prop :=
  ∃ events dropped routed unrouted errors first, w' =
    { w with events := events, eventsDropped := dropped, repliesRouted := routed, repliesDroppedNoWriter := unrouted,
             replyWriteErrors := errors, replyFirstError := first }

theorem Forwards.refl (w : Worker) : w.Forwards w := ⟨_,_,_,_,_,_,rfl⟩

theorem Forwards.trans {w'' : Worker} (left : w.Forwards w') (right : w'.Forwards w'') : w.Forwards w'' := by
  obtain ⟨_,_,_,_,_,_,rfl⟩ := left
  obtain ⟨events,dropped,routed,unrouted,errors,first,rfl⟩ := right
  exact ⟨events,dropped,routed,unrouted,errors,first,rfl⟩

theorem stashEvent_forwards (w : Worker) (event : PassthroughEvent) : w.Forwards (w.stashEvent event) := by
  obtain ⟨events,dropped,same⟩ := dropOldest_eq w.events.length w
  unfold stashEvent
  rw [same]
  exact ⟨events ++ [event],dropped,_,_,_,_,rfl⟩

theorem routeReply_forwards (w : Worker) (answer : ReplyAnswer) : w.Forwards (w.routeReply answer) := by
  unfold routeReply
  split
  · exact ⟨_,_,_,_,_,_,rfl⟩
  · split
    · exact ⟨_,_,_,_,_,_,rfl⟩
    · split <;> exact ⟨_,_,_,_,_,_,rfl⟩

theorem forwardEvent_forwards (answers : Nat → ReplyAnswer) (w : Worker) (event : PassthroughEvent × Nat) :
    w.Forwards (forwardEvent answers w event) := by
  unfold forwardEvent
  split
  · exact w.routeReply_forwards _
  · exact w.stashEvent_forwards _

theorem foldl_forwardEvent (answers : Nat → ReplyAnswer) (events : List (PassthroughEvent × Nat)) (w : Worker) :
    w.Forwards (events.foldl (forwardEvent answers) w) := by
  induction events generalizing w with
  | nil => exact .refl w
  | cons event events ih => exact (forwardEvent_forwards answers w event).trans (ih _)

/-- The grid with its events drained. -/
def drainPassthrough (w : Worker) : Worker :=
  { w with grid := { w.grid with grid := { w.grid.grid with passthrough := [] } } }

theorem forwardEvents_forwards (w : Worker) (answers : Nat → ReplyAnswer) :
    w.drainPassthrough.Forwards (w.forwardEvents answers) := foldl_forwardEvent answers _ _

/-! ## Control operations -/

theorem pollExitObserved_eq (w : Worker) (child : ChildPoll) : ∃ exited seen,
    (w.pollExitObserved child).2 = { w with exited := exited, exitSeenAt := seen } := by
  unfold pollExitObserved
  split
  · exact ⟨_,_,rfl⟩
  · split <;> exact ⟨_,_,rfl⟩

theorem pollExitObserved_exited (w : Worker) (child : ChildPoll) (found : (w.pollExitObserved child).1 = true) :
    ∃ exit, (w.pollExitObserved child).2.exited = some exit := by
  unfold pollExitObserved at found ⊢
  split
  case isTrue known => exact Option.isSome_iff_exists.mp known
  case isFalse unknown =>
    rw [if_neg unknown] at found
    split
    case h_1 status _ => exact ⟨status,rfl⟩
    case h_2 none => rw [none] at found; cases found

theorem writeChunks_eq (answers : Nat → ChunkAnswer) (chunks : List Bytes) (i : Nat) (w : Worker) : ∃ exited seen,
    (writeChunks answers i chunks w).1 = { w with exited := exited, exitSeenAt := seen } := by
  induction chunks generalizing i w with
  | nil => exact ⟨_,_,rfl⟩
  | cons chunk chunks ih =>
    unfold writeChunks
    split
    · exact ⟨_,_,rfl⟩
    · obtain ⟨exited,seen,polled⟩ := w.pollExitObserved_eq (answers i).child
      rcases found : w.pollExitObserved (answers i).child with ⟨_ | _,w₁⟩
      · rw [found] at polled
        subst polled
        dsimp only
        split
        · exact ⟨_,_,rfl⟩
        · split
          · exact ⟨_,_,rfl⟩
          · obtain ⟨exited',seen',rest⟩ := ih (i + 1) { w with exited := exited, exitSeenAt := seen }
            exact ⟨exited',seen',rest⟩
      · rw [found] at polled
        exact ⟨exited,seen,polled⟩

theorem applyWrite_eq (w : Worker) (answer : CtlAnswer) (bytes : Bytes) : ∃ exited seen,
    (w.applyWrite answer bytes).1 = { w with exited := exited, exitSeenAt := seen } := by
  unfold applyWrite
  split
  · exact ⟨_,_,rfl⟩
  · split
    · exact ⟨_,_,rfl⟩
    · split
      · exact ⟨_,_,rfl⟩
      · exact writeChunks_eq _ _ _ _

def resized (w : Worker) (cols rows : UInt16) : Worker :=
  { w with grid := { w.grid with grid := w.grid.grid.setSize rows cols }, resizes := w.resizes + 1 }.bumpRevision

def takeDirty (w : Worker) : Worker :=
  { w with grid := { w.grid with grid := { w.grid.grid with dirty := w.grid.grid.dirty.take.2 } } }

/-- What a control operation does to the worker, with what it answers. -/
inductive Obeys (w : Worker) (inflight : UInt64) : CtlOp → Worker → Option Answer → Prop
  | keep (op : CtlOp) (reply : Option Answer) (plain : ∀ a, reply = some a → a.Plain) : Obeys w inflight op w reply
  | observe : Obeys w inflight .observe w (some (.observation (w.observe inflight)))
  | events : Obeys w inflight .events { w with events := [] } (some (.events w.events))
  | dirtySpans : Obeys w inflight .dirtySpans w.takeDirty (some (.dirtySpans w.grid.grid.dirty.take.1))
  | write (bytes : Bytes) (exited : Option ExitStatus) (seen : Option Nat) (result : Except ProcessError Unit) :
      Obeys w inflight (.write bytes) { w with exited := exited, exitSeenAt := seen } (some (.done result))
  | resize (cols rows : UInt16) : Obeys w inflight (.resize cols rows) (w.resized cols rows) (some (.done (.ok ())))
  | closeInput : Obeys w inflight .closeInput { w with writerOpen := false }.bumpRevision (some (.done (.ok ())))
  | setColors (fg bg : Option (UInt8 × UInt8 × UInt8)) :
      Obeys w inflight (.setColors fg bg) (w.setColors fg bg) (some (.done (.ok ())))

theorem handleCtl_obeys {inflight : UInt64} {answer : CtlAnswer} {op : CtlOp} {reply : Option Answer}
    (served : w.handleCtl inflight answer op = .ok (w',reply)) : w.Obeys inflight op w' reply := by
  have plain {a : Answer} (holds : a.Plain) : ∀ b, some a = some b → b.Plain := by rintro _ ⟨⟩; exact holds
  cases op with
  | snapshot => cases served; exact .keep _ _ (plain ⟨rfl,rfl,rfl⟩)
  | stateBytes =>
    obtain ⟨bytes,_,same⟩ := bind_ok_iff.mp served
    cases same
    exact .keep _ _ (plain ⟨rfl,rfl,rfl⟩)
  | dirtySpans => cases served; exact .dirtySpans
  | events => cases served; exact .events
  | outputLog => cases served; exact .keep _ _ (plain ⟨rfl,rfl,rfl⟩)
  | observe => cases served; exact .observe
  | write bytes =>
    obtain ⟨exited,seen,same⟩ := w.applyWrite_eq answer bytes
    have ran : Except.ok ((w.applyWrite answer bytes).1,some (.done (w.applyWrite answer bytes).2)) = .ok (w',reply) := served
    obtain ⟨rfl,rfl⟩ := Prod.mk.inj (Except.ok.inj ran)
    rw [same]
    exact .write bytes exited seen _
  | resize cols rows =>
    have ran : Except.ok ((w.applyResize answer cols rows).1,some (.done (w.applyResize answer cols rows).2)) =
        .ok (w',reply) := served
    obtain ⟨rfl,rfl⟩ := Prod.mk.inj (Except.ok.inj ran)
    unfold applyResize
    split
    · exact .keep _ _ (plain ⟨rfl,rfl,rfl⟩)
    · exact .resize cols rows
  | closeInput =>
    have ran : Except.ok (w.closeInput.1,some (.done w.closeInput.2)) = .ok (w',reply) := served
    obtain ⟨rfl,rfl⟩ := Prod.mk.inj (Except.ok.inj ran)
    unfold Worker.closeInput
    split
    · exact .keep _ _ (plain ⟨rfl,rfl,rfl⟩)
    · split
      · exact .closeInput
      · exact .keep _ _ (plain ⟨rfl,rfl,rfl⟩)
  | setColors fg bg => cases served; exact .setColors fg bg
  | shutdown => cases served; exact .keep _ _ fun _ none => nomatch none

/-! ## Finalization -/

theorem pollExitState_eq (w : Worker) (child : ChildPoll) (now : Nat) :
    (∃ exited seen, w.pollExitState child now = { w with exited := exited, exitSeenAt := seen }) ∨
      w.finalized = false ∧ ∃ exited seen exit, w.pollExitState child now =
        { w with exited := exited, exitSeenAt := seen }.finalize (w.endOr .drainExpired) exit := by
  unfold pollExitState
  split
  · exact .inl ⟨_,_,rfl⟩
  case isFalse running =>
    obtain ⟨exited,seen,polled⟩ := w.pollExitObserved_eq child
    have known := w.pollExitObserved_exited child
    generalize w.pollExitObserved child = outcome at polled known ⊢
    obtain ⟨_ | _,w₁⟩ := outcome
    · exact .inl ⟨exited,seen,polled⟩
    · obtain ⟨exit,known⟩ := known rfl
      subst polled
      dsimp only at known ⊢
      subst known
      split
      · exact .inl ⟨_,_,rfl⟩
      · exact .inr ⟨by simpa using running,_,_,exit,rfl⟩

theorem finishShutdown_eq (w : Worker) (polled : Option ExitStatus) :
    (w.finalized = true ∧ w.finishShutdown polled =
      { w with exited := w.exited.or polled, shared := { w.shared with closed := true } }) ∨
    w.finalized = false ∧ ∃ exited exit, w.finishShutdown polled =
      { { w with exited := exited }.finalize (w.endOr .aborted) exit with
        shared := { ({ w with exited := exited }.finalize (w.endOr .aborted) exit).shared with closed := true } } := by
  unfold finishShutdown
  dsimp only
  split
  case isTrue final => exact .inl ⟨final,rfl⟩
  case isFalse running => exact .inr ⟨by simpa using running,w.exited.or polled,(w.exited.or polled).getD .unknown,rfl⟩

/-- A worker that has only learned of the exit of its child, and finalized perhaps. -/
def Exits (w w' : Worker) : Prop :=
  ∃ exited seen finalized final shared, shared.revision = w.shared.revision ∧ w' =
    { w with exited := exited, exitSeenAt := seen, finalized := finalized, finalStream := final, shared := shared }

omit [Vte] in
theorem publishOutcome_revision (s : Shared) (o : CaptureOutcome) : (s.publishOutcome o).revision = s.revision := by
  unfold Shared.publishOutcome
  split <;> rfl

theorem pollExitState_exits (w : Worker) (child : ChildPoll) (now : Nat) : w.Exits (w.pollExitState child now) := by
  obtain ⟨_,_,same⟩ | ⟨_,_,_,_,same⟩ := w.pollExitState_eq child now
  · exact ⟨_,_,_,_,_,rfl,same⟩
  · exact ⟨_,_,_,_,_,publishOutcome_revision _ _,same⟩

theorem finishShutdown_exits (w : Worker) (polled : Option ExitStatus) : w.Exits (w.finishShutdown polled) := by
  obtain ⟨_,same⟩ | ⟨_,_,_,same⟩ := w.finishShutdown_eq polled
  · exact ⟨_,_,_,_,{ w.shared with closed := true },rfl,same⟩
  · refine ⟨_,_,_,_,_,?_,same⟩
    exact publishOutcome_revision w.shared _

variable [UnicodeWidth]

theorem pump_eq (w : Worker) (batch : Bytes) : w.pump batch = (parts batch).foldlM process w := by
  unfold pump parts
  split
  · rw [List.foldlM_map]
  · simp

/-- A worker that has only processed output. -/
def Pumps (w w' : Worker) : Prop :=
  ∃ grid frames shared sync, w' =
    { w with grid := grid, frames := frames, shared := { w.shared with frames := shared }, wasInSync := sync }

omit [UnicodeWidth] in
theorem Pumps.trans {w'' : Worker} (left : w.Pumps w') (right : w'.Pumps w'') : w.Pumps w'' := by
  obtain ⟨_,_,_,_,rfl⟩ := left
  obtain ⟨grid,frames,shared,sync,rfl⟩ := right
  exact ⟨grid,frames,shared,sync,rfl⟩

theorem process_ok {bytes : Bytes} (processed : w.process bytes = .ok w') :
    w.grid.process bytes = .ok w'.grid ∧ w.Pumps w' := by
  obtain ⟨grid,ran,same⟩ := bind_ok_iff.mp processed
  cases same
  obtain ⟨frames,shared,same⟩ := noteSyncSample_eq { w with grid := grid }
  rw [same]
  exact ⟨ran,grid,frames,shared,_,rfl⟩

theorem foldlM_process_ok {parts : List Bytes} (processed : parts.foldlM process w = .ok w') :
    w.grid.processAll parts = .ok w'.grid ∧ w.Pumps w' := by
  induction parts generalizing w with
  | nil => cases processed; exact ⟨rfl,_,_,_,_,rfl⟩
  | cons part parts ih =>
    rw [List.foldlM_cons] at processed
    obtain ⟨w₁,first,rest⟩ := bind_ok_iff.mp processed
    obtain ⟨grid,pumps⟩ := process_ok first
    obtain ⟨grid',pumps'⟩ := ih rest
    refine ⟨?_,pumps.trans pumps'⟩
    unfold DamageGrid.processAll at grid' ⊢
    rw [List.foldlM_cons,grid]
    exact grid'

theorem pump_ok {batch : Bytes} (pumped : w.pump batch = .ok w') :
    w.grid.processAll (parts batch) = .ok w'.grid ∧ w.Pumps w' := foldlM_process_ok (w.pump_eq batch ▸ pumped)

/-- A batch that is fed is pumped, recorded and its events forwarded. -/
theorem feed_ok {answers : Nat → ReplyAnswer} {batch : Bytes} (fed : w.feed answers batch = .ok w') :
    if w.finalized then w' = { w with droppedAfterDrain := w.droppedAfterDrain + 1 }
    else ∃ p, w.pump batch = .ok p ∧ w.emits batch = p.grid.grid.passthrough ∧
      w' = ((p.recordBatch batch).forwardEvents answers).bumpRevision := by
  unfold feed at fed
  split
  case isTrue finalized => rw [if_pos finalized] at fed; cases fed; rfl
  case isFalse finalized =>
    rw [if_neg finalized] at fed
    obtain ⟨p,pumped,same⟩ := bind_ok_iff.mp fed
    cases same
    exact ⟨p,pumped,by simp [emits,pumped],rfl⟩

end Worker

end

end Termpane
