import Termpane.Accounting

/-!
# The outcome of a capture

Three places hold how the stream ended: the end the worker was told of, the state
frozen when it finalized, and the published outcome. They agree until the worker is
told of an end after it has given up on one.
-/
namespace Termpane

open Lib

/-- How an end is reported. -/
def StreamEndKind.state : StreamEndKind → StreamState
  | .cleanEof => .cleanEof
  | .readFailed msg => .readFailed msg

theorem Shared.publishOutcome_of_none {s : Shared} (none : s.outcome = none) (outcome : CaptureOutcome) :
    (s.publishOutcome outcome).outcome = some outcome := by simp [Shared.publishOutcome,none]

section
variable [Vte]

namespace Worker
variable {w w' : Worker}

/-- What is final about the capture. -/
def finality (w : Worker) : Bool × Option StreamEndKind × Option StreamState × Option CaptureOutcome :=
  (w.finalized,w.streamEnd,w.finalStream,w.shared.outcome)

theorem finality_eq (same : w'.finality = w.finality) : w'.finalized = w.finalized ∧ w'.streamEnd = w.streamEnd ∧
    w'.finalStream = w.finalStream ∧ w'.shared.outcome = w.shared.outcome := by simpa [finality] using same

theorem Obeys.finality {inflight : UInt64} {op : CtlOp} {reply : Option Answer} (obeys : w.Obeys inflight op w' reply) :
    w'.finality = w.finality := by cases obeys <;> rfl

theorem endOr_eq (w : Worker) (otherwise : StreamState) : w.endOr otherwise = (w.streamEnd.map StreamEndKind.state).getD otherwise := by
  unfold endOr
  split <;> rename_i ended <;> rw [ended] <;> rfl

theorem endOr_cleanEof {otherwise : StreamState} (not : otherwise ≠ .cleanEof) :
    w.endOr otherwise = .cleanEof ↔ w.streamEnd = some .cleanEof := by
  rw [endOr_eq]
  rcases w.streamEnd with _ | _ | msg
  · exact iff_of_false not (fun same => nomatch same)
  · exact iff_of_true rfl rfl
  · exact iff_of_false (fun same => nomatch same) (fun same => nomatch same)

theorem feed_finality [UnicodeWidth] {answers : Nat → ReplyAnswer} {batch : Bytes} (fed : w.feed answers batch = .ok w') :
    w'.finality = w.finality := by
  have ok := feed_ok fed
  split at ok
  · rw [ok]; rfl
  · obtain ⟨p,pumped,_,same⟩ := ok
    obtain ⟨_,_,_,_,rfl⟩ := (pump_ok pumped).2
    obtain ⟨_,_,_,recorded⟩ := recordBatch_eq { w with
      grid := _, frames := _, shared := { w.shared with frames := _ }, wasInSync := _ } batch
    obtain ⟨_,_,_,_,_,_,forwarded⟩ := forwardEvents_forwards (recordBatch _ batch) answers
    rw [same,forwarded,recorded]
    rfl

/-- What was published, and when: at finalization, with the stream and the count of
    that moment. -/
structure Settled (w : Worker) : Prop where
  running : w.finalized = false → w.shared.outcome = none
  final : w.finalized = true → ∃ o, w.shared.outcome = some o ∧ w.finalStream = some o.stream ∧
    o.bytesPumped = w.bytesPumped ∧ (w.streamEnd = none → o.stream = .drainExpired ∨ o.stream = .aborted)

theorem settled_new (config : WorkerConfig) : (new config).Settled := ⟨fun _ => rfl,fun final => nomatch final⟩

theorem Settled.of_same (settled : w.Settled) (same : w'.finality = w.finality)
    (pumped : w.finalized = true → w'.bytesPumped = w.bytesPumped) : w'.Settled := by
  obtain ⟨finalized,streamEnd,finalStream,outcome⟩ := finality_eq same
  refine ⟨?_,?_⟩
  · rw [finalized,outcome]; exact settled.running
  · rw [finalized,outcome,finalStream,streamEnd]
    intro final
    rw [pumped final]
    exact settled.final final

theorem Settled.endStream (settled : w.Settled) (kind : StreamEndKind) : (w.endStream kind).Settled := by
  refine ⟨settled.running,fun final => ?_⟩
  obtain ⟨o,published,stream,pumped,gaveUp⟩ := settled.final final
  refine ⟨o,published,stream,pumped,fun none => gaveUp ?_⟩
  unfold Worker.endStream at none
  exact (Option.or_eq_none_iff.mp none).1

/-- Finalization, with what is reported when no end was told of. -/
theorem Settled.finalize (settled : w.Settled) (running : w.finalized = false) {otherwise : StreamState}
    (gaveUp : otherwise = .drainExpired ∨ otherwise = .aborted) (exit : ExitStatus) :
    (w.finalize (w.endOr otherwise) exit).Settled := by
  refine ⟨fun running => (nomatch running),fun _ =>
    ⟨_,Shared.publishOutcome_of_none (settled.running running) _,rfl,rfl,fun none => ?_⟩⟩
  have ended : w.endOr otherwise = otherwise := by rw [endOr_eq,show w.streamEnd = _ from none]; rfl
  rw [ended]
  exact gaveUp

theorem Settled.pollExitState (settled : w.Settled) (child : ChildPoll) (now : Nat) : (w.pollExitState child now).Settled := by
  obtain ⟨_,_,same⟩ | ⟨running,exited,seen,exit,same⟩ := w.pollExitState_eq child now
  · rw [same]; exact settled.of_same rfl fun _ => rfl
  · rw [same]
    exact Settled.finalize (w := { w with exited := exited, exitSeenAt := seen }) (settled.of_same rfl fun _ => rfl) running
      (.inl rfl) exit

theorem Settled.finishShutdown (settled : w.Settled) (polled : Option ExitStatus) : (w.finishShutdown polled).Settled := by
  obtain ⟨_,same⟩ | ⟨running,exited,exit,same⟩ := w.finishShutdown_eq polled
  · rw [same]; exact settled.of_same rfl fun _ => rfl
  · rw [same]
    exact (Settled.finalize (w := { w with exited := exited }) (settled.of_same rfl fun _ => rfl) running (.inr rfl) exit).of_same
      rfl fun _ => rfl

theorem Obeys.bytesPumped {inflight : UInt64} {op : CtlOp} {reply : Option Answer} (obeys : w.Obeys inflight op w' reply) :
    w'.bytesPumped = w.bytesPumped := by cases obeys <;> rfl

theorem feed_finalized [UnicodeWidth] {answers : Nat → ReplyAnswer} {batch : Bytes} (fed : w.feed answers batch = .ok w')
    (final : w.finalized = true) : w' = { w with droppedAfterDrain := w.droppedAfterDrain + 1 } := by
  have ok := feed_ok fed
  rwa [if_pos final] at ok

/-- The reports agree: an end told of is the one published. -/
def Agrees (w : Worker) : Prop :=
  w.finalized = true → ∀ kind o, w.streamEnd = some kind → w.shared.outcome = some o → o.stream = kind.state

theorem Agrees.of_same (agrees : w.Agrees) (same : w'.finality = w.finality) : w'.Agrees := by
  obtain ⟨finalized,streamEnd,_,outcome⟩ := finality_eq same
  unfold Agrees
  rw [finalized,streamEnd,outcome]
  exact agrees

theorem agrees_finalize (running : w.shared.outcome = none) (otherwise : StreamState) (exit : ExitStatus) :
    (w.finalize (w.endOr otherwise) exit).Agrees := by
  intro _ kind o ended published
  cases (Shared.publishOutcome_of_none running _).symm.trans published
  rw [endOr_eq,show w.streamEnd = some kind from ended]
  rfl

/-- What an observation reports is what was published. -/
theorem streamState_of_agrees (settled : w.Settled) (agrees : w.Agrees) (final : w.finalized = true) :
    ∃ o, w.shared.outcome = some o ∧ w.streamState = o.stream := by
  obtain ⟨o,published,stream,_,_⟩ := settled.final final
  refine ⟨o,published,?_⟩
  unfold streamState
  rw [endOr_eq,stream]
  cases ended : w.streamEnd with
  | none => rfl
  | some kind => exact (agrees final kind o ended published).symm

end Worker

namespace Session
variable {s t : Session} {a : Label}

/-- The worker is told of an end after it has finalized without one. -/
def endsLate (s : Session) (a : Label) : Bool := s.worker.finalized && s.worker.streamEnd.isNone && s.tellsEnd a

variable [UnicodeWidth]

/-- Nothing that a message can still bring changes what was captured, and an
    observation reports the stream as it was published. -/
def Frozen (s : Session) : Prop :=
  (∀ answers t, s.take answers = .ok t →
    (t.worker.grid,t.worker.outputLog,t.worker.bytesPumped,t.worker.events) =
      (s.worker.grid,s.worker.outputLog,s.worker.bytesPumped,s.worker.events)) ∧
    ∃ o, s.worker.shared.outcome = some o ∧ (s.worker.observe s.inflight).completeness.stream = o.stream

theorem Acts.settled (acts : s.Acts a t) (settled : s.worker.Settled) : t.worker.Settled := by
  cases acts with
  | idle worker _ => rw [worker]; exact settled
  | feed _ batch _ ran _ =>
    exact settled.of_same (Worker.feed_finality ran) fun final => by rw [Worker.feed_finalized ran final]
  | endStream kind _ worker _ => rw [worker]; exact settled.endStream kind
  | serve _ _ _ _ _ _ _ served _ =>
    have obeys := Worker.handleCtl_obeys served
    exact settled.of_same obeys.finality fun _ => obeys.bytesPumped
  | poll child now worker _ => rw [worker]; exact settled.pollExitState child now
  | close polled worker _ => rw [worker]; exact settled.finishShutdown polled

theorem run_settled (settled : s.worker.Settled) {labels : List Label} (ran : s.run labels = .ok t) : t.worker.Settled := by
  exact run_keeps (fun s a t settled taken => (step_acts taken).settled settled) settled ran

theorem take_finalized {answers : Nat → ReplyAnswer} (taken : s.take answers = .ok t) (final : s.worker.finalized = true) :
    (t.worker.grid,t.worker.outputLog,t.worker.bytesPumped,t.worker.events) =
      (s.worker.grid,s.worker.outputLog,s.worker.bytesPumped,s.worker.events) := by
  unfold take at taken
  split at taken
  · dsimp only at taken
    split at taken
    · obtain ⟨worker,fed,rest⟩ := bind_ok_iff.mp taken
      cases rest
      rw [Worker.feed_finalized fed final]
    · cases taken; rfl
  · cases taken; rfl

theorem Acts.agrees (acts : s.Acts a t) (settled : s.worker.Settled) (agrees : s.worker.Agrees) (timely : s.endsLate a = false) :
    t.worker.Agrees := by
  cases acts with
  | idle worker _ => rw [worker]; exact agrees
  | feed _ batch _ ran _ => exact agrees.of_same (Worker.feed_finality ran)
  | serve _ _ _ _ _ _ _ served _ => exact agrees.of_same (Worker.handleCtl_obeys served).finality
  | poll child now worker _ =>
    rw [worker]
    obtain ⟨_,_,same⟩ | ⟨running,exited,seen,exit,same⟩ := s.worker.pollExitState_eq child now
    · rw [same]; exact agrees.of_same rfl
    · rw [same]
      exact Worker.agrees_finalize (w := { s.worker with exited := exited, exitSeenAt := seen }) (settled.running running) _ exit
  | close polled worker _ =>
    rw [worker]
    obtain ⟨_,same⟩ | ⟨running,exited,exit,same⟩ := s.worker.finishShutdown_eq polled
    · rw [same]; exact agrees.of_same rfl
    · rw [same]
      exact (Worker.agrees_finalize (w := { s.worker with exited := exited }) (settled.running running) _ exit).of_same rfl
  | endStream kind tells worker _ =>
    rw [worker]
    intro final kind' o ended published
    cases told : s.worker.streamEnd with
    | none => simp [endsLate,tells,told,show s.worker.finalized = true from final] at timely
    | some first =>
      have same : kind' = first := by simpa [Worker.endStream,told] using ended.symm
      exact same ▸ agrees final first o told published

/-- An end told of too late is reported in the place of the published stream. -/
theorem not_frozen_of_endsLate (settled : s.worker.Settled) (late : s.endsLate a = true) :
    ∃ t, s.step a = .ok t ∧ ¬ (t.worker.finalized = true → t.Frozen) := by
  obtain ⟨⟨final,none⟩,tells⟩ : (s.worker.finalized = true ∧ s.worker.streamEnd = none) ∧ s.tellsEnd a = true := by
    simpa [endsLate] using late
  obtain ⟨o,published,_,_,gaveUp⟩ := settled.final final
  have lies (t : Session) (kind : StreamEndKind) (worker : t.worker = s.worker.endStream kind) :
      ¬ (t.worker.finalized = true → t.Frozen) := by
    intro frozen
    rw [worker] at frozen
    obtain ⟨_,o',published',stream⟩ := frozen final
    cases published.symm.trans ((congrArg (·.shared.outcome) worker).symm.trans published')
    have reports : (t.worker.observe t.inflight).completeness.stream = kind.state := by
      rw [worker]
      change Worker.endOr _ _ = _
      rw [Worker.endOr_eq]
      simp [Worker.endStream,none]
    have same := stream.symm.trans reports
    rcases gaveUp none with gaveUp | gaveUp <;> rw [gaveUp] at same <;> cases kind <;> cases same
  unfold tellsEnd at tells
  split at tells
  case h_1 answers =>
    split at tells
    case h_1 kind budget last holding =>
      refine ⟨{ s with inflight := s.inflight - 1, worker := s.worker.endStream kind, pc := .draining budget last },?_,
        lies _ kind rfl⟩
      change s.take answers = _
      unfold Session.take
      rw [holding]
    case h_2 => cases tells
  case h_2 =>
    split at tells
    case h_1 budget last draining empty =>
      have gone : s.reader = .gone := by simpa using tells
      refine ⟨{ s with worker := s.worker.endStream (.readFailed "reader thread lost"), pc := drained last },?_,lies _ _ rfl⟩
      change Except.ok s.receive = _
      unfold Session.receive
      rw [draining,empty,gone]
      rfl
    case h_2 => cases tells
  case h_3 => cases tells

/-- After finalization the capture is as it was published, in every state of a run,
    exactly if the worker is never told of an end after it has given up on one. -/
theorem frozen_iff (config : WorkerConfig) (labels : List Label) :
    (∀ before after t, labels = before ++ after → (new config).run before = .ok t → t.worker.finalized = true → t.Frozen) ↔
      StepsMeet step (fun s a => s.endsLate a = false) (new config) labels := by
  refine run_always_iff (fun s : Session => s.worker.Settled ∧ s.worker.Agrees)
    (fun t : Session => t.worker.finalized = true → t.Frozen) (fun s inv final => ?_) (fun s a inv timely => ?_)
    (fun s a inv late => ?_) labels ⟨Worker.settled_new config,fun final => nomatch final⟩
  · exact ⟨fun answers t taken => take_finalized taken final,Worker.streamState_of_agrees inv.1 inv.2 final⟩
  · cases taken : s.step a with
    | error e => trivial
    | ok t => exact ⟨(step_acts taken).settled inv.1,(step_acts taken).agrees inv.1 inv.2 timely⟩
  · exact not_frozen_of_endsLate inv.1 (by simpa using late)

end Session

end

section
attribute [local instance] byteParser blockWidth

/-- The child exits while another process holds its terminal open; the grace passes,
    and the end of the stream comes after. -/
theorem late_eof_reported : ∃ s t o,
    (Session.new ⟨3,2,0,false,4,0⟩).run [.timeout,.receive,.poll ⟨some ⟨0,none⟩,0⟩ 0,.timeout,.receive,.poll {} 500] = .ok s ∧
      s.run [.read (.data []),.send,.count,.timeout,.receive,.take fun _ => {}] = .ok t ∧
      s.worker.shared.outcome = some o ∧ t.worker.shared.outcome = some o ∧ o.stream = .drainExpired ∧
      (t.worker.observe t.inflight).completeness.stream = .cleanEof ∧ t.worker.finalized = true ∧ ¬ t.Frozen := by
  refine ⟨_,_,_,rfl,rfl,rfl,rfl,rfl,rfl,rfl,?_⟩
  rintro ⟨_,o,published,same⟩
  cases published
  cases same

end

end Termpane
