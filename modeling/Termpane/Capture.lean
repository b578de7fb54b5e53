import Termpane.Driving
import Termpane.Outcome

/-!
# Complete captures

The end of the stream travels behind all the output, through a bounded queue that is
drained in slices by the worker's tick and by its shutdown. An outcome that reports a
clean end is therefore complete, whatever made the worker finalize.
-/
namespace Termpane

open Lib

/-- The output a message carries. -/
def DataMsg.payload : DataMsg → Bytes
  | .bytes batch => batch
  | .streamEnd _ => []

/-- The reader will not read again. -/
def ReaderPc.over : ReaderPc → Bool
  | .reading => false
  | .sending msg => msg.isEnd
  | .counting last => last
  | .leaving | .gone => true

/-- The message the reader is about to send. -/
def ReaderPc.outbound : ReaderPc → List DataMsg
  | .sending msg => [msg]
  | _ => []

/-- The message the worker has taken. -/
def WorkerPc.inHand : WorkerPc → List DataMsg
  | .holding msg _ _ => [msg]
  | _ => []

section
variable [Vte]

namespace Session
variable {s t : Session}

/-- The messages between the reader's last read and the worker's arms, oldest first. -/
def flight (s : Session) : List DataMsg := s.pc.inHand ++ s.queue ++ s.reader.outbound

/-- What holds of the data in flight. -/
structure InOrder (s : Session) : Prop where
  /-- Nothing that was read is lost, and nothing comes twice. -/
  conserved : s.worker.finalized = false → s.history.read = s.history.fed ++ s.flight.flatMap DataMsg.payload
  closed : s.pc = .gone → s.worker.finalized = true
  reading : s.reader.over = false → (∀ msg ∈ s.flight, msg.isEnd = false) ∧ s.worker.streamEnd ≠ some .cleanEof
  /-- The end of the stream travels last. -/
  last : ∀ before kind after, s.flight = before ++ .streamEnd kind :: after → after = []
  eof : s.worker.finalized = false → s.worker.streamEnd = some .cleanEof → s.flight = []
  unpublished : s.worker.finalized = false → s.worker.shared.outcome = none
  complete : ∀ o, s.worker.shared.outcome = some o → o.stream = .cleanEof →
    s.reader.over = true ∧ s.history.fed = s.history.read

theorem inOrder_new (config : WorkerConfig) : (new config).InOrder where
  conserved _ := rfl
  closed gone := nomatch gone
  reading _ := ⟨fun _ inside => (nomatch inside),fun ended => nomatch ended⟩
  last before kind after split := by cases (List.append_eq_nil_iff.mp (split : [] = _).symm).2
  eof _ ended := nomatch ended
  unpublished _ := rfl
  complete _ published := nomatch published

/-- A step that moves no message and changes nothing final. -/
theorem InOrder.of_same (order : s.InOrder) (flight : t.flight = s.flight) (isOver : t.reader.over = s.reader.over)
    (finality : t.worker.finality = s.worker.finality) (fed : t.history.fed = s.history.fed)
    (read : t.history.read = s.history.read) (closed : t.pc = .gone → s.pc = .gone) : t.InOrder := by
  obtain ⟨finalized,streamEnd,_,outcome⟩ := Worker.finality_eq finality
  refine ⟨?_,?_,?_,?_,?_,?_,?_⟩
  · rw [finalized,flight,fed,read]; exact order.conserved
  · rw [finalized]; exact fun gone => order.closed (closed gone)
  · rw [isOver,flight,streamEnd]; exact order.reading
  · rw [flight]; exact order.last
  · rw [finalized,streamEnd,flight]; exact order.eof
  · rw [finalized,outcome]; exact order.unpublished
  · rw [outcome,isOver,fed,read]; exact order.complete

theorem InOrder.read (order : s.InOrder) (answer : ReadAnswer) : (s.read answer).InOrder := by
  unfold Session.read
  split
  case h_2 => exact order
  case h_1 reading =>
    have open_ : s.reader.over = false := by rw [reading]; rfl
    have flight : s.flight = s.pc.inHand ++ s.queue := by
      unfold Session.flight; rw [reading]; exact List.append_nil _
    obtain ⟨none,notEof⟩ := order.reading open_
    have incomplete : ∀ o, s.worker.shared.outcome = some o → o.stream ≠ .cleanEof := by
      intro o published clean
      rw [(order.complete o published clean).1] at open_
      cases open_
    -- the reader has seen the end of the stream
    have ending (kind : StreamEndKind) : { s with reader := .sending (.streamEnd kind) }.InOrder := by
      have longer : { s with reader := .sending (.streamEnd kind) }.flight = s.flight ++ [.streamEnd kind] := by rw [flight]; rfl
      refine ⟨fun running => ?_,order.closed,fun reading => (nomatch reading),fun before kind' after split => ?_,
        fun _ ended => absurd ended notEof,order.unpublished,fun o published clean => absurd clean (incomplete o published)⟩
      · rw [longer,List.flatMap_append]
        exact (order.conserved running).trans (List.append_nil _).symm |>.trans (List.append_assoc _ _ _)
      · rw [longer] at split
        rcases List.eq_nil_or_concat after with rfl | ⟨after,msg,rfl⟩
        · rfl
        · rw [List.concat_eq_append,← List.cons_append,← List.append_assoc] at split
          have inside : DataMsg.streamEnd kind' ∈ s.flight := by rw [(List.append_inj' split rfl).1]; simp
          cases none _ inside
    split
    · dsimp only
      split
      · exact ending _
      case isFalse some =>
        have longer (batch : Bytes) (history : History) :
            { s with reader := .sending (.bytes batch), history := history }.flight = s.flight ++ [.bytes batch] := by
          rw [flight]; rfl
        have noEnd {batch : Bytes} : ∀ msg ∈ s.flight ++ [.bytes batch], msg.isEnd = false := by
          intro msg inside
          rcases List.mem_append.mp inside with before | last
          · exact none msg before
          · rw [List.mem_singleton.mp last]; rfl
        refine ⟨fun running => ?_,order.closed,fun _ => ⟨?_,notEof⟩,fun before kind after split => ?_,
          fun _ ended => absurd ended notEof,order.unpublished,fun o published clean => absurd clean (incomplete o published)⟩
        · rw [longer,List.flatMap_append,← List.append_assoc,← order.conserved running,List.flatMap_singleton]
          rfl
        · rw [longer]; exact noEnd
        · rw [longer] at split
          have isEnd := noEnd (.streamEnd kind) (by rw [split]; simp)
          cases isEnd
    · exact order
    · exact ending _
    · exact ending _

theorem InOrder.send (order : s.InOrder) : s.send.InOrder := by
  unfold Session.send
  split
  case h_2 => exact order
  case h_1 msg sending =>
    have flight : s.flight = s.pc.inHand ++ s.queue ++ [msg] := by unfold Session.flight; rw [sending]; rfl
    split
    case isTrue gone =>
      have final := order.closed gone
      refine ⟨fun running => ?_,order.closed,fun reading => (nomatch reading),fun before kind after split => ?_,
        fun running => ?_,order.unpublished,fun o published clean => ⟨rfl,(order.complete o published clean).2⟩⟩
      · rw [final] at running; cases running
      · have longer : s.flight = before ++ .streamEnd kind :: (after ++ [msg]) := by
          rw [flight,show s.pc.inHand ++ s.queue = before ++ .streamEnd kind :: after from (List.append_nil _).symm.trans split]
          simp
        exact (List.append_eq_nil_iff.mp (order.last _ _ _ longer)).1
      · rw [final] at running; cases running
    case isFalse =>
      split
      case isFalse => exact order
      case isTrue =>
        refine order.of_same ?_ (by rw [sending]; rfl) rfl rfl rfl id
        rw [flight]
        exact (List.append_nil _).trans (List.append_assoc _ _ _).symm

theorem InOrder.count (order : s.InOrder) : s.count.InOrder := by
  unfold Session.count
  split
  case h_2 => exact order
  case h_1 last counting =>
    refine order.of_same ?_ ?_ rfl rfl rfl id
    · unfold Session.flight; rw [counting]; cases last <;> rfl
    · rw [counting]; cases last <;> rfl

theorem InOrder.leave (order : s.InOrder) : s.leave.InOrder := by
  unfold Session.leave
  split
  case isFalse => exact order
  case isTrue leaving => exact order.of_same (by unfold Session.flight; rw [leaving]; rfl) (by rw [leaving]; rfl) rfl rfl rfl id

theorem InOrder.readerLost (order : s.InOrder) : s.readerLost.InOrder := by
  unfold Session.readerLost
  split
  case isFalse => exact order
  case isTrue reading =>
    have flight : { s with reader := .gone }.flight = s.flight := by unfold Session.flight; rw [reading]; rfl
    have open_ : s.reader.over = false := by rw [reading]; rfl
    refine ⟨?_,order.closed,fun open_ => (nomatch open_),?_,?_,order.unpublished,fun o published clean => ?_⟩
    · rw [flight]; exact order.conserved
    · rw [flight]; exact order.last
    · rw [flight]; exact order.eof
    · exact ⟨rfl,(order.complete o published clean).2⟩

theorem InOrder.serve (order : s.InOrder) {answer : CtlAnswer} (served : s.serve answer = .ok t) : t.InOrder := by
  unfold Session.serve at served
  split at served
  case h_2 => cases served; exact order
  case h_1 call op ctl top _ =>
    obtain ⟨⟨worker,reply⟩,handled,rest⟩ := bind_ok_iff.mp served
    have finality := (Worker.handleCtl_obeys handled).finality
    have flight : s.flight = s.queue ++ s.reader.outbound := by unfold Session.flight; rw [top]; rfl
    cases reply with
    | some reply => cases rest; exact order.of_same flight.symm rfl finality rfl rfl fun gone => nomatch gone
    | none =>
      cases rest
      refine order.of_same ?_ rfl finality rfl rfl ?_
      · rw [flight]; unfold beginShutdown Session.flight; dsimp only; split <;> rfl
      · unfold beginShutdown; dsimp only; split <;> exact fun gone => nomatch gone

theorem InOrder.timeout (order : s.InOrder) : s.timeout.InOrder := by
  unfold Session.timeout
  split
  case isFalse => exact order
  case isTrue idle =>
    exact order.of_same (by unfold Session.flight; rw [idle.1]; rfl) rfl rfl rfl rfl fun gone => nomatch gone

theorem InOrder.abort (order : s.InOrder) : s.abort.InOrder := by
  unfold Session.abort
  split
  case isFalse => exact order
  case isTrue top =>
    refine order.of_same ?_ rfl rfl rfl rfl ?_
    · unfold beginShutdown Session.flight; dsimp only; rw [top]; split <;> rfl
    · unfold beginShutdown; dsimp only; split <;> exact fun gone => nomatch gone

/-- The end of the stream is noted, and no clean end that was not there. -/
theorem InOrder.noteEnd (order : s.InOrder) {kind : StreamEndKind} (flight : t.flight.flatMap DataMsg.payload =
      s.flight.flatMap DataMsg.payload) (isOver : t.reader.over = true)
    (ends : ∀ before kind after, t.flight = before ++ .streamEnd kind :: after → after = [])
    (eof : s.worker.finalized = false → (s.worker.streamEnd.or (some kind)) = some .cleanEof → t.flight = [])
    (worker : t.worker = s.worker.endStream kind) (history : t.history = s.history) (closed : t.pc = .gone → s.pc = .gone) :
    t.InOrder := by
  refine ⟨?_,?_,?_,ends,?_,?_,?_⟩
  · rw [worker,flight,history]; exact order.conserved
  · rw [worker]; exact fun gone => order.closed (closed gone)
  · rw [isOver]; exact fun open_ => nomatch open_
  · rw [worker]; exact eof
  · rw [worker]; exact order.unpublished
  · rw [worker,history]; exact fun o published clean => ⟨isOver,(order.complete o published clean).2⟩

theorem InOrder.receive (order : s.InOrder) : s.receive.InOrder := by
  unfold Session.receive
  split
  case h_2 => exact order
  case h_1 budget last draining =>
    have flight : s.flight = s.queue ++ s.reader.outbound := by unfold Session.flight; rw [draining]; rfl
    have after (worker : Worker) : { s with worker := worker, pc := drained last }.flight = s.flight := by
      rw [flight]; cases last <;> rfl
    split
    case h_1 msg queue queued =>
      refine order.of_same ?_ rfl rfl rfl rfl fun gone => nomatch gone
      rw [flight,queued]
      rfl
    case h_2 empty =>
      have stays : ∀ worker, { s with worker := worker, pc := drained last }.pc = .gone → s.pc = .gone := by
        intro _ gone; cases last <;> cases gone
      split
      case isTrue gone =>
        have none : s.flight = [] := by rw [flight,empty,gone]; rfl
        refine order.noteEnd (by rw [after]) (by change s.reader.over = true; rw [gone]; rfl) (by rw [after]; exact order.last)
          (fun _ _ => (after _).trans none) rfl rfl (stays _)
      case isFalse => exact order.of_same (after _) rfl rfl rfl rfl (stays _)

/-- Finalization: a clean end was told of, so nothing is in flight. -/
theorem InOrder.finish (order : s.InOrder) {otherwise : StreamState} (not : otherwise ≠ .cleanEof)
    (running : s.worker.finalized = false) (flight : t.flight = s.flight) (reader : t.reader = s.reader)
    (history : t.history = s.history) (final : t.worker.finalized = true)
    (outcome : ∃ o, t.worker.shared.outcome = some o ∧ o.stream = s.worker.endOr otherwise)
    (streamEnd : t.worker.streamEnd = s.worker.streamEnd) : t.InOrder := by
  have done {P : Prop} (running : t.worker.finalized = false) : P := by rw [final] at running; cases running
  refine ⟨done,fun _ => final,?_,?_,done,done,fun o published clean => ?_⟩
  · rw [reader,flight,streamEnd]; exact order.reading
  · rw [flight]; exact order.last
  · obtain ⟨o',published',stream⟩ := outcome
    cases published.symm.trans published'
    have ended := (Worker.endOr_cleanEof not).mp (stream.symm.trans clean)
    have none := order.eof running ended
    have whole := order.conserved running
    rw [none,List.flatMap_nil,List.append_nil] at whole
    rw [reader,history]
    refine ⟨?_,whole.symm⟩
    cases isOver : s.reader.over with
    | true => rfl
    | false => exact absurd ended (order.reading isOver).2

theorem InOrder.poll (order : s.InOrder) (child : ChildPoll) (now : Nat) : (s.poll child now).InOrder := by
  unfold Session.poll
  split
  case isFalse => exact order
  case isTrue polling =>
    have flight (worker : Worker) : { s with worker := worker, pc := .top }.flight = s.flight := by
      unfold Session.flight; rw [polling]; rfl
    obtain ⟨_,_,same⟩ | ⟨running,_,_,_,same⟩ := s.worker.pollExitState_eq child now
    · rw [same]; exact order.of_same (flight _) rfl rfl rfl rfl fun gone => nomatch gone
    · rw [same]
      exact order.finish (show StreamState.drainExpired ≠ .cleanEof by decide) running (flight _) rfl rfl rfl
        ⟨_,Shared.publishOutcome_of_none (order.unpublished running) _,rfl⟩ rfl

theorem InOrder.close (order : s.InOrder) (polled : Option ExitStatus) : (s.close polled).InOrder := by
  unfold Session.close
  split
  case isFalse => exact order
  case isTrue closing =>
    have flight (worker : Worker) : { s with worker := worker, pc := .gone }.flight = s.flight := by
      unfold Session.flight; rw [closing]; rfl
    obtain ⟨final,same⟩ | ⟨running,_,_,same⟩ := s.worker.finishShutdown_eq polled
    · rw [same]
      have done {P : Prop} (running : s.worker.finalized = false) : P := by rw [final] at running; cases running
      refine ⟨done,fun _ => final,?_,?_,done,done,order.complete⟩
      · rw [flight]; exact order.reading
      · rw [flight]; exact order.last
    · rw [same]
      exact order.finish (show StreamState.aborted ≠ .cleanEof by decide) running (flight _) rfl rfl rfl
        ⟨_,Shared.publishOutcome_of_none (order.unpublished running) _,rfl⟩ rfl

variable [UnicodeWidth]

theorem InOrder.take (order : s.InOrder) {answers : Nat → ReplyAnswer} (taken : s.take answers = .ok t) : t.InOrder := by
  unfold Session.take at taken
  split at taken
  case h_2 => cases taken; exact order
  case h_1 msg budget last holding =>
    have flight : s.flight = msg :: (s.queue ++ s.reader.outbound) := by unfold Session.flight; rw [holding]; rfl
    cases msg with
    | streamEnd kind =>
      cases taken
      have none : s.queue ++ s.reader.outbound = [] := order.last [] kind _ flight
      refine order.noteEnd ?_ ?_ (fun before kind after split => ?_) (fun _ _ => none) rfl rfl fun gone => nomatch gone
      · rw [flight]; rfl
      · change s.reader.over = true
        cases isOver : s.reader.over with
        | true => rfl
        | false => cases (order.reading isOver).1 (.streamEnd kind) (by rw [flight]; exact List.mem_cons_self)
      · exact order.last (.streamEnd _ :: before) kind after (by rw [flight]; exact congrArg (_ :: ·) split)
    | bytes batch =>
      obtain ⟨worker,fed,rest⟩ := bind_ok_iff.mp taken
      cases rest
      obtain ⟨finalized,streamEnd,_,outcome⟩ := Worker.finality_eq (Worker.feed_finality fed)
      have shorter {w : Worker} {inflight : UInt64} {history : History} {budget' : Nat} :
          { s with inflight := inflight, worker := w, history := history,
                   pc := if budget' = 0 then drained last else .draining budget' last }.flight =
            s.queue ++ s.reader.outbound := by
        unfold Session.flight
        dsimp only
        split
        · cases last <;> rfl
        · rfl
      have inside {msg : DataMsg} (inside : msg ∈ s.queue ++ s.reader.outbound) : msg ∈ s.flight := by
        rw [flight]; exact List.mem_cons_of_mem _ inside
      refine ⟨fun running => ?_,fun gone => ?_,fun open_ => ?_,fun before kind after split => ?_,fun running ended => ?_,?_,
        fun o published clean => ?_⟩
      · have running : s.worker.finalized = false := finalized.symm.trans running
        rw [shorter]
        dsimp only
        rw [running,order.conserved running,flight,List.flatMap_cons,← List.append_assoc]
        rfl
      · dsimp only at gone
        split at gone
        · cases last <;> cases gone
        · cases gone
      · rw [shorter]
        have old := order.reading open_
        exact ⟨fun msg within => old.1 msg (inside within),by rw [show worker.streamEnd = _ from streamEnd]; exact old.2⟩
      · rw [shorter] at split
        exact order.last (.bytes batch :: before) kind after (by rw [flight,split]; rfl)
      · have none := order.eof (finalized.symm.trans running) (streamEnd.symm.trans ended)
        rw [flight] at none
        cases none
      · intro running
        exact outcome.trans (order.unpublished (finalized.symm.trans running))
      · have old := order.complete o (outcome.symm.trans published) clean
        have final : s.worker.finalized = true := by
          cases running : s.worker.finalized with
          | true => rfl
          | false => cases (order.unpublished running).symm.trans (outcome.symm.trans published)
        dsimp only
        rw [final]
        exact old

theorem InOrder.step (order : s.InOrder) {a : Label} (taken : s.step a = .ok t) : t.InOrder := by
  cases a with
  | read answer => cases taken; exact order.read answer
  | send => cases taken; exact order.send
  | count => cases taken; exact order.count
  | leave => cases taken; exact order.leave
  | readerLost => cases taken; exact order.readerLost
  | call op => cases taken; exact order.of_same rfl rfl rfl rfl rfl id
  | giveUp call =>
    cases taken
    unfold Session.giveUp
    split
    · exact order.of_same rfl rfl rfl rfl rfl id
    · exact order
  | serve answer => exact order.serve taken
  | timeout => cases taken; exact order.timeout
  | abort => cases taken; exact order.abort
  | receive => cases taken; exact order.receive
  | take answers => exact order.take taken
  | poll child now => cases taken; exact order.poll child now
  | close polled => cases taken; exact order.close polled

theorem run_inOrder (order : s.InOrder) {labels : List Label} (ran : s.run labels = .ok t) : t.InOrder :=
  run_keeps (fun _ _ _ order taken => order.step taken) order ran

/-- If the published outcome reports a clean end, what was fed is what was read: all
    of it, once and in order, and the grid is what calls with these bytes make of a new
    one. It is counted, and recorded as far as the log goes. -/
theorem cleanEof_complete {config : WorkerConfig} {labels : List Label} (ran : (new config).run labels = .ok s)
    {o : CaptureOutcome} (published : s.worker.shared.outcome = some o) (clean : o.stream = .cleanEof) :
    s.history.fed = s.history.read ∧
      (∃ run : List Call, (DamageGrid.new config.rows config.cols config.scrollback).calls run = .ok s.worker.grid ∧
        typed (script run) = s.history.read) ∧
      s.worker.bytesPumped = s.history.read.length ∧ o.bytesPumped = s.history.read.length ∧
      (config.recordOutput = true → s.history.read.length ≤ config.outputCapBytes → s.worker.outputLog = s.history.read) := by
  have order := run_inOrder (inOrder_new config) ran
  have complete := (order.complete o published clean).2
  have log := (run_accounts (s := new config) (Worker.accounts_new config) ran).log
  obtain ⟨_,outputCap,recording⟩ : s.worker.eventCap = config.eventCap ∧
      s.worker.outputCapBytes = config.outputCapBytes ∧ s.worker.recordOutput = config.recordOutput := by
    simpa [Worker.settings,new,Worker.new] using run_settings ran
  rw [complete] at log
  have counted : o.bytesPumped = s.worker.bytesPumped := by
    have settled := run_settled (s := new config) (Worker.settled_new config) ran
    cases final : s.worker.finalized with
    | false => cases published.symm.trans (settled.running final)
    | true =>
      obtain ⟨o',published',_,pumped,_⟩ := settled.final final
      cases published.symm.trans published'
      exact pumped
  obtain ⟨run,reached,bytes,_⟩ := run_driven ran
  refine ⟨complete,⟨run,reached,bytes.trans complete⟩,log.pumped,counted.trans log.pumped,fun records under => ?_⟩
  have kept := log.kept (recording.trans records)
  rwa [outputCap,List.take_of_length_le under] at kept
end Session

end

section
attribute [local instance] byteParser blockWidth

/-- Two batches and the end of the stream are drained by one tick, the child having
    exited. -/
theorem cleanEof_complete_drained : ∃ s o,
    (Session.new ⟨3,2,0,true,4,100⟩).run [.read (.data [0x41,0x42]),.send,.count,.read (.data [0x43]),.send,.count,
      .read (.error .eio),.send,.count,.timeout,.receive,.take fun _ => {},.receive,.take fun _ => {},.receive,
      .take fun _ => {},.receive,.poll ⟨some ⟨0,none⟩,7⟩ 7] = .ok s ∧
      s.worker.shared.outcome = some o ∧ o.stream = .cleanEof ∧
      s.history.fed = s.history.read ∧
      (∃ run : List Call, (DamageGrid.new 2 3 0).calls run = .ok s.worker.grid ∧ typed (script run) = s.history.read) ∧
      s.worker.bytesPumped = s.history.read.length ∧ o.bytesPumped = s.history.read.length ∧
      (true = true → s.history.read.length ≤ 100 → s.worker.outputLog = s.history.read) :=
  ⟨_,_,rfl,rfl,rfl,Session.cleanEof_complete (show (Session.new ⟨3,2,0,true,4,100⟩).run
    [.read (.data [0x41,0x42]),.send,.count,.read (.data [0x43]),.send,.count,
      .read (.error .eio),.send,.count,.timeout,.receive,.take fun _ => {},.receive,.take fun _ => {},.receive,
      .take fun _ => {},.receive,.poll ⟨some ⟨0,none⟩,7⟩ 7] = .ok _ from rfl) rfl rfl⟩

end

end Termpane
