import Termpane.Worker

/-!
# A session

The threads of a session and the two channels between them, one step of one thread at
a time: the reader (`run_reader`), the worker (`run_worker`) and the callers of the
handle. A step that is not enabled leaves the session as it is. A label carries what
the system answers; that an answer may be any is what lets the flag of teardown, the
clock and the child do anything.
-/
namespace Termpane

open Lib

def readBatch : Nat := 8192
def dataQueueBatches : Nat := 8
def feedBudgetPerTick : Nat := 256 * 1024

/-- A failure of `read`. -/
inductive ReadError
  | interrupted
  | eio
  | other (msg : String)
  deriving DecidableEq, Repr

/-- What `read` returns; no data is the end of the stream. -/
inductive ReadAnswer
  | data (bytes : Bytes)
  | error (e : ReadError)
  deriving DecidableEq, Repr

/-- Where the reader is. A thread that is gone has dropped its end of the channel. -/
inductive ReaderPc
  | reading
  | sending (msg : DataMsg)
  | counting (last : Bool)
  | leaving
  | gone
  deriving DecidableEq, Repr

/-- Where the worker is: at the top of its loop, in the loop of `drain_data` before
    `try_recv` or with a message before `fetch_sub`, before `poll_exit_state`, in
    `shutdown_and_exit` after its drain. A drain knows what it is for. -/
inductive WorkerPc
  | top
  | draining (budget : Nat) (last : Bool)
  | holding (msg : DataMsg) (budget : Nat) (last : Bool)
  | polling
  | closing
  | gone
  deriving DecidableEq, Repr

/-- A message after which the reader sends no other. -/
def DataMsg.isEnd : DataMsg → Bool
  | .bytes _ => false
  | .streamEnd _ => true

/-- An answered call, and whether its caller was still waiting. A caller that waits
    takes an answer that is there. -/
structure Answered where
  call : Nat
  heard : Bool
  answer : Answer

/-- What happened so far: the bytes that `read` returned and that were fed to the grid,
    the events the grid emitted, and the calls answered. -/
structure History where
  read : Bytes := []
  fed : Bytes := []
  emitted : List PassthroughEvent := []
  answers : List Answered := []

inductive Label
  | read (answer : ReadAnswer)
  | send
  | count
  | leave
  | readerLost
  | call (op : CtlOp)
  | giveUp (call : Nat)
  | serve (answer : CtlAnswer)
  | timeout
  | abort
  | receive
  | take (answers : Nat → ReplyAnswer)
  | poll (child : ChildPoll) (now : Nat)
  | close (polled : Option ExitStatus)

section
variable [Vte]

structure Session where
  worker : Worker
  pc : WorkerPc := .top
  reader : ReaderPc := .reading
  queue : List DataMsg := []
  inflight : UInt64 := 0
  ctl : List (Nat × CtlOp) := []
  calls : Nat := 0
  gaveUp : List Nat := []
  history : History := {}

namespace Session

def new (config : WorkerConfig) : Session := { worker := .new config }

/-! ## The reader -/

/-- One turn of `run_reader` up to the message it sends. -/
def read (s : Session) (answer : ReadAnswer) : Session :=
  match s.reader with
  | .reading =>
    match answer with
    | .data bytes =>
      let batch := bytes.take readBatch
      if batch = [] then { s with reader := .sending (.streamEnd .cleanEof) }
      else { s with reader := .sending (.bytes batch), history.read := s.history.read ++ batch }
    | .error .interrupted => s
    | .error .eio => { s with reader := .sending (.streamEnd .cleanEof) }
    | .error (.other msg) => { s with reader := .sending (.streamEnd (.readFailed ("pty read failed: " ++ msg))) }
  | _ => s

/-- `send` of `send_counted`: it waits for room, and fails once the worker is gone. -/
def send (s : Session) : Session :=
  match s.reader with
  | .sending msg =>
    if s.pc = .gone then { s with reader := .leaving }
    else if s.queue.length < dataQueueBatches then { s with queue := s.queue ++ [msg], reader := .counting msg.isEnd }
    else s
  | _ => s

/-- `fetch_add` of `send_counted`. The end of the stream is the last message. -/
def count (s : Session) : Session :=
  match s.reader with
  | .counting last => { s with inflight := s.inflight + 1, reader := if last then .leaving else .reading }
  | _ => s

/-- The reader's thread ends. -/
def leave (s : Session) : Session := if s.reader = .leaving then { s with reader := .gone } else s

/-- The reader's thread dies in `read`. -/
def readerLost (s : Session) : Session := if s.reader = .reading then { s with reader := .gone } else s

/-! ## The handle -/

/-- A call sends its operation and waits. -/
def call (s : Session) (op : CtlOp) : Session := { s with ctl := s.ctl ++ [(s.calls,op)], calls := s.calls + 1 }

/-- A caller whose answer is not there gives up. -/
def giveUp (s : Session) (call : Nat) : Session :=
  if call < s.calls ∧ ∀ a ∈ s.history.answers, a.call ≠ call then { s with gaveUp := call :: s.gaveUp } else s

/-- `wait_revision` when it returns with success. -/
def waitRevision (s : Session) (target : Nat) : Option Nat :=
  if s.worker.shared.revision ≥ target then some s.worker.shared.revision else none

/-! ## The worker -/

/-- After a drain. -/
def drained (last : Bool) : WorkerPc := if last then .closing else .polling

/-- `shutdown_and_exit` up to its drain. -/
def beginShutdown (s : Session) : Session :=
  { s with pc := if s.worker.finalized then .closing else .draining feedBudgetPerTick true }

/-- The flag of teardown is seen, or the control channel is disconnected. -/
def abort (s : Session) : Session := if s.pc = .top then s.beginShutdown else s

/-- `recv_timeout` times out. -/
def timeout (s : Session) : Session :=
  if s.pc = .top ∧ s.ctl = [] then { s with pc := .draining feedBudgetPerTick false } else s

/-- `recv_timeout` returns an operation. -/
def serve (s : Session) (answer : CtlAnswer) : Checked Session :=
  match s.pc,s.ctl with
  | .top,(call,op) :: ctl => do
    let (worker,reply) ← s.worker.handleCtl s.inflight answer op
    let s := { s with worker := worker, ctl := ctl }
    match reply with
    | some reply =>
      return { s with
        pc := .draining feedBudgetPerTick false
        history.answers := s.history.answers ++ [⟨call,!s.gaveUp.contains call,reply⟩] }
    | none => return s.beginShutdown
  | _,_ => .ok s

/-- `try_recv`. -/
def receive (s : Session) : Session :=
  match s.pc with
  | .draining budget last =>
    match s.queue with
    | msg :: queue => { s with queue := queue, pc := .holding msg budget last }
    | [] =>
      if s.reader = .gone then { s with worker := s.worker.endStream (.readFailed "reader thread lost"), pc := drained last }
      else { s with pc := drained last }
  | _ => s

def poll (s : Session) (child : ChildPoll) (now : Nat) : Session :=
  if s.pc = .polling then { s with worker := s.worker.pollExitState child now, pc := .top } else s

def close (s : Session) (polled : Option ExitStatus) : Session :=
  if s.pc = .closing then { s with worker := s.worker.finishShutdown polled, pc := .gone } else s

variable [UnicodeWidth]

/-- `fetch_sub`, and the arm of the message. -/
def take (s : Session) (answers : Nat → ReplyAnswer) : Checked Session :=
  match s.pc with
  | .holding msg budget last =>
    let s := { s with inflight := s.inflight - 1 }
    match msg with
    | .bytes batch => do
      let budget := budget - batch.length
      let worker ← s.worker.feed answers batch
      return { s with
        worker := worker
        pc := if budget = 0 then drained last else .draining budget last
        history.fed := if s.worker.finalized then s.history.fed else s.history.fed ++ batch
        history.emitted := if s.worker.finalized then s.history.emitted else s.history.emitted ++ s.worker.emits batch }
    | .streamEnd kind => .ok { s with worker := s.worker.endStream kind, pc := .draining budget last }
  | _ => .ok s

/-- One step of one thread. -/
def step (s : Session) : Label → Checked Session
  | .read answer => .ok (s.read answer)
  | .send => .ok s.send
  | .count => .ok s.count
  | .leave => .ok s.leave
  | .readerLost => .ok s.readerLost
  | .call op => .ok (s.call op)
  | .giveUp call => .ok (s.giveUp call)
  | .serve answer => s.serve answer
  | .timeout => .ok s.timeout
  | .abort => .ok s.abort
  | .receive => .ok s.receive
  | .take answers => s.take answers
  | .poll child now => .ok (s.poll child now)
  | .close polled => .ok (s.close polled)

/-- Any interleaving of the threads. -/
def run (s : Session) (labels : List Label) : Checked Session := labels.foldlM step s

/-! ## What a step does -/

/-- The part of the history that the worker writes. -/
def told (s : Session) : Bytes × List PassthroughEvent × List Answered :=
  (s.history.fed,s.history.emitted,s.history.answers)

/-- The worker takes the end of the stream, or finds the reader gone without one. -/
def tellsEnd (s : Session) : Label → Bool
  | .take _ =>
    match s.pc with
    | .holding (.streamEnd _) _ _ => true
    | _ => false
  | .receive =>
    match s.pc,s.queue with
    | .draining _ _,[] => decide (s.reader = .gone)
    | _,_ => false
  | _ => false

/-- The batch a step takes. -/
def feeding (s : Session) : Label → Option Bytes
  | .take _ =>
    match s.pc with
    | .holding (.bytes batch) _ _ => some batch
    | _ => none
  | _ => none

/-- The call a step serves. -/
def serving (s : Session) : Label → Option (Nat × CtlOp)
  | .serve _ => if s.pc = .top then s.ctl.head? else none
  | _ => none

/-- What a step does to the worker, and records of it. -/
inductive Acts (s : Session) (a : Label) (t : Session) : Prop
  | idle (worker : t.worker = s.worker) (told : t.told = s.told)
  | feed (answers : Nat → ReplyAnswer) (batch : Bytes) (feeds : s.feeding a = some batch)
    (fed : s.worker.feed answers batch = .ok t.worker)
    (told : t.told = if s.worker.finalized then s.told
      else (s.history.fed ++ batch,s.history.emitted ++ s.worker.emits batch,s.history.answers))
  | endStream (kind : StreamEndKind) (tells : s.tellsEnd a = true) (worker : t.worker = s.worker.endStream kind) (told : t.told = s.told)
  | serve (answer : CtlAnswer) (call : Nat) (op : CtlOp) (ctl : List (Nat × CtlOp)) (reply : Option Answer)
    (serves : s.serving a = some (call,op)) (queued : s.ctl = (call,op) :: ctl)
    (served : s.worker.handleCtl s.inflight answer op = .ok (t.worker,reply))
    (told : t.told = (s.history.fed,s.history.emitted,
      s.history.answers ++ reply.toList.map fun reply => ⟨call,!s.gaveUp.contains call,reply⟩))
  | poll (child : ChildPoll) (now : Nat) (worker : t.worker = s.worker.pollExitState child now) (told : t.told = s.told)
  | close (polled : Option ExitStatus) (worker : t.worker = s.worker.finishShutdown polled) (told : t.told = s.told)

theorem step_acts {s t : Session} {a : Label} (taken : s.step a = .ok t) : s.Acts a t := by
  cases a with
  | read answer =>
    cases taken
    unfold read
    split
    · split
      · dsimp only; split <;> exact .idle rfl rfl
      all_goals exact .idle rfl rfl
    · exact .idle rfl rfl
  | send =>
    cases taken
    unfold send
    split
    · split
      · exact .idle rfl rfl
      · split <;> exact .idle rfl rfl
    · exact .idle rfl rfl
  | count =>
    cases taken
    unfold count
    split <;> exact .idle rfl rfl
  | leave =>
    cases taken
    unfold leave
    split <;> exact .idle rfl rfl
  | readerLost =>
    cases taken
    unfold readerLost
    split <;> exact .idle rfl rfl
  | call op => cases taken; exact .idle rfl rfl
  | giveUp call =>
    cases taken
    unfold giveUp
    split <;> exact .idle rfl rfl
  | serve answer =>
    change s.serve answer = .ok t at taken
    unfold serve at taken
    split at taken
    case h_1 call op ctl top queued =>
      have serves : s.serving (.serve answer) = some (call,op) := by simp [serving,top,queued]
      obtain ⟨⟨worker,reply⟩,served,rest⟩ := bind_ok_iff.mp taken
      cases reply with
      | some reply => cases rest; exact .serve answer call op ctl (some reply) serves queued served rfl
      | none =>
        cases rest
        exact .serve answer call op ctl none serves queued served (by simp [told,beginShutdown])
    case h_2 => cases taken; exact .idle rfl rfl
  | timeout =>
    cases taken
    unfold timeout
    split <;> exact .idle rfl rfl
  | abort =>
    cases taken
    unfold abort
    split
    · exact .idle rfl rfl
    · exact .idle rfl rfl
  | receive =>
    cases taken
    unfold receive
    split
    case h_1 budget last draining =>
      split
      case h_1 => exact .idle rfl rfl
      case h_2 empty =>
        split
        case isTrue gone => exact .endStream _ (by simp [tellsEnd,draining,empty,gone]) rfl rfl
        case isFalse => exact .idle rfl rfl
    case h_2 => exact .idle rfl rfl
  | take answers =>
    change s.take answers = .ok t at taken
    unfold take at taken
    split at taken
    case h_1 msg budget last holding =>
      cases msg with
      | bytes batch =>
        obtain ⟨worker,fed,rest⟩ := bind_ok_iff.mp taken
        cases rest
        refine .feed answers batch (by simp [feeding,holding]) fed ?_
        cases s.worker.finalized <;> rfl
      | streamEnd kind => cases taken; exact .endStream kind (by simp [tellsEnd,holding]) rfl rfl
    case h_2 => cases taken; exact .idle rfl rfl
  | poll child now =>
    cases taken
    unfold poll
    split
    · exact .poll child now rfl rfl
    · exact .idle rfl rfl
  | close polled =>
    cases taken
    unfold close
    split
    · exact .close polled rfl rfl
    · exact .idle rfl rfl

/-- What every step keeps, a run does. -/
theorem run_keeps {Inv : Session → Prop} {s t : Session} {labels : List Label}
    (keeps : ∀ s a t, Inv s → s.step a = .ok t → Inv t) (inv : Inv s) (ran : s.run labels = .ok t) : Inv t := by
  have ends : Ends Inv (fun _ => True) (s.run labels) := by
    refine run_ends (fun a _ s inv => ?_) inv
    cases taken : s.step a with
    | error e => trivial
    | ok t => exact keeps s a t inv taken
  exact ends.of_ok ran

end Session

end

end Termpane
