import Termpane.ByteParser
import Termpane.Capture

/-!
# How a session ends

The reader may wait for room in the bounded queue, and for output; the worker waits for
neither. Told to exit, it is gone after a bounded number of its steps, however much output
keeps coming: its last drain has a budget. Then everything is published, and the reader,
whose messages nobody takes any more, is soon gone too.
-/
namespace Termpane

open Lib

/-- An element that can only be last is there at most once. -/
theorem countP_le_one {α : Type} {p : α → Bool} {l : List α}
    (last : ∀ before a after, l = before ++ a :: after → p a = true → after = []) : l.countP p ≤ 1 := by
  induction l with
  | nil => exact Nat.zero_le 1
  | cons a l ih =>
    cases kind : p a with
    | true =>
      obtain rfl : l = [] := last [] a l rfl kind
      exact List.countP_le_length
    | false =>
      rw [List.countP_cons_of_neg (by rw [kind]; exact Bool.false_ne_true)]
      exact ih fun before b after split => last (a :: before) b after (congrArg (a :: ·) split)

/-- A step of the worker. -/
def Label.byWorker : Label → Bool
  | .serve _ | .timeout | .abort | .receive | .take _ | .poll _ _ | .close _ => true
  | _ => false

/-- A step of the reader, unless it is a `read` that was interrupted. -/
def Label.byReader : Label → Bool
  | .read (.error .interrupted) => false
  | .read _ | .send | .count | .leave | .readerLost => true
  | _ => false

/-- The worker is in `shutdown_and_exit`. -/
def WorkerPc.exiting : WorkerPc → Bool
  | .draining _ last | .holding _ _ last => last
  | .closing | .gone => true
  | .top | .polling => false

/-- The steps of a worker that exits, when each batch takes from its budget. -/
def WorkerPc.left : WorkerPc → Nat
  | .draining budget _ => 2 * budget + 3
  | .holding _ budget _ => 2 * budget + 2
  | .closing => 1
  | .top | .polling | .gone => 0

/-- Where the worker is after its arms for a message. -/
def WorkerPc.next (budget : Nat) (last : Bool) : DataMsg → WorkerPc
  | .bytes batch => if budget - batch.length = 0 then Session.drained last else .draining (budget - batch.length) last
  | .streamEnd _ => .draining budget last

/-- Where a worker goes. -/
inductive WorkerPc.Goes : WorkerPc → WorkerPc → Prop
  | stay (pc : WorkerPc) : Goes pc pc
  | tick (last : Bool) : Goes .top (.draining feedBudgetPerTick last)
  | exit : Goes .top .closing
  | hold (msg : DataMsg) (budget : Nat) (last : Bool) : Goes (.draining budget last) (.holding msg budget last)
  | empty (budget : Nat) (last : Bool) : Goes (.draining budget last) (Session.drained last)
  | arms (msg : DataMsg) (budget : Nat) (last : Bool) : Goes (.holding msg budget last) (.next budget last msg)
  | polled : Goes .polling .top
  | closed : Goes .closing .gone

/-- The steps of a reader that sends to no one. -/
def ReaderPc.left : ReaderPc → Nat
  | .counting false => 4
  | .reading => 3
  | .sending _ | .counting true => 2
  | .leaving => 1
  | .gone => 0

section
variable [Vte]

namespace Session
variable {s t : Session} {a : Label} {config : WorkerConfig}

/-- A step can be taken: its thread is where it is taken. -/
def ready (s : Session) : Label → Bool
  | .read _ | .readerLost => decide (s.reader = .reading)
  | .send =>
    match s.reader with
    | .sending _ => decide (s.pc = .gone ∨ s.queue.length < dataQueueBatches)
    | _ => false
  | .count =>
    match s.reader with
    | .counting _ => true
    | _ => false
  | .leave => decide (s.reader = .leaving)
  | .call _ => true
  | .giveUp call => decide (call < s.calls)
  | .serve _ => decide (s.pc = .top) && !s.ctl.isEmpty
  | .timeout => decide (s.pc = .top) && s.ctl.isEmpty
  | .abort => decide (s.pc = .top)
  | .receive =>
    match s.pc with
    | .draining _ _ => true
    | _ => false
  | .take _ =>
    match s.pc with
    | .holding _ _ _ => true
    | _ => false
  | .poll _ _ => decide (s.pc = .polling)
  | .close _ => decide (s.pc = .closing)

/-! ## The messages in flight -/

/-- What a step does to the messages between the reader's `read` and the worker's arms. -/
inductive Moves (s t : Session) : Prop
  | stays (flight : t.flight = s.flight) (finished : s.reader.over = true → t.reader.over = true)
  | reads (msg : DataMsg) (reading : s.reader.over = false) (some : msg ≠ .bytes []) (flight : t.flight = s.flight ++ [msg])
    (finished : t.reader.over = msg.isEnd)
  | drops (msg : DataMsg) (flight : s.flight = t.flight ++ [msg]) (finished : t.reader.over = true)
  | takes (msg : DataMsg) (budget : Nat) (last : Bool) (holding : s.pc = .holding msg budget last)
    (flight : s.flight = msg :: t.flight) (reader : t.reader = s.reader)

theorem flight_worker (none : s.pc.inHand = []) (none' : t.pc.inHand = []) (queue : t.queue = s.queue)
    (reader : t.reader = s.reader) : t.flight = s.flight := by
  unfold flight
  rw [none,none',queue,reader]

omit [Vte] in
theorem inHand_drained (last : Bool) : (drained last).inHand = [] := by cases last <;> rfl

theorem inHand_beginShutdown (s : Session) : s.beginShutdown.pc.inHand = [] := by
  unfold beginShutdown
  dsimp only
  split <;> rfl

theorem read_moves (s : Session) (answer : ReadAnswer) : s.Moves (s.read answer) := by
  unfold read
  split
  case h_2 => exact .stays rfl id
  case h_1 reading =>
    have finished : s.reader.over = false := by rw [reading]; rfl
    have flight : s.flight = s.pc.inHand ++ s.queue := by
      unfold Session.flight
      rw [reading]
      exact List.append_nil _
    cases answer with
    | data bytes =>
      dsimp only
      split
      · exact .reads (.streamEnd .cleanEof) finished (fun h => nomatch h) (by rw [flight]; rfl) rfl
      case isFalse some => exact .reads (.bytes _) finished (fun none => some (DataMsg.bytes.inj none)) (by rw [flight]; rfl) rfl
    | error e =>
      cases e with
      | interrupted => exact .stays rfl id
      | eio => exact .reads (.streamEnd .cleanEof) finished (fun h => nomatch h) (by rw [flight]; rfl) rfl
      | other msg => exact .reads (.streamEnd (.readFailed _)) finished (fun h => nomatch h) (by rw [flight]; rfl) rfl

theorem send_moves (s : Session) : s.Moves s.send := by
  unfold send
  split
  case h_2 => exact .stays rfl id
  case h_1 msg sending =>
    have flight : s.flight = s.pc.inHand ++ s.queue ++ [msg] := by
      unfold Session.flight
      rw [sending]
      rfl
    split
    · refine .drops msg ?_ rfl
      rw [flight]
      exact congrArg (· ++ [msg]) (List.append_nil _).symm
    · split
      · refine .stays ?_ ?_
        · rw [flight]
          exact (List.append_nil _).trans (List.append_assoc _ _ _).symm
        · rw [sending]
          exact id
      · exact .stays rfl id

theorem receive_moves (s : Session) : s.Moves s.receive := by
  unfold receive
  split
  case h_2 => exact .stays rfl id
  case h_1 budget last draining =>
    have none : s.pc.inHand = [] := by rw [draining]; rfl
    split
    case h_1 msg queue queued =>
      refine .stays ?_ id
      unfold flight
      rw [none,queued]
      rfl
    case h_2 =>
      split
      · exact .stays (flight_worker none (inHand_drained last) rfl rfl) id
      · exact .stays (flight_worker none (inHand_drained last) rfl rfl) id

theorem take_held [UnicodeWidth] {answers : Nat → ReplyAnswer} {msg : DataMsg} {budget : Nat} {last : Bool}
    (holding : s.pc = .holding msg budget last) (taken : s.take answers = .ok t) :
    s.flight = msg :: t.flight ∧ t.reader = s.reader ∧
      t.pc = .next budget last msg := by
  have flight {worker : Worker} {inflight : UInt64} {pc : WorkerPc} {history : History} (none : pc.inHand = []) :
      s.flight = msg :: { s with worker := worker, inflight := inflight, pc := pc, history := history }.flight := by
    unfold Session.flight
    rw [holding,none]
    rfl
  simp only [take,holding] at taken
  cases msg with
  | streamEnd kind =>
    cases taken
    exact ⟨flight rfl,rfl,rfl⟩
  | bytes batch =>
    obtain ⟨worker,fed,rest⟩ := bind_ok_iff.mp taken
    cases rest
    refine ⟨flight ?_,rfl,rfl⟩
    split
    · exact inHand_drained last
    · rfl

theorem take_moves [UnicodeWidth] {answers : Nat → ReplyAnswer} (taken : s.take answers = .ok t) : s.Moves t := by
  cases pc : s.pc with
  | holding msg budget last =>
    obtain ⟨flight,reader,_⟩ := take_held pc taken
    exact .takes msg budget last pc flight reader
  | _ =>
    simp only [take,pc] at taken
    cases taken
    exact .stays rfl id

theorem step_moves [UnicodeWidth] (taken : s.step a = .ok t) : s.Moves t := by
  cases a with
  | read answer => cases taken; exact s.read_moves answer
  | send => cases taken; exact s.send_moves
  | count =>
    cases taken
    unfold count
    split
    case h_2 => exact .stays rfl id
    case h_1 last counting =>
      refine .stays ?_ ?_
      · unfold flight
        rw [counting]
        cases last <;> rfl
      · rw [counting]
        cases last with
        | false => exact fun finished => nomatch finished
        | true => exact fun _ => rfl
  | leave =>
    cases taken
    unfold leave
    split
    case isFalse => exact .stays rfl id
    case isTrue leaving =>
      refine .stays ?_ fun _ => rfl
      unfold flight
      rw [leaving]
      rfl
  | readerLost =>
    cases taken
    unfold readerLost
    split
    case isFalse => exact .stays rfl id
    case isTrue reading =>
      refine .stays ?_ fun _ => rfl
      unfold flight
      rw [reading]
      rfl
  | call op => cases taken; exact .stays rfl id
  | giveUp call =>
    cases taken
    unfold giveUp
    split
    · exact .stays rfl id
    · exact .stays rfl id
  | serve answer =>
    change s.serve answer = .ok t at taken
    unfold serve at taken
    split at taken
    case h_2 => cases taken; exact .stays rfl id
    case h_1 call op ctl top _ =>
      have none : s.pc.inHand = [] := by rw [top]; rfl
      obtain ⟨⟨worker,reply⟩,_,rest⟩ := bind_ok_iff.mp taken
      cases reply with
      | some reply => cases rest; exact .stays (flight_worker none rfl rfl rfl) id
      | none => cases rest; exact .stays (flight_worker none (inHand_beginShutdown _) rfl rfl) id
  | timeout =>
    cases taken
    unfold timeout
    split
    case isFalse => exact .stays rfl id
    case isTrue idle => exact .stays (flight_worker (by rw [idle.1]; rfl) rfl rfl rfl) id
  | abort =>
    cases taken
    unfold abort
    split
    case isFalse => exact .stays rfl id
    case isTrue top => exact .stays (flight_worker (by rw [top]; rfl) (inHand_beginShutdown s) rfl rfl) id
  | receive => cases taken; exact s.receive_moves
  | take answers => exact take_moves taken
  | poll child now =>
    cases taken
    unfold poll
    split
    case isFalse => exact .stays rfl id
    case isTrue polling => exact .stays (flight_worker (by rw [polling]; rfl) rfl rfl rfl) id
  | close polled =>
    cases taken
    unfold close
    split
    case isFalse => exact .stays rfl id
    case isTrue closing => exact .stays (flight_worker (by rw [closing]; rfl) rfl rfl rfl) id

/-- Every batch in flight has output in it. -/
def Filled (s : Session) : Prop := ∀ msg ∈ s.flight, msg ≠ .bytes []

theorem Moves.filled (moves : s.Moves t) (filled : s.Filled) : t.Filled := by
  intro msg inside
  cases moves with
  | stays flight _ => exact filled msg (flight ▸ inside)
  | reads new _ some flight _ =>
    rw [flight] at inside
    rcases List.mem_append.mp inside with before | last
    · exact filled msg before
    · rw [List.mem_singleton.mp last]
      exact some
  | drops new flight _ => exact filled msg (by rw [flight]; exact List.mem_append_left _ inside)
  | takes new _ _ _ flight _ => exact filled msg (by rw [flight]; exact List.mem_cons_of_mem _ inside)

/-- The ends of the stream that are in flight or can still be sent. -/
def ends (s : Session) : Nat := s.flight.countP DataMsg.isEnd + (!s.reader.over).toNat

theorem Moves.ends_le (moves : s.Moves t) : t.ends ≤ s.ends := by
  unfold ends
  cases moves with
  | stays flight finished =>
    rw [flight]
    cases before : s.reader.over with
    | false =>
      have one := Bool.toNat_le (!t.reader.over)
      exact Nat.add_le_add_left one _
    | true => rw [finished before]
  | reads msg reading some flight finished =>
    rw [flight,reading,finished,List.countP_append,List.countP_singleton]
    cases msg.isEnd <;> exact Nat.le_refl _
  | drops msg flight finished =>
    rw [flight,finished,List.countP_append]
    simp only [Bool.not_true,Bool.toNat_false]
    omega
  | takes msg _ _ _ flight reader =>
    rw [flight,reader,List.countP_cons]
    omega

theorem InOrder.ends_le (order : s.InOrder) : s.ends ≤ 1 := by
  unfold ends
  cases finished : s.reader.over with
  | false =>
    have none : s.flight.countP DataMsg.isEnd = 0 :=
      List.countP_eq_zero.mpr fun msg inside => by rw [(order.reading finished).1 msg inside]; exact Bool.false_ne_true
    rw [none]
    exact Nat.le_refl _
  | true =>
    refine countP_le_one fun before msg after split isEnd => ?_
    cases msg with
    | bytes batch => cases isEnd
    | streamEnd kind => exact order.last before kind after split

/-! ## The worker's exit -/

/-- What a worker that exits has before it, whatever comes in. -/
def left (s : Session) : Nat := s.pc.left + 2 * s.ends

/-- Only the worker moves the worker. -/
theorem step_apart [UnicodeWidth] (other : a.byWorker = false) (taken : s.step a = .ok t) : t.pc = s.pc ∧ t.worker = s.worker := by
  cases a with
  | read answer =>
    cases taken
    simp only [read]
    split
    · cases answer with
      | data bytes => dsimp only; split <;> exact ⟨rfl,rfl⟩
      | error e => cases e <;> exact ⟨rfl,rfl⟩
    · exact ⟨rfl,rfl⟩
  | send =>
    cases taken
    simp only [send]
    split
    · split
      · exact ⟨rfl,rfl⟩
      · split <;> exact ⟨rfl,rfl⟩
    · exact ⟨rfl,rfl⟩
  | count =>
    cases taken
    simp only [count]
    split <;> exact ⟨rfl,rfl⟩
  | leave =>
    cases taken
    simp only [leave]
    split <;> exact ⟨rfl,rfl⟩
  | readerLost =>
    cases taken
    simp only [readerLost]
    split <;> exact ⟨rfl,rfl⟩
  | call op => cases taken; exact ⟨rfl,rfl⟩
  | giveUp call =>
    cases taken
    simp only [giveUp]
    split <;> exact ⟨rfl,rfl⟩
  | _ => cases other

theorem beginShutdown_goes (top : s.pc = .top) : s.pc.Goes s.beginShutdown.pc := by
  rw [top]
  unfold beginShutdown
  dsimp only
  split
  · exact .exit
  · exact .tick true

theorem step_goes [UnicodeWidth] (taken : s.step a = .ok t) : s.pc.Goes t.pc := by
  cases own : a.byWorker with
  | false =>
    rw [(step_apart own taken).1]
    exact .stay _
  | true =>
    cases a with
    | serve answer =>
      change s.serve answer = .ok t at taken
      unfold serve at taken
      split at taken
      case h_2 => cases taken; exact .stay _
      case h_1 call op ctl top _ =>
        obtain ⟨⟨worker,reply⟩,_,rest⟩ := bind_ok_iff.mp taken
        cases reply with
        | some reply =>
          cases rest
          rw [top]
          exact .tick false
        | none =>
          cases rest
          exact beginShutdown_goes (s := { s with worker := worker, ctl := ctl }) top
    | timeout =>
      cases taken
      simp only [timeout]
      split
      case isFalse => exact .stay _
      case isTrue idle =>
        rw [idle.1]
        exact .tick false
    | abort =>
      cases taken
      simp only [abort]
      split
      case isFalse => exact .stay _
      case isTrue top => exact beginShutdown_goes top
    | receive =>
      cases taken
      cases pc : s.pc with
      | draining budget last =>
        simp only [receive,pc]
        split
        · exact .hold _ budget last
        · split
          · exact .empty budget last
          · exact .empty budget last
      | _ =>
        simp only [receive,pc]
        exact .stay _
    | take answers =>
      cases pc : s.pc with
      | holding msg budget last =>
        rw [(take_held pc taken).2.2]
        exact .arms msg budget last
      | _ =>
        simp only [step,take,pc] at taken
        cases taken
        rw [pc]
        exact .stay _
    | poll child now =>
      cases taken
      simp only [poll]
      split
      case isFalse => exact .stay _
      case isTrue polling =>
        rw [polling]
        exact .polled
    | close polled =>
      cases taken
      simp only [close]
      split
      case isFalse => exact .stay _
      case isTrue closing =>
        rw [closing]
        exact .closed
    | _ => cases own

/-- No budget is above that of a tick. -/
def Budgeted (s : Session) : Prop := s.pc.left ≤ 2 * feedBudgetPerTick + 3

theorem step_budgeted [UnicodeWidth] (budgeted : s.Budgeted) (taken : s.step a = .ok t) : t.Budgeted := by
  have goes := step_goes taken
  unfold Budgeted at *
  generalize s.pc = before at *
  generalize t.pc = after at *
  cases goes with
  | stay => exact budgeted
  | tick last => exact Nat.le_refl _
  | exit => exact Nat.le_add_left _ _
  | hold msg budget last => exact Nat.le_of_succ_le budgeted
  | empty budget last => cases last <;> exact Nat.le_add_left _ _
  | arms msg budget last =>
    simp only [WorkerPc.left] at budgeted
    cases msg with
    | streamEnd kind =>
      simp only [WorkerPc.next,WorkerPc.left]
      omega
    | bytes batch =>
      simp only [WorkerPc.next]
      split
      · cases last <;> exact Nat.le_add_left _ _
      · simp only [WorkerPc.left]
        omega
  | polled => exact Nat.zero_le _
  | closed => exact Nat.zero_le _

theorem take_left [UnicodeWidth] {answers : Nat → ReplyAnswer} {msg : DataMsg} {budget : Nat} (filled : s.Filled)
    (holding : s.pc = .holding msg budget true) (taken : s.take answers = .ok t) : t.pc.exiting = true ∧ t.left + 1 ≤ s.left := by
  obtain ⟨flight,reader,pc⟩ := take_held holding taken
  have counted : s.ends = t.ends + if msg.isEnd = true then 1 else 0 := by
    unfold ends
    rw [flight,reader,List.countP_cons]
    omega
  unfold left
  rw [counted,pc,holding]
  cases msg with
  | streamEnd kind =>
    refine ⟨rfl,?_⟩
    simp only [WorkerPc.next,WorkerPc.left,DataMsg.isEnd,if_true]
    omega
  | bytes batch =>
    have some : 0 < batch.length := List.length_pos_iff.mpr fun none =>
      filled (.bytes batch) (by rw [flight]; exact List.mem_cons_self) (congrArg _ none)
    simp only [WorkerPc.next]
    split
    case isTrue spent =>
      refine ⟨rfl,?_⟩
      simp only [drained,WorkerPc.left,if_true]
      omega
    case isFalse more =>
      refine ⟨rfl,?_⟩
      simp only [WorkerPc.left]
      omega

/-- A step of a worker that exits. -/
theorem exiting_step [UnicodeWidth] (filled : s.Filled) (exiting : s.pc.exiting = true) (own : a.byWorker = true)
    (ready : s.ready a = true) (taken : s.step a = .ok t) : t.pc.exiting = true ∧ t.left + 1 ≤ s.left := by
  have ends := (step_moves taken).ends_le
  cases a with
  | serve answer =>
    have top : s.pc = .top := by simp only [Session.ready,Bool.and_eq_true,decide_eq_true_eq] at ready; exact ready.1
    rw [top] at exiting
    cases exiting
  | timeout =>
    have top : s.pc = .top := by simp only [Session.ready,Bool.and_eq_true,decide_eq_true_eq] at ready; exact ready.1
    rw [top] at exiting
    cases exiting
  | abort =>
    have top : s.pc = .top := of_decide_eq_true ready
    rw [top] at exiting
    cases exiting
  | poll child now =>
    have polling : s.pc = .polling := of_decide_eq_true ready
    rw [polling] at exiting
    cases exiting
  | close polled =>
    have closing : s.pc = .closing := of_decide_eq_true ready
    cases taken
    have gone : (s.close polled).pc = .gone := by simp only [close,if_pos closing]
    refine ⟨by rw [gone]; rfl,?_⟩
    unfold left
    rw [gone,closing]
    simp only [WorkerPc.left]
    omega
  | receive =>
    cases pc : s.pc with
    | draining budget last =>
      rw [pc] at exiting
      obtain rfl : last = true := exiting
      cases taken
      have after : s.receive.pc = .closing ∨ ∃ msg, s.receive.pc = .holding msg budget true := by
        simp only [receive,pc]
        split
        · exact .inr ⟨_,rfl⟩
        · split
          · exact .inl rfl
          · exact .inl rfl
      unfold left
      rw [pc]
      rcases after with next | ⟨msg,next⟩
      · refine ⟨by rw [next]; rfl,?_⟩
        rw [next]
        simp only [WorkerPc.left]
        omega
      · refine ⟨by rw [next]; rfl,?_⟩
        rw [next]
        simp only [WorkerPc.left]
        omega
    | _ => simp only [Session.ready,pc] at ready; cases ready
  | take answers =>
    cases pc : s.pc with
    | holding msg budget last =>
      rw [pc] at exiting
      obtain rfl : last = true := exiting
      exact take_left filled pc taken
    | _ => simp only [Session.ready,pc] at ready; cases ready
  | _ => cases own

/-- Whatever the reader and the callers do, a worker that exits goes on with that. -/
theorem step_left [UnicodeWidth] (filled : s.Filled) (exiting : s.pc.exiting = true) (ready : s.ready a = true)
    (taken : s.step a = .ok t) : t.pc.exiting = true ∧ t.left + a.byWorker.toNat ≤ s.left := by
  cases own : a.byWorker with
  | true => exact exiting_step filled exiting own ready taken
  | false =>
    have pc := (step_apart own taken).1
    have ends := (step_moves taken).ends_le
    unfold left
    rw [pc]
    simp only [Bool.toNat_false]
    exact ⟨exiting,by omega⟩

/-- A worker that has not exited never waits. -/
theorem worker_ready (exiting : s.pc.exiting = true) (here : s.pc ≠ .gone) : ∃ a : Label, a.byWorker = true ∧ s.ready a = true := by
  cases pc : s.pc with
  | top => rw [pc] at exiting; cases exiting
  | polling => rw [pc] at exiting; cases exiting
  | draining budget last => exact ⟨.receive,rfl,by simp only [Session.ready,pc]⟩
  | holding msg budget last => exact ⟨.take fun _ => {},rfl,by simp only [Session.ready,pc]⟩
  | closing => exact ⟨.close none,rfl,decide_eq_true pc⟩
  | gone => exact absurd pc here

/-! ## Once it is gone -/

/-- A step that cannot be taken leaves the session as it is. -/
theorem step_idle [UnicodeWidth] (idle : s.ready a = false) (taken : s.step a = .ok t) : t = s := by
  cases a with
  | read answer =>
    cases taken
    simp only [read]
    split
    case h_1 reading => exact absurd reading (of_decide_eq_false idle)
    case h_2 => rfl
  | send =>
    cases taken
    cases reader : s.reader with
    | sending msg =>
      simp only [Session.ready,reader,decide_eq_false_iff_not,not_or] at idle
      simp only [send,reader,if_neg idle.1,if_neg idle.2]
    | _ => simp only [send,reader]
  | count =>
    cases taken
    cases reader : s.reader with
    | counting last => simp only [Session.ready,reader] at idle; cases idle
    | _ => simp only [count,reader]
  | leave => cases taken; exact if_neg (of_decide_eq_false idle)
  | readerLost => cases taken; exact if_neg (of_decide_eq_false idle)
  | call op => cases idle
  | giveUp call => cases taken; exact if_neg fun both => of_decide_eq_false idle both.1
  | serve answer =>
    change s.serve answer = .ok t at taken
    unfold serve at taken
    split at taken
    case h_1 call op ctl top queued =>
      simp only [Session.ready,top,queued] at idle
      cases idle
    case h_2 => cases taken; rfl
  | timeout =>
    cases taken
    refine if_neg fun both => ?_
    simp only [Session.ready,both.1,both.2] at idle
    cases idle
  | abort => cases taken; exact if_neg (of_decide_eq_false idle)
  | receive =>
    cases taken
    cases pc : s.pc with
    | draining budget last => simp only [Session.ready,pc] at idle; cases idle
    | _ => simp only [receive,pc]
  | take answers =>
    cases pc : s.pc with
    | holding msg budget last => simp only [Session.ready,pc] at idle; cases idle
    | _ =>
      simp only [step,take,pc] at taken
      exact (Except.ok.inj taken).symm
  | poll child now => cases taken; exact if_neg (of_decide_eq_false idle)
  | close polled => cases taken; exact if_neg (of_decide_eq_false idle)

theorem gone_still [UnicodeWidth] (gone : s.pc = .gone) (own : a.byWorker = true) (taken : s.step a = .ok t) : t = s := by
  refine step_idle ?_ taken
  cases a with
  | serve | timeout | abort | receive | take | poll | close =>
    simp [Session.ready,gone]
  | _ => cases own

/-- A worker that is gone stays so, and as it is. -/
theorem gone_step [UnicodeWidth] (gone : s.pc = .gone) (taken : s.step a = .ok t) : t.pc = .gone ∧ t.worker = s.worker := by
  cases own : a.byWorker with
  | false =>
    obtain ⟨pc,worker⟩ := step_apart own taken
    exact ⟨pc.trans gone,worker⟩
  | true =>
    rw [gone_still gone own taken]
    exact ⟨gone,rfl⟩

/-- It goes by the end of `shutdown_and_exit`. -/
theorem step_gone [UnicodeWidth] (here : s.pc ≠ .gone) (taken : s.step a = .ok t) (gone : t.pc = .gone) :
    ∃ polled, t.worker = s.worker.finishShutdown polled := by
  have goes := step_goes taken
  have closing : s.pc = .closing := by
    rw [gone] at goes
    generalize s.pc = before at *
    generalize after : WorkerPc.gone = pc at *
    cases goes with
    | stay => exact absurd rfl here
    | empty budget last => cases last <;> cases after
    | arms msg budget last =>
      cases msg with
      | streamEnd kind => cases after
      | bytes batch =>
        simp only [WorkerPc.next] at after
        split at after
        · cases last <;> cases after
        · cases after
    | closed => rfl
    | _ => cases after
  cases a with
  | close polled =>
    cases taken
    exact ⟨polled,by simp only [close,if_pos closing]⟩
  | serve | timeout | abort | receive | take | poll =>
    refine absurd (congrArg Session.pc (step_idle ?_ taken)) fun same => here (same.symm.trans gone)
    simp [Session.ready,closing]
  | _ => exact absurd ((step_apart rfl taken).1.symm.trans gone) here

/-- A worker that is gone has told everyone. -/
def Told (s : Session) : Prop := s.pc = .gone → s.worker.shared.closed = true

theorem step_told [UnicodeWidth] (told : s.Told) (taken : s.step a = .ok t) : t.Told := by
  intro gone
  by_cases before : s.pc = .gone
  · rw [(gone_step before taken).2]
    exact told before
  · obtain ⟨polled,worker⟩ := step_gone before taken gone
    rw [worker]
    rfl

/-- A step of the reader, when nobody takes its messages. -/
theorem reader_step [UnicodeWidth] (gone : s.pc = .gone) (ready : s.ready a = true) (taken : s.step a = .ok t) :
    t.reader.left + a.byReader.toNat ≤ s.reader.left := by
  cases a with
  | read answer =>
    have reading : s.reader = .reading := of_decide_eq_true ready
    cases taken
    simp only [read,reading]
    cases answer with
    | data bytes => dsimp only; split <;> exact Nat.le_refl _
    | error e =>
      cases e with
      | interrupted => rw [reading]; exact Nat.le_refl _
      | _ => exact Nat.le_refl _
  | send =>
    cases taken
    cases reader : s.reader with
    | sending msg =>
      simp only [send,reader,gone,if_true]
      exact Nat.le_refl _
    | _ => simp only [Session.ready,reader] at ready; cases ready
  | count =>
    cases taken
    cases reader : s.reader with
    | counting last =>
      simp only [count,reader]
      cases last <;> exact Nat.le_refl _
    | _ => simp only [Session.ready,reader] at ready; cases ready
  | leave =>
    have leaving : s.reader = .leaving := of_decide_eq_true ready
    cases taken
    simp only [leave,leaving,if_true]
    exact Nat.le_refl _
  | readerLost =>
    have reading : s.reader = .reading := of_decide_eq_true ready
    cases taken
    simp only [readerLost,reading,if_true]
    exact Nat.le_of_lt (by decide)
  | call op => cases taken; exact Nat.le_refl _
  | giveUp call =>
    cases taken
    simp only [giveUp]
    split <;> exact Nat.le_refl _
  | _ =>
    rw [gone_still gone rfl taken]
    exact Nat.le_refl _

/-- A reader that is neither gone nor at `read` has a step to take. -/
theorem reader_ready (gone : s.pc = .gone) (reading : s.reader ≠ .reading) (here : s.reader ≠ .gone) :
    ∃ a : Label, a.byReader = true ∧ s.ready a = true := by
  cases reader : s.reader with
  | reading => exact absurd reader reading
  | sending msg => exact ⟨.send,rfl,by simp only [Session.ready,reader,gone,true_or,decide_true]⟩
  | counting last => exact ⟨.count,rfl,by simp only [Session.ready,reader]⟩
  | leaving => exact ⟨.leave,rfl,decide_eq_true reader⟩
  | gone => exact absurd reader here

/-- Whenever the worker is in `shutdown_and_exit`, whatever the reader reads from then on and
    whatever is called: it always has a step to take, and is gone after a number of its
    steps that the budget of one drain bounds. Then the outcome is published and the session
    closed; and the reader, unless it waits in `read`, has a step to take, and is gone after
    at most four more of its own. -/
theorem teardown_completes [UnicodeWidth] {labels : List Label} (ran : (new config).run labels = .ok s)
    (exiting : s.pc.exiting = true) {own : List Label} (ready : StepsMeet step (fun s a => s.ready a = true) s own)
    (goes : s.run own = .ok t) :
    own.countP Label.byWorker ≤ 2 * feedBudgetPerTick + 5 ∧
      (t.pc ≠ .gone → ∃ a : Label, a.byWorker = true ∧ t.ready a = true) ∧
      (t.pc = .gone → t.worker.shared.closed = true ∧ t.worker.shared.outcome ≠ none ∧
        (t.reader ≠ .reading → t.reader ≠ .gone → ∃ a : Label, a.byReader = true ∧ t.ready a = true) ∧
        ∀ (more : List Label) (u : Session), StepsMeet step (fun s a => s.ready a = true) t more → t.run more = .ok u →
          more.countP Label.byReader ≤ 4 ∧ u.worker = t.worker) := by
  have order := run_inOrder (inOrder_new config) ran
  have filled : s.Filled := run_keeps (fun _ _ _ filled taken => (step_moves taken).filled filled)
    (show (new config).Filled from fun _ inside => nomatch inside) ran
  have budgeted : s.Budgeted := run_keeps (fun _ _ _ budgeted taken => step_budgeted budgeted taken)
    (show (new config).Budgeted from Nat.zero_le _) ran
  have goesOn (s : Session) (a : Label) (t : Session) (inv : s.Filled ∧ s.pc.exiting = true) (ready : s.ready a = true)
      (taken : s.step a = .ok t) : t.Filled ∧ t.pc.exiting = true :=
    ⟨(step_moves taken).filled inv.1,(step_left inv.1 inv.2 ready taken).1⟩
  have along := ready.invariant goesOn ⟨filled,exiting⟩
  have spent := run_spends Session.left Label.byWorker
    (along.mono fun s a _ met t taken => (step_left met.1.1 met.1.2 met.2 taken).2) goes
  have left : s.left ≤ 2 * feedBudgetPerTick + 5 := by
    have ends := order.ends_le
    unfold Budgeted at budgeted
    unfold Session.left
    omega
  have after : t.pc.exiting = true := (ready.keeps goesOn ⟨filled,exiting⟩ goes).2
  have whole : (new config).run (labels ++ own) = .ok t := by
    unfold run
    rw [List.foldlM_append]
    exact bind_ok_iff.mpr ⟨s,ran,goes⟩
  have told : t.Told := run_keeps (fun _ _ _ told taken => step_told told taken)
    (show (new config).Told from fun gone => nomatch gone) whole
  refine ⟨by omega,worker_ready after,fun gone => ⟨told gone,?_,reader_ready gone,fun more u ready rest => ?_⟩⟩
  · have final := (run_inOrder (inOrder_new config) whole).closed gone
    obtain ⟨o,published,_⟩ := (run_settled (s := new config) (Worker.settled_new config) whole).final final
    rw [published]
    exact Option.some_ne_none o
  · have still (s : Session) (a : Label) (u : Session) (inv : s.pc = .gone ∧ s.worker = t.worker) (_ : s.ready a = true)
        (taken : s.step a = .ok u) : u.pc = .gone ∧ u.worker = t.worker :=
      ⟨(gone_step inv.1 taken).1,(gone_step inv.1 taken).2.trans inv.2⟩
    have along := ready.invariant still ⟨gone,rfl⟩
    have spent := run_spends (fun s : Session => s.reader.left) Label.byReader
      (along.mono fun s a _ met u taken => reader_step met.1.1 met.2 taken) rest
    have bound : t.reader.left ≤ 4 := by
      cases t.reader with
      | counting last => cases last <;> decide
      | _ => exact Nat.le_of_ble_eq_true rfl
    exact ⟨by omega,(ready.keeps still ⟨gone,rfl⟩ rest).2⟩

end Session

end

section
attribute [local instance] byteParser blockWidth

/-- The flag is seen with a batch queued, and the reader reads on. -/
theorem teardown_completes_reading : ∃ s t : Session,
    (Session.new ⟨3,2,5,true,4,64⟩).run [.read (.data [0x41]),.send,.count,.abort] = .ok s ∧
    s.run [.read (.data [0x42]),.receive,.take fun _ => {},.send,.count,.receive,.take fun _ => {},.read (.data [0x43]),.receive,
      .close none] = .ok t ∧
    t.worker.shared.closed = true ∧ t.worker.shared.outcome ≠ none ∧ ∃ a : Label, a.byReader = true ∧ t.ready a = true := by
  have known : ∃ s t : Session, (Session.new ⟨3,2,5,true,4,64⟩).run [.read (.data [0x41]),.send,.count,.abort] = .ok s ∧
      s.run [.read (.data [0x42]),.receive,.take fun _ => {},.send,.count,.receive,.take fun _ => {},.read (.data [0x43]),.receive,
        .close none] = .ok t ∧
      s.pc.exiting = true ∧ t.pc = .gone ∧ t.reader = .sending (.bytes [0x43]) ∧
      StepsMeet Session.step (fun s a => s.ready a = true) s [.read (.data [0x42]),.receive,.take fun _ => {},.send,.count,.receive,
        .take fun _ => {},.read (.data [0x43]),.receive,.close none] := ⟨_,_,rfl,rfl,by decide +kernel⟩
  obtain ⟨s,t,ran,goes,exiting,gone,sending,ready⟩ := known
  obtain ⟨_,_,ended⟩ := Session.teardown_completes ran exiting ready goes
  obtain ⟨closed,published,reader,_⟩ := ended gone
  exact ⟨s,t,ran,goes,closed,published,
    reader (by rw [sending]; exact fun h => nomatch h) (by rw [sending]; exact fun h => nomatch h)⟩

end

end Termpane
