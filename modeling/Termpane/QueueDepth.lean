import Termpane.Capture

/-!
# The depth of the data queue

The reader counts a batch after it has sent it, and the worker uncounts it after it has
received it: the channel and the counter are two objects. Between the two steps of the
reader the worker may already have taken the batch, and its `fetch_sub` then comes
first.
-/
namespace Termpane

open Lib

/-- The batches the reader has sent and not yet counted. -/
def ReaderPc.uncounted : ReaderPc → Nat
  | .counting _ => 1
  | _ => 0

section
variable [Vte]

namespace Session
variable {s t : Session} {a : Label}

/-- `fetch_sub` takes one from nothing. -/
def wraps (s : Session) : Label → Bool
  | .take _ => !s.pc.inHand.isEmpty && s.inflight == 0
  | _ => false

/-- The worker is about to uncount a batch that the reader has not counted yet: it is
    the last one sent. -/
def outruns (s : Session) : Label → Bool
  | .take _ => !s.pc.inHand.isEmpty && s.queue.isEmpty && s.reader.uncounted == 1
  | _ => false

/-- Every observation given was of a depth the queue can have. -/
def DepthsInRange (s : Session) : Prop :=
  ∀ a ∈ s.history.answers, ∀ o, a.answer.observed = some o → o.diagnostics.queuedBatches.toNat ≤ dataQueueBatches

/-- The counter is the depth of the queue, but for the steps that are under way. -/
structure Counted (s : Session) : Prop where
  depth : s.inflight.toNat + s.reader.uncounted = s.queue.length + s.pc.inHand.length
  room : s.queue.length ≤ dataQueueBatches
  observed : s.DepthsInRange

theorem counted_new (config : WorkerConfig) : (new config).Counted where
  depth := rfl
  room := Nat.zero_le _
  observed _ inside := nomatch inside

omit [Vte] in
theorem inHand_le (pc : WorkerPc) : pc.inHand.length ≤ 1 := by cases pc <;> simp [WorkerPc.inHand]

theorem Counted.wraps_eq (counted : s.Counted) (a : Label) : s.wraps a = s.outruns a := by
  cases a with
  | take answers =>
    have depth := counted.depth
    have one := inHand_le s.pc
    unfold wraps outruns
    cases hand : s.pc.inHand with
    | nil => rfl
    | cons msg rest =>
      rw [hand,List.length_cons] at depth one
      have zero : s.inflight = 0 ↔ s.inflight.toNat = 0 := by rw [← UInt64.toNat_inj]; rfl
      rw [Bool.eq_iff_iff]
      simp only [Bool.and_eq_true,beq_iff_eq,List.isEmpty_iff,zero,List.isEmpty_cons,Bool.not_false,true_and]
      rw [← List.length_eq_zero_iff]
      have few : s.reader.uncounted ≤ 1 := by cases s.reader <;> simp [ReaderPc.uncounted]
      omega
  | _ => rfl

/-- A step that leaves the counter, the channel and the answers alone. -/
theorem Counted.of_same (counted : s.Counted) (inflight : t.inflight = s.inflight) (queue : t.queue = s.queue)
    (reader : t.reader.uncounted = s.reader.uncounted) (hand : t.pc.inHand = s.pc.inHand)
    (answers : t.history.answers = s.history.answers) : t.Counted := by
  refine ⟨?_,?_,?_⟩
  · rw [inflight,reader,queue,hand]; exact counted.depth
  · rw [queue]; exact counted.room
  · unfold DepthsInRange; rw [answers]; exact counted.observed

theorem Counted.read (counted : s.Counted) (answer : ReadAnswer) : (s.read answer).Counted := by
  unfold Session.read
  split
  case h_2 => exact counted
  case h_1 reading =>
    have uncounted : s.reader.uncounted = 0 := by rw [reading]; rfl
    split
    · dsimp only; split <;> exact counted.of_same rfl rfl uncounted.symm rfl rfl
    · exact counted
    · exact counted.of_same rfl rfl uncounted.symm rfl rfl
    · exact counted.of_same rfl rfl uncounted.symm rfl rfl

theorem Counted.send (counted : s.Counted) : s.send.Counted := by
  unfold Session.send
  split
  case h_2 => exact counted
  case h_1 msg sending =>
    have uncounted : s.reader.uncounted = 0 := by rw [sending]; rfl
    have depth := counted.depth
    split
    · exact counted.of_same rfl rfl uncounted.symm rfl rfl
    · split
      case isFalse => exact counted
      case isTrue room =>
        refine ⟨?_,?_,counted.observed⟩
        · simp only [List.length_append,List.length_singleton,ReaderPc.uncounted]; omega
        · simp only [List.length_append,List.length_singleton]; omega

theorem Counted.count (counted : s.Counted) : s.count.Counted := by
  unfold Session.count
  split
  case h_2 => exact counted
  case h_1 last counting =>
    have uncounted : s.reader.uncounted = 1 := by rw [counting]; rfl
    have depth := counted.depth
    have room := counted.room
    have one := inHand_le s.pc
    have none : (if last then ReaderPc.leaving else .reading).uncounted = 0 := by cases last <;> rfl
    refine ⟨?_,counted.room,counted.observed⟩
    dsimp only
    rw [none,UInt64.toNat_add]
    unfold dataQueueBatches at room
    change (s.inflight.toNat + 1) % 2 ^ 64 + 0 = _
    omega

theorem Counted.serve (counted : s.Counted) {answer : CtlAnswer} (served : s.serve answer = .ok t) : t.Counted := by
  unfold Session.serve at served
  split at served
  case h_2 => cases served; exact counted
  case h_1 call op ctl top _ =>
    obtain ⟨⟨worker,reply⟩,handled,rest⟩ := bind_ok_iff.mp served
    have hand : s.pc.inHand = [] := by rw [top]; rfl
    cases reply with
    | none =>
      cases rest
      refine counted.of_same rfl rfl rfl ?_ rfl
      rw [hand]
      unfold beginShutdown
      dsimp only
      split <;> rfl
    | some reply =>
      cases rest
      refine ⟨?_,counted.room,?_⟩
      · have depth := counted.depth
        rwa [hand] at depth
      · intro b inside o observed
        rcases List.mem_append.mp inside with old | new
        · exact counted.observed b old o observed
        · cases List.mem_singleton.mp new
          have depth := counted.depth
          have room := counted.room
          rw [hand,List.length_nil] at depth
          have shown : o.diagnostics.queuedBatches = s.inflight := by
            have obeys := Worker.handleCtl_obeys handled
            cases obeys with
            | keep _ _ plain => rw [(plain reply rfl).2.2] at observed; cases observed
            | observe => cases observed; rfl
            | _ => cases observed
          rw [shown]
          omega

theorem Counted.receive (counted : s.Counted) : s.receive.Counted := by
  unfold Session.receive
  split
  case h_2 => exact counted
  case h_1 budget last draining =>
    have hand : s.pc.inHand = [] := by rw [draining]; rfl
    have depth := counted.depth
    have room := counted.room
    rw [hand,List.length_nil] at depth
    split
    case h_1 msg queue queued =>
      rw [queued,List.length_cons] at depth room
      exact ⟨depth,Nat.le_of_succ_le room,counted.observed⟩
    case h_2 empty =>
      have none : (drained last).inHand = [] := by cases last <;> rfl
      split
      · exact counted.of_same rfl rfl rfl (none.trans hand.symm) rfl
      · exact counted.of_same rfl rfl rfl (none.trans hand.symm) rfl

variable [UnicodeWidth]

theorem Counted.take (counted : s.Counted) {answers : Nat → ReplyAnswer} (taken : s.take answers = .ok t)
    (behind : s.outruns (.take answers) = false) : t.Counted := by
  unfold Session.take at taken
  split at taken
  case h_2 => cases taken; exact counted
  case h_1 msg budget last holding =>
    have hand : s.pc.inHand = [msg] := by rw [holding]; rfl
    have depth := counted.depth
    rw [hand,List.length_singleton] at depth
    have some : 1 ≤ s.inflight.toNat := by
      have positive : s.wraps (.take answers) = false := (counted.wraps_eq _).trans behind
      simp only [wraps,hand,List.isEmpty_cons,Bool.not_false,Bool.true_and,beq_eq_false_iff_ne] at positive
      have nonzero : s.inflight.toNat ≠ 0 := fun zero => positive (UInt64.toNat_inj.mp zero)
      omega
    have less : (s.inflight - 1).toNat + s.reader.uncounted = s.queue.length := by
      have fewer : (s.inflight - 1).toNat = s.inflight.toNat - 1 := UInt64.toNat_sub_of_le _ _ (UInt64.le_iff_toNat_le.mpr some)
      omega
    have none : (drained last).inHand = [] := by cases last <;> rfl
    cases msg with
    | streamEnd kind => cases taken; exact ⟨less,counted.room,counted.observed⟩
    | bytes batch =>
      obtain ⟨worker,_,rest⟩ := bind_ok_iff.mp taken
      cases rest
      refine ⟨?_,counted.room,counted.observed⟩
      dsimp only
      split
      · rw [none]; exact less
      · exact less

theorem Counted.step (counted : s.Counted) (behind : s.outruns a = false) (taken : s.step a = .ok t) : t.Counted := by
  cases a with
  | read answer => cases taken; exact counted.read answer
  | send => cases taken; exact counted.send
  | count => cases taken; exact counted.count
  | leave =>
    cases taken
    unfold leave
    split
    case isTrue leaving => exact counted.of_same rfl rfl (by rw [leaving]; rfl) rfl rfl
    case isFalse => exact counted
  | readerLost =>
    cases taken
    unfold readerLost
    split
    case isTrue reading => exact counted.of_same rfl rfl (by rw [reading]; rfl) rfl rfl
    case isFalse => exact counted
  | call op => cases taken; exact counted.of_same rfl rfl rfl rfl rfl
  | giveUp call =>
    cases taken
    unfold giveUp
    split
    · exact counted.of_same rfl rfl rfl rfl rfl
    · exact counted
  | serve answer => exact counted.serve taken
  | timeout =>
    cases taken
    unfold timeout
    split
    case isTrue idle => exact counted.of_same rfl rfl rfl (by rw [idle.1]; rfl) rfl
    case isFalse => exact counted
  | abort =>
    cases taken
    unfold abort
    split
    case isTrue top =>
      refine counted.of_same rfl rfl rfl ?_ rfl
      unfold beginShutdown
      dsimp only
      rw [top]
      split <;> rfl
    case isFalse => exact counted
  | receive => cases taken; exact counted.receive
  | take answers => exact counted.take taken behind
  | poll child now =>
    cases taken
    unfold poll
    split
    case isTrue polling => exact counted.of_same rfl rfl rfl (by rw [polling]; rfl) rfl
    case isFalse => exact counted
  | close polled =>
    cases taken
    unfold close
    split
    case isTrue closing => exact counted.of_same rfl rfl rfl (by rw [closing]; rfl) rfl
    case isFalse => exact counted

/-- The counter never wraps and every observation is in range exactly if the worker
    never uncounts a batch before the reader has counted it. -/
theorem depth_in_range_iff (config : WorkerConfig) (labels : List Label) :
    ((∀ before a after s, labels = before ++ a :: after → (new config).run before = .ok s → s.wraps a = false) ∧
      ∀ before after t, labels = before ++ after → (new config).run before = .ok t → t.DepthsInRange) ↔
      StepsMeet step (fun s a => s.outruns a = false) (new config) labels := by
  constructor
  · rintro ⟨noWrap,_⟩
    have meets : StepsMeet step (fun s a => s.wraps a = false) (new config) labels := stepsMeet_iff.mpr noWrap
    have known := meets.invariant (fun s a t counted noWrap taken =>
      Counted.step counted ((counted.wraps_eq a).symm.trans noWrap) taken) (counted_new config)
    exact known.mono fun s a _ inv => (inv.1.wraps_eq a).symm.trans inv.2
  · intro meets
    have known := meets.invariant (fun s a t counted behind taken => Counted.step counted behind taken) (counted_new config)
    refine ⟨stepsMeet_iff.mp (known.mono fun s a _ inv => (inv.1.wraps_eq a).trans inv.2),fun before after t split ran => ?_⟩
    have front : StepsMeet step (fun s a => s.outruns a = false) (new config) before := by
      refine stepsMeet_iff.mpr fun before' a after' s split' ran' => ?_
      exact stepsMeet_iff.mp meets before' a (after' ++ after) s (by rw [split,split']; simp) ran'
    have ends : Ends Counted (fun _ => True) ((new config).run before) := by
      refine run_ends_of_meets (fun s a behind counted => ?_) front (counted_new config)
      cases taken : s.step a with
      | error e => trivial
      | ok t => exact Counted.step counted behind taken
    exact (ends.of_ok ran).observed

end Session

end

section
attribute [local instance] byteParser blockWidth

/-- The worker takes a batch and the caller observes before the reader has counted it. -/
theorem depth_wraps : ∃ s t : Session,
    (Session.new ⟨3,2,0,false,4,0⟩).run [.read (.data [0x41]),.send,.timeout,.receive] = .ok s ∧
      s.wraps (.take fun _ => {}) = true ∧
      s.run [.take fun _ => {},.receive,.poll {} 0,.call .observe,.serve {}] = .ok t ∧
      t.history.answers.filterMap (·.answer.observed.map (·.diagnostics.queuedBatches)) = [0xffffffffffffffff] ∧
      ¬ t.DepthsInRange := by
  refine ⟨_,_,rfl,rfl,rfl,rfl,fun inRange => ?_⟩
  have bound := inRange _ List.mem_cons_self _ rfl
  revert bound
  decide

end

end Termpane
