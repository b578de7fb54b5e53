import Termpane.Accounting
import Termpane.Growth

/-!
# What a caller who gives up loses

`drain_events` and `dirty_spans` are destructive reads in the worker, and their
answers go to a caller who may be gone. Nothing is lost exactly if no drain is made
for a caller who gave up while there is something to drain.
-/
namespace Termpane

open Lib

/-- The cells a set of dirty rows covers. -/
def DirtySpans.Covers : DirtySpans → Nat → Nat → Prop
  | .all, _, _ => True
  | .rows spans, row, col => ∃ s ∈ spans, s.row = row ∧ s.startCol ≤ col ∧ col < s.endCol

namespace DirtyTracker
variable {t : DirtyTracker}

/-- What is pending is taken, all of it. -/
theorem take_covers {r c : Nat} (covered : t.Covers r c) : t.take.1.Covers r c := by
  unfold take
  split
  case isTrue => trivial
  case isFalse some => exact covered.resolve_left some

end DirtyTracker

section
variable [Vte] [UnicodeWidth]

namespace Worker
variable {w w' : Worker}

/-- The damage in the worker's grid. -/
def damage (w : Worker) : DirtyTracker := w.grid.grid.dirty

theorem feed_grows {answers : Nat → ReplyAnswer} {batch : Bytes} (fed : w.feed answers batch = .ok w') :
    w.grid.grid.Grows w'.grid.grid := by
  have ok := feed_ok fed
  split at ok
  case isTrue => subst ok; exact .refl _
  case isFalse =>
    obtain ⟨p,pumped,_,rfl⟩ := ok
    have grown := (w.grid.processAll_adds (parts batch)).of_ok (pump_ok pumped).1
    obtain ⟨recorded,_,_⟩ := p.recordBatch_same batch
    have forwarded := (Forwards.same ((p.recordBatch batch).forwardEvents_forwards answers)).1
    refine grown.trans ?_
    change p.grid.grid.Grows ((p.recordBatch batch).forwardEvents answers).grid.grid
    rw [forwarded]
    change p.grid.grid.Grows { (p.recordBatch batch).grid.grid with passthrough := [] }
    rw [recorded]
    exact .of_same rfl rfl

end Worker

namespace Session
variable {s t u : Session} {a : Label}

/-- The answers whose callers were still waiting. -/
def heard (s : Session) : List Answered := s.history.answers.filter (·.heard)

/-- Each event that is no reply was returned to a caller, or counted as dropped, or is
    still stashed. -/
def Delivered (s : Session) : Prop :=
  ∃ gone dropped, notReplies s.history.emitted = gone ++ s.worker.events ∧ Merge (handedOut s.heard) dropped gone ∧
    dropped.length = s.worker.eventsDropped

/-- The worker's tracker is well formed. -/
def Tracking (s : Session) : Prop := s.worker.damage.WellFormed

/-- What was dirty is still pending, or was returned to a caller since. -/
def DirtyReaches (s t : Session) : Prop :=
  ∀ r c, s.worker.damage.Covers r c → t.worker.damage.Covers r c ∨
    ∃ a ∈ t.history.answers.drop s.history.answers.length, a.heard = true ∧ ∃ spans, a.answer.spans = some spans ∧ spans.Covers r c

/-- The step drains something for a caller who gave up. -/
def loses (s : Session) (a : Label) : Bool :=
  match s.serving a with
  | some (call,.events) => s.gaveUp.contains call && !s.worker.events.isEmpty
  | some (call,.dirtySpans) => s.gaveUp.contains call && s.worker.damage.isDirty
  | _ => false

/-- A step answers one call at most. -/
theorem Acts.answers (acts : s.Acts a t) : t.history.answers = s.history.answers ∨
    ∃ call op reply, s.serving a = some (call,op) ∧ s.worker.Obeys s.inflight op t.worker (some reply) ∧
      t.history.answers = s.history.answers ++ [⟨call,!s.gaveUp.contains call,reply⟩] := by
  cases acts with
  | idle _ told => exact .inl (told_eq told).2.2
  | feed _ _ _ _ told =>
    split at told
    · exact .inl (told_eq told).2.2
    · exact .inl (told_eq told).2.2
  | endStream _ _ _ told => exact .inl (told_eq told).2.2
  | serve _ call op _ reply serves _ served told =>
    have answers := (told_eq told).2.2
    cases reply with
    | none => exact .inl (by simpa using answers)
    | some reply => exact .inr ⟨call,op,reply,serves,Worker.handleCtl_obeys served,answers⟩
  | poll _ _ _ told => exact .inl (told_eq told).2.2
  | close _ _ told => exact .inl (told_eq told).2.2

theorem Acts.answers_prefix (acts : s.Acts a t) : s.history.answers <+: t.history.answers := by
  rcases acts.answers with same | ⟨_,_,_,_,_,answers⟩
  · exact ⟨[],by rw [same,List.append_nil]⟩
  · rw [answers]
    exact List.prefix_append _ _

/-! ## Events -/

/-- Every event handed out was heard. -/
def AllHeard (s : Session) : Prop := handedOut s.heard = handedOut s.history.answers

omit [UnicodeWidth] in
/-- A step that loses nothing drains no event for a caller who gave up. -/
theorem nothing_unheard {call : Nat} {op : CtlOp} {w : Worker} {reply : Answer} (serves : s.serving a = some (call,op))
    (obeys : s.worker.Obeys s.inflight op w (some reply)) (gone : s.gaveUp.contains call = true) (keeps : s.loses a = false) :
    reply.handsOut = [] := by
  cases obeys with
  | keep _ _ plain => exact (plain reply rfl).1
  | events =>
    unfold loses at keeps
    simp only [serves,gone,Bool.true_and,Bool.not_eq_false',List.isEmpty_iff] at keeps
    exact keeps
  | _ => rfl

theorem Acts.allHeard (acts : s.Acts a t) (all : s.AllHeard) (keeps : s.loses a = false) : t.AllHeard := by
  unfold AllHeard heard at all ⊢
  rcases acts.answers with same | ⟨call,op,reply,serves,obeys,answers⟩
  · rw [same]
    exact all
  · rw [answers,handedOut_append,List.filter_append]
    cases gone : s.gaveUp.contains call with
    | false => rw [Bool.not_false,List.filter_cons_of_pos rfl,List.filter_nil,handedOut_append,all]
    | true =>
      rw [Bool.not_true,List.filter_cons_of_neg Bool.false_ne_true,List.filter_nil,List.append_nil,all,
        nothing_unheard serves obeys gone keeps,List.append_nil]

omit [UnicodeWidth] in
theorem AllHeard.delivered (all : s.AllHeard) (accounts : s.Accounts) : s.Delivered := by
  unfold Delivered
  rw [all]
  exact accounts.stash.events

/-! ## Dirty rows -/

omit [UnicodeWidth] in
theorem DirtyReaches.refl (s : Session) : s.DirtyReaches s := fun _ _ covered => .inl covered

omit [UnicodeWidth] in
theorem DirtyReaches.trans (left : s.DirtyReaches t) (right : t.DirtyReaches u)
    (answers : s.history.answers <+: t.history.answers) (later : t.history.answers <+: u.history.answers) : s.DirtyReaches u := by
  obtain ⟨before,first⟩ := answers
  obtain ⟨after,second⟩ := later
  have all : u.history.answers.drop s.history.answers.length = before ++ after := by simp [← second,← first]
  intro r c covered
  rcases left r c covered with pending | ⟨a,inside,returned⟩
  · rcases right r c pending with pending | ⟨a,inside,returned⟩
    · exact .inl pending
    · refine .inr ⟨a,?_,returned⟩
      rw [← second,List.drop_left] at inside
      rw [all]
      exact List.mem_append_right _ inside
  · refine .inr ⟨a,?_,returned⟩
    rw [← first,List.drop_left] at inside
    rw [all]
    exact List.mem_append_left _ inside

omit [UnicodeWidth] in
theorem DirtyReaches.of_grows (grows : s.worker.grid.grid.Grows t.worker.grid.grid) : s.DirtyReaches t :=
  fun r c covered => .inl (grows.covers r c covered)

omit [UnicodeWidth] in
theorem DirtyReaches.of_damage (same : t.worker.damage = s.worker.damage) : s.DirtyReaches t := by
  intro r c covered
  rw [same]
  exact .inl covered

theorem Acts.tracking (acts : s.Acts a t) (tracking : s.Tracking) : t.Tracking := by
  unfold Tracking at tracking ⊢
  cases acts with
  | idle worker _ => rwa [worker]
  | feed _ _ _ fed _ => exact (Worker.feed_grows fed).damage tracking
  | endStream kind _ worker _ => rwa [worker]
  | serve _ _ _ _ _ _ _ served _ =>
    have obeys := Worker.handleCtl_obeys served
    generalize t.worker = w at obeys ⊢
    cases obeys with
    | dirtySpans => exact tracking.take
    | resize cols rows => exact (Grid.setSize_grows _ _ _).damage tracking
    | _ => exact tracking
  | poll child now worker _ =>
    obtain ⟨_,_,_,_,_,_,same⟩ := s.worker.pollExitState_exits child now
    rw [worker,same]
    exact tracking
  | close polled worker _ =>
    obtain ⟨_,_,_,_,_,_,same⟩ := s.worker.finishShutdown_exits polled
    rw [worker,same]
    exact tracking

theorem Acts.dirtyReaches (acts : s.Acts a t) (tracking : s.Tracking) (keeps : s.loses a = false) : s.DirtyReaches t := by
  cases acts with
  | idle worker _ => exact .of_damage (by rw [worker])
  | feed _ _ _ fed _ => exact .of_grows (Worker.feed_grows fed)
  | endStream kind _ worker _ => exact .of_damage (by rw [worker]; rfl)
  | serve _ call op _ reply serves _ served told =>
    have answers := (told_eq told).2.2
    have obeys := Worker.handleCtl_obeys served
    generalize worker : t.worker = w at obeys
    cases obeys with
    | dirtySpans =>
      intro r c covered
      cases heard : !s.gaveUp.contains call with
      | true =>
        refine .inr ⟨⟨call,true,.dirtySpans s.worker.damage.take.1⟩,?_,rfl,_,rfl,DirtyTracker.take_covers covered⟩
        rw [answers,heard,List.drop_left]
        exact List.mem_singleton_self _
      | false =>
        have gone : s.gaveUp.contains call = true := by simpa using heard
        have clean : s.worker.damage.isDirty = false := by
          unfold loses at keeps
          simpa only [serves,gone,Bool.true_and] using keeps
        have dirty := tracking.isDirty_iff.mpr ⟨r,c,covered⟩
        rw [clean] at dirty
        cases dirty
    | resize cols rows =>
      refine .of_grows ?_
      rw [worker]
      exact Grid.setSize_grows _ _ _
    | keep | observe => exact .of_damage (by rw [worker])
    | _ => exact .of_damage (by rw [worker]; rfl)
  | poll child now worker _ =>
    obtain ⟨_,_,_,_,_,_,same⟩ := s.worker.pollExitState_exits child now
    exact .of_damage (by rw [worker,same]; rfl)
  | close polled worker _ =>
    obtain ⟨_,_,_,_,_,_,same⟩ := s.worker.finishShutdown_exits polled
    exact .of_damage (by rw [worker,same]; rfl)

/-! ## Runs -/

omit [UnicodeWidth] in
theorem Delivered.count (delivered : s.Delivered) :
    (notReplies s.history.emitted).length = (handedOut s.heard).length + s.worker.eventsDropped + s.worker.events.length := by
  obtain ⟨gone,dropped,split,merge,count⟩ := delivered
  rw [split,List.length_append,merge.length,count]

omit [UnicodeWidth] in
theorem serving_some {call : Nat} {op : CtlOp} (serves : s.serving a = some (call,op)) :
    ∃ answer ctl, a = .serve answer ∧ s.pc = .top ∧ s.ctl = (call,op) :: ctl := by
  cases a with
  | serve answer =>
    unfold serving at serves
    split_ifs at serves with top
    obtain ⟨ctl,queued⟩ := List.head?_eq_some_iff.mp serves
    exact ⟨answer,ctl,rfl,top,queued⟩
  | _ => cases serves

/-- What is drained for a caller who gave up is lost. -/
theorem loses_step (tracking : s.Tracking) (lost : s.loses a = true) :
    ∃ t, s.step a = .ok t ∧ ¬ (s.Delivered ∧ t.Delivered ∧ s.DirtyReaches t) := by
  have unheard {call : Nat} {reply : Answer} (gone : s.gaveUp.contains call = true) (answers : List Answered) :
      (answers ++ [(⟨call,!s.gaveUp.contains call,reply⟩ : Answered)]).filter (·.heard) = answers.filter (·.heard) := by
    rw [gone,List.filter_append,Bool.not_true,List.filter_cons_of_neg Bool.false_ne_true,List.filter_nil,List.append_nil]
  unfold loses at lost
  split at lost
  case h_1 call serves =>
    obtain ⟨answer,ctl,rfl,top,queued⟩ := serving_some serves
    obtain ⟨gone,some⟩ := Bool.and_eq_true_iff.mp lost
    obtain ⟨t,taken⟩ : ∃ t, s.step (.serve answer) = .ok t := ⟨_,by simp only [step,serve,top,queued]; rfl⟩
    refine ⟨t,taken,fun ⟨before,after,_⟩ => ?_⟩
    simp only [step,serve,top,queued] at taken
    cases taken
    have left := before.count
    have right := after.count
    simp only [heard,unheard gone,List.length_nil] at left right
    have nonempty : 0 < s.worker.events.length := by
      rw [List.length_pos_iff]
      simpa using some
    omega
  case h_2 call serves =>
    obtain ⟨answer,ctl,rfl,top,queued⟩ := serving_some serves
    obtain ⟨gone,some⟩ := Bool.and_eq_true_iff.mp lost
    obtain ⟨t,taken⟩ : ∃ t, s.step (.serve answer) = .ok t := ⟨_,by simp only [step,serve,top,queued]; rfl⟩
    refine ⟨t,taken,fun ⟨_,_,reaches⟩ => ?_⟩
    simp only [step,serve,top,queued] at taken
    cases taken
    obtain ⟨r,c,covered⟩ := tracking.isDirty_iff.mp some
    rcases reaches r c covered with pending | ⟨a,inside,heard,_⟩
    · exact tracking.take_clean r c pending
    · rw [List.drop_left,List.mem_singleton] at inside
      rw [inside,gone] at heard
      cases heard
  case h_3 => cases lost

theorem run_tracking {labels : List Label} (tracking : s.Tracking) (ran : s.run labels = .ok t) : t.Tracking :=
  run_keeps (fun _ _ _ tracking taken => (step_acts taken).tracking tracking) tracking ran

/-- What the steps of a run that lose nothing keep. -/
theorem run_delivers {labels : List Label} (all : s.AllHeard) (tracking : s.Tracking)
    (meets : StepsMeet step (fun s a => s.loses a = false) s labels) (ran : s.run labels = .ok t) :
    t.AllHeard ∧ s.DirtyReaches t ∧ s.history.answers <+: t.history.answers := by
  induction labels generalizing s with
  | nil => cases ran; exact ⟨all,.refl _,List.prefix_rfl⟩
  | cons a labels ih =>
    rw [run,List.foldlM_cons] at ran
    obtain ⟨u,taken,rest⟩ := bind_ok_iff.mp ran
    have acts := step_acts taken
    obtain ⟨heard,later,answers⟩ := ih (acts.allHeard all meets.1) (acts.tracking tracking) (meets.2 u taken) rest
    exact ⟨heard,(acts.dirtyReaches tracking meets.1).trans later acts.answers_prefix answers,acts.answers_prefix.trans answers⟩

/-- In every run, all along: each event is returned to a caller, dropped and counted or
    still stashed, and each dirty cell is returned to a caller or still pending, exactly
    if no step drains something for a caller who gave up. -/
theorem delivered_iff (config : WorkerConfig) (labels : List Label) :
    (∀ before between after s t, labels = before ++ (between ++ after) → (new config).run before = .ok s →
      s.run between = .ok t → t.Delivered ∧ s.DirtyReaches t) ↔
    StepsMeet step (fun s a => s.loses a = false) (new config) labels := by
  have begun : (new config).Tracking := DirtyTracker.wellFormed_new
  have quiet : (new config).AllHeard := rfl
  have none : (new config).Accounts := Worker.accounts_new config
  constructor
  · intro always
    refine stepsMeet_iff.mpr fun before a after s split ran => ?_
    cases lost : s.loses a with
    | false => rfl
    | true =>
      obtain ⟨t,taken,broken⟩ := loses_step (run_tracking begun ran) lost
      have one : s.run [a] = .ok t := by rw [run,List.foldlM_cons,taken]; rfl
      have here := always before [] (a :: after) s s split ran rfl
      have next := always before [a] after s t split ran one
      exact absurd ⟨here.1,next.1,next.2⟩ broken
  · rintro meets before between after s t rfl ran later
    obtain ⟨first,rest⟩ := stepsMeet_append.mp meets
    obtain ⟨second,_⟩ := stepsMeet_append.mp (rest s ran)
    obtain ⟨heard,_,_⟩ := run_delivers quiet begun first ran
    obtain ⟨heard',reaches,_⟩ := run_delivers heard (run_tracking begun ran) second later
    exact ⟨heard'.delivered (run_accounts (run_accounts none ran) later),reaches⟩

end Session

end

section
attribute [local instance] byteParser blockWidth

/-- Two drains are queued while the worker feeds a printed cell and a bell, and both
    callers give up before it serves them. -/
theorem drained_unheard : ∃ s t : Session,
    (Session.new ⟨3,2,0,false,4,0⟩).run [.read (.data [0x41,0x07]),.send,.count,.timeout,.receive,.call .events,
      .call .dirtySpans,.take fun _ => {},.giveUp 0,.giveUp 1,.receive,.poll {} 0] = .ok s ∧
    s.run [.serve {},.receive,.poll {} 0,.serve {}] = .ok t ∧ ¬ t.Delivered ∧ ¬ s.DirtyReaches t := by
  refine ⟨_,_,rfl,rfl,fun delivered => ?_,fun reaches => ?_⟩
  · have count := Session.Delivered.count delivered
    revert count
    decide
  · have dirty := reaches 0 0 (.inr ⟨⟨0,0,1⟩,List.mem_cons_self,rfl,Nat.le_refl 0,Nat.one_pos⟩)
    rcases dirty with (all | ⟨_,none,_⟩) | ⟨a,inside,heard,_⟩
    · cases all
    · cases none
    · rcases inside with _ | ⟨_,_ | ⟨_,none⟩⟩
      · cases heard
      · cases heard
      · cases none

end

end Termpane
