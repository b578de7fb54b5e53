import Termpane.Session
import Termpane.WorkerFrames
import Termpane.Lib.Monitor

/-!
# The rendezvous with the handle

Callers wait for an outcome, a revision or a frame on the state the worker publishes,
under one mutex and one condition variable. No publication is slept through, and callers
whose condition holds, or whose session is closed, all return once the others are through.
-/
namespace Termpane

open Lib

/-- What the mutex guards. -/
structure SharedState extends Shared where
  teardownError : Option String := none

/-- What a caller waits for: `wait_outcome_changed`, `wait_revision`, `wait_frames_above`. -/
inductive Wait
  | outcomeChanged
  | revision (target : Nat)
  | framesAbove (baseline : Nat)
  deriving DecidableEq

/-- What is done under the mutex; `read` is any of the getters. -/
inductive Publication
  | publishOutcome (outcome : CaptureOutcome)
  | setRevision (revision : Nat)
  | setFrames (frames : Nat)
  | markClosed
  | recordTeardown (msg : String)
  | read

namespace SharedState

/-- The test at the top of a loop that waits: how the loop is left, if it is; the number
    is what the caller is told. The outcome is read by a call after it. -/
def exit (s : SharedState) : Wait → Option (Option Nat)
  | .outcomeChanged => if s.outcome.isNone && !s.closed then none else some none
  | .revision target =>
    if s.revision ≥ target then some (some s.revision)
    else if s.closed then some none
    else none
  | .framesAbove baseline =>
    if s.frames > baseline then some (some s.frames)
    else if s.closed then some none
    else none

/-- The state after it, and whether and when all are notified. -/
def publish (s : SharedState) : Publication → SharedState × Notice
  | .publishOutcome outcome =>
    if s.outcome.isNone then ({ s with outcome := some outcome },.held) else (s,.silent)
  | .setRevision revision => if s.revision ≠ revision then ({ s with revision := revision },.held) else (s,.silent)
  | .setFrames frames => if s.frames ≠ frames then ({ s with frames := frames },.held) else (s,.silent)
  -- the guard is a temporary, gone before the notice
  | .markClosed => ({ s with closed := true },.released)
  | .recordTeardown msg => ({ s with teardownError := s.teardownError.or (some msg) },.silent)
  | .read => (s,.silent)

/-- `Shared`, as what is guarded. -/
def guarded : Guarded SharedState Wait Publication where
  met s w := (s.exit w).isSome
  apply s p := (s.publish p).1
  notice s p := (s.publish p).2

/-- The error of a teardown ends no wait, and everything else that changes the state is told. -/
theorem publish_silent {s : SharedState} {p : Publication} (silent : (s.publish p).2 = .silent) (w : Wait) :
    (s.publish p).1.exit w = s.exit w := by
  cases p with
  | publishOutcome outcome =>
    simp only [publish] at silent ⊢
    split at silent
    case isTrue => cases silent
    case isFalse before => rw [if_neg before]
  | setRevision revision =>
    simp only [publish] at silent ⊢
    split at silent
    case isTrue => cases silent
    case isFalse same => rw [if_neg same]
  | setFrames frames =>
    simp only [publish] at silent ⊢
    split at silent
    case isTrue => cases silent
    case isFalse same => rw [if_neg same]
  | markClosed => cases silent
  | recordTeardown msg => cases w <;> rfl
  | read => rfl

theorem guarded_tells : guarded.Tells := fun s p w silent unmet => by
  have same : (s.publish p).1.exit w = s.exit w := publish_silent silent w
  change ((s.publish p).1.exit w).isSome = false
  rw [same]
  exact unmet

/-- Any number of threads that wait, publish and read. -/
abbrev Threads (n : Nat) := Monitor SharedState Wait Publication n

/-- Whoever sleeps though the loop would be left has a notice coming; and threads that are
    left to themselves, nobody calling and no time running out, come to rest within a bound
    that does not depend on the scheduler, and then the mutex is free and everyone inside
    sleeps in a loop that is not to be left. -/
theorem no_lost_wakeup {n : Nat} {s : SharedState} {turns : List (Fin n × Turn Wait Publication)} {m : Threads n}
    (ran : Monitor.run guarded { value := s } turns = some m) :
    (∀ i w, m.places i = .sleeping w → m.value.exit w ≠ none → ∃ j, (m.places j).tells = true) ∧
      ∀ (own : List (Fin n × Turn Wait Publication)) (m' : Threads n), (∀ turn ∈ own, turn.2.own = true) →
        Monitor.run guarded m own = some m' → own.length ≤ m.work ∧
          (Monitor.AtRest guarded m' → m'.owner = none ∧
            ∀ i, m'.places i = .idle ∨ ∃ w, m'.places i = .sleeping w ∧ m'.value.exit w = none) := by
  have safe := Monitor.run_safe guarded_tells (Monitor.safe_new s) ran
  refine ⟨fun i w sleeps left => safe.told i w sleeps (Option.isSome_iff_ne_none.mpr left),fun own m' each rest => ?_⟩
  have bound := Monitor.run_work each rest
  refine ⟨by omega,fun still => ?_⟩
  obtain ⟨free,all⟩ := (Monitor.run_safe guarded_tells safe rest).at_rest still
  refine ⟨free,fun i => (all i).imp_right ?_⟩
  rintro ⟨w,sleeps,unmet⟩
  exact ⟨w,sleeps,Option.isNone_iff_eq_none.mp (Option.isSome_eq_false_iff.mp unmet)⟩

/-- A caller waits for revision 1, and the worker has written it but not yet notified. -/
theorem no_lost_wakeup_revision : ∃ m m' : Threads 2,
    Monitor.run guarded { value := {} } [(0,.wait (.revision 1)),(0,.lock),(0,.check false),(1,.update (.setRevision 1)),
      (1,.lock),(1,.write)] = some m ∧ m.places 0 = .sleeping (.revision 1) ∧ (∃ j, (m.places j).tells = true) ∧
    Monitor.run guarded m [(1,.notify),(1,.unlock),(0,.lock),(0,.check false)] = some m' ∧ 4 ≤ m.work := by
  have known : ∃ m m' : Threads 2, Monitor.run guarded { value := {} } [(0,.wait (.revision 1)),(0,.lock),(0,.check false),
      (1,.update (.setRevision 1)),(1,.lock),(1,.write)] = some m ∧ m.places 0 = .sleeping (.revision 1) ∧ m.value.revision = 1 ∧
      Monitor.run guarded m [(1,.notify),(1,.unlock),(0,.lock),(0,.check false)] = some m' := ⟨_,_,rfl,rfl,rfl,rfl⟩
  obtain ⟨m,m',ran,sleeps,revision,rest⟩ := known
  obtain ⟨told,ends⟩ := no_lost_wakeup ran
  exact ⟨m,m',ran,sleeps,told 0 _ sleeps (by simp [exit,revision]),rest,(ends _ m' (by decide) rest).1⟩

end SharedState

/-! ## What the worker publishes -/

/-- A state some publications lead to. -/
def Shared.Leads (before after : Shared) : Prop :=
  ∃ published : List Publication, published.foldl (fun s p => (s.publish p).1) { before with } = ({ after with } : SharedState)

namespace Shared

theorem Leads.refl (s : Shared) : s.Leads s := ⟨[],rfl⟩

theorem Leads.trans {s t u : Shared} (left : s.Leads t) (right : t.Leads u) : s.Leads u := by
  obtain ⟨first,before⟩ := left
  obtain ⟨more,after⟩ := right
  exact ⟨first ++ more,by rw [List.foldl_append,before,after]⟩

theorem leads_setRevision (s : Shared) (revision : Nat) : s.Leads { s with revision := revision } := by
  refine ⟨[.setRevision revision],?_⟩
  simp only [List.foldl_cons,List.foldl_nil,SharedState.publish]
  split
  case isTrue => rfl
  case isFalse same =>
    obtain rfl : s.revision = revision := not_not.mp same
    rfl

theorem leads_setFrames (s : Shared) (frames : Nat) : s.Leads { s with frames := frames } := by
  refine ⟨[.setFrames frames],?_⟩
  simp only [List.foldl_cons,List.foldl_nil,SharedState.publish]
  split
  case isTrue => rfl
  case isFalse same =>
    obtain rfl : s.frames = frames := not_not.mp same
    rfl

theorem leads_publishOutcome (s : Shared) (outcome : CaptureOutcome) : s.Leads (s.publishOutcome outcome) := by
  refine ⟨[.publishOutcome outcome],?_⟩
  simp only [List.foldl_cons,List.foldl_nil,SharedState.publish,publishOutcome]
  split <;> rfl

theorem leads_markClosed (s : Shared) : s.Leads { s with closed := true } := ⟨[.markClosed],rfl⟩

end Shared

section
variable [Vte]

namespace Worker
variable {w w' : Worker}

theorem pollExitState_leads (w : Worker) (child : ChildPoll) (now : Nat) : w.shared.Leads (w.pollExitState child now).shared := by
  obtain ⟨_,_,same⟩ | ⟨_,_,_,_,same⟩ := w.pollExitState_eq child now
  · rw [same]
    exact .refl _
  · rw [same]
    exact Shared.leads_publishOutcome _ _

theorem finishShutdown_leads (w : Worker) (polled : Option ExitStatus) : w.shared.Leads (w.finishShutdown polled).shared := by
  obtain ⟨_,same⟩ | ⟨_,_,_,same⟩ := w.finishShutdown_eq polled
  · rw [same]
    exact Shared.leads_markClosed _
  · rw [same]
    exact (Shared.leads_publishOutcome _ _).trans (Shared.leads_markClosed _)

theorem feed_leads [UnicodeWidth] {answers : Nat → ReplyAnswer} {batch : Bytes} (fed : w.feed answers batch = .ok w') :
    w.shared.Leads w'.shared := by
  have ok := feed_ok fed
  split at ok
  · rw [ok]
    exact .refl _
  · obtain ⟨p,pumped,_,rfl⟩ := ok
    obtain ⟨grid,frames,shared,sync,rfl⟩ := (pump_ok pumped).2
    refine (w.shared.leads_setFrames shared).trans ?_
    obtain ⟨_,_,_,recorded⟩ := recordBatch_eq { w with
      grid := grid, frames := frames, shared := { w.shared with frames := shared }, wasInSync := sync } batch
    obtain ⟨_,_,_,_,_,_,forwarded⟩ := forwardEvents_forwards (recordBatch _ batch) answers
    rw [forwarded,recorded]
    exact Shared.leads_setRevision _ _

end Worker

namespace Session
variable [UnicodeWidth] {s t : Session} {a : Label}

/-- Whatever the worker does to the shared state in a step, it publishes. -/
theorem Acts.leads (acts : s.Acts a t) : s.worker.shared.Leads t.worker.shared := by
  cases acts with
  | idle worker _ => rw [worker]; exact .refl _
  | feed answers batch _ fed _ => exact Worker.feed_leads fed
  | endStream kind _ worker _ => rw [worker]; exact .refl _
  | serve answer call op ctl reply _ _ served _ =>
    have obeys := Worker.handleCtl_obeys served
    generalize t.worker = w at obeys ⊢
    cases obeys with
    | resize | closeInput | setColors => exact Shared.leads_setRevision _ _
    | _ => exact .refl _
  | poll child now worker _ => rw [worker]; exact s.worker.pollExitState_leads child now
  | close polled worker _ => rw [worker]; exact s.worker.finishShutdown_leads polled

theorem run_leads {labels : List Label} (ran : s.run labels = .ok t) : s.worker.shared.Leads t.worker.shared := by
  have leads : s.worker.shared.Leads s.worker.shared := .refl _
  exact run_keeps (fun _ _ _ (leads : s.worker.shared.Leads _) taken => leads.trans (step_acts taken).leads) leads ran

end Session

end

end Termpane
