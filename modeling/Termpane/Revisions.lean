import Termpane.ByteParser
import Termpane.Delivery

/-!
# A revision names a state of the model

The worker counts its revision up after each operation that can change what an
observation shows of the grid, the cursor, the colours or the modes, and publishes it
with the count. So the revision tells these facts apart, and an observation asked for
after a wait shows at least the state that was waited for.
-/
namespace Termpane

open Lib

/-- What a revision names. -/
def Observation.facts (o : Observation) : GridSnapshot × CursorState × ColorState × ModeState :=
  (o.grid,o.cursor,o.colors,o.modes)

/-- A later observation: its revision is no smaller, and the same only for the same facts. -/
def Observation.Before (o o' : Observation) : Prop :=
  o.revision ≤ o'.revision ∧ (o.revision = o'.revision → o.facts = o'.facts)

section
variable [Vte]

namespace Worker
variable {w w' : Worker}

/-- The facts a worker would show. -/
def facts (w : Worker) : GridSnapshot × CursorState × ColorState × ModeState := (w.observe 0).facts

/-- From a state to a later one: the revision rises, or the facts stay. -/
def Revises (w w' : Worker) : Prop :=
  (w.shared.revision = w.revision → w'.shared.revision = w'.revision) ∧
    (w.revision < w'.revision ∨ w'.revision = w.revision ∧ w'.facts = w.facts)

theorem Revises.refl (w : Worker) : w.Revises w := ⟨id,.inr ⟨rfl,rfl⟩⟩

theorem Revises.bump (same : w'.revision = w.revision) : w.Revises w'.bumpRevision :=
  ⟨fun _ => rfl,.inl (Nat.lt_succ_of_le (Nat.le_of_eq same.symm))⟩

theorem Exits.revises (exits : w.Exits w') : w.Revises w' := by
  obtain ⟨_,_,_,_,_,revision,rfl⟩ := exits
  exact ⟨fun published => revision.trans published,.inr ⟨rfl,rfl⟩⟩

theorem Obeys.revises {inflight : UInt64} {op : CtlOp} {reply : Option Answer} (obeys : w.Obeys inflight op w' reply) :
    w.Revises w' := by
  cases obeys with
  | resize cols rows => exact .bump rfl
  | closeInput => exact .bump rfl
  | setColors fg bg => exact .bump rfl
  | _ => exact ⟨id,.inr ⟨rfl,rfl⟩⟩

variable [UnicodeWidth]

theorem revises_feed {answers : Nat → ReplyAnswer} {batch : Bytes} (fed : w.feed answers batch = .ok w') : w.Revises w' := by
  have ok := feed_ok fed
  split at ok
  · rw [ok]
    exact ⟨id,.inr ⟨rfl,rfl⟩⟩
  · obtain ⟨p,pumped,_,rfl⟩ := ok
    obtain ⟨_,_,_,_,_,_,forwarded⟩ := (p.recordBatch batch).forwardEvents_forwards answers
    obtain ⟨_,_,_,recorded⟩ := p.recordBatch_eq batch
    obtain ⟨_,_,_,_,rfl⟩ := (pump_ok pumped).2
    refine .bump ?_
    rw [forwarded,recorded]
    rfl

end Worker

namespace Session
variable {s t : Session} {a : Label}

/-- The observations answered so far, in order. -/
def observations (s : Session) : List Observation := s.history.answers.filterMap (·.answer.observed)

/-- The revision published is the worker's, and of all observed so far it is the latest. -/
structure Named (s : Session) : Prop where
  published : s.worker.shared.revision = s.worker.revision
  past : ∀ o ∈ s.observations, o.Before (s.worker.observe 0)
  sorted : s.observations.Pairwise Observation.Before

/-- Calls are numbered as they are made. -/
structure Numbered (s : Session) : Prop where
  queued : ∀ c ∈ s.ctl, c.1 < s.calls
  answered : ∀ a ∈ s.history.answers, a.call < s.calls

theorem named_new (config : WorkerConfig) : (new config).Named := by
  have none : (new config).observations = [] := rfl
  refine ⟨rfl,?_,?_⟩
  · rw [none]; exact fun _ inside => absurd inside List.not_mem_nil
  · rw [none]; exact .nil

theorem numbered_new (config : WorkerConfig) : (new config).Numbered :=
  ⟨fun _ inside => absurd inside List.not_mem_nil,fun _ inside => absurd inside List.not_mem_nil⟩

theorem Numbered.serve {answer : CtlAnswer} (numbered : s.Numbered) (served : s.serve answer = .ok t) : t.Numbered := by
  unfold Session.serve at served
  split at served
  case h_1 call op ctl _ queued =>
    have entries := numbered.queued
    rw [queued] at entries
    have rest : ∀ c ∈ ctl, c.1 < s.calls := fun c inside => entries c (List.mem_cons_of_mem _ inside)
    obtain ⟨⟨worker,reply⟩,_,same⟩ := bind_ok_iff.mp served
    cases reply with
    | none => cases same; exact ⟨rest,numbered.answered⟩
    | some reply =>
      cases same
      refine ⟨rest,fun a inside => ?_⟩
      rcases List.mem_append.mp inside with old | new
      · exact numbered.answered a old
      · rw [List.mem_singleton.mp new]
        exact entries (call,op) List.mem_cons_self
  case h_2 => cases served; exact numbered

variable [UnicodeWidth]

theorem Acts.revises (acts : s.Acts a t) : s.worker.Revises t.worker := by
  cases acts with
  | idle worker _ => rw [worker]; exact .refl _
  | feed _ _ _ fed _ => exact Worker.revises_feed fed
  | endStream kind _ worker _ => rw [worker]; exact ⟨id,.inr ⟨rfl,rfl⟩⟩
  | serve _ _ _ _ _ _ _ served _ => exact (Worker.handleCtl_obeys served).revises
  | poll child now worker _ => rw [worker]; exact (s.worker.pollExitState_exits child now).revises
  | close polled worker _ => rw [worker]; exact (s.worker.finishShutdown_exits polled).revises

/-- A step answers with no observation, or with one of the state it leaves. -/
theorem Acts.observes (acts : s.Acts a t) : t.observations = s.observations ∨
    ∃ o, t.observations = s.observations ++ [o] ∧ o.revision = t.worker.revision ∧ o.facts = t.worker.facts := by
  unfold observations
  rcases acts.answers with same | ⟨call,_,reply,_,obeys,answers⟩
  · exact .inl (by rw [same])
  · cases shown : reply.observed with
    | none => exact .inl (by simp [answers,shown])
    | some o =>
      have unseen : o.revision = t.worker.revision ∧ o.facts = t.worker.facts := by
        generalize t.worker = w at obeys
        cases obeys with
        | keep _ _ plain => exact nomatch (plain reply rfl).2.2.symm.trans shown
        | observe => cases shown; exact ⟨rfl,rfl⟩
        | _ => cases shown
      exact .inr ⟨o,by simp [answers,shown],unseen⟩

theorem Named.step (named : s.Named) (acts : s.Acts a t) : t.Named := by
  obtain ⟨published,past,sorted⟩ := named
  obtain ⟨publishes,revised⟩ := acts.revises
  -- what was observed before is before the state the step leaves
  have earlier : ∀ o ∈ s.observations, o.Before (t.worker.observe 0) := by
    intro o inside
    obtain ⟨bound,names⟩ := past o inside
    change o.revision ≤ s.worker.revision at bound
    change o.revision ≤ t.worker.revision ∧ (o.revision = t.worker.revision → o.facts = t.worker.facts)
    rcases revised with more | ⟨same,facts⟩
    · exact ⟨by omega,fun equal => by omega⟩
    · exact ⟨by omega,fun equal => (names (equal.trans same)).trans facts.symm⟩
  rcases acts.observes with none | ⟨o,new,revision,facts⟩
  · exact ⟨publishes published,by rw [none]; exact earlier,by rw [none]; exact sorted⟩
  · have last : o.Before (t.worker.observe 0) := ⟨Nat.le_of_eq revision,fun _ => facts⟩
    refine ⟨publishes published,?_,?_⟩
    · rw [new]
      intro o' inside
      rcases List.mem_append.mp inside with old | added
      · exact earlier o' old
      · rw [List.mem_singleton.mp added]
        exact last
    · rw [new]
      refine List.pairwise_append.mpr ⟨sorted,List.pairwise_singleton _ _,fun o' inside o'' added => ?_⟩
      obtain ⟨bound,names⟩ := earlier o' inside
      rw [List.mem_singleton.mp added]
      exact ⟨bound.trans (Nat.le_of_eq revision.symm),fun equal => (names (equal.trans revision)).trans facts.symm⟩

/-- Those who call from the `n`-th call on observe a revision no less than the target. -/
def Since (target n : Nat) (s : Session) : Prop :=
  target ≤ s.worker.revision ∧ ∀ a ∈ s.history.answers, n ≤ a.call → ∀ o, a.answer.observed = some o → target ≤ o.revision

theorem Since.step {target n : Nat} (since : s.Since target n) (acts : s.Acts a t) : t.Since target n := by
  obtain ⟨reached,observed⟩ := since
  have rises : s.worker.revision ≤ t.worker.revision := by
    rcases acts.revises.2 with more | ⟨same,_⟩ <;> omega
  refine ⟨reached.trans rises,fun a' inside later o shown => ?_⟩
  rcases acts.answers with same | ⟨call,_,reply,_,obeys,answers⟩
  · exact observed a' (same ▸ inside) later o shown
  · rw [answers] at inside
    rcases List.mem_append.mp inside with old | new
    · exact observed a' old later o shown
    · rw [List.mem_singleton.mp new] at shown
      change reply.observed = some o at shown
      generalize t.worker = w at obeys
      cases obeys with
      | keep _ _ plain => exact nomatch (plain reply rfl).2.2.symm.trans shown
      | observe => cases shown; exact reached
      | _ => cases shown

omit [UnicodeWidth] in
/-- A step that queues nothing and answers nothing. -/
theorem Numbered.same (numbered : s.Numbered) (ctl : t.ctl = s.ctl) (calls : t.calls = s.calls)
    (answers : t.history.answers = s.history.answers) : t.Numbered :=
  ⟨fun c inside => calls ▸ numbered.queued c (ctl ▸ inside),fun a inside => calls ▸ numbered.answered a (answers ▸ inside)⟩

theorem Numbered.step (numbered : s.Numbered) (taken : s.step a = .ok t) : t.Numbered := by
  cases a with
  | read answer =>
    cases taken
    unfold Session.read
    split
    · split
      · dsimp only; split <;> exact numbered.same rfl rfl rfl
      all_goals exact numbered.same rfl rfl rfl
    · exact numbered
  | send =>
    cases taken
    unfold Session.send
    split
    · split
      · exact numbered.same rfl rfl rfl
      · split <;> exact numbered.same rfl rfl rfl
    · exact numbered
  | count =>
    cases taken
    unfold Session.count
    split <;> exact numbered.same rfl rfl rfl
  | leave =>
    cases taken
    unfold Session.leave
    split <;> exact numbered.same rfl rfl rfl
  | readerLost =>
    cases taken
    unfold Session.readerLost
    split <;> exact numbered.same rfl rfl rfl
  | call op =>
    cases taken
    refine ⟨fun c inside => ?_,fun a inside => Nat.lt_succ_of_lt (numbered.answered a inside)⟩
    rcases List.mem_append.mp inside with old | new
    · exact Nat.lt_succ_of_lt (numbered.queued c old)
    · rw [List.mem_singleton.mp new]
      exact Nat.lt_succ_self s.calls
  | giveUp call =>
    cases taken
    unfold Session.giveUp
    split <;> exact numbered.same rfl rfl rfl
  | serve answer => exact numbered.serve taken
  | timeout =>
    cases taken
    unfold Session.timeout
    split <;> exact numbered.same rfl rfl rfl
  | abort =>
    cases taken
    unfold Session.abort
    split <;> exact numbered.same rfl rfl rfl
  | receive =>
    cases taken
    unfold Session.receive
    split
    · split
      · exact numbered.same rfl rfl rfl
      · split <;> exact numbered.same rfl rfl rfl
    · exact numbered
  | take answers =>
    change s.take answers = .ok t at taken
    unfold Session.take at taken
    split at taken
    case h_1 msg budget last holding =>
      cases msg with
      | bytes batch =>
        obtain ⟨worker,_,rest⟩ := bind_ok_iff.mp taken
        cases rest
        exact numbered.same rfl rfl rfl
      | streamEnd kind => cases taken; exact numbered.same rfl rfl rfl
    case h_2 => cases taken; exact numbered
  | poll child now =>
    cases taken
    unfold Session.poll
    split <;> exact numbered.same rfl rfl rfl
  | close polled =>
    cases taken
    unfold Session.close
    split <;> exact numbered.same rfl rfl rfl

/-- Revisions never decrease from one observation to the next and tell their facts
    apart, and who observes after a wait sees at least the revision waited for. -/
theorem revision_names_state {config : WorkerConfig} {before after : List Label} (ran : (new config).run before = .ok s)
    (later : s.run after = .ok t) : t.observations.Pairwise Observation.Before ∧
      ∀ target r, s.waitRevision target = some r → ∀ a ∈ t.history.answers, s.calls ≤ a.call →
        ∀ o, a.answer.observed = some o → target ≤ o.revision := by
  have named : s.Named := run_keeps (fun s a t named taken => named.step (step_acts taken)) (named_new config) ran
  have numbered : s.Numbered := run_keeps (fun s a t numbered taken => numbered.step taken) (numbered_new config) ran
  have sorted : t.Named := run_keeps (fun s a t named taken => named.step (step_acts taken)) named later
  refine ⟨sorted.sorted,fun target r waited => ?_⟩
  have reached : target ≤ s.worker.revision := by
    unfold waitRevision at waited
    rw [named.published] at waited
    split at waited
    case isTrue enough => exact enough
    case isFalse => cases waited
  have since : s.Since target s.calls :=
    ⟨reached,fun a inside late => absurd (numbered.answered a inside) (Nat.not_lt.mpr late)⟩
  exact (run_keeps (fun s a t since taken => Since.step since (step_acts taken)) since later).2

end Session

end

section
attribute [local instance] byteParser blockWidth

/-- A caller observes, and the child prints a letter. -/
def observedThenFed : List Label :=
  [.call .observe,.serve {},.read (.data [0x41]),.send,.count,.receive,.take fun _ => {},.receive,.poll {} 0]

/-- A caller waits for the first revision, and observes it. -/
theorem revision_names_letter : ∃ s t,
    (Session.new ⟨3,2,0,false,4,0⟩).run observedThenFed = .ok s ∧ s.run [.call .observe,.serve {}] = .ok t ∧
    t.observations.length = 2 ∧ s.waitRevision 1 = some 1 ∧ t.observations.Pairwise Observation.Before ∧
      ∀ target r, s.waitRevision target = some r → ∀ a ∈ t.history.answers, s.calls ≤ a.call →
        ∀ o, a.answer.observed = some o → target ≤ o.revision := by
  have names {s t : Session} (ran : (Session.new ⟨3,2,0,false,4,0⟩).run observedThenFed = .ok s)
      (later : s.run [.call .observe,.serve {}] = .ok t) := Session.revision_names_state ran later
  exact ⟨_,_,rfl,rfl,rfl,rfl,names rfl rfl⟩

end

end Termpane
