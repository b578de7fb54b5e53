import Termpane.ByteParser
import Termpane.WorkerFrames
import Termpane.Lib.Merge

/-!
# What the worker accounts for

Three buffers stand between the grid and the handle: the replies that go to stdin, the
stash of events, which drops its oldest, and the log of the output, which keeps its
front. The counters beside them account for everything the grid emits.
-/
namespace Termpane

open Lib

def PassthroughEvent.isReply : PassthroughEvent → Bool
  | .reply _ => true
  | _ => false

/-- The events handed out so far. -/
def handedOut (answers : List Answered) : List PassthroughEvent := answers.flatMap fun a => a.answer.handsOut

/-- The replies among events, and the rest. -/
def replies (events : List PassthroughEvent) : List PassthroughEvent := events.filter (·.isReply)
def notReplies (events : List PassthroughEvent) : List PassthroughEvent := events.filter fun e => !e.isReply

theorem replies_append (left right : List PassthroughEvent) : replies (left ++ right) = replies left ++ replies right :=
  List.filter_append _ _

theorem notReplies_append (left right : List PassthroughEvent) :
    notReplies (left ++ right) = notReplies left ++ notReplies right := List.filter_append _ _

theorem handedOut_append (answers : List Answered) (a : Answered) :
    handedOut (answers ++ [a]) = handedOut answers ++ a.answer.handsOut := by simp [handedOut]

section
variable [Vte]

namespace Worker
variable {w : Worker} {emitted handed : List PassthroughEvent} {fed : Bytes}

/-- Each event that is not a reply was handed out, or dropped as the oldest there was,
    or is still stashed; `handed` are those handed out. -/
structure Stashes (w : Worker) (emitted handed : List PassthroughEvent) : Prop where
  events : ∃ gone dropped, notReplies emitted = gone ++ w.events ∧ Merge handed dropped gone ∧
    dropped.length = w.eventsDropped
  room : w.events.length ≤ max w.eventCap 1

/-- Each reply was written, refused without a writer, or failed. -/
def Routes (w : Worker) (emitted : List PassthroughEvent) : Prop :=
  (replies emitted).length = w.repliesRouted + w.repliesDroppedNoWriter + w.replyWriteErrors

/-- The log is a prefix of the output, cut at the cap. -/
structure Logs (w : Worker) (fed : Bytes) : Prop where
  pumped : w.bytesPumped = fed.length
  total : w.recordOutput = true → w.outputBytesTotal = fed.length
  kept : w.recordOutput = true → w.outputLog = fed.take w.outputCapBytes
  truncated : w.recordOutput = true → (w.outputTruncated = true ↔ w.outputCapBytes < fed.length)

/-- All of it, between two steps of the worker. -/
structure Accounts (w : Worker) (fed : Bytes) (emitted handed : List PassthroughEvent) : Prop where
  drained : w.grid.grid.passthrough = []
  stash : w.Stashes emitted handed
  routes : w.Routes emitted
  log : w.Logs fed

/-- What the worker was opened with. -/
def settings (w : Worker) : Nat × Nat × Bool := (w.eventCap,w.outputCapBytes,w.recordOutput)

theorem accounts_new (config : WorkerConfig) : (new config).Accounts [] [] [] where
  drained := rfl
  stash := ⟨⟨[],[],rfl,.nil,rfl⟩,Nat.zero_le _⟩
  routes := rfl
  log := ⟨rfl,fun _ => rfl,fun _ => List.take_nil.symm,fun _ => iff_of_false (by simp [new]) (Nat.not_lt_zero _)⟩

/-- The fields each part of the account is about. -/
def stashed (w : Worker) : List PassthroughEvent × Nat × Nat := (w.events,w.eventsDropped,w.eventCap)
def routed (w : Worker) : Nat × Nat × Nat := (w.repliesRouted,w.repliesDroppedNoWriter,w.replyWriteErrors)
def logged (w : Worker) : Nat × Bool × Nat × Bytes × Bool × Nat :=
  (w.bytesPumped,w.recordOutput,w.outputBytesTotal,w.outputLog,w.outputTruncated,w.outputCapBytes)

variable {w' : Worker}

theorem Stashes.of_same (stash : w.Stashes emitted handed) (same : w'.stashed = w.stashed) : w'.Stashes emitted handed := by
  obtain ⟨events,dropped,cap⟩ : w'.events = w.events ∧ w'.eventsDropped = w.eventsDropped ∧ w'.eventCap = w.eventCap := by
    simpa [stashed] using same
  refine ⟨?_,?_⟩
  · rw [events,dropped]; exact stash.events
  · rw [events,cap]; exact stash.room

theorem Routes.of_same (routes : w.Routes emitted) (same : w'.routed = w.routed) : w'.Routes emitted := by
  obtain ⟨routed,unrouted,errors⟩ : w'.repliesRouted = w.repliesRouted ∧
      w'.repliesDroppedNoWriter = w.repliesDroppedNoWriter ∧ w'.replyWriteErrors = w.replyWriteErrors := by
    simpa [Worker.routed] using same
  unfold Routes
  rw [routed,unrouted,errors]
  exact routes

theorem Logs.of_same (log : w.Logs fed) (same : w'.logged = w.logged) : w'.Logs fed := by
  obtain ⟨pumped,recording,total,kept,truncated,room⟩ : w'.bytesPumped = w.bytesPumped ∧ w'.recordOutput = w.recordOutput ∧
      w'.outputBytesTotal = w.outputBytesTotal ∧ w'.outputLog = w.outputLog ∧ w'.outputTruncated = w.outputTruncated ∧
      w'.outputCapBytes = w.outputCapBytes := by simpa [logged] using same
  refine ⟨?_,?_,?_,?_⟩
  · rw [pumped]; exact log.pumped
  · rw [recording,total]; exact log.total
  · rw [recording,kept,room]; exact log.kept
  · rw [recording,truncated,room]; exact log.truncated

/-- What stays when nothing that is accounted for changes. -/
theorem Accounts.of_same (accounts : w.Accounts fed emitted handed)
    (passthrough : w'.grid.grid.passthrough = w.grid.grid.passthrough) (stash : w'.stashed = w.stashed)
    (routes : w'.routed = w.routed) (log : w'.logged = w.logged) : w'.Accounts fed emitted handed where
  drained := passthrough.trans accounts.drained
  stash := accounts.stash.of_same stash
  routes := accounts.routes.of_same routes
  log := accounts.log.of_same log

/-! ## The stash -/

/-- The loop of `stash_event` drops from the front until there is room. -/
theorem dropOldest_spec {fuel : Nat} (enough : w.events.length ≤ fuel) : ∃ dropped rest,
    w.events = dropped ++ rest ∧ rest.length < max w.eventCap 1 ∧
      dropOldest fuel w = { w with events := rest, eventsDropped := w.eventsDropped + dropped.length } := by
  induction fuel generalizing w with
  | zero =>
    have none : w.events = [] := List.eq_nil_of_length_eq_zero (Nat.le_zero.mp enough)
    exact ⟨[],w.events,rfl,by rw [none,List.length_nil]; omega,rfl⟩
  | succ fuel ih =>
    unfold dropOldest
    split
    case isFalse room => exact ⟨[],w.events,rfl,Nat.lt_of_not_le room,rfl⟩
    case isTrue full =>
      cases stashed : w.events with
      | nil => rw [stashed,List.length_nil] at full; omega
      | cons oldest rest =>
        have shorter : rest.length ≤ fuel := by rw [stashed,List.length_cons] at enough; omega
        obtain ⟨dropped,rest',split,room,same⟩ :=
          ih (w := { w with events := rest, eventsDropped := w.eventsDropped + 1 }) shorter
        refine ⟨oldest :: dropped,rest',by rw [show rest = dropped ++ rest' from split]; rfl,room,?_⟩
        rw [List.tail_cons,same,List.length_cons]
        simp only [Worker.mk.injEq,true_and,and_true]
        omega

theorem Stashes.stashEvent (stash : w.Stashes emitted handed) {e : PassthroughEvent} (event : e.isReply = false) :
    (w.stashEvent e).Stashes (emitted ++ [e]) handed := by
  obtain ⟨gone,dropped,split,merge,count⟩ := stash.events
  obtain ⟨oldest,rest,parts,room,same⟩ := dropOldest_spec (w := w) le_rfl
  have entered : notReplies [e] = [e] := by simp [notReplies,event]
  unfold Worker.stashEvent
  rw [same]
  refine ⟨⟨gone ++ oldest,dropped ++ oldest,?_,?_,?_⟩,?_⟩
  · rw [notReplies_append,entered,split,parts]; simp
  · have more := merge.append (.refl_right oldest)
    rwa [List.append_nil] at more
  · rw [List.length_append,count]
  · simp only [List.length_append,List.length_cons,List.length_nil]; omega

theorem Stashes.reply (stash : w.Stashes emitted handed) {e : PassthroughEvent} (event : e.isReply = true) :
    w.Stashes (emitted ++ [e]) handed := by
  have entered : notReplies [e] = [] := by simp [notReplies,event]
  refine ⟨?_,stash.room⟩
  rw [notReplies_append,entered,List.append_nil]
  exact stash.events

/-- An `Events` operation empties the stash. -/
theorem Stashes.handOut (stash : w.Stashes emitted handed) :
    { w with events := [] }.Stashes emitted (handed ++ w.events) := by
  obtain ⟨gone,dropped,split,merge,count⟩ := stash.events
  refine ⟨⟨gone ++ w.events,dropped,by rw [List.append_nil]; exact split,?_,count⟩,Nat.zero_le _⟩
  have more := merge.append (.refl_left w.events)
  rwa [List.append_nil] at more

/-! ## Replies -/

theorem Routes.routeReply (routes : w.Routes emitted) (answer : ReplyAnswer) {e : PassthroughEvent} (reply : e.isReply = true) :
    (w.routeReply answer).Routes (emitted ++ [e]) := by
  have entered : replies [e] = [e] := by simp [replies,reply]
  unfold Routes at routes ⊢
  rw [replies_append,entered,List.length_append,routes]
  unfold Worker.routeReply
  split
  · simp only [List.length_cons,List.length_nil]; omega
  · split
    · simp only [List.length_cons,List.length_nil]; omega
    · split
      · simp only [List.length_cons,List.length_nil]; omega
      · simp only [List.length_cons,List.length_nil]; omega

/-! ## Forwarding the events of a batch -/

theorem forwardEvent_reply (answers : Nat → ReplyAnswer) (w : Worker) {e : PassthroughEvent} (reply : e.isReply = true)
    (i : Nat) : forwardEvent answers w (e,i) = w.routeReply (answers i) := by
  cases e with
  | reply bytes => rfl
  | _ => cases reply

theorem forwardEvent_event (answers : Nat → ReplyAnswer) (w : Worker) {e : PassthroughEvent} (event : e.isReply = false)
    (i : Nat) : forwardEvent answers w (e,i) = w.stashEvent e := by
  cases e with
  | reply bytes => cases event
  | _ => rfl

theorem routeReply_stash (w : Worker) (answer : ReplyAnswer) :
    (w.routeReply answer).events = w.events ∧ (w.routeReply answer).eventsDropped = w.eventsDropped ∧
      (w.routeReply answer).eventCap = w.eventCap := by
  unfold routeReply
  split
  · exact ⟨rfl,rfl,rfl⟩
  · split
    · exact ⟨rfl,rfl,rfl⟩
    · split <;> exact ⟨rfl,rfl,rfl⟩

theorem Stashes.routeReply (stash : w.Stashes emitted handed) (answer : ReplyAnswer) :
    (w.routeReply answer).Stashes emitted handed := by
  obtain ⟨events,dropped,cap⟩ := w.routeReply_stash answer
  refine ⟨?_,?_⟩
  · rw [events,dropped]; exact stash.events
  · rw [events,cap]; exact stash.room

theorem Routes.stashEvent (routes : w.Routes emitted) {e : PassthroughEvent} (event : e.isReply = false) :
    (w.stashEvent e).Routes (emitted ++ [e]) := by
  have entered : replies [e] = [] := by simp [replies,event]
  obtain ⟨events,dropped,same⟩ := dropOldest_eq w.events.length w
  unfold Routes at routes ⊢
  rw [replies_append,entered,List.append_nil,routes]
  unfold Worker.stashEvent
  rw [same]

/-- One event is forwarded, and counted as what it is. -/
theorem forwardEvent_accounts (stash : w.Stashes emitted handed) (routes : w.Routes emitted) (answers : Nat → ReplyAnswer)
    (e : PassthroughEvent) (i : Nat) : (forwardEvent answers w (e,i)).Stashes (emitted ++ [e]) handed ∧
      (forwardEvent answers w (e,i)).Routes (emitted ++ [e]) := by
  cases kind : e.isReply with
  | true =>
    rw [forwardEvent_reply answers w kind]
    exact ⟨(stash.routeReply _).reply kind,routes.routeReply _ kind⟩
  | false =>
    rw [forwardEvent_event answers w kind]
    exact ⟨stash.stashEvent kind,routes.stashEvent kind⟩

theorem foldl_forwardEvent_accounts (answers : Nat → ReplyAnswer) (events : List PassthroughEvent) (i : Nat) :
    ∀ {w : Worker} {emitted : List PassthroughEvent}, w.Stashes emitted handed → w.Routes emitted →
      ((events.zipIdx i).foldl (forwardEvent answers) w).Stashes (emitted ++ events) handed ∧
        ((events.zipIdx i).foldl (forwardEvent answers) w).Routes (emitted ++ events) := by
  induction events generalizing i with
  | nil => intro w emitted stash routes; rw [List.append_nil]; exact ⟨stash,routes⟩
  | cons e events ih =>
    intro w emitted stash routes
    obtain ⟨stash',routes'⟩ := forwardEvent_accounts stash routes answers e i
    have rest := ih (i + 1) stash' routes'
    rwa [List.append_assoc,List.singleton_append] at rest

/-! ## The log -/

theorem Logs.recordBatch (log : w.Logs fed) (batch : Bytes) : (w.recordBatch batch).Logs (fed ++ batch) := by
  obtain ⟨pumped,total,kept,truncated⟩ := log
  unfold Worker.recordBatch
  dsimp only
  split
  case isFalse off =>
    exact ⟨by rw [List.length_append]; exact congrArg (· + batch.length) pumped,fun on => absurd on off,
      fun on => absurd on off,fun on => absurd on off⟩
  case isTrue on =>
    have total := total on
    have kept := kept on
    have truncated := truncated on
    split
    case isTrue full =>
      have beyond := truncated.mp full
      refine ⟨by rw [List.length_append]; exact congrArg (· + batch.length) pumped,
        fun _ => by rw [List.length_append]; exact congrArg (· + batch.length) total,fun _ => ?_,fun _ => ?_⟩
      · exact kept.trans (List.take_append_of_le_length (Nat.le_of_lt beyond)).symm
      · exact iff_of_true full (by rw [List.length_append]; exact Nat.lt_add_right _ beyond)
    case isFalse open_ =>
      have under : fed.length ≤ w.outputCapBytes := Nat.le_of_not_lt fun beyond => open_ (truncated.mpr beyond)
      have whole : w.outputLog = fed := kept.trans (List.take_of_length_le under)
      refine ⟨by rw [List.length_append]; exact congrArg (· + batch.length) pumped,
        fun _ => by rw [List.length_append]; exact congrArg (· + batch.length) total,fun _ => ?_,fun _ => ?_⟩
      · change w.outputLog ++ batch.take (min (w.outputCapBytes - w.outputLog.length) batch.length) = _
        change _ = (fed ++ batch).take w.outputCapBytes
        rw [whole,List.take_append,List.take_of_length_le under,List.append_cancel_left_eq,List.take_eq_take_iff]
        omega
      · have shut : w.outputTruncated = false := by simpa using open_
        change (w.outputTruncated || decide (min (w.outputCapBytes - w.outputLog.length) batch.length < batch.length)) =
          true ↔ w.outputCapBytes < (fed ++ batch).length
        rw [shut,Bool.false_or,decide_eq_true_iff,whole,List.length_append]
        omega

/-! ## The worker's functions -/

theorem Pumps.same (pumps : w.Pumps w') : w'.stashed = w.stashed ∧ w'.routed = w.routed ∧ w'.logged = w.logged := by
  obtain ⟨_,_,_,_,rfl⟩ := pumps
  exact ⟨rfl,rfl,rfl⟩

theorem recordBatch_same (w : Worker) (batch : Bytes) : (w.recordBatch batch).grid = w.grid ∧
    (w.recordBatch batch).stashed = w.stashed ∧ (w.recordBatch batch).routed = w.routed := by
  obtain ⟨_,_,_,same⟩ := w.recordBatch_eq batch
  rw [same]
  exact ⟨rfl,rfl,rfl⟩

theorem Forwards.same (forwards : w.Forwards w') : w'.grid = w.grid ∧ w'.logged = w.logged := by
  obtain ⟨_,_,_,_,_,_,rfl⟩ := forwards
  exact ⟨rfl,rfl⟩

theorem Accounts.forwardEvents (stash : w.Stashes emitted handed) (routes : w.Routes emitted) (log : w.Logs fed)
    (answers : Nat → ReplyAnswer) :
    (w.forwardEvents answers).bumpRevision.Accounts fed (emitted ++ w.grid.grid.passthrough) handed := by
  obtain ⟨grid,logs⟩ := (w.forwardEvents_forwards answers).same
  obtain ⟨stash',routes'⟩ := foldl_forwardEvent_accounts answers w.grid.grid.passthrough 0
    (w := w.drainPassthrough) (stash.of_same rfl) (routes.of_same rfl)
  refine ⟨?_,stash'.of_same rfl,routes'.of_same rfl,log.of_same logs⟩
  change (w.forwardEvents answers).grid.grid.passthrough = []
  rw [grid]
  rfl

variable [UnicodeWidth]

theorem Accounts.feed (accounts : w.Accounts fed emitted handed) {answers : Nat → ReplyAnswer} {batch : Bytes}
    (ran : w.feed answers batch = .ok w') :
    if w.finalized then w'.Accounts fed emitted handed
    else w'.Accounts (fed ++ batch) (emitted ++ w.emits batch) handed := by
  have ok := feed_ok ran
  split
  case isTrue final =>
    rw [if_pos final] at ok
    subst ok
    exact accounts.of_same rfl rfl rfl rfl
  case isFalse running =>
    rw [if_neg running] at ok
    obtain ⟨p,pumped,emits,rfl⟩ := ok
    obtain ⟨stashed,routed,logged⟩ := (pump_ok pumped).2.same
    obtain ⟨grid,stashed',routed'⟩ := p.recordBatch_same batch
    rw [emits,← grid]
    exact .forwardEvents (accounts.stash.of_same (stashed'.trans stashed)) (accounts.routes.of_same (routed'.trans routed))
      ((accounts.log.of_same logged).recordBatch batch) answers

omit [UnicodeWidth] in
theorem Accounts.nothing (accounts : w.Accounts fed emitted handed) : w.Accounts fed emitted (handed ++ []) := by
  rw [List.append_nil]; exact accounts

omit [UnicodeWidth] in
/-- A control operation, with what it hands out. -/
theorem Accounts.obeys {inflight : UInt64} {op : CtlOp} {reply : Option Answer} (accounts : w.Accounts fed emitted handed)
    (obeys : w.Obeys inflight op w' reply) :
    w'.Accounts fed emitted (handed ++ (reply.map Answer.handsOut).getD []) := by
  cases obeys with
  | keep _ _ plain =>
    have nothing : (reply.map Answer.handsOut).getD [] = [] := by
      cases reply with
      | none => rfl
      | some a => exact (plain a rfl).1
    rw [nothing]
    exact accounts.nothing
  | events => exact ⟨accounts.drained,accounts.stash.handOut,accounts.routes.of_same rfl,accounts.log.of_same rfl⟩
  | observe => exact accounts.nothing
  | dirtySpans => exact accounts.nothing.of_same rfl rfl rfl rfl
  | write => exact accounts.nothing.of_same rfl rfl rfl rfl
  | resize => exact accounts.nothing.of_same rfl rfl rfl rfl
  | closeInput => exact accounts.nothing.of_same rfl rfl rfl rfl
  | setColors => exact accounts.nothing.of_same rfl rfl rfl rfl

omit [UnicodeWidth] in
theorem Accounts.exits (accounts : w.Accounts fed emitted handed) (exits : w.Exits w') : w'.Accounts fed emitted handed := by
  obtain ⟨_,_,_,_,_,_,rfl⟩ := exits
  exact accounts.of_same rfl rfl rfl rfl

end Worker

namespace Session
variable [UnicodeWidth] {s t : Session} {a : Label}

/-- The account of the whole history. -/
def Accounts (s : Session) : Prop := s.worker.Accounts s.history.fed s.history.emitted (handedOut s.history.answers)

omit [UnicodeWidth] in
theorem told_eq {fed : Bytes} {emitted : List PassthroughEvent} {answers : List Answered}
    (told : s.told = (fed,emitted,answers)) : s.history.fed = fed ∧ s.history.emitted = emitted ∧ s.history.answers = answers := by
  simpa [Session.told] using told

theorem Acts.accounts (acts : s.Acts a t) (accounts : s.Accounts) : t.Accounts := by
  unfold Session.Accounts at accounts ⊢
  cases acts with
  | idle worker told =>
    obtain ⟨fed,emitted,answers⟩ := told_eq told
    rw [fed,emitted,answers,worker]
    exact accounts
  | feed _ batch _ ran told =>
    have next := accounts.feed ran
    split at told
    case isTrue final =>
      rw [if_pos final] at next
      obtain ⟨fed,emitted,answers⟩ := told_eq told
      rw [fed,emitted,answers]
      exact next
    case isFalse running =>
      rw [if_neg running] at next
      obtain ⟨fed,emitted,answers⟩ := told_eq told
      rw [fed,emitted,answers]
      exact next
  | endStream kind _ worker told =>
    obtain ⟨fed,emitted,answers⟩ := told_eq told
    rw [fed,emitted,answers,worker]
    exact accounts.of_same rfl rfl rfl rfl
  | serve _ call op _ reply _ _ served told =>
    obtain ⟨fed,emitted,answers⟩ := told_eq told
    have next := accounts.obeys (Worker.handleCtl_obeys served)
    rw [fed,emitted,answers]
    cases reply with
    | none => simpa using next
    | some reply =>
      rw [Option.toList_some,List.map_singleton,handedOut_append]
      exact next
  | poll child now worker told =>
    obtain ⟨fed,emitted,answers⟩ := told_eq told
    rw [fed,emitted,answers,worker]
    exact accounts.exits (s.worker.pollExitState_exits child now)
  | close polled worker told =>
    obtain ⟨fed,emitted,answers⟩ := told_eq told
    rw [fed,emitted,answers,worker]
    exact accounts.exits (s.worker.finishShutdown_exits polled)

/-- What a session is opened with stays. -/
theorem Acts.settings (acts : s.Acts a t) : t.worker.settings = s.worker.settings := by
  cases acts with
  | idle worker _ => rw [worker]
  | feed _ batch _ ran _ =>
    have ok := Worker.feed_ok ran
    split at ok
    · rw [ok]; rfl
    · obtain ⟨p,pumped,_,same⟩ := ok
      obtain ⟨_,_,_,_,rfl⟩ := (Worker.pump_ok pumped).2
      obtain ⟨_,_,_,recorded⟩ := Worker.recordBatch_eq { s.worker with
        grid := _, frames := _, shared := { s.worker.shared with frames := _ }, wasInSync := _ } batch
      obtain ⟨_,_,_,_,_,_,forwarded⟩ := Worker.forwardEvents_forwards (Worker.recordBatch _ batch) _
      rw [same,forwarded,recorded]
      rfl
  | endStream kind _ worker _ => rw [worker]; rfl
  | serve answer call op ctl reply _ _ served _ =>
    have obeys := Worker.handleCtl_obeys served
    generalize t.worker = w at obeys
    cases obeys <;> rfl
  | poll child now worker _ =>
    obtain ⟨_,_,_,_,_,_,same⟩ := s.worker.pollExitState_exits child now
    rw [worker,same]
    rfl
  | close polled worker _ =>
    obtain ⟨_,_,_,_,_,_,same⟩ := s.worker.finishShutdown_exits polled
    rw [worker,same]
    rfl

theorem run_settings {labels : List Label} (ran : s.run labels = .ok t) : t.worker.settings = s.worker.settings :=
  have same : s.worker.settings = s.worker.settings := rfl
  run_keeps (fun _ _ _ same taken => (step_acts taken).settings.trans same) same ran

theorem run_accounts (accounts : s.Accounts) {labels : List Label} (ran : s.run labels = .ok t) : t.Accounts :=
  run_keeps (fun _ _ _ accounts taken => (step_acts taken).accounts accounts) accounts ran

/-- In every state of every run, each reply the grid emitted is counted as written,
    refused or failed; its other events are, in order, a merge of those handed out and
    those dropped, and then those stashed; and the log is the front of the output. -/
theorem emitted_accounted {config : WorkerConfig} {labels : List Label} {s : Session}
    (ran : (new config).run labels = .ok s) :
    (replies s.history.emitted).length =
        s.worker.repliesRouted + s.worker.repliesDroppedNoWriter + s.worker.replyWriteErrors ∧
      (∃ gone dropped, notReplies s.history.emitted = gone ++ s.worker.events ∧
        Merge (handedOut s.history.answers) dropped gone ∧ dropped.length = s.worker.eventsDropped) ∧
      s.worker.events.length ≤ max config.eventCap 1 ∧
      (config.recordOutput = true →
        s.worker.outputBytesTotal = s.history.fed.length ∧
          s.worker.outputLog = s.history.fed.take (min config.outputCapBytes s.worker.outputBytesTotal) ∧
          (s.worker.outputTruncated = true ↔ config.outputCapBytes < s.worker.outputBytesTotal)) ∧
      s.worker.bytesPumped = s.history.fed.length ∧ s.worker.grid.grid.passthrough = [] := by
  obtain ⟨drained,stash,routes,log⟩ := run_accounts (s := new config) (Worker.accounts_new config) ran
  obtain ⟨eventCap,outputCap,recording⟩ : s.worker.eventCap = config.eventCap ∧
      s.worker.outputCapBytes = config.outputCapBytes ∧ s.worker.recordOutput = config.recordOutput := by
    simpa [Worker.settings,new,Worker.new] using run_settings ran
  refine ⟨routes,stash.events,eventCap ▸ stash.room,fun records => ?_,log.pumped,drained⟩
  rw [← recording] at records
  have total := log.total records
  refine ⟨total,?_,?_⟩
  · rw [total,← outputCap,log.kept records,List.take_eq_take_iff]
    omega
  · rw [total,← outputCap]; exact log.truncated records

end Session

end

section
attribute [local instance] byteParser blockWidth

/-- Two bells and a query, with room for one event and four bytes. -/
theorem emitted_accounted_bells : ∃ s : Session,
    (Session.new ⟨3,2,0,true,1,4⟩).run [.read (.data [0x07,0x07,0x1b,0x5b,0x63]),.send,.count,.timeout,.receive,.take fun _ => {}]
        = .ok s ∧
      s.worker.eventsDropped = 1 ∧ s.worker.repliesRouted = 1 ∧
      (replies s.history.emitted).length =
        s.worker.repliesRouted + s.worker.repliesDroppedNoWriter + s.worker.replyWriteErrors ∧
      (∃ gone dropped, notReplies s.history.emitted = gone ++ s.worker.events ∧
        Merge (handedOut s.history.answers) dropped gone ∧ dropped.length = s.worker.eventsDropped) ∧
      s.worker.events.length ≤ max 1 1 ∧
      (true = true →
        s.worker.outputBytesTotal = s.history.fed.length ∧
          s.worker.outputLog = s.history.fed.take (min 4 s.worker.outputBytesTotal) ∧
          (s.worker.outputTruncated = true ↔ 4 < s.worker.outputBytesTotal)) ∧
      s.worker.bytesPumped = s.history.fed.length ∧ s.worker.grid.grid.passthrough = [] :=
  ⟨_,rfl,rfl,rfl,Session.emitted_accounted (show (Session.new ⟨3,2,0,true,1,4⟩).run
    [.read (.data [0x07,0x07,0x1b,0x5b,0x63]),.send,.count,.timeout,.receive,.take fun _ => {}] = .ok _ from rfl)⟩

end

end Termpane
