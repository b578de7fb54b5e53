import Termpane.Delivery
import Termpane.Driving
import Termpane.Policy

/-!
# How much a session keeps

The worker drives its grid by calls of the host: it processes output and drains the
events, resizes, drains the damage, sets colours. Each collection it fills has a cap of
its own or is drained, but for two: the log of scrolls, which nobody in a session clears,
and the bytes withheld because they are no UTF-8.
-/
namespace Termpane

open Lib

/-- The calls the worker makes on its grid beside feeding it. -/
def HostCall.OfWorker : HostCall → Prop
  | .setSize _ _ | .dirtySpans | .setReportedColors _ _ => True
  | _ => False

section
variable [Vte]

namespace Session
variable {s t : Session} {a : Label}

/-- The batch a step feeds to the grid: none once the worker has finalized. -/
def feeds (s : Session) (a : Label) : Option Bytes := if s.worker.finalized then none else s.feeding a

variable [UnicodeWidth]

/-- What a step does to the grid: nothing, one call, or a batch and the drain after it. -/
inductive Drives (s : Session) (a : Label) (t : Session) : Prop
  | none (fed : s.feeds a = none) (grid : t.worker.grid = s.worker.grid)
  | host (c : HostCall) (kind : c.OfWorker) (fed : s.feeds a = none)
    (grid : t.worker.grid = { s.worker.grid with grid := s.worker.grid.grid.host c })
  | feed (batch : Bytes) (d : DamageGrid) (fed : s.feeds a = some batch) (ran : s.worker.grid.processAll (parts batch) = .ok d)
    (grid : t.worker.grid = { d with grid := d.grid.host .drainPassthrough })

/-- A step that takes no batch. -/
theorem Acts.drives (acts : s.Acts a t) (idle : s.feeding a = none) : s.Drives a t := by
  have none : s.feeds a = none := by simp [feeds,idle]
  cases acts with
  | idle worker _ => exact .none none (by rw [worker])
  | feed _ _ feeds _ _ => rw [idle] at feeds; cases feeds
  | endStream kind _ worker _ => exact .none none (by rw [worker]; rfl)
  | serve _ _ _ _ _ _ _ served _ =>
    have obeys := Worker.handleCtl_obeys served
    generalize worker : t.worker = w at obeys
    cases obeys with
    | keep | observe | write | events => exact .none none (by rw [worker])
    | dirtySpans => exact .host .dirtySpans trivial none (by rw [worker]; rfl)
    | resize cols rows => exact .host (.setSize rows cols) trivial none (by rw [worker]; rfl)
    | setColors fg bg => exact .host (.setReportedColors fg bg) trivial none (by rw [worker]; rfl)
    | _ => exact .none none (by rw [worker]; rfl)
  | poll child now worker _ =>
    obtain ⟨_,_,_,_,_,_,same⟩ := s.worker.pollExitState_exits child now
    exact .none none (by rw [worker,same])
  | close polled worker _ =>
    obtain ⟨_,_,_,_,_,_,same⟩ := s.worker.finishShutdown_exits polled
    exact .none none (by rw [worker,same])

omit [UnicodeWidth] in
theorem feeding_some {batch : Bytes} (feeding : s.feeding a = some batch) :
    ∃ answers budget last, a = .take answers ∧ s.pc = .holding (.bytes batch) budget last := by
  cases a with
  | take answers =>
    simp only [Session.feeding] at feeding
    split at feeding
    case h_1 budget last holding => cases feeding; exact ⟨answers,budget,last,rfl,holding⟩
    case h_2 => cases feeding
  | _ => cases feeding

theorem step_drives (taken : s.step a = .ok t) : s.Drives a t := by
  cases takes : s.feeding a with
  | none => exact (step_acts taken).drives takes
  | some batch =>
    obtain ⟨answers,budget,last,rfl,holding⟩ := feeding_some takes
    simp only [step,Session.take,holding] at taken
    obtain ⟨worker,fed,rest⟩ := bind_ok_iff.mp taken
    cases rest
    cases final : s.worker.finalized with
    | true =>
      have ok := Worker.feed_ok fed
      rw [final] at ok
      subst ok
      exact .none (by simp [feeds,final]) rfl
    | false =>
      obtain ⟨d,ran,grid⟩ := feed_drives fed final
      exact .feed batch d (by simp [feeds,final,takes]) ran grid

end Session

/-! ## The grid's collections -/

namespace DamageGrid
variable {d d' : DamageGrid} {limit : Nat}

/-- What the calls of a worker keep of its grid. -/
structure Kept (limit : Nat) (d : DamageGrid) : Prop where
  shape : d.Sound RowOk
  limit : d.grid.scrollbackLimit = limit
  damage : d.grid.dirty.WellFormed
  links : d.grid.recentHyperlinks.length ≤ osc8RecentMax
  keyboard : d.grid.kittyKbStack.length ≤ kittyKbStackCap

variable [UnicodeWidth]

theorem kept_new {rows cols : UInt16} (hasRows : 0 < rows) (hasCols : 0 < cols) (limit : Nat) : (new rows cols limit).Kept limit where
  shape := sound_new (rowOk_law fun _ => True).blank hasRows hasCols limit
  limit := rfl
  damage := DirtyTracker.wellFormed_new
  links := Nat.zero_le _
  keyboard := Nat.zero_le _

theorem Kept.host (kept : d.Kept limit) {c : HostCall} (kind : c.OfWorker ∨ c = .drainPassthrough) :
    { d with grid := d.grid.host c }.Kept limit := by
  have law := rowOk_law fun _ => True
  have shape : { d with grid := d.grid.host c }.Sound RowOk := { kept.shape with grid := kept.shape.grid.host law.blank law.resize c }
  cases c with
  | setSize rows cols => exact ⟨shape,kept.limit,(Grid.setSize_grows d.grid rows cols).damage kept.damage,kept.links,kept.keyboard⟩
  | dirtySpans => exact ⟨shape,kept.limit,kept.damage.take,kept.links,kept.keyboard⟩
  | setReportedColors fg bg => exact ⟨shape,kept.limit,kept.damage,kept.links,kept.keyboard⟩
  | drainPassthrough => exact ⟨shape,kept.limit,kept.damage,kept.links,kept.keyboard⟩
  | _ => rcases kind with none | none <;> cases none

theorem Kept.processAll (kept : d.Kept limit) {chunks : List Bytes} (ran : d.processAll chunks = .ok d') : d'.Kept limit := by
  have law := rowOk_law fun _ => True
  have shape : Ends (Sound RowOk) (· = .overflow) (d.processAll chunks) :=
    run_ends (fun chunk _ d sound => sound.process law (fun _ _ _ _ _ => trivial) chunk) kept.shape
  have limited := (stream_keeps (fun g => g.scrollbackLimit = limit) (fun _ _ => True)
    (fun g op shaped _ _ same => (shaped.exec_settings op).mono fun h settings => settings.1.trans same)
    kept.shape.grid (.of_all (fun _ _ _ => trivial) _) kept.limit ran).2
  have grown := (d.processAll_adds chunks).of_ok ran
  exact ⟨shape.of_ok ran,limited,grown.damage kept.damage,grown.links kept.links,grown.keyboard kept.keyboard⟩

/-- The scrolls that the operations of a stream log. -/
def scrolls (d : DamageGrid) (chunks : List Bytes) : List ScrollOp :=
  noted Grid.exec (fun g op log => log ++ g.recording op) d.grid (d.ops chunks) []

theorem Kept.scrollOps (kept : d.Kept limit) {chunks : List Bytes} (ran : d.processAll chunks = .ok d') :
    d'.grid.scrollOps = d.grid.scrollOps ++ d.scrolls chunks := by
  have performed := processAll_execAll d chunks
  rw [ran] at performed
  have noted := kept.shape.grid.execAll_notes (fun g log => g.scrollOps = d.grid.scrollOps ++ log) (fun g op log => log ++ g.recording op)
    (fun _ _ => True) (fun g op log shaped _ _ same => (shaped.exec_past op).mono fun h past => ?_)
    (d.ops_tame chunks) (.of_all (fun _ _ _ => trivial) _) (t := []) (List.append_nil _).symm
  · exact (noted.of_ok performed.symm).2
  · have logged : h.scrollOps = (g.ledgerAfter op).scrollOps := congrArg Ledger.scrollOps past
    rw [logged,Grid.ledgerAfter_scrollOps,same,List.append_assoc]

omit [Vte] [UnicodeWidth] in
theorem host_scrollOps {c : HostCall} (kind : c.OfWorker ∨ c = .drainPassthrough) (g : Grid) : (g.host c).scrollOps = g.scrollOps := by
  cases c with
  | clearScrollOps => rcases kind with none | none <;> cases none
  | _ => rfl

theorem Kept.pending (kept : d.Kept limit) {chunks : List Bytes} (ran : d.processAll chunks = .ok d') :
    d'.pendingUtf8 = held (d.pendingUtf8 ++ chunks.flatten) := by
  rw [processAll_eq] at ran
  cases handed : (slices d.pendingUtf8 chunks).1.foldlM advanceParser d with
  | error e => rw [handed] at ran; cases ran
  | ok fed =>
    rw [handed] at ran
    cases ran
    exact slices_pending kept.shape.carried chunks

end DamageGrid

/-! ## The session's collections -/

/-- The largest of the caps a session has from the start. -/
def WorkerConfig.caps (config : WorkerConfig) : Nat :=
  max (max config.eventCap 1) (max config.outputCapBytes (max config.scrollback maxTrackedDirtyRows))

namespace Session
variable {s t : Session} {a : Label} {config : WorkerConfig} {bound : Nat}

/-- Every collection of the worker and its grid has at most `bound` entries, and every
    cell that many scalars. -/
structure Within (bound : Nat) (s : Session) : Prop where
  stash : s.worker.events.length ≤ bound
  log : s.worker.outputLog.length ≤ bound
  passthrough : s.worker.grid.grid.passthrough.length ≤ bound
  scrollOps : s.worker.grid.grid.scrollOps.length ≤ bound
  pending : s.worker.grid.pendingUtf8.length ≤ bound
  keyboard : s.worker.grid.grid.kittyKbStack.length ≤ bound
  links : s.worker.grid.grid.recentHyperlinks.length ≤ bound
  scrollback : s.worker.grid.grid.scrollback.len ≤ bound
  damage : s.worker.grid.grid.dirty.rows.length ≤ bound
  scalars : s.worker.grid.grid.EveryRow fun row => ∀ c ∈ row, c.contents.length ≤ bound

variable [UnicodeWidth]

/-- The scrolls a step logs, with those logged before, and the bytes it withholds stay
    within the bound. -/
def Fits (bound : Nat) (s : Session) (a : Label) : Prop :=
  ∀ batch ∈ s.feeds a, s.worker.grid.grid.scrollOps.length + (s.worker.grid.scrolls (parts batch)).length ≤ bound ∧
    (held (s.worker.grid.pendingUtf8 ++ batch)).length ≤ bound

instance (bound : Nat) (s : Session) (a : Label) : Decidable (Fits bound s a) := by unfold Fits; infer_instance

/-- The batch a step feeds scrolls nothing and leaves at most an unfinished character. -/
def Tidy (s : Session) (a : Label) : Prop :=
  ∀ batch ∈ s.feeds a, s.worker.grid.scrolls (parts batch) = [] ∧ Unfinished (held (s.worker.grid.pendingUtf8 ++ batch))

/-- What every step keeps. -/
structure Kept (config : WorkerConfig) (s : Session) : Prop where
  grid : s.worker.grid.Kept config.scrollback
  accounts : s.Accounts
  settings : s.worker.settings = (config.eventCap,config.outputCapBytes,config.recordOutput)
  log : s.worker.outputLog.length ≤ s.worker.outputCapBytes

omit [UnicodeWidth] in
/-- All but two of the collections stay within the caps. -/
theorem Kept.within_iff (kept : s.Kept config) (caps : config.caps ≤ bound) : s.Within bound ↔
    s.worker.grid.grid.scrollOps.length ≤ bound ∧ s.worker.grid.pendingUtf8.length ≤ bound := by
  obtain ⟨eventCap,outputCap,_⟩ : s.worker.eventCap = config.eventCap ∧ s.worker.outputCapBytes = config.outputCapBytes ∧
      s.worker.recordOutput = config.recordOutput := by simpa [Worker.settings] using kept.settings
  have stash := kept.accounts.stash.room
  have log := kept.log
  have history := kept.grid.shape.grid.historyLimit
  rw [eventCap] at stash
  rw [outputCap] at log
  rw [kept.grid.limit] at history
  unfold WorkerConfig.caps maxTrackedDirtyRows at caps
  constructor
  · intro within
    exact ⟨within.scrollOps,within.pending⟩
  · rintro ⟨scrollOps,pending⟩
    have tracked := kept.grid.damage.room
    have links := kept.grid.links
    have keyboard := kept.grid.keyboard
    unfold maxTrackedDirtyRows at tracked
    unfold osc8RecentMax at links
    unfold kittyKbStackCap at keyboard
    refine ⟨?_,?_,?_,scrollOps,pending,?_,?_,?_,?_,fun row inside c cell => ?_⟩
    · omega
    · omega
    · rw [kept.accounts.drained]
      exact Nat.zero_le _
    · omega
    · omega
    · unfold RowStore.len
      omega
    · omega
    · have ok := kept.grid.shape.grid.everyRow row inside
      obtain ⟨j,_,rfl⟩ := mem_iff_cellAt.mp cell
      have scalars := (ok.cells j).scalars
      unfold maxClusterJoiners at scalars
      omega

omit [UnicodeWidth] in
/-- The log is cut at its cap, recorded or not. -/
theorem recordBatch_log (w : Worker) (batch : Bytes) (room : w.outputLog.length ≤ w.outputCapBytes) :
    (w.recordBatch batch).outputLog.length ≤ (w.recordBatch batch).outputCapBytes := by
  unfold Worker.recordBatch
  dsimp only
  split
  · split
    · exact room
    · simp only [List.length_append,List.length_take]
      omega
  · exact room

/-- The log through a step. -/
theorem Acts.log (acts : s.Acts a t) (room : s.worker.outputLog.length ≤ s.worker.outputCapBytes) :
    t.worker.outputLog.length ≤ t.worker.outputCapBytes := by
  cases acts with
  | idle worker _ => rwa [worker]
  | feed answers batch _ fed _ =>
    have ok := Worker.feed_ok fed
    split at ok
    · rw [ok]
      exact room
    · obtain ⟨p,pumped,_,same⟩ := ok
      obtain ⟨_,_,_,_,_,_,forwarded⟩ := (p.recordBatch batch).forwardEvents_forwards answers
      obtain ⟨_,_,_,_,rfl⟩ := (Worker.pump_ok pumped).2
      rw [same,forwarded]
      exact recordBatch_log _ batch room
  | endStream kind _ worker _ => rwa [worker]
  | serve _ _ _ _ _ _ _ served _ =>
    have obeys := Worker.handleCtl_obeys served
    generalize t.worker = w at obeys ⊢
    cases obeys <;> exact room
  | poll child now worker _ =>
    obtain ⟨_,_,_,_,_,_,same⟩ := s.worker.pollExitState_exits child now
    rw [worker,same]
    exact room
  | close polled worker _ =>
    obtain ⟨_,_,_,_,_,_,same⟩ := s.worker.finishShutdown_exits polled
    rw [worker,same]
    exact room

theorem Drives.kept (drives : s.Drives a t) (kept : s.worker.grid.Kept config.scrollback) : t.worker.grid.Kept config.scrollback := by
  cases drives with
  | none _ grid => rwa [grid]
  | host c kind _ grid =>
    rw [grid]
    exact kept.host (.inl kind)
  | feed batch d _ ran grid =>
    rw [grid]
    exact (kept.processAll ran).host (.inr rfl)

theorem Kept.step (kept : s.Kept config) (taken : s.step a = .ok t) : t.Kept config where
  grid := (step_drives taken).kept kept.grid
  accounts := (step_acts taken).accounts kept.accounts
  settings := (step_acts taken).settings.trans kept.settings
  log := (step_acts taken).log kept.log

/-- What a step makes of the two collections without a cap. -/
theorem Drives.fits_iff (drives : s.Drives a t) (kept : s.Kept config) (within : s.Within bound) :
    t.worker.grid.grid.scrollOps.length ≤ bound ∧ t.worker.grid.pendingUtf8.length ≤ bound ↔ Fits bound s a := by
  unfold Fits
  cases drives with
  | none fed grid =>
    rw [grid,fed]
    exact iff_of_true ⟨within.scrollOps,within.pending⟩ fun _ none => nomatch none
  | host c kind fed grid =>
    rw [grid,fed]
    refine iff_of_true ⟨?_,within.pending⟩ fun _ none => nomatch none
    rw [DamageGrid.host_scrollOps (.inl kind)]
    exact within.scrollOps
  | feed batch d fed ran grid =>
    have scrolls := kept.grid.scrollOps ran
    have pending := kept.grid.pending ran
    rw [parts_flatten] at pending
    rw [grid,fed]
    simp only [Option.mem_def,Option.some.injEq,forall_eq']
    rw [DamageGrid.host_scrollOps (.inr rfl),scrolls,pending,List.length_append]

theorem Drives.unlogged (drives : s.Drives a t) (kept : s.Kept config) (tidy : Tidy s a) (none : s.worker.grid.grid.scrollOps = []) :
    t.worker.grid.grid.scrollOps = [] := by
  cases drives with
  | none _ grid => rwa [grid]
  | host c kind _ grid => rwa [grid,DamageGrid.host_scrollOps (.inl kind)]
  | feed batch d fed ran grid => rw [grid,DamageGrid.host_scrollOps (.inr rfl),kept.grid.scrollOps ran,none,(tidy batch fed).1,List.append_nil]

omit [Vte] [UnicodeWidth] in
theorem unfinished_length_le {pending : Bytes} (unfinished : Unfinished pending) : pending.length ≤ 4 := by
  rcases unfinished with rfl | ⟨c,start,_⟩
  · exact Nat.zero_le _
  · exact start.length_le.trans (encode_length_le c)

theorem Tidy.fits (tidy : Tidy s a) (none : s.worker.grid.grid.scrollOps = []) : Fits config.caps s a := by
  intro batch fed
  obtain ⟨unlogged,unfinished⟩ := tidy batch fed
  have short := unfinished_length_le unfinished
  rw [none,unlogged]
  unfold WorkerConfig.caps maxTrackedDirtyRows
  constructor
  · exact Nat.zero_le _
  · omega

theorem kept_begun {config : WorkerConfig} (hasRows : 0 < config.rows) (hasCols : 0 < config.cols) : (new config).Kept config :=
  ⟨DamageGrid.kept_new hasRows hasCols config.scrollback,Worker.accounts_new config,rfl,Nat.zero_le _⟩

theorem within_caps_iff {config : WorkerConfig} (hasRows : 0 < config.rows) (hasCols : 0 < config.cols) {bound : Nat}
    (caps : config.caps ≤ bound) {labels : List Label} {s : Session} (ran : (new config).run labels = .ok s) :
    (∀ before after t, labels = before ++ after → (new config).run before = .ok t → t.Within bound) ↔
      StepsMeet step (Fits bound) (new config) labels := by
  have begun := kept_begun hasRows hasCols
  refine run_always_iff_of_ran (fun s : Session => s.Kept config) (fun s a t kept taken => kept.step taken) ?_ begun ?_ ran
  · intro s a t kept within taken
    exact ((kept.step taken).within_iff caps).trans ((step_drives taken).fits_iff kept within)
  · exact (begun.within_iff caps).mpr ⟨Nat.zero_le _,Nat.zero_le _⟩

/-- A run whose batches scroll nothing and leave at most an unfinished character keeps
    every collection within the caps. In any run they stay within a bound no less than
    the caps exactly if no step brings the scrolls logged or the bytes withheld above it. -/
theorem memory_within_iff {config : WorkerConfig} (hasRows : 0 < config.rows) (hasCols : 0 < config.cols) {labels : List Label}
    {s : Session} (ran : (new config).run labels = .ok s) :
    (StepsMeet step Tidy (new config) labels →
      ∀ before after t, labels = before ++ after → (new config).run before = .ok t → t.Within config.caps) ∧
    ∀ bound, config.caps ≤ bound →
      ((∀ before after t, labels = before ++ after → (new config).run before = .ok t → t.Within bound) ↔
        StepsMeet step (Fits bound) (new config) labels) := by
  refine ⟨fun tidy => ?_,fun bound caps => within_caps_iff hasRows hasCols caps ran⟩
  rw [within_caps_iff hasRows hasCols (le_refl _) ran]
  have kept : StepsMeet step (fun s a => (s.Kept config ∧ s.worker.grid.grid.scrollOps = []) ∧ Tidy s a) (new config) labels := by
    refine tidy.invariant (fun s a t inv tidy taken => ⟨inv.1.step taken,?_⟩) ⟨kept_begun hasRows hasCols,rfl⟩
    exact (step_drives taken).unlogged inv.1 tidy inv.2
  exact kept.mono fun s a _ known => Tidy.fits known.2 known.1.2

end Session

end

/-! ## No bound -/

section
attribute [local instance] byteParser blockWidth

theorem memory_within_printed : ∃ s : Session,
    (Session.new ⟨3,2,0,false,4,0⟩).run [.read (.data [0x41]),.send,.count,.timeout,.receive,.take fun _ => {}] = .ok s ∧
    ∀ before after t, [.read (.data [0x41]),.send,.count,.timeout,.receive,.take fun _ => {}] = before ++ after →
      (Session.new ⟨3,2,0,false,4,0⟩).run before = .ok t →
        t.Within (⟨3,2,0,false,4,0⟩ : WorkerConfig).caps ∧ t.Within 64 := by
  have hasRows : 0 < (⟨3,2,0,false,4,0⟩ : WorkerConfig).rows := by decide
  have hasCols : 0 < (⟨3,2,0,false,4,0⟩ : WorkerConfig).cols := by decide
  have known : ∃ s : Session,
      (Session.new ⟨3,2,0,false,4,0⟩).run [.read (.data [0x41]),.send,.count,.timeout,.receive,.take fun _ => {}] = .ok s :=
    ⟨_,rfl⟩
  -- the letter scrolls nothing, and nothing of it is withheld
  have quiet : StepsMeet Session.step
      (fun s a => ∀ batch ∈ s.feeds a, s.worker.grid.scrolls (parts batch) = [] ∧ held (s.worker.grid.pendingUtf8 ++ batch) = [])
      (Session.new ⟨3,2,0,false,4,0⟩) [.read (.data [0x41]),.send,.count,.timeout,.receive,.take fun _ => {}] := by decide
  obtain ⟨s,ran⟩ := known
  obtain ⟨tidy,fits⟩ := Session.memory_within_iff hasRows hasCols ran
  refine ⟨s,ran,fun before after t split reached => ⟨?_,?_⟩⟩
  · refine tidy (quiet.mono fun s a _ none batch fed => ?_) before after t split reached
    exact ⟨(none batch fed).1,.inl (none batch fed).2⟩
  · exact (fits 64 (by decide)).mpr (by decide) before after t split reached

/-- A session of one cell, where a line feed scrolls, with any log, counts and history. -/
def lined (w : Worker) (h : History) : Session :=
  let d : DamageGrid := .new 1 1 0
  { worker := { w with
      grid := { d with grid := { d.grid with
        modeFlags.mutatedSincePreserve := w.grid.grid.modeFlags.mutatedSincePreserve
        scrollOps := w.grid.grid.scrollOps
        dirty := w.grid.grid.dirty } }
      recordOutput := false
      wasInSync := false
      streamEnd := none
      exited := none
      finalized := false }
    history := h }

/-- The child prints one line feed, and the worker goes once around its loop. -/
def lineFeed : List Label :=
  [.read (.data [0x0a]),.send,.count,.timeout,.receive,.take fun _ => {},.receive,.poll {} 0]

/-- The worker once the line feed is fed. -/
def logged (w : Worker) : Worker :=
  { w with
    grid := { w.grid with grid := { w.grid.grid with
      modeFlags.mutatedSincePreserve := true
      scrollOps := w.grid.grid.scrollOps ++ [.up 0 0 1]
      dirty := w.grid.grid.dirty.markRows 0 0 } }
    bytesPumped := w.bytesPumped + 1
    feeds := w.feeds + 1
    revision := w.revision + 1
    shared.revision := w.revision + 1 }

theorem lineFeed_feeds (w : Worker) (h : History) (answers : Nat → ReplyAnswer) :
    (lined w h).worker.feed answers [0x0a] = .ok (lined (logged w) h).worker := by
  have parsed : Vte.advance (lined w h).worker.grid.parser [0x0a] = (Vte.start,[.execute 0x0a]) := by
    change Vte.advance Vte.start [0x0a] = _
    rfl
  have advanced : (lined w h).worker.grid.advanceParser [0x0a] = .ok (lined (logged w) h).worker.grid := by
    unfold DamageGrid.advanceParser
    rw [parsed]
    rfl
  have processed : (lined w h).worker.grid.process [0x0a] = .ok (lined (logged w) h).worker.grid := by
    change (lined w h).worker.grid.advanceParser [0x0a] >>= _ = _
    rw [advanced]
    rfl
  change ((lined w h).worker.grid.process [0x0a] >>= _) >>= _ = _
  rw [processed]
  rfl

theorem lineFeed_logs (w : Worker) (h : History) : ∃ h', (lined w h).run lineFeed = .ok (lined (logged w) h') := by
  have counted : (0 : UInt64) + 1 - 1 = 0 := rfl
  refine ⟨{ h with read := h.read ++ [0x0a], fed := h.fed ++ [0x0a], emitted := h.emitted ++ (lined w h).worker.emits [0x0a] },?_⟩
  change ((lined w h).worker.feed _ [0x0a] >>= _) >>= _ = _
  rw [lineFeed_feeds]
  change Except.ok { lined (logged w) _ with inflight := 0 + 1 - 1 } = _
  rw [counted]
  rfl

theorem lineFeeds_log (n : Nat) : ∀ (w : Worker) (h : History), ∃ w' h',
    (lined w h).run (List.replicate n lineFeed).flatten = .ok (lined w' h') ∧
      w'.grid.grid.scrollOps.length = w.grid.grid.scrollOps.length + n := by
  induction n with
  | zero => exact fun w h => ⟨w,h,rfl,rfl⟩
  | succ n ih =>
    intro w h
    obtain ⟨h₁,once⟩ := lineFeed_logs w h
    obtain ⟨w',h',rest,more⟩ := ih (logged w) h₁
    have one : (logged w).grid.grid.scrollOps.length = w.grid.grid.scrollOps.length + 1 := List.length_append
    refine ⟨w',h',?_,by omega⟩
    rw [List.replicate_succ,List.flatten_cons,Session.run,List.foldlM_append]
    rw [Session.run] at once
    rw [once]
    exact rest

/-- No bound holds of the log of scrolls, though geometry and caps are fixed. -/
theorem memory_unbounded : ¬ ∃ bound : UInt16 → UInt16 → Nat → Nat → Nat → Nat, ∀ (config : WorkerConfig) (labels : List Label) (s : Session),
    0 < config.rows → 0 < config.cols → (Session.new config).run labels = .ok s →
      s.Within (bound config.cols config.rows config.scrollback config.eventCap config.outputCapBytes) := by
  rintro ⟨bound,within⟩
  obtain ⟨w,h,ran,logged⟩ := lineFeeds_log (bound 1 1 0 4 0 + 1) (Session.new ⟨1,1,0,false,4,0⟩).worker {}
  have more : w.grid.grid.scrollOps.length ≤ bound 1 1 0 4 0 :=
    (within ⟨1,1,0,false,4,0⟩ _ _ (by decide) (by decide) ran).scrollOps
  have count : w.grid.grid.scrollOps.length = 0 + (bound 1 1 0 4 0 + 1) := logged
  omega

end

end Termpane
