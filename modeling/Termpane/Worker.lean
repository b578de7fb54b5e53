import Termpane.Observe
import Termpane.Serialize

/-!
# The session worker

`Worker` of `session_worker.rs`: the owner of the grid, and what it counts and keeps
beside it. What the system answers (whether stdin takes bytes, whether the child was
reaped, what the clock shows, whether teardown has begun) is an argument of each
function. Counters are unbounded, and instants are milliseconds.
-/
namespace Termpane

open Lib

def writeChunk : Nat := 4096
def drainGrace : Nat := 500

inductive StreamEndKind
  | cleanEof
  | readFailed (msg : String)
  deriving DecidableEq, Repr

inductive DataMsg
  | bytes (batch : Bytes)
  | streamEnd (kind : StreamEndKind)
  deriving DecidableEq, Repr

/-- The failures of `ProcessError` that the worker answers with. -/
inductive ProcessError
  | io (msg : String)
  | childExited (msg : String)
  | closed (msg : String)
  deriving DecidableEq, Repr

/-- An operation of the control channel, without its reply channel. -/
inductive CtlOp
  | snapshot
  | stateBytes
  | dirtySpans
  | events
  | outputLog
  | observe
  | write (bytes : Bytes)
  | resize (cols rows : UInt16)
  | closeInput
  | setColors (fg bg : Option (UInt8 × UInt8 × UInt8))
  | shutdown
  deriving DecidableEq, Repr

/-- What goes back on a reply channel. -/
inductive Answer
  | snapshot (s : GridSnapshot)
  | stateBytes (bytes : Bytes)
  | dirtySpans (spans : DirtySpans)
  | events (events : List PassthroughEvent)
  | outputLog (bytes : Bytes)
  | observation (o : Observation)
  | done (result : Except ProcessError Unit)

namespace Answer

/-- The events an answer hands out. -/
def handsOut : Answer → List PassthroughEvent
  | .events handed => handed
  | _ => []

/-- The dirty rows an answer hands out. -/
def spans : Answer → Option DirtySpans
  | .dirtySpans dirty => some dirty
  | _ => none

def observed : Answer → Option Observation
  | .observation o => some o
  | _ => none

/-- An answer with nothing drained and nothing observed. -/
def Plain (a : Answer) : Prop := a.handsOut = [] ∧ a.spans = none ∧ a.observed = none

end Answer

/-! ## Answers of the system -/

/-- For one reply: whether teardown has begun, and the error of the write. -/
structure ReplyAnswer where
  shutdown : Bool := false
  error : Option String := none

/-- A poll of the child: its status if it was reaped, and the time. -/
structure ChildPoll where
  status : Option ExitStatus := none
  now : Nat := 0

/-- For one chunk of a write to stdin. -/
structure ChunkAnswer where
  shutdown : Bool := false
  child : ChildPoll := {}
  error : Option String := none

/-- For one control operation: whether teardown has begun, the chunks of a write, and
    the error of a resize. -/
structure CtlAnswer where
  shutdown : Bool := false
  chunk : Nat → ChunkAnswer := fun _ => {}
  resizeError : Option String := none

/-! ## State -/

/-- The rendezvous with the handle. -/
structure Shared where
  outcome : Option CaptureOutcome := none
  revision : Nat := 0
  frames : Nat := 0
  closed : Bool := false

/-- `publish_outcome`: later declarations are dropped. -/
def Shared.publishOutcome (s : Shared) (outcome : CaptureOutcome) : Shared :=
  if s.outcome.isNone then { s with outcome := some outcome } else s

/-- What a session is opened with. -/
structure WorkerConfig where
  cols : UInt16
  rows : UInt16
  scrollback : Nat
  recordOutput : Bool
  eventCap : Nat
  outputCapBytes : Nat

section
variable [Vte]

structure Worker where
  writerOpen : Bool := true
  grid : DamageGrid
  events : List PassthroughEvent := []
  eventsDropped : Nat := 0
  eventCap : Nat
  outputLog : Bytes := []
  outputBytesTotal : Nat := 0
  outputTruncated : Bool := false
  outputCapBytes : Nat
  recordOutput : Bool
  repliesRouted : Nat := 0
  repliesDroppedNoWriter : Nat := 0
  replyWriteErrors : Nat := 0
  replyFirstError : Option String := none
  bytesPumped : Nat := 0
  feeds : Nat := 0
  droppedAfterDrain : Nat := 0
  resizes : Nat := 0
  revision : Nat := 0
  frames : Nat := 0
  wasInSync : Bool := false
  reportedFg : UInt8 × UInt8 × UInt8
  reportedBg : UInt8 × UInt8 × UInt8
  streamEnd : Option StreamEndKind := none
  finalStream : Option StreamState := none
  exited : Option ExitStatus := none
  exitSeenAt : Option Nat := none
  finalized : Bool := false
  shared : Shared := {}

namespace Worker

/-- The worker `run_worker` starts with. -/
def new (config : WorkerConfig) : Worker :=
  let profile : VirtualTerminalProfile := {}
  { grid := .new config.rows config.cols config.scrollback
    eventCap := config.eventCap
    outputCapBytes := config.outputCapBytes
    recordOutput := config.recordOutput
    reportedFg := profile.defaultReportedFg
    reportedBg := profile.defaultReportedBg }

def bumpRevision (w : Worker) : Worker :=
  { w with revision := w.revision + 1, shared.revision := w.revision + 1 }

/-! ## Output -/

def inSynchronizedUpdate (w : Worker) : Bool := w.grid.grid.modeFlags.synchronizedUpdate

def noteSyncSample (w : Worker) : Worker :=
  let nowIn := w.inSynchronizedUpdate
  let w := if w.wasInSync && !nowIn then { w with frames := w.frames + 1, shared.frames := w.frames + 1 } else w
  { w with wasInSync := nowIn }

/-- One turn of the loop of `stash_event`: make room at the front. -/
def dropOldest : Nat → Worker → Worker
  | 0, w => w
  | fuel+1, w =>
    if w.events.length ≥ max w.eventCap 1 then
      dropOldest fuel { w with events := w.events.tail, eventsDropped := w.eventsDropped + 1 }
    else w

/-- `stash_event`. The loop drops at most as many events as there are. -/
def stashEvent (w : Worker) (event : PassthroughEvent) : Worker :=
  let w := dropOldest w.events.length w
  { w with events := w.events ++ [event] }

/-- `route_reply`. -/
def routeReply (w : Worker) (answer : ReplyAnswer) : Worker :=
  if !w.writerOpen then { w with repliesDroppedNoWriter := w.repliesDroppedNoWriter + 1 }
  else if answer.shutdown then { w with repliesDroppedNoWriter := w.repliesDroppedNoWriter + 1 }
  else
    match answer.error with
    | none => { w with repliesRouted := w.repliesRouted + 1 }
    | some err =>
      { w with
        replyWriteErrors := w.replyWriteErrors + 1
        replyFirstError := w.replyFirstError.or (some ("pty reply write failed: " ++ err)) }

/-- The arms of the loop over drained events, the answers by position. -/
def forwardEvent (answers : Nat → ReplyAnswer) (w : Worker) (event : PassthroughEvent × Nat) : Worker :=
  match event.1 with
  | .reply _ => w.routeReply (answers event.2)
  | other => w.stashEvent other

/-- `for event in grid.drain_passthrough()`. -/
def forwardEvents (w : Worker) (answers : Nat → ReplyAnswer) : Worker :=
  w.grid.grid.passthrough.zipIdx.foldl (forwardEvent answers)
    { w with grid := { w.grid with grid := { w.grid.grid with passthrough := [] } } }

/-- The counters and the log of `feed`. -/
def recordBatch (w : Worker) (batch : Bytes) : Worker :=
  let w := { w with bytesPumped := w.bytesPumped + batch.length, feeds := w.feeds + 1 }
  if w.recordOutput then
    let w := { w with outputBytesTotal := w.outputBytesTotal + batch.length }
    if w.outputTruncated then w
    else
      let room := w.outputCapBytes - w.outputLog.length
      let take := min room batch.length
      { w with
        outputLog := w.outputLog ++ batch.take take
        outputTruncated := w.outputTruncated || decide (take < batch.length) }
  else w

variable [UnicodeWidth]

/-- `grid.process` and the sample after it. -/
def process (w : Worker) (bytes : Bytes) : Checked Worker := do
  let grid ← w.grid.process bytes
  return { w with grid := grid }.noteSyncSample

/-- The first part of `feed`: byte by byte if the batch has an ESC, so that no
    transition of the synchronized update is missed, and whole if not. -/
def pump (w : Worker) (batch : Bytes) : Checked Worker :=
  if batch.contains 0x1b then batch.foldlM (fun w byte => w.process [byte]) w else w.process batch

/-- `feed`. Output after finalization is counted and dropped. -/
def feed (w : Worker) (answers : Nat → ReplyAnswer) (batch : Bytes) : Checked Worker :=
  if w.finalized then .ok { w with droppedAfterDrain := w.droppedAfterDrain + 1 }
  else do
    let w ← w.pump batch
    return ((w.recordBatch batch).forwardEvents answers).bumpRevision

/-- What the grid emits while a batch is fed. -/
def emits (w : Worker) (batch : Bytes) : List PassthroughEvent :=
  match w.pump batch with
  | .ok w' => w'.grid.grid.passthrough
  | .error _ => []

omit [UnicodeWidth]

/-- A `StreamEnd` message, and a disconnect without one: the first counts. -/
def endStream (w : Worker) (kind : StreamEndKind) : Worker := { w with streamEnd := w.streamEnd.or (some kind) }

/-! ## The child's exit -/

/-- `poll_exit_observed`. -/
def pollExitObserved (w : Worker) (child : ChildPoll) : Bool × Worker :=
  if w.exited.isSome then (true,w)
  else
    match child.status with
    | some status => (true,{ w with exited := some status, exitSeenAt := some child.now })
    | none => (false,w)

/-- How the stream has ended, or else how giving up on it is reported. -/
def endOr (w : Worker) (otherwise : StreamState) : StreamState :=
  match w.streamEnd with
  | some .cleanEof => .cleanEof
  | some (.readFailed msg) => .readFailed msg
  | none => otherwise

/-- Finalization: the stream is frozen and the outcome published. -/
def finalize (w : Worker) (stream : StreamState) (exit : ExitStatus) : Worker :=
  { w with
    finalized := true
    finalStream := some stream
    shared := w.shared.publishOutcome
      { exit := exit, stream := stream, revision := w.revision, bytesPumped := w.bytesPumped, droppedAfterDrain := 0 } }

/-- `poll_exit_state`, at a time `now` for the grace. -/
def pollExitState (w : Worker) (child : ChildPoll) (now : Nat) : Worker :=
  if w.finalized then w
  else
    match w.pollExitObserved child with
    | (false,w) => w
    | (true,w) =>
      let graceOver := w.exitSeenAt.any fun t => now - t ≥ drainGrace
      if w.streamEnd.isNone && !graceOver then w
      else
        match w.exited with
        | some exit => w.finalize (w.endOr .drainExpired) exit
        | none => { w with finalized := true, finalStream := some (w.endOr .drainExpired) }

/-- `shutdown_and_exit` after its drain and the reaping of the child, with what the
    last poll of the child found. -/
def finishShutdown (w : Worker) (polled : Option ExitStatus) : Worker :=
  let w := { w with exited := w.exited.or polled }
  let w := if w.finalized then w else w.finalize (w.endOr .aborted) (w.exited.getD .unknown)
  { w with shared.closed := true }

/-! ## Observation -/

/-- `stream_state`. -/
def streamState (w : Worker) : StreamState := w.endOr (w.finalStream.getD .streaming)

/-- `observe`, with what `inflight` holds. -/
def observe (w : Worker) (inflight : UInt64) : Observation :=
  let g := w.grid.grid
  { revision := w.revision
    grid := g.dump
    cursor :=
      { position := (g.cursorRow,g.cursorCol)
        visible := !g.modeFlags.hideCursor
        style := g.cursorStyle
        textCursorEnable := g.textCursorEnable }
    colors :=
      { reportedFg := w.reportedFg
        reportedBg := w.reportedBg
        currentFg := g.currentAttrs.foreground
        currentBg := g.currentAttrs.background }
    modes :=
      { alternateScreen := g.modeFlags.altScreen
        autowrap := g.autowrap
        applicationCursor := g.modeFlags.applicationCursor
        applicationKeypad := g.modeFlags.applicationKeypad
        bracketedPaste := g.modeFlags.bracketedPaste
        focusEvents := g.modeFlags.focusEvents
        mouseMode := g.mouseMode
        mouseEncoding := g.mouseEncoding
        kittyKeyboard := g.kittyKbFlags
        inSynchronizedUpdate := w.inSynchronizedUpdate
        midSequence := w.grid.midSequence }
    completeness := { exit := w.exited, stream := w.streamState, finalized := w.finalized }
    diagnostics :=
      { bytesPumped := w.bytesPumped
        feeds := w.feeds
        droppedAfterDrain := w.droppedAfterDrain
        eventsStashed := w.events.length
        eventsDropped := w.eventsDropped
        outputBytesKept := w.outputLog.length
        outputBytesTotal := w.outputBytesTotal
        outputTruncated := w.outputTruncated
        repliesRouted := w.repliesRouted
        repliesDroppedNoWriter := w.repliesDroppedNoWriter
        replyWriteErrors := w.replyWriteErrors
        replyFirstError := w.replyFirstError
        syncFramesCompleted := w.frames
        resizes := w.resizes
        stdinOpen := w.writerOpen
        queuedBatches := inflight } }

/-! ## Control operations -/

/-- The loop of `apply_write` over the chunks from the `i`-th on. -/
def writeChunks (answers : Nat → ChunkAnswer) : Nat → List Bytes → Worker → Worker × Except ProcessError Unit
  | _, [], w => (w,.ok ())
  | i, _ :: chunks, w =>
    if (answers i).shutdown then (w,.error (.closed "session is closed"))
    else
      match w.pollExitObserved (answers i).child with
      | (true,w) => (w,.error (.childExited "child exited during stdin write"))
      | (false,w) =>
        if !w.writerOpen then (w,.error (.closed "stdin is closed"))
        else
          match (answers i).error with
          | some err => (w,.error (.io ("pty write failed: " ++ err)))
          | none => writeChunks answers (i + 1) chunks w

/-- `apply_write`. -/
def applyWrite (w : Worker) (answer : CtlAnswer) (bytes : Bytes) : Worker × Except ProcessError Unit :=
  if w.exited.isSome then (w,.error (.childExited "child already exited"))
  else if answer.shutdown then (w,.error (.closed "session is closed"))
  else if !w.writerOpen then (w,.error (.closed "stdin is closed"))
  else writeChunks answer.chunk 0 (bytes.toChunks writeChunk) w

/-- `apply_resize`: the kernel first, then the grid. -/
def applyResize (w : Worker) (answer : CtlAnswer) (cols rows : UInt16) : Worker × Except ProcessError Unit :=
  match answer.resizeError with
  | some err => (w,.error (.io ("pty resize failed: " ++ err)))
  | none =>
    ({ w with grid := { w.grid with grid := w.grid.grid.setSize rows cols }, resizes := w.resizes + 1 }.bumpRevision,.ok ())

/-- `close_input`. -/
def closeInput (w : Worker) : Worker × Except ProcessError Unit :=
  if w.exited.isSome then (w,.error (.childExited "child already exited"))
  else if w.writerOpen then ({ w with writerOpen := false }.bumpRevision,.ok ())
  else (w,.error (.closed "stdin already closed"))

def setColors (w : Worker) (fg bg : Option (UInt8 × UInt8 × UInt8)) : Worker :=
  { w with
    grid := { w.grid with
      grid := { w.grid.grid with reportedFg := fg.getD w.grid.grid.reportedFg, reportedBg := bg.getD w.grid.grid.reportedBg } }
    reportedFg := fg.getD w.reportedFg
    reportedBg := bg.getD w.reportedBg }.bumpRevision

/-- `handle_ctl`, with what goes to the reply channel; nothing for a shutdown, which
    makes the worker exit. -/
def handleCtl (w : Worker) (inflight : UInt64) (answer : CtlAnswer) : CtlOp → Checked (Worker × Option Answer)
  | .snapshot => .ok (w,some (.snapshot w.grid.grid.dump))
  | .stateBytes => do
    let bytes ← w.grid.grid.stateFormatted
    return (w,some (.stateBytes bytes))
  | .dirtySpans =>
    let (spans,dirty) := w.grid.grid.dirty.take
    .ok ({ w with grid := { w.grid with grid := { w.grid.grid with dirty := dirty } } },some (.dirtySpans spans))
  | .events => .ok ({ w with events := [] },some (.events w.events))
  | .outputLog => .ok (w,some (.outputLog w.outputLog))
  | .observe => .ok (w,some (.observation (w.observe inflight)))
  | .write bytes =>
    let (w,result) := w.applyWrite answer bytes
    .ok (w,some (.done result))
  | .resize cols rows =>
    let (w,result) := w.applyResize answer cols rows
    .ok (w,some (.done result))
  | .closeInput =>
    let (w,result) := w.closeInput
    .ok (w,some (.done result))
  | .setColors fg bg => .ok (w.setColors fg bg,some (.done (.ok ())))
  | .shutdown => .ok (w,none)

end Worker

end

end Termpane
