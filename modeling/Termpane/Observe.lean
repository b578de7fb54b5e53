import Termpane.Process

/-!
# Observations

`session_observe.rs`, and `DamageGrid::dump` of `snapshot.rs`: what a handle is told
of a session. The static capabilities, which no output changes, are left out.
-/
namespace Termpane

/-! ## Snapshots of the screen -/

structure SnapCellAttrs where
  bold : Bool
  italic : Bool
  underline : Bool
  inverse : Bool
  dim : Bool
  strikethrough : Bool
  slowBlink : Bool
  rapidBlink : Bool
  conceal : Bool
  overline : Bool
  deriving DecidableEq, Repr

structure SnapCell where
  text : List Char
  isWide : Bool
  isWideContinuation : Bool
  fg : Color
  bg : Color
  attributes : SnapCellAttrs
  underlineStyle : UnderlineStyle
  underlineColor : Color
  hyperlink : Option Hyperlink
  deriving DecidableEq, Repr

def SnapCell.ofCell (cell : Cell) : SnapCell where
  text := cell.contents
  isWide := cell.isWide
  isWideContinuation := cell.isWideContinuation
  fg := cell.attrs.foreground
  bg := cell.attrs.background
  attributes :=
    { bold := cell.attrs.bold
      italic := cell.attrs.italic
      underline := decide (cell.attrs.underlineStyle ≠ .none)
      inverse := cell.attrs.inverse
      dim := cell.attrs.dim
      strikethrough := cell.attrs.strikethrough
      slowBlink := cell.attrs.slowBlink
      rapidBlink := cell.attrs.rapidBlink
      conceal := cell.attrs.conceal
      overline := cell.attrs.overline }
  underlineStyle := cell.attrs.underlineStyle
  underlineColor := cell.attrs.underlineColor
  hyperlink := cell.hyperlink

structure GridSnapshot where
  rows : Nat
  cols : Nat
  cursor : Nat × Nat
  alternateScreen : Bool
  cells : List (List SnapCell)
  rowWraps : List RowWrap
  deriving DecidableEq, Repr

/-- `dump`. -/
def Grid.dump (g : Grid) : GridSnapshot where
  rows := g.rows
  cols := g.cols
  cursor := (g.cursorRow,g.cursorCol)
  alternateScreen := g.modeFlags.altScreen
  cells := g.activeGrid.rows.map (·.map SnapCell.ofCell)
  rowWraps := (List.range g.activeGrid.len).map fun idx => (g.activeGrid.wrap idx).getD .hard

/-! ## Parts of an observation -/

structure CursorState where
  position : Nat × Nat
  visible : Bool
  style : Nat
  textCursorEnable : Option Bool
  deriving DecidableEq, Repr

structure ColorState where
  reportedFg : UInt8 × UInt8 × UInt8
  reportedBg : UInt8 × UInt8 × UInt8
  currentFg : Color
  currentBg : Color
  deriving DecidableEq, Repr

structure ModeState where
  alternateScreen : Bool
  autowrap : Bool
  applicationCursor : Bool
  applicationKeypad : Bool
  bracketedPaste : Bool
  focusEvents : Bool
  mouseMode : MouseProtocolMode
  mouseEncoding : MouseProtocolEncoding
  kittyKeyboard : Nat
  inSynchronizedUpdate : Bool
  midSequence : Bool
  deriving DecidableEq, Repr

/-- `ExitStatus` of `process.rs`. -/
structure ExitStatus where
  code : Nat
  signal : Option String
  deriving DecidableEq, Repr

/-- `ExitStatus::unknown`. -/
def ExitStatus.unknown : ExitStatus := ⟨1,some "unknown"⟩

/-- How the child-output byte stream ended. -/
inductive StreamState
  | streaming
  | cleanEof
  | readFailed (msg : String)
  | drainExpired
  | aborted
  deriving DecidableEq, Repr

structure Completeness where
  exit : Option ExitStatus
  stream : StreamState
  finalized : Bool
  deriving DecidableEq, Repr

/-- The final outcome, declared once. -/
structure CaptureOutcome where
  exit : ExitStatus
  stream : StreamState
  revision : Nat
  bytesPumped : Nat
  droppedAfterDrain : Nat
  deriving DecidableEq, Repr

structure Diagnostics where
  bytesPumped : Nat
  feeds : Nat
  droppedAfterDrain : Nat
  eventsStashed : Nat
  eventsDropped : Nat
  outputBytesKept : Nat
  outputBytesTotal : Nat
  outputTruncated : Bool
  repliesRouted : Nat
  repliesDroppedNoWriter : Nat
  replyWriteErrors : Nat
  replyFirstError : Option String
  syncFramesCompleted : Nat
  resizes : Nat
  stdinOpen : Bool
  queuedBatches : UInt64
  deriving DecidableEq, Repr

structure Observation where
  revision : Nat
  grid : GridSnapshot
  cursor : CursorState
  colors : ColorState
  modes : ModeState
  completeness : Completeness
  diagnostics : Diagnostics
  deriving DecidableEq, Repr

end Termpane
