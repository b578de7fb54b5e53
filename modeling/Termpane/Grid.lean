import Termpane.Damage
import Termpane.RowStore
import Termpane.Write
import Termpane.Passthrough
import Termpane.Utf8

/-!
# The grid

The state of `DamageGrid` that the parser's callbacks read and write, and the
helpers of `grid.rs` they are made of. `mode_flags` is a record of its bits.
-/
namespace Termpane

inductive ScrollOp
  | up (top bottom rows : Nat)
  | down (top bottom rows : Nat)
  deriving DecidableEq, Repr

inductive MouseProtocolMode
  | none
  | press
  | pressRelease
  | buttonMotion
  | anyEvent
  | anyMotion
  deriving DecidableEq, Repr

inductive MouseProtocolEncoding
  | default
  | utf8
  | sgr
  | urxvt
  deriving DecidableEq, Repr

/-- What a full-screen erase does with the rows it blanks on the primary screen. -/
inductive EraseDisplayPolicy
  | saveToScrollback
  | discard
  deriving DecidableEq, Repr

/-- The bits of `mode_flags`. -/
structure ModeFlags where
  altScreen : Bool := false
  hideCursor : Bool := false
  bracketedPaste : Bool := false
  applicationCursor : Bool := false
  focusEvents : Bool := false
  pendingWrap : Bool := false
  mutatedSincePreserve : Bool := false
  noAutowrap : Bool := false
  applicationKeypad : Bool := false
  synchronizedUpdate : Bool := false
  deriving DecidableEq, Repr

/-- `DamageGrid` without its parser, the parser's tracker and the bytes carried
    between calls, which no callback touches. -/
structure Grid where
  profile : VirtualTerminalProfile := {}
  rows : Nat
  cols : Nat
  primary : RowStore
  alternate : RowStore
  scrollback : RowStore := {}
  scrollbackLimit : Nat
  scrollbackOffset : Nat := 0
  cursorRow : Nat := 0
  cursorCol : Nat := 0
  savedCursorRow : Nat := 0
  savedCursorCol : Nat := 0
  mouseMode : MouseProtocolMode := .none
  mouseEncoding : MouseProtocolEncoding := .default
  cursorStyle : Nat := 0
  textCursorEnable : Option Bool := none
  lastPrint : Option (Nat × Nat) := none
  lastPreservedBlock : Option (List Row) := none
  eraseDisplayPolicy : EraseDisplayPolicy := .saveToScrollback
  modeFlags : ModeFlags := {}
  reportedFg : UInt8 × UInt8 × UInt8
  reportedBg : UInt8 × UInt8 × UInt8
  currentAttrs : Attrs := {}
  activeHyperlink : Option Hyperlink := none
  recentHyperlinks : List Hyperlink := []
  scrollTop : Nat := 0
  scrollBottom : Nat
  scrollOps : List ScrollOp := []
  kittyKbStack : List Nat := []
  dirty : DirtyTracker := {}
  passthrough : List PassthroughEvent := []

def kittyKbStackCap : Nat := 64
def osc8UriMax : Nat := 8 * 1024
def osc8IdMax : Nat := 256
def osc8RecentMax : Nat := 8

def mouseModeNumber : MouseProtocolMode → Nat
  | .none => 0
  | .press => 1000
  | .pressRelease | .buttonMotion => 1002
  | .anyEvent | .anyMotion => 1003

def mouseEncodingNumber : MouseProtocolEncoding → Nat
  | .default => 0
  | .utf8 => 1005
  | .sgr => 1006
  | .urxvt => 1015

namespace Grid

/-- `DamageGrid::new`. -/
def new (rows cols : UInt16) (scrollbackLimit : Nat) : Grid :=
  let profile : VirtualTerminalProfile := {}
  { profile := profile
    rows := rows.toNat
    cols := cols.toNat
    primary := .blank rows.toNat cols.toNat
    alternate := .blank rows.toNat cols.toNat
    scrollbackLimit := scrollbackLimit
    scrollBottom := rows.toNat - 1
    reportedFg := profile.defaultReportedFg
    reportedBg := profile.defaultReportedBg }

/-! ## Screens -/

/-- `active_grid`, and `visible_screen` of the serializer. -/
def activeGrid (g : Grid) : RowStore := if g.modeFlags.altScreen then g.alternate else g.primary

def setActiveGrid (g : Grid) (s : RowStore) : Grid :=
  { g with
    primary := if g.modeFlags.altScreen then g.primary else s
    alternate := if g.modeFlags.altScreen then s else g.alternate }

/-- An edit of `active_grid()[row]`. -/
def modifyActiveRow (g : Grid) (row : Nat) (f : Row → Checked Row) : Checked Grid := do
  let s ← g.activeGrid.modifyRow row f
  return g.setActiveGrid s

/-- The cell at a position of the visible screen. -/
def cell (g : Grid) (row col : Nat) : Option Cell := g.activeGrid.rows[row]?.bind (·[col]?)

def autowrap (g : Grid) : Bool := !g.modeFlags.noAutowrap

/-! ## Scrolling -/

def pushScrollbackRow (g : Grid) (row : Row) (wrap : RowWrap) : Grid :=
  let scrollback := if g.scrollback.len ≥ g.scrollbackLimit then g.scrollback.recycleFront else g.scrollback
  { g with scrollback := scrollback.pushBackWithWrap row wrap }

/-- One turn of the loop of `scroll_up`. -/
def scrollUpOnce (top bottom : Nat) (insertedWrap : RowWrap) (g : Grid) : Checked Grid :=
  let gridLen := g.activeGrid.len
  if bottom ≥ gridLen ∨ top ≥ bottom then .ok g
  else do
    let toScrollback := !g.modeFlags.altScreen && decide (top = 0 ∧ g.scrollbackLimit > 0)
    let (evicted,remaining) := g.activeGrid.removeWithWrap top
    let g := g.setActiveGrid remaining
    let g :=
      match evicted with
      | some (row,wrap) => if toScrollback then g.pushScrollbackRow row wrap else g
      | none => g
    let inserted ← g.activeGrid.insertWithWrap bottom (blankRow g.cols) insertedWrap
    return g.setActiveGrid inserted

/-- `for _ in 0..n { body }`. -/
def repeatBody (body : Grid → Checked Grid) : Nat → Grid → Checked Grid
  | 0, g => .ok g
  | n+1, g => body g >>= repeatBody body n

/-- Height of the scroll region below `top`: `scroll_bottom - top + 1`. -/
def regionHeight (g : Grid) (top : Nat) : Checked Nat := do
  let d ← sub g.scrollBottom top
  add16 d 1

def scrollUp (g : Grid) (n : Nat) (insertedWrap : RowWrap) : Checked Grid := do
  let g := { g with modeFlags.mutatedSincePreserve := true }
  let height ← g.regionHeight g.scrollTop
  let n := min n height
  let top := g.scrollTop
  let bottom := g.scrollBottom
  let g := if n > 0 then { g with scrollOps := g.scrollOps ++ [.up top bottom n] } else g
  let g ← repeatBody (scrollUpOnce top bottom insertedWrap) n g
  return { g with dirty := g.dirty.markRows top bottom }

/-- A row with a filled cell. -/
def rowHasContents (row : Row) : Bool := row.any (·.hasContents)

/-- The visible rows from the first to the last non-blank one. -/
def visibleBlock (s : RowStore) : Option (List Row) :=
  match s.rows.findIdx? rowHasContents with
  | none => none
  | some first =>
    let fromFirst := s.rows.drop first
    some (fromFirst.reverse.dropWhile (fun row => !rowHasContents row)).reverse

def preserveVisibleRowsToScrollback (g : Grid) : Grid :=
  if g.eraseDisplayPolicy = .discard ∨ g.modeFlags.altScreen ∨ g.scrollbackLimit = 0 then g
  else if !g.modeFlags.mutatedSincePreserve then g
  else
    match visibleBlock g.primary with
    | none => g
    | some block =>
      if g.lastPreservedBlock = some block then { g with modeFlags.mutatedSincePreserve := false }
      else
        let g := block.foldl (fun g row => g.pushScrollbackRow row .hard) g
        { g with lastPreservedBlock := some block, modeFlags.mutatedSincePreserve := false }

def setActiveRowWrap (g : Grid) (row : Nat) (wrap : RowWrap) : Grid :=
  g.setActiveGrid (g.activeGrid.setWrap row wrap)

def addCursorOffset (position offset max : Nat) : Nat := min (satAdd16 position offset) max

def newlineActionWithWrap (g : Grid) (wrap : RowWrap) : Checked Grid :=
  if g.cursorRow = g.scrollBottom then g.scrollUp 1 wrap
  else
    let g := { g with cursorRow := addCursorOffset g.cursorRow 1 (g.rows - 1) }
    .ok (g.setActiveRowWrap g.cursorRow wrap)

/-! ## Cursor -/

/-- Cancel a deferred wrap, un-park the cursor, break cluster continuation. -/
def clearPendingWrap (g : Grid) : Grid :=
  { g with
    modeFlags.pendingWrap := false
    lastPrint := none
    cursorCol := if g.cursorCol ≥ g.cols then g.cols - 1 else g.cursorCol }

def restoreAutowrap (g : Grid) : Grid :=
  if g.modeFlags.noAutowrap then
    let g := g.clearPendingWrap
    { g with modeFlags.noAutowrap := false }
  else g

def clampCursor (g : Grid) : Grid :=
  { g with cursorRow := min g.cursorRow (g.rows - 1), cursorCol := min g.cursorCol (g.cols - 1) }

def saveCursor (g : Grid) : Grid := { g with savedCursorRow := g.cursorRow, savedCursorCol := g.cursorCol }

/-- A saved phantom column restores the pending wrap as well. -/
def restoreSavedCursor (g : Grid) : Grid :=
  let g := { g with
    modeFlags.pendingWrap := false
    lastPrint := none
    cursorRow := g.savedCursorRow
    cursorCol := g.savedCursorCol }
  let g := g.clampCursor
  if g.savedCursorCol ≥ g.cols then { g with cursorCol := g.cols, modeFlags.pendingWrap := true } else g

/-! ## Printing -/

section
variable [UnicodeWidth]

/-- The column whose cell a zero-width or joined character belongs to, or
    whether the character is absorbed without one. -/
def joinTarget (g : Grid) (width : Nat) : Nat ⊕ Bool :=
  if g.modeFlags.pendingWrap ∨ g.cursorCol ≥ g.cols then .inl (g.cols - 1)
  else if g.cursorCol > 0 then .inl (g.cursorCol - 1)
  else .inr (decide (width = 0))

/-- The cursor when the cluster at `col` changed its width, in
    `append_to_previous_cluster`. -/
def followWidth (g : Grid) (col oldWidth oldCursorEnd newWidth : Nat) : Checked Grid := do
  let g ←
    if g.cursorCol = oldCursorEnd then
      if g.cursorCol < g.cols then do
        let newEnd ← add16 col newWidth
        pure { g with cursorCol := min newEnd g.cols }
      else if newWidth < oldWidth then do
        let newEnd ← add16 col newWidth
        pure { g with cursorCol := newEnd, modeFlags.pendingWrap := false }
      else pure g
    else pure g
  if g.modeFlags.pendingWrap ∨ g.cursorCol ≥ g.cols then do
    let newEnd ← add16 col newWidth
    if newEnd ≥ g.cols ∧ newWidth > oldWidth then
      pure { g with cursorCol := g.cols, modeFlags.pendingWrap := true }
    else pure g
  else pure g

/-- The end of `append_to_previous_cluster`: `ch` joins the cluster in the cell
    at `col`, and the cursor follows the cluster's new width. -/
def joinCluster (g : Grid) (ch : Char) (col : Nat) (cell : Cell) : Checked Grid := do
  let oldWidth := cellWidth cell
  let oldCursorEnd ← add16 col oldWidth
  let joined := cell.contents ++ [ch]
  let newWidth := min (clusterWidth joined) 2
  let g ← g.modifyActiveRow g.cursorRow fun cells => joinGlyph cells col cell joined g.activeHyperlink newWidth g.cols
  let g ← g.followWidth col oldWidth oldCursorEnd newWidth
  let markEnd := satAdd16 col (max (max oldWidth newWidth) 1)
  let g := { g with dirty := g.dirty.markRange g.cursorRow col markEnd }
  return { g with lastPrint := some (g.cursorRow,g.cursorCol) }

/-- Join `ch` to the cluster left of the cursor when it is zero-width or
    continues a ZWJ sequence. Also whether the character was absorbed. -/
def appendToPreviousCluster (g : Grid) (ch : Char) (width : Nat) : Checked (Grid × Bool) := do
  let zeroWidth := decide (width = 0)
  if zeroWidth = false ∧ g.lastPrint ≠ some (g.cursorRow,g.cursorCol) then return (g,false)
  match g.joinTarget width with
  | .inr absorbed => return (g,absorbed)
  | .inl targetCol =>
    let cells ← at? g.activeGrid.rows g.cursorRow
    if targetCol ≥ cells.length then return (g,zeroWidth)
    let target ← at? cells targetCol
    -- a continuation cell stands for the wide lead before it
    let col := if target.isWideContinuation ∧ targetCol > 0 then targetCol - 1 else targetCol
    let cell ← at? cells col
    if zeroWidth = false ∧ endsWithZwj cell.contents = false then return (g,false)
    if cell.contents.isEmpty ∧ zeroWidth then return (g,true)
    if cell.contents[maxClusterJoiners]?.isSome then return (g,zeroWidth)
    let g ← g.joinCluster ch col cell
    return (g,true)

/-- The end of `write_char_at_cursor`: the glyph becomes the base of the cell at
    the cursor. -/
def placeChar (g : Grid) (ch : Char) (width : Nat) : Checked Grid := do
  if g.cursorRow ≥ g.rows ∨ g.cursorCol ≥ g.cols then return g
  let col := g.cursorCol
  let cells ← at? g.activeGrid.rows g.cursorRow
  let (_,dirtyStart,dirtyEnd) := clearPartners cells col width
  let cell : Cell :=
    { contents := [ch]
      isWide := decide (width > 1)
      attrs := g.currentAttrs
      hyperlink := g.activeHyperlink }
  let g ← g.modifyActiveRow g.cursorRow fun cells => writeGlyph cells col g.cols width cell
  let g := { g with dirty := g.dirty.markRange g.cursorRow dirtyStart dirtyEnd }
  let cursorCol ← add16 g.cursorCol width
  let g :=
    if cursorCol ≥ g.cols then { g with cursorCol := g.cols, modeFlags.pendingWrap := true }
    else { g with cursorCol := cursorCol }
  return { g with lastPrint := some (g.cursorRow,g.cursorCol) }

/-- The deferred wrap, in `write_char_at_cursor`. -/
def deferredWrap (g : Grid) : Checked Grid :=
  if g.modeFlags.pendingWrap ∧ g.modeFlags.noAutowrap = false then
    newlineActionWithWrap { g with modeFlags.pendingWrap := false, cursorCol := 0 } .soft
  else .ok g

/-- The rest of `write_char_at_cursor` after a character that did not join a
    cluster: without autowrap the cursor is clamped to the right margin. -/
def writeNewCell (g : Grid) (ch : Char) (width : Nat) : Checked Grid := do
  let g ← g.deferredWrap
  if g.modeFlags.noAutowrap then
    let col := min g.cursorCol (g.cols - 1)
    if width > g.cols - col then return g
    placeChar { g with modeFlags.pendingWrap := false, cursorCol := col } ch width
  else placeChar g ch width

def writeCharAtCursor (g : Grid) (ch : Char) : Checked Grid := do
  let width := charWidth ch
  let g := { g with modeFlags.mutatedSincePreserve := true }
  let (g,absorbed) ← g.appendToPreviousCluster ch width
  if absorbed then return g else g.writeNewCell ch width

end

/-! ## Erasing -/

/-- A blank cell carrying the current background colour. -/
def blankCell (g : Grid) : Cell := .blankOn g.currentAttrs.background

def blankRowBce (g : Grid) : Row := List.replicate g.cols g.blankCell

def markRange (g : Grid) (row startCol endCol : Nat) : Grid :=
  { g with dirty := g.dirty.markRange row startCol endCol }

def markAll (g : Grid) : Grid := { g with dirty := g.dirty.markAll }

def pushEvent (g : Grid) (e : PassthroughEvent) : Grid := { g with passthrough := g.passthrough ++ [e] }

def eraseLine (g : Grid) (mode : Nat) : Checked Grid :=
  match mode with
  | 0 => do
    let g ← g.modifyActiveRow g.cursorRow fun row => eraseCellsBce row g.cursorCol g.cols g.blankCell
    return g.markRange g.cursorRow g.cursorCol g.cols
  | 1 => do
    let last ← sub g.cols 1
    let stop := min g.cursorCol last + 1
    let g ← g.modifyActiveRow g.cursorRow fun row => eraseCellsBce row 0 stop g.blankCell
    return g.markRange g.cursorRow 0 (satAdd16 g.cursorCol 1)
  | 2 => do
    let g ← g.modifyActiveRow g.cursorRow fun _ => .ok g.blankRowBce
    return { g with dirty := g.dirty.markRow g.cursorRow }
  | _ => .ok g

/-- The cases of `erase_display`, before the whole screen is marked dirty. -/
def eraseDisplayCells (g : Grid) (mode : Nat) : Checked Grid :=
  match mode with
  | 0 => do
    let g := if g.cursorRow = 0 ∧ g.cursorCol = 0 then g.preserveVisibleRowsToScrollback else g
    let g ← g.modifyActiveRow g.cursorRow fun row => eraseCellsBce row g.cursorCol g.cols g.blankCell
    return g.setActiveGrid (g.activeGrid.fillRows (g.cursorRow + 1) g.rows g.blankRowBce)
  | 1 => do
    let g := g.setActiveGrid (g.activeGrid.fillRows 0 g.cursorRow g.blankRowBce)
    let last ← sub g.cols 1
    let stop := min g.cursorCol last + 1
    g.modifyActiveRow g.cursorRow fun row => eraseCellsBce row 0 stop g.blankCell
  | 2 =>
    let g := g.preserveVisibleRowsToScrollback
    .ok (g.setActiveGrid (g.activeGrid.fillRows 0 g.rows g.blankRowBce))
  | 3 =>
    let g := { g with scrollback := g.scrollback.clear, scrollbackOffset := 0 }
    let g := g.setActiveGrid (g.activeGrid.fillRows 0 g.rows g.blankRowBce)
    .ok (g.pushEvent .scrollbackClear)
  | _ => .ok g

def eraseDisplay (g : Grid) (mode : Nat) : Checked Grid := do
  let g ← g.eraseDisplayCells mode
  return g.markAll

/-! ## Edits -/

/-- ICH: insert `n` blanks at the cursor. -/
def insertChars (g : Grid) (n : Nat) : Checked Grid := do
  let g ← g.modifyActiveRow g.cursorRow fun row => insertBlanks row g.cursorCol n g.cols
  return g.markRange g.cursorRow g.cursorCol g.cols

/-- DCH: delete `n` characters at the cursor. -/
def deleteChars (g : Grid) (n : Nat) : Checked Grid := do
  let g ← g.modifyActiveRow g.cursorRow fun row => deleteCells row g.cursorCol n g.cols
  return g.markRange g.cursorRow g.cursorCol g.cols

/-- ECH: erase `n` characters at the cursor. -/
def eraseChars (g : Grid) (n : Nat) : Checked Grid := do
  let row ← at? g.activeGrid.rows g.cursorRow
  let stop := min (g.cursorCol + n) row.length
  let g ← g.modifyActiveRow g.cursorRow fun row => eraseCells row g.cursorCol n g.blankCell
  return g.markRange g.cursorRow g.cursorCol (stop % 65536)

/-- Take the row at `bottom` out and put a blank row in at `at`: one line of IL,
    SD and RI. -/
def shiftDownOnce (row bottom : Nat) (g : Grid) : Checked Grid := do
  let s := if bottom < g.activeGrid.len then g.activeGrid.remove bottom else g.activeGrid
  let s ← s.insert row (blankRow g.cols)
  return g.setActiveGrid s

/-- One line of DL. -/
def deleteLineOnce (row bottom : Nat) (g : Grid) : Checked Grid := do
  let s := if row < g.activeGrid.len then g.activeGrid.remove row else g.activeGrid
  let s ← if bottom < s.len + 1 then s.insert bottom (blankRow g.cols) else pure s
  return g.setActiveGrid s

def insertLines (g : Grid) (p0 : Nat) : Checked Grid :=
  if g.cursorRow < g.scrollTop ∨ g.cursorRow > g.scrollBottom then .ok g
  else do
    let height ← g.regionHeight g.cursorRow
    let rows := min (max p0 1) height
    let g := { g with scrollOps := g.scrollOps ++ [.down g.cursorRow g.scrollBottom rows] }
    let g ← repeatBody (shiftDownOnce g.cursorRow g.scrollBottom) rows g
    return g.markAll

def deleteLines (g : Grid) (p0 : Nat) : Checked Grid :=
  if g.cursorRow < g.scrollTop ∨ g.cursorRow > g.scrollBottom then .ok g
  else do
    let height ← g.regionHeight g.cursorRow
    let rows := min (max p0 1) height
    let g := { g with scrollOps := g.scrollOps ++ [.up g.cursorRow g.scrollBottom rows] }
    let g ← repeatBody (deleteLineOnce g.cursorRow g.scrollBottom) rows g
    return g.markAll

def scrollDown (g : Grid) (p0 : Nat) : Checked Grid := do
  let height ← g.regionHeight g.scrollTop
  let rows := min (max p0 1) height
  let g := { g with scrollOps := g.scrollOps ++ [.down g.scrollTop g.scrollBottom rows] }
  let g ← repeatBody (shiftDownOnce g.scrollTop g.scrollBottom) rows g
  return g.markAll

/-- RI, after the pending wrap is cleared. -/
def reverseIndex (g : Grid) : Checked Grid :=
  if g.cursorRow = g.scrollTop then do
    let g := { g with scrollOps := g.scrollOps ++ [.down g.scrollTop g.scrollBottom 1] }
    let g ← shiftDownOnce g.scrollTop g.scrollBottom g
    return g.markAll
  else .ok { g with cursorRow := g.cursorRow - 1 }

/-! ## OSC -/

/-- `str::parse::<u8>`: an optional `+`, then digits. -/
def parseU8 (s : List Char) : Option Nat :=
  let digits := match s with
    | '+' :: rest => rest
    | s => s
  if digits.isEmpty ∨ digits.any (fun c => !c.isDigit) then none
  else
    let n := digits.foldl (fun n c => 10 * n + (c.toNat - 48)) 0
    if n ≤ 255 then some n else none

/-- `trim_start_matches("id=")`. -/
def trimStartId : List Char → List Char
  | 'i' :: 'd' :: '=' :: rest => trimStartId rest
  | s => s

/-- The link and the table after it is opened; the table keeps the most recent
    link first. -/
def internHyperlink (recent : List Hyperlink) (link : Hyperlink) : List Hyperlink :=
  if link ∈ recent then link :: recent.erase link
  else
    let kept := if recent.length = osc8RecentMax then recent.dropLast else recent
    link :: kept

def oscHyperlink (g : Grid) (params : List Bytes) : Grid :=
  let id := (params[1]?.bind fromUtf8).map trimStartId |>.filter fun id => utf8Len id ≤ osc8IdMax
  let uri := (params[2]?.filter fun b => b.length ≤ osc8UriMax).bind fromUtf8 |>.filter fun uri => !uri.isEmpty
  match id,uri with
  | some id,some uri =>
    { g with
      activeHyperlink := some ⟨id,uri⟩
      recentHyperlinks := internHyperlink g.recentHyperlinks ⟨id,uri⟩ }
  | _,_ => { g with activeHyperlink := none }

def handleOsc (g : Grid) (params : List Bytes) (bellTerminated : Bool) : Grid :=
  match params with
  | [] => g
  | codeBytes :: rest =>
    let code := (fromUtf8 codeBytes).bind parseU8
    let value := params[1]?.bind fromUtf8
    match code,value with
    | some 0,some title => g.pushEvent (.titleChanged title)
    | some 2,some title => g.pushEvent (.titleChanged title)
    | some 1,some name => g.pushEvent (.iconNameChanged name)
    | some 52,some _ => g.pushEvent (.clipboardWrite (List.intercalate [';'] (rest.filterMap fromUtf8)))
    | some 7,some uri => g.pushEvent (.cwdChanged uri)
    | some 9,some msg => g.pushEvent (.notification msg)
    | some 10,some ['?'] => g.pushEvent (.reply (oscColorReply 10 g.reportedFg bellTerminated))
    | some 11,some ['?'] => g.pushEvent (.reply (oscColorReply 11 g.reportedBg bellTerminated))
    | some 8,_ => g.oscHyperlink params
    | _,_ => g

/-! ## Modes -/

def setAltScreen (g : Grid) (active : Bool) : Grid :=
  { g with modeFlags.altScreen := active, activeHyperlink := none, dirty := g.dirty.markAll }

def setDecMode (g : Grid) (mode : Nat) (enabled : Bool) : Grid :=
  match mode with
  | 7 => { g with modeFlags.noAutowrap := !enabled }
  | 12 => { g with textCursorEnable := some enabled }
  | 25 => { g with modeFlags.hideCursor := !enabled }
  | 1 => { g with modeFlags.applicationCursor := enabled }.pushEvent (.applicationCursorKeys enabled)
  | 1004 => { g with modeFlags.focusEvents := enabled }.pushEvent (.focusEvents enabled)
  | 2004 => { g with modeFlags.bracketedPaste := enabled }.pushEvent (.bracketedPaste enabled)
  | 47 => g.setAltScreen enabled
  | 1047 => g.setAltScreen enabled
  | 1049 =>
    if enabled then (g.saveCursor.setAltScreen true).clearPendingWrap
    else
      let g := (g.setAltScreen false).restoreSavedCursor
      let depth := g.kittyKbStack.length
      { g with
        kittyKbStack := []
        passthrough := g.passthrough ++ List.replicate depth (.unhandledCsi (ascii "\x1b[<u")) }
  | 1000 => { g with mouseMode := if enabled then .press else .none }
  | 1002 => { g with mouseMode := if enabled then .buttonMotion else .none }
  | 1003 => { g with mouseMode := if enabled then .anyMotion else .none }
  | 1005 => { g with mouseEncoding := if enabled then .utf8 else .default }
  | 1006 => { g with mouseEncoding := if enabled then .sgr else .default }
  | 1015 => { g with mouseEncoding := if enabled then .urxvt else .default }
  | 2026 => { g with modeFlags.synchronizedUpdate := enabled }
  | _ => g

/-- DECRQM status of a DEC private mode. -/
def decrqmStatus (g : Grid) (mode : Nat) : Nat :=
  let answer (set : Bool) : Nat := if set then 1 else 2
  match mode with
  | 1 => answer g.modeFlags.applicationCursor
  | 7 => answer (!g.modeFlags.noAutowrap)
  | 12 => answer (g.textCursorEnable.getD false)
  | 25 => answer (!g.modeFlags.hideCursor)
  | 47 => answer g.modeFlags.altScreen
  | 1047 => answer g.modeFlags.altScreen
  | 1049 => answer g.modeFlags.altScreen
  | 1000 => answer (mouseModeNumber g.mouseMode == 1000)
  | 1002 => answer (mouseModeNumber g.mouseMode == 1002)
  | 1003 => answer (mouseModeNumber g.mouseMode == 1003)
  | 1004 => answer g.modeFlags.focusEvents
  | 1005 => answer (mouseEncodingNumber g.mouseEncoding == 1005)
  | 1006 => answer (mouseEncodingNumber g.mouseEncoding == 1006)
  | 1015 => answer (mouseEncodingNumber g.mouseEncoding == 1015)
  | 2004 => answer g.modeFlags.bracketedPaste
  | 2026 => answer g.modeFlags.synchronizedUpdate
  | 2027 => g.profile.decrqmStatus mode
  | _ => 0

/-- The modes RIS resets; the bits it leaves are the pending wrap, the alternate
    screen (reset beside this) and `MUTATED_SINCE_PRESERVE`. -/
def resetModes (g : Grid) : Grid :=
  { g with
    mouseMode := .none
    mouseEncoding := .default
    modeFlags := { altScreen := g.modeFlags.altScreen, pendingWrap := g.modeFlags.pendingWrap,
                   mutatedSincePreserve := g.modeFlags.mutatedSincePreserve }
    textCursorEnable := none
    scrollbackOffset := 0
    activeHyperlink := none }

/-- DECSTR. -/
def softReset (g : Grid) : Grid :=
  let g := { g with currentAttrs := {}, scrollTop := 0, scrollBottom := g.rows - 1 }
  let g := g.restoreAutowrap
  { g with
    lastPrint := none
    modeFlags.hideCursor := false
    modeFlags.applicationCursor := false
    modeFlags.applicationKeypad := false
    savedCursorRow := 0
    savedCursorCol := 0 }

/-- RIS. -/
def fullReset (g : Grid) : Grid :=
  let g := { g with
    primary := .blank g.rows g.cols
    alternate := .blank g.rows g.cols
    modeFlags.altScreen := false
    modeFlags.pendingWrap := false
    cursorRow := 0
    cursorCol := 0
    currentAttrs := {}
    activeHyperlink := none
    lastPrint := none
    scrollTop := 0
    scrollBottom := g.rows - 1 }
  g.resetModes.markAll

/-- DECSTBM. -/
def setMargins (g : Grid) (p0 p1 : Nat) : Grid :=
  let top := p0 - 1
  let bottom := if p1 = 0 then g.rows - 1 else min (p1 - 1) (g.rows - 1)
  { g with
    scrollTop := if top < bottom then top else 0
    scrollBottom := if top < bottom then bottom else g.rows - 1
    cursorRow := 0
    cursorCol := 0 }

/-- `set_size`. -/
def setSize (g : Grid) (rows cols : UInt16) : Grid :=
  let rows := max rows.toNat 1
  let cols := max cols.toNat 1
  let g := { g with
    rows := rows
    cols := cols
    primary := g.primary.resize rows cols
    alternate := g.alternate.resize rows cols
    cursorRow := min g.cursorRow (rows - 1)
    cursorCol := min g.cursorCol (cols - 1) }
  let g := g.clearPendingWrap
  { g with scrollTop := 0, scrollBottom := rows - 1, dirty := g.dirty.resize }

/-- `set_scrollback`. -/
def setScrollback (g : Grid) (offset : Nat) : Grid :=
  { g with scrollbackOffset := min offset g.scrollback.len }

/-- `kitty_kb_flags`: the top of the keyboard stack, 0 when it is empty. -/
def kittyKbFlags (g : Grid) : Nat := g.kittyKbStack.getLast?.getD 0

end Grid

end Termpane
