import Mathlib.Control.Monad.Writer
import Termpane.Vte

/-!
# The serializer

`serialize.rs`: the bytes that repaint a grid, and the bytes that turn one grid into
another. A writer appends to `out`; the painters also track where their bytes leave the
cursor and the pen of the destination.
-/
namespace Termpane

/-- A writer: what it appends to `out`, unless it panics. -/
abbrev Out := WriterT Bytes Checked

/-- A position while painting; the column may be the phantom one past the last. -/
structure Pos where
  row : Nat
  col : Nat
  deriving DecidableEq, Repr

/-! ## Terminal byte writers -/

def writeMoveTo (pos : Pos) : Out Unit :=
  if pos.row = 0 ∧ pos.col = 0 then tell (ascii "\x1b[H")
  else do
    tell (ascii "\x1b[")
    tell (writeU16 (← add16 pos.row 1))
    tell (ascii ";")
    tell (writeU16 (← add16 pos.col 1))
    tell (ascii "H")

/-- A CSI with a count, which is left out when it is 1; nothing for no count. -/
def writeCount (n : Nat) (action : String) : Out Unit :=
  match n with
  | 0 => pure ()
  | 1 => tell (ascii "\x1b[" ++ ascii action)
  | n => tell (ascii "\x1b[" ++ writeU16 n ++ ascii action)

def writeMoveFromTo (start goal : Pos) : Out Unit := do
  let below ← add16 start.row 1
  if goal.row = below ∧ goal.col = 0 then tell (ascii "\r\n")
  else if start.row = goal.row ∧ start.col < goal.col then writeCount (goal.col - start.col) "C"
  else if goal ≠ start then writeMoveTo goal

def writeEraseChars (n : Nat) : Out Unit := writeCount n "X"

/-- A single SGR parameter run. -/
structure SgrBuf where
  params : Bytes := []
  first : Bool := true

namespace SgrBuf

def raw (b : SgrBuf) (bytes : Bytes) : SgrBuf :=
  { params := (if b.first then b.params else b.params ++ [0x3b]) ++ bytes, first := false }

def param (b : SgrBuf) (n : Nat) : SgrBuf := b.raw (writeU16 n)

/-- A colour by its code and the index or the channels, or the code that resets it. -/
def color (b : SgrBuf) (extended reset : Nat) : Color → SgrBuf
  | .default => b.param reset
  | .idx i => ((b.param extended).param 5).param i.toNat
  | .rgb red green blue =>
    ((((b.param extended).param 2).param red.toNat).param green.toNat).param blue.toNat

/-- A colour, the first sixteen of the palette by a code of their own. -/
def paletteColor (b : SgrBuf) (normal bright extended reset : Nat) : Color → SgrBuf
  | .idx i =>
    if i < 8 then b.param (i.toNat + normal)
    else if i < 16 then b.param (i.toNat + bright)
    else b.color extended reset (.idx i)
  | c => b.color extended reset c

def intensity (b : SgrBuf) (bold dim : Bool) : SgrBuf :=
  match bold,dim with
  | false,false => b.param 22
  | true,false => (b.param 22).param 1
  | false,true => (b.param 22).param 2
  | true,true => (b.param 1).param 2

def underline (b : SgrBuf) : UnderlineStyle → SgrBuf
  | .none => b.param 24
  | .single => b.param 4
  | .double => b.raw (ascii "4:2")
  | .curly => b.raw (ascii "4:3")
  | .dotted => b.raw (ascii "4:4")
  | .dashed => b.raw (ascii "4:5")

def blink (b : SgrBuf) (target prev : Attrs) : SgrBuf :=
  let b := if prev.slowBlink ∨ prev.rapidBlink then b.param 25 else b
  let b := if target.slowBlink then b.param 5 else b
  if target.rapidBlink then b.param 6 else b

/-- The parameters of the SGR that turns `prev` into `target`. -/
def diff (target prev : Attrs) : SgrBuf :=
  let b : SgrBuf := {}
  let b := if target.foreground ≠ prev.foreground then b.paletteColor 30 82 38 39 target.foreground else b
  let b := if target.background ≠ prev.background then b.paletteColor 40 92 48 49 target.background else b
  let b := if target.bold ≠ prev.bold ∨ target.dim ≠ prev.dim then b.intensity target.bold target.dim else b
  let b := if target.italic ≠ prev.italic then b.param (if target.italic then 3 else 23) else b
  let b := if target.underlineStyle ≠ prev.underlineStyle then b.underline target.underlineStyle else b
  let b := if target.underlineColor ≠ prev.underlineColor then b.color 58 59 target.underlineColor else b
  let b := if target.inverse ≠ prev.inverse then b.param (if target.inverse then 7 else 27) else b
  let b := if target.strikethrough ≠ prev.strikethrough then b.param (if target.strikethrough then 9 else 29) else b
  let b := if target.slowBlink ≠ prev.slowBlink ∨ target.rapidBlink ≠ prev.rapidBlink then b.blink target prev else b
  let b := if target.conceal ≠ prev.conceal then b.param (if target.conceal then 8 else 28) else b
  if target.overline ≠ prev.overline then b.param (if target.overline then 53 else 55) else b

end SgrBuf

def writeAttrsDiff (target prev : Attrs) : Out Unit :=
  if target = prev then pure ()
  else if target = {} then tell (ascii "\x1b[m")
  else tell (ascii "\x1b[" ++ (SgrBuf.diff target prev).params ++ ascii "m")

def writeHideCursor (hidden : Bool) : Out Unit := tell (ascii (if hidden then "\x1b[?25l" else "\x1b[?25h"))

def writeAutowrap (autowrap : Bool) : Out Unit := tell (ascii (if autowrap then "\x1b[?7h" else "\x1b[?7l"))

/-- A mode given by a number, 0 when it is off: set the new one, or reset the old one. -/
def writeMouseNumber (number prev : Nat) : Out Unit :=
  if number = prev then pure ()
  else if number = 0 then tell (ascii "\x1b[?" ++ writeU16 prev ++ ascii "l")
  else tell (ascii "\x1b[?" ++ writeU16 number ++ ascii "h")

def writeMouseMode (mode prev : MouseProtocolMode) : Out Unit :=
  writeMouseNumber (mouseModeNumber mode) (mouseModeNumber prev)

def writeMouseEncoding (encoding prev : MouseProtocolEncoding) : Out Unit :=
  writeMouseNumber (mouseEncodingNumber encoding) (mouseEncodingNumber prev)

def writeCursorStyle (style : Nat) : Out Unit := tell (ascii "\x1b[" ++ writeU16 style ++ ascii " q")

/-! ## Row painting -/

/-- Whether a printable written at `col` would join a cluster left of it that ends in a joiner. -/
def zwjJoinHazard (row : Row) (col : Nat) : Checked Bool :=
  if col = 0 then .ok false
  else do
    let left ← at? row (col - 1)
    let cell ← if left.isWideContinuation ∧ col ≥ 2 then at? row (col - 2) else pure left
    return endsWithZwj cell.contents

/-- The same of a printable that the pending wrap carries to the next row. -/
def zwjWrapHazard (prevRow : Row) : Bool :=
  match prevRow.getLast? with
  | none => false
  | some last =>
    let cell := if last.isWideContinuation ∧ prevRow.length ≥ 2 then cellAt prevRow (prevRow.length - 2) else last
    endsWithZwj cell.contents

/-- The row being painted and what its painting depends on. -/
structure RowCtx where
  cells : Row
  prevRow : Option Row
  row : Nat
  cols : Nat
  wrapping : Bool

/-- The pending wrap of the previous row is what carries the cursor to `pos`. -/
def naturalWrap (ctx : RowCtx) (pos prevPos : Pos) : Checked Bool :=
  if ctx.wrapping then do
    let below ← add16 prevPos.row 1
    return decide (below = pos.row ∧ prevPos.col ≥ ctx.cols ∧ pos.col = 0)
  else return false

/-- The move to `pos` before a content cell is written there. -/
def writeContentMove (ctx : RowCtx) (pos prevPos : Pos) : Out Unit :=
  if pos ≠ prevPos then do
    let wraps ← naturalWrap ctx pos prevPos
    if wraps ∧ ctx.prevRow.any zwjWrapHazard = false then pure ()
    else if wraps then writeMoveTo pos
    else writeMoveFromTo prevPos pos
  else do
    let hazard ← zwjJoinHazard ctx.cells pos.col
    if hazard then writeMoveTo pos

/-- Where the bytes written so far leave the destination's cursor and pen. -/
structure Brush where
  prevPos : Pos
  prevAttrs : Attrs

/-- The pen of the destination set to `attrs`. -/
def Brush.setAttrs (brush : Brush) (attrs : Attrs) : Out Brush := do
  if brush.prevAttrs ≠ attrs then writeAttrsDiff attrs brush.prevAttrs
  return { brush with prevAttrs := attrs }

/-- Erase a run of blanks of the same attributes, up to `endCol` or to the end of the row. -/
def flushEraseRun (erase : Option (Nat × Attrs)) (row : Nat) (endCol : Option Nat) (brush : Brush) : Out Brush :=
  match erase with
  | none => pure brush
  | some (start,attrs) => do
    writeMoveFromTo brush.prevPos ⟨row,start⟩
    let brush ← { brush with prevPos := ⟨row,start⟩ }.setAttrs attrs
    match endCol with
    | some stop => writeEraseChars (← sub stop start)
    | none => tell (ascii "\x1b[K")
    return brush

/-- A space that performs the pending wrap, taken back again. -/
def wrapWithSpace (row : Nat) (attrs : Attrs) (brush : Brush) : Out Brush := do
  let brush ← brush.setAttrs attrs
  tell (ascii " \x08")
  writeEraseChars 1
  return { brush with prevPos := ⟨row,0⟩ }

/-- The variables of the loop over the cells of a row. -/
structure Painter where
  brush : Brush
  erase : Option (Nat × Attrs) := none
  prevWasWide : Bool := false
  repaintNext : Bool := false

/-- A content cell: the move, the attributes and the text. -/
def paintContents (ctx : RowCtx) (brush : Brush) (col : Nat) (cell : Cell) : Out Brush := do
  writeContentMove ctx ⟨ctx.row,col⟩ brush.prevPos
  let brush ← brush.setAttrs cell.attrs
  tell (utf8.spell cell.contents)
  let next ← add16 (← add16 col 1) (if cell.isWide then 1 else 0)
  return { brush with prevPos := ⟨ctx.row,min next ctx.cols⟩ }

/-- One turn of the loop of both row painters, over a destination that shows `prevCell`. -/
def paintCell (ctx : RowCtx) (narrows : Cell → Bool) (p : Painter) (turn : (Cell × Cell) × Nat) : Out Painter :=
  let ((cell,prevCell),col) := turn
  if p.prevWasWide then pure { p with prevWasWide := false }
  else do
    let flush := p.erase.any fun run => cell.hasContents || decide (cell.attrs ≠ run.2)
    let brush ← if flush then flushEraseRun p.erase ctx.row (some col) p.brush else pure p.brush
    let erase := if flush then none else p.erase
    if p.repaintNext ∨ cell ≠ prevCell then
      if cell.hasContents then
        let brush ← paintContents ctx brush col cell
        return { brush := brush, erase := erase, prevWasWide := cell.isWide, repaintNext := narrows cell }
      else return { brush := brush, erase := erase.or (some (col,cell.attrs)), prevWasWide := cell.isWide }
    else return { brush := brush, erase := erase, prevWasWide := cell.isWide }

/-- The loop over the cells of a row and the run left at its end. -/
def paintCells (ctx : RowCtx) (narrows : Cell → Bool) (prevCells : Row) (repaintFirst : Bool) (brush : Brush) : Out Brush := do
  let p ← (ctx.cells.zip prevCells).zipIdx.foldlM (paintCell ctx narrows) { brush := brush, repaintNext := repaintFirst }
  flushEraseRun p.erase ctx.row none p.brush

/-- Paint a row onto blank default cells. -/
def writeRowFormatted (ctx : RowCtx) (brush : Brush) : Out Brush := do
  let firstCell ← (at? ctx.cells 0 : Checked Cell)
  let brush ←
    if ctx.wrapping ∧ firstCell = default then do
      let below ← add16 brush.prevPos.row 1
      if (below = ctx.row ∧ brush.prevPos.col ≥ ctx.cols) ∧ ctx.prevRow.any zwjWrapHazard = false then
        wrapWithSpace ctx.row {} brush
      else do
        writeMoveTo ⟨ctx.row,0⟩
        pure { brush with prevPos := ⟨ctx.row,0⟩ }
    else pure brush
  paintCells ctx (fun _ => false) (List.replicate ctx.cells.length default) false brush

section
variable [UnicodeWidth]

/-- A narrow cell whose first scalar prints wide and blanks the cell right of it. -/
def narrowsOnReplay (cell : Cell) : Bool := !cell.isWide && cell.contents.head?.any fun ch => charWidth ch > 1

/-- Whether the row took to wrapping without its first cell changing, the cursor parked above it. -/
def wrapRedraw (ctx : RowCtx) (prevCells : Row) (prevWrapping : Bool) (prevPos : Pos) : Checked Bool :=
  if ctx.wrapping ∧ prevWrapping = false then do
    if (← at? ctx.cells 0) = (← at? prevCells 0) then
      let below ← add16 prevPos.row 1
      return decide (below = ctx.row ∧ prevPos.col ≥ ctx.cols) && !ctx.prevRow.any zwjWrapHazard
    else return false
  else return false

/-- Paint a row onto what the destination shows of the row before the change. -/
def writeRowDiff (ctx : RowCtx) (prevCells : Row) (prevWrapping : Bool) (brush : Brush) : Out Brush := do
  let firstCell ← (at? ctx.cells 0 : Checked Cell)
  let redraw ← wrapRedraw ctx prevCells prevWrapping brush.prevPos
  let brush ←
    if redraw ∧ firstCell.hasContents = false then wrapWithSpace ctx.row firstCell.attrs brush else pure brush
  paintCells ctx narrowsOnReplay prevCells (redraw && firstCell.hasContents) brush

end

/-! ## The cursor's position -/

/-- Leave the destination's cursor at `cursor`. A phantom column is reached by redrawing the last
    cell, or over a space that is erased between a save and a restore of the cursor. -/
def writeCursorPositionFormatted (screen : RowStore) (cursor : Pos) (cols : Nat) (prevPos : Option Pos)
    (prevAttrs : Option Attrs) : Out Unit :=
  let prevAttrs := prevAttrs.getD {}
  if prevPos ≠ some cursor ∧ cursor.col ≥ cols then
    let cell (col : Nat) : Option Cell := screen.rows[cursor.row]?.bind (·[col]?)
    let lastCell := cell (cols - 1)
    let lead := if cols ≥ 2 ∧ lastCell.any (·.isWideContinuation) then cols - 2 else cols - 1
    match (cell lead).filter (·.hasContents),lastCell with
    | some cell,_ => do
      writeMoveTo ⟨cursor.row,lead⟩
      writeAttrsDiff cell.attrs prevAttrs
      tell (utf8.spell cell.contents)
      writeAttrsDiff prevAttrs cell.attrs
    | none,some endCell => do
      writeMoveTo ⟨cursor.row,cols - 1⟩
      tell (ascii " ")
      writeAttrsDiff endCell.attrs prevAttrs
      tell (ascii "\x1b7")
      tell [0x08]
      writeEraseChars 1
      tell (ascii "\x1b8")
      writeAttrsDiff prevAttrs endCell.attrs
    | none,none => pure ()
  else
    match prevPos with
    | some prevPos => writeMoveFromTo prevPos cursor
    | none => writeMoveTo cursor

/-! ## The serialization of a grid -/

namespace Grid

/-- `row_is_continuation`: the row goes on the logical line of the row above. -/
def rowIsContinuation (g : Grid) (row : Nat) : Bool := decide (row > 0) && g.activeGrid.wraps[row]? == some .soft

def cursorPos (g : Grid) : Pos := ⟨g.cursorRow,g.cursorCol⟩

/-- The context of row `i`. -/
def rowCtx (g : Grid) (i : Nat) (cells : Row) (wrapping : Bool) : RowCtx where
  cells := cells
  prevRow := if i > 0 then g.activeGrid.rows[i - 1]? else none
  row := i
  cols := g.cols
  wrapping := wrapping

/-- The end of a paint: the cursor's place and the pen. -/
def writeCursorAndPen (g : Grid) (brush : Brush) : Out Unit := do
  writeCursorPositionFormatted g.activeGrid g.cursorPos g.cols (some brush.prevPos) (some brush.prevAttrs)
  writeAttrsDiff g.currentAttrs brush.prevAttrs

/-- The loop over the rows ends early where the screen has no such row. -/
def writeContentsFullPaint (g : Grid) : Out Unit := do
  tell (ascii "\x1b[m")
  tell (ascii "\x1b[H\x1b[J")
  let painted ← (List.range (min g.rows g.activeGrid.len)).foldlM
    (fun (painted : Brush × Bool) i => do
      let cells ← (at? g.activeGrid.rows i : Checked Row)
      let brush ← writeRowFormatted (g.rowCtx i cells painted.2) painted.1
      return (brush,g.rowIsContinuation (← add16 i 1)))
    (⟨⟨0,0⟩,{}⟩,false)
  g.writeCursorAndPen painted.1

def writeContentsFormatted (g : Grid) : Out Unit := do
  writeAutowrap true
  writeHideCursor g.modeFlags.hideCursor
  g.writeContentsFullPaint
  if g.autowrap = false then writeAutowrap false

section
variable [UnicodeWidth]

def writeContentsDiff (g prev : Grid) : Out Unit := do
  writeAutowrap true
  if g.modeFlags.hideCursor ≠ prev.modeFlags.hideCursor then writeHideCursor g.modeFlags.hideCursor
  if (g.rows,g.cols) ≠ (prev.rows,prev.cols) ∨ g.modeFlags.altScreen ≠ prev.modeFlags.altScreen then
    g.writeContentsFullPaint
  else
    let painted ← (List.range (min g.rows (min g.activeGrid.len prev.activeGrid.len))).foldlM
      (fun (painted : Brush × Bool × Bool) i => do
        let cells ← (at? g.activeGrid.rows i : Checked Row)
        let prevCells ← (at? prev.activeGrid.rows i : Checked Row)
        let brush ← writeRowDiff (g.rowCtx i cells painted.2.1) prevCells painted.2.2 painted.1
        let next ← add16 i 1
        return (brush,g.rowIsContinuation next,prev.rowIsContinuation next))
      (⟨prev.cursorPos,prev.currentAttrs⟩,false,false)
    g.writeCursorAndPen painted.1
  if g.autowrap = false then writeAutowrap false

end

def writeKeypad (application : Bool) : Out Unit := tell (ascii (if application then "\x1b=" else "\x1b>"))

def writeCursorKeys (application : Bool) : Out Unit := tell (ascii (if application then "\x1b[?1h" else "\x1b[?1l"))

def writeBracketedPaste (on : Bool) : Out Unit := tell (ascii (if on then "\x1b[?2004h" else "\x1b[?2004l"))

def writeInputModeFormatted (g : Grid) : Out Unit := do
  writeAutowrap g.autowrap
  writeKeypad g.modeFlags.applicationKeypad
  writeCursorKeys g.modeFlags.applicationCursor
  writeBracketedPaste g.modeFlags.bracketedPaste
  writeMouseMode g.mouseMode .none
  writeMouseEncoding g.mouseEncoding .default
  if g.modeFlags.altScreen then tell (ascii "\x1b[?1049h")
  writeHideCursor g.modeFlags.hideCursor
  writeCursorStyle g.cursorStyle

def writeInputModeDiff (g prev : Grid) : Out Unit := do
  if g.autowrap ≠ prev.autowrap then writeAutowrap g.autowrap
  if g.modeFlags.applicationKeypad ≠ prev.modeFlags.applicationKeypad then writeKeypad g.modeFlags.applicationKeypad
  if g.modeFlags.applicationCursor ≠ prev.modeFlags.applicationCursor then writeCursorKeys g.modeFlags.applicationCursor
  if g.modeFlags.bracketedPaste ≠ prev.modeFlags.bracketedPaste then writeBracketedPaste g.modeFlags.bracketedPaste
  writeMouseMode g.mouseMode prev.mouseMode
  writeMouseEncoding g.mouseEncoding prev.mouseEncoding
  if g.modeFlags.altScreen ≠ prev.modeFlags.altScreen then
    tell (ascii (if g.modeFlags.altScreen then "\x1b[?1049h" else "\x1b[?1049l"))
  if g.modeFlags.hideCursor ≠ prev.modeFlags.hideCursor then writeHideCursor g.modeFlags.hideCursor
  if g.cursorStyle ≠ prev.cursorStyle then writeCursorStyle g.cursorStyle

/-- `state_formatted`. -/
def writeStateFormatted (g : Grid) : Out Unit := do
  g.writeInputModeFormatted
  g.writeContentsFormatted

def stateFormatted (g : Grid) : Checked Bytes := Prod.snd <$> g.writeStateFormatted.run

variable [UnicodeWidth]

/-- `state_diff`. -/
def writeStateDiff (g prev : Grid) : Out Unit := do
  g.writeInputModeDiff prev
  g.writeContentsDiff prev

def stateDiff (g prev : Grid) : Checked Bytes := Prod.snd <$> (g.writeStateDiff prev).run

end Grid

/-- Two cells that show the same: all of a cell but its link. -/
def Cell.shows (c d : Cell) : Bool :=
  c.contents == d.contents && c.isWide == d.isWide && c.isWideContinuation == d.isWideContinuation && c.attrs == d.attrs

/-- `state_eq`. -/
def Grid.stateEq (g other : Grid) : Bool :=
  if (g.rows,g.cols) ≠ (other.rows,other.cols) then false
  else
    ((List.range g.rows).all fun r => (List.range g.cols).all fun c =>
      match g.cell r c,other.cell r c with
      | some cell,some otherCell => cell.shows otherCell
      | _,_ => false) &&
    g.cursorPos == other.cursorPos &&
    g.currentAttrs == other.currentAttrs &&
    g.autowrap == other.autowrap &&
    g.modeFlags.applicationKeypad == other.modeFlags.applicationKeypad &&
    g.modeFlags.applicationCursor == other.modeFlags.applicationCursor &&
    g.modeFlags.bracketedPaste == other.modeFlags.bracketedPaste &&
    mouseModeNumber g.mouseMode == mouseModeNumber other.mouseMode &&
    mouseEncodingNumber g.mouseEncoding == mouseEncodingNumber other.mouseEncoding &&
    g.modeFlags.altScreen == other.modeFlags.altScreen &&
    g.modeFlags.hideCursor == other.modeFlags.hideCursor &&
    g.cursorStyle == other.cursorStyle

end Termpane
