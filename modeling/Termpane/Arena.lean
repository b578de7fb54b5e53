import Termpane.Calls
import Termpane.Lib.Service

/-!
# The row arena

`RowArena` of `grid.rs`, the pool of rows that the grids of a process share, and the
functions of the grid that take rows from it and give rows back. Such a function is a
program whose requests are the locked operations of the arena, so that the calls of
different grids interleave between any two of them; everything else a call does is the
grid's own.
-/
namespace Termpane

open Lib

/-- `MAX_RECYCLED_ROWS`. -/
def maxRecycledRows : Nat := 4096

structure RowArena where
  rows : List Row := []
  deriving DecidableEq, Repr

/-- `row.fill(Cell::default())`. -/
def fillRow (row : Row) : Row := row.map fun _ => default

/-- `Vec::swap_remove`: the last row takes the place of the one removed. -/
def swapRemove (rows : List Row) (index : Nat) : List Row :=
  match rows.getLast? with
  | some last => (rows.set index last).dropLast
  | none => rows

namespace RowArena

def blankRow (arena : RowArena) (cols : Nat) : Row × RowArena :=
  let wide (row : Row) : Bool := row.length = cols
  match arena.rows.find? wide with
  | some row => (fillRow row,{ rows := swapRemove arena.rows (arena.rows.findIdx wide) })
  | none => (List.replicate cols default,arena)

def recycle (arena : RowArena) (row : Row) : RowArena :=
  let row := fillRow row
  if arena.rows.length < maxRecycledRows then { rows := arena.rows ++ [row] } else arena

end RowArena

/-- What a grid asks of its arena. -/
inductive RowRequest
  | blankRow (cols : Nat)
  | recycle (row : Row)

abbrev RowRequest.Answer : RowRequest → Type
  | .blankRow _ => Row
  | .recycle _ => Unit

def RowArena.serve (arena : RowArena) : (q : RowRequest) → q.Answer × RowArena
  | .blankRow cols => arena.blankRow cols
  | .recycle row => ((),arena.recycle row)

/-- A computation on rows of an arena. -/
abbrev Pooled (α : Type) := Program RowRequest RowRequest.Answer Panic α

namespace Pooled

def blankRow (cols : Nat) : Pooled Row := .ask (.blankRow cols) pure

def recycle (row : Row) : Pooled Unit := .ask (.recycle row) pure

/-! ## Row stores -/

def blankRows (cols : Nat) : Nat → Pooled (List Row)
  | 0 => pure []
  | n+1 => do
    let row ← blankRow cols
    let rows ← blankRows cols n
    return row :: rows

def recycleRows : List Row → Pooled Unit
  | [] => pure ()
  | row :: rows => do
    recycle row
    recycleRows rows

def blank (rows cols : Nat) : Pooled RowStore := do
  let blank ← blankRows cols rows
  return { rows := blank, wraps := List.replicate rows .hard }

def clear (s : RowStore) : Pooled RowStore := do
  recycleRows s.rows
  return {}

def recycleFront (s : RowStore) : Pooled RowStore :=
  match s.rows with
  | [] => pure s
  | row :: rows => do
    recycle row
    return { rows := rows, wraps := s.wraps.tail }

def resize (s : RowStore) (targetRows targetCols : Nat) : Pooled RowStore :=
  let widthChanged := s.rows.head?.any (·.length ≠ targetCols)
  if s.rows.length = targetRows ∧ widthChanged = false then pure s
  else do
    let rows := if widthChanged then s.rows.map (resizeRow targetCols) else s.rows
    let surplus := rows.length - targetRows
    let missing := targetRows - rows.length
    -- the last row is popped first
    recycleRows (rows.rtake surplus).reverse
    let added ← blankRows targetCols missing
    return { rows := rows.rdrop surplus ++ added, wraps := s.wraps.rdrop surplus ++ List.replicate missing .hard }

/-! ## Grids -/

def pushScrollbackRow (g : Grid) (row : Row) (wrap : RowWrap) : Pooled Grid := do
  let scrollback ← if g.scrollback.len ≥ g.scrollbackLimit then recycleFront g.scrollback else pure g.scrollback
  return { g with scrollback := scrollback.pushBackWithWrap row wrap }

/-- What `scroll_up` does with the row that leaves the region. -/
def evict (g : Grid) (toScrollback : Bool) : Option (Row × RowWrap) → Pooled Grid
  | some (row,wrap) =>
    if toScrollback then pushScrollbackRow g row wrap
    else do
      recycle row
      return g
  | none => pure g

def scrollUpOnce (top bottom : Nat) (insertedWrap : RowWrap) (g : Grid) : Pooled Grid :=
  let gridLen := g.activeGrid.len
  if bottom ≥ gridLen ∨ top ≥ bottom then pure g
  else do
    let toScrollback := !g.modeFlags.altScreen && decide (top = 0 ∧ g.scrollbackLimit > 0)
    let blank ← blankRow g.cols
    let (evicted,remaining) := g.activeGrid.removeWithWrap top
    let g ← evict (g.setActiveGrid remaining) toScrollback evicted
    let inserted ← g.activeGrid.insertWithWrap bottom blank insertedWrap
    return g.setActiveGrid inserted

def repeatBody (body : Grid → Pooled Grid) : Nat → Grid → Pooled Grid
  | 0, g => pure g
  | n+1, g => body g >>= repeatBody body n

def scrollUp (g : Grid) (n : Nat) (insertedWrap : RowWrap) : Pooled Grid := do
  let g := { g with modeFlags.mutatedSincePreserve := true }
  let height ← g.regionHeight g.scrollTop
  let n := min n height
  let top := g.scrollTop
  let bottom := g.scrollBottom
  let g := if n > 0 then { g with scrollOps := g.scrollOps ++ [.up top bottom n] } else g
  let g ← repeatBody (scrollUpOnce top bottom insertedWrap) n g
  return { g with dirty := g.dirty.markRows top bottom }

def preserveVisibleRowsToScrollback (g : Grid) : Pooled Grid :=
  if g.eraseDisplayPolicy = .discard ∨ g.modeFlags.altScreen ∨ g.scrollbackLimit = 0 then pure g
  else if !g.modeFlags.mutatedSincePreserve then pure g
  else
    match Grid.visibleBlock g.primary with
    | none => pure g
    | some block =>
      if g.lastPreservedBlock = some block then pure { g with modeFlags.mutatedSincePreserve := false }
      else do
        let g ← block.foldlM (fun g row => pushScrollbackRow g row .hard) g
        return { g with lastPreservedBlock := some block, modeFlags.mutatedSincePreserve := false }

def newlineActionWithWrap (g : Grid) (wrap : RowWrap) : Pooled Grid :=
  if g.cursorRow = g.scrollBottom then scrollUp g 1 wrap else .ret (g.newlineActionWithWrap wrap)

def eraseDisplayCells (g : Grid) (mode : Nat) : Pooled Grid :=
  match mode with
  | 0 => do
    let g ← if g.cursorRow = 0 ∧ g.cursorCol = 0 then preserveVisibleRowsToScrollback g else pure g
    let g ← g.modifyActiveRow g.cursorRow fun row => eraseCellsBce row g.cursorCol g.cols g.blankCell
    return g.setActiveGrid (g.activeGrid.fillRows (g.cursorRow + 1) g.rows g.blankRowBce)
  | 2 => do
    let g ← preserveVisibleRowsToScrollback g
    return g.setActiveGrid (g.activeGrid.fillRows 0 g.rows g.blankRowBce)
  | 3 => do
    let scrollback ← clear g.scrollback
    let g := { g with scrollback := scrollback, scrollbackOffset := 0 }
    let g := g.setActiveGrid (g.activeGrid.fillRows 0 g.rows g.blankRowBce)
    return g.pushEvent .scrollbackClear
  | mode => .ret (g.eraseDisplayCells mode)

def eraseDisplay (g : Grid) (mode : Nat) : Pooled Grid := do
  let g ← eraseDisplayCells g mode
  return g.markAll

/-- RIS: the old screens are dropped as the blank one and its clone take their places. -/
def fullReset (g : Grid) : Pooled Grid := do
  let blank ← blank g.rows g.cols
  let _ ← clear g.primary
  let _ ← clear g.alternate
  return { g.fullReset with primary := blank, alternate := blank }

def setSize (g : Grid) (rows cols : UInt16) : Pooled Grid := do
  let rows := max rows.toNat 1
  let cols := max cols.toNat 1
  let primary ← resize g.primary rows cols
  let alternate ← resize g.alternate rows cols
  let g := { g with
    rows := rows
    cols := cols
    primary := primary
    alternate := alternate
    cursorRow := min g.cursorRow (rows - 1)
    cursorCol := min g.cursorCol (cols - 1) }
  let g := g.clearPendingWrap
  return { g with scrollTop := 0, scrollBottom := rows - 1, dirty := g.dirty.resize }

def clearScrollback (g : Grid) : Pooled Grid := do
  let scrollback ← clear g.scrollback
  return { g with scrollback := scrollback, scrollbackOffset := 0 }

def host (g : Grid) : HostCall → Pooled Grid
  | .setSize rows cols => setSize g rows cols
  | .clearScrollback => clearScrollback g
  | c => pure (g.host c)

section
variable [UnicodeWidth]

def deferredWrap (g : Grid) : Pooled Grid :=
  if g.modeFlags.pendingWrap ∧ g.modeFlags.noAutowrap = false then
    newlineActionWithWrap { g with modeFlags.pendingWrap := false, cursorCol := 0 } .soft
  else pure g

def writeNewCell (g : Grid) (ch : Char) (width : Nat) : Pooled Grid := do
  let g ← deferredWrap g
  if g.modeFlags.noAutowrap then
    let col := min g.cursorCol (g.cols - 1)
    if width > g.cols - col then return g
    Grid.placeChar { g with modeFlags.pendingWrap := false, cursorCol := col } ch width
  else g.placeChar ch width

def writeCharAtCursor (g : Grid) (ch : Char) : Pooled Grid := do
  let width := charWidth ch
  let g := { g with modeFlags.mutatedSincePreserve := true }
  let (g,absorbed) ← g.appendToPreviousCluster ch width
  if absorbed then return g else writeNewCell g ch width

/-- The operations that use the arena; IL, DL, SD and RI allocate their blank rows. -/
def exec (g : Grid) : Op → Pooled Grid
  | .print ch => writeCharAtCursor g ch
  | .newline => newlineActionWithWrap g .hard
  | .eraseDisplay mode => eraseDisplay g mode
  | .scrollUp n => scrollUp g n .hard
  | .fullReset => fullReset g
  | op => .ret (g.exec op)

def perform (g : Grid) (c : Callback) : Pooled Grid := c.ops.foldlM exec g

end

variable [Vte]

/-- `DamageGrid::with_row_arena`. -/
def withRowArena (rows cols : UInt16) (scrollbackLimit : Nat) : Pooled DamageGrid := do
  let blank ← blank rows.toNat cols.toNat
  return { grid := { Grid.new rows cols scrollbackLimit with primary := blank, alternate := blank } }

/-- A grid is dropped, and its stores with it. -/
def drop (d : DamageGrid) : Pooled Unit := do
  let _ ← clear d.grid.primary
  let _ ← clear d.grid.alternate
  let _ ← clear d.grid.scrollback

variable [UnicodeWidth]

def advanceParser (d : DamageGrid) (bytes : Bytes) : Pooled DamageGrid := do
  let (parser,callbacks) := Vte.advance d.parser bytes
  let grid ← callbacks.foldlM perform d.grid
  return { d with grid := grid, parser := parser, seqState := d.seqState.advanceBytes bytes }

def process (d : DamageGrid) (bytes : Bytes) : Pooled DamageGrid := do
  let (slice,pending) := nextSlice d.pendingUtf8 bytes
  let d ←
    match slice with
    | some slice => advanceParser d slice
    | none => pure d
  return { d with pendingUtf8 := pending }

def call (d : DamageGrid) : Call → Pooled DamageGrid
  | .process bytes => process d bytes
  | .host c => do
    let grid ← host d.grid c
    return { d with grid := grid }

end Pooled

/-- What is done with a grid over its life. -/
inductive GridCall
  | withRowArena (rows cols : UInt16) (scrollbackLimit : Nat)
  | call (c : Call)
  | drop

section
variable [Vte] [UnicodeWidth]

/-- A call on a grid that is not there, or a second creation, is not made. -/
def GridCall.pooled : Option DamageGrid → GridCall → Pooled (Option DamageGrid)
  | none, .withRowArena rows cols scrollbackLimit => do
    let d ← Pooled.withRowArena rows cols scrollbackLimit
    return some d
  | some d, .call c => do
    let d ← Pooled.call d c
    return some d
  | some d, .drop => do
    Pooled.drop d
    return none
  | grid, _ => pure grid

/-- The same call on a grid that has its rows to itself. -/
def GridCall.unpooled : Option DamageGrid → GridCall → Checked (Option DamageGrid)
  | none, .withRowArena rows cols scrollbackLimit => .ok (some (.new rows cols scrollbackLimit))
  | some d, .call c => do
    let d ← d.call c
    return some d
  | some _, .drop => .ok none
  | grid, _ => .ok grid

/-- Any number of grids on one arena. -/
abbrev Grids (ι : Type) := Clients ι RowRequest RowRequest.Answer Panic (Option DamageGrid) RowArena

/-- Before any grid is created. -/
def Grids.start (ι : Type) : Grids ι := { client := fun _ => .idle none, service := {} }

/-- The grids after some moves. -/
def Grids.after {ι : Type} [DecidableEq ι] (schedule : List (ι × Move RowRequest GridCall)) : Grids ι :=
  (Grids.start ι).run RowArena.serve GridCall.pooled schedule

end

end Termpane
