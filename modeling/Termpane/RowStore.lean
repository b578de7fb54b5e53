import Termpane.Cell
import Mathlib.Data.List.DropRight

/-!
# Row storage

`RowStore` and the row helpers of `write.rs`. The store is its rows and their
wrap flags, two deques kept in step. Its arena only recycles allocations: a row
it hands out is all default cells (`blank_row` refills a recycled one).
-/
namespace Termpane

/-- Provenance of one physical row. -/
inductive RowWrap
  | hard
  | soft
  deriving DecidableEq, Repr

/-- `blank_row`. -/
def blankRow (cols : Nat) : Row := List.replicate cols default

structure RowStore where
  rows : List Row := []
  wraps : List RowWrap := []
  deriving DecidableEq, Repr

/-- Give a wide lead in `row[len - 1]` the continuation it lacked at the old
    right margin. -/
def completeWideLead (row : Row) (len : Nat) : Row :=
  if len = 0 then row
  else
    match row[len - 1]? with
    | none => row
    | some lead => if lead.isWide then row.set len (.continuationOf lead.attrs lead.hyperlink) else row

/-- What `RowStore::resize` does to one row whose width changes. -/
def resizeRow (targetCols : Nat) (row : Row) : Row :=
  let oldCols := row.length
  let row := row.take targetCols ++ List.replicate (targetCols - oldCols) default
  if targetCols > oldCols then completeWideLead row oldCols
  else
    match row.getLast? with
    | some last => if last.isWide then row.set (row.length - 1) default else row
    | none => row

namespace RowStore

def blank (rows cols : Nat) : RowStore :=
  { rows := List.replicate rows (blankRow cols), wraps := List.replicate rows .hard }

def len (s : RowStore) : Nat := s.rows.length

def clear (_ : RowStore) : RowStore := {}

def wrap (s : RowStore) (row : Nat) : Option RowWrap := s.wraps[row]?

/-- `VecDeque::insert` panics past the end; `rows` is clamped, `wraps` is not. -/
def insertWithWrap (s : RowStore) (index : Nat) (row : Row) (wrap : RowWrap) : Checked RowStore :=
  let index := min index s.rows.length
  if index ≤ s.wraps.length then
    .ok { rows := s.rows.insertIdx index row, wraps := s.wraps.insertIdx index wrap }
  else .error .index

def insert (s : RowStore) (index : Nat) (row : Row) : Checked RowStore := s.insertWithWrap index row .hard

def removeWithWrap (s : RowStore) (index : Nat) : Option (Row × RowWrap) × RowStore :=
  match s.rows[index]? with
  | none => (none,s)
  | some row =>
    (some (row,s.wraps[index]?.getD .hard),
      { rows := s.rows.eraseIdx index, wraps := s.wraps.eraseIdx index })

def remove (s : RowStore) (index : Nat) : RowStore := (s.removeWithWrap index).2

def pushBackWithWrap (s : RowStore) (row : Row) (wrap : RowWrap) : RowStore :=
  { rows := s.rows ++ [row], wraps := s.wraps ++ [wrap] }

def pushBack (s : RowStore) (row : Row) : RowStore := s.pushBackWithWrap row .hard

/-- `recycle_front`: drop the oldest row. -/
def recycleFront (s : RowStore) : RowStore :=
  if s.rows.isEmpty then s else { rows := s.rows.tail, wraps := s.wraps.tail }

/-- `grid[row]` read, changed and written back. -/
def modifyRow (s : RowStore) (row : Nat) (f : Row → Checked Row) : Checked RowStore := do
  let cells ← at? s.rows row
  let cells ← f cells
  return { s with rows := s.rows.set row cells }

/-- `for row in iter_mut().take(stop).skip(start) { row.clone_from(&blank) }`. -/
def fillRows (s : RowStore) (start stop : Nat) (blank : Row) : RowStore :=
  { s with rows := s.rows.mapIdx (fun i row => if start ≤ i ∧ i < stop then blank else row) }

/-- `wraps.get_mut(row)` set. -/
def setWrap (s : RowStore) (row : Nat) (wrap : RowWrap) : RowStore := { s with wraps := s.wraps.set row wrap }

def resize (s : RowStore) (targetRows targetCols : Nat) : RowStore :=
  let widthChanged := s.rows.head?.any (·.length ≠ targetCols)
  if s.rows.length = targetRows ∧ widthChanged = false then s
  else
    let rows := if widthChanged then s.rows.map (resizeRow targetCols) else s.rows
    -- rows popped off the back, then blank rows pushed
    let surplus := rows.length - targetRows
    let missing := targetRows - rows.length
    { rows := rows.rdrop surplus ++ List.replicate missing (blankRow targetCols),
      wraps := s.wraps.rdrop surplus ++ List.replicate missing .hard }

end RowStore

end Termpane
