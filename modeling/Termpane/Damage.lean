import Termpane.Checked

/-!
# Damage

`damage.rs`: the rows changed since the last drain, one merged column span a
row, at most 64 of them before the tracker gives up and reports everything. The
fixed array with its length is a list of the rows in use.
-/
namespace Termpane

def maxTrackedDirtyRows : Nat := 64

/-- One dirty span. `endCol` is `u16::MAX` for a span to the end of the row. -/
structure DirtySpan where
  row : Nat
  startCol : Nat
  endCol : Nat
  deriving DecidableEq, Repr

def DirtySpan.merge (s : DirtySpan) (startCol endCol : Nat) : DirtySpan :=
  { s with startCol := min s.startCol startCol, endCol := max s.endCol endCol }

/-- `binary_search_by_key(&row, |span| span.row)` on spans in row order: the
    index of the row's span, or else the index where it belongs. -/
def searchRow (row : Nat) : List DirtySpan → Nat ⊕ Nat
  | [] => .inr 0
  | s :: spans =>
    if s.row = row then .inl 0
    else if row < s.row then .inr 0
    else (searchRow row spans).map (· + 1) (· + 1)

/-- `DirtyRows::push_or_merge`, `none` when the rows in use are full. -/
def pushOrMerge (spans : List DirtySpan) (row startCol endCol : Nat) : Option (List DirtySpan) :=
  match searchRow row spans with
  | .inl idx => some (spans.modify idx (·.merge startCol endCol))
  | .inr insertAt =>
    if spans.length = maxTrackedDirtyRows then none
    else some (spans.insertIdx insertAt ⟨row,startCol,endCol⟩)

structure DirtyTracker where
  rows : List DirtySpan := []
  allDirty : Bool := false
  deriving DecidableEq, Repr

/-- The set of rows `take` hands out. -/
inductive DirtySpans
  | all
  | rows (spans : List DirtySpan)
  deriving DecidableEq, Repr

namespace DirtyTracker

def markAll (t : DirtyTracker) : DirtyTracker := { t with rows := [], allDirty := true }

def markRange (t : DirtyTracker) (row startCol endCol : Nat) : DirtyTracker :=
  if t.allDirty then t
  else if startCol ≥ endCol then t
  else
    match pushOrMerge t.rows row startCol endCol with
    | some rows => { t with rows := rows }
    | none => t.markAll

def markRow (t : DirtyTracker) (row : Nat) : DirtyTracker := t.markRange row 0 u16Max

/-- `for r in top..=bottom { mark_row(r) }`. -/
def markRows (t : DirtyTracker) (top bottom : Nat) : DirtyTracker :=
  (List.range' top (bottom + 1 - top)).foldl markRow t

def resize (t : DirtyTracker) : DirtyTracker := { t with rows := [] }.markAll

def take (t : DirtyTracker) : DirtySpans × DirtyTracker :=
  if t.allDirty then (.all,{ t with allDirty := false }) else (.rows t.rows,{ t with rows := [] })

end DirtyTracker

end Termpane
