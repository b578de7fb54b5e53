import Termpane.Growth
import Termpane.Lib.Search
import Mathlib.Data.Finset.Card
import Mathlib.Order.Bounds.Basic

/-!
# The tracker's array

`DirtyTracker` with the array it has: sixty-four spans of which the first `len` are in use
and the others are what was there before. The grid's tracker has the spans in use as a
list. Either hands out the rows marked since they were last taken, each with the columns
from the first to the last one marked.
-/
namespace Termpane

open Lib

/-! ## Calls -/

/-- A call that marks. -/
inductive Mark
  | row (row : UInt16)
  | cell (row col : UInt16)
  | range (row startCol endCol : UInt16)
  | all
  | resize (rowCount : UInt16)
  deriving DecidableEq, Repr

inductive TrackerCall
  | mark (m : Mark)
  | take
  deriving DecidableEq, Repr

/-- `copy_within(start..stop, dest)`. -/
def copyWithin {α : Type} {n : Nat} (v : Vector α n) (start stop dest : Nat) : Checked (Vector α n) :=
  if start ≤ stop ∧ stop ≤ n ∧ dest ≤ n - (stop - start) then
    .ok (Vector.ofFn fun i => if dest ≤ i ∧ i < dest + (stop - start) then v[start + (i - dest)]?.getD v[i] else v[i])
  else .error .index

namespace Fixed

structure DirtyRows where
  rows : Vector DirtySpan maxTrackedDirtyRows
  len : Nat
  deriving DecidableEq, Repr

namespace DirtyRows

/-- `DirtyRows::default`. -/
def default : DirtyRows := { rows := Vector.replicate maxTrackedDirtyRows ⟨0,0,u16Max⟩, len := 0 }

/-- `&self.rows[..self.len]`. -/
def asSlice (r : DirtyRows) : Checked (List DirtySpan) :=
  if r.len ≤ maxTrackedDirtyRows then .ok (r.rows.toList.take r.len) else .error .index

def pushOrMerge (r : DirtyRows) (row startCol endCol : Nat) : Checked (Option DirtyRows) := do
  let spans ← r.asSlice
  match binarySearch (spans.map (·.row)) row with
  | .inl idx =>
    if h : idx < maxTrackedDirtyRows then
      return some { r with rows := r.rows.set idx (r.rows[idx].merge startCol endCol) }
    else .error .index
  | .inr _ =>
    if r.len = maxTrackedDirtyRows then return none
    let spans ← r.asSlice
    let insertAt := (binarySearch (spans.map (·.row)) row).elim id id
    let rows ← copyWithin r.rows insertAt r.len (insertAt + 1)
    if h : insertAt < maxTrackedDirtyRows then
      return some { rows := rows.set insertAt ⟨row,startCol,endCol⟩, len := r.len + 1 }
    else .error .index

def clear (r : DirtyRows) : DirtyRows := { r with len := 0 }

def isEmpty (r : DirtyRows) : Bool := r.len = 0

end DirtyRows

/-- What `take` hands out. -/
inductive DirtySpans
  | all
  | rows (rows : DirtyRows)
  deriving DecidableEq, Repr

structure DirtyTracker where
  rows : DirtyRows
  allDirty : Bool
  deriving DecidableEq, Repr

namespace DirtyTracker

def new (_rowCount : UInt16) : DirtyTracker := { rows := .default, allDirty := false }

def clearRows (t : DirtyTracker) : DirtyTracker := { t with rows := t.rows.clear }

def markAll (t : DirtyTracker) : DirtyTracker := { t.clearRows with allDirty := true }

def resize (t : DirtyTracker) (_rowCount : UInt16) : DirtyTracker := t.clearRows.markAll

def markRange (t : DirtyTracker) (row startCol endCol : Nat) : Checked DirtyTracker :=
  if t.allDirty then .ok t
  else if startCol ≥ endCol then .ok t
  else do
    match ← t.rows.pushOrMerge row startCol endCol with
    | some rows => return { t with rows := rows }
    | none => return t.markAll

def markRow (t : DirtyTracker) (row : Nat) : Checked DirtyTracker := t.markRange row 0 u16Max

def markCell (t : DirtyTracker) (row col : Nat) : Checked DirtyTracker := t.markRange row col (satAdd16 col 1)

def take (t : DirtyTracker) : DirtySpans × DirtyTracker :=
  if t.allDirty then (.all,{ t with allDirty := false })
  -- `std::mem::take` puts the default in place
  else (.rows t.rows,{ t with rows := .default })

def isDirty (t : DirtyTracker) : Bool := t.allDirty || !t.rows.isEmpty

def mark (t : DirtyTracker) : Mark → Checked DirtyTracker
  | .row row => t.markRow row.toNat
  | .cell row col => t.markCell row.toNat col.toNat
  | .range row startCol endCol => t.markRange row.toNat startCol.toNat endCol.toNat
  | .all => .ok t.markAll
  | .resize rowCount => .ok (t.resize rowCount)

def call (t : DirtyTracker) : TrackerCall → Checked DirtyTracker
  | .mark m => t.mark m
  | .take => .ok t.take.2

end DirtyTracker

end Fixed

/-! ## Spans in row order -/

/-- One span a row, in row order. -/
def Ascending (spans : List DirtySpan) : Prop := (spans.map (·.row)).Pairwise (· < ·)

/-- The spans with one more mark. -/
def enter (d : DirtySpan) : List DirtySpan → List DirtySpan
  | [] => [d]
  | s :: spans =>
    if s.row = d.row then s.merge d.startCol d.endCol :: spans
    else if d.row < s.row then d :: s :: spans
    else s :: enter d spans

/-- The span of a row. -/
def spanOn (spans : List DirtySpan) (row : Nat) : Option DirtySpan := spans.find? (·.row = row)

/-- A span and what a mark adds to it. -/
def joined (s : Option DirtySpan) (d : DirtySpan) : DirtySpan := s.elim d (·.merge d.startCol d.endCol)

section
variable {spans : List DirtySpan} {d s : DirtySpan}

theorem Ascending.tail (ascending : Ascending (s :: spans)) : Ascending spans := (List.pairwise_cons.mp ascending).2

theorem Ascending.head_lt (ascending : Ascending (s :: spans)) {t : DirtySpan} (inside : t ∈ spans) : s.row < t.row :=
  (List.pairwise_cons.mp ascending).1 t.row (List.mem_map_of_mem inside)

theorem mem_map_enter {row : Nat} : row ∈ (enter d spans).map (·.row) ↔ row = d.row ∨ row ∈ spans.map (·.row) := by
  induction spans with
  | nil => simp [enter]
  | cons s spans ih =>
    unfold enter
    split_ifs with same less
    · simp [DirtySpan.merge,same]
    · simp
    · simp only [List.map_cons,List.mem_cons,ih]
      exact or_left_comm

theorem Ascending.enter (ascending : Ascending spans) (d : DirtySpan) : Ascending (enter d spans) := by
  induction spans with
  | nil => exact List.pairwise_singleton _ _
  | cons s spans ih =>
    have after := (List.pairwise_cons.mp ascending).1
    unfold Termpane.enter
    split_ifs with same less
    · exact ascending
    · refine List.pairwise_cons.mpr ⟨?_,ascending⟩
      intro row inside
      rcases List.mem_cons.mp inside with rfl | later
      · exact less
      · exact less.trans (after row later)
    · refine List.pairwise_cons.mpr ⟨?_,ih ascending.tail⟩
      intro row inside
      rcases mem_map_enter.mp inside with rfl | old
      · exact Nat.lt_of_le_of_ne (Nat.le_of_not_lt less) same
      · exact after row old

theorem spanOn_enter (ascending : Ascending spans) (d : DirtySpan) (row : Nat) :
    spanOn (enter d spans) row = if row = d.row then some (joined (spanOn spans row) d) else spanOn spans row := by
  induction spans with
  | nil =>
    by_cases same : row = d.row
    · simp [enter,spanOn,joined,same]
    · simp [enter,spanOn,same,Ne.symm same]
  | cons s spans ih =>
    have rest := ih ascending.tail
    unfold spanOn at rest ⊢
    unfold enter
    by_cases here : row = d.row
    · subst here
      rw [if_pos rfl] at rest ⊢
      split_ifs with same less
      · simp [same,joined,DirtySpan.merge]
      · -- the rows to come are larger
        have missing : (s :: spans).find? (fun t => t.row = d.row) = none := by
          rw [List.find?_eq_none]
          intro t inside is
          have is : t.row = d.row := by simpa using is
          rcases List.mem_cons.mp inside with rfl | later
          · omega
          · have after := ascending.head_lt later
            omega
        rw [missing]
        simp [joined]
      · rw [List.find?_cons_of_neg (by simpa using same),List.find?_cons_of_neg (by simpa using same),rest]
    · rw [if_neg here] at rest ⊢
      split_ifs with same less
      · have other : s.row ≠ row := fun is => here (is.symm.trans same)
        simp [DirtySpan.merge,other]
      · rw [List.find?_cons_of_neg (by simpa using Ne.symm here)]
      · rw [List.find?_cons,List.find?_cons,rest]

theorem Ascending.spanOn_eq (ascending : Ascending spans) (inside : s ∈ spans) : spanOn spans s.row = some s := by
  induction spans with
  | nil => cases inside
  | cons t spans ih =>
    unfold spanOn at ih ⊢
    rcases List.mem_cons.mp inside with rfl | later
    · simp
    · have less := ascending.head_lt later
      rw [List.find?_cons_of_neg (by simp; omega)]
      exact ih ascending.tail later

/-! ## Where a row is -/

/-- In row order the list's search ends where the row is or where it belongs. -/
theorem searchRow_spec (ascending : Ascending spans) (row : Nat) :
    (∃ i, searchRow row spans = .inl i ∧ (spans.map (·.row))[i]? = some row) ∨
      ∃ i, searchRow row spans = .inr i ∧ Belongs (spans.map (·.row)) row i := by
  induction spans with
  | nil => exact .inr ⟨0,rfl,Nat.zero_le _,fun _ _ _ found => (nomatch found),fun _ _ _ found => (nomatch found)⟩
  | cons s spans ih =>
    unfold searchRow
    split_ifs with same less
    · exact .inl ⟨0,rfl,by simp [same]⟩
    · refine .inr ⟨0,rfl,Nat.zero_le _,fun j k none => absurd none (Nat.not_lt_zero j),?_⟩
      intro j k _ found
      cases j with
      | zero => cases found; exact less
      | succ j => exact less.trans (lt_of_ascending ascending (show _[0]? = some s.row from rfl) found (Nat.succ_pos j))
    · rcases ih ascending.tail with ⟨i,found,here⟩ | ⟨i,missing,belongs⟩
      · exact .inl ⟨i + 1,by rw [found]; rfl,here⟩
      · refine .inr ⟨i + 1,by rw [missing]; rfl,Nat.succ_le_succ belongs.bound,?_,?_⟩
        · intro j k before found
          cases j with
          | zero => cases found; exact Nat.lt_of_le_of_ne (Nat.le_of_not_lt less) same
          | succ j => exact belongs.before j k (Nat.lt_of_succ_lt_succ before) found
        · intro j k behind found
          cases j with
          | zero => omega
          | succ j => exact belongs.after j k (Nat.le_of_succ_le_succ behind) found

theorem binarySearch_eq (ascending : Ascending spans) (row : Nat) :
    binarySearch (spans.map (·.row)) row = searchRow row spans := by
  rcases binarySearch_spec ascending row with ⟨i,found,here⟩ | ⟨i,missing,belongs⟩
  · rcases searchRow_spec ascending row with ⟨j,found',here'⟩ | ⟨j,_,belongs'⟩
    · rw [found,found',index_of_ascending ascending here here']
    · exact absurd here (belongs'.missing i)
  · rcases searchRow_spec ascending row with ⟨j,_,here'⟩ | ⟨j,missing',belongs'⟩
    · exact absurd here' (belongs.missing j)
    · rw [missing,missing',belongs.unique belongs']

/-- The list's search and what is done there, in one pass. -/
theorem enter_eq (d : DirtySpan) (spans : List DirtySpan) : enter d spans =
    (searchRow d.row spans).elim (fun i => spans.modify i (·.merge d.startCol d.endCol)) fun i => spans.insertIdx i d := by
  induction spans with
  | nil => rfl
  | cons s spans ih =>
    unfold enter searchRow
    split_ifs with same less
    · rfl
    · rfl
    · rw [ih]
      cases searchRow d.row spans <;> rfl

theorem pushOrMerge_eq (ascending : Ascending spans) (d : DirtySpan) :
    pushOrMerge spans d.row d.startCol d.endCol =
      if d.row ∉ spans.map (·.row) ∧ spans.length = maxTrackedDirtyRows then none else some (enter d spans) := by
  rw [enter_eq]
  unfold pushOrMerge
  rcases searchRow_spec ascending d.row with ⟨i,found,here⟩ | ⟨i,missing,belongs⟩
  · rw [found,if_neg fun none => none.1 (List.mem_of_getElem? here)]
    rfl
  · have new : d.row ∉ spans.map (·.row) := by
      intro inside
      obtain ⟨j,found⟩ := List.mem_iff_getElem?.mp inside
      exact belongs.missing j found
    rw [missing]
    simp only [new,not_false_eq_true,true_and]
    rfl

end

/-! ## The array -/

theorem copyWithin_ok {α : Type} {n : Nat} (v : Vector α n) {start stop dest : Nat}
    (inside : start ≤ stop ∧ stop ≤ n ∧ dest ≤ n - (stop - start)) :
    ∃ w, copyWithin v start stop dest = .ok w ∧
      ∀ j, w[j]? = if dest ≤ j ∧ j < dest + (stop - start) then v[start + (j - dest)]? else v[j]? := by
  refine ⟨_,if_pos inside,fun j => ?_⟩
  by_cases bound : j < n
  · rw [Vector.getElem?_eq_getElem bound,Vector.getElem_ofFn]
    dsimp only
    split_ifs with copied
    · rw [Vector.getElem?_eq_getElem (show start + (j - dest) < n by omega)]
      rfl
    · rw [Vector.getElem?_eq_getElem bound]
      rfl
  · rw [if_neg (by omega),Vector.getElem?_eq_none (by omega),Vector.getElem?_eq_none (by omega)]

namespace Fixed

namespace DirtyRows
variable {r : DirtyRows} {spans : List DirtySpan}

theorem asSlice_iff : r.asSlice = .ok spans ↔
    r.len = spans.length ∧ r.len ≤ maxTrackedDirtyRows ∧ ∀ i, i < spans.length → r.rows[i]? = spans[i]? := by
  have whole : r.rows.toList.length = maxTrackedDirtyRows := by simp
  unfold asSlice
  constructor
  · intro shows
    split_ifs at shows with room
    have used : r.rows.toList.take r.len = spans := Except.ok.inj shows
    have len : r.len = spans.length := by
      rw [← used,List.length_take]
      omega
    refine ⟨len,room,fun i inside => ?_⟩
    rw [← used,List.getElem?_take_of_lt (by omega)]
    simp
  · rintro ⟨len,room,same⟩
    rw [if_pos room]
    congr 1
    apply List.ext_getElem?
    intro i
    by_cases inside : i < spans.length
    · rw [List.getElem?_take_of_lt (by omega),← same i inside]
      simp
    · rw [List.getElem?_eq_none (by rw [List.length_take]; omega),List.getElem?_eq_none (by omega)]

/-- A row without a span is turned away once all are in use. -/
theorem pushOrMerge_full (shows : r.asSlice = .ok spans) (ascending : Ascending spans) {d : DirtySpan}
    (new : d.row ∉ spans.map (·.row)) (full : spans.length = maxTrackedDirtyRows) :
    r.pushOrMerge d.row d.startCol d.endCol = .ok none := by
  obtain ⟨len,_,_⟩ := asSlice_iff.mp shows
  unfold pushOrMerge
  rw [shows]
  simp only [ok_bind,binarySearch_eq ascending]
  rcases searchRow_spec ascending d.row with ⟨i,_,here⟩ | ⟨i,missing,_⟩
  · exact absurd (List.mem_of_getElem? here) new
  · simp only [missing,len,full]
    rfl

/-- On the array a mark does what it does on the list of the spans in use. -/
theorem pushOrMerge_enter (shows : r.asSlice = .ok spans) (ascending : Ascending spans) {d : DirtySpan}
    (fits : d.row ∈ spans.map (·.row) ∨ spans.length ≠ maxTrackedDirtyRows) :
    ∃ r', r.pushOrMerge d.row d.startCol d.endCol = .ok (some r') ∧ r'.asSlice = .ok (enter d spans) := by
  obtain ⟨len,room,same⟩ := asSlice_iff.mp shows
  unfold pushOrMerge
  rw [shows,enter_eq]
  simp only [ok_bind,binarySearch_eq ascending]
  rcases searchRow_spec ascending d.row with ⟨i,found,here⟩ | ⟨i,missing,belongs⟩
  · have bound : i < spans.length := by
      obtain ⟨bound,_⟩ := List.getElem?_eq_some_iff.mp here
      simpa using bound
    have inside : i < maxTrackedDirtyRows := by omega
    simp only [found,dif_pos inside]
    refine ⟨_,rfl,asSlice_iff.mpr ⟨by simpa using len,room,?_⟩⟩
    intro j before
    have before : j < spans.length := by simpa using before
    have merged := same i bound
    rw [List.getElem?_eq_getElem bound,Vector.getElem?_eq_getElem inside] at merged
    simp only [Sum.elim_inl,List.getElem?_modify,Vector.getElem?_set,same j before]
    by_cases hit : i = j
    · subst hit
      simp [Option.some.inj merged,bound]
    · simp [hit]
  · have bound : i ≤ spans.length := by simpa using belongs.bound
    have more : spans.length < maxTrackedDirtyRows := by
      rcases fits with listed | more
      · obtain ⟨j,found⟩ := List.mem_iff_getElem?.mp listed
        exact absurd found (belongs.missing j)
      · omega
    have inside : i < maxTrackedDirtyRows := by omega
    obtain ⟨rows,copies,moved⟩ := copyWithin_ok r.rows
      (show i ≤ r.len ∧ r.len ≤ maxTrackedDirtyRows ∧ i + 1 ≤ maxTrackedDirtyRows - (r.len - i) by omega)
    simp only [missing,Sum.elim_inr,id_eq,if_neg (show ¬ r.len = maxTrackedDirtyRows by omega),copies,ok_bind,dif_pos inside]
    refine ⟨_,rfl,asSlice_iff.mpr ⟨?_,?_,?_⟩⟩
    · rw [List.length_insertIdx_of_le_length bound,len]
    · change r.len + 1 ≤ _
      omega
    · intro j before
      rw [List.length_insertIdx_of_le_length bound] at before
      rcases Nat.lt_trichotomy j i with left | rfl | right
      · rw [List.getElem?_insertIdx_of_lt left,Vector.getElem?_set_ne _ (by omega),moved,if_neg (by omega)]
        exact same j (by omega)
      · rw [List.getElem?_insertIdx_self,if_pos bound]
        simp
      · rw [List.getElem?_insertIdx_of_gt right,Vector.getElem?_set_ne _ (by omega),moved,if_pos (by omega),
          show i + (j - (i + 1)) = j - 1 by omega]
        exact same (j - 1) (by omega)

end DirtyRows

end Fixed

/-! ## What was marked -/

namespace Mark

/-- The columns a mark is for, none for all of the screen. -/
def columns : Mark → Option DirtySpan
  | .row r => some ⟨r.toNat,0,u16Max⟩
  | .cell r col => some ⟨r.toNat,col.toNat,satAdd16 col.toNat 1⟩
  | .range r startCol endCol => some ⟨r.toNat,startCol.toNat,endCol.toNat⟩
  | .all => none
  | .resize _ => none

/-- The columns of a mark that has some. -/
def span (m : Mark) : Option DirtySpan := m.columns.filter fun s => s.startCol < s.endCol

end Mark

/-- The columns marked, mark by mark. -/
def markedSpans (marks : List Mark) : List DirtySpan := marks.filterMap Mark.span

/-- The whole screen was marked, or more rows than there is room for. -/
def Overflows (marks : List Mark) : Prop :=
  (∃ m ∈ marks, m = .all ∨ ∃ rowCount, m = .resize rowCount) ∨
    maxTrackedDirtyRows < ((markedSpans marks).map (·.row)).toFinset.card

/-- The marks since the last `take`. -/
def sinceTake (calls : List TrackerCall) : List Mark :=
  calls.foldl (fun marks c => match c with | .mark m => marks ++ [m] | .take => []) []

/-- The span of a row that some marks leave. -/
def sumOn (marked : List DirtySpan) (row : Nat) : Option DirtySpan :=
  (marked.filter (·.row = row)).foldl (fun s d => some (joined s d)) none

section
variable {marked : List DirtySpan} {row : Nat} {s : DirtySpan}

theorem sumOn_append (marked : List DirtySpan) (d : DirtySpan) (row : Nat) :
    sumOn (marked ++ [d]) row = if row = d.row then some (joined (sumOn marked row) d) else sumOn marked row := by
  unfold sumOn
  rw [List.filter_append]
  by_cases same : row = d.row
  · simp [same]
  · simp [same,Ne.symm same]

theorem sumOn_isSome : (sumOn marked row).isSome = true ↔ row ∈ marked.map (·.row) := by
  induction marked using List.reverseRecOn with
  | nil => simp [sumOn]
  | append_singleton marked d ih =>
    rw [sumOn_append]
    split_ifs with same
    · simp [same]
    · rw [ih]
      simp [same]

/-- An end of the columns marked on a row, over all marks. -/
def endsOn (side : DirtySpan → Nat) (marked : List DirtySpan) (row : Nat) : Set Nat :=
  {col | ∃ d ∈ marked, d.row = row ∧ side d = col}

theorem endsOn_append (side : DirtySpan → Nat) (marked : List DirtySpan) (d : DirtySpan) (row : Nat) :
    endsOn side (marked ++ [d]) row = if row = d.row then insert (side d) (endsOn side marked row) else endsOn side marked row := by
  ext col
  unfold endsOn
  split_ifs with same
  · constructor
    · rintro ⟨t,inside,here,rfl⟩
      rcases List.mem_append.mp inside with old | new
      · exact .inr ⟨t,old,here,rfl⟩
      · rw [List.mem_singleton.mp new]
        exact .inl rfl
    · rintro (rfl | ⟨t,old,here,rfl⟩)
      · exact ⟨d,by simp,same.symm,rfl⟩
      · exact ⟨t,List.mem_append_left _ old,here,rfl⟩
  · constructor
    · rintro ⟨t,inside,here,rfl⟩
      rcases List.mem_append.mp inside with old | new
      · exact ⟨t,old,here,rfl⟩
      · rw [List.mem_singleton.mp new] at here
        exact absurd here.symm same
    · rintro ⟨t,old,here,rfl⟩
      exact ⟨t,List.mem_append_left _ old,here,rfl⟩

theorem endsOn_empty {side : DirtySpan → Nat} (none : sumOn marked row = none) : endsOn side marked row = ∅ := by
  rw [Set.eq_empty_iff_forall_notMem]
  rintro col ⟨d,inside,here,_⟩
  have listed : row ∈ marked.map (·.row) := List.mem_map.mpr ⟨d,inside,here⟩
  rw [← sumOn_isSome,none] at listed
  cases listed

/-- The span of a row is from the first to the last column marked there. -/
theorem sumOn_spec (sum : sumOn marked row = some s) :
    s.row = row ∧ IsLeast (endsOn (·.startCol) marked row) s.startCol ∧ IsGreatest (endsOn (·.endCol) marked row) s.endCol := by
  induction marked using List.reverseRecOn generalizing s with
  | nil => cases sum
  | append_singleton marked d ih =>
    rw [sumOn_append] at sum
    rw [endsOn_append,endsOn_append]
    split_ifs at sum ⊢ with same
    · cases old : sumOn marked row with
      | none =>
        rw [old] at sum
        cases sum
        rw [endsOn_empty old,endsOn_empty old]
        exact ⟨same.symm,by simp [joined],by simp [joined]⟩
      | some t =>
        obtain ⟨here,least,greatest⟩ := ih old
        rw [old] at sum
        cases sum
        refine ⟨here,?_,?_⟩
        · simpa [joined,DirtySpan.merge,min_comm] using least.insert d.startCol
        · simpa [joined,DirtySpan.merge,max_comm] using greatest.insert d.endCol
    · exact ih sum

end

theorem Overflows.append {marks : List Mark} (overflows : Overflows marks) (m : Mark) : Overflows (marks ++ [m]) := by
  rcases overflows with ⟨whole,inside,all⟩ | many
  · exact .inl ⟨whole,List.mem_append_left _ inside,all⟩
  · right
    refine many.trans_le (Finset.card_le_card ?_)
    intro row inside
    simp only [markedSpans,List.filterMap_append,List.map_append,List.toFinset_append,Finset.mem_union]
    exact .inl inside

/-! ## What the tracker has -/

namespace DirtyTracker

/-- A mark on the tracker of the grid. -/
def mark (t : DirtyTracker) : Mark → DirtyTracker
  | .row row => t.markRow row.toNat
  | .cell row col => t.markRange row.toNat col.toNat (satAdd16 col.toNat 1)
  | .range row startCol endCol => t.markRange row.toNat startCol.toNat endCol.toNat
  | .all => t.markAll
  | .resize _ => t.resize

/-- What the tracker has once some marks were made. -/
structure Records (marks : List Mark) (t : DirtyTracker) : Prop where
  all : t.allDirty = true ↔ Overflows marks
  empty : t.allDirty = true → t.rows = []
  room : t.rows.length ≤ maxTrackedDirtyRows
  ascending : Ascending t.rows
  spans : t.allDirty = false → ∀ row, spanOn t.rows row = sumOn (markedSpans marks) row

theorem mark_eq (t : DirtyTracker) (m : Mark) :
    t.mark m = m.columns.elim t.markAll fun d => t.markRange d.row d.startCol d.endCol := by cases m <;> rfl

theorem markRange_eq {t : DirtyTracker} (clean : t.allDirty = false) (ascending : Ascending t.rows) (d : DirtySpan) :
    t.markRange d.row d.startCol d.endCol =
      if d.startCol ≥ d.endCol then t
      else if d.row ∉ t.rows.map (·.row) ∧ t.rows.length = maxTrackedDirtyRows then t.markAll
      else { t with rows := enter d t.rows } := by
  unfold markRange
  rw [if_neg (by simp [clean]),pushOrMerge_eq ascending]
  by_cases empty : d.startCol ≥ d.endCol
  · rw [if_pos empty,if_pos empty]
  · rw [if_neg empty,if_neg empty]
    by_cases full : d.row ∉ t.rows.map (·.row) ∧ t.rows.length = maxTrackedDirtyRows
    · rw [if_pos full,if_pos full]
    · rw [if_neg full,if_neg full]

theorem records_new : Records [] {} where
  all := by simp [Overflows,markedSpans]
  empty _ := rfl
  room := Nat.zero_le _
  ascending := List.Pairwise.nil
  spans _ _ := rfl

theorem spanOn_isSome {spans : List DirtySpan} {row : Nat} : (spanOn spans row).isSome = true ↔ row ∈ spans.map (·.row) := by
  simp [spanOn]

section
variable {marks : List Mark} {t : DirtyTracker}

/-- The rows with a span are the rows that were marked. -/
theorem Records.rows (records : Records marks t) (clean : t.allDirty = false) (row : Nat) :
    row ∈ t.rows.map (·.row) ↔ row ∈ (markedSpans marks).map (·.row) := by
  rw [← spanOn_isSome,← sumOn_isSome,records.spans clean]

theorem Records.card (records : Records marks t) (clean : t.allDirty = false) :
    ((markedSpans marks).map (·.row)).toFinset = (t.rows.map (·.row)).toFinset := by
  ext row
  rw [List.mem_toFinset,List.mem_toFinset,records.rows clean]

theorem card_rows {spans : List DirtySpan} (ascending : Ascending spans) : (spans.map (·.row)).toFinset.card = spans.length := by
  rw [List.toFinset_card_of_nodup (ascending.imp Nat.ne_of_lt),List.length_map]

theorem length_enter {spans : List DirtySpan} (ascending : Ascending spans) (d : DirtySpan) :
    (enter d spans).length = if d.row ∈ spans.map (·.row) then spans.length else spans.length + 1 := by
  have rows : ((enter d spans).map (·.row)).toFinset = insert d.row (spans.map (·.row)).toFinset := by
    ext row
    rw [List.mem_toFinset,mem_map_enter,Finset.mem_insert,List.mem_toFinset]
  rw [← card_rows (ascending.enter d),rows,Finset.card_insert_eq_ite,card_rows ascending]
  simp only [List.mem_toFinset]

theorem records_markAll {marks : List Mark} (overflows : Overflows marks) (t : DirtyTracker) : Records marks t.markAll where
  all := iff_of_true rfl overflows
  empty _ := rfl
  room := Nat.zero_le _
  ascending := List.Pairwise.nil
  spans clean := nomatch clean

theorem markedSpans_append {m : Mark} {d : DirtySpan} (columns : m.columns = some d) (marks : List Mark) :
    markedSpans (marks ++ [m]) = if d.startCol < d.endCol then markedSpans marks ++ [d] else markedSpans marks := by
  have span : m.span = if d.startCol < d.endCol then some d else none := by
    unfold Mark.span
    rw [columns]
    by_cases some : d.startCol < d.endCol
    · simp [some]
    · simp [some,Nat.le_of_not_lt some]
  unfold markedSpans
  rw [List.filterMap_append]
  split_ifs at span ⊢ <;> simp [span]

/-- A mark of some columns makes too many of the rows, or it was too much before. -/
theorem overflows_append {m : Mark} {d : DirtySpan} (columns : m.columns = some d) (clean : ¬ Overflows marks) :
    Overflows (marks ++ [m]) ↔ maxTrackedDirtyRows < ((markedSpans (marks ++ [m])).map (·.row)).toFinset.card := by
  constructor
  · rintro (⟨whole,inside,all⟩ | many)
    · rcases List.mem_append.mp inside with old | new
      · exact absurd (.inl ⟨whole,old,all⟩) clean
      · rw [List.mem_singleton.mp new] at all
        rcases all with rfl | ⟨rowCount,rfl⟩ <;> cases columns
    · exact many
  · exact .inr

theorem Records.fits (records : Records marks t) (clean : t.allDirty = false) : ¬ Overflows marks := by
  rw [← records.all,clean]
  exact Bool.false_ne_true

/-- A mark of no columns is not one. -/
theorem Records.unmarked (records : Records marks t) (clean : t.allDirty = false) {m : Mark} {d : DirtySpan}
    (columns : m.columns = some d) (empty : d.endCol ≤ d.startCol) : Records (marks ++ [m]) t := by
  have marked := markedSpans_append columns marks
  rw [if_neg (Nat.not_lt_of_le empty)] at marked
  have none : ¬ Overflows (marks ++ [m]) := by
    rw [overflows_append columns (records.fits clean),marked,records.card clean,card_rows records.ascending]
    exact Nat.not_lt_of_le records.room
  exact { records with
    all := iff_of_false (by simp [clean]) none
    spans := fun clean row => by rw [marked,records.spans clean] }

/-- Whether a mark makes too many of the rows, by the rows there would be with it. -/
theorem Records.overflows_iff (records : Records marks t) (clean : t.allDirty = false) {m : Mark} {d : DirtySpan}
    (columns : m.columns = some d) (some : d.startCol < d.endCol) :
    Overflows (marks ++ [m]) ↔ maxTrackedDirtyRows < (enter d t.rows).length := by
  have marked := markedSpans_append columns marks
  rw [if_pos some] at marked
  have rows : ((markedSpans (marks ++ [m])).map (·.row)).toFinset = ((enter d t.rows).map (·.row)).toFinset := by
    ext row
    rw [List.mem_toFinset,List.mem_toFinset,mem_map_enter,marked,List.map_append,List.mem_append,records.rows clean]
    simp [or_comm]
  rw [overflows_append columns (records.fits clean),rows,card_rows (records.ascending.enter d)]

/-- A mark for which there is room is entered. -/
theorem Records.entered (records : Records marks t) (clean : t.allDirty = false) {m : Mark} {d : DirtySpan}
    (columns : m.columns = some d) (some : d.startCol < d.endCol) (room : (enter d t.rows).length ≤ maxTrackedDirtyRows) :
    Records (marks ++ [m]) { t with rows := enter d t.rows } where
  all := iff_of_false (by simp [clean]) (by rw [records.overflows_iff clean columns some]; exact Nat.not_lt_of_le room)
  empty := fun all => by simp [clean] at all
  room := room
  ascending := records.ascending.enter d
  spans := fun _ row => by
    rw [spanOn_enter records.ascending,markedSpans_append columns,if_pos some,sumOn_append,records.spans clean]

theorem Records.mark (records : Records marks t) (m : Mark) : Records (marks ++ [m]) (t.mark m) := by
  rw [mark_eq]
  cases columns : m.columns with
  | none =>
    refine records_markAll (.inl ⟨m,by simp,?_⟩) t
    cases m with
    | all => exact .inl rfl
    | resize rowCount => exact .inr ⟨rowCount,rfl⟩
    | _ => cases columns
  | some d =>
    change Records _ (t.markRange d.row d.startCol d.endCol)
    cases clean : t.allDirty with
    | true =>
      have overflows : Overflows (marks ++ [m]) := (records.all.mp clean).append m
      have still : t.markRange d.row d.startCol d.endCol = t := if_pos clean
      rw [still]
      exact { records with all := iff_of_true clean overflows, spans := fun no => by rw [clean] at no; cases no }
    | false =>
      rw [markRange_eq clean records.ascending]
      have length := length_enter records.ascending d
      have room := records.room
      split_ifs with empty full
      · exact records.unmarked clean columns empty
      · refine records_markAll ((records.overflows_iff clean columns (Nat.lt_of_not_le empty)).mpr ?_) t
        rw [length,if_neg full.1]
        omega
      · refine records.entered clean columns (Nat.lt_of_not_le empty) ?_
        rw [length]
        split_ifs with listed
        · exact room
        · have other : t.rows.length ≠ maxTrackedDirtyRows := fun all => full ⟨listed,all⟩
          omega

/-- After `take` the tracker is a new one. -/
theorem Records.take (records : Records marks t) : t.take.2 = {} := by
  unfold DirtyTracker.take
  cases clean : t.allDirty with
  | true =>
    have none := records.empty clean
    cases t
    cases none
    rfl
  | false =>
    cases t
    cases clean
    rfl

end

end DirtyTracker

/-! ## The array and the list -/

namespace Fixed.DirtyTracker

/-- The grid's tracker has the spans that the array has in use. -/
structure Shows (f : DirtyTracker) (t : Termpane.DirtyTracker) : Prop where
  allDirty : f.allDirty = t.allDirty
  rows : f.rows.asSlice = .ok t.rows

variable {f : DirtyTracker} {t : Termpane.DirtyTracker}

theorem shows_new (rowCount : UInt16) : (new rowCount).Shows {} := ⟨rfl,rfl⟩

theorem Shows.markAll (f : DirtyTracker) (t : Termpane.DirtyTracker) : f.markAll.Shows t.markAll := ⟨rfl,rfl⟩

theorem Shows.markRange (shows : f.Shows t) (ascending : Ascending t.rows) (d : DirtySpan) :
    ∃ f', f.markRange d.row d.startCol d.endCol = .ok f' ∧ f'.Shows (t.markRange d.row d.startCol d.endCol) := by
  cases clean : t.allDirty with
  | true => exact ⟨f,if_pos (shows.allDirty.trans clean),by rw [show t.markRange _ _ _ = t from if_pos clean]; exact shows⟩
  | false =>
    rw [Termpane.DirtyTracker.markRange_eq clean ascending]
    unfold DirtyTracker.markRange
    rw [if_neg (by simp [shows.allDirty,clean])]
    by_cases empty : d.startCol ≥ d.endCol
    · rw [if_pos empty,if_pos empty]
      exact ⟨f,rfl,shows⟩
    · rw [if_neg empty,if_neg empty]
      by_cases full : d.row ∉ t.rows.map (·.row) ∧ t.rows.length = maxTrackedDirtyRows
      · rw [if_pos full,DirtyRows.pushOrMerge_full shows.rows ascending full.1 full.2]
        exact ⟨f.markAll,rfl,.markAll f t⟩
      · rw [if_neg full]
        have fits : d.row ∈ t.rows.map (·.row) ∨ t.rows.length ≠ maxTrackedDirtyRows := by
          rw [not_and_or,not_not] at full
          exact full
        obtain ⟨rows,pushed,slice⟩ := DirtyRows.pushOrMerge_enter shows.rows ascending fits
        rw [pushed]
        exact ⟨_,rfl,shows.allDirty,slice⟩

theorem Shows.mark (shows : f.Shows t) (ascending : Ascending t.rows) (m : Mark) :
    ∃ f', f.mark m = .ok f' ∧ f'.Shows (t.mark m) := by
  cases m with
  | row row => exact shows.markRange ascending ⟨row.toNat,0,u16Max⟩
  | cell row col => exact shows.markRange ascending ⟨row.toNat,col.toNat,satAdd16 col.toNat 1⟩
  | range row startCol endCol => exact shows.markRange ascending ⟨row.toNat,startCol.toNat,endCol.toNat⟩
  | all => exact ⟨_,rfl,.markAll f t⟩
  | resize rowCount => exact ⟨_,rfl,.markAll f.clearRows { t with rows := [] }⟩

theorem Shows.take (shows : f.Shows t) : f.take.2.Shows t.take.2 := by
  unfold DirtyTracker.take Termpane.DirtyTracker.take
  rw [shows.allDirty]
  split_ifs
  · exact ⟨rfl,shows.rows⟩
  · exact ⟨rfl,rfl⟩

/-- Every call returns, and on the array as on the list the marks since the last `take` are
    recorded. -/
theorem run_records (rowCount : UInt16) (calls : List TrackerCall) :
    ∃ f t, calls.foldlM call (new rowCount) = .ok f ∧ f.Shows t ∧ t.Records (sinceTake calls) := by
  induction calls using List.reverseRecOn with
  | nil => exact ⟨_,_,rfl,shows_new rowCount,Termpane.DirtyTracker.records_new⟩
  | append_singleton calls c ih =>
    obtain ⟨f,t,ran,shows,records⟩ := ih
    rw [List.foldlM_append,ran,ok_bind]
    have since : sinceTake (calls ++ [c]) = match c with | .mark m => sinceTake calls ++ [m] | .take => [] := by
      unfold sinceTake
      rw [List.foldl_append]
      rfl
    rw [since]
    cases c with
    | mark m =>
      obtain ⟨f',marks,shows'⟩ := shows.mark records.ascending m
      refine ⟨f',t.mark m,?_,shows',records.mark m⟩
      rw [List.foldlM_cons,call,marks]
      rfl
    | take =>
      refine ⟨f.take.2,t.take.2,rfl,shows.take,?_⟩
      rw [records.take]
      exact Termpane.DirtyTracker.records_new

/-- `take` reports all of the screen if it was marked, or more rows than there is room for,
    and else the rows marked since the last `take`, each once, from the first column marked
    there to the last one. -/
theorem take_exact (rowCount : UInt16) (calls : List TrackerCall) :
    ∃ f, calls.foldlM call (new rowCount) = .ok f ∧ (f.take.1 = .all ↔ Overflows (sinceTake calls)) ∧
      (¬ Overflows (sinceTake calls) → ∃ rows spans, f.take.1 = .rows rows ∧ rows.asSlice = .ok spans ∧
        (spans.map (·.row)).Pairwise (· < ·) ∧
        (∀ row, row ∈ spans.map (·.row) ↔ row ∈ (markedSpans (sinceTake calls)).map (·.row)) ∧
        ∀ s ∈ spans, IsLeast (endsOn (·.startCol) (markedSpans (sinceTake calls)) s.row) s.startCol ∧
          IsGreatest (endsOn (·.endCol) (markedSpans (sinceTake calls)) s.row) s.endCol) ∧
      f.take.2.isDirty = false := by
  obtain ⟨f,t,ran,shows,records⟩ := run_records rowCount calls
  refine ⟨f,ran,?_,?_,?_⟩
  · rw [← records.all,← shows.allDirty]
    unfold take
    split_ifs with all
    · exact iff_of_true rfl all
    · exact iff_of_false nofun all
  · intro fits
    have clean : t.allDirty = false := by
      rw [← records.all] at fits
      simpa using fits
    refine ⟨f.rows,t.rows,?_,shows.rows,records.ascending,records.rows clean,?_⟩
    · unfold take
      rw [if_neg (by simp [shows.allDirty,clean])]
    · intro s inside
      have sum : sumOn (markedSpans (sinceTake calls)) s.row = some s := by
        rw [← records.spans clean,records.ascending.spanOn_eq inside]
      exact (sumOn_spec sum).2
  · have emptied := shows.take
    rw [records.take] at emptied
    obtain ⟨len,_,_⟩ := DirtyRows.asSlice_iff.mp emptied.rows
    unfold isDirty DirtyRows.isEmpty
    rw [emptied.allDirty,len]
    rfl

end Fixed.DirtyTracker

end Termpane
