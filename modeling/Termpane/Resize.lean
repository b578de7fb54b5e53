import Termpane.Sharing

/-!
# What a resize keeps

`RowStore::resize` changes rows in place, judges a change of width by the front row and
takes new rows from the arena. What it is to leave is said here cell by cell, as a store
rebuilt from nothing.
-/
namespace Termpane

open Lib

/-! ## The rebuilt store -/

/-- The cell at a column of a row that had `oldCols` columns and is to have `cols`. -/
def rebuiltCell (oldCols cols : Nat) (row : Row) (j : Nat) : Cell :=
  if j < min oldCols cols then
    -- a lead that lost its continuation
    if cols < oldCols ∧ j + 1 = cols ∧ (cellAt row j).isWide = true then default else cellAt row j
  else if j = oldCols ∧ 0 < oldCols ∧ (cellAt row (oldCols - 1)).isWide = true then
    -- a lead that had no room for one
    .continuationOf (cellAt row (oldCols - 1)).attrs (cellAt row (oldCols - 1)).hyperlink
  else default

/-- A store of `rows` rows of `cols` cells with what it takes over from `s`, whose rows
    have `oldCols` cells. -/
def RowStore.rebuilt (s : RowStore) (oldCols rows cols : Nat) : RowStore where
  rows := (List.range rows).map fun i =>
    match s.rows[i]? with
    | some row => (List.range cols).map (rebuiltCell oldCols cols row)
    | none => List.replicate cols default
  wraps := (List.range rows).map fun i => s.wraps[i]?.getD .hard

theorem cellAt_map_range (f : Nat → Cell) {n j : Nat} (inside : j < n) : cellAt ((List.range n).map f) j = f j := by
  simp [cellAt,inside]

theorem refitted_eq {row : Row} {oldCols : Nat} (width : row.length = oldCols) (cols : Nat) :
    refitted oldCols cols row = (List.range cols).map (rebuiltCell oldCols cols row) := by
  obtain ⟨length,cells⟩ := resizeRow_cellAt row cols
  unfold refitted
  by_cases same : oldCols = cols
  · rw [if_pos same]
    apply row_ext
    · simp [width,same]
    · intro j inside
      rw [cellAt_map_range _ (by omega)]
      simp [rebuiltCell,same,show j < cols by omega]
  · rw [if_neg same]
    apply row_ext
    · simp [length]
    · intro j inside
      have bound : j < cols := by omega
      have outside : oldCols ≤ j → cellAt row j = default := fun out => cellAt_outside (by omega)
      rw [cellAt_map_range _ bound,cells j bound,width]
      unfold rebuiltCell
      by_cases wider : oldCols < cols
      · grind
      · grind

/-- Rows cut or padded to a count, read at an index. -/
private theorem getElem?_padded {α : Type} (l : List α) (rows : Nat) (a : α) {i : Nat} (inside : i < rows) :
    (l.take rows ++ List.replicate (rows - l.length) a)[i]? = some (l[i]?.getD a) := by
  by_cases kept : i < l.length
  · rw [List.getElem?_append_left (by rw [List.length_take]; omega),List.getElem?_take_of_lt inside]
    simp [kept]
  · have missing : l[i]? = none := List.getElem?_eq_none (by omega)
    rw [List.getElem?_append_right (by rw [List.length_take]; omega),List.getElem?_replicate,List.length_take,missing]
    rw [if_pos (by omega)]
    rfl

/-- A list given by its length and its elements. -/
private theorem eq_map_range {α : Type} {l : List α} {n : Nat} {f : Nat → α} (length : l.length = n)
    (elements : ∀ i, i < n → l[i]? = some (f i)) : l = (List.range n).map f := by
  apply List.ext_getElem?
  intro i
  by_cases inside : i < n
  · simp [elements i inside,inside]
  · simp [List.getElem?_eq_none (show l.length ≤ i by omega),inside]

/-! ## Rows in pairs -/

instance : DecidablePred Paired := fun row =>
  decidable_of_iff ((∀ j, j < row.length → ¬ ((cellAt row j).isWide = true ∧ (cellAt row j).isWideContinuation = true)) ∧
      (cellAt row 0).isWideContinuation = false ∧
      ∀ j, j < row.length → j + 1 < row.length → (cellAt row (j + 1)).isWideContinuation = (cellAt row j).isWide) <| by
    constructor
    · rintro ⟨exclusive,first,pairs⟩
      refine ⟨?_,first,fun j bound => pairs j (by omega) bound⟩
      intro j both
      by_cases inside : j < row.length
      · exact exclusive j inside both
      · rw [cellAt_outside (by omega)] at both
        cases both.1
    · rintro ⟨exclusive,first,pairs⟩
      exact ⟨fun j _ => exclusive j,first,fun j _ => pairs j⟩

theorem Paired.resize {row : Row} (paired : Paired row) (cols : Nat) : Paired (resizeRow cols row) := by
  obtain ⟨length,cells⟩ := resizeRow_cellAt row cols
  have outside : ∀ j, row.length ≤ j → cellAt row j = default := fun j out => cellAt_outside out
  constructor
  · intro j both
    by_cases inside : j < cols
    · have apart := paired.exclusive j
      rw [cells j inside] at both
      grind [continuationOf_isWide,continuationOf_isWideContinuation,default_isWide,default_isWideContinuation]
    · rw [cellAt_outside (by omega)] at both
      cases both.1
  · by_cases some : 0 < cols
    · have first := paired.first
      rw [cells 0 some]
      grind [default_isWideContinuation]
    · rw [cellAt_outside (by omega)]
      rfl
  · intro j bound
    have here := paired.pairs j
    have left := paired.exclusive j
    have right := paired.exclusive (j + 1)
    rw [cells j (by omega),cells (j + 1) (by omega)]
    grind [continuationOf_isWide,continuationOf_isWideContinuation,default_isWide,default_isWideContinuation]

namespace RowStore
variable {s : RowStore} {oldRows oldCols : Nat}

theorem resize_rebuilt (width : ∀ row ∈ s.rows, row.length = oldCols) (wraps : s.wraps.length = s.rows.length)
    (rows cols : Nat) : s.resize rows cols = s.rebuilt oldCols rows cols := by
  rw [resize_eq width wraps,rebuilt,RowStore.mk.injEq]
  constructor
  · apply eq_map_range
    · simp; omega
    · intro i inside
      have padded := getElem?_padded (s.rows.map (refitted oldCols cols)) rows (blankRow cols) inside
      rw [List.length_map] at padded
      rw [padded,List.getElem?_map]
      cases found : s.rows[i]? with
      | none => rfl
      | some row =>
        have listed : row ∈ s.rows := List.mem_of_getElem? found
        simp [refitted_eq (width row listed)]
  · rw [← wraps]
    apply eq_map_range
    · simp; omega
    · intro i inside
      exact getElem?_padded s.wraps rows .hard inside

/-- A computation on the rows of any arena ends as on rows of its own. -/
theorem served_fst {α : Type} (p : Pooled α) (arena : RowArena) : (p.served RowArena.serve arena).1 = p.answered RowRequest.reply := by
  have answers : Serves RowArena.serve RowRequest.reply fun _ => True := by
    constructor
    · intro arena q _
      cases q with
      | blankRow cols => exact arena.blankRow_fst cols
      | recycle row => rfl
    · intros
      trivial
  exact (answers.served p trivial).1

/-- On well-formed rows of one width, whatever the arena holds: the store is the rebuilt
    one, its rows are well formed again, and equal dimensions change nothing. -/
theorem Shaped.resize_exact (shaped : s.Shaped Paired oldRows oldCols) (arena : RowArena) (rows cols : Nat) :
    ((Pooled.resize s rows cols).served RowArena.serve arena).1 = .ok (s.rebuilt oldCols rows cols) ∧
      (s.rebuilt oldCols rows cols).Shaped Paired rows cols ∧
      (s.Shaped RowOk oldRows oldCols → (s.rebuilt oldCols rows cols).Shaped RowOk rows cols) ∧
      (oldRows = rows → oldCols = cols → (Pooled.resize s rows cols).served RowArena.serve arena = (.ok s,arena)) := by
  have wraps : s.wraps.length = s.rows.length := by rw [shaped.wrapCount,shaped.rowCount]
  have rebuilds := resize_rebuilt shaped.width wraps rows cols
  have blank : RowOk (blankRow cols) := RowOk.replicate CellOk.default rfl rfl cols
  refine ⟨?_,?_,?_,?_⟩
  · rw [served_fst,Pooled.answered_resize,rebuilds]
  · rw [← rebuilds]
    exact shaped.resize blank.paired fun row paired => paired.resize cols
  · intro ok
    rw [← rebuilds]
    exact ok.resize blank fun row ok => ok.resize cols
  · intro sameRows sameCols
    have count : s.rows.length = rows := shaped.rowCount.trans sameRows
    have unchanged : s.rows.head?.any (fun row => decide (row.length ≠ cols)) = false := by
      cases stored : s.rows with
      | nil => rfl
      | cons row tail => simp [shaped.width row (by simp [stored]),sameCols]
    have still : Pooled.resize s rows cols = pure s := by
      unfold Pooled.resize
      simp only [unchanged]
      exact if_pos (by simp [count])
    rw [still]
    rfl

/-- Two rows of three columns, each with a lead in the last of them. -/
private def crowded : RowStore :=
  let lead : Cell := { contents := ['x'], isWide := true, attrs := { italic := true } }
  { rows := [[lead,.continuationOf lead.attrs none,lead],[default,default,lead]], wraps := [.soft,.hard] }

theorem resize_exact_widened : ((Pooled.resize crowded 1 5).served RowArena.serve {}).1 =
    .ok { rows := [(crowded.rows.headI) ++ [.continuationOf { italic := true } none,default]], wraps := [.soft] } := by
  have shaped : crowded.Shaped Paired 2 3 := ⟨rfl,rfl,by decide,by decide⟩
  exact (Shaped.resize_exact shaped {} 1 5).1

end RowStore

end Termpane
