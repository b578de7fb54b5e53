import Termpane.RowStore
import Termpane.Write

/-!
# Row edits, cell by cell

Each row helper says what it puts in every column: where it succeeds, what the
length of the row is then, and which cell stands where.
-/
namespace Termpane

open Lib

/-! ## Erasing -/

/-- The columns an erase of `start..stop` blanks: the range, and the half of a
    wide pair either end cuts off. -/
def Erases (row : Row) (start stop j : Nat) : Prop :=
  (start ≤ j ∧ j < stop) ∨ (j + 1 = start ∧ (cellAt row start).isWideContinuation = true) ∨
    (j = stop ∧ start < stop ∧ (cellAt row (stop - 1)).isWide = true)

instance (row : Row) (start stop j : Nat) : Decidable (Erases row start stop j) := by unfold Erases; infer_instance

theorem eraseCellsBce_cellAt {row : Row} {start stop : Nat} (order : start ≤ stop) (inside : stop ≤ row.length)
    (blank : Cell) : ∃ erased, eraseCellsBce row start stop blank = .ok erased ∧ erased.length = row.length ∧
      ∀ j, j < row.length → cellAt erased j = if Erases row start stop j then blank else cellAt row j := by
  obtain ⟨filled,filledEq,filledLength,filledCells⟩ := fill_cellAt order inside blank
  obtain ⟨left,leftEq,leftLength,leftCells⟩ :=
    assignIf_cellAt (decide (start > 0) && (cellAt row start).isWideContinuation) filled
      (i := start - 1) (by simp only [Bool.and_eq_true,decide_eq_true_eq]; omega) blank
  obtain ⟨erased,erasedEq,erasedLength,erasedCells⟩ :=
    assignIf_cellAt (decide (stop > start ∧ stop < row.length) && (cellAt row (stop - 1)).isWide)
      left (i := stop) (by simp only [Bool.and_eq_true,decide_eq_true_eq]; omega) blank
  refine ⟨erased,?_,by omega,fun j bound => ?_⟩
  · simp only [eraseCellsBce,any_isWide,any_isWideContinuation,filledEq,leftEq,erasedEq,ok_bind]
  · rw [erasedCells,leftCells,filledCells]
    simp only [Bool.and_eq_true,decide_eq_true_eq,Erases]
    grind

/-! ## Repairing pairs -/

/-- No cell is both halves of a wide pair. -/
def Exclusive (row : Row) : Prop := ∀ j, ¬ ((cellAt row j).isWide = true ∧ (cellAt row j).isWideContinuation = true)

/-- Half of a wide pair without the other. -/
def Orphan (row : Row) (j : Nat) : Prop :=
  ((cellAt row j).isWideContinuation = true ∧ (j = 0 ∨ (cellAt row (j - 1)).isWide = false)) ∨
    ((cellAt row j).isWide = true ∧ (cellAt row (j + 1)).isWideContinuation = false)

instance (row : Row) (j : Nat) : Decidable (Orphan row j) := by unfold Orphan; infer_instance

theorem repairAt_cellAt {row : Row} {i : Nat} (inside : i < row.length) :
    ∃ repaired, repairAt row i = .ok repaired ∧ repaired.length = row.length ∧
      ∀ j, cellAt repaired j = if Orphan row i ∧ i = j then default else cellAt row j := by
  have edge (last : i + 1 ≥ row.length) : (cellAt row (i + 1)).isWideContinuation = false := by
    rw [cellAt_outside last]; rfl
  obtain ⟨repaired,repairedEq,length,cells⟩ := assignIf_cellAt
    (((cellAt row i).isWideContinuation && (i == 0 || !(cellAt row (i - 1)).isWide)) ||
      ((cellAt row i).isWide && (decide (i + 1 ≥ row.length) || !(cellAt row (i + 1)).isWideContinuation)))
    row (fun _ => inside) default
  refine ⟨repaired,?_,length,fun j => ?_⟩
  · simp only [repairAt,at?_cellAt inside,ok_bind,any_isWide,any_isWideContinuation,repairedEq]
  · rw [cells]
    simp only [Bool.or_eq_true,Bool.and_eq_true,beq_iff_eq,Bool.not_eq_true',decide_eq_true_eq,Orphan]
    grind

private theorem repair_upTo {row : Row} (exclusive : Exclusive row) : ∀ k, k ≤ row.length →
    ∃ repaired, (List.range k).foldlM repairAt row = .ok repaired ∧ repaired.length = row.length ∧
      ∀ j, cellAt repaired j = if j < k ∧ Orphan row j then default else cellAt row j := by
  intro k
  induction k with
  | zero => intro _; exact ⟨row,rfl,rfl,fun j => by simp⟩
  | succ k ih =>
    intro inside
    obtain ⟨before,beforeEq,beforeLength,beforeCells⟩ := ih (by omega)
    obtain ⟨after,afterEq,afterLength,afterCells⟩ := repairAt_cellAt (show k < before.length by omega)
    refine ⟨after,?_,by omega,fun j => ?_⟩
    · rw [List.range_succ,List.foldlM_append,beforeEq]
      simp only [ok_bind,List.foldlM_cons,List.foldlM_nil,afterEq,bind_pure]
    -- the cell on the left is already repaired, but it is only blanked when this one is no continuation
    · have same : Orphan before k ↔ Orphan row k := by
        have here := exclusive (k - 1)
        simp only [Orphan,beforeCells]
        grind [default_isWide,default_isWideContinuation]
      rw [afterCells,beforeCells]
      simp only [same]
      grind

/-- The repair blanks exactly the orphans of the row it is given. -/
theorem repairWidePairs_cellAt {row : Row} (exclusive : Exclusive row) :
    ∃ repaired, repairWidePairs row = .ok repaired ∧ repaired.length = row.length ∧
      ∀ j, cellAt repaired j = if Orphan row j then default else cellAt row j := by
  obtain ⟨repaired,repairedEq,length,cells⟩ := repair_upTo exclusive row.length (Nat.le_refl _)
  refine ⟨repaired,repairedEq,length,fun j => ?_⟩
  rw [cells]
  by_cases inside : j < row.length
  · simp [inside]
  · rw [cellAt_outside (by omega)]
    simp [inside]

/-- Every continuation directly follows a lead, and every lead is followed by a
    continuation. -/
def Mated (row : Row) : Prop :=
  ∀ j, ((cellAt row j).isWideContinuation = true → 0 < j ∧ (cellAt row (j - 1)).isWide = true) ∧
    ((cellAt row j).isWide = true → (cellAt row (j + 1)).isWideContinuation = true)

theorem mated_iff (row : Row) : Mated row ↔ ∀ j, ¬ Orphan row j := by
  unfold Mated Orphan
  constructor
  · rintro mated j (⟨second,alone⟩ | ⟨lead,alone⟩)
    · obtain ⟨after,left⟩ := (mated j).1 second
      rcases alone with first | none
      · omega
      · simp [left] at none
    · have right := (mated j).2 lead
      simp [right] at alone
  · intro none j
    have whole := none j
    push Not at whole
    constructor
    · intro second
      obtain ⟨after,left⟩ := whole.1 second
      exact ⟨Nat.pos_of_ne_zero after,by simpa using left⟩
    · intro lead
      simpa using whole.2 lead

/-- The flags that make a half of a pair are not those of a default cell. -/
theorem Orphan.ne_default {row : Row} {j : Nat} (orphan : Orphan row j) : cellAt row j ≠ default := by
  intro blank
  unfold Orphan at orphan
  simp [blank] at orphan

/-- The repair leaves whole pairs only, changes exactly the halves that had no
    partner, which it blanks, and finds nothing to do a second time. -/
theorem repair_exact {row : Row} (exclusive : Exclusive row) :
    ∃ repaired, repairWidePairs row = .ok repaired ∧ repaired.length = row.length ∧ Mated repaired ∧
      (∀ j, cellAt repaired j ≠ cellAt row j ↔ Orphan row j) ∧ (∀ j, Orphan row j → cellAt repaired j = default) ∧
      repairWidePairs repaired = .ok repaired := by
  obtain ⟨repaired,repairedEq,length,cells⟩ := repairWidePairs_cellAt exclusive
  -- a blanked cell is the partner of no cell that is left
  have mated : Mated repaired := by
    rw [mated_iff]
    intro j
    have here := exclusive j
    have left := exclusive (j - 1)
    have right := exclusive (j + 1)
    simp only [Orphan,cells]
    grind [default_isWide,default_isWideContinuation]
  have exclusive' : Exclusive repaired := by
    intro j both
    rw [cells] at both
    split_ifs at both
    · simp at both
    · exact exclusive j both
  obtain ⟨again,againEq,againLength,againCells⟩ := repairWidePairs_cellAt exclusive'
  have same : again = repaired := by
    apply row_ext againLength
    intro j _
    rw [againCells,if_neg ((mated_iff repaired).mp mated j)]
  refine ⟨repaired,repairedEq,length,mated,fun j => ?_,fun j orphan => ?_,by rw [againEq,same]⟩
  · rw [cells]
    by_cases orphan : Orphan row j
    · simp [orphan,orphan.ne_default.symm]
    · simp [orphan]
  · rw [cells,if_pos orphan]

/-- Two leads before two continuations: the pair in the middle stays. -/
theorem repair_exact_runs :
    Mated [default,⟨['中'],true,false,{},none⟩,.continuationOf {} none,default] ∧
      repairWidePairs [⟨['中'],true,false,{},none⟩,⟨['中'],true,false,{},none⟩,.continuationOf {} none,.continuationOf {} none] =
        .ok [default,⟨['中'],true,false,{},none⟩,.continuationOf {} none,default] := by
  have exclusive : Exclusive
      [⟨['中'],true,false,{},none⟩,⟨['中'],true,false,{},none⟩,.continuationOf {} none,.continuationOf {} none] := by
    intro j
    match j with
    | 0 | 1 | 2 | 3 => decide
    | j+4 => rw [cellAt_outside (by simp)]; decide
  have ran : repairWidePairs
      [⟨['中'],true,false,{},none⟩,⟨['中'],true,false,{},none⟩,.continuationOf {} none,.continuationOf {} none] =
        .ok [default,⟨['中'],true,false,{},none⟩,.continuationOf {} none,default] := by decide
  obtain ⟨repaired,repairedEq,_,mated,_⟩ := repair_exact exclusive
  cases repairedEq.symm.trans ran
  exact ⟨mated,ran⟩

/-! ## Glyphs -/

/-- The columns a glyph of `width` at `col` blanks: halves of the pairs it splits. -/
def Splits (row : Row) (col width j : Nat) : Prop :=
  (j + 1 = col ∧ (cellAt row col).isWideContinuation = true) ∨
    (j = col + 1 ∧ width < 2 ∧ (cellAt row col).isWide = true) ∨
    (j = col + 2 ∧ width > 1 ∧ (cellAt row (col + 1)).isWide = true)

instance (row : Row) (col width j : Nat) : Decidable (Splits row col width j) := by unfold Splits; infer_instance

theorem clearPartners_cellAt (row : Row) (col width : Nat) :
    (clearPartners row col width).1.length = row.length ∧
      ∀ j, j < row.length → cellAt (clearPartners row col width).1 j =
        if Splits row col width j then default else cellAt row j := by
  simp only [clearPartners,any_isWide,any_isWideContinuation]
  -- the lead left of the glyph
  have first (j : Nat) : cellAt (if (cellAt row col).isWideContinuation && decide (col > 0) then row.set (col - 1) default
      else row) j = if j + 1 = col ∧ (cellAt row col).isWideContinuation = true ∧ j < row.length then default
      else cellAt row j := by
    rw [cellAt_setIf]
    simp only [Bool.and_eq_true,decide_eq_true_eq]
    grind
  have firstLength := length_setIf ((cellAt row col).isWideContinuation && decide (col > 0)) row (col - 1) default
  generalize (if (cellAt row col).isWideContinuation && decide (col > 0) then row.set (col - 1) default else row) = row1
    at first firstLength
  -- the continuation of a wide glyph it replaces
  have here : cellAt row1 col = cellAt row col := by rw [first,if_neg (by omega)]
  have second (j : Nat) : cellAt (if (cellAt row1 col).isWide && decide (width < 2 ∧ col + 1 < row1.length) then
      row1.set (col + 1) default else row1) j =
      if j = col + 1 ∧ width < 2 ∧ (cellAt row col).isWide = true ∧ j < row.length then default else cellAt row1 j := by
    rw [cellAt_setIf,here]
    simp only [Bool.and_eq_true,decide_eq_true_eq]
    grind
  have secondLength := length_setIf ((cellAt row1 col).isWide && decide (width < 2 ∧ col + 1 < row1.length)) row1
    (col + 1) default
  generalize (if (cellAt row1 col).isWide && decide (width < 2 ∧ col + 1 < row1.length) then row1.set (col + 1) default
    else row1) = row2 at second secondLength
  -- the continuation of a wide glyph its own continuation replaces
  refine ⟨by rw [length_setIf]; omega,fun j inside => ?_⟩
  rw [cellAt_setIf,second,first]
  simp only [Bool.and_eq_true,decide_eq_true_eq,Splits]
  have next : width > 1 → cellAt row2 (col + 1) = cellAt row (col + 1) := by
    intro wide
    rw [second,if_neg (by omega),first,if_neg (by omega)]
  grind

/-- What a glyph leaves in a row. -/
theorem writeGlyph_cellAt {row : Row} {col : Nat} (inside : col < row.length) (width : Nat) (cell : Cell) :
    ∃ written, writeGlyph row col row.length width cell = .ok written ∧ written.length = row.length ∧
      ∀ j, j < row.length → cellAt written j =
        if j = col then cell
        else if j = col + 1 ∧ width > 1 then .continuationOf cell.attrs cell.hyperlink
        else if Splits row col width j then default
        else cellAt row j := by
  obtain ⟨clearedLength,clearedCells⟩ := clearPartners_cellAt row col width
  have fits : col < (clearPartners row col width).1.length := by omega
  obtain ⟨written,writtenEq,length,cells⟩ :=
    assignIf_cellAt (decide (width > 1 ∧ col + 1 < row.length ∧ col + 1 < ((clearPartners row col width).1.set col cell).length))
      ((clearPartners row col width).1.set col cell) (i := col + 1)
      (by simp only [decide_eq_true_eq]; omega) (.continuationOf cell.attrs cell.hyperlink)
  refine ⟨written,?_,by simp [length,clearedLength],fun j bound => ?_⟩
  · simp only [writeGlyph,putGlyph,assign_ok fits,ok_bind,writtenEq]
  · rw [cells,cellAt_set]
    simp only [decide_eq_true_eq,List.length_set,clearedLength]
    rw [clearedCells j bound]
    grind

/-! ## Joining -/

/-- What the flags of the cell at `col` do to the row when its width is set. -/
theorem setCellWidth_cellAt {row : Row} {col : Nat} (inside : col < row.length) (width : Nat) (attrs : Attrs) :
    ∃ written, setCellWidth row col width attrs row.length = .ok written ∧ written.length = row.length ∧
      ∀ j, j < row.length → cellAt written j =
        if j = col then { cellAt row col with isWide := decide (width > 1), isWideContinuation := false }
        else if j = col + 1 ∧ width > 1 then .continuationOf attrs (cellAt row col).hyperlink
        else if j = col + 1 ∧ width ≤ 1 ∧ (cellAt row (col + 1)).isWideContinuation = true then default
        else if j = col + 2 ∧ width > 1 ∧ (cellAt row (col + 1)).isWide = true then default
        else cellAt row j := by
  let lead : Cell := { cellAt row col with isWide := decide (width > 1), isWideContinuation := false }
  have leadEq : assign row col lead = .ok (row.set col lead) := assign_ok inside lead
  have baseLength : (row.set col lead).length = row.length := List.length_set
  have baseCells (j : Nat) (bound : j < row.length) : cellAt (row.set col lead) j = if j = col then lead else cellAt row j := by
    rw [cellAt_set]; grind
  unfold setCellWidth
  simp only [at?_cellAt inside,ok_bind]
  rw [leadEq,ok_bind]
  generalize row.set col lead = base at baseLength baseCells
  simp only [any_isWide,any_isWideContinuation]
  by_cases next : col + 1 < row.length
  · rw [if_pos ⟨next,by omega⟩]
    have right := baseCells (col + 1) next
    rw [if_neg (by omega)] at right
    by_cases wide : width > 1
    · rw [if_pos wide,assign_ok (by omega),ok_bind,right]
      obtain ⟨written,writtenEq,length,cells⟩ := assignIf_cellAt
        ((cellAt row (col + 1)).isWide && decide (col + 2 < row.length ∧ col + 2 < base.length))
        (base.set (col + 1) (.continuationOf attrs (cellAt row col).hyperlink)) (i := col + 2)
        (by simp only [Bool.and_eq_true,decide_eq_true_eq,List.length_set]; omega) default
      refine ⟨written,writtenEq,by simp [length,baseLength],fun j bound => ?_⟩
      rw [cells,cellAt_set]
      simp only [Bool.and_eq_true,decide_eq_true_eq,baseLength]
      rw [baseCells j bound]
      grind
    · rw [if_neg wide,right]
      obtain ⟨written,writtenEq,length,cells⟩ := assignIf_cellAt
        (cellAt row (col + 1)).isWideContinuation base (i := col + 1) (fun _ => by omega) default
      refine ⟨written,writtenEq,by omega,fun j bound => ?_⟩
      rw [cells,baseCells j bound]
      grind
  · rw [if_neg (by omega)]
    refine ⟨base,rfl,baseLength,fun j bound => ?_⟩
    rw [baseCells j bound]
    grind

/-- What a character that joins the cluster at `col` leaves in a row. -/
theorem joinGlyph_cellAt {row : Row} {col : Nat} (inside : col < row.length) (cell : Cell) (joined : List Char)
    (hyperlink : Option Hyperlink) (width : Nat) :
    ∃ written, joinGlyph row col cell joined hyperlink width row.length = .ok written ∧ written.length = row.length ∧
      ∀ j, j < row.length → cellAt written j =
        if j = col then
          { cell with contents := joined, hyperlink := hyperlink, isWide := decide (width > 1), isWideContinuation := false }
        else if j = col + 1 ∧ width > 1 then .continuationOf cell.attrs hyperlink
        else if j = col + 1 ∧ width ≤ 1 ∧ (cellAt row (col + 1)).isWideContinuation = true then default
        else if j = col + 2 ∧ width > 1 ∧ (cellAt row (col + 1)).isWide = true then default
        else cellAt row j := by
  let grown : Cell := { cell with contents := joined, hyperlink := hyperlink }
  have length : (row.set col grown).length = row.length := List.length_set
  have cells (j : Nat) (bound : j < row.length) : cellAt (row.set col grown) j = if j = col then grown else cellAt row j := by
    rw [cellAt_set]; grind
  obtain ⟨written,writtenEq,writtenLength,writtenCells⟩ :=
    setCellWidth_cellAt (show col < (row.set col grown).length by omega) width cell.attrs
  refine ⟨written,?_,by omega,fun j bound => ?_⟩
  · unfold joinGlyph
    rw [assign_ok inside,ok_bind,← writtenEq,length]
  · have here := cells col inside
    have right (next : col + 1 < row.length) := cells (col + 1) next
    rw [writtenCells j (by omega),cells j bound]
    grind

/-! ## Shifts -/

/-- Cells moved to the right, the rightmost first. -/
private theorem shiftRight_cellAt {row : Row} {col n : Nat} : ∀ count, col + count + n ≤ row.length →
    ∀ moved : Row, moved.length = row.length → (∀ j, j < col + count + n → cellAt moved j = cellAt row j) →
      ∃ shifted, (List.range' col count).reverse.foldlM (fun row c => do
          let cell ← at? row c
          assign row (c + n) cell) moved = (.ok shifted : Checked Row) ∧ shifted.length = row.length ∧
        ∀ j, j < row.length → cellAt shifted j =
          if col + n ≤ j ∧ j < col + count + n then cellAt row (j - n) else cellAt moved j := by
  intro count
  induction count with
  | zero =>
    intro inside moved length cells
    refine ⟨moved,rfl,length,fun j bound => ?_⟩
    rw [if_neg (by omega)]
  | succ count ih =>
    intro inside moved length cells
    have read := cells (col + count) (by omega)
    have moveEq : assign moved (col + count + n) (cellAt row (col + count)) =
        .ok (moved.set (col + count + n) (cellAt row (col + count))) := assign_ok (by omega) _
    obtain ⟨shifted,shiftedEq,shiftedLength,shiftedCells⟩ := ih (by omega)
      (moved.set (col + count + n) (cellAt row (col + count))) (by simpa using length) (fun j below => by
        rw [cellAt_set,if_neg (by omega)]; exact cells j (by omega))
    refine ⟨shifted,?_,shiftedLength,fun j bound => ?_⟩
    · have last : at? moved (col + count) = .ok (cellAt row (col + count)) := by rw [at?_cellAt (by omega),read]
      have order : (List.range' col (count + 1)).reverse = (col + count) :: (List.range' col count).reverse := by
        rw [List.range'_1_concat,List.reverse_append]; rfl
      simp only [order,List.foldlM_cons,last,ok_bind,moveEq,shiftedEq]
    · have here := cellAt_set moved (col + count + n) (cellAt row (col + count)) j
      rw [shiftedCells j bound,here]
      split_ifs with inner outer put outer'
      · rfl
      · omega
      · obtain rfl : col + count + n = j := put.1
        congr 1
        omega
      · omega
      · omega
      · rfl

/-- Cells moved to the left, the leftmost first. -/
private theorem shiftLeft_cellAt {row : Row} {n : Nat} (some : 0 < n) : ∀ count col, col + count ≤ row.length →
    ∀ moved : Row, moved.length = row.length → (∀ j, col ≤ j → cellAt moved j = cellAt row j) →
      ∃ shifted, (List.range' col count).foldlM (fun row c => assign row c (row[c + n]?.getD default)) moved =
          (.ok shifted : Checked Row) ∧ shifted.length = row.length ∧
        ∀ j, j < row.length → cellAt shifted j =
          if col ≤ j ∧ j < col + count then cellAt row (j + n) else cellAt moved j := by
  intro count
  induction count with
  | zero =>
    intro col inside moved length cells
    refine ⟨moved,rfl,length,fun j bound => ?_⟩
    rw [if_neg (by omega)]
  | succ count ih =>
    intro col inside moved length cells
    have moveEq : assign moved col (moved[col + n]?.getD default) = .ok (moved.set col (cellAt row (col + n))) := by
      rw [assign_ok (by omega)]
      have read := cells (col + n) (by omega)
      unfold cellAt at read ⊢
      rw [read]
    obtain ⟨shifted,shiftedEq,shiftedLength,shiftedCells⟩ := ih (col + 1) (by omega)
      (moved.set col (cellAt row (col + n))) (by simpa using length) (fun j above => by
        rw [cellAt_set,if_neg (by omega)]; exact cells j (by omega))
    refine ⟨shifted,?_,shiftedLength,fun j bound => ?_⟩
    · rw [List.range'_succ,List.foldlM_cons,moveEq,ok_bind]
      exact shiftedEq
    · have here := cellAt_set moved col (cellAt row (col + n)) j
      rw [shiftedCells j bound,here]
      split_ifs with inner outer put outer' outer''
      · rfl
      · omega
      · obtain rfl : col = j := put.1
        rfl
      · omega
      · omega
      · rfl

/-- The cells of a row `n` columns further right from `col` on, blanks before them. -/
def Inserted (row : Row) (col n : Nat) (shifted : Row) : Prop :=
  shifted.length = row.length ∧ ∀ j, j < row.length →
    cellAt shifted j = if j < col then cellAt row j else if j < col + n then default else cellAt row (j - n)

/-- The cells of a row `n` columns further left from `col` on, blanks after them.
    The blanks start `n` columns before the margin, even where that is left of `col`. -/
def Deleted (row : Row) (col n : Nat) (shifted : Row) : Prop :=
  shifted.length = row.length ∧ ∀ j, j < row.length →
    cellAt shifted j = if row.length ≤ j + n then default else if col ≤ j then cellAt row (j + n) else cellAt row j

/-- Blanks and cells of a row without a cell that is both halves of a pair. -/
private theorem exclusive_of_cells {row shifted : Row} (exclusive : Exclusive row) (length : shifted.length = row.length)
    (cells : ∀ j, j < row.length → cellAt shifted j = default ∨ ∃ i, cellAt shifted j = cellAt row i) :
    Exclusive shifted := by
  intro j both
  by_cases inside : j < row.length
  · rcases cells j inside with blank | ⟨i,same⟩
    · rw [blank] at both; exact absurd both.1 (by simp)
    · rw [same] at both; exact exclusive i both
  · rw [cellAt_outside (by omega)] at both; exact absurd both.1 (by simp)

/-- ICH shifts and then blanks the halves of the pairs the shift has split. -/
theorem insertBlanks_cellAt {row : Row} {col n : Nat} (exclusive : Exclusive row) (inside : col < row.length) :
    ∃ shifted inserted, Inserted row col n shifted ∧ insertBlanks row col n row.length = .ok inserted ∧
      inserted.length = row.length ∧
      ∀ j, cellAt inserted j = if Orphan shifted j then default else cellAt shifted j := by
  obtain ⟨moved,movedEq,movedLength,movedCells⟩ : ∃ moved, (List.range' col (row.length - n - col)).reverse.foldlM
      (fun row c => do
        let cell ← at? row c
        assign row (c + n) cell) row = (.ok moved : Checked Row) ∧ moved.length = row.length ∧
      ∀ j, j < row.length → cellAt moved j = if col + n ≤ j then cellAt row (j - n) else cellAt row j := by
    by_cases fits : col + n ≤ row.length
    · obtain ⟨moved,movedEq,movedLength,movedCells⟩ :=
        shiftRight_cellAt (row.length - n - col) (show col + (row.length - n - col) + n ≤ row.length by omega) row rfl
          (fun _ _ => rfl)
      refine ⟨moved,movedEq,movedLength,fun j bound => ?_⟩
      rw [movedCells j bound]
      by_cases right : col + n ≤ j
      · rw [if_pos (by omega),if_pos right]
      · rw [if_neg (by omega),if_neg right]
    · rw [show row.length - n - col = 0 by omega]
      exact ⟨row,rfl,rfl,fun j bound => by rw [if_neg (by omega)]⟩
  let shifted := moved.mapIdx fun c cell => if col ≤ c ∧ c < min (col + n) (min row.length row.length) then default else cell
  have isInserted : Inserted row col n shifted := by
    refine ⟨by simp [shifted,movedLength],fun j bound => ?_⟩
    rw [cellAt_mapIdx _ (by omega),movedCells j bound]
    grind
  have exclusive' : Exclusive shifted := exclusive_of_cells exclusive isInserted.1 fun j bound => by
    rw [isInserted.2 j bound]
    split_ifs
    · exact .inr ⟨j,rfl⟩
    · exact .inl rfl
    · exact .inr ⟨_,rfl⟩
  obtain ⟨inserted,insertedEq,length,cells⟩ := repairWidePairs_cellAt exclusive'
  refine ⟨shifted,inserted,isInserted,?_,by rw [length,isInserted.1],cells⟩
  unfold insertBlanks
  simp only [Nat.min_self,movedEq,ok_bind,if_pos inside]
  simpa only [shifted,Nat.min_self] using insertedEq

/-- Past the right margin ICH does nothing. -/
theorem insertBlanks_parked {row : Row} (n : Nat) : insertBlanks row row.length n row.length = .ok row := by
  have none : row.mapIdx (fun c cell => if row.length ≤ c ∧ c < min (row.length + n) row.length then default else cell) = row := by
    apply row_ext (by simp)
    intro j bound
    rw [List.length_mapIdx] at bound
    rw [cellAt_mapIdx _ bound,if_neg (by omega)]
  have nothing : row.length - n - row.length = 0 := by omega
  unfold insertBlanks
  simp only [Nat.min_self,nothing,List.range'_zero,List.reverse_nil,List.foldlM_nil,pure_ok,ok_bind,none,Nat.lt_irrefl,
    if_false]

/-- DCH shifts and then blanks the halves of the pairs the shift has split. -/
theorem deleteCells_cellAt {row : Row} {col n : Nat} (exclusive : Exclusive row) (inside : col ≤ row.length)
    (some : 0 < n) :
    ∃ shifted deleted, Deleted row col n shifted ∧ deleteCells row col n row.length = .ok deleted ∧
      deleted.length = row.length ∧
      ∀ j, cellAt deleted j = if Orphan shifted j then default else cellAt shifted j := by
  obtain ⟨moved,movedEq,movedLength,movedCells⟩ :=
    shiftLeft_cellAt some (row.length - n - col) col (by omega) row rfl (fun _ _ => rfl)
  obtain ⟨shifted,shiftedEq,shiftedLength,shiftedCells⟩ :=
    fill_cellAt (show row.length - n ≤ row.length by omega) (show row.length ≤ moved.length by omega) default
  have isDeleted : Deleted row col n shifted := by
    refine ⟨by omega,fun j bound => ?_⟩
    rw [shiftedCells,movedCells j bound]
    grind
  have exclusive' : Exclusive shifted := exclusive_of_cells exclusive isDeleted.1 fun j bound => by
    rw [isDeleted.2 j bound]
    split_ifs
    · exact .inl rfl
    · exact .inr ⟨_,rfl⟩
    · exact .inr ⟨j,rfl⟩
  obtain ⟨deleted,deletedEq,length,cells⟩ := repairWidePairs_cellAt exclusive'
  refine ⟨shifted,deleted,isDeleted,?_,by rw [length,isDeleted.1],cells⟩
  unfold deleteCells
  rw [movedEq,ok_bind,shiftedEq,ok_bind,deletedEq]

/-! ## Resizing -/

/-- A row cut or padded to a width. -/
private theorem padded_cellAt (row : Row) (cols : Nat) :
    (row.take cols ++ List.replicate (cols - row.length) default).length = cols ∧
      ∀ j, j < cols → cellAt (row.take cols ++ List.replicate (cols - row.length) default) j = cellAt row j := by
  refine ⟨by rw [List.length_append,List.length_take,List.length_replicate]; omega,fun j inside => ?_⟩
  unfold cellAt
  by_cases kept : j < row.length
  · rw [List.getElem?_append_left (by rw [List.length_take]; omega),List.getElem?_take_of_lt inside]
  · rw [List.getElem?_append_right (by rw [List.length_take]; omega),List.getElem?_replicate,
      List.getElem?_eq_none (by omega : row.length ≤ j)]
    split <;> rfl

theorem completeWideLead_cellAt {row : Row} {len : Nat} (inside : len < row.length) :
    (completeWideLead row len).length = row.length ∧ ∀ j, j < row.length → cellAt (completeWideLead row len) j =
      if j = len ∧ 0 < len ∧ (cellAt row (len - 1)).isWide = true then
        .continuationOf (cellAt row (len - 1)).attrs (cellAt row (len - 1)).hyperlink
      else cellAt row j := by
  unfold completeWideLead
  by_cases first : len = 0
  · rw [if_pos first]
    exact ⟨rfl,fun j bound => by rw [if_neg (by omega)]⟩
  · rw [if_neg first]
    have lead : row[len - 1]? = some (cellAt row (len - 1)) := by
      simp [cellAt,List.getElem?_eq_getElem (show len - 1 < row.length by omega)]
    simp only [lead]
    by_cases wide : (cellAt row (len - 1)).isWide = true
    · rw [if_pos wide]
      refine ⟨List.length_set,fun j bound => ?_⟩
      rw [cellAt_set]
      grind
    · rw [if_neg wide]
      exact ⟨rfl,fun j bound => by rw [if_neg (fun both => wide both.2.2)]⟩

/-- What a new width leaves in a row: a lead that was alone in the last column is
    completed when the row grows, and one cut from its continuation is dropped. -/
theorem resizeRow_cellAt (row : Row) (cols : Nat) : (resizeRow cols row).length = cols ∧
    ∀ j, j < cols → cellAt (resizeRow cols row) j =
      if row.length < cols then
        if j = row.length ∧ 0 < row.length ∧ (cellAt row (row.length - 1)).isWide = true then
          .continuationOf (cellAt row (row.length - 1)).attrs (cellAt row (row.length - 1)).hyperlink
        else cellAt row j
      else if j + 1 = cols ∧ (cellAt row j).isWide = true then default
      else cellAt row j := by
  obtain ⟨length,cells⟩ := padded_cellAt row cols
  simp only [resizeRow]
  generalize row.take cols ++ List.replicate (cols - row.length) default = padded at length cells
  by_cases wider : cols > row.length
  · simp only [if_pos wider]
    obtain ⟨completedLength,completedCells⟩ := completeWideLead_cellAt (show row.length < padded.length by omega)
    refine ⟨by omega,fun j inside => ?_⟩
    rw [completedCells j (by omega),cells j inside]
    by_cases some : 0 < row.length
    · rw [cells (row.length - 1) (by omega)]
    · rw [if_neg (by omega),if_neg (by omega)]
  · simp only [if_neg wider]
    cases last : padded.getLast? with
    | none =>
      have empty : padded = [] := List.getLast?_eq_none_iff.mp last
      subst empty
      simp only [List.length_nil] at length
      exact ⟨length,fun j inside => by omega⟩
    | some lead =>
      have some : 0 < padded.length := by
        cases padded with
        | nil => cases last
        | cons => simp
      have isLast : cellAt padded (cols - 1) = lead := by
        rw [List.getLast?_eq_getElem?] at last
        rw [← length]
        simp [cellAt,last]
      rw [cells (cols - 1) (by omega)] at isLast
      by_cases wide : lead.isWide = true
      · simp only [if_pos wide]
        refine ⟨by simp [length],fun j inside => ?_⟩
        rw [cellAt_set,cells j inside]
        grind
      · simp only [if_neg wide]
        refine ⟨length,fun j inside => ?_⟩
        rw [cells j inside]
        grind

/-- A row of a screen as a resize from `oldCols` columns leaves it: one that has its width
    already is not touched. -/
def refitted (oldCols cols : Nat) (row : Row) : Row := if oldCols = cols then row else resizeRow cols row

/-- A resize of rows of one width refits each of them, drops rows off the back and adds
    blank ones there. -/
theorem RowStore.resize_eq {s : RowStore} {oldCols : Nat} (width : ∀ row ∈ s.rows, row.length = oldCols)
    (wraps : s.wraps.length = s.rows.length) (rows cols : Nat) : s.resize rows cols =
      { rows := (s.rows.map (refitted oldCols cols)).take rows ++ List.replicate (rows - s.rows.length) (blankRow cols)
        wraps := s.wraps.take rows ++ List.replicate (rows - s.rows.length) .hard } := by
  have dropped {α : Type} (l : List α) (same : l.length = s.rows.length) : l.rdrop (s.rows.length - rows) = l.take rows := by
    rw [List.rdrop,same]
    by_cases fits : rows ≤ s.rows.length
    · rw [show s.rows.length - (s.rows.length - rows) = rows by omega]
    · rw [List.take_of_length_le (by omega),List.take_of_length_le (by omega)]
  -- the front row stands for all of them
  have changed : s.rows.head?.any (fun row => decide (row.length ≠ cols)) = decide (s.rows ≠ [] ∧ oldCols ≠ cols) := by
    cases stored : s.rows with
    | nil => rfl
    | cons row tail => simp [width row (by simp [stored])]
  have refit : (if decide (s.rows ≠ [] ∧ oldCols ≠ cols) then s.rows.map (resizeRow cols) else s.rows) =
      s.rows.map (refitted oldCols cols) := by
    unfold refitted
    by_cases same : oldCols = cols
    · simp [same]
    · cases s.rows <;> simp [same]
  unfold RowStore.resize
  simp only [changed,refit]
  split_ifs with still
  · obtain ⟨count,unchanged⟩ := still
    have untouched : s.rows.map (refitted oldCols cols) = s.rows := by
      rw [← refit,unchanged]
      rfl
    have whole : s.rows.take rows = s.rows := List.take_of_length_le (by omega)
    have wholeWraps : s.wraps.take rows = s.wraps := List.take_of_length_le (by omega)
    have none : rows - s.rows.length = 0 := by omega
    simp [untouched,whole,wholeWraps,none]
  · rw [List.length_map,dropped _ (List.length_map _),dropped _ wraps]

end Termpane
