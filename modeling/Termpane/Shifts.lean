import Termpane.Calls

/-!
# Inserting and deleting characters

ICH and DCH as moves of cells: where each column of the new row takes its cell
from, and what becomes of wide pairs whose halves are parted.
-/
namespace Termpane

open Lib

/-! ## Moves of cells -/

/-- Where each column of a row takes its cell from, none where it is left blank. -/
abbrev Origins := Nat → Option Nat

/-- `k` blanks at `col`, and the cells from there on `k` columns further right. -/
def insertedAt (col k : Nat) : Origins := fun j => if j < col then some j else if j < col + k then none else some (j - k)

/-- `k` cells taken out of a row of `cols` at `col`, and blanks at its end. -/
def deletedAt (cols col k : Nat) : Origins := fun j => if j < col then some j else if j + k < cols then some (j + k) else none

/-- The cell at `o` is half of a wide pair, and at `j` the other half does not
    stand beside it. -/
def Parted (row : Row) (origins : Origins) (j o : Nat) : Prop :=
  ((cellAt row o).isWide = true ∧ ¬ (j + 1 < row.length ∧ origins (j + 1) = some (o + 1))) ∨
    ((cellAt row o).isWideContinuation = true ∧ ¬ (0 < j ∧ origins (j - 1) = some (o - 1)))

instance (row : Row) (origins : Origins) (j o : Nat) : Decidable (Parted row origins j o) := by unfold Parted; infer_instance

/-- What a move of cells puts in a column. -/
def arrived (row : Row) (origins : Origins) (j : Nat) : Cell :=
  match origins j with
  | none => default
  | some o => if Parted row origins j o then default else cellAt row o

/-- Every column holds what arrives there, and halves that stand side by side are
    of one glyph. -/
structure Moved (row : Row) (origins : Origins) (moved : Row) : Prop where
  length : moved.length = row.length
  cells : ∀ j, j < row.length → cellAt moved j = arrived row origins j
  oneGlyph : ∀ j, j + 1 < row.length → (cellAt moved j).isWide = true → (cellAt moved (j + 1)).isWideContinuation = true →
    ∃ o, origins j = some o ∧ origins (j + 1) = some (o + 1)

theorem arrived_of_none {row : Row} {origins : Origins} {j : Nat} (blank : origins j = none) :
    arrived row origins j = default := by
  simp only [arrived,blank]

theorem arrived_of_some {row : Row} {origins : Origins} {j o : Nat} (taken : origins j = some o) :
    arrived row origins j = if Parted row origins j o then default else cellAt row o := by
  simp only [arrived,taken]

/-- Where what arrives is a lead, the continuation it had arrives behind it. -/
theorem arrived_isWide {row : Row} {origins : Origins} {j : Nat} (wide : (arrived row origins j).isWide = true) :
    ∃ o, origins j = some o ∧ origins (j + 1) = some (o + 1) := by
  cases taken : origins j with
  | none => rw [arrived_of_none taken] at wide; cases wide
  | some o =>
    rw [arrived_of_some taken] at wide
    split_ifs at wide with parted
    refine ⟨o,rfl,?_⟩
    by_contra other
    exact parted (.inl ⟨wide,fun both => other both.2⟩)

/-- Moved cells of which the orphans were blanked. -/
structure Repaired (row : Row) (origins : Origins) (repaired : Row) : Prop where
  length : repaired.length = row.length
  shifted : ∃ shifted : Row, shifted.length = row.length ∧
    (∀ j, j < row.length → cellAt shifted j = (origins j).elim default (cellAt row)) ∧
    ∀ j, cellAt repaired j = if Orphan shifted j then default else cellAt shifted j

/-- Cells of a row, moved within it. -/
def Within (cols : Nat) (origins : Origins) : Prop := ∀ j o, j < cols → origins j = some o → o < cols

/-- Cells of different glyphs do not come to stand as lead and continuation. -/
def NoFalsePair (row : Row) (origins : Origins) : Prop :=
  ∀ j o p, j + 1 < row.length → origins j = some o → origins (j + 1) = some p → (cellAt row o).isWide = true →
    (cellAt row p).isWideContinuation = true → p = o + 1

section
variable {row shifted : Row} {origins : Origins}
  (shiftedCells : ∀ j, j < row.length → cellAt shifted j = (origins j).elim default (cellAt row))
include shiftedCells

private theorem shifted_taken {j o : Nat} (inside : j < row.length) (from_ : origins j = some o) : cellAt shifted j = cellAt row o := by
  rw [shiftedCells j inside,from_]
  rfl

private theorem shifted_origin {j : Nat} {c : Cell} (inside : j < row.length) (same : cellAt shifted j = c) (filled : c ≠ default) :
    ∃ o, origins j = some o ∧ cellAt row o = c := by
  rw [shiftedCells j inside] at same
  cases from_ : origins j with
  | none => rw [from_] at same; exact absurd same.symm filled
  | some o => rw [from_] at same; exact ⟨o,rfl,same⟩

/-- Where no false pair was formed a half stands alone exactly if it was parted. -/
private theorem orphan_iff_parted (length : shifted.length = row.length) (paired : Paired row) (within : Within row.length origins)
    (honest : NoFalsePair row origins) {j o : Nat} (inside : j < row.length) (from_ : origins j = some o) :
    Orphan shifted j ↔ Parted row origins j o := by
  have taken {j o : Nat} := @shifted_taken row shifted origins shiftedCells j o
  have bound := within j o inside from_
  unfold Orphan Parted
  rw [taken inside from_]
  constructor
  · rintro (⟨continuation,alone⟩ | ⟨lead,alone⟩)
    · refine .inr ⟨continuation,fun both => ?_⟩
      have o0 : o ≠ 0 := fun zero => by rw [zero,paired.first] at continuation; cases continuation
      have pair := paired.pairs (o - 1) (by omega)
      rw [show o - 1 + 1 = o by omega,continuation] at pair
      rcases alone with zero | narrow
      · omega
      · rw [taken (by omega) both.2,← pair] at narrow; cases narrow
    · refine .inl ⟨lead,fun both => ?_⟩
      have bound' := within (j + 1) (o + 1) both.1 both.2
      rw [taken both.1 both.2,paired.pairs o bound',lead] at alone
      cases alone
  · rintro (⟨lead,alone⟩ | ⟨continuation,alone⟩)
    · refine .inr ⟨lead,?_⟩
      by_contra follows
      rw [Bool.not_eq_false] at follows
      have next : j + 1 < row.length := by
        by_contra outside
        rw [cellAt_outside (by omega)] at follows
        cases follows
      obtain ⟨p,right,isP⟩ := shifted_origin shiftedCells next rfl fun none => by rw [none] at follows; cases follows
      have same := honest j o p next from_ right lead (by rw [isP]; exact follows)
      exact alone ⟨next,same ▸ right⟩
    · refine .inl ⟨continuation,?_⟩
      by_contra both
      rw [not_or,Bool.not_eq_false] at both
      obtain ⟨p,left,isP⟩ := shifted_origin shiftedCells (show j - 1 < row.length by omega) rfl fun none => by
        rw [none] at both; cases both.2
      have right : origins (j - 1 + 1) = some o := by rw [show j - 1 + 1 = j by omega]; exact from_
      have same := honest (j - 1) p o (by omega) left right (by rw [isP]; exact both.2) continuation
      exact alone ⟨by omega,by rw [same]; exact left⟩

end

/-- A repair tells parted halves from pairs by what stands beside them, so it finds
    them all exactly if no false pair was formed. -/
theorem Repaired.moved_iff {row repaired : Row} {origins : Origins} (repairs : Repaired row origins repaired)
    (paired : Paired row) (within : Within row.length origins) : Moved row origins repaired ↔ NoFalsePair row origins := by
  obtain ⟨length,shifted,shiftedLength,shiftedCells,cells⟩ := repairs
  constructor
  · intro moved j o p inside left right lead continuation
    have here := shifted_taken shiftedCells (by omega : j < row.length) left
    have next := shifted_taken shiftedCells inside right
    -- the lead is no orphan to the repair, and so is still there
    have kept : cellAt repaired j = cellAt row o := by
      rw [cells j,if_neg,here]
      rintro (⟨both,_⟩ | ⟨_,none⟩)
      · exact paired.exclusive o ⟨lead,here ▸ both⟩
      · rw [next,continuation] at none; cases none
    have stays : (arrived row origins j).isWide = true := by rw [← moved.cells j (by omega),kept]; exact lead
    obtain ⟨o',left',right'⟩ := arrived_isWide stays
    rw [left] at left'
    rw [right] at right'
    cases left'
    exact Option.some.inj right'
  · intro honest
    have each (j : Nat) (inside : j < row.length) : cellAt repaired j = arrived row origins j := by
      rw [cells j]
      cases from_ : origins j with
      | none =>
        have blank : cellAt shifted j = default := by rw [shiftedCells j inside,from_]; rfl
        rw [arrived_of_none from_,blank]
        split <;> rfl
      | some o =>
        rw [arrived_of_some from_,shifted_taken shiftedCells inside from_]
        simp only [orphan_iff_parted shiftedCells shiftedLength paired within honest inside from_]
    refine ⟨length,each,fun j inside lead _ => ?_⟩
    rw [each j (by omega)] at lead
    exact arrived_isWide lead

/-! ## The edits of a row -/

/-- ICH makes no false pair: blanks stand between what stays and what is shifted. -/
theorem insertBlanks_moved {row : Row} (paired : Paired row) {col n : Nat} (inside : col < row.length) (some : 0 < n) :
    ∃ inserted, insertBlanks row col n row.length = .ok inserted ∧
      Moved row (insertedAt col (min n (row.length - col))) inserted := by
  obtain ⟨shifted,inserted,⟨shiftedLength,shiftedCells⟩,insertedEq,length,cells⟩ :=
    insertBlanks_cellAt (n := n) paired.exclusive inside
  have repairs : Repaired row (insertedAt col (min n (row.length - col))) inserted := by
    refine ⟨length,shifted,shiftedLength,fun j bound => ?_,cells⟩
    rw [shiftedCells j bound,insertedAt]
    by_cases left : j < col
    · simp only [if_pos left,Option.elim_some]
    by_cases blank : j < col + n
    · rw [if_neg left,if_pos blank,if_neg left,if_pos (by omega)]
      rfl
    · rw [if_neg left,if_neg blank,if_neg left,if_neg (by omega),Option.elim_some]
      congr 1
      omega
  have within : Within row.length (insertedAt col (min n (row.length - col))) := by
    intro j o bound from_
    unfold insertedAt at from_
    split_ifs at from_ <;> cases from_ <;> omega
  refine ⟨inserted,insertedEq,(repairs.moved_iff paired within).mpr fun j o p bound left right _ _ => ?_⟩
  unfold insertedAt at left right
  split_ifs at left right <;> cases left <;> cases right <;> omega

/-- When DCH does what it is for: the deleted span does not begin and end in the
    middle of a wide pair, and where it reaches over the margin the columns that the
    fill of the tail takes left of the cursor are blank, or half of a pair to be blanked. -/
def DeletesCleanly (row : Row) (col n : Nat) : Prop :=
  ¬ ((cellAt row col).isWideContinuation = true ∧ (cellAt row (col + n)).isWideContinuation = true) ∧
    ∀ j, j < col → row.length ≤ j + n → cellAt row j = default ∨ (j + 1 = col ∧ (cellAt row j).isWide = true)

/-- DCH as the source has it: the blanks start `n` columns before the margin. -/
private def deletedWithTail (cols col n : Nat) : Origins :=
  fun j => if cols ≤ j + n then none else if col ≤ j then some (j + n) else some j

private theorem deleteCells_repaired {row : Row} (paired : Paired row) {col n : Nat} (inside : col ≤ row.length) (some : 0 < n) :
    ∃ deleted, deleteCells row col n row.length = .ok deleted ∧ Repaired row (deletedWithTail row.length col n) deleted := by
  obtain ⟨shifted,deleted,⟨shiftedLength,shiftedCells⟩,deletedEq,length,cells⟩ :=
    deleteCells_cellAt paired.exclusive inside some
  refine ⟨deleted,deletedEq,length,shifted,shiftedLength,fun j bound => ?_,cells⟩
  rw [shiftedCells j bound,deletedWithTail]
  split_ifs <;> rfl

private theorem deletedWithTail_within (cols col n : Nat) : Within cols (deletedWithTail cols col n) := by
  intro j o bound from_
  unfold deletedWithTail at from_
  split_ifs at from_ <;> cases from_ <;> omega

/-- A span that ends in the row: only the cells on its two sides can meet as a false pair. -/
private theorem deleted_inside_iff {row deleted : Row} (paired : Paired row) {col n : Nat} (some : 0 < n)
    (inside : col + n ≤ row.length) (repairs : Repaired row (deletedWithTail row.length col n) deleted) :
    Moved row (deletedAt row.length col n) deleted ↔
      ¬ ((cellAt row col).isWideContinuation = true ∧ (cellAt row (col + n)).isWideContinuation = true) := by
  have same : deletedAt row.length col n = deletedWithTail row.length col n := by
    funext j
    unfold deletedAt deletedWithTail
    split_ifs <;> first | rfl | omega
  rw [same,repairs.moved_iff paired (deletedWithTail_within _ _ _),← same]
  constructor
  · rintro honest ⟨cut,end_⟩
    have bound : col + n < row.length := by
      by_contra outside
      rw [cellAt_outside (by omega)] at end_
      cases end_
    have first : col ≠ 0 := fun zero => by rw [zero,paired.first] at cut; cases cut
    have pair := paired.pairs (col - 1) (by omega)
    rw [show col - 1 + 1 = col by omega,cut] at pair
    have here : deletedAt row.length col n (col - 1) = .some (col - 1) := if_pos (by omega)
    have next : deletedAt row.length col n (col - 1 + 1) = .some (col + n) := by
      rw [show col - 1 + 1 = col by omega,deletedAt,if_neg (by omega),if_pos bound]
    have := honest (col - 1) (col - 1) (col + n) (by omega) here next pair.symm end_
    omega
  · intro apart j o p bound left right lead continuation
    unfold deletedAt at left right
    by_cases meets : j + 1 = col
    · rw [if_pos (by omega)] at left
      rw [if_neg (by omega)] at right
      split_ifs at right with stays
      cases left
      cases right
      have pair := paired.pairs j bound
      rw [lead,meets] at pair
      exact absurd ⟨pair,by rwa [show col + n = j + 1 + n by omega]⟩ apart
    · split_ifs at left right <;> cases left <;> cases right <;> omega

/-- Left of a span that reaches the margin only the lead of the pair it cuts is parted. -/
private theorem deleted_parted_iff {row : Row} (paired : Paired row) {col j : Nat} (inside : col < row.length) (left : j < col) :
    Parted row (deletedAt row.length col (row.length - col)) j j ↔ j + 1 = col ∧ (cellAt row j).isWide = true := by
  have stays {j : Nat} (left : j < col) : deletedAt row.length col (row.length - col) j = some j := if_pos left
  constructor
  · rintro (⟨lead,alone⟩ | ⟨continuation,alone⟩)
    · refine ⟨?_,lead⟩
      by_contra inner
      exact alone ⟨by omega,stays (by omega)⟩
    · have first : j ≠ 0 := fun zero => by rw [zero,paired.first] at continuation; cases continuation
      exact absurd ⟨by omega,stays (by omega)⟩ alone
  · rintro ⟨meets,lead⟩
    refine .inl ⟨lead,fun both => ?_⟩
    rw [deletedAt,if_neg (by omega),if_neg (by omega)] at both
    cases both.2

/-- The first column the fill takes is no continuation, so what stays before it is whole. -/
private theorem tail_whole {row : Row} (paired : Paired row) {col n j : Nat} (inside : col < row.length) (left : j < col)
    (kept : j + n < row.length)
    (blank : ∀ j, j < col → row.length ≤ j + n → cellAt row j = default ∨ (j + 1 = col ∧ (cellAt row j).isWide = true))
    (past : row.length < col + n) : ¬ Parted row (deletedWithTail row.length col n) j j := by
  rintro (⟨lead,alone⟩ | ⟨continuation,alone⟩)
  · have next := paired.pairs j (by omega)
    by_cases reached : row.length ≤ j + 1 + n
    · rcases blank (j + 1) (by omega) reached with blank | ⟨_,lead'⟩
      · rw [blank,lead] at next; cases next
      · exact paired.exclusive (j + 1) ⟨lead',next.trans lead⟩
    · exact alone ⟨by omega,by rw [deletedWithTail,if_neg reached,if_neg (by omega)]⟩
  · have first : j ≠ 0 := fun zero => by rw [zero,paired.first] at continuation; cases continuation
    exact alone ⟨by omega,by rw [deletedWithTail,if_neg (by omega),if_neg (by omega)]⟩

/-- A span that reaches over the margin: the fill of the tail blanks as many columns
    left of the cursor as are missing. -/
private theorem deleted_past_iff {row deleted : Row} (paired : Paired row) {col n : Nat} (inside : col < row.length)
    (past : row.length < col + n) (repairs : Repaired row (deletedWithTail row.length col n) deleted) :
    Moved row (deletedAt row.length col (row.length - col)) deleted ↔
      ∀ j, j < col → row.length ≤ j + n → cellAt row j = default ∨ (j + 1 = col ∧ (cellAt row j).isWide = true) := by
  have moved : Moved row (deletedWithTail row.length col n) deleted :=
    (repairs.moved_iff paired (deletedWithTail_within _ _ _)).mpr fun j o p bound left right _ _ => by
      unfold deletedWithTail at left right
      split_ifs at left right <;> cases left <;> cases right <;> omega
  have stays {j : Nat} (left : j < col) : deletedAt row.length col (row.length - col) j = some j := if_pos left
  have gone {j : Nat} (right : col ≤ j) : deletedAt row.length col (row.length - col) j = none := by
    rw [deletedAt,if_neg (by omega),if_neg (by omega)]
  have parted {j : Nat} (left : j < col) := deleted_parted_iff paired inside left
  constructor
  · intro meant j left tail
    have here := moved.cells j (by omega)
    rw [meant.cells j (by omega),arrived_of_some (stays left),arrived_of_none (show deletedWithTail _ _ _ j = none from if_pos tail)]
      at here
    split_ifs at here with split
    · exact .inr ((parted left).mp split)
    · exact .inl here
  · intro blank
    have each (j : Nat) (bound : j < row.length) : cellAt deleted j = arrived row (deletedAt row.length col (row.length - col)) j := by
      rw [moved.cells j bound]
      by_cases left : j < col
      case neg => rw [arrived_of_none (gone (by omega)),arrived_of_none (show deletedWithTail _ _ _ j = none from if_pos (by omega))]
      rw [arrived_of_some (stays left)]
      by_cases tail : row.length ≤ j + n
      · rw [arrived_of_none (show deletedWithTail _ _ _ j = none from if_pos tail)]
        split_ifs with split
        · rfl
        · exact ((blank j left tail).resolve_right fun half => split ((parted left).mpr half)).symm
      · have kept : deletedWithTail row.length col n j = some j := by
          rw [deletedWithTail,if_neg tail,if_neg (by omega)]
        have whole' : ¬ Parted row (deletedAt row.length col (row.length - col)) j j := by
          rw [parted left]
          omega
        rw [arrived_of_some kept,if_neg (tail_whole paired inside left (by omega) blank past),if_neg whole']
    refine ⟨moved.length,each,fun j bound lead _ => ?_⟩
    rw [each j (by omega)] at lead
    exact arrived_isWide lead

/-- DCH takes its span out, and puts nothing together that was apart, exactly if it deletes cleanly. -/
theorem deleteCells_moved_iff {row : Row} (paired : Paired row) {col n : Nat} (inside : col < row.length) (some : 0 < n) :
    ∃ deleted, deleteCells row col n row.length = .ok deleted ∧
      (Moved row (deletedAt row.length col (min n (row.length - col))) deleted ↔ DeletesCleanly row col n) := by
  obtain ⟨deleted,deletedEq,repairs⟩ := deleteCells_repaired paired (Nat.le_of_lt inside) some
  refine ⟨deleted,deletedEq,?_⟩
  unfold DeletesCleanly
  by_cases fits : col + n ≤ row.length
  · rw [show min n (row.length - col) = n by omega,deleted_inside_iff paired some fits repairs]
    exact (and_iff_left fun j left past => by omega).symm
  · rw [show min n (row.length - col) = row.length - col by omega,deleted_past_iff paired inside (by omega) repairs]
    refine (and_iff_right ?_).symm
    rw [cellAt_outside (show row.length ≤ col + n by omega)]
    simp

/-! ## The sequences -/

namespace Grid

variable {g : Grid}

/-- The grid with other cells in a row. -/
def withRow (g : Grid) (row : Nat) (cells : Row) : Grid :=
  g.setActiveGrid { g.activeGrid with rows := g.activeGrid.rows.set row cells }

/-- The grid with other cells in the cursor's row, marked from the cursor on. -/
def withCursorCells (g : Grid) (cells : Row) : Grid :=
  (g.withRow g.cursorRow cells).markRange g.cursorRow g.cursorCol g.cols

theorem withCursorCells_activeGrid (g : Grid) (cells : Row) :
    (g.withCursorCells cells).activeGrid = { g.activeGrid with rows := g.activeGrid.rows.set g.cursorRow cells } :=
  activeGrid_setActiveGrid g _

/-- The cells put in the cursor's row can be read back. -/
theorem Shaped.withCursorCells_inj {P : Row → Prop} (shaped : g.Shaped P) {cells other : Row}
    (same : g.withCursorCells cells = g.withCursorCells other) : cells = other := by
  have cursor : g.cursorRow < g.activeGrid.rows.length := by rw [shaped.active.rowCount]; exact shaped.cursorRow
  have screens := congrArg (fun h : Grid => h.activeGrid.rows[g.cursorRow]?) same
  simpa [withCursorCells_activeGrid,cursor] using screens

theorem Shaped.modifyCursorRow_eq {P : Row → Prop} (shaped : g.Shaped P) {f : Row → Checked Row} {cells : Row}
    (edited : f g.cursorCells = .ok cells) : g.modifyActiveRow g.cursorRow f = .ok (g.withRow g.cursorRow cells) := by
  simp only [Grid.modifyActiveRow,RowStore.modifyRow,shaped.cursorCells.1,ok_bind,edited,pure_ok,withRow]

variable [UnicodeWidth]

/-- `CSI n @` and `CSI n P`, whose count is at least one. -/
theorem perform_insertChars (g : Grid) {n : UInt16} (some : 0 < n) :
    g.perform (.csiDispatch [[n]] [] false '@') = g.insertChars n.toNat := by
  have positive : 0 < n.toNat := some
  have ops : (Callback.csiDispatch [[n]] [] false '@').ops = [.insertChars (max n.toNat 1)] := rfl
  rw [perform,ops,show max n.toNat 1 = n.toNat by omega]
  exact bind_pure (g.insertChars n.toNat)

theorem perform_deleteChars (g : Grid) {n : UInt16} (some : 0 < n) :
    g.perform (.csiDispatch [[n]] [] false 'P') = g.deleteChars n.toNat := by
  have positive : 0 < n.toNat := some
  have ops : (Callback.csiDispatch [[n]] [] false 'P').ops = [.deleteChars (max n.toNat 1)] := rfl
  rw [perform,ops,show max n.toNat 1 = n.toNat by omega]
  exact bind_pure (g.deleteChars n.toNat)

/-- ICH makes room at the cursor: `k` default cells there, what was behind it moved
    right as far as it fits, the halves of the pairs it parts blanked. -/
theorem Shaped.insert_characters (shaped : g.Shaped Paired) (inside : g.cursorCol < g.cols) {n : UInt16} (some : 0 < n) :
    ∃ cells h, g.perform (.csiDispatch [[n]] [] false '@') = .ok h ∧ h = g.withCursorCells cells ∧
      Moved g.cursorCells (insertedAt g.cursorCol (min n.toNat (g.cols - g.cursorCol))) cells ∧
      (h.cursorRow,h.cursorCol,h.modeFlags) = (g.cursorRow,g.cursorCol,g.modeFlags) ∧
      (h.currentAttrs,h.activeHyperlink) = (g.currentAttrs,g.activeHyperlink) := by
  obtain ⟨_,_,width,paired⟩ := shaped.cursorCells
  obtain ⟨cells,inserted,moved⟩ := insertBlanks_moved paired (show g.cursorCol < g.cursorCells.length by omega)
    (show 0 < n.toNat from some)
  rw [width] at inserted moved
  refine ⟨cells,_,?_,rfl,moved,rfl,rfl⟩
  rw [perform_insertChars g some,Grid.insertChars,
    shaped.modifyCursorRow_eq (f := fun row => insertBlanks row g.cursorCol n.toNat g.cols) inserted]
  rfl

/-- DCH closes up at the cursor: the cells behind the `k` it takes out move left, `k`
    default cells end the row, the halves of the pairs it parts are blanked and no
    others are put together. -/
def DeletesCharacters (g : Grid) (n : UInt16) : Prop :=
  ∃ cells, g.perform (.csiDispatch [[n]] [] false 'P') = .ok (g.withCursorCells cells) ∧
    Moved g.cursorCells (deletedAt g.cols g.cursorCol (min n.toNat (g.cols - g.cursorCol))) cells

theorem Shaped.delete_characters_iff (shaped : g.Shaped Paired) (inside : g.cursorCol < g.cols) {n : UInt16} (some : 0 < n) :
    g.DeletesCharacters n ↔ DeletesCleanly g.cursorCells g.cursorCol n.toNat := by
  obtain ⟨_,_,width,paired⟩ := shaped.cursorCells
  obtain ⟨cells,deleted,moved_iff⟩ := deleteCells_moved_iff paired (show g.cursorCol < g.cursorCells.length by omega)
    (show 0 < n.toNat from some)
  rw [width] at deleted moved_iff
  have performed : g.perform (.csiDispatch [[n]] [] false 'P') = .ok (g.withCursorCells cells) := by
    rw [perform_deleteChars g some,Grid.deleteChars,
      shaped.modifyCursorRow_eq (f := fun row => deleteCells row g.cursorCol n.toNat g.cols) deleted]
    rfl
  rw [← moved_iff]
  constructor
  · rintro ⟨other,performed',moved⟩
    rw [performed] at performed'
    rw [shaped.withCursorCells_inj (Except.ok.inj performed')]
    exact moved
  · exact fun moved => ⟨cells,performed,moved⟩

end Grid

section
attribute [local instance] byteParser blockWidth

/-- `A中` in four columns, and the cursor back on the second half of the pair. -/
theorem insert_characters_inside_pair : ∃ d, (DamageGrid.new 1 4 0).calls [.process [0x41,0xe4,0xb8,0xad,0x08]] = .ok d ∧
    ∃ cells h, d.grid.perform (.csiDispatch [[1]] [] false '@') = .ok h ∧ h = d.grid.withCursorCells cells ∧
      Moved d.grid.cursorCells (insertedAt d.grid.cursorCol (min (1 : UInt16).toNat (d.grid.cols - d.grid.cursorCol))) cells ∧
      (h.cursorRow,h.cursorCol,h.modeFlags) = (d.grid.cursorRow,d.grid.cursorCol,d.grid.modeFlags) ∧
      (h.currentAttrs,h.activeHyperlink) = (d.grid.currentAttrs,d.grid.activeHyperlink) := by
  have shaped {d : DamageGrid} (reached : (DamageGrid.new 1 4 0).calls [.process [0x41,0xe4,0xb8,0xad,0x08]] = .ok d) :=
    ((DamageGrid.calls_rowOk (by decide) (by decide) 0 _).of_ok reached).1
  exact ⟨_,rfl,Grid.Shaped.insert_characters ((shaped rfl).mono fun _ => RowOk.paired) (by decide)
    (show (0 : UInt16) < 1 by decide)⟩

theorem delete_characters_inside_pair : ∃ d, (DamageGrid.new 1 4 0).calls [.process [0x41,0xe4,0xb8,0xad,0x08]] = .ok d ∧
    (d.grid.DeletesCharacters 1 ↔ DeletesCleanly d.grid.cursorCells d.grid.cursorCol (1 : UInt16).toNat) := by
  have shaped {d : DamageGrid} (reached : (DamageGrid.new 1 4 0).calls [.process [0x41,0xe4,0xb8,0xad,0x08]] = .ok d) :=
    ((DamageGrid.calls_rowOk (by decide) (by decide) 0 _).of_ok reached).1
  exact ⟨_,rfl,Grid.Shaped.delete_characters_iff ((shaped rfl).mono fun _ => RowOk.paired) (by decide)
    (show (0 : UInt16) < 1 by decide)⟩

/-- `ABC` in four columns, the cursor in the fourth: `CSI 3 P` blanks `B` and `C`. -/
theorem delete_characters_past_margin : ∃ d, (DamageGrid.new 1 4 0).calls [.process [0x41,0x42,0x43]] = .ok d ∧
    d.grid.cursorCol = 3 ∧ ¬ d.grid.DeletesCharacters 3 := by
  refine ⟨_,rfl,rfl,?_⟩
  rintro ⟨cells,performed,moved⟩
  have screen := congrArg (fun ended : Checked Grid => ended.toOption.bind fun h => h.activeGrid.rows[0]?) performed
  have blanked : some [⟨['A'],false,false,{},none⟩,default,default,default] = some cells := screen
  have second := moved.cells 1 (by decide)
  rw [← Option.some.inj blanked] at second
  exact absurd second (by decide)

end

end Termpane
