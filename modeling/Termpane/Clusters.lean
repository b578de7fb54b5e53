import Termpane.Calls
import Termpane.Printing

/-!
# Printed clusters

The clusters in the cells were printed scalar by scalar, so printing their scalars again
builds the same cluster of the same width.
-/
namespace Termpane

open Lib

/-! ## Properties of single cells -/

/-- A property of what a cell can be, as the edits make cells. -/
structure CellLaw [UnicodeWidth] (Prints : Char → Prop) (C : Cell → Prop) : Prop where
  blankOn : ∀ background, C (.blankOn background)
  continuationOf : ∀ attrs hyperlink, C (.continuationOf attrs hyperlink)
  glyph : ∀ ch attrs hyperlink, Prints ch → charWidth ch ≠ 0 → C (glyphCell ch attrs hyperlink)
  join : ∀ cell ch hyperlink, C cell → Prints ch → Joins ch cell.contents →
    C { cell with contents := cell.contents ++ [ch], hyperlink := hyperlink,
                  isWide := decide (min (clusterWidth (cell.contents ++ [ch])) 2 > 1), isWideContinuation := false }

/-- A row of well-formed cells that each have a property. -/
structure EachCell (C : Cell → Prop) (row : Row) : Prop where
  ok : RowOk row
  each : ∀ j, C (cellAt row j)

section
variable [UnicodeWidth] {Prints : Char → Prop} {C : Cell → Prop}

theorem CellLaw.default (law : CellLaw Prints C) : C (default : Cell) := law.blankOn .default

omit [UnicodeWidth] in
theorem EachCell.of_edit (blank : C (default : Cell)) {row : Row} {edit : Checked Row} (edits : Edits RowOk row edit)
    (cells : ∀ edited, edit = .ok edited → ∀ j, j < row.length → C (cellAt edited j)) : Edits (EachCell C) row edit := by
  obtain ⟨edited,done,length,ok⟩ := edits
  refine ⟨edited,done,length,ok,fun j => ?_⟩
  by_cases inside : j < row.length
  · exact cells edited done j inside
  · rw [cellAt_outside (by omega)]
    exact blank

omit [UnicodeWidth] in
theorem eachCell_replicate (blank : C (default : Cell)) {c : Cell} (holds : C c) {cols : Nat} (ok : RowOk (List.replicate cols c)) :
    EachCell C (List.replicate cols c) := by
  refine ⟨ok,fun j => ?_⟩
  rw [cellAt_replicate]
  split
  · exact holds
  · exact blank

/-- What the edits make of cells is all that can come to stand in a row. -/
theorem CellLaw.rowLaw (law : CellLaw Prints C) : RowLaw Prints (EachCell C) where
  blank cols := eachCell_replicate law.default law.default ((rowOk_law Prints).blank cols)
  blankOn cols background := eachCell_replicate law.default (law.blankOn background) ((rowOk_law Prints).blankOn cols background)
  erase row start stop background holds order inside some := by
    refine EachCell.of_edit law.default (holds.ok.erase order inside some background) fun edited done j bound => ?_
    obtain ⟨erased,erasedEq,_,cells⟩ := eraseCellsBce_cellAt order inside (.blankOn background)
    cases erasedEq.symm.trans done
    rw [cells j bound]
    split
    · exact law.blankOn background
    · exact holds.each j
  insert row col n holds inside := by
    refine EachCell.of_edit law.default (holds.ok.insert inside n) fun edited done j bound => ?_
    by_cases parked : col = row.length
    · rw [parked,insertBlanks_parked] at done
      cases done
      exact holds.each j
    obtain ⟨shifted,inserted,⟨_,shiftedCells⟩,insertedEq,_,cells⟩ :=
      insertBlanks_cellAt (n := n) holds.ok.exclusive (show col < row.length by omega)
    cases insertedEq.symm.trans done
    rw [cells j,shiftedCells j bound]
    split_ifs
    · exact law.default
    · exact holds.each j
    · exact law.default
    · exact holds.each _
  delete row col n holds inside some := by
    refine EachCell.of_edit law.default (holds.ok.delete inside some) fun edited done j bound => ?_
    obtain ⟨shifted,deleted,⟨_,shiftedCells⟩,deletedEq,_,cells⟩ := deleteCells_cellAt holds.ok.exclusive inside some
    cases deletedEq.symm.trans done
    rw [cells j,shiftedCells j bound]
    split_ifs
    · exact law.default
    · exact law.default
    · exact holds.each _
    · exact holds.each j
  glyph row col ch attrs hyperlink holds inside prints wide _ := by
    refine EachCell.of_edit law.default (holds.ok.glyph inside ch attrs hyperlink) fun edited done j bound => ?_
    obtain ⟨written,writtenEq,_,cells⟩ := writeGlyph_cellAt inside (charWidth ch) (glyphCell ch attrs hyperlink)
    cases writtenEq.symm.trans done
    rw [cells j bound]
    split_ifs
    · exact law.glyph ch attrs hyperlink prints wide
    · exact law.continuationOf _ _
    · exact law.default
    · exact holds.each j
  join row col ch hyperlink holds inside prints joins _ := by
    refine EachCell.of_edit law.default (holds.ok.join inside joins hyperlink _) fun edited done j bound => ?_
    have inside' := (holds.ok.clusterCol_start inside).1
    generalize clusterCol row col = col at *
    obtain ⟨written,writtenEq,_,cells⟩ := joinGlyph_cellAt inside' (cellAt row col) ((cellAt row col).contents ++ [ch]) hyperlink
      (min (clusterWidth ((cellAt row col).contents ++ [ch])) 2)
    cases writtenEq.symm.trans done
    rw [cells j bound]
    split_ifs
    · exact law.join _ ch hyperlink (holds.each col) prints joins
    · exact law.continuationOf _ _
    · exact law.default
    · exact law.default
    · exact holds.each j
  resize row cols holds := by
    obtain ⟨length,cells⟩ := resizeRow_cellAt row cols
    refine ⟨holds.ok.resize cols,fun j => ?_⟩
    by_cases inside : j < cols
    · rw [cells j inside]
      split_ifs
      · exact law.continuationOf _ _
      · exact holds.each j
      · exact law.default
      · exact holds.each j
    · rw [cellAt_outside (by omega)]
      exact law.default

end

/-! ## Clusters -/

section
variable [UnicodeWidth]

/-- What printing the scalars one by one makes a cluster's width. -/
def glyphWidth : List Char → Nat
  | [ch] => charWidth ch
  | cluster => min (clusterWidth cluster) 2

/-- A cluster that printing its scalars one by one builds: the first has a width, every
    other joins what is there. -/
inductive Printed : List Char → Prop
  | base (ch : Char) : Printable ch → charWidth ch ≠ 0 → Printed [ch]
  | join (cluster : List Char) (ch : Char) : Printed cluster → Printable ch → Joins ch cluster → Printed (cluster ++ [ch])

/-- A filled cell holds a printed cluster and is as wide as it. -/
def Cell.Filled (c : Cell) : Prop := c.contents ≠ [] → Printed c.contents ∧ c.isWide = decide (glyphWidth c.contents > 1)

theorem Printed.ne_nil {cluster : List Char} (printed : Printed cluster) : cluster ≠ [] := by
  cases printed <;> simp

theorem glyphWidth_join {cluster : List Char} (some : cluster ≠ []) (ch : Char) :
    glyphWidth (cluster ++ [ch]) = min (clusterWidth (cluster ++ [ch])) 2 := by
  match cluster,some with
  | a :: rest,_ => cases rest <;> rfl

theorem glyphWidth_le (cluster : List Char) : glyphWidth cluster ≤ 2 := by
  unfold glyphWidth
  split
  · exact charWidth_le _
  · exact Nat.min_le_right _ _

/-- Every cell holds what was printed there. -/
theorem filled_law : CellLaw Printable Cell.Filled where
  blankOn _ filled := absurd rfl filled
  continuationOf _ _ filled := absurd rfl filled
  glyph ch _ _ prints wide _ := ⟨.base ch prints wide,rfl⟩
  join cell ch _ holds prints joins _ := by
    refine ⟨.join _ ch (holds joins.1).1 prints joins,?_⟩
    rw [glyphWidth_join joins.1]

end

end Termpane
