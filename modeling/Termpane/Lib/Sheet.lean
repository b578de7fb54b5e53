import Mathlib.Algebra.Order.Ring.Int
import Mathlib.Data.List.Basic

/-!
# Text broken into rows

A sheet is typed on at its end. A row that is full is broken off, and the row
after it is marked as going on it; a row that is ended is not. Joining every
marked row to the one before it gives back the lines that were typed.
-/
namespace Termpane.Lib

universe u
variable {α : Type u}

/-- The rows above the one typed on, and whether each goes on the row before it. -/
structure Sheet (α : Type u) where
  above : List (List α × Bool) := []
  row : List α := []
  goesOn : Bool := false

/-- A row is joined to the last line, or starts one. -/
def joinRow (lines : List (List α)) (row : List α × Bool) : List (List α) :=
  if row.2 then lines.dropLast ++ [lines.getLastD [] ++ row.1] else lines ++ [row.1]

/-- The lines of some rows. -/
def joined (rows : List (List α × Bool)) : List (List α) := rows.foldl joinRow []

/-- Text added to the last line. -/
def extendLast (lines : List (List α)) (text : List α) : List (List α) := lines.dropLast ++ [lines.getLastD [] ++ text]

theorem extendLast_concat (lines : List (List α)) (line text : List α) :
    extendLast (lines ++ [line]) text = lines ++ [line ++ text] := by
  unfold extendLast
  rw [List.dropLast_concat,List.getLastD_concat]

theorem extendLast_extendLast (lines : List (List α)) (first second : List α) :
    extendLast (extendLast lines first) second = extendLast lines (first ++ second) := by
  have outer := extendLast_concat lines.dropLast (lines.getLastD [] ++ first) second
  rw [List.append_assoc] at outer
  exact outer

theorem extendLast_nil {lines : List (List α)} (some : lines ≠ []) : extendLast lines [] = lines := by
  obtain ⟨front,line,rfl⟩ := (List.eq_nil_or_concat lines).resolve_left some
  rw [List.concat_eq_append,extendLast_concat,List.append_nil]

theorem joined_concat (rows : List (List α × Bool)) (row : List α × Bool) :
    joined (rows ++ [row]) = joinRow (joined rows) row := by
  unfold joined
  rw [List.foldl_append]
  rfl

theorem joinRow_ne_nil (lines : List (List α)) (row : List α × Bool) : joinRow lines row ≠ [] := by
  unfold joinRow
  split <;> simp

namespace Sheet

def rows (s : Sheet α) : List (List α × Bool) := s.above ++ [(s.row,s.goesOn)]

def lines (s : Sheet α) : List (List α) := joined s.rows

/-- A new row. -/
def breakRow (s : Sheet α) (goesOn : Bool) : Sheet α := { above := s.rows, row := [], goesOn := goesOn }

/-- A letter at the end of the row. -/
def put (s : Sheet α) (a : α) : Sheet α := { s with row := s.row ++ [a] }

/-- A letter at the end of the sheet, in a new row when the last one is full. -/
def type (width : Nat) (s : Sheet α) (a : α) : Sheet α := (if s.row.length = width then s.breakRow true else s).put a

def write (width : Nat) (s : Sheet α) (line : List α) : Sheet α := line.foldl (type width) s

/-- Lines after the last one. -/
def writeAll (width : Nat) (s : Sheet α) (lines : List (List α)) : Sheet α :=
  lines.foldl (fun s line => (s.breakRow false).write width line) s

/-! ## The lines -/

theorem lines_ne_nil (s : Sheet α) : s.lines ≠ [] := by
  unfold lines rows
  rw [joined_concat]
  exact joinRow_ne_nil _ _

theorem lines_put (s : Sheet α) (a : α) : (s.put a).lines = extendLast s.lines [a] := by
  unfold lines rows put
  rw [joined_concat,joined_concat]
  cases s.goesOn with
  | true => exact (extendLast_extendLast (joined s.above) s.row [a]).symm
  | false => exact (extendLast_concat (joined s.above) s.row [a]).symm

/-- A row broken off starts no line. -/
theorem lines_breakRow_on (s : Sheet α) : (s.breakRow true).lines = s.lines := by
  have broken : (s.breakRow true).lines = extendLast s.lines [] := joined_concat s.rows ([],true)
  rw [broken,extendLast_nil s.lines_ne_nil]

/-- A row ended does. -/
theorem lines_breakRow_off (s : Sheet α) : (s.breakRow false).lines = s.lines ++ [[]] := joined_concat s.rows ([],false)

theorem lines_type (width : Nat) (s : Sheet α) (a : α) : (s.type width a).lines = extendLast s.lines [a] := by
  unfold type
  rw [lines_put]
  split
  · rw [lines_breakRow_on]
  · rfl

theorem lines_write (width : Nat) (s : Sheet α) (line : List α) : (s.write width line).lines = extendLast s.lines line := by
  induction line generalizing s with
  | nil => exact (extendLast_nil s.lines_ne_nil).symm
  | cons a line ih =>
    have rest : (s.write width (a :: line)).lines = extendLast (s.type width a).lines line := ih (s.type width a)
    rw [rest,lines_type,extendLast_extendLast]
    rfl

/-- Whatever the width, the lines of a sheet are the lines that were typed. -/
theorem lines_writeAll (width : Nat) (s : Sheet α) (lines : List (List α)) : (s.writeAll width lines).lines = s.lines ++ lines := by
  induction lines generalizing s with
  | nil => exact (List.append_nil _).symm
  | cons line lines ih =>
    have rest : (s.writeAll width (line :: lines)).lines = ((s.breakRow false).write width line).lines ++ lines :=
      ih ((s.breakRow false).write width line)
    rw [rest,lines_write,lines_breakRow_off,extendLast_concat,List.append_assoc]
    rfl

/-! ## The rows -/

/-- The rows a line takes: one even when it is empty. -/
def rowsFor (width : Nat) (line : List α) : Nat := (line.length - 1) / width + 1

@[simp] theorem length_rows (s : Sheet α) : s.rows.length = s.above.length + 1 := by simp [rows]

@[simp] theorem length_breakRow (s : Sheet α) (goesOn : Bool) : (s.breakRow goesOn).rows.length = s.rows.length + 1 := by
  simp [rows,breakRow]

theorem length_type (width : Nat) (s : Sheet α) (a : α) :
    (s.type width a).rows.length = s.rows.length + if s.row.length = width then 1 else 0 := by
  unfold type
  split
  · simp [put,rows,breakRow]
  · simp [put,rows]

theorem length_le_write (width : Nat) (s : Sheet α) (line : List α) : s.rows.length ≤ (s.write width line).rows.length := by
  induction line generalizing s with
  | nil => exact Nat.le_refl _
  | cons a line ih =>
    refine Nat.le_trans ?_ (ih (s.type width a))
    rw [length_type]
    exact Nat.le_add_right _ _

theorem length_le_writeAll (width : Nat) (s : Sheet α) (lines : List (List α)) :
    s.rows.length ≤ (s.writeAll width lines).rows.length := by
  induction lines generalizing s with
  | nil => exact Nat.le_refl _
  | cons line lines ih =>
    refine Nat.le_trans ?_ (ih ((s.breakRow false).write width line))
    refine Nat.le_trans ?_ (length_le_write width (s.breakRow false) line)
    rw [length_breakRow]
    exact Nat.le_succ _

/-- Letters fill the sheet one after the other, row by row. -/
theorem write_fills {width : Nat} (some : 0 < width) {s : Sheet α} (fits : s.row.length ≤ width) (line : List α) :
    (s.write width line).row.length ≤ width ∧ (line ≠ [] → 0 < (s.write width line).row.length) ∧
      (s.write width line).above.length * width + (s.write width line).row.length =
        s.above.length * width + s.row.length + line.length := by
  induction line generalizing s with
  | nil => exact ⟨fits,fun none => absurd rfl none,rfl⟩
  | cons a line ih =>
    have typed : (s.type width a).row.length ≤ width ∧ 0 < (s.type width a).row.length ∧
        (s.type width a).above.length * width + (s.type width a).row.length = s.above.length * width + s.row.length + 1 := by
      unfold type
      split
      case isTrue full => simp [put,breakRow,rows,Nat.add_mul]; omega
      case isFalse room => simp [put]; omega
    obtain ⟨width',_,filled⟩ := ih typed.1
    refine ⟨width',fun _ => ?_,?_⟩
    · cases line with
      | nil => exact typed.2.1
      | cons b line => exact (ih typed.1).2.1 (List.cons_ne_nil _ _)
    · change ((s.type width a).write width line).above.length * width + ((s.type width a).write width line).row.length = _
      rw [filled,typed.2.2,List.length_cons]
      omega

theorem length_write_rows {width : Nat} (some : 0 < width) {s : Sheet α} (fresh : s.row = []) (line : List α) :
    (s.write width line).rows.length = s.above.length + rowsFor width line := by
  obtain ⟨fits,inked,filled⟩ := write_fills some (show s.row.length ≤ width by rw [fresh]; exact Nat.zero_le _) line
  rw [fresh,List.length_nil,Nat.add_zero] at filled
  unfold rowsFor
  rw [length_rows]
  cases line with
  | nil =>
    have same : s.write width [] = s := rfl
    rw [same]
    simp
  | cons a line =>
    have positive := inked (List.cons_ne_nil _ _)
    have place : (line.length + s.above.length * width) / width = (s.write width (a :: line)).above.length := by
      refine Nat.div_eq_of_lt_le ?_ ?_
      · rw [List.length_cons] at filled
        omega
      · rw [List.length_cons] at filled
        rw [Nat.succ_mul]
        omega
    rw [Nat.add_mul_div_right _ _ some] at place
    rw [List.length_cons,Nat.add_sub_cancel]
    omega

theorem length_writeAll_rows {width : Nat} (some : 0 < width) (s : Sheet α) (lines : List (List α)) :
    (s.writeAll width lines).rows.length = s.rows.length + (lines.map (rowsFor width)).sum := by
  induction lines generalizing s with
  | nil => rfl
  | cons line lines ih =>
    have rest : (s.writeAll width (line :: lines)).rows.length =
        ((s.breakRow false).write width line).rows.length + (lines.map (rowsFor width)).sum :=
      ih ((s.breakRow false).write width line)
    have first : ((s.breakRow false).write width line).rows.length = s.rows.length + rowsFor width line :=
      length_write_rows some rfl line
    rw [rest,first,List.map_cons,List.sum_cons,Nat.add_assoc]

end Sheet

end Termpane.Lib
