import Termpane.Lib.Runs

/-!
# Arithmetic and indexing that can panic

The handlers index rows and cells directly and add `u16`s with a plain `+`. A
computation of the model stops where the program would: at an index outside its
sequence, and where a sum or a difference of `u16`s leaves the type.
-/
namespace Termpane

/-- Why a handler panicked. -/
inductive Panic
  | overflow
  | index
  deriving DecidableEq, Repr

abbrev Checked := Except Panic

/-- The largest `u16`. -/
def u16Max : Nat := 65535

/-- `a + b` on `u16`. -/
def add16 (a b : Nat) : Checked Nat := if a + b ≤ u16Max then .ok (a + b) else .error .overflow

/-- `a - b` on an unsigned type. -/
def sub (a b : Nat) : Checked Nat := if b ≤ a then .ok (a - b) else .error .overflow

/-- `a.saturating_add(b)` on `u16`. -/
def satAdd16 (a b : Nat) : Nat := min (a + b) u16Max

section
variable {α : Type*}

/-- `l[i]`. -/
def at? (l : List α) (i : Nat) : Checked α :=
  match l[i]? with
  | some a => .ok a
  | none => .error .index

/-- `l[i] = a`. -/
def assign (l : List α) (i : Nat) (a : α) : Checked (List α) :=
  if i < l.length then .ok (l.set i a) else .error .index

/-- `if condition { l[i] = a }`. -/
def assignIf (condition : Bool) (l : List α) (i : Nat) (a : α) : Checked (List α) :=
  if condition then assign l i a else .ok l

/-- `l[start..stop].fill(a)`. -/
def fill (l : List α) (start stop : Nat) (a : α) : Checked (List α) :=
  if start ≤ stop ∧ stop ≤ l.length then
    .ok (l.take start ++ List.replicate (stop - start) a ++ l.drop stop)
  else .error .index

theorem add16_ok {a b : Nat} (fits : a + b ≤ u16Max) : add16 a b = .ok (a + b) := if_pos fits

theorem sub_ok {a b : Nat} (le : b ≤ a) : sub a b = .ok (a - b) := if_pos le

theorem assign_ok {l : List α} {i : Nat} (inside : i < l.length) (a : α) : assign l i a = .ok (l.set i a) :=
  if_pos inside

theorem fill_ok {l : List α} {start stop : Nat} (order : start ≤ stop) (inside : stop ≤ l.length) (a : α) :
    fill l start stop a = .ok (l.take start ++ List.replicate (stop - start) a ++ l.drop stop) :=
  if_pos ⟨order,inside⟩

end

end Termpane
