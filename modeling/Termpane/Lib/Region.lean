import Mathlib.Data.List.Forall2
import Mathlib.Data.List.InsertIdx
import Mathlib.Tactic.SplitIfs

/-!
# Shifts of a region of a list

A region is the positions from `top` to `bottom`. A shift moves its elements by
some positions, drops those that leave it and fills in a blank; what is outside
stays. Taking an element out at one end and putting a blank in at the other is
a shift by one, and shifts compose.
-/
namespace Termpane.Lib

universe u v w
variable {α : Type u}

/-- The region moved towards its top by `n`. -/
def shiftUp (top bottom n : Nat) (blank : α) (l : List α) : List α :=
  l.mapIdx fun i a => if top ≤ i ∧ i ≤ bottom then (if i + n ≤ bottom then l[i + n]?.getD blank else blank) else a

/-- The region moved towards its bottom by `n`. -/
def shiftDown (top bottom n : Nat) (blank : α) (l : List α) : List α :=
  l.mapIdx fun i a => if top ≤ i ∧ i ≤ bottom then (if top + n ≤ i then l[i - n]?.getD blank else blank) else a

variable {top bottom : Nat} {l : List α}

@[simp] theorem length_shiftUp (n : Nat) (blank : α) : (shiftUp top bottom n blank l).length = l.length :=
  List.length_mapIdx

@[simp] theorem length_shiftDown (n : Nat) (blank : α) : (shiftDown top bottom n blank l).length = l.length :=
  List.length_mapIdx

theorem mem_shiftUp {n : Nat} {blank a : α} (member : a ∈ shiftUp top bottom n blank l) : a ∈ l ∨ a = blank := by
  obtain ⟨i,inside,rfl⟩ := List.mem_mapIdx.mp member
  split_ifs
  · cases found : l[i + n]? with
    | none => exact .inr rfl
    | some a => exact .inl (List.mem_of_getElem? found)
  · exact .inr rfl
  · exact .inl (List.getElem_mem inside)

theorem mem_shiftDown {n : Nat} {blank a : α} (member : a ∈ shiftDown top bottom n blank l) : a ∈ l ∨ a = blank := by
  obtain ⟨i,inside,rfl⟩ := List.mem_mapIdx.mp member
  split_ifs
  · cases found : l[i - n]? with
    | none => exact .inr rfl
    | some a => exact .inl (List.mem_of_getElem? found)
  · exact .inr rfl
  · exact .inl (List.getElem_mem inside)

theorem getElem?_shiftUp (inside : bottom < l.length) (n : Nat) (blank : α) (i : Nat) :
    (shiftUp top bottom n blank l)[i]? =
      if top ≤ i ∧ i ≤ bottom then (if i + n ≤ bottom then l[i + n]? else some blank) else l[i]? := by
  unfold shiftUp
  rw [List.getElem?_mapIdx]
  by_cases region : top ≤ i ∧ i ≤ bottom
  · rw [List.getElem?_eq_getElem (show i < l.length by omega),Option.map_some,if_pos region,if_pos region]
    split
    · rw [List.getElem?_eq_getElem (show i + n < l.length by omega)]
      rfl
    · rfl
  · rw [if_neg region]
    cases l[i]? with
    | none => rfl
    | some a => exact congrArg some (if_neg region)

theorem getElem?_shiftDown (inside : bottom < l.length) (n : Nat) (blank : α) (i : Nat) :
    (shiftDown top bottom n blank l)[i]? =
      if top ≤ i ∧ i ≤ bottom then (if top + n ≤ i then l[i - n]? else some blank) else l[i]? := by
  unfold shiftDown
  rw [List.getElem?_mapIdx]
  by_cases region : top ≤ i ∧ i ≤ bottom
  · rw [List.getElem?_eq_getElem (show i < l.length by omega),Option.map_some,if_pos region,if_pos region]
    split
    · rw [List.getElem?_eq_getElem (show i - n < l.length by omega)]
      rfl
    · rfl
  · rw [if_neg region]
    cases l[i]? with
    | none => rfl
    | some a => exact congrArg some (if_neg region)

theorem shiftUp_zero (inside : bottom < l.length) (blank : α) : shiftUp top bottom 0 blank l = l := by
  apply List.ext_getElem?
  intro i
  rw [getElem?_shiftUp inside]
  split_ifs with region within
  · rfl
  · omega
  · rfl

theorem shiftDown_zero (inside : bottom < l.length) (blank : α) : shiftDown top bottom 0 blank l = l := by
  apply List.ext_getElem?
  intro i
  rw [getElem?_shiftDown inside]
  split_ifs with region within
  · rfl
  · omega
  · rfl

/-- One more step of a shift up. -/
theorem shiftUp_shiftUp (inside : bottom < l.length) (m n : Nat) (blank : α) :
    shiftUp top bottom m blank (shiftUp top bottom n blank l) = shiftUp top bottom (n + m) blank l := by
  apply List.ext_getElem?
  intro i
  rw [getElem?_shiftUp (by rw [length_shiftUp]; exact inside),getElem?_shiftUp inside,getElem?_shiftUp inside,
    getElem?_shiftUp inside,show i + m + n = i + (n + m) by omega]
  split_ifs <;> first | rfl | omega

theorem shiftDown_shiftDown (inside : bottom < l.length) (m n : Nat) (blank : α) :
    shiftDown top bottom m blank (shiftDown top bottom n blank l) = shiftDown top bottom (n + m) blank l := by
  apply List.ext_getElem?
  intro i
  rw [getElem?_shiftDown (by rw [length_shiftDown]; exact inside),getElem?_shiftDown inside,getElem?_shiftDown inside,
    getElem?_shiftDown inside,show i - m - n = i - (n + m) by omega]
  split_ifs <;> first | rfl | omega

/-- A region that is moved by its whole height is blank. -/
theorem shiftUp_min (inside : bottom < l.length) (n : Nat) (blank : α) :
    shiftUp top bottom (min n (bottom - top + 1)) blank l = shiftUp top bottom n blank l := by
  apply List.ext_getElem?
  intro i
  rw [getElem?_shiftUp inside,getElem?_shiftUp inside]
  rcases Nat.le_total n (bottom - top + 1) with short | whole
  · rw [Nat.min_eq_left short]
  · split_ifs <;> first | rfl | omega

theorem shiftDown_min (inside : bottom < l.length) (n : Nat) (blank : α) :
    shiftDown top bottom (min n (bottom - top + 1)) blank l = shiftDown top bottom n blank l := by
  apply List.ext_getElem?
  intro i
  rw [getElem?_shiftDown inside,getElem?_shiftDown inside]
  rcases Nat.le_total n (bottom - top + 1) with short | whole
  · rw [Nat.min_eq_left short]
  · split_ifs <;> first | rfl | omega

/-- A region of one element, moved. -/
theorem shiftUp_single (inside : top < l.length) {n : Nat} (some : 0 < n) (blank : α) :
    shiftUp top top n blank l = l.set top blank := by
  apply List.ext_getElem?
  intro i
  rw [getElem?_shiftUp inside,List.getElem?_set]
  split_ifs <;> first | rfl | omega

/-- The whole list moved up by one. -/
theorem shiftUp_whole (some : l ≠ []) (blank : α) : shiftUp 0 (l.length - 1) 1 blank l = l.tail ++ [blank] := by
  have positive := List.length_pos_iff.mpr some
  apply List.ext_getElem?
  intro i
  rw [getElem?_shiftUp (by omega),List.getElem?_append,List.length_tail]
  split_ifs with region within before after
  · exact List.getElem?_tail.symm
  · omega
  · omega
  · rw [show i - (l.length - 1) = 0 by omega]
    rfl
  · omega
  · rw [List.getElem?_eq_none (by omega),List.getElem?_eq_none (by simp; omega)]

/-- The top taken out and a blank put in at the bottom. -/
theorem insertIdx_eraseIdx_top (order : top ≤ bottom) (inside : bottom < l.length) (blank : α) :
    (l.eraseIdx top).insertIdx bottom blank = shiftUp top bottom 1 blank l := by
  have erased : (l.eraseIdx top).length = l.length - 1 := List.length_eraseIdx_of_lt (by omega)
  apply List.ext_getElem?
  intro i
  rw [getElem?_shiftUp inside]
  rcases Nat.lt_trichotomy i bottom with above | rfl | below
  · rw [List.getElem?_insertIdx_of_lt above]
    by_cases region : top ≤ i
    · rw [List.getElem?_eraseIdx_of_ge region,if_pos ⟨region,Nat.le_of_lt above⟩,if_pos (by omega)]
    · rw [List.getElem?_eraseIdx_of_lt (by omega),if_neg (by omega)]
  · rw [List.getElem?_insertIdx_self,if_pos (by omega),if_pos (by omega),if_neg (by omega)]
  · rw [List.getElem?_insertIdx_of_gt below,List.getElem?_eraseIdx_of_ge (by omega),if_neg (by omega),
      show i - 1 + 1 = i by omega]

/-- The bottom taken out and a blank put in at the top. -/
theorem insertIdx_eraseIdx_bottom (order : top ≤ bottom) (inside : bottom < l.length) (blank : α) :
    (l.eraseIdx bottom).insertIdx top blank = shiftDown top bottom 1 blank l := by
  have erased : (l.eraseIdx bottom).length = l.length - 1 := List.length_eraseIdx_of_lt inside
  apply List.ext_getElem?
  intro i
  rw [getElem?_shiftDown inside]
  rcases Nat.lt_trichotomy i top with above | rfl | below
  · rw [List.getElem?_insertIdx_of_lt above,List.getElem?_eraseIdx_of_lt (by omega),if_neg (by omega)]
  · rw [List.getElem?_insertIdx_self,if_pos (by omega),if_pos (by omega),if_neg (by omega)]
  · rw [List.getElem?_insertIdx_of_gt below]
    by_cases region : i ≤ bottom
    · rw [List.getElem?_eraseIdx_of_lt (by omega),if_pos ⟨Nat.le_of_lt below,region⟩,if_pos (by omega)]
    · rw [List.getElem?_eraseIdx_of_ge (by omega),if_neg (by omega),show i - 1 + 1 = i by omega]

/-! ## Two lists, element by element -/

section
variable {β : Type v}

theorem forall₂_replicate {R : α → β → Prop} {a : α} {b : β} (related : R a b) (n : Nat) :
    List.Forall₂ R (List.replicate n a) (List.replicate n b) := by
  induction n with
  | zero => exact .nil
  | succ n ih => exact .cons related ih

theorem forall₂_replicate_left {R : α → β → Prop} {a : α} {m : List β} (each : ∀ b ∈ m, R a b) :
    List.Forall₂ R (List.replicate m.length a) m := by
  induction m with
  | nil => exact .nil
  | cons b m ih => exact .cons (each b List.mem_cons_self) (ih fun c inside => each c (List.mem_cons_of_mem b inside))

theorem forall₂_comp {γ : Type w} {R : α → β → Prop} {S : β → γ → Prop} {T : α → γ → Prop}
    (imp : ∀ a b c, R a b → S b c → T a c) {l : List α} {m : List β} {n : List γ} (left : List.Forall₂ R l m) (right : List.Forall₂ S m n) : List.Forall₂ T l n := by
  induction left generalizing n with
  | nil => cases right; exact .nil
  | cons first _ ih =>
    cases right with
    | cons second rest => exact .cons (imp _ _ _ first second) (ih rest)

theorem getD_of_forall₂ {R : α → β → Prop} {l : List α} {m : List β} (related : List.Forall₂ R l m) {a : α} {b : β}
    (blanks : R a b) (i : Nat) : R (l[i]?.getD a) (m[i]?.getD b) := by
  have length := related.length_eq
  by_cases inside : i < l.length
  · simpa [inside,length ▸ inside] using related.get inside (length ▸ inside)
  · simpa [inside,length ▸ inside] using blanks

/-- Regions of related lists, moved. -/
theorem forall₂_shiftUp {R : α → β → Prop} {l : List α} {m : List β} (related : List.Forall₂ R l m) {a : α} {b : β}
    (blanks : R a b) (n : Nat) : List.Forall₂ R (shiftUp top bottom n a l) (shiftUp top bottom n b m) := by
  refine List.forall₂_of_length_eq_of_get (by simp [related.length_eq]) fun i left right => ?_
  simp only [List.get_eq_getElem,shiftUp,List.getElem_mapIdx]
  split_ifs
  · exact getD_of_forall₂ related blanks (i + n)
  · exact blanks
  · exact related.get _ _

theorem forall₂_shiftDown {R : α → β → Prop} {l : List α} {m : List β} (related : List.Forall₂ R l m) {a : α} {b : β}
    (blanks : R a b) (n : Nat) : List.Forall₂ R (shiftDown top bottom n a l) (shiftDown top bottom n b m) := by
  refine List.forall₂_of_length_eq_of_get (by simp [related.length_eq]) fun i left right => ?_
  simp only [List.get_eq_getElem,shiftDown,List.getElem_mapIdx]
  split_ifs
  · exact getD_of_forall₂ related blanks (i - n)
  · exact blanks
  · exact related.get _ _

theorem getD_zip {l : List α} {m : List β} (length : l.length = m.length) (a : α) (b : β) (i : Nat) :
    (l.zip m)[i]?.getD (a,b) = (l[i]?.getD a,m[i]?.getD b) := by
  by_cases inside : i < l.length
  · have other : i < m.length := length ▸ inside
    rw [List.getElem?_eq_getElem (by rw [List.length_zip]; omega),List.getElem_zip]
    simp [inside,other]
  · have other : ¬ i < m.length := length ▸ inside
    rw [List.getElem?_eq_none (by simp; omega)]
    simp [inside,other]

/-- Two lists side by side, moved. -/
theorem shiftUp_zip {l : List α} {m : List β} (length : l.length = m.length) (n : Nat) (a : α) (b : β) :
    shiftUp top bottom n (a,b) (l.zip m) = (shiftUp top bottom n a l).zip (shiftUp top bottom n b m) := by
  refine List.ext_getElem (by simp) fun i left right => ?_
  simp only [shiftUp,List.getElem_mapIdx,List.getElem_zip,getD_zip length]
  split_ifs <;> rfl

theorem shiftDown_zip {l : List α} {m : List β} (length : l.length = m.length) (n : Nat) (a : α) (b : β) :
    shiftDown top bottom n (a,b) (l.zip m) = (shiftDown top bottom n a l).zip (shiftDown top bottom n b m) := by
  refine List.ext_getElem (by simp) fun i left right => ?_
  simp only [shiftDown,List.getElem_mapIdx,List.getElem_zip,getD_zip length]
  split_ifs <;> rfl

end

end Termpane.Lib
