import Mathlib.Data.List.Basic
import Mathlib.Data.List.Forall2

/-!
# The newest elements of a growing list

A window of bounded length slides over a list that grows at its end. Sliding on
one element at a time shows at every moment the newest elements of the list, and
how long the window is depends on the number of elements alone.
-/
namespace Termpane.Lib

universe u v
variable {α : Type u} {limit : Nat}

/-- The last `limit` elements, or all when there are fewer. -/
def newest (limit : Nat) (l : List α) : List α := l.drop (l.length - limit)

/-- One element enters a window that holds at most `limit`, at the cost of the
    oldest when it is full. -/
def slide (limit : Nat) (w : List α) (a : α) : List α := (if w.length ≥ limit then w.tail else w) ++ [a]

@[simp] theorem newest_nil (limit : Nat) : newest limit ([] : List α) = [] := List.drop_nil

theorem length_newest (limit : Nat) (l : List α) : (newest limit l).length = min limit l.length := by
  unfold newest
  rw [List.length_drop]
  omega

theorem newest_of_short {l : List α} (short : l.length ≤ limit) : newest limit l = l := by
  unfold newest
  rw [Nat.sub_eq_zero_of_le short,List.drop_zero]

theorem slide_newest (some : 0 < limit) (l : List α) (a : α) : slide limit (newest limit l) a = newest limit (l ++ [a]) := by
  have tail : (if (newest limit l).length ≥ limit then (newest limit l).tail else newest limit l) =
      l.drop (l.length + 1 - limit) := by
    rw [length_newest]
    unfold newest
    split
    case isTrue full =>
      rw [List.tail_drop]
      congr 1
      omega
    case isFalse room =>
      congr 1
      omega
  unfold slide
  rw [tail]
  unfold newest
  rw [List.length_append,List.length_singleton,List.drop_append_of_le_length (by omega)]

/-- Elements that enter one after the other. -/
theorem foldl_slide_newest {entries : List α} (some : 0 < limit ∨ entries = []) (l : List α) :
    entries.foldl (slide limit) (newest limit l) = newest limit (l ++ entries) := by
  rcases some with some | rfl
  · induction entries generalizing l with
    | nil => rw [List.append_nil]; rfl
    | cons a entries ih =>
      rw [List.foldl_cons,slide_newest some,ih,List.append_assoc]
      rfl
  · rw [List.append_nil]
    rfl

theorem length_slide (limit : Nat) (w : List α) (a : α) : (slide limit w a).length = max w.length (min (w.length + 1) (max limit 1)) := by
  unfold slide
  rw [List.length_append,List.length_singleton]
  split
  · rw [List.length_tail]
    omega
  · omega

theorem length_le_slide (w : List α) (a : α) : w.length ≤ (slide limit w a).length := by
  rw [length_slide]
  exact Nat.le_max_left _ _

theorem length_le_foldl_slide (entries w : List α) : w.length ≤ (entries.foldl (slide limit) w).length := by
  induction entries generalizing w with
  | nil => exact Nat.le_refl _
  | cons a entries ih => exact Nat.le_trans (length_le_slide w a) (ih (slide limit w a))

/-- A shorter window stays shorter. -/
theorem foldl_slide_mono (entries : List α) {v w : List α} (shorter : v.length ≤ w.length) :
    (entries.foldl (slide limit) v).length ≤ (entries.foldl (slide limit) w).length := by
  induction entries generalizing v w with
  | nil => exact shorter
  | cons a entries ih =>
    refine ih ?_
    rw [length_slide,length_slide]
    omega

/-- A window that ends with room to spare lost nothing. -/
theorem foldl_slide_of_room {entries w : List α} (room : (entries.foldl (slide limit) w).length < limit) :
    entries.foldl (slide limit) w = w ++ entries := by
  induction entries generalizing w with
  | nil => rw [List.append_nil]; rfl
  | cons a entries ih =>
    have below : (slide limit w a).length < limit := Nat.lt_of_le_of_lt (length_le_foldl_slide entries _) room
    have same : slide limit w a = w ++ [a] := by
      have short := Nat.lt_of_le_of_lt (length_le_slide w a) below
      exact congrArg (· ++ [a]) (if_neg (Nat.not_le.mpr short))
    rw [List.foldl_cons,ih room,same,List.append_assoc]
    rfl

/-- The elements that entered last are in the window when they fit. -/
theorem suffix_newest {l entries : List α} (fits : entries.length ≤ limit) : entries <:+ newest limit (l ++ entries) := by
  unfold newest
  rw [List.drop_append]
  have none : l.length + entries.length - limit - l.length = 0 := by omega
  rw [List.length_append,none,List.drop_zero]
  exact List.suffix_append _ _

section
variable {β : Type v}

/-- Windows onto related lists, slid on. -/
theorem forall₂_slide {R : α → β → Prop} {v : List α} {w : List β} (related : List.Forall₂ R v w) {a : α} {b : β} (next : R a b) :
    List.Forall₂ R (slide limit v a) (slide limit w b) := by
  have last : List.Forall₂ R [a] [b] := .cons next .nil
  unfold slide
  rw [related.length_eq]
  split_ifs
  · exact List.rel_append (by cases related <;> first | assumption | exact .nil) last
  · exact List.rel_append related last

theorem forall₂_foldl_slide {R : α → β → Prop} {v : List α} {w : List β} (related : List.Forall₂ R v w) {l : List α} {m : List β}
    (entries : List.Forall₂ R l m) : List.Forall₂ R (l.foldl (slide limit) v) (m.foldl (slide limit) w) := by
  induction entries generalizing v w with
  | nil => exact related
  | cons next _ ih => exact ih (forall₂_slide related next)

end

end Termpane.Lib
