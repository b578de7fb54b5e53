import Mathlib.Data.List.Basic

/-!
# Merging lists

A list merges two others when it has the elements of both, each in its own order. What
leaves a queue in two ways merges what left in the one and in the other.
-/
namespace Termpane.Lib

universe u
variable {α : Type u} {l r out l' r' out' : List α}

/-- `out` has the elements of `l` and of `r`, each in order. -/
inductive Merge : List α → List α → List α → Prop
  | nil : Merge [] [] []
  | left {l r out : List α} (a : α) : Merge l r out → Merge (a :: l) r (a :: out)
  | right {l r out : List α} (a : α) : Merge l r out → Merge l (a :: r) (a :: out)

namespace Merge

theorem refl_left (l : List α) : Merge l [] l := by
  induction l with
  | nil => exact .nil
  | cons a l ih => exact .left a ih

theorem refl_right (r : List α) : Merge [] r r := by
  induction r with
  | nil => exact .nil
  | cons a r ih => exact .right a ih

theorem append (front : Merge l r out) (back : Merge l' r' out') : Merge (l ++ l') (r ++ r') (out ++ out') := by
  induction front with
  | nil => exact back
  | left a _ ih => exact .left a ih
  | right a _ ih => exact .right a ih

theorem length (merge : Merge l r out) : out.length = l.length + r.length := by
  induction merge with
  | nil => rfl
  | left a _ ih => simp only [List.length_cons,ih]; omega
  | right a _ ih => simp only [List.length_cons,ih]; omega

end Merge

end Termpane.Lib
