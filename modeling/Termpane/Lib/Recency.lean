import Mathlib.Data.List.Nodup
import Mathlib.Data.List.Infix

/-!
# The most recent of a history

A list that each access brings an element to the front of, and that is cut to a bound, has
the elements accessed last: the history read backwards, without repetitions.
-/
namespace Termpane.Lib

universe u v
variable {α : Type u} [DecidableEq α]

/-! ## Without repetitions -/

theorem filter_eraseDups (p : α → Bool) (l : List α) : (l.filter p).eraseDups = l.eraseDups.filter p := by
  induction h : l.length using Nat.strongRecOn generalizing l with
  | ind n ih =>
    cases l with
    | nil => rfl
    | cons a l =>
      have shorter : (l.filter fun b => !b == a).length < n := by
        have kept := List.length_filter_le (fun b => !b == a) l
        simp at h
        omega
      have rest := ih _ shorter (l.filter fun b => !b == a) rfl
      by_cases keeps : p a = true
      · rw [List.filter_cons_of_pos keeps,List.eraseDups_cons,List.eraseDups_cons,List.filter_cons_of_pos keeps,← rest,
          List.filter_filter,List.filter_filter]
        simp only [Bool.and_comm]
      · rw [List.filter_cons_of_neg keeps,List.eraseDups_cons,List.filter_cons_of_neg keeps,← rest,List.filter_filter]
        -- what the filter keeps is no copy of `a`
        have copies : (l.filter fun b => p b && !b == a) = l.filter p := by
          apply List.filter_congr
          intro b _
          by_cases same : b = a
          · subst same; simp [keeps]
          · simp [same]
        rw [copies]

theorem nodup_eraseDups (l : List α) : l.eraseDups.Nodup := by
  induction h : l.length using Nat.strongRecOn generalizing l with
  | ind n ih =>
    cases l with
    | nil => simp
    | cons a l =>
      have kept := List.length_filter_le (fun b => !b == a) l
      rw [List.eraseDups_cons,List.nodup_cons]
      constructor
      · simp
      · apply ih (l.filter fun b => !b == a).length _ _ rfl
        simp at h
        omega

theorem eraseDups_cons_erase (a : α) (l : List α) : (a :: l).eraseDups = a :: l.eraseDups.erase a := by
  rw [List.eraseDups_cons,filter_eraseDups,(nodup_eraseDups l).erase_eq_filter]
  rfl

/-- The first element with a property is no repetition. -/
theorem find?_eraseDups (p : α → Bool) (l : List α) : l.eraseDups.find? p = l.find? p := by
  rw [← List.head?_filter,← List.head?_filter,← filter_eraseDups]
  cases l.filter p with
  | nil => rfl
  | cons a l => rw [List.eraseDups_cons]; rfl

/-! ## Bounded lists -/

/-- The list after an access, cut to its bound. -/
def access (n : Nat) (l : List α) (a : α) : List α := (a :: l.erase a).take n

theorem access_of_mem {n : Nat} {l : List α} {a : α} (known : a ∈ l) (bounded : l.length ≤ n) : access n l a = a :: l.erase a := by
  have some := List.length_pos_of_mem known
  apply List.take_of_length_le
  rw [List.length_cons,List.length_erase_of_mem known]
  omega

theorem access_of_not_mem {n : Nat} {l : List α} {a : α} (unknown : a ∉ l) : access (n + 1) l a = a :: l.take n := by
  rw [access,List.erase_of_not_mem unknown,List.take_succ_cons]

/-- What the bound cut off before makes no difference. -/
theorem access_take (n : Nat) (l : List α) (a : α) : access n (l.take n) a = access n l a := by
  cases n with
  | zero => simp [access]
  | succ n =>
    have rest : ((l.take (n + 1)).erase a).take n = (l.erase a).take n := by
      by_cases near : a ∈ l.take (n + 1)
      · have split : l.erase a = (l.take (n + 1)).erase a ++ l.drop (n + 1) := by
          conv_lhs => rw [← List.take_append_drop (n + 1) l]
          exact List.erase_append_left _ near
        by_cases long : n + 1 ≤ l.length
        · rw [split,List.take_append_of_le_length]
          rw [List.length_erase_of_mem near,List.length_take]
          omega
        · rw [split,List.drop_of_length_le (by omega),List.append_nil]
      · have split : l.erase a = l.take (n + 1) ++ (l.drop (n + 1)).erase a := by
          conv_lhs => rw [← List.take_append_drop (n + 1) l]
          exact List.erase_append_right _ near
        rw [List.erase_of_not_mem near,split]
        by_cases long : n + 1 ≤ l.length
        · rw [List.take_append_of_le_length]
          rw [List.length_take]
          omega
        · rw [List.drop_of_length_le (by omega),List.erase_nil,List.append_nil]
    rw [access,access,List.take_succ_cons,List.take_succ_cons,rest]

/-- The most recent of a history, one access more. -/
theorem access_recent (n : Nat) (history : List α) (a : α) :
    access n (history.reverse.eraseDups.take n) a = (history ++ [a]).reverse.eraseDups.take n := by
  rw [access_take,List.reverse_append,List.reverse_singleton,List.singleton_append,eraseDups_cons_erase]
  rfl

section
variable {β : Type v} [DecidableEq β] {f : α → β}

/-- An access seen through a function that tells the elements apart. -/
theorem map_access (n : Nat) {l : List α} {a : α} (apart : ∀ b ∈ l, f b = f a → b = a) :
    (access n l a).map f = access n (l.map f) (f a) := by
  have erased : (l.erase a).map f = (l.map f).erase (f a) := by
    induction l with
    | nil => rfl
    | cons b l ih =>
      have later := ih fun c inside => apart c (List.mem_cons_of_mem b inside)
      by_cases same : b = a
      · subst same; simp
      · have other : f b ≠ f a := fun same' => same (apart b List.mem_cons_self same')
        rw [List.erase_cons_tail (by simpa using same),List.map_cons,List.map_cons,List.erase_cons_tail (by simpa using other),later]
  rw [access,access,List.map_take,List.map_cons,erased]

end

end Termpane.Lib
