import Mathlib.Data.List.Sort
import Mathlib.Order.Basic

/-!
# Binary search

The search that halves a range until one element is left and looks at that one last. In an
ascending list it ends at the element sought, or else where it belongs.
-/
namespace Termpane.Lib

universe u
variable {κ : Type u} [LinearOrder κ]

/-- The last element of the range `base..base + size` that may be the one sought. -/
def narrow (l : List κ) (key : κ) (base size : Nat) : Nat :=
  if _ : 1 < size then
    let half := size / 2
    let mid := base + half
    narrow l key (if l[mid]?.any (key < ·) then base else mid) (size - half)
  else base
termination_by size
decreasing_by omega

/-- Where an element is, or where it belongs. -/
def binarySearch (l : List κ) (key : κ) : Nat ⊕ Nat :=
  if l.length = 0 then .inr 0
  else
    let base := narrow l key 0 l.length
    match l[base]? with
    | some k => if k = key then .inl base else .inr (if k < key then base + 1 else base)
    | none => .inr base

/-- An index that separates the smaller elements from the larger ones. -/
structure Belongs (l : List κ) (key : κ) (i : Nat) : Prop where
  bound : i ≤ l.length
  before : ∀ j k, j < i → l[j]? = some k → k < key
  after : ∀ j k, i ≤ j → l[j]? = some k → key < k

variable {l : List κ} {key : κ}

theorem Belongs.unique {i j : Nat} (here : Belongs l key i) (there : Belongs l key j) : i = j := by
  have clash {i j : Nat} (here : Belongs l key i) (there : Belongs l key j) : ¬ i < j := by
    intro less
    obtain ⟨k,found⟩ : ∃ k, l[i]? = some k := ⟨_,List.getElem?_eq_getElem (less.trans_le there.bound)⟩
    exact lt_asymm (there.before i _ less found) (here.after i _ (le_refl i) found)
  exact Nat.le_antisymm (Nat.le_of_not_lt (clash there here)) (Nat.le_of_not_lt (clash here there))

/-- What belongs somewhere is not there. -/
theorem Belongs.missing {i : Nat} (belongs : Belongs l key i) (j : Nat) : l[j]? ≠ some key := by
  intro found
  rcases Nat.lt_or_ge j i with before | behind
  · exact lt_irrefl key (belongs.before j key before found)
  · exact lt_irrefl key (belongs.after j key behind found)

theorem lt_of_ascending (ascending : l.Pairwise (· < ·)) {i j : Nat} {a b : κ} (at_i : l[i]? = some a) (at_j : l[j]? = some b)
    (less : i < j) : a < b := by
  obtain ⟨_,rfl⟩ := List.getElem?_eq_some_iff.mp at_i
  obtain ⟨_,rfl⟩ := List.getElem?_eq_some_iff.mp at_j
  exact List.pairwise_iff_getElem.mp ascending i j _ _ less

theorem index_of_ascending (ascending : l.Pairwise (· < ·)) {i j : Nat} (at_i : l[i]? = some key) (at_j : l[j]? = some key) : i = j := by
  rcases Nat.lt_trichotomy i j with less | same | less
  · exact absurd (lt_of_ascending ascending at_i at_j less) (lt_irrefl key)
  · exact same
  · exact absurd (lt_of_ascending ascending at_j at_i less) (lt_irrefl key)

/-- What a range keeps as it is halved: the elements before it are smaller than the one
    sought, and those behind it larger. -/
structure Range (l : List κ) (key : κ) (base size : Nat) : Prop where
  some : 0 < size
  bound : base + size ≤ l.length
  lower : ∀ j k, j < base → l[j]? = .some k → k < key
  upper : ∀ j k, base + size ≤ j → l[j]? = .some k → key < k

/-- One half is left. -/
theorem Range.halve (ascending : l.Pairwise (· < ·)) {base size : Nat} (range : Range l key base size) (more : 1 < size) :
    Range l key (if l[base + size / 2]?.any (key < ·) then base else base + size / 2) (size - size / 2) := by
  have bound := range.bound
  have half : size / 2 < size ∧ 0 < size / 2 ∧ size / 2 ≤ size - size / 2 := by omega
  obtain ⟨mid,at_mid⟩ : ∃ mid, l[base + size / 2]? = .some mid := ⟨_,List.getElem?_eq_getElem (by omega)⟩
  rw [at_mid]
  by_cases larger : key < mid
  · simp only [Option.any_some,larger,decide_true,if_true]
    refine ⟨by omega,by omega,range.lower,?_⟩
    intro j k behind at_j
    rcases Nat.lt_or_ge (base + size / 2) j with after | here
    · exact larger.trans (lt_of_ascending ascending at_mid at_j after)
    · have same : j = base + size / 2 := by omega
      subst same
      rw [at_mid] at at_j
      exact Option.some.inj at_j ▸ larger
  · simp only [Option.any_some,larger,decide_false,Bool.false_eq_true,if_false]
    refine ⟨by omega,by omega,?_,?_⟩
    · intro j k before at_j
      exact (lt_of_ascending ascending at_j at_mid before).trans_le (not_lt.mp larger)
    · intro j k behind at_j
      exact range.upper j k (by omega) at_j

theorem Range.narrow (ascending : l.Pairwise (· < ·)) {base size : Nat} (range : Range l key base size) :
    Range l key (narrow l key base size) 1 := by
  induction size using Nat.strongRecOn generalizing base with
  | ind size ih =>
    unfold Lib.narrow
    split_ifs with more
    · exact ih _ (by omega) (range.halve ascending more)
    · have one : size = 1 := by
        have some := range.some
        omega
      exact one ▸ range

/-- What the search finds is the element sought, and where it ends without is where that
    belongs. -/
theorem binarySearch_spec (ascending : l.Pairwise (· < ·)) (key : κ) :
    (∃ i, binarySearch l key = .inl i ∧ l[i]? = some key) ∨ ∃ i, binarySearch l key = .inr i ∧ Belongs l key i := by
  unfold binarySearch
  by_cases empty : l.length = 0
  · rw [if_pos empty]
    have none (j : Nat) (k : κ) : l[j]? ≠ some k := by simp [List.eq_nil_of_length_eq_zero empty]
    exact .inr ⟨0,rfl,Nat.zero_le _,fun j k _ found => absurd found (none j k),fun j k _ found => absurd found (none j k)⟩
  · rw [if_neg empty]
    have whole : Range l key 0 l.length := by
      refine ⟨Nat.pos_of_ne_zero empty,by omega,fun j k none => absurd none (Nat.not_lt_zero j),?_⟩
      intro j k out found
      rw [List.getElem?_eq_none (by omega)] at found
      cases found
    have range := whole.narrow ascending
    generalize narrow l key 0 l.length = base at range
    obtain ⟨k,found⟩ : ∃ k, l[base]? = some k := ⟨_,List.getElem?_eq_getElem range.bound⟩
    dsimp only
    rw [found]
    dsimp only
    by_cases same : k = key
    · subst same
      rw [if_pos rfl]
      exact .inl ⟨base,rfl,found⟩
    · rw [if_neg same]
      refine .inr ⟨_,rfl,?_⟩
      by_cases smaller : k < key
      · rw [if_pos smaller]
        refine ⟨range.bound,?_,range.upper⟩
        intro j k' before at_j
        rcases Nat.lt_or_eq_of_le (Nat.le_of_lt_succ before) with less | rfl
        · exact range.lower j k' less at_j
        · rw [found] at at_j
          exact Option.some.inj at_j ▸ smaller
      · rw [if_neg smaller]
        have larger : key < k := lt_of_le_of_ne (not_lt.mp smaller) (Ne.symm same)
        refine ⟨by have bound := range.bound; omega,range.lower,?_⟩
        intro j k' behind at_j
        rcases Nat.lt_or_eq_of_le behind with less | rfl
        · exact range.upper j k' less at_j
        · rw [found] at at_j
          exact Option.some.inj at_j ▸ larger

end Termpane.Lib
