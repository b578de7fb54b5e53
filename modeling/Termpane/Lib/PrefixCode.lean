import Mathlib.Algebra.Order.Ring.Int
import Mathlib.Data.List.Basic

/-!
# Codes whose symbols can be read off the front

A prefix code spells symbols as non-empty words, none the start of another, so a
text is read greedily from the left. `symbols` are what can be read, `rest` is
what is left when the next symbol is missing, cut short or malformed. Reading
may stop anywhere and go on with `rest` (`rest_append`).
-/
namespace Termpane.Lib

/-- A code of non-empty words and the reader of its first symbol. -/
structure PrefixCode (α β : Type*) where
  encode : α → List β
  decode : List β → Option α
  encode_ne_nil : ∀ a, encode a ≠ []
  decode_encode : ∀ a r, decode (encode a ++ r) = some a
  encode_decode : ∀ {l a}, decode l = some a → ∃ r, l = encode a ++ r

namespace PrefixCode
variable {α β : Type*} (code : PrefixCode α β)

/-- The word of a text of symbols. -/
def spell (as : List α) : List β := as.flatMap code.encode

@[simp] theorem spell_nil : code.spell [] = [] := rfl

@[simp] theorem spell_cons (a : α) (as : List α) : code.spell (a :: as) = code.encode a ++ code.spell as := rfl

@[simp] theorem spell_append (as bs : List α) : code.spell (as ++ bs) = code.spell as ++ code.spell bs := by
  simp [spell]

/-- The symbols read from the front of a word, at most `n` of them. -/
def symbolsUpTo : Nat → List β → List α
  | 0, _ => []
  | n+1, l =>
    match code.decode l with
    | none => []
    | some a => a :: symbolsUpTo n (l.drop (code.encode a).length)

/-- All symbols that can be read from the front of a word. -/
def symbols (l : List β) : List α := code.symbolsUpTo l.length l

/-- What reading leaves. -/
def rest (l : List β) : List β := l.drop (code.spell (code.symbols l)).length

/-- A word that spells a text and nothing more. -/
def Spells (l : List β) : Prop := ∃ as, l = code.spell as

theorem decode_nil : code.decode [] = none := by
  cases read : code.decode [] with
  | none => rfl
  | some a =>
    obtain ⟨r,split⟩ := code.encode_decode read
    exact absurd (List.append_eq_nil_iff.mp split.symm).1 (code.encode_ne_nil a)

theorem encode_length_pos (a : α) : 0 < (code.encode a).length :=
  List.length_pos_iff.mpr (code.encode_ne_nil a)

theorem symbolsUpTo_spell (as : List α) {r : List β} (stuck : code.decode r = none) :
    ∀ n, (code.spell as ++ r).length ≤ n → code.symbolsUpTo n (code.spell as ++ r) = as := by
  induction as with
  | nil =>
    intro n _
    cases n with
    | zero => rfl
    | succ n => simp [symbolsUpTo,stuck]
  | cons a as ih =>
    intro n enough
    have positive := code.encode_length_pos a
    simp only [spell_cons,List.append_assoc,List.length_append] at enough ⊢
    cases n with
    | zero => omega
    | succ n =>
      simp only [symbolsUpTo,code.decode_encode,List.drop_left,List.cons.injEq,true_and]
      exact ih n (by simp only [List.length_append]; omega)

/-- Reading is determined: a word that is a text followed by something without
    a first symbol is read as that text. -/
theorem symbols_spell (as : List α) {r : List β} (stuck : code.decode r = none) :
    code.symbols (code.spell as ++ r) = as :=
  code.symbolsUpTo_spell as stuck _ (Nat.le_refl _)

theorem rest_spell (as : List α) {r : List β} (stuck : code.decode r = none) :
    code.rest (code.spell as ++ r) = r := by
  simp [rest,code.symbols_spell as stuck]

theorem spelled_stuck : ∀ n (l : List β), l.length ≤ n →
    ∃ as r, l = code.spell as ++ r ∧ code.decode r = none := by
  intro n
  induction n with
  | zero =>
    intro l short
    have empty : l = [] := List.length_eq_zero_iff.mp (by omega)
    subst empty
    exact ⟨[],[],rfl,code.decode_nil⟩
  | succ n ih =>
    intro l short
    cases read : code.decode l with
    | none => exact ⟨[],l,rfl,read⟩
    | some a =>
      obtain ⟨r,rfl⟩ := code.encode_decode read
      have positive := code.encode_length_pos a
      obtain ⟨as,r',rfl,stuck⟩ := ih r (by simp only [List.length_append] at short; omega)
      exact ⟨a :: as,r',by simp,stuck⟩

/-- A word is what was read and what was left. -/
theorem spell_symbols_append_rest (l : List β) : code.spell (code.symbols l) ++ code.rest l = l := by
  obtain ⟨as,r,rfl,stuck⟩ := code.spelled_stuck l.length l (Nat.le_refl _)
  rw [code.symbols_spell as stuck,code.rest_spell as stuck]

/-- What is left has no first symbol. -/
theorem decode_rest (l : List β) : code.decode (code.rest l) = none := by
  obtain ⟨as,r,rfl,stuck⟩ := code.spelled_stuck l.length l (Nat.le_refl _)
  rw [code.rest_spell as stuck,stuck]

theorem rest_length (l : List β) : (code.spell (code.symbols l)).length + (code.rest l).length = l.length := by
  rw [← List.length_append,code.spell_symbols_append_rest]

theorem rest_suffix (l : List β) : code.rest l <:+ l := List.drop_suffix _ _

theorem rest_spell_append (as : List α) (l : List β) : code.rest (code.spell as ++ l) = code.rest l := by
  obtain ⟨bs,r,rfl,stuck⟩ := code.spelled_stuck l.length l (Nat.le_refl _)
  rw [← List.append_assoc,← code.spell_append,code.rest_spell _ stuck,code.rest_spell _ stuck]

/-- Reading a word in two parts leaves what reading it at once leaves. -/
theorem rest_append (l m : List β) : code.rest (l ++ m) = code.rest (code.rest l ++ m) := by
  conv_lhs => rw [← code.spell_symbols_append_rest l,List.append_assoc]
  exact code.rest_spell_append _ _

theorem rest_eq_nil_iff {l : List β} : code.rest l = [] ↔ code.Spells l := by
  constructor
  · intro done
    have split := code.spell_symbols_append_rest l
    rw [done,List.append_nil] at split
    exact ⟨_,split.symm⟩
  · rintro ⟨as,rfl⟩
    have read := code.rest_spell as code.decode_nil
    rwa [List.append_nil] at read

/-- A word that can be continued to a text leaves nothing, or the start of one
    symbol; and only such words do. -/
theorem spells_extension_iff (l : List β) :
    (∃ t, code.Spells (l ++ t)) ↔
      code.rest l = [] ∨ ∃ a, code.rest l <+: code.encode a ∧ code.rest l ≠ code.encode a := by
  constructor
  · rintro ⟨t,valid⟩
    rw [← rest_eq_nil_iff,rest_append,rest_eq_nil_iff] at valid
    obtain ⟨as,split⟩ := valid
    have stuck := code.decode_rest l
    cases as with
    | nil => exact .inl (List.append_eq_nil_iff.mp split).1
    | cons a as =>
      rw [spell_cons] at split
      have long : ¬ code.encode a <+: code.rest l := by
        rintro ⟨r,same⟩
        rw [← same,code.decode_encode] at stuck
        exact absurd stuck (by simp)
      have short : code.rest l <+: code.encode a := by
        have left : code.rest l <+: code.rest l ++ t := ⟨t,rfl⟩
        have right : code.encode a <+: code.rest l ++ t := ⟨code.spell as,split.symm⟩
        rcases Nat.le_total (code.rest l).length (code.encode a).length with le | le
        · exact List.prefix_of_prefix_length_le left right le
        · exact absurd (List.prefix_of_prefix_length_le right left le) long
      exact .inr ⟨a,short,fun same => long ⟨[],by rw [List.append_nil,same]⟩⟩
  · rintro (done | ⟨a,⟨t,split⟩,_⟩)
    · exact ⟨[],by rw [List.append_nil]; exact code.rest_eq_nil_iff.mp done⟩
    · refine ⟨t,code.symbols l ++ [a],?_⟩
      conv_lhs => rw [← code.spell_symbols_append_rest l,List.append_assoc,split]
      simp

end PrefixCode

end Termpane.Lib
