import Termpane.Lib.PrefixCode
import Mathlib.Data.List.TakeWhile

/-!
# Fields

A text cut at its separators, at most so many times: the last field holds the rest
with the separators left in it. Joining the fields gives the text again, and a cut
made in the word of a text is one made in the text.
-/
namespace Termpane.Lib

variable {α β : Type*}

/-- The fields of a text after at most so many cuts. -/
def fields [DecidableEq α] (separator : α) : Nat → List α → List (List α)
  | 0, text => [text]
  | cuts+1, text =>
    match text.dropWhile (· ≠ separator) with
    | [] => [text]
    | _ :: rest => text.takeWhile (· ≠ separator) :: fields separator cuts rest

section
variable [DecidableEq α] {separator : α}

theorem takeWhile_eq_iff {text : List α} : text.takeWhile (· ≠ separator) = text ↔ separator ∉ text := by
  rw [List.takeWhile_eq_self_iff]
  constructor
  · intro all inside
    simpa using all separator inside
  · intro whole a inside
    simpa using ne_of_mem_of_not_mem inside whole

/-- A text without a separator is one field. -/
theorem fields_of_notMem {text : List α} (whole : separator ∉ text) (cuts : Nat) : fields separator cuts text = [text] := by
  cases cuts with
  | zero => rfl
  | succ cuts =>
    have kept : text.dropWhile (· ≠ separator) = [] := by
      rw [List.dropWhile_eq_nil_iff]
      intro a inside
      simpa using ne_of_mem_of_not_mem inside whole
    rw [fields,kept]

private theorem takeWhile_field {field : List α} (whole : separator ∉ field) (rest : List α) :
    (field ++ separator :: rest).takeWhile (· ≠ separator) = field := by
  rw [List.takeWhile_append_of_pos fun a inside => by simpa using ne_of_mem_of_not_mem inside whole]
  simp

private theorem dropWhile_field {field : List α} (whole : separator ∉ field) (rest : List α) :
    (field ++ separator :: rest).dropWhile (· ≠ separator) = separator :: rest := by
  rw [List.dropWhile_append_of_pos fun a inside => by simpa using ne_of_mem_of_not_mem inside whole]
  simp

/-- The first field ends at the first separator. -/
theorem fields_append {field : List α} (whole : separator ∉ field) (cuts : Nat) (rest : List α) :
    fields separator (cuts + 1) (field ++ separator :: rest) = field :: fields separator cuts rest := by
  rw [fields,dropWhile_field whole,takeWhile_field whole]

/-- A text has no separator, or a first one. -/
theorem first_field (separator : α) (text : List α) :
    separator ∉ text ∨ ∃ field rest, separator ∉ field ∧ text = field ++ separator :: rest := by
  by_cases inside : separator ∈ text
  · obtain ⟨field,rest,rfl,whole⟩ := List.eq_append_cons_of_mem inside
    exact .inr ⟨field,rest,whole,rfl⟩
  · exact .inl inside

/-- The first field is the text up to its first separator. -/
theorem fields_first (separator : α) (cuts : Nat) (text : List α) :
    ∃ more, fields separator (cuts + 1) text = text.takeWhile (· ≠ separator) :: more := by
  rcases first_field separator text with whole | ⟨field,rest,whole,rfl⟩
  · rw [fields_of_notMem whole,takeWhile_eq_iff.mpr whole]
    exact ⟨[],rfl⟩
  · rw [fields_append whole,takeWhile_field whole]
    exact ⟨fields separator cuts rest,rfl⟩

theorem fields_ne_nil (separator : α) (cuts : Nat) (text : List α) : fields separator cuts text ≠ [] := by
  cases cuts with
  | zero => exact List.cons_ne_nil _ _
  | succ cuts =>
    rw [fields]
    split <;> exact List.cons_ne_nil _ _

/-- The fields joined are the text. -/
theorem intercalate_fields (separator : α) (cuts : Nat) (text : List α) :
    List.intercalate [separator] (fields separator cuts text) = text := by
  induction cuts generalizing text with
  | zero => simp [fields]
  | succ cuts ih =>
    rcases first_field separator text with whole | ⟨field,rest,whole,rfl⟩
    · rw [fields_of_notMem whole]
      simp
    · have later := ih rest
      rw [fields_append whole]
      cases split : fields separator cuts rest with
      | nil => exact absurd split (fields_ne_nil separator cuts rest)
      | cons next more =>
        rw [split] at later
        rw [List.intercalate_cons_cons,later]
        simp

end

namespace PrefixCode

variable (code : PrefixCode α β)

/-- A symbol spelled by one letter that no other symbol's word has. -/
def Alone (separator : α) (letter : β) : Prop :=
  code.encode separator = [letter] ∧ ∀ a, letter ∈ code.encode a → a = separator

variable {code} {separator : α} {letter : β}

theorem Alone.mem_spell_iff (alone : code.Alone separator letter) {text : List α} :
    letter ∈ code.spell text ↔ separator ∈ text := by
  rw [spell,List.mem_flatMap]
  constructor
  · rintro ⟨a,inside,spelled⟩
    exact alone.2 a spelled ▸ inside
  · intro inside
    exact ⟨separator,inside,by rw [alone.1]; exact List.mem_singleton_self _⟩

/-- The fields of a word are the words of the fields. -/
theorem Alone.fields_spell [DecidableEq α] [DecidableEq β] (alone : code.Alone separator letter) (cuts : Nat) (text : List α) :
    fields letter cuts (code.spell text) = (fields separator cuts text).map code.spell := by
  induction cuts generalizing text with
  | zero => rfl
  | succ cuts ih =>
    rcases first_field separator text with whole | ⟨field,rest,whole,rfl⟩
    · rw [fields_of_notMem whole,fields_of_notMem (mt alone.mem_spell_iff.mp whole)]
      rfl
    · rw [fields_append whole,code.spell_append,code.spell_cons,alone.1,List.singleton_append,
        fields_append (mt alone.mem_spell_iff.mp whole),ih,List.map_cons]

end PrefixCode

end Termpane.Lib
