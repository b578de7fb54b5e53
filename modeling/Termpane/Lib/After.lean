import Mathlib.Data.List.Basic

/-!
# What never comes after

A log in which nothing bad stands after an entry that closes: no use after a release,
no message after the last. A machine that logs what it does keeps such a log exactly
if nothing bad is done in a closed state.
-/
namespace Termpane.Lib

universe u v w
variable {σ : Type u} {α : Type v} {β : Type w}

/-- Nothing bad stands after what closes. -/
def NoneAfter (closes bad : β → Prop) (log : List β) : Prop := log.Pairwise fun a b => closes a → ¬ bad b

section
variable {closes bad : β → Prop}

theorem noneAfter_append {left right : List β} : NoneAfter closes bad (left ++ right) ↔
    NoneAfter closes bad left ∧ NoneAfter closes bad right ∧ ((∃ a ∈ left, closes a) → ∀ b ∈ right, ¬ bad b) := by
  unfold NoneAfter
  rw [List.pairwise_append]
  refine and_congr_right fun _ => and_congr_right fun _ => ?_
  constructor
  · rintro apart ⟨a,inside,closing⟩ b later
    exact apart a inside b later closing
  · intro apart a inside b later closing
    exact apart ⟨a,inside,closing⟩ b later

theorem noneAfter_of_open {log : List β} (open' : ∀ a ∈ log, ¬ closes a) : NoneAfter closes bad log :=
  List.pairwise_iff_forall_sublist.mpr fun inside closing => absurd closing (open' _ (inside.subset List.mem_cons_self))

theorem noneAfter_of_good {log : List β} (good : ∀ b ∈ log, ¬ bad b) : NoneAfter closes bad log :=
  List.pairwise_iff_forall_sublist.mpr fun inside _ => good _ (inside.subset (by simp))

end

/-! ## Machines that log -/

section
variable (step : σ → α → σ × List β)

/-- The state after a run. -/
def reached (s : σ) (l : List α) : σ := l.foldl (fun s a => (step s a).1) s

/-- What a run logs. -/
def logged : σ → List α → List β
  | _, [] => []
  | s, a :: l => (step s a).2 ++ logged (step s a).1 l

end

variable {step : σ → α → σ × List β} {closes bad : β → Prop}

theorem reached_inv {Inv : σ → Prop} (keeps : ∀ s a, Inv s → Inv (step s a).1) (l : List α) {s : σ} (inv : Inv s) :
    Inv (reached step s l) := by
  induction l generalizing s with
  | nil => exact inv
  | cons a l ih => exact ih (keeps s a inv)

/-- From an open state a run logs nothing bad after what closes, and from a closed one
    nothing bad at all, exactly if no step taken in a closed state logs anything bad. -/
theorem noneAfter_logged_iff (Inv closed : σ → Prop) (keeps : ∀ s a, Inv s → Inv (step s a).1)
    (fine : ∀ s a, Inv s → NoneAfter closes bad (step s a).2)
    (closing : ∀ s a, Inv s → (closed (step s a).1 ↔ closed s ∨ ∃ b ∈ (step s a).2, closes b)) (l : List α) {s : σ} (inv : Inv s) :
    (NoneAfter closes bad (logged step s l) ∧ (closed s → ∀ b ∈ logged step s l, ¬ bad b)) ↔
      ∀ before a after, l = before ++ a :: after → closed (reached step s before) → ∀ b ∈ (step (reached step s before) a).2, ¬ bad b := by
  induction l generalizing s with
  | nil =>
    refine iff_of_true ⟨.nil,fun _ _ inside => absurd inside List.not_mem_nil⟩ fun before a after split => ?_
    simp at split
  | cons a l ih =>
    have rest := ih (keeps s a inv)
    rw [logged,noneAfter_append]
    constructor
    · rintro ⟨⟨_,later,apart⟩,quiet⟩ before b after split
      cases before with
      | nil =>
        obtain ⟨rfl,rfl⟩ := List.cons.inj split
        exact fun isClosed c inside => quiet isClosed c (List.mem_append_left _ inside)
      | cons c before =>
        obtain ⟨rfl,rfl⟩ := List.cons.inj split
        refine rest.mp ⟨later,fun isClosed c inside => ?_⟩ before b after rfl
        rcases (closing s a inv).mp isClosed with before | now
        · exact quiet before c (List.mem_append_right _ inside)
        · exact apart now c inside
    · intro all
      obtain ⟨later,quiet⟩ := rest.mpr fun before b after split => all (a :: before) b after (by rw [split]; rfl)
      have first : closed s → ∀ b ∈ (step s a).2, ¬ bad b := all [] a l rfl
      refine ⟨⟨fine s a inv,later,fun now => quiet ((closing s a inv).mpr (.inr now))⟩,fun isClosed b inside => ?_⟩
      rcases List.mem_append.mp inside with now | after
      · exact first isClosed b now
      · exact quiet ((closing s a inv).mpr (.inl isClosed)) b after

/-- Two machines that log alike at each call, from states that are alike. -/
theorem logged_alike {τ : Type*} {step' : τ → α → τ × List β} (Alike : σ → τ → Prop) {Meets : α → Prop}
    (alike : ∀ s t a, Alike s t → Meets a → Alike (step s a).1 (step' t a).1 ∧ (step s a).2 = (step' t a).2) {l : List α}
    (meets : ∀ a ∈ l, Meets a) {s : σ} {t : τ} (start : Alike s t) : logged step s l = logged step' t l := by
  induction l generalizing s t with
  | nil => rfl
  | cons a l ih =>
    obtain ⟨next,same⟩ := alike s t a start (meets a List.mem_cons_self)
    rw [logged,logged,same,ih (fun b inside => meets b (List.mem_cons_of_mem a inside)) next]

end Termpane.Lib
