import Mathlib.Algebra.Order.Ring.Int
import Mathlib.Data.List.Basic
import Mathlib.Data.List.Induction

/-!
# Runs of a machine that can fail

A step that may fail is a function into `Except`; a run is `List.foldlM`. The
rules here carry a property of one step to every run: invariants and the errors a
run can end in, invariants under a condition on the steps taken, and two
runs that look the same.
-/
namespace Termpane.Lib

universe u v w
variable {σ : Type u} {τ : Type u} {α : Type v} {ε : Type w}

theorem bind_ok_iff {β γ : Type u} {x : Except ε β} {f : β → Except ε γ} {c : γ} :
    (x >>= f) = .ok c ↔ ∃ b, x = .ok b ∧ f b = .ok c := by
  cases x with
  | error e => exact ⟨fun h => (nomatch h),fun ⟨_,h,_⟩ => (nomatch h)⟩
  | ok b => exact ⟨fun h => ⟨b,rfl,h⟩,fun ⟨b',same,h⟩ => by cases same; exact h⟩

@[simp] theorem ok_bind {β γ : Type u} (b : β) (f : β → Except ε γ) : ((.ok b : Except ε β) >>= f) = f b := rfl

@[simp] theorem error_bind {β γ : Type u} (e : ε) (f : β → Except ε γ) :
    ((.error e : Except ε β) >>= f) = .error e := rfl

@[simp] theorem bind_ok {β : Type u} (x : Except ε β) : (x >>= fun b => .ok b) = x := by cases x <;> rfl

@[simp] theorem map_ok {β γ : Type u} (f : β → γ) (b : β) : f <$> (.ok b : Except ε β) = .ok (f b) := rfl

@[simp] theorem pure_ok {β : Type u} (b : β) : (pure b : Except ε β) = .ok b := rfl

/-- How a computation ends: what it returns, or else the error it ends in. -/
def Ends {β : Type u} (Q : β → Prop) (Allowed : ε → Prop) : Except ε β → Prop
  | .ok b => Q b
  | .error e => Allowed e

section
variable {β γ : Type u} {Q : β → Prop} {Allowed : ε → Prop}

@[simp] theorem ends_ok {b : β} : Ends Q Allowed (.ok b : Except ε β) ↔ Q b := Iff.rfl

@[simp] theorem ends_error {e : ε} : Ends Q Allowed (.error e : Except ε β) ↔ Allowed e := Iff.rfl

theorem ends_trivial (x : Except ε β) : Ends (fun _ => True) (fun _ => True) x := by cases x <;> trivial

theorem Ends.and {Q' : β → Prop} {Allowed' : ε → Prop} {x : Except ε β} (left : Ends Q Allowed x) (right : Ends Q' Allowed' x) :
    Ends (fun b => Q b ∧ Q' b) (fun e => Allowed e ∧ Allowed' e) x := by
  cases x with
  | error e => exact ⟨left,right⟩
  | ok b => exact ⟨left,right⟩

theorem Ends.mono {Q' : β → Prop} {x : Except ε β} (ends : Ends Q Allowed x) (imp : ∀ b, Q b → Q' b) :
    Ends Q' Allowed x := by
  cases x with
  | error e => exact ends
  | ok b => exact imp b ends

theorem Ends.allow {Allowed' : ε → Prop} {x : Except ε β} (ends : Ends Q Allowed x) (imp : ∀ e, Allowed e → Allowed' e) :
    Ends Q Allowed' x := by
  cases x with
  | error e => exact imp e ends
  | ok b => exact ends

theorem Ends.bind {Q' : γ → Prop} {x : Except ε β} {f : β → Except ε γ} (ends : Ends Q Allowed x)
    (next : ∀ b, Q b → Ends Q' Allowed (f b)) : Ends Q' Allowed (x >>= f) := by
  cases x with
  | error e => exact ends
  | ok b => exact next b ends

theorem Ends.of_ok {x : Except ε β} (ends : Ends Q Allowed x) {b : β} (same : x = .ok b) : Q b := by
  rw [same] at ends; exact ends

theorem Ends.of_error {x : Except ε β} (ends : Ends Q Allowed x) {e : ε} (same : x = .error e) : Allowed e := by
  rw [same] at ends; exact ends

end

/-- What each step keeps, or ends in an allowed error from, every run does. -/
theorem run_ends {step : σ → α → Except ε σ} {Inv : σ → Prop} {Allowed : ε → Prop} {l : List α}
    (steps : ∀ a ∈ l, ∀ s, Inv s → Ends Inv Allowed (step s a)) {s : σ} (holds : Inv s) :
    Ends Inv Allowed (l.foldlM step s) := by
  induction l generalizing s with
  | nil => exact holds
  | cons a l ih =>
    rw [List.foldlM_cons]
    exact (steps a List.mem_cons_self s holds).bind fun t holds' =>
      ih (fun b inside => steps b (List.mem_cons_of_mem a inside)) holds'

/-- Every step of a run meets a condition on the state it starts in. -/
def StepsMeet (step : σ → α → Except ε σ) (Meets : σ → α → Prop) : σ → List α → Prop
  | _, [] => True
  | s, a :: l => Meets s a ∧ ∀ t, step s a = .ok t → StepsMeet step Meets t l

instance decidableStepsMeet {step : σ → α → Except ε σ} {Meets : σ → α → Prop} [∀ s a, Decidable (Meets s a)] :
    ∀ (l : List α) (s : σ), Decidable (StepsMeet step Meets s l)
  | [], _ => isTrue trivial
  | a :: l, s =>
    match taken : step s a with
    | .error _ => decidable_of_iff (Meets s a) ⟨fun meets => ⟨meets,fun _ ok => nomatch taken.symm.trans ok⟩,And.left⟩
    | .ok t =>
      have : Decidable (StepsMeet step Meets t l) := decidableStepsMeet l t
      decidable_of_iff (Meets s a ∧ StepsMeet step Meets t l)
        ⟨fun both => ⟨both.1,fun _ ok => Except.ok.inj (taken.symm.trans ok) ▸ both.2⟩,fun meets => ⟨meets.1,meets.2 t taken⟩⟩

theorem StepsMeet.mono {step : σ → α → Except ε σ} {Meets Meets' : σ → α → Prop} {l : List α} {s : σ}
    (meets : StepsMeet step Meets s l) (imp : ∀ s, ∀ a ∈ l, Meets s a → Meets' s a) : StepsMeet step Meets' s l := by
  induction l generalizing s with
  | nil => trivial
  | cons a l ih =>
    exact ⟨imp s a List.mem_cons_self meets.1,fun t taken =>
      ih (meets.2 t taken) fun s b inside => imp s b (List.mem_cons_of_mem a inside)⟩

/-- What is known of the states a run visits may be used. -/
theorem StepsMeet.imp {step : σ → α → Except ε σ} {Visits Meets Meets' : σ → α → Prop} {l : List α} {s : σ}
    (visits : StepsMeet step Visits s l) (meets : StepsMeet step Meets s l)
    (imp : ∀ s a, Visits s a → Meets s a → Meets' s a) : StepsMeet step Meets' s l := by
  induction l generalizing s with
  | nil => trivial
  | cons a l ih => exact ⟨imp s a visits.1 meets.1,fun t taken => ih (visits.2 t taken) (meets.2 t taken)⟩

theorem StepsMeet.of_all {step : σ → α → Except ε σ} {Meets : σ → α → Prop} {l : List α}
    (all : ∀ a ∈ l, ∀ s, Meets s a) (s : σ) : StepsMeet step Meets s l := by
  induction l generalizing s with
  | nil => trivial
  | cons a l ih => exact ⟨all a List.mem_cons_self s,fun t _ => ih (fun b inside => all b (List.mem_cons_of_mem a inside)) t⟩

theorem StepsMeet.map {β : Type v} {step : σ → β → Except ε σ} {f : α → β} {Meets : σ → β → Prop} {l : List α} {s : σ}
    (meets : StepsMeet (fun s a => step s (f a)) (fun s a => Meets s (f a)) s l) : StepsMeet step Meets s (l.map f) := by
  induction l generalizing s with
  | nil => trivial
  | cons a l ih => exact ⟨meets.1,fun t taken => ih (meets.2 t taken)⟩

/-- A condition on steps, read off the splits of a run. -/
theorem stepsMeet_iff {σ : Type} {step : σ → α → Except ε σ} {Meets : σ → α → Prop} {l : List α} {s : σ} :
    StepsMeet step Meets s l ↔ ∀ before a after t, l = before ++ a :: after → before.foldlM step s = .ok t → Meets t a := by
  induction l generalizing s with
  | nil => exact iff_of_true trivial fun before a after t split => by simp at split
  | cons b l ih =>
    constructor
    · intro meets before a after t split ran
      cases before with
      | nil => cases split; cases ran; exact meets.1
      | cons c before =>
        obtain ⟨rfl,rfl⟩ := List.cons.inj split
        rw [List.foldlM_cons] at ran
        obtain ⟨u,taken,later⟩ := bind_ok_iff.mp ran
        exact ih.mp (meets.2 u taken) before a after t rfl later
    · intro all
      refine ⟨all [] b l s rfl rfl,fun u taken => ih.mpr fun before a after t split ran => ?_⟩
      exact all (b :: before) a after t (by rw [split]; rfl) (by rw [List.foldlM_cons,taken]; exact ran)

theorem stepsMeet_append {σ : Type} {step : σ → α → Except ε σ} {Meets : σ → α → Prop} {before after : List α} {s : σ} :
    StepsMeet step Meets s (before ++ after) ↔
      StepsMeet step Meets s before ∧ ∀ t, before.foldlM step s = .ok t → StepsMeet step Meets t after := by
  induction before generalizing s with
  | nil =>
    refine ⟨fun meets => ⟨trivial,fun t same => ?_⟩,fun both => both.2 s rfl⟩
    cases same
    exact meets
  | cons a before ih =>
    constructor
    · rintro ⟨meets,rest⟩
      refine ⟨⟨meets,fun t taken => (ih.mp (rest t taken)).1⟩,fun u ran => ?_⟩
      rw [List.foldlM_cons] at ran
      obtain ⟨t,taken,later⟩ := bind_ok_iff.mp ran
      exact (ih.mp (rest t taken)).2 u later
    · rintro ⟨⟨meets,rest⟩,later⟩
      refine ⟨meets,fun t taken => ih.mpr ⟨rest t taken,fun u ran => later u ?_⟩⟩
      rw [List.foldlM_cons,taken]
      exact ran

/-- A run ends well exactly if each of its steps meets the condition on which one does. -/
theorem run_ok_iff {σ : Type} {step : σ → α → Except ε σ} {Visits Meets : σ → α → Prop} {l : List α} {s : σ}
    (visits : StepsMeet step Visits s l) (steps : ∀ s a, Visits s a → ((∃ t, step s a = .ok t) ↔ Meets s a)) :
    (∃ t, l.foldlM step s = .ok t) ↔ StepsMeet step Meets s l := by
  induction l generalizing s with
  | nil => exact iff_of_true ⟨s,rfl⟩ trivial
  | cons a l ih =>
    constructor
    · rintro ⟨t,ran⟩
      rw [List.foldlM_cons] at ran
      obtain ⟨u,taken,rest⟩ := bind_ok_iff.mp ran
      refine ⟨(steps s a visits.1).mp ⟨u,taken⟩,fun u' taken' => ?_⟩
      cases taken.symm.trans taken'
      exact (ih (visits.2 u taken)).mp ⟨t,rest⟩
    · rintro ⟨meets,rest⟩
      obtain ⟨u,taken⟩ := (steps s a visits.1).mpr meets
      rw [List.foldlM_cons,taken]
      exact (ih (visits.2 u taken)).mpr (rest u taken)

/-- What the steps that meet a condition keep is known wherever one is taken. -/
theorem StepsMeet.invariant {step : σ → α → Except ε σ} {Meets : σ → α → Prop} {Inv : σ → Prop}
    (keeps : ∀ s a t, Inv s → Meets s a → step s a = .ok t → Inv t) {l : List α} {s : σ}
    (meets : StepsMeet step Meets s l) (inv : Inv s) : StepsMeet step (fun s a => Inv s ∧ Meets s a) s l := by
  induction l generalizing s with
  | nil => trivial
  | cons a l ih => exact ⟨⟨inv,meets.1⟩,fun t taken => ih (meets.2 t taken) (keeps s a t inv meets.1 taken)⟩

/-- What each step that meets the condition keeps, every run whose steps all meet
    it does. -/
theorem run_ends_of_meets {step : σ → α → Except ε σ} {Meets : σ → α → Prop} {Inv : σ → Prop} {Allowed : ε → Prop}
    (steps : ∀ s a, Meets s a → Inv s → Ends Inv Allowed (step s a)) {l : List α} {s : σ}
    (meets : StepsMeet step Meets s l) (holds : Inv s) : Ends Inv Allowed (l.foldlM step s) := by
  induction l generalizing s with
  | nil => exact holds
  | cons a l ih =>
    rw [List.foldlM_cons]
    cases taken : step s a with
    | error e => exact (steps s a meets.1 holds).of_error taken
    | ok t => exact ih (meets.2 t taken) ((steps s a meets.1 holds).of_ok taken)

/-- A reading that each step moves as its action says is moved so by the actions of a run. -/
theorem run_reading {ρ : Type*} {step : σ → α → Except ε σ} {reading : σ → ρ} {move : ρ → α → ρ} {l : List α} {s t : σ}
    (steps : StepsMeet step (fun s a => ∀ t, step s a = .ok t → reading t = move (reading s) a) s l)
    (ran : l.foldlM step s = .ok t) : reading t = l.foldl move (reading s) := by
  induction l generalizing s with
  | nil =>
    cases ran
    rfl
  | cons a l ih =>
    rw [List.foldlM_cons] at ran
    cases taken : step s a with
    | error e =>
      rw [taken] at ran
      cases ran
    | ok u =>
      rw [taken] at ran
      rw [List.foldl_cons,← steps.1 u taken]
      exact ih (steps.2 u taken) ran

theorem StepsMeet.keeps {step : σ → α → Except ε σ} {Meets : σ → α → Prop} {Inv : σ → Prop}
    (keeps : ∀ s a t, Inv s → Meets s a → step s a = .ok t → Inv t) {l : List α} {s t : σ} (meets : StepsMeet step Meets s l)
    (inv : Inv s) (ran : l.foldlM step s = .ok t) : Inv t := by
  have ends : Ends Inv (fun _ => True) (l.foldlM step s) := by
    refine run_ends_of_meets (fun s a met inv => ?_) meets inv
    cases taken : step s a with
    | error e => trivial
    | ok t => exact keeps s a t inv met taken
  exact ends.of_ok ran

/-- A rank that no step raises and some lower bounds how many of those a run takes. -/
theorem run_spends {step : σ → α → Except ε σ} (rank : σ → Nat) (spends : α → Bool) {l : List α} {s t : σ}
    (steps : StepsMeet step (fun s a => ∀ t, step s a = .ok t → rank t + (spends a).toNat ≤ rank s) s l)
    (ran : l.foldlM step s = .ok t) : l.countP spends + rank t ≤ rank s := by
  induction l generalizing s with
  | nil =>
    cases ran
    exact Nat.le_of_eq (Nat.zero_add _)
  | cons a l ih =>
    rw [List.foldlM_cons] at ran
    obtain ⟨u,taken,rest⟩ := bind_ok_iff.mp ran
    have first := steps.1 u taken
    have later := ih (steps.2 u taken) rest
    rw [List.countP_cons]
    cases kind : spends a with
    | false =>
      rw [kind,Bool.toNat_false] at first
      rw [if_neg Bool.false_ne_true]
      omega
    | true =>
      rw [kind,Bool.toNat_true] at first
      rw [if_pos rfl]
      omega

/-- A reading that no step changes, exactly if the step meets a condition, is the same
    all along a run exactly if all its steps meet it. -/
theorem run_keeps_iff {σ : Type} {ρ : Type u} {step : σ → α → Except ε σ} {reading : σ → ρ} {Meets : σ → α → Prop} {l : List α}
    (steps : ∀ a ∈ l, ∀ s, Ends (fun t => reading t = reading s ↔ Meets s a) (fun _ => Meets s a) (step s a)) (s : σ) :
    (∀ before after t, l = before ++ after → before.foldlM step s = .ok t → reading t = reading s) ↔ StepsMeet step Meets s l := by
  induction l generalizing s with
  | nil =>
    refine iff_of_true (fun before after t split ran => ?_) trivial
    rw [(List.append_eq_nil_iff.mp split.symm).1] at ran
    cases ran
    rfl
  | cons a l ih =>
    have first := steps a List.mem_cons_self s
    have rest := ih fun b inside => steps b (List.mem_cons_of_mem a inside)
    constructor
    · intro keeps
      cases taken : step s a with
      | error e => exact ⟨first.of_error taken,fun t ok => nomatch taken.symm.trans ok⟩
      | ok t =>
        have one : [a].foldlM step s = .ok t := by rw [List.foldlM_cons,taken]; rfl
        have same := keeps [a] l t rfl one
        refine ⟨(first.of_ok taken).mp same,fun t' taken' => ?_⟩
        cases taken.symm.trans taken'
        refine (rest t).mp fun before after u split ran => ?_
        have longer : (a :: before).foldlM step s = .ok u := by rw [List.foldlM_cons,taken]; exact ran
        exact (keeps (a :: before) after u (by rw [split]; rfl) longer).trans same.symm
    · intro meets before after u split ran
      cases before with
      | nil => cases ran; rfl
      | cons b before =>
        obtain ⟨rfl,rfl⟩ := List.cons.inj split
        rw [List.foldlM_cons] at ran
        obtain ⟨t,taken,later⟩ := bind_ok_iff.mp ran
        have same := (first.of_ok taken).mpr meets.1
        exact ((rest t).mpr (meets.2 t taken) before after u rfl later).trans same

/-- What holds in every state a run visits is exactly that all its steps meet a
    condition, when such steps keep it with an invariant and any other breaks it. -/
theorem run_always_iff {σ : Type} {step : σ → α → Except ε σ} {Meets : σ → α → Prop} (Inv Holds : σ → Prop)
    (holds : ∀ s, Inv s → Holds s) (keeps : ∀ s a, Inv s → Meets s a → Ends Inv (fun _ => True) (step s a))
    (breaks : ∀ s a, Inv s → ¬ Meets s a → ∃ t, step s a = .ok t ∧ ¬ Holds t) (l : List α) {s : σ} (inv : Inv s) :
    (∀ before after t, l = before ++ after → before.foldlM step s = .ok t → Holds t) ↔ StepsMeet step Meets s l := by
  induction l generalizing s with
  | nil =>
    refine iff_of_true (fun before after t split ran => ?_) trivial
    rw [(List.append_eq_nil_iff.mp split.symm).1] at ran
    cases ran
    exact holds s inv
  | cons a l ih =>
    constructor
    · intro always
      have meets : Meets s a := by
        by_contra fails
        obtain ⟨t,taken,broken⟩ := breaks s a inv fails
        exact broken (always [a] l t rfl (by rw [List.foldlM_cons,taken]; rfl))
      refine ⟨meets,fun t taken => (ih ((keeps s a inv meets).of_ok taken)).mp fun before after u split ran => ?_⟩
      exact always (a :: before) after u (by rw [split]; rfl) (by rw [List.foldlM_cons,taken]; exact ran)
    · intro meets before after u split ran
      cases before with
      | nil => cases ran; exact holds s inv
      | cons b before =>
        obtain ⟨rfl,rfl⟩ := List.cons.inj split
        rw [List.foldlM_cons] at ran
        obtain ⟨t,taken,later⟩ := bind_ok_iff.mp ran
        exact (ih ((keeps s a inv meets.1).of_ok taken)).mpr (meets.2 t taken) before after u rfl later

/-- What holds in every state of a run that ends well is exactly that its steps meet a
    condition, when a step from where it holds keeps it exactly then. -/
theorem run_always_iff_of_ran {σ : Type} {step : σ → α → Except ε σ} {Meets : σ → α → Prop} (Inv : σ → Prop) {Holds : σ → Prop}
    (keeps : ∀ s a t, Inv s → step s a = .ok t → Inv t)
    (step_iff : ∀ s a t, Inv s → Holds s → step s a = .ok t → (Holds t ↔ Meets s a)) {l : List α} {s t : σ} (inv : Inv s)
    (holds : Holds s) (whole : l.foldlM step s = .ok t) :
    (∀ before after t, l = before ++ after → before.foldlM step s = .ok t → Holds t) ↔ StepsMeet step Meets s l := by
  induction l generalizing s with
  | nil =>
    refine iff_of_true (fun before after t split ran => ?_) trivial
    rw [(List.append_eq_nil_iff.mp split.symm).1] at ran
    cases ran
    exact holds
  | cons a l ih =>
    rw [List.foldlM_cons] at whole
    obtain ⟨u,taken,rest⟩ := bind_ok_iff.mp whole
    have one : [a].foldlM step s = .ok u := by rw [List.foldlM_cons,taken]; rfl
    constructor
    · intro always
      have next := always [a] l u rfl one
      refine ⟨(step_iff s a u inv holds taken).mp next,fun u' taken' => ?_⟩
      cases taken.symm.trans taken'
      refine (ih (keeps s a u inv taken) next rest).mp fun before after v split ran => ?_
      exact always (a :: before) after v (by rw [split]; rfl) (by rw [List.foldlM_cons,taken]; exact ran)
    · intro meets before after v split ran
      cases before with
      | nil => cases ran; exact holds
      | cons b before =>
        obtain ⟨rfl,rfl⟩ := List.cons.inj split
        rw [List.foldlM_cons,taken] at ran
        have next := (step_iff s a u inv holds taken).mpr meets.1
        exact (ih (keeps s a u inv taken) next rest).mpr (meets.2 u taken) before after v rfl ran

/-- A list has no element of a kind, or else a last one. -/
theorem none_or_last (p : α → Bool) (l : List α) :
    (∀ a ∈ l, p a = false) ∨ ∃ before a after, l = before ++ a :: after ∧ p a = true ∧ ∀ b ∈ after, p b = false := by
  induction l with
  | nil => exact .inl fun _ inside => nomatch inside
  | cons a l ih =>
    rcases ih with none | ⟨before,b,after,rfl,holds,none⟩
    · cases kind : p a with
      | false =>
        refine .inl fun b inside => ?_
        rcases List.mem_cons.mp inside with rfl | inside
        · exact kind
        · exact none b inside
      | true => exact .inr ⟨[],a,l,rfl,kind,none⟩
    · exact .inr ⟨a :: before,b,after,rfl,holds,none⟩

/-- What an observer of a run has noted at its end, who notes each step by the
    state it is taken in. -/
def noted (step : σ → α → Except ε σ) (note : σ → α → τ → τ) : σ → List α → τ → τ
  | _, [], t => t
  | s, a :: l, t =>
    match step s a with
    | .ok s' => noted step note s' l (note s a t)
    | .error _ => t

theorem noted_cons {step : σ → α → Except ε σ} {note : σ → α → τ → τ} {s s' : σ} {a : α} (taken : step s a = .ok s')
    (l : List α) (t : τ) : noted step note s (a :: l) t = noted step note s' l (note s a t) := by
  simp only [noted,taken]

theorem noted_map {β : Type v} {step : σ → β → Except ε σ} {note : σ → β → τ → τ} (f : α → β) (l : List α) (s : σ) (t : τ) :
    noted step note s (l.map f) t = noted (fun s a => step s (f a)) (fun s a => note s (f a)) s l t := by
  induction l generalizing s t with
  | nil => rfl
  | cons a l ih =>
    simp only [List.map_cons,noted]
    split
    · exact ih _ _
    · rfl

/-- An observer who does not look at the states notes the steps alone. -/
theorem noted_foldl {step : σ → α → Except ε σ} {note : α → τ → τ} {l : List α} {s s' : σ} (ran : l.foldlM step s = .ok s')
    (t : τ) : noted step (fun _ a t => note a t) s l t = l.foldl (fun t a => note a t) t := by
  induction l generalizing s t with
  | nil => rfl
  | cons a l ih =>
    rw [List.foldlM_cons] at ran
    obtain ⟨s₁,taken,rest⟩ := bind_ok_iff.mp ran
    rw [noted_cons taken]
    exact ih rest _

/-- What steps cost adds up to nothing when no step costs anything. -/
theorem noted_cost_eq_zero {σ : Type} {step : σ → α → Except ε σ} {cost : σ → α → Nat} {l : List α} {s s' : σ}
    (ran : l.foldlM step s = .ok s') (t : Nat) :
    noted step (fun s a t => t + cost s a) s l t = 0 ↔ t = 0 ∧ StepsMeet step (fun s a => cost s a = 0) s l := by
  induction l generalizing s t with
  | nil => exact (and_iff_left trivial).symm
  | cons a l ih =>
    rw [List.foldlM_cons] at ran
    obtain ⟨s₁,taken,rest⟩ := bind_ok_iff.mp ran
    rw [noted_cons taken,ih rest]
    constructor
    · rintro ⟨none,meets⟩
      refine ⟨by omega,by omega,fun t ok => ?_⟩
      cases taken.symm.trans ok
      exact meets
    · rintro ⟨rfl,free,meets⟩
      exact ⟨by omega,meets s₁ taken⟩

/-! ## Two runs that go alike -/

section
variable {β γ δ ζ : Type u} {R : β → γ → Prop} {S : δ → ζ → Prop}

/-- Two computations that fail alike, or return what is related. -/
def Both (R : β → γ → Prop) : Except ε β → Except ε γ → Prop
  | .ok a, .ok b => R a b
  | .error e, .error e' => e = e'
  | _, _ => False

@[simp] theorem both_ok {a : β} {b : γ} : Both R (.ok a : Except ε β) (.ok b) ↔ R a b := Iff.rfl

theorem Both.bind {x : Except ε β} {y : Except ε γ} {k : β → Except ε δ} {k' : γ → Except ε ζ} (both : Both R x y)
    (next : ∀ a b, R a b → Both S (k a) (k' b)) : Both S (x >>= k) (y >>= k') := by
  cases x with
  | error e =>
    cases y with
    | error e' => exact both
    | ok b => exact both.elim
  | ok a =>
    cases y with
    | error e => exact both.elim
    | ok b => exact next a b both

/-- One computation, and what each makes of its result. -/
theorem Both.bind_same {x : Except ε β} {k : β → Except ε δ} {k' : β → Except ε ζ} (next : ∀ a, Both S (k a) (k' a)) :
    Both S (x >>= k) (x >>= k') := by
  cases x with
  | error e => exact rfl
  | ok a => exact next a

theorem Both.ite {c : Prop} [Decidable c] {x x' : Except ε β} {y y' : Except ε γ} (yes : c → Both R x y)
    (no : ¬ c → Both R x' y') : Both R (if c then x else x') (if c then y else y') := by
  split
  case isTrue holds => exact yes holds
  case isFalse fails => exact no fails

/-- What relates a computation to itself says how it ends. -/
theorem Both.ends {Q : β → Prop} {x : Except ε β} (both : Both (fun a b => a = b ∧ Q b) x x) : Ends Q (fun _ => True) x := by
  cases x with
  | error e => trivial
  | ok b => exact both.2

end

/-! ## Two runs that look the same -/

section
variable {β γ δ ζ : Type u} {φ : β → γ} {ψ : δ → ζ}

/-- Two computations that fail alike, or return what an observation cannot tell apart. -/
def SameUpTo (φ : β → γ) (x y : Except ε β) : Prop := x.map φ = y.map φ

theorem sameUpTo_iff {x y : Except ε β} : SameUpTo φ x y ↔ Both (fun a b => φ a = φ b) x y := by
  cases x with
  | error e =>
    cases y with
    | error e' => exact ⟨Except.error.inj,congrArg _⟩
    | ok b => exact iff_of_false (fun same => by cases same) id
  | ok a =>
    cases y with
    | error e => exact iff_of_false (fun same => by cases same) id
    | ok b => exact ⟨Except.ok.inj,congrArg _⟩

theorem SameUpTo.refl (x : Except ε β) : SameUpTo φ x x := rfl

theorem SameUpTo.trans {x y z : Except ε β} (left : SameUpTo φ x y) (right : SameUpTo φ y z) : SameUpTo φ x z :=
  Eq.trans left right

theorem SameUpTo.symm {x y : Except ε β} (same : SameUpTo φ x y) : SameUpTo φ y x := Eq.symm same

/-- A coarser observation of the same two computations. -/
theorem SameUpTo.map {χ : γ → δ} {x y : Except ε β} (same : SameUpTo φ x y) : SameUpTo (χ ∘ φ) x y := by
  have both := congrArg (Except.map χ) same
  cases x with
  | error e =>
    cases y with
    | error e' => exact both
    | ok b => cases same
  | ok a =>
    cases y with
    | error e => cases same
    | ok b => exact both

theorem SameUpTo.bind {x y : Except ε β} {k k' : β → Except ε δ} (same : SameUpTo φ x y)
    (next : ∀ a b, φ a = φ b → SameUpTo ψ (k a) (k' b)) : SameUpTo ψ (x >>= k) (y >>= k') :=
  sameUpTo_iff.mpr ((sameUpTo_iff.mp same).bind fun a b related => sameUpTo_iff.mp (next a b related))

/-- Both may rely on what their first parts end with. -/
theorem SameUpTo.bind_ends {P : β → Prop} {Allowed : ε → Prop} {x y : Except ε β} {k k' : β → Except ε δ} (same : SameUpTo φ x y)
    (left : Ends P Allowed x) (right : Ends P Allowed y) (next : ∀ a b, P a → P b → φ a = φ b → SameUpTo ψ (k a) (k' b)) :
    SameUpTo ψ (x >>= k) (y >>= k') := by
  cases x with
  | error e =>
    cases y with
    | error e' => cases same; rfl
    | ok b => cases same
  | ok a =>
    cases y with
    | error e => cases same
    | ok b => exact next a b left right (Except.ok.inj same)

end

/-- Runs of one list of steps from states that look the same, when no step tells
    them apart. -/
theorem run_sameUpTo {φ : σ → τ} {step : σ → α → Except ε σ}
    (steps : ∀ s t a, φ s = φ t → SameUpTo φ (step s a) (step t a)) (l : List α) {s t : σ} (same : φ s = φ t) :
    SameUpTo φ (l.foldlM step s) (l.foldlM step t) := by
  induction l generalizing s t with
  | nil => exact congrArg Except.ok same
  | cons a l ih =>
    simp only [List.foldlM_cons]
    exact (steps s t a same).bind fun _ _ => ih

/-- Two total machines in lockstep: the relation holds after a word as long as
    no step taken on the way breaks it. -/
theorem lockstep {f : σ → α → σ} {g : τ → α → τ} {R : σ → τ → Prop} {Breaks : σ → α → Prop}
    (simulates : ∀ s t a, R s t → ¬ Breaks s a → R (f s a) (g t a)) :
    ∀ (l : List α) (s : σ) (t : τ), R s t → (∀ p a, p ++ [a] <+: l → ¬ Breaks (p.foldl f s) a) →
      R (l.foldl f s) (l.foldl g t) := by
  intro l
  induction l using List.reverseRecOn with
  | nil => intro s t related _; exact related
  | append_singleton l a ih =>
    intro s t related kept
    rw [List.foldl_append,List.foldl_append]
    have before := ih s t related fun p b inside => kept p b (inside.trans (List.prefix_append _ _))
    exact simulates _ _ a before (kept l a (List.prefix_refl _))

end Termpane.Lib
