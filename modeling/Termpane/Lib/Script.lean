import Termpane.Lib.Runs

/-!
# What an observer is shown of a run

Each action of a run is worth a list of cues, none where nobody sees it. If an action looks
like its cues one after the other, and no cue tells apart what looks the same, then two runs
worth the same cues look the same, however the cues are spread over actions.
-/
namespace Termpane.Lib

universe u v w

variable {σ τ : Type u} {α : Type v} {κ : Type w} {ε : Type*}

/-- Actions that look like their cues, on states of which `Inv` holds. -/
structure Cued (φ : σ → τ) (Inv : σ → Prop) (act : σ → α → Except ε σ) (cues : α → List κ) (cue : σ → κ → Except ε σ) : Prop where
  acts : ∀ s a, Inv s → Ends Inv (fun _ => True) (act s a)
  gives : ∀ s k, Inv s → Ends Inv (fun _ => True) (cue s k)
  looks : ∀ s a, Inv s → SameUpTo φ (act s a) ((cues a).foldlM cue s)
  respects : ∀ s t k, Inv s → Inv t → φ s = φ t → SameUpTo φ (cue s k) (cue t k)

namespace Cued
variable {φ : σ → τ} {Inv : σ → Prop} {act : σ → α → Except ε σ} {cues : α → List κ} {cue : σ → κ → Except ε σ}

/-- Cues from states that look the same. -/
theorem cues_alike (cued : Cued φ Inv act cues cue) (ks : List κ) {s t : σ} (left : Inv s) (right : Inv t) (same : φ s = φ t) :
    SameUpTo φ (ks.foldlM cue s) (ks.foldlM cue t) := by
  induction ks generalizing s t with
  | nil => exact congrArg Except.ok same
  | cons k ks ih =>
    rw [List.foldlM_cons,List.foldlM_cons]
    exact (cued.respects s t k left right same).bind_ends (cued.gives s k left) (cued.gives t k right)
      fun _ _ left right same => ih left right same

/-- A run looks like its cues. -/
theorem run_cues (cued : Cued φ Inv act cues cue) (run : List α) {s t : σ} (left : Inv s) (right : Inv t) (same : φ s = φ t) :
    SameUpTo φ (run.foldlM act s) ((run.flatMap cues).foldlM cue t) := by
  induction run generalizing s t with
  | nil => exact congrArg Except.ok same
  | cons a run ih =>
    rw [List.foldlM_cons,List.flatMap_cons,List.foldlM_append]
    have step : SameUpTo φ (act s a) ((cues a).foldlM cue t) := (cued.looks s a left).trans (cued.cues_alike (cues a) left right same)
    have given : Ends Inv (fun _ => True) ((cues a).foldlM cue t) := run_ends (fun k _ t holds => cued.gives t k holds) right
    exact step.bind_ends (cued.acts s a left) given fun _ _ left right same => ih left right same

/-- Two runs worth the same cues look the same. -/
theorem runs_alike (cued : Cued φ Inv act cues cue) {run run' : List α} (script : run.flatMap cues = run'.flatMap cues) {s t : σ}
    (left : Inv s) (right : Inv t) (same : φ s = φ t) : SameUpTo φ (run.foldlM act s) (run'.foldlM act t) := by
  have first := cued.run_cues run left right same
  rw [script] at first
  exact first.trans (cued.run_cues run' right right rfl).symm

end Cued

end Termpane.Lib
