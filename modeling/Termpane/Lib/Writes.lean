import Mathlib.Control.Monad.Writer
import Termpane.Lib.Runs

/-!
# Writers that can fail

A writer whose steps can fail is a `WriterT` over `Except`. The rules here show, step by
step, that one ends well, with what is known of its result; what it writes is not looked at.
-/
namespace Termpane.Lib

universe u v
variable {ω ε α β : Type u} [EmptyCollection ω] [Append ω]

/-- A writer that does not fail, with a result that has a property. -/
def Writes (Q : α → Prop) (x : WriterT ω (Except ε) α) : Prop := ∃ a out, x.run = .ok (a,out) ∧ Q a

variable {Q : α → Prop} {R : β → Prop} {x : WriterT ω (Except ε) α}

theorem writes_pure {a : α} (holds : Q a) : Writes Q (pure a : WriterT ω (Except ε) α) := ⟨a,∅,rfl,holds⟩

omit [EmptyCollection ω] [Append ω] in
theorem writes_tell (out : ω) : Writes (fun _ => True) (tell out : WriterT ω (Except ε) PUnit) := ⟨⟨⟩,out,rfl,trivial⟩

omit [Append ω] in
theorem writes_lift {step : Except ε α} {a : α} (done : step = .ok a) :
    Writes (· = a) (liftM step : WriterT ω (Except ε) α) := by
  subst done
  exact ⟨a,∅,rfl,rfl⟩

theorem Writes.bind {f : α → WriterT ω (Except ε) β} (writes : Writes Q x) (next : ∀ a, Q a → Writes R (f a)) :
    Writes R (x >>= f) := by
  obtain ⟨a,out,ran,holds⟩ := writes
  obtain ⟨b,more,ran',holds'⟩ := next a holds
  refine ⟨b,out ++ more,?_,holds'⟩
  have split : (x >>= f).run = x.run >>= fun (a,out) => (fun (b,more) => (b,out ++ more)) <$> (f a).run := rfl
  rw [split,ran,ok_bind]
  dsimp only
  rw [ran']
  rfl

/-- A step that is taken or not, before others. -/
theorem writes_when {c : Prop} [Decidable c] {step : WriterT ω (Except ε) PUnit} {next : PUnit → WriterT ω (Except ε) β}
    (writes : Writes (fun _ => True) step) (rest : Writes R (next ⟨⟩)) : Writes R (if c then step >>= next else next ⟨⟩) := by
  split
  · exact writes.bind fun _ _ => rest
  · exact rest

/-- A loop whose turns keep what is known after so many elements. -/
theorem writes_foldlM {γ : Type v} {I : Nat → β → Prop} {f : β → γ → WriterT ω (Except ε) β} {l : List γ}
    (turn : ∀ i (inside : i < l.length) b, I i b → Writes (I (i + 1)) (f b l[i])) {b : β} (start : I 0 b) :
    Writes (I l.length) (l.foldlM f b) := by
  induction l generalizing I b with
  | nil => exact writes_pure start
  | cons c l ih =>
    rw [List.foldlM_cons]
    refine (turn 0 (Nat.zero_lt_succ _) b start).bind fun b' kept => ?_
    exact ih (I := fun i => I (i + 1)) (fun i inside => turn (i + 1) (Nat.succ_lt_succ inside)) kept

end Termpane.Lib
