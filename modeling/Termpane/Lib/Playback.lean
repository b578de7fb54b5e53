import Mathlib.Control.Monad.Writer
import Termpane.Lib.Runs

/-!
# Writers whose output is played

A writer appends code that a device takes token by token, and either can fail. A triple
says that the writer ends well, that what it wrote is the code of valid tokens, and where
those take the device. The rules follow the writer, so nothing has to be said of bytes.
-/
namespace Termpane.Lib

variable {ω ε α β σ κ δ : Type}

/-- A device that takes tokens, each with its code. -/
structure Device (ω σ κ δ : Type) where
  encode : κ → List ω
  Valid : κ → Prop
  exec : σ → κ → Except δ σ

namespace Device
variable (d : Device ω σ κ δ)

/-- What the writer appends takes the device from `s` to a state that `Q` holds of, with the result. -/
def Plays (x : WriterT (List ω) (Except ε) α) (s : σ) (Q : α → σ → Prop) : Prop :=
  ∃ (a : α) (tokens : List κ) (t : σ), x.run = .ok (a,tokens.flatMap d.encode) ∧ (∀ k ∈ tokens, d.Valid k) ∧
    tokens.foldlM d.exec s = .ok t ∧ Q a t

variable {d} {x : WriterT (List ω) (Except ε) α} {s : σ} {Q Q' : α → σ → Prop} {R : β → σ → Prop}

theorem Plays.mono (plays : d.Plays x s Q) (imp : ∀ a t, Q a t → Q' a t) : d.Plays x s Q' := by
  obtain ⟨a,tokens,t,ran,valid,played,holds⟩ := plays
  exact ⟨a,tokens,t,ran,valid,played,imp a t holds⟩

theorem plays_pure {a : α} (holds : Q a s) : d.Plays (pure a : WriterT (List ω) (Except ε) α) s Q :=
  ⟨a,[],s,rfl,List.forall_mem_nil _,rfl,holds⟩

theorem plays_tell {out : List ω} {Q : PUnit → σ → Prop} (tokens : List κ) (code : out = tokens.flatMap d.encode)
    (valid : ∀ k ∈ tokens, d.Valid k) {t : σ} (played : tokens.foldlM d.exec s = .ok t) (holds : Q ⟨⟩ t) :
    d.Plays (tell out : WriterT (List ω) (Except ε) PUnit) s Q := by
  subst code
  exact ⟨⟨⟩,tokens,t,rfl,valid,played,holds⟩

theorem plays_lift {step : Except ε α} {a : α} (done : step = .ok a) (holds : Q a s) :
    d.Plays (liftM step : WriterT (List ω) (Except ε) α) s Q := by
  subst done
  exact ⟨a,[],s,rfl,List.forall_mem_nil _,rfl,holds⟩

theorem Plays.bind {f : α → WriterT (List ω) (Except ε) β} (plays : d.Plays x s Q)
    (next : ∀ a t, Q a t → d.Plays (f a) t R) : d.Plays (x >>= f) s R := by
  obtain ⟨a,tokens,t,ran,valid,played,holds⟩ := plays
  obtain ⟨b,more,t',ran',valid',played',holds'⟩ := next a t holds
  refine ⟨b,tokens ++ more,t',?_,fun k inside => ?_,?_,holds'⟩
  · have split : (x >>= f).run = x.run >>= fun (a,out) => (fun (b,more) => (b,out ++ more)) <$> (f a).run := rfl
    rw [split,ran,ok_bind]
    dsimp only
    rw [ran',List.flatMap_append]
    rfl
  · rcases List.mem_append.mp inside with first | second
    · exact valid k first
    · exact valid' k second
  · rw [List.foldlM_append,played,ok_bind,played']

/-- A step of the device that needs no token. -/
theorem Plays.lift_bind {step : Except ε α} {a : α} (done : step = .ok a) {f : α → WriterT (List ω) (Except ε) β}
    (next : d.Plays (f a) s R) : d.Plays (liftM step >>= f) s R :=
  (plays_lift (Q := fun b t => b = a ∧ t = s) done ⟨rfl,rfl⟩).bind fun _ _ ⟨same,still⟩ => by
    rw [same,still]
    exact next

/-- A loop whose turns keep what is known after so many elements. -/
theorem plays_foldlM {γ : Type*} {I : Nat → β → σ → Prop} {f : β → γ → WriterT (List ω) (Except ε) β} {l : List γ}
    (turn : ∀ i (inside : i < l.length) b t, I i b t → d.Plays (f b l[i]) t (I (i + 1))) {b : β} (start : I 0 b s) :
    d.Plays (l.foldlM f b) s (I l.length) := by
  induction l generalizing I b s with
  | nil => exact plays_pure start
  | cons c l ih =>
    rw [List.foldlM_cons]
    refine (turn 0 (Nat.zero_lt_succ _) b s start).bind fun b' t kept => ?_
    exact ih (I := fun i => I (i + 1)) (fun i inside => turn (i + 1) (Nat.succ_lt_succ inside)) kept

end Device

end Termpane.Lib
