import Mathlib.Algebra.BigOperators.Fin
import Mathlib.Algebra.Order.BigOperators.Group.Finset
import Mathlib.Data.Option.Basic

/-!
# Waiting on a guarded value

A value behind a mutex with one condition variable. A waiter takes the mutex and tests
what it waits for in a loop, and in between gives the mutex up and sleeps; an update
takes the mutex, writes, and may notify all sleepers, before it gives the mutex up or
after. A step is one thread's, and any may come next. If no silent update makes true what
someone waits for, nobody sleeps through it: threads left to themselves come to rest, and
then each has what it waited for or still has to wait.
-/
namespace Termpane.Lib

universe u v w

/-- How an update tells the sleepers: not at all, with the mutex held, or once it is free. -/
inductive Notice
  | silent
  | held
  | released
  deriving DecidableEq

/-- What can be waited for of a value, and what updates do to it. -/
structure Guarded (σ : Type u) (ω : Type v) (υ : Type w) where
  met : σ → ω → Bool
  apply : σ → υ → σ
  notice : σ → υ → Notice

/-- No silent update makes true what somebody waits for. -/
def Guarded.Tells {σ : Type u} {ω : Type v} {υ : Type w} (g : Guarded σ ω υ) : Prop :=
  ∀ s u w, g.notice s u = .silent → g.met s w = false → g.met (g.apply s u) w = false

/-- Where a thread is. One that sleeps arrives again once it is woken. -/
inductive Place (ω : Type v) (υ : Type w)
  | idle
  | arriving (w : ω)
  | checking (w : ω)
  | sleeping (w : ω)
  | entering (u : υ)
  | updating (u : υ)
  | notifying
  | announcing
  | leaving

/-- A turn of a thread: it is called to wait or to update, or woken without a notice,
    when its time is over or for no reason; the others are its own. -/
inductive Turn (ω : Type v) (υ : Type w)
  | wait (w : ω)
  | update (u : υ)
  | wake
  | lock
  | check (expired : Bool)
  | write
  | notify
  | unlock

/-- The turns a thread that is left to itself takes. -/
def Turn.own {ω : Type v} {υ : Type w} : Turn ω υ → Bool
  | .wait _ | .update _ | .wake => false
  | _ => true

namespace Place
variable {ω : Type v} {υ : Type w}

/-- The mutex is held here. -/
def holds : Place ω υ → Bool
  | .checking _ | .updating _ | .notifying | .leaving => true
  | _ => false

/-- A notice is on its way. -/
def tells : Place ω υ → Bool
  | .notifying | .announcing => true
  | _ => false

/-- What a notice does. -/
def woken : Place ω υ → Place ω υ
  | .sleeping w => .arriving w
  | p => p

/-- How far an update is from having told the sleepers. -/
def toTell : Place ω υ → Nat
  | .entering _ => 3
  | .updating _ => 2
  | .notifying | .announcing => 1
  | _ => 0

/-- The turns until a thread sleeps or is done, when it has nothing to tell. -/
def toRest : Place ω υ → Nat
  | .arriving _ => 2
  | .checking _ | .leaving => 1
  | _ => 0

theorem woken_holds (p : Place ω υ) : p.woken.holds = p.holds := by cases p <;> rfl

theorem woken_toTell (p : Place ω υ) : p.woken.toTell = p.toTell := by cases p <;> rfl

theorem woken_ne (p : Place ω υ) (w : ω) : p.woken ≠ .sleeping w := by cases p <;> simp [woken]

theorem toRest_le (p : Place ω υ) : p.toRest ≤ 2 := by cases p <;> simp [toRest]

end Place

structure Monitor (σ : Type u) (ω : Type v) (υ : Type w) (n : Nat) where
  value : σ
  owner : Option (Fin n) := none
  places : Fin n → Place ω υ := fun _ => .idle

namespace Monitor
variable {σ : Type u} {ω : Type v} {υ : Type w} {n : Nat}

/-- One thread moves. -/
def put (m : Monitor σ ω υ n) (i : Fin n) (p : Place ω υ) : Monitor σ ω υ n := { m with places := Function.update m.places i p }

/-- The turn of a thread, when it can be taken. -/
def step (g : Guarded σ ω υ) (m : Monitor σ ω υ n) (i : Fin n) (t : Turn ω υ) : Option (Monitor σ ω υ n) :=
  match t,m.places i with
  | .wait w,.idle => some (m.put i (.arriving w))
  | .update u,.idle => some (m.put i (.entering u))
  | .wake,.sleeping w => some (m.put i (.arriving w))
  | .lock,.arriving w => if m.owner = none then some { m.put i (.checking w) with owner := some i } else none
  | .lock,.entering u => if m.owner = none then some { m.put i (.updating u) with owner := some i } else none
  | .check expired,.checking w =>
    some { m.put i (if g.met m.value w || expired then .idle else .sleeping w) with owner := none }
  | .write,.updating u =>
    match g.notice m.value u with
    | .silent => some { m.put i .leaving with value := g.apply m.value u }
    | .held => some { m.put i .notifying with value := g.apply m.value u }
    | .released => some { m.put i .announcing with value := g.apply m.value u, owner := none }
  | .notify,.notifying => some { m with places := Function.update (fun k => (m.places k).woken) i .leaving }
  | .notify,.announcing => some { m with places := Function.update (fun k => (m.places k).woken) i .idle }
  | .unlock,.leaving => some { m.put i .idle with owner := none }
  | _,_ => none

/-- Any interleaving. -/
def run (g : Guarded σ ω υ) (m : Monitor σ ω υ n) (turns : List (Fin n × Turn ω υ)) : Option (Monitor σ ω υ n) :=
  turns.foldlM (fun m turn => m.step g turn.1 turn.2) m

/-- The mutex is held where it says, and who sleeps through what it waits for has a
    notice coming. -/
structure Safe (g : Guarded σ ω υ) (m : Monitor σ ω υ n) : Prop where
  lock : ∀ i, (m.places i).holds = true ↔ m.owner = some i
  told : ∀ i w, m.places i = .sleeping w → g.met m.value w = true → ∃ j, (m.places j).tells = true

variable {g : Guarded σ ω υ} {m m' : Monitor σ ω υ n} {i : Fin n}

theorem safe_new (value : σ) : Safe g ({ value := value } : Monitor σ ω υ n) where
  lock _ := iff_of_false Bool.false_ne_true (fun none => nomatch none)
  told _ _ idle := nomatch idle

/-- The mutex when one thread moves: the others do not hold it before or after. -/
theorem lock_update {owner : Option (Fin n)} {places : Fin n → Place ω υ} {p : Place ω υ}
    (others : ∀ k, k ≠ i → ((places k).holds = true ↔ owner = some k)) (self : p.holds = true ↔ owner = some i) (k : Fin n) :
    (Function.update places i p k).holds = true ↔ owner = some k := by
  by_cases same : k = i
  · subst same
    rw [Function.update_self]
    exact self
  · rw [Function.update_of_ne same]
    exact others k same

/-- The notices when one thread that had none to give moves. -/
theorem told_update {value : σ} {places : Fin n → Place ω υ} {p : Place ω υ} (quiet : (places i).tells = false)
    (told : ∀ k w, places k = .sleeping w → g.met value w = true → ∃ j, (places j).tells = true)
    (self : ∀ w, p = .sleeping w → g.met value w = false) (k : Fin n) (w : ω) (sleeps : Function.update places i p k = .sleeping w)
    (met : g.met value w = true) : ∃ j, (Function.update places i p j).tells = true := by
  by_cases same : k = i
  · subst same
    rw [Function.update_self] at sleeps
    exact absurd met (by rw [self w sleeps]; exact Bool.false_ne_true)
  · rw [Function.update_of_ne same] at sleeps
    obtain ⟨j,tells⟩ := told k w sleeps met
    refine ⟨j,?_⟩
    rwa [Function.update_of_ne]
    rintro rfl
    rw [quiet] at tells
    cases tells

theorem tells_update {places : Fin n → Place ω υ} {p : Place ω υ} (tells : p.tells = true) :
    ∃ j, (Function.update places i p j).tells = true := ⟨i,by rw [Function.update_self]; exact tells⟩

namespace Safe

/-- A thread that does not hold the mutex goes on without it. -/
theorem stays (safe : Safe g m) {p : Place ω υ} (outside : (m.places i).holds = false) (out : p.holds = false)
    (quiet : (m.places i).tells = false) (awake : ∀ w, p ≠ .sleeping w) : Safe g (m.put i p) where
  lock := lock_update (fun k _ => safe.lock k) (iff_of_false (by rw [out]; exact Bool.false_ne_true)
    fun mine => absurd ((safe.lock i).mpr mine) (by rw [outside]; exact Bool.false_ne_true))
  told := told_update quiet safe.told fun w sleeps => absurd sleeps (awake w)

/-- A thread takes the mutex. -/
theorem takes (safe : Safe g m) {p : Place ω υ} (free : m.owner = none) (inside : p.holds = true)
    (quiet : (m.places i).tells = false) (awake : ∀ w, p ≠ .sleeping w) : Safe g { m.put i p with owner := some i } where
  lock := lock_update (fun k other => iff_of_false (fun holds => nomatch free.symm.trans ((safe.lock k).mp holds))
    fun mine => other (Option.some.inj mine).symm) (iff_of_true inside rfl)
  told := told_update quiet safe.told fun w sleeps => absurd sleeps (awake w)

/-- The mutex when the thread that held it gives it up. -/
theorem lock_given (safe : Safe g m) {p : Place ω υ} (mine : (m.places i).holds = true) (out : p.holds = false) (k : Fin n) :
    (Function.update m.places i p k).holds = true ↔ none = some k := by
  have others (k : Fin n) (other : k ≠ i) : (m.places k).holds = true ↔ none = some k :=
    iff_of_false (fun holds => other (Option.some.inj (((safe.lock k).mp holds).symm.trans ((safe.lock i).mp mine))))
      (fun none => nomatch none)
  exact lock_update others (iff_of_false (by rw [out]; exact Bool.false_ne_true) (fun none => nomatch none)) k

/-- A write under the mutex. -/
theorem lock_kept (safe : Safe g m) {p : Place ω υ} (mine : (m.places i).holds = true) (inside : p.holds = true) (k : Fin n) :
    (Function.update m.places i p k).holds = true ↔ m.owner = some k :=
  lock_update (fun k _ => safe.lock k) (iff_of_true inside ((safe.lock i).mp mine)) k

/-- All are woken, and who told them goes on. -/
theorem notices (safe : Safe g m) {p : Place ω υ} (same : p.holds = (m.places i).holds) (awake : ∀ w, p ≠ .sleeping w) :
    Safe g { m with places := Function.update (fun k => (m.places k).woken) i p } where
  lock := lock_update (fun k _ => by rw [Place.woken_holds]; exact safe.lock k) (by rw [same]; exact safe.lock i)
  told k w sleeps := by
    have asleep : Function.update (fun k => (m.places k).woken) i p k = .sleeping w := sleeps
    by_cases self : k = i
    · subst self
      rw [Function.update_self] at asleep
      exact absurd asleep (awake w)
    · rw [Function.update_of_ne self] at asleep
      exact absurd asleep (Place.woken_ne _ w)

theorem step (tells : g.Tells) (safe : Safe g m) {t : Turn ω υ} (taken : m.step g i t = some m') : Safe g m' := by
  unfold Monitor.step at taken
  split at taken
  case h_1 w place | h_2 u place | h_3 w place =>
    cases taken
    exact safe.stays (by rw [place]; rfl) rfl (by rw [place]; rfl) (fun _ sleeps => nomatch sleeps)
  case h_4 w place | h_5 u place =>
    split at taken
    case isTrue free =>
      cases taken
      exact safe.takes free rfl (by rw [place]; rfl) (fun _ sleeps => nomatch sleeps)
    case isFalse => cases taken
  case h_6 expired w place =>
    cases taken
    refine ⟨safe.lock_given (by rw [place]; rfl) (by split <;> rfl),told_update (by rw [place]; rfl) safe.told fun w' sleeps => ?_⟩
    -- who goes to sleep found it unmet
    split at sleeps
    case isTrue => cases sleeps
    case isFalse unmet =>
      cases sleeps
      exact (Bool.or_eq_false_iff.mp (Bool.eq_false_iff.mpr unmet)).1
  case h_7 u place =>
    split at taken
    case h_1 silent =>
      cases taken
      refine ⟨safe.lock_kept (by rw [place]; rfl) rfl,told_update (by rw [place]; rfl) (fun k w sleeps met => ?_)
        (fun _ sleeps => nomatch sleeps)⟩
      -- what is met now was met before
      cases before : g.met m.value w with
      | true => exact safe.told k w sleeps before
      | false => exact absurd met (by rw [tells _ _ _ silent before]; exact Bool.false_ne_true)
    case h_2 =>
      cases taken
      exact ⟨safe.lock_kept (by rw [place]; rfl) rfl,fun _ _ _ _ => tells_update rfl⟩
    case h_3 =>
      cases taken
      exact ⟨safe.lock_given (by rw [place]; rfl) rfl,fun _ _ _ _ => tells_update rfl⟩
  case h_8 place | h_9 place =>
    cases taken
    exact safe.notices (by rw [place]; rfl) (fun _ sleeps => nomatch sleeps)
  case h_10 place =>
    cases taken
    exact ⟨safe.lock_given (by rw [place]; rfl) rfl,told_update (by rw [place]; rfl) safe.told (fun _ sleeps => nomatch sleeps)⟩
  case h_11 => cases taken

end Safe

theorem run_safe (tells : g.Tells) (safe : Safe g m) {turns : List (Fin n × Turn ω υ)} (ran : m.run g turns = some m') :
    Safe g m' := by
  induction turns generalizing m with
  | nil => cases ran; exact safe
  | cons turn turns ih =>
    obtain ⟨m₁,taken,rest⟩ := Option.bind_eq_some_iff.mp ran
    exact ih (safe.step tells taken) rest

/-! ## Threads left to themselves -/

/-- More than the turns the threads can take of their own. -/
def work (m : Monitor σ ω υ n) : Nat := (∑ k, (m.places k).toTell) * (2 * n + 1) + ∑ k, (m.places k).toRest

theorem sum_update_le {f : Place ω υ → Nat} {places : Fin n → Place ω υ} {p : Place ω υ} (le : f p ≤ f (places i)) :
    ∑ k, f (Function.update places i p k) ≤ ∑ k, f (places k) := by
  refine Finset.sum_le_sum fun k _ => ?_
  by_cases same : k = i
  · subst same
    rwa [Function.update_self]
  · rw [Function.update_of_ne same]

theorem sum_update_lt {f : Place ω υ → Nat} {places : Fin n → Place ω υ} {p : Place ω υ} (lt : f p < f (places i)) :
    ∑ k, f (Function.update places i p k) < ∑ k, f (places k) := by
  refine Finset.sum_lt_sum (fun k _ => ?_) ⟨i,Finset.mem_univ i,by rwa [Function.update_self]⟩
  by_cases same : k = i
  · subst same
    rw [Function.update_self]
    exact lt.le
  · rw [Function.update_of_ne same]

/-- An update that gets on makes up for everyone it wakes. -/
theorem work_lt_of_toTell (less : ∑ k, (m'.places k).toTell < ∑ k, (m.places k).toTell) : m'.work < m.work := by
  have rest : ∑ k, (m'.places k).toRest ≤ 2 * n := by
    have all := Finset.sum_le_card_nsmul Finset.univ (fun k => (m'.places k).toRest) 2 fun k _ => (m'.places k).toRest_le
    rwa [Finset.card_univ,Fintype.card_fin,smul_eq_mul,Nat.mul_comm] at all
  unfold work
  have more := Nat.mul_le_mul_right (2 * n + 1) less
  rw [Nat.succ_mul] at more
  omega

theorem work_lt_of_toRest (le : ∑ k, (m'.places k).toTell ≤ ∑ k, (m.places k).toTell)
    (less : ∑ k, (m'.places k).toRest < ∑ k, (m.places k).toRest) : m'.work < m.work := by
  unfold work
  have more := Nat.mul_le_mul_right (2 * n + 1) le
  omega

theorem step_work {t : Turn ω υ} (own : t.own = true) (taken : m.step g i t = some m') : m'.work < m.work := by
  unfold Monitor.step at taken
  split at taken
  case h_1 | h_2 | h_3 => cases own
  case h_4 w place =>
    split at taken
    case isTrue =>
      cases taken
      exact work_lt_of_toRest (sum_update_le (by rw [place]; rfl)) (sum_update_lt (by rw [place]; exact Nat.lt_succ_self 1))
    case isFalse => cases taken
  case h_5 u place =>
    split at taken
    case isTrue =>
      cases taken
      exact work_lt_of_toTell (sum_update_lt (by rw [place]; exact Nat.lt_succ_self 2))
    case isFalse => cases taken
  case h_6 expired w place =>
    cases taken
    refine work_lt_of_toRest (sum_update_le ?_) (sum_update_lt ?_)
    · split <;> exact Nat.zero_le _
    · rw [place]
      split <;> exact Nat.zero_lt_one
  case h_7 u place =>
    split at taken
    all_goals
      cases taken
      exact work_lt_of_toTell (sum_update_lt (by rw [place]; simp [Place.toTell]))
  case h_8 place | h_9 place =>
    cases taken
    have same : ∑ k, (m.places k).woken.toTell = ∑ k, (m.places k).toTell :=
      Finset.sum_congr rfl fun k _ => (m.places k).woken_toTell
    refine work_lt_of_toTell (lt_of_lt_of_eq (sum_update_lt ?_) same)
    rw [place]
    exact Nat.zero_lt_one
  case h_10 place =>
    cases taken
    exact work_lt_of_toRest (sum_update_le (Nat.zero_le _)) (sum_update_lt (by rw [place]; exact Nat.zero_lt_one))
  case h_11 => cases taken

/-- Threads left to themselves come to rest. -/
theorem run_work {turns : List (Fin n × Turn ω υ)} (own : ∀ turn ∈ turns, turn.2.own = true) (ran : m.run g turns = some m') :
    turns.length + m'.work ≤ m.work := by
  induction turns generalizing m with
  | nil => cases ran; exact Nat.le_of_eq (Nat.zero_add _)
  | cons turn turns ih =>
    obtain ⟨m₁,taken,rest⟩ := Option.bind_eq_some_iff.mp ran
    have first := step_work (own turn List.mem_cons_self) taken
    have later := ih (fun turn inside => own turn (List.mem_cons_of_mem _ inside)) rest
    rw [List.length_cons]
    omega

/-- No thread has a turn of its own. -/
def AtRest (g : Guarded σ ω υ) (m : Monitor σ ω υ n) : Prop := ∀ i t, t.own = true → m.step g i t = none

/-- At rest nobody is inside but those who wait for what is not so. -/
theorem Safe.at_rest (safe : Safe g m) (rest : AtRest g m) :
    m.owner = none ∧ ∀ i, m.places i = .idle ∨ ∃ w, m.places i = .sleeping w ∧ g.met m.value w = false := by
  have outside (i : Fin n) : (m.places i).holds = false ∧ (m.places i).tells = false := by
    cases place : m.places i with
    | checking w => exact absurd (rest i (.check true) rfl) (by simp [Monitor.step,place])
    | updating u =>
      refine absurd (rest i .write rfl) ?_
      cases notice : g.notice m.value u <;> simp [Monitor.step,place,notice]
    | notifying => exact absurd (rest i .notify rfl) (by simp [Monitor.step,place])
    | announcing => exact absurd (rest i .notify rfl) (by simp [Monitor.step,place])
    | leaving => exact absurd (rest i .unlock rfl) (by simp [Monitor.step,place])
    | _ => exact ⟨rfl,rfl⟩
  have free : m.owner = none := by
    cases owner : m.owner with
    | none => rfl
    | some i => exact absurd ((safe.lock i).mpr owner) (by rw [(outside i).1]; exact Bool.false_ne_true)
  refine ⟨free,fun i => ?_⟩
  cases place : m.places i with
  | idle => exact .inl rfl
  | sleeping w =>
    refine .inr ⟨w,rfl,Bool.eq_false_iff.mpr fun met => ?_⟩
    obtain ⟨j,tells⟩ := safe.told i w place met
    exact absurd tells (by rw [(outside j).2]; exact Bool.false_ne_true)
  | arriving w => exact absurd (rest i .lock rfl) (by simp [Monitor.step,place,free])
  | entering u => exact absurd (rest i .lock rfl) (by simp [Monitor.step,place,free])
  | _ =>
    have inside := (outside i).1.symm.trans (congrArg Place.holds place)
    have quiet := (outside i).2.symm.trans (congrArg Place.tells place)
    cases inside <;> cases quiet

end Monitor

end Termpane.Lib
