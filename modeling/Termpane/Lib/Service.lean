import Termpane.Lib.Runs
import Mathlib.Logic.Function.Basic

/-!
# Clients of one service

Clients that share a service, each a computation that asks it now and then and may fail.
If the service keeps an invariant under which an answer depends on the request alone, no
client can tell what the others ask: whatever the order of their turns, each goes through
the states it goes through by itself.
-/
namespace Termpane.Lib

universe u v w x y z
variable {Req : Type u} {Resp : Req → Type v} {ε : Type w}

/-- A computation that asks a service and may fail. -/
inductive Program (Req : Type u) (Resp : Req → Type v) (ε : Type w) (α : Type x)
  | ret (result : Except ε α)
  | ask (q : Req) (next : Resp q → Program Req Resp ε α)

namespace Program

section
variable {α β : Type x}

protected def bind : Program Req Resp ε α → (α → Program Req Resp ε β) → Program Req Resp ε β
  | .ret (.ok a), f => f a
  | .ret (.error e), _ => .ret (.error e)
  | .ask q next, f => .ask q fun r => (next r).bind f

end

instance : Monad (Program Req Resp ε) where
  pure a := .ret (.ok a)
  bind := Program.bind

instance : MonadLift (Except ε) (Program Req Resp ε) where
  monadLift := .ret

variable {α β : Type x}

/-- What a computation ends in when `reply` answers it. -/
def answered (reply : ∀ q, Resp q) : Program Req Resp ε α → Except ε α
  | .ret result => result
  | .ask q next => (next (reply q)).answered reply

variable {reply : ∀ q, Resp q}

@[simp] theorem answered_ret (result : Except ε α) :
    (ret result : Program Req Resp ε α).answered reply = result := rfl

@[simp] theorem answered_ask (q : Req) (next : Resp q → Program Req Resp ε α) :
    (ask q next).answered reply = (next (reply q)).answered reply := rfl

@[simp] theorem answered_pure (a : α) : (pure a : Program Req Resp ε α).answered reply = .ok a := rfl

@[simp] theorem answered_lift (result : Except ε α) :
    (liftM result : Program Req Resp ε α).answered reply = result := rfl

@[simp] theorem answered_bind (p : Program Req Resp ε α) (f : α → Program Req Resp ε β) :
    (p >>= f).answered reply = p.answered reply >>= fun a => (f a).answered reply := by
  change (p.bind f).answered reply = _
  induction p with
  | ret result =>
    cases result with
    | ok a => rfl
    | error e => rfl
  | ask q next ih => exact ih (reply q)

@[simp] theorem answered_ite (c : Prop) [Decidable c] (p p' : Program Req Resp ε α) :
    (if c then p else p').answered reply = if c then p.answered reply else p'.answered reply :=
  apply_ite (answered reply) c p p'

theorem answered_foldlM (f : β → α → Program Req Resp ε β) (l : List α) (b : β) :
    (l.foldlM f b).answered reply = l.foldlM (fun b a => (f b a).answered reply) b := by
  induction l generalizing b with
  | nil => rfl
  | cons a l ih => simp only [List.foldlM_cons,answered_bind,ih]

end Program

/-! ## Clients -/

/-- A client: between two calls, in the middle of one, or stopped by one that failed. -/
inductive Client (Req : Type u) (Resp : Req → Type v) (ε : Type w) (S : Type x)
  | idle (s : S)
  | busy (p : Program Req Resp ε S)
  | failed (e : ε)

/-- What a client does next: it starts a call, goes on with one up to its next request,
    or asks for something while it is cleaned up after a failure. -/
inductive Move (Req : Type u) (C : Type y)
  | call (c : C)
  | turn
  | stray (q : Req)

variable {S : Type x} {C : Type y} {σ : Type z}

/-- What a client ends in once it is through with the call it is in. -/
def Client.outcome (reply : ∀ q, Resp q) : Client Req Resp ε S → Except ε S
  | .idle s => .ok s
  | .busy p => p.answered reply
  | .failed e => .error e

/-- A client whose call has ended. -/
def Client.ended : Except ε S → Client Req Resp ε S
  | .ok s => .idle s
  | .error e => .failed e

section
variable (serve : σ → (q : Req) → Resp q × σ) (call : S → C → Program Req Resp ε S)

/-- A move that is not one the client can make is not made. -/
def Client.move : Client Req Resp ε S → σ → Move Req C → Client Req Resp ε S × σ
  | .idle s, service, .call c => (.busy (call s c),service)
  | .busy (.ret (.ok s)), service, .turn => (.idle s,service)
  | .busy (.ret (.error e)), service, .turn => (.failed e,service)
  | .busy (.ask q next), service, .turn => (.busy (next (serve service q).1),(serve service q).2)
  | .failed e, service, .stray q => (.failed e,(serve service q).2)
  | client, service, _ => (client,service)

/-- A client by itself, with a service that always answers alike. -/
def Client.moves (reply : ∀ q, Resp q) (client : Client Req Resp ε S) (l : List (Move Req C)) : Client Req Resp ε S :=
  l.foldl (fun client m => (client.move (fun _ q => (reply q,())) call () m).1) client

/-- The call that a move starts. -/
def Client.started : Client Req Resp ε S → Move Req C → Option C
  | .idle _, .call c => some c
  | _, _ => none

/-- The calls that a client starts on its way. -/
def Client.calls (reply : ∀ q, Resp q) : Client Req Resp ε S → List (Move Req C) → List C
  | _, [] => []
  | client, m :: l => (client.started m).toList ++ ((client.move (fun _ q => (reply q,())) call () m).1).calls reply l

end

/-- Any number of clients and the service they share. -/
structure Clients (ι : Type*) (Req : Type u) (Resp : Req → Type v) (ε : Type w) (S : Type x) (σ : Type z) where
  client : ι → Client Req Resp ε S
  service : σ

section
variable {ι : Type*} [DecidableEq ι] (serve : σ → (q : Req) → Resp q × σ) (call : S → C → Program Req Resp ε S)

/-- One of the clients moves. -/
def Clients.move (s : Clients ι Req Resp ε S σ) (m : ι × Move Req C) : Clients ι Req Resp ε S σ where
  client := Function.update s.client m.1 ((s.client m.1).move serve call s.service m.2).1
  service := ((s.client m.1).move serve call s.service m.2).2

def Clients.run (s : Clients ι Req Resp ε S σ) (schedule : List (ι × Move Req C)) : Clients ι Req Resp ε S σ :=
  schedule.foldl (Clients.move serve call) s

/-- The moves of one client. -/
def movesOf (i : ι) (schedule : List (ι × Move Req C)) : List (Move Req C) :=
  (schedule.filter (·.1 = i)).map (·.2)

end

variable {serve : σ → (q : Req) → Resp q × σ} {call : S → C → Program Req Resp ε S} {reply : ∀ q, Resp q}

/-- What a service keeps whatever it is asked. -/
structure Serves (serve : σ → (q : Req) → Resp q × σ) (reply : ∀ q, Resp q) (Inv : σ → Prop) : Prop where
  answers : ∀ service q, Inv service → (serve service q).1 = reply q
  keeps : ∀ service q, Inv service → Inv (serve service q).2

variable {Inv : σ → Prop}

/-- A computation that a service answers, with no other client. -/
def Program.served (serve : σ → (q : Req) → Resp q × σ) : Program Req Resp ε α → σ → Except ε α × σ
  | .ret result, service => (result,service)
  | .ask q next, service => (next (serve service q).1).served serve (serve service q).2

theorem Serves.served (serves : Serves serve reply Inv) (p : Program Req Resp ε α) {service : σ} (inv : Inv service) :
    (p.served serve service).1 = p.answered reply ∧ Inv (p.served serve service).2 := by
  induction p generalizing service with
  | ret result => exact ⟨rfl,inv⟩
  | ask q next ih =>
    rw [Program.served,serves.answers service q inv]
    exact ih (reply q) (serves.keeps service q inv)

theorem Client.move_fst (serves : Serves serve reply Inv) {service : σ} (inv : Inv service) (client : Client Req Resp ε S)
    (m : Move Req C) : (client.move serve call service m).1 = (client.move (fun _ q => (reply q,())) call () m).1 := by
  cases client with
  | idle s => cases m <;> rfl
  | failed e => cases m <;> rfl
  | busy p =>
    cases p with
    | ret result => cases result <;> cases m <;> rfl
    | ask q next =>
      cases m with
      | turn => exact congrArg (fun r => Client.busy (next r)) (serves.answers service q inv)
      | call c => rfl
      | stray q => rfl

theorem Client.move_snd (serves : Serves serve reply Inv) {service : σ} (inv : Inv service) (client : Client Req Resp ε S)
    (m : Move Req C) : Inv (client.move serve call service m).2 := by
  cases client with
  | idle s => cases m <;> exact inv
  | failed e =>
    cases m with
    | stray q => exact serves.keeps service q inv
    | call c => exact inv
    | turn => exact inv
  | busy p =>
    cases p with
    | ret result => cases result <;> cases m <;> exact inv
    | ask q next =>
      cases m with
      | turn => exact serves.keeps service q inv
      | call c => exact inv
      | stray q => exact inv

section
variable {ι : Type*} [DecidableEq ι]

theorem movesOf_cons_self (m : ι × Move Req C) (schedule : List (ι × Move Req C)) :
    movesOf m.1 (m :: schedule) = m.2 :: movesOf m.1 schedule := by
  unfold movesOf
  rw [List.filter_cons_of_pos (by simp),List.map_cons]

theorem movesOf_cons_of_ne {m : ι × Move Req C} {i : ι} (other : m.1 ≠ i) (schedule : List (ι × Move Req C)) :
    movesOf i (m :: schedule) = movesOf i schedule := by
  unfold movesOf
  rw [List.filter_cons_of_neg (by simpa using other)]

theorem movesOf_filter (i : ι) (schedule : List (ι × Move Req C)) :
    movesOf i (schedule.filter (·.1 = i)) = movesOf i schedule := by
  unfold movesOf
  rw [List.filter_filter]
  simp

theorem movesOf_append (i : ι) (schedule later : List (ι × Move Req C)) :
    movesOf i (schedule ++ later) = movesOf i schedule ++ movesOf i later := by
  unfold movesOf
  rw [List.filter_append,List.map_append]

theorem run_service (serves : Serves serve reply Inv) (schedule : List (ι × Move Req C)) {s : Clients ι Req Resp ε S σ}
    (inv : Inv s.service) : Inv (s.run serve call schedule).service := by
  induction schedule generalizing s with
  | nil => exact inv
  | cons m schedule ih => exact ih (Client.move_snd serves inv _ m.2)

/-- Every client goes its way as if it were alone. -/
theorem run_client (serves : Serves serve reply Inv) (schedule : List (ι × Move Req C)) {s : Clients ι Req Resp ε S σ}
    (inv : Inv s.service) (i : ι) :
    (s.run serve call schedule).client i = (s.client i).moves call reply (movesOf i schedule) := by
  induction schedule generalizing s with
  | nil => rfl
  | cons m schedule ih =>
    have rest := ih (s := s.move serve call m) (Client.move_snd serves inv _ m.2)
    refine rest.trans ?_
    by_cases mine : m.1 = i
    · subst mine
      have moved : (s.move serve call m).client m.1 = ((s.client m.1).move (fun _ q => (reply q,())) call () m.2).1 :=
        (Function.update_self ..).trans (Client.move_fst serves inv _ m.2)
      rw [moved,movesOf_cons_self]
      rfl
    · have still : (s.move serve call m).client i = s.client i := Function.update_of_ne (Ne.symm mine) _ _
      rw [still,movesOf_cons_of_ne mine]

/-- What the others do, and what the service was asked before, makes no difference to a
    client. -/
theorem run_alone (serves : Serves serve reply Inv) (schedule : List (ι × Move Req C)) {s s' : Clients ι Req Resp ε S σ}
    (inv : Inv s.service) (inv' : Inv s'.service) {i : ι} (same : s.client i = s'.client i) :
    (s.run serve call schedule).client i = (s'.run serve call (schedule.filter (·.1 = i))).client i := by
  rw [run_client serves _ inv,run_client serves _ inv',movesOf_filter,same]

end

/-! ## Calls as one step -/

theorem Client.outcome_move (client : Client Req Resp ε S) (m : Move Req C) :
    ((client.move (fun _ q => (reply q,())) call () m).1).outcome reply =
      client.outcome reply >>= fun s => (client.started m).elim (.ok s) fun c => (call s c).answered reply := by
  cases client with
  | idle s => cases m <;> rfl
  | failed e => cases m <;> rfl
  | busy p =>
    cases p with
    | ret result => cases result <;> cases m <;> rfl
    | ask q next =>
      -- a request is answered, and what the call ends in is the same
      cases m <;> exact (bind_ok ((next (reply q)).answered reply)).symm

/-- What a client ends in is what its calls end in one after the other, each taken as one
    step. -/
theorem outcome_moves (l : List (Move Req C)) (client : Client Req Resp ε S) :
    (client.moves call reply l).outcome reply =
      client.outcome reply >>= fun s => (client.calls call reply l).foldlM (fun s c => (call s c).answered reply) s := by
  induction l generalizing client with
  | nil => exact (bind_ok (client.outcome reply)).symm
  | cons m l ih =>
    refine (ih _).trans ?_
    rw [Client.outcome_move,Client.calls]
    cases client.outcome reply with
    | error e => rfl
    | ok s => cases client.started m <;> rfl

/-- Every call ends, after as many turns as it takes. -/
theorem turns_end (p : Program Req Resp ε S) :
    ∃ turns, (Client.busy p).moves call reply (List.replicate turns .turn) = .ended (p.answered reply) := by
  induction p with
  | ret result =>
    refine ⟨1,?_⟩
    cases result <;> rfl
  | ask q next ih =>
    obtain ⟨turns,ends⟩ := ih (reply q)
    exact ⟨turns + 1,ends⟩

end Termpane.Lib
