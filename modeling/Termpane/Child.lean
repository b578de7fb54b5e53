import Termpane.Lib.After
import Termpane.Observe

/-!
# The child of a session

`PtyChild` of `pty.rs` and `SharedChild` of `session_worker.rs`: two handles, one around
the other, that are to signal the child's pid no more once the child is reaped. Under
both is the child of `portable_pty`, which is not part of the repository and reaps the
child in `wait`, in `try_wait`, and in the polls by which `kill` waits before it uses
force. Every call is atomic, so what any threads do is a list of calls.
-/
namespace Termpane

open Lib

/-- What is asked of the kernel: to signal a process, and to wait for one, which may
    reap it. -/
inductive Syscall
  | signal (pid : UInt32) (signo : Int)
  | wait (pid : UInt32) (reaped : Bool)
  deriving DecidableEq, Repr

def sighup : Int := 1
def sigkill : Int := 9

/-- How a call ends: what it leaves, its result and the system calls it made. -/
structure Called (σ α : Type) where
  state : σ
  result : Except String α
  syscalls : List Syscall

/-! ## The backend -/

/-- `portable_pty::ExitStatus`. -/
structure PtyStatus where
  exitCode : Nat
  signal : Option String := none
  deriving DecidableEq, Repr

/-- `portable_pty::Child`, with what the system answers during a call. -/
class PtyBackend where
  Child : Type
  Answer : Type
  processId : Child → Option UInt32
  tryWait : Child → Answer → Called Child (Option PtyStatus)
  wait : Child → Answer → Called Child PtyStatus
  kill : Child → Answer → Called Child Unit

/-- The system calls by which a child is waited for: none if it was reaped before. -/
inductive Waits (pid : UInt32) : Bool → Bool → List Syscall → Prop
  | known : Waits pid true true []
  | asks (attempts : Nat) (reaped : Bool) :
      Waits pid false reaped (List.replicate attempts (.wait pid false) ++ [.wait pid reaped])

/-- Those of a kill: a hangup to the stored pid, and if it is delivered, polls until the
    child is reaped or else force. -/
inductive Kills (pid : UInt32) : Bool → Bool → List Syscall → Prop
  | hangup (reaped : Bool) : Kills pid reaped reaped [.signal pid sighup]
  | reaping (polls : Nat) :
      Kills pid false true (.signal pid sighup :: (List.replicate polls (.wait pid false) ++ [.wait pid true]))
  | forcing (polls : Nat) :
      Kills pid false false (.signal pid sighup :: (List.replicate polls (.wait pid false) ++ [.signal pid sigkill]))

/-- What the handles rely on of the backend: it keeps the child's pid and its status once
    it has it. -/
structure PtyBackendLaws [PtyBackend] (pid : PtyBackend.Child → UInt32) (reaped : PtyBackend.Child → Bool) : Prop where
  processId : ∀ c, PtyBackend.processId c = some (pid c)
  tryWait_pid : ∀ c answer, pid (PtyBackend.tryWait c answer).state = pid c
  wait_pid : ∀ c answer, pid (PtyBackend.wait c answer).state = pid c
  kill_pid : ∀ c answer, pid (PtyBackend.kill c answer).state = pid c
  tryWait_calls : ∀ c answer,
    Waits (pid c) (reaped c) (reaped (PtyBackend.tryWait c answer).state) (PtyBackend.tryWait c answer).syscalls
  wait_calls : ∀ c answer, Waits (pid c) (reaped c) (reaped (PtyBackend.wait c answer).state) (PtyBackend.wait c answer).syscalls
  kill_calls : ∀ c answer, Kills (pid c) (reaped c) (reaped (PtyBackend.kill c answer).state) (PtyBackend.kill c answer).syscalls
  tryWait_result : ∀ c answer, (∃ status, (PtyBackend.tryWait c answer).result = .ok (some status)) ↔
    reaped (PtyBackend.tryWait c answer).state = true
  wait_result : ∀ c answer, (∃ status, (PtyBackend.wait c answer).result = .ok status) ↔
    reaped (PtyBackend.wait c answer).state = true

/-! ## Signals -/

/-- The failures of `SignalError`. -/
inductive SignalError
  | notFound (pid : UInt32)
  | unknownPid
  | invalidSignal (signo : Int)
  | failed (pid : UInt32) (message : String)
  deriving DecidableEq, Repr

/-- The numbers `nix` knows a signal of. -/
def knownSignal (signo : Int) : Bool := decide (1 ≤ signo ∧ signo ≤ 31)

/-- What `kill` returns. -/
inductive KillAnswer
  | delivered
  | esrch
  | errno (name : String)
  deriving DecidableEq, Repr

/-- `pid_from_u32`, and pid 0 refused. -/
def addressable (pid : UInt32) : Bool := decide (pid ≠ 0 ∧ pid.toNat ≤ 0x7fffffff)

/-- `process::signal`. -/
def signalProcess (pid : UInt32) (signo : Int) (answer : KillAnswer) : Except SignalError Unit × List Syscall :=
  if !addressable pid then (.error (.notFound pid),[])
  else if !knownSignal signo then (.error (.invalidSignal signo),[])
  else
    match answer with
    | .delivered => (.ok (),[.signal pid signo])
    | .esrch => (.error (.notFound pid),[.signal pid signo])
    | .errno name => (.error (.failed pid s!"failed to deliver signal {signo}: {name}"),[.signal pid signo])

/-! ## The handles -/

def convertStatus (status : PtyStatus) : ExitStatus := ⟨status.exitCode,status.signal⟩

section
variable [PtyBackend]

structure PtyChild where
  inner : PtyBackend.Child
  reaped : Bool := false

namespace PtyChild

def pid (c : PtyChild) : Option UInt32 := PtyBackend.processId c.inner

def tryWait (c : PtyChild) (answer : PtyBackend.Answer) : Called PtyChild (Option ExitStatus) :=
  let called := PtyBackend.tryWait c.inner answer
  let c := { c with inner := called.state }
  match called.result with
  | .error e => ⟨c,.error e,called.syscalls⟩
  | .ok status => ⟨if status.isSome then { c with reaped := true } else c,.ok (status.map convertStatus),called.syscalls⟩

def wait (c : PtyChild) (answer : PtyBackend.Answer) : Called PtyChild ExitStatus :=
  let called := PtyBackend.wait c.inner answer
  let c := { c with inner := called.state }
  match called.result with
  | .error e => ⟨c,.error e,called.syscalls⟩
  | .ok status => ⟨{ c with reaped := true },.ok (convertStatus status),called.syscalls⟩

def kill (c : PtyChild) (answer : PtyBackend.Answer) : Called PtyChild Unit :=
  if c.reaped then ⟨c,.ok (),[]⟩
  else
    let called := PtyBackend.kill c.inner answer
    ⟨{ c with inner := called.state },called.result,called.syscalls⟩

def signal (c : PtyChild) (signo : Int) (answer : KillAnswer) : Except SignalError Unit × List Syscall :=
  match c.pid with
  | none => (.error .unknownPid,[])
  | some pid => if c.reaped then (.error (.notFound pid),[]) else signalProcess pid signo answer

end PtyChild

/-- `SharedChild` with what its mutex guards. -/
structure SharedChild where
  pid : Option UInt32
  child : PtyChild
  reaped : Bool := false
  status : Option ExitStatus := none

namespace SharedChild

def new (child : PtyChild) : SharedChild := { pid := child.pid, child := child }

def poll (s : SharedChild) (answer : PtyBackend.Answer) : Called SharedChild (Option ExitStatus) :=
  if s.reaped then ⟨s,.ok s.status,[]⟩
  else
    let called := s.child.tryWait answer
    let s := { s with child := called.state }
    match called.result with
    | .error e => ⟨s,.error e,called.syscalls⟩
    | .ok none => ⟨s,.ok none,called.syscalls⟩
    | .ok (some status) => ⟨{ s with reaped := true, status := some status },.ok (some status),called.syscalls⟩

def signalLocked (s : SharedChild) (signo : Int) (answer : KillAnswer) : Except SignalError Unit × List Syscall :=
  match s.pid with
  | none => (.error .unknownPid,[])
  | some pid => if s.reaped then (.error (.notFound pid),[]) else signalProcess pid signo answer

def killLocked (s : SharedChild) (answer : PtyBackend.Answer) : Called SharedChild Unit :=
  if s.reaped then ⟨s,.ok (),[]⟩
  else
    let called := s.child.kill answer
    ⟨{ s with child := called.state },called.result,called.syscalls⟩

def waitLocked (s : SharedChild) (answer : PtyBackend.Answer) : Called SharedChild ExitStatus :=
  match s.status with
  | some status => ⟨s,.ok status,[]⟩
  | none =>
    let called := s.child.wait answer
    let s := { s with child := called.state }
    match called.result with
    | .error e => ⟨s,.error e,called.syscalls⟩
    | .ok status => ⟨{ s with reaped := true, status := some status },.ok status,called.syscalls⟩

end SharedChild

/-! ## Runs of calls -/

/-- A call of either handle, with what the system answers: `try_wait` or `poll`, `wait` or
    `wait_locked`, `kill` or `kill_locked`, `signal` or `signal_locked`. -/
inductive ChildCall
  | tryWait (answer : PtyBackend.Answer)
  | wait (answer : PtyBackend.Answer)
  | kill (answer : PtyBackend.Answer)
  | signal (signo : Int) (answer : KillAnswer)

def PtyChild.call (c : PtyChild) : ChildCall → PtyChild × List Syscall
  | .tryWait answer => ((c.tryWait answer).state,(c.tryWait answer).syscalls)
  | .wait answer => ((c.wait answer).state,(c.wait answer).syscalls)
  | .kill answer => ((c.kill answer).state,(c.kill answer).syscalls)
  | .signal signo answer => (c,(c.signal signo answer).2)

def SharedChild.call (s : SharedChild) : ChildCall → SharedChild × List Syscall
  | .tryWait answer => ((s.poll answer).state,(s.poll answer).syscalls)
  | .wait answer => ((s.waitLocked answer).state,(s.waitLocked answer).syscalls)
  | .kill answer => ((s.killLocked answer).state,(s.killLocked answer).syscalls)
  | .signal signo answer => (s,(s.signalLocked signo answer).2)

/-- The call signals the child unless the handle knows that it was reaped. -/
def ChildCall.Signals (pid : UInt32) : ChildCall → Prop
  | .kill _ => True
  | .signal signo _ => addressable pid = true ∧ knownSignal signo = true
  | _ => False

end

/-- A system call that reaps the child. -/
def Syscall.Reaps (pid : UInt32) (s : Syscall) : Prop := s = .wait pid true

/-- A signal addressed to the child's pid. -/
def Syscall.Signals (pid : UInt32) : Syscall → Prop
  | .signal target _ => target = pid
  | .wait _ _ => False

instance (pid : UInt32) (s : Syscall) : Decidable (s.Reaps pid) := by unfold Syscall.Reaps; infer_instance

instance (pid : UInt32) (s : Syscall) : Decidable (s.Signals pid) := by
  unfold Syscall.Signals
  split <;> infer_instance

/-- The rule: the child's pid is not signalled once the child was reaped. -/
def NoSignalAfterReap (pid : UInt32) (syscalls : List Syscall) : Prop :=
  NoneAfter (Syscall.Reaps pid) (Syscall.Signals pid) syscalls

instance (pid : UInt32) (syscalls : List Syscall) : Decidable (NoSignalAfterReap pid syscalls) := by
  unfold NoSignalAfterReap NoneAfter
  infer_instance

/-! ## Single calls -/

section
variable {pid : UInt32} {before after : Bool} {syscalls : List Syscall}

theorem Waits.silent (waits : Waits pid before after syscalls) : ∀ s ∈ syscalls, ¬ s.Signals pid := by
  cases waits with
  | known => exact nofun
  | asks attempts reaped =>
    intro s inside
    rcases List.mem_append.mp inside with failed | last
    · rw [List.eq_of_mem_replicate failed]; exact id
    · rw [List.mem_singleton.mp last]; exact id

theorem Waits.reaps (waits : Waits pid before after syscalls) : after = true ↔ before = true ∨ ∃ s ∈ syscalls, s.Reaps pid := by
  cases waits with
  | known => exact iff_of_true rfl (.inl rfl)
  | asks attempts reaped =>
    constructor
    · rintro rfl
      exact .inr ⟨_,List.mem_append_right _ List.mem_cons_self,rfl⟩
    · rintro (impossible | ⟨s,inside,reaps⟩)
      · cases impossible
      · rcases List.mem_append.mp inside with failed | last
        · rw [List.eq_of_mem_replicate failed] at reaps; cases reaps
        · rw [List.mem_singleton.mp last] at reaps; cases reaps; rfl

/-- Failed polls reap nothing. -/
theorem running_polls (polls : Nat) : ∀ s ∈ List.replicate polls (Syscall.wait pid false), ¬ s.Reaps pid ∧ ¬ s.Signals pid := by
  intro s inside
  rw [List.eq_of_mem_replicate inside]
  exact ⟨nofun,id⟩

/-- A kill stops at the poll that reaps. -/
theorem Kills.fine (kills : Kills pid before after syscalls) : NoSignalAfterReap pid syscalls := by
  cases kills with
  | hangup => exact List.pairwise_singleton _ _
  | reaping polls =>
    refine List.pairwise_cons.mpr ⟨fun _ _ hangup => (nomatch hangup),noneAfter_of_good fun s inside => ?_⟩
    rcases List.mem_append.mp inside with failed | last
    · exact (running_polls polls s failed).2
    · rw [List.mem_singleton.mp last]; exact id
  | forcing polls =>
    refine noneAfter_of_open fun s inside => ?_
    rcases List.mem_cons.mp inside with rfl | later
    · exact nofun
    · rcases List.mem_append.mp later with failed | last
      · exact (running_polls polls s failed).1
      · rw [List.mem_singleton.mp last]; exact nofun

theorem Kills.signals (kills : Kills pid before after syscalls) : ∃ s ∈ syscalls, s.Signals pid := by
  cases kills with
  | hangup | reaping | forcing => exact ⟨.signal pid sighup,List.mem_cons_self,rfl⟩

theorem Kills.reaps (kills : Kills pid before after syscalls) : after = true ↔ before = true ∨ ∃ s ∈ syscalls, s.Reaps pid := by
  cases kills with
  | hangup reaped =>
    refine ⟨.inl,?_⟩
    rintro (known | ⟨s,inside,reaps⟩)
    · exact known
    · rw [List.mem_singleton.mp inside] at reaps; cases reaps
  | reaping polls => exact iff_of_true rfl (.inr ⟨.wait pid true,by simp,rfl⟩)
  | forcing polls =>
    refine iff_of_false nofun ?_
    rintro (impossible | ⟨s,inside,reaps⟩)
    · cases impossible
    · rcases List.mem_cons.mp inside with rfl | later
      · cases reaps
      · rcases List.mem_append.mp later with failed | last
        · exact (running_polls polls s failed).1 reaps
        · rw [List.mem_singleton.mp last] at reaps; cases reaps

theorem signalProcess_fine (target : UInt32) (signo : Int) (answer : KillAnswer) :
    ∀ s ∈ (signalProcess target signo answer).2, ¬ s.Reaps pid := by
  intro s inside
  unfold signalProcess at inside
  split_ifs at inside
  · cases inside
  · cases inside
  · cases answer <;> (rw [List.mem_singleton.mp inside]; exact nofun)

theorem signalProcess_signals (signo : Int) (answer : KillAnswer) : (∃ s ∈ (signalProcess pid signo answer).2, s.Signals pid) ↔
    addressable pid = true ∧ knownSignal signo = true := by
  unfold signalProcess
  split_ifs with unaddressable unknown
  · refine iff_of_false (fun ⟨_,inside,_⟩ => nomatch inside) fun both => ?_
    simp [both.1] at unaddressable
  · refine iff_of_false (fun ⟨_,inside,_⟩ => nomatch inside) fun both => ?_
    simp [both.2] at unknown
  · refine iff_of_true ⟨.signal pid signo,?_,rfl⟩ ⟨by simpa using unaddressable,by simpa using unknown⟩
    cases answer <;> exact List.mem_cons_self

end

section
variable [PtyBackend] {pid : PtyBackend.Child → UInt32} {reaped : PtyBackend.Child → Bool} {p : UInt32}

/-- What is known of a call of a handle that holds the backend's child. -/
structure Fair (p : UInt32) (before after : Bool) (noted : Bool) (call : ChildCall) (syscalls : List Syscall) : Prop where
  fine : NoSignalAfterReap p syscalls
  reaps : after = true ↔ before = true ∨ ∃ s ∈ syscalls, s.Reaps p
  signals : (∃ s ∈ syscalls, s.Signals p) ↔ noted = false ∧ call.Signals p

theorem Fair.of_waits {before after noted : Bool} {call : ChildCall} {syscalls : List Syscall} (waits : Waits p before after syscalls)
    (quiet : ¬ call.Signals p) : Fair p before after noted call syscalls where
  fine := noneAfter_of_good waits.silent
  reaps := waits.reaps
  signals := iff_of_false (fun ⟨s,inside,signals⟩ => waits.silent s inside signals) fun both => quiet both.2

/-- A call that does nothing, of a handle that knows. -/
theorem Fair.of_noted {before : Bool} {call : ChildCall} : Fair p before before true call [] where
  fine := .nil
  reaps := ⟨.inl,fun either => either.elim id fun ⟨_,inside,_⟩ => nomatch inside⟩
  signals := iff_of_false (fun ⟨_,inside,_⟩ => nomatch inside) fun both => nomatch both.1

theorem Fair.of_kills {before after : Bool} {answer : PtyBackend.Answer} {syscalls : List Syscall}
    (kills : Kills p before after syscalls) : Fair p before after false (.kill answer) syscalls where
  fine := kills.fine
  reaps := kills.reaps
  signals := iff_of_true kills.signals ⟨rfl,trivial⟩

theorem Fair.of_signal {before : Bool} (signo : Int) (answer : KillAnswer) :
    Fair p before before false (.signal signo answer) (signalProcess p signo answer).2 where
  fine := noneAfter_of_open (signalProcess_fine p signo answer)
  reaps := ⟨.inl,fun either => either.elim id fun ⟨s,inside,reaps⟩ => absurd reaps (signalProcess_fine p signo answer s inside)⟩
  signals := (signalProcess_signals signo answer).trans (and_iff_right rfl).symm

/-- Along a run of a handle the rule holds exactly if no call signals what was reaped
    and not noted. -/
theorem rule_iff {σ : Type} {call : σ → ChildCall → σ × List Syscall} {done noted : σ → Bool} (Holds : σ → Prop)
    (steps : ∀ s c, Holds s → Holds (call s c).1 ∧ Fair p (done s) (done (call s c).1) (noted s) c (call s c).2) {s : σ}
    (holds : Holds s) (running : done s = false) (calls : List ChildCall) : NoSignalAfterReap p (logged call s calls) ↔
      ∀ before c after, calls = before ++ c :: after →
        done (reached call s before) = true ∧ noted (reached call s before) = false → ¬ c.Signals p := by
  have held (before : List ChildCall) := reached_inv (fun s c holds => (steps s c holds).1) before holds
  have rule : _ ↔ _ := noneAfter_logged_iff Holds (fun s => done s = true) (fun s c holds => (steps s c holds).1)
    (fun s c holds => (steps s c holds).2.fine) (fun s c holds => (steps s c holds).2.reaps) calls holds
  have open' : ¬ done s = true := by rw [running]; exact Bool.false_ne_true
  rw [and_iff_left (fun closed => absurd closed open')] at rule
  refine rule.trans (forall₄_congr fun before c after _ => ?_)
  have signals := (steps _ c (held before)).2.signals
  constructor
  · rintro quiet ⟨closed,unset⟩ sends
    obtain ⟨s,inside,signalled⟩ := signals.mpr ⟨unset,sends⟩
    exact quiet closed s inside signalled
  · intro quiet closed s inside signalled
    obtain ⟨unset,sends⟩ := signals.mp ⟨s,inside,signalled⟩
    exact quiet ⟨closed,unset⟩ sends

namespace PtyChild
variable {c : PtyChild}

/-- A handle around the child of a pid, which knows of no reaping that was not. -/
structure Holds (pid : PtyBackend.Child → UInt32) (reaped : PtyBackend.Child → Bool) (p : UInt32) (c : PtyChild) : Prop where
  target : pid c.inner = p
  noted : c.reaped = true → reaped c.inner = true

/-- The child was reaped, and the handle does not know. -/
def Unnoticed (reaped : PtyBackend.Child → Bool) (c : PtyChild) : Prop := reaped c.inner = true ∧ c.reaped = false

theorem Holds.call (holds : c.Holds pid reaped p) (laws : PtyBackendLaws pid reaped) (call : ChildCall) :
    (c.call call).1.Holds pid reaped p ∧ Fair p (reaped c.inner) (reaped (c.call call).1.inner) c.reaped call (c.call call).2 := by
  obtain ⟨target,noted⟩ := holds
  cases call with
  | tryWait answer =>
    have waits := laws.tryWait_calls c.inner answer
    have kept := laws.tryWait_pid c.inner answer
    have known := laws.tryWait_result c.inner answer
    rw [target] at waits kept
    have stays : c.reaped = true → reaped (PtyBackend.tryWait c.inner answer).state = true :=
      fun flag => waits.reaps.mpr (.inl (noted flag))
    simp only [PtyChild.call,tryWait]
    cases result : (PtyBackend.tryWait c.inner answer).result with
    | error e => exact ⟨⟨kept,stays⟩,.of_waits waits id⟩
    | ok status =>
      cases status with
      | none => exact ⟨⟨kept,stays⟩,.of_waits waits id⟩
      | some status => exact ⟨⟨kept,fun _ => known.mp ⟨status,result⟩⟩,.of_waits waits id⟩
  | wait answer =>
    have waits := laws.wait_calls c.inner answer
    have kept := laws.wait_pid c.inner answer
    have known := laws.wait_result c.inner answer
    rw [target] at waits kept
    have stays : c.reaped = true → reaped (PtyBackend.wait c.inner answer).state = true :=
      fun flag => waits.reaps.mpr (.inl (noted flag))
    simp only [PtyChild.call,wait]
    cases result : (PtyBackend.wait c.inner answer).result with
    | error e => exact ⟨⟨kept,stays⟩,.of_waits waits id⟩
    | ok status => exact ⟨⟨kept,fun _ => known.mp ⟨status,result⟩⟩,.of_waits waits id⟩
  | kill answer =>
    cases flag : c.reaped with
    | true =>
      simp only [PtyChild.call,kill,flag,if_true]
      exact ⟨⟨target,noted⟩,.of_noted⟩
    | false =>
      simp only [PtyChild.call,kill,flag,Bool.false_eq_true,if_false]
      have kills := laws.kill_calls c.inner answer
      have kept := laws.kill_pid c.inner answer
      rw [target] at kills kept
      exact ⟨⟨kept,nofun⟩,.of_kills kills⟩
  | signal signo answer =>
    simp only [PtyChild.call,signal,PtyChild.pid,laws.processId,target]
    cases flag : c.reaped with
    | true => exact ⟨⟨target,noted⟩,.of_noted⟩
    | false => exact ⟨⟨target,noted⟩,.of_signal signo answer⟩

/-- The flag is set by a poll that finds a status. -/
theorem tryWait_reaped (c : PtyChild) (answer : PtyBackend.Answer) : (c.tryWait answer).state.reaped =
    (c.reaped || (c.tryWait answer).result.toOption.join.isSome) := by
  unfold tryWait
  dsimp only
  split
  · exact (Bool.or_false _).symm
  · rename_i status _
    cases status with
    | none => exact (Bool.or_false _).symm
    | some status => exact (Bool.or_true _).symm

theorem wait_reaped (c : PtyChild) (answer : PtyBackend.Answer) : (c.wait answer).state.reaped =
    (c.reaped || (c.wait answer).result.toOption.isSome) := by
  unfold wait
  dsimp only
  split
  · exact (Bool.or_false _).symm
  · exact (Bool.or_true _).symm

theorem kill_reaped (c : PtyChild) (answer : PtyBackend.Answer) : (c.kill answer).state.reaped = c.reaped := by
  unfold kill
  split <;> rfl

end PtyChild

namespace SharedChild
variable {s : SharedChild}

/-- A shared handle, whose flag and status say what the child's flag does. -/
structure Holds (pid : PtyBackend.Child → UInt32) (reaped : PtyBackend.Child → Bool) (p : UInt32) (s : SharedChild) : Prop where
  child : s.child.Holds pid reaped p
  target : s.pid = some p
  flag : s.child.reaped = s.reaped
  status : s.status.isSome = s.reaped

/-- The child was reaped, and neither flag is set. -/
def Unnoticed (reaped : PtyBackend.Child → Bool) (s : SharedChild) : Prop := reaped s.child.inner = true ∧ s.reaped = false

theorem Holds.call (holds : s.Holds pid reaped p) (laws : PtyBackendLaws pid reaped) (call : ChildCall) :
    (s.call call).1.Holds pid reaped p ∧
      Fair p (reaped s.child.inner) (reaped (s.call call).1.child.inner) s.reaped call (s.call call).2 := by
  obtain ⟨child,target,flags,status⟩ := holds
  obtain ⟨child',fair⟩ := child.call laws call
  cases set : s.reaped with
  | true =>
    -- a handle that knows calls nothing
    rw [set] at flags status
    have same : s.call call = (s,[]) := by
      cases call with
      | tryWait answer => simp only [SharedChild.call,poll,set,if_true]
      | wait answer =>
        obtain ⟨known,found⟩ := Option.isSome_iff_exists.mp status
        simp only [SharedChild.call,waitLocked,found]
      | kill answer => simp only [SharedChild.call,killLocked,set,if_true]
      | signal signo answer => simp only [SharedChild.call,signalLocked,target,set,if_true]
    rw [same]
    exact ⟨⟨child,target,flags.trans set.symm,status.trans set.symm⟩,.of_noted⟩
  | false =>
    rw [set] at flags status
    rw [flags] at fair
    cases call with
    | tryWait answer =>
      have noted := s.child.tryWait_reaped answer
      rw [flags,Bool.false_or] at noted
      simp only [PtyChild.call] at child' fair
      simp only [SharedChild.call,poll,set,Bool.false_eq_true,if_false]
      cases result : (s.child.tryWait answer).result with
      | error e => rw [result] at noted; exact ⟨⟨child',target,noted,status⟩,fair⟩
      | ok found =>
        cases found with
        | none => rw [result] at noted; exact ⟨⟨child',target,noted,status⟩,fair⟩
        | some found => rw [result] at noted; exact ⟨⟨child',target,noted,rfl⟩,fair⟩
    | wait answer =>
      have noted := s.child.wait_reaped answer
      have unknown : s.status = none := Option.isSome_eq_false_iff.mp status |> Option.isNone_iff_eq_none.mp
      rw [flags,Bool.false_or] at noted
      simp only [PtyChild.call] at child' fair
      simp only [SharedChild.call,waitLocked,unknown]
      cases result : (s.child.wait answer).result with
      | error e => rw [result] at noted; exact ⟨⟨child',target,noted.trans set.symm,set.symm⟩,fair⟩
      | ok found => rw [result] at noted; exact ⟨⟨child',target,noted,rfl⟩,fair⟩
    | kill answer =>
      have noted := s.child.kill_reaped answer
      simp only [PtyChild.call] at child' fair
      simp only [SharedChild.call,killLocked,set,Bool.false_eq_true,if_false]
      exact ⟨⟨child',target,noted.trans flags,status⟩,fair⟩
    | signal signo answer =>
      simp only [SharedChild.call,signalLocked,target,set,Bool.false_eq_true,if_false]
      exact ⟨⟨child,target,flags.trans set.symm,status.trans set.symm⟩,.of_signal signo answer⟩

end SharedChild

/-- Along any run of either handle the child's pid is not signalled after the child was
    reaped, exactly if no kill or signal is asked of a handle whose flag does not say
    what the backend did. -/
theorem no_signal_after_reap_iff (laws : PtyBackendLaws pid reaped) {child : PtyBackend.Child} (running : reaped child = false)
    (calls : List ChildCall) :
    (NoSignalAfterReap (pid child) (logged SharedChild.call (.new { inner := child }) calls) ↔
      ∀ before call after, calls = before ++ call :: after →
        (reached SharedChild.call (.new { inner := child }) before).Unnoticed reaped → ¬ call.Signals (pid child)) ∧
    (NoSignalAfterReap (pid child) (logged PtyChild.call { inner := child } calls) ↔
      ∀ before call after, calls = before ++ call :: after →
        (reached PtyChild.call { inner := child } before).Unnoticed reaped → ¬ call.Signals (pid child)) := by
  have fresh : ({ inner := child } : PtyChild).Holds pid reaped (pid child) := ⟨rfl,nofun⟩
  refine ⟨?_,?_⟩
  · exact rule_iff (SharedChild.Holds pid reaped (pid child)) (fun s call holds => SharedChild.Holds.call holds laws call)
      (⟨fresh,laws.processId child,rfl,rfl⟩ : (SharedChild.new { inner := child }).Holds pid reaped (pid child)) running calls
  · exact rule_iff (PtyChild.Holds pid reaped (pid child)) (fun c call holds => PtyChild.Holds.call holds laws call) fresh running calls

end

/-! ## A backend -/

/-- `std::process::Child`, which keeps the status it was reaped with. -/
structure StdChild where
  pid : UInt32
  status : Option PtyStatus := none
  deriving DecidableEq, Repr

namespace StdChild

def reaped (c : StdChild) : Bool := c.status.isSome

/-- What the system answers: whether a signal is delivered, and what each wait finds. -/
structure Answer where
  delivered : Bool := true
  found : List (Option PtyStatus) := []

/-- One wait, unless the status is known. -/
def poll (c : StdChild) (found : Option PtyStatus) : StdChild × List Syscall :=
  if c.reaped then (c,[]) else ({ c with status := found },[.wait c.pid found.isSome])

/-- The polls of a kill, and the kill that follows when none of them reaps. -/
def polls (c : StdChild) : List (Option PtyStatus) → StdChild × List Syscall
  | [] => (c,[.signal c.pid sigkill])
  | found :: rest =>
    match found with
    | some status => ({ c with status := some status },[.wait c.pid true])
    | none => ((polls c rest).1,.wait c.pid false :: (polls c rest).2)

end StdChild

/-- The child as a backend. A kill polls five times. -/
@[reducible] def stdBackend : PtyBackend where
  Child := StdChild
  Answer := StdChild.Answer
  processId c := some c.pid
  tryWait c answer :=
    let (c,syscalls) := c.poll (answer.found.head?.join)
    ⟨c,.ok c.status,syscalls⟩
  wait c answer :=
    let (c,syscalls) := c.poll (answer.found.head?.join)
    ⟨c,c.status.elim (.error "wait failed") .ok,syscalls⟩
  kill c answer :=
    if !answer.delivered then ⟨c,.error "kill failed",[.signal c.pid sighup]⟩
    else if c.reaped then ⟨c,.ok (),[.signal c.pid sighup]⟩
    else
      let (c',syscalls) := c.polls (answer.found.take 5)
      ⟨c',.ok (),.signal c.pid sighup :: syscalls⟩

namespace StdChild

theorem poll_waits (c : StdChild) (found : Option PtyStatus) :
    (c.poll found).1.pid = c.pid ∧ Waits c.pid c.reaped (c.poll found).1.reaped (c.poll found).2 := by
  unfold poll
  cases known : c.reaped with
  | true => exact ⟨rfl,by rw [if_pos rfl,known]; exact .known⟩
  | false => exact ⟨rfl,.asks 0 found.isSome⟩

theorem polls_kills (c : StdChild) (found : List (Option PtyStatus)) (running : c.reaped = false) :
    (c.polls found).1.pid = c.pid ∧ ∃ n, (c.polls found).1.reaped = true ∧
        (c.polls found).2 = List.replicate n (.wait c.pid false) ++ [.wait c.pid true] ∨
      (c.polls found).1.reaped = false ∧ (c.polls found).2 = List.replicate n (.wait c.pid false) ++ [.signal c.pid sigkill] := by
  induction found with
  | nil => exact ⟨rfl,0,.inr ⟨running,rfl⟩⟩
  | cons first rest ih =>
    cases first with
    | some status => exact ⟨rfl,0,.inl ⟨rfl,rfl⟩⟩
    | none =>
      obtain ⟨pid,n,⟨done,calls⟩ | ⟨done,calls⟩⟩ := ih
      · exact ⟨pid,n + 1,.inl ⟨done,by rw [List.replicate_succ,List.cons_append,← calls]; rfl⟩⟩
      · exact ⟨pid,n + 1,.inr ⟨done,by rw [List.replicate_succ,List.cons_append,← calls]; rfl⟩⟩

end StdChild

section
attribute [local instance] stdBackend

/-- It does what is relied on. -/
theorem stdBackend_laws : PtyBackendLaws StdChild.pid StdChild.reaped where
  processId _ := rfl
  tryWait_pid c answer := (c.poll_waits _).1
  wait_pid c answer := (c.poll_waits _).1
  kill_pid c answer := by
    change StdChild.pid (if _ then _ else _ : Called StdChild Unit).state = c.pid
    split_ifs with refused known
    · rfl
    · rfl
    · exact (c.polls_kills _ (by simpa using known)).1
  tryWait_calls c answer := (c.poll_waits _).2
  wait_calls c answer := (c.poll_waits _).2
  kill_calls c answer := by
    change Kills c.pid c.reaped (if _ then _ else _ : Called StdChild Unit).state.reaped (if _ then _ else _ : Called StdChild Unit).syscalls
    split_ifs with refused known
    · exact .hangup _
    · exact .hangup _
    · have running : c.reaped = false := by simpa using known
      obtain ⟨_,n,⟨done,calls⟩ | ⟨done,calls⟩⟩ := c.polls_kills (answer.found.take 5) running
      · rw [running]; dsimp only; rw [done,calls]; exact .reaping n
      · rw [running]; dsimp only; rw [done,calls]; exact .forcing n
  tryWait_result c answer := by
    change (∃ status, Except.ok (c.poll _).1.status = .ok (some status)) ↔ (c.poll _).1.status.isSome = true
    rw [Option.isSome_iff_exists]
    simp only [Except.ok.injEq]
  wait_result c answer := by
    have result : (PtyBackend.wait c answer).result =
        ((c.poll answer.found.head?.join).1.status.elim (.error "wait failed") .ok : Except String PtyStatus) := rfl
    rw [result]
    change _ ↔ (c.poll answer.found.head?.join).1.status.isSome = true
    cases (c.poll answer.found.head?.join).1.status with
    | none => exact iff_of_false nofun nofun
    | some status => exact iff_of_true ⟨status,rfl⟩ rfl

/-- A kill whose first poll finds the child exited. -/
def gracefulKill : ChildCall := .kill { found := [some ⟨0,none⟩] }

/-- After it, the next signal and the next kill go to a pid that is free. -/
theorem signalled_after_reap : PtyBackendLaws StdChild.pid StdChild.reaped ∧
    ¬ (∀ (child : StdChild) (calls : List ChildCall), child.reaped = false →
      NoSignalAfterReap child.pid (logged SharedChild.call (.new { inner := child }) calls)) ∧
    ¬ (∀ (child : StdChild) (calls : List ChildCall), child.reaped = false →
      NoSignalAfterReap child.pid (logged PtyChild.call { inner := child } calls)) := by
  refine ⟨stdBackend_laws,fun rule => ?_,fun rule => ?_⟩
  · exact absurd (rule ⟨7,none⟩ [gracefulKill,.signal 15 .delivered] rfl) (by decide)
  · exact absurd (rule ⟨7,none⟩ [gracefulKill,gracefulKill] rfl) (by decide)

/-- A poll in between. -/
theorem no_signal_after_noted_reap :
    (NoSignalAfterReap 7 (logged SharedChild.call (.new { inner := (⟨7,none⟩ : StdChild) }) [gracefulKill,.tryWait {},gracefulKill]) ↔
      ∀ before call after, [gracefulKill,.tryWait {},gracefulKill] = before ++ call :: after →
        (reached SharedChild.call (.new { inner := (⟨7,none⟩ : StdChild) }) before).Unnoticed StdChild.reaped → ¬ call.Signals 7) ∧
    (NoSignalAfterReap 7 (logged PtyChild.call { inner := (⟨7,none⟩ : StdChild) } [gracefulKill,.tryWait {},gracefulKill]) ↔
      ∀ before call after, [gracefulKill,.tryWait {},gracefulKill] = before ++ call :: after →
        (reached PtyChild.call { inner := (⟨7,none⟩ : StdChild) } before).Unnoticed StdChild.reaped → ¬ call.Signals 7) :=
  no_signal_after_reap_iff stdBackend_laws (show StdChild.reaped ⟨7,none⟩ = false from rfl) [gracefulKill,.tryWait {},gracefulKill]

end

end Termpane
