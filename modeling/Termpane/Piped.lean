import Termpane.Child

/-!
# A child on pipes

`PipedChild` of `process.rs`: one handle over two ways to hold a child, that of
`std::process::Child` and a bare pid that is waited for through `nix`. Both are to behave
alike, and neither may touch the pid once the child is reaped.
-/
namespace Termpane

open Lib

/-! ## Statuses -/

/-- How a child ended. -/
inductive ExitCause
  | exited (code : UInt8)
  | killed (signo : Nat)
  deriving DecidableEq, Repr

/-- What one `waitpid` returns. -/
inductive WaitAnswer
  | interrupted
  | running
  | reaped (cause : ExitCause)
  | failed (errno : String)
  deriving DecidableEq, Repr

/-- `nix::sys::signal::Signal`. -/
structure NixSignal where
  number : Nat
  known : knownSignal number = true

def signalNames : List String :=
  ["SIGHUP","SIGINT","SIGQUIT","SIGILL","SIGTRAP","SIGABRT","SIGBUS","SIGFPE","SIGKILL","SIGUSR1","SIGSEGV","SIGUSR2","SIGPIPE",
    "SIGALRM","SIGTERM","SIGSTKFLT","SIGCHLD","SIGCONT","SIGSTOP","SIGTSTP","SIGTTIN","SIGTTOU","SIGURG","SIGXCPU","SIGXFSZ",
    "SIGVTALRM","SIGPROF","SIGWINCH","SIGIO","SIGPWR","SIGSYS"]

namespace NixSignal

def tryFrom (signo : Nat) : Option NixSignal := if known : knownSignal signo = true then some ⟨signo,known⟩ else none

def asStr (s : NixSignal) : String := signalNames.getD (s.number - 1) ""

end NixSignal

def signame (signo : Nat) : String :=
  match NixSignal.tryFrom signo with
  | some sig => sig.asStr
  | none => s!"Signal {signo}"

/-- `convert_std`; a death by signal has no code. -/
def convertStd : ExitCause → ExitStatus
  | .exited code => ⟨code.toNat,none⟩
  | .killed signo => ⟨1,some (signame signo)⟩

/-- `nix::sys::wait::WaitStatus`, without the pid. -/
inductive WaitStatus
  | exited (code : Nat)
  | signaled (sig : NixSignal)
  | stopped
  | continued
  | ptrace
  | stillAlive

/-- `convert_wait`. -/
def convertWait : WaitStatus → Option ExitStatus
  | .exited code => some ⟨code,none⟩
  | .signaled sig => some ⟨1,some sig.asStr⟩
  | .stillAlive | .stopped | .continued | .ptrace => none

/-- `nix::sys::wait::waitpid`, which has no status for a signal it does not know. -/
def waitpid : WaitAnswer → Except String WaitStatus
  | .interrupted => .error "EINTR"
  | .running => .ok .stillAlive
  | .reaped (.exited code) => .ok (.exited code.toNat)
  | .reaped (.killed signo) =>
    match NixSignal.tryFrom signo with
    | some sig => .ok (.signaled sig)
    | none => .error "EINVAL"
  | .failed errno => .error errno

/-- The system call, and whether it reaps. -/
def WaitAnswer.syscall (pid : UInt32) : WaitAnswer → Syscall
  | .reaped _ => .wait pid true
  | _ => .wait pid false

/-- A turn of `waitpid_retry`: nothing if it goes on. -/
def waitpidRetry (answer : WaitAnswer) : Option (Except String WaitStatus) :=
  if answer = .interrupted then none else some (waitpid answer)

/-- What a kill by `libc` or `nix` returns. -/
def KillAnswer.result : KillAnswer → Except String Unit
  | .delivered => .ok ()
  | .esrch => .error "ESRCH"
  | .errno name => .error name

/-! ## The child of the standard library -/

/-- `std::process::Child`. -/
structure ProcessChild where
  pid : UInt32
  status : Option ExitCause := none

namespace ProcessChild

def tryWait (c : ProcessChild) (answer : WaitAnswer) : Called ProcessChild (Option ExitCause) :=
  match c.status with
  | some cause => ⟨c,.ok (some cause),[]⟩
  | none =>
    match answer with
    | .interrupted => ⟨c,.error "EINTR",[answer.syscall c.pid]⟩
    | .running => ⟨c,.ok none,[answer.syscall c.pid]⟩
    | .reaped cause => ⟨{ c with status := some cause },.ok (some cause),[answer.syscall c.pid]⟩
    | .failed errno => ⟨c,.error errno,[answer.syscall c.pid]⟩

/-- One turn of `wait`; no cause if it goes on. -/
def wait (c : ProcessChild) (answer : WaitAnswer) : Called ProcessChild (Option ExitCause) :=
  match c.status with
  | some cause => ⟨c,.ok (some cause),[]⟩
  | none =>
    match answer with
    | .interrupted | .running => ⟨c,.ok none,[answer.syscall c.pid]⟩
    | .reaped cause => ⟨{ c with status := some cause },.ok (some cause),[answer.syscall c.pid]⟩
    | .failed errno => ⟨c,.error errno,[answer.syscall c.pid]⟩

def kill (c : ProcessChild) (answer : KillAnswer) : Called ProcessChild Unit :=
  if c.status.isSome then ⟨c,.ok (),[]⟩ else ⟨c,answer.result,[.signal c.pid sigkill]⟩

end ProcessChild

/-! ## The handle -/

inductive PipedInner
  | std (child : ProcessChild) (done : Option ExitStatus)
  | detached (pid : UInt32) (done : Option ExitStatus)

structure PipedChild where
  pid : UInt32
  inner : PipedInner
  stdin : Bool
  stdout : Bool
  stderr : Bool

/-- What a call returns; a wait may go on. -/
inductive PipedReturn
  | polled (result : Except String (Option ExitStatus))
  | waited (result : Except String ExitStatus)
  | waiting
  | killed (result : Except String Unit)
  | signalled (result : Except SignalError Unit)
  | took (there : Bool)

/-- A call of the handle, or the next turn of a wait that goes on. -/
inductive PipedCall
  | tryWait (answer : WaitAnswer)
  | wait (answer : WaitAnswer)
  | kill (answer : KillAnswer)
  | signal (signo : Int) (answer : KillAnswer)
  | takeStdin
  | takeStdout
  | takeStderr
  deriving DecidableEq, Repr

/-- What is seen of a call. -/
inductive Happening
  | syscall (s : Syscall)
  | returned (r : PipedReturn)

namespace PipedChild

def done (c : PipedChild) : Option ExitStatus :=
  match c.inner with
  | .std _ done | .detached _ done => done

def tryWait (c : PipedChild) (answer : WaitAnswer) : PipedChild × PipedReturn × List Syscall :=
  match c.inner with
  | .std child done =>
    match done with
    | some status => (c,.polled (.ok (some status)),[])
    | none =>
      let called := child.tryWait answer
      match called.result with
      | .error e => ({ c with inner := .std called.state none },.polled (.error e),called.syscalls)
      | .ok cause =>
        let status := cause.map convertStd
        ({ c with inner := .std called.state status },.polled (.ok status),called.syscalls)
  | .detached pid done =>
    match done with
    | some status => (c,.polled (.ok (some status)),[])
    | none =>
      match waitpidRetry answer with
      | none => (c,.waiting,[answer.syscall pid])
      | some (.error e) => (c,.polled (.error e),[answer.syscall pid])
      | some (.ok status) =>
        let status := convertWait status
        ({ c with inner := .detached pid status },.polled (.ok status),[answer.syscall pid])

def wait (c : PipedChild) (answer : WaitAnswer) : PipedChild × PipedReturn × List Syscall :=
  let c := { c with stdin := false }
  match c.inner with
  | .std child done =>
    match done with
    | some status => (c,.waited (.ok status),[])
    | none =>
      let called := child.wait answer
      match called.result with
      | .error e => ({ c with inner := .std called.state none },.waited (.error e),called.syscalls)
      | .ok none => ({ c with inner := .std called.state none },.waiting,called.syscalls)
      | .ok (some cause) =>
        ({ c with inner := .std called.state (some (convertStd cause)) },.waited (.ok (convertStd cause)),called.syscalls)
  | .detached pid done =>
    match done with
    | some status => (c,.waited (.ok status),[])
    | none =>
      match waitpidRetry answer with
      | none => (c,.waiting,[answer.syscall pid])
      | some (.error e) => (c,.waited (.error e),[answer.syscall pid])
      | some (.ok status) =>
        match convertWait status with
        | some status => ({ c with inner := .detached pid (some status) },.waited (.ok status),[answer.syscall pid])
        | none => (c,.waiting,[answer.syscall pid])

def kill (c : PipedChild) (answer : KillAnswer) : PipedChild × PipedReturn × List Syscall :=
  match c.inner with
  | .std child done =>
    let called := child.kill answer
    ({ c with inner := .std called.state done },.killed called.result,called.syscalls)
  | .detached pid done =>
    if done.isSome then (c,.killed (.ok ()),[]) else (c,.killed answer.result,[.signal pid sigkill])

def signal (c : PipedChild) (signo : Int) (answer : KillAnswer) : PipedReturn × List Syscall :=
  if c.done.isSome then (.signalled (.error (.notFound c.pid)),[])
  else
    let (result,syscalls) := signalProcess c.pid signo answer
    (.signalled result,syscalls)

def call (c : PipedChild) : PipedCall → PipedChild × PipedReturn × List Syscall
  | .tryWait answer => c.tryWait answer
  | .wait answer => c.wait answer
  | .kill answer => c.kill answer
  | .signal signo answer => (c,c.signal signo answer)
  | .takeStdin => ({ c with stdin := false },.took c.stdin,[])
  | .takeStdout => ({ c with stdout := false },.took c.stdout,[])
  | .takeStderr => ({ c with stderr := false },.took c.stderr,[])

/-- A call with what is seen of it. -/
def seen (c : PipedChild) (call : PipedCall) : PipedChild × List Happening :=
  let (c,returned,syscalls) := c.call call
  (c,syscalls.map .syscall ++ [.returned returned])

end PipedChild

/-! ## What a handle is to do -/

/-- A system call that reaps the child. -/
def Happening.Reaps (p : UInt32) : Happening → Prop
  | .syscall s => s.Reaps p
  | .returned _ => False

/-- A system call on the pid of the child. -/
def Happening.Touches (p : UInt32) : Happening → Prop
  | .syscall (.signal target _) | .syscall (.wait target _) => target = p
  | .returned _ => False

/-- The status a poll or a wait returns. -/
def Happening.status : Happening → Option ExitStatus
  | .returned (.polled (.ok status)) => status
  | .returned (.waited (.ok status)) => some status
  | _ => none

/-- A poll or a wait returns this status. -/
def Happening.Repeats (status : ExitStatus) : Happening → Prop
  | .returned (.polled result) => result = .ok (some status)
  | .returned (.waited result) => result = .ok status
  | .returned .waiting => False
  | _ => True

/-- A cause that `nix` has a status for. -/
def ExitCause.Named : ExitCause → Prop
  | .exited _ => True
  | .killed signo => knownSignal signo = true

instance (cause : ExitCause) : Decidable cause.Named := by
  unfold ExitCause.Named
  split <;> infer_instance

/-- An answer that has no cause, or one that `nix` has a status for. -/
def WaitAnswer.Named : WaitAnswer → Prop
  | .reaped cause => cause.Named
  | _ => True

instance (answer : WaitAnswer) : Decidable answer.Named := by
  unfold WaitAnswer.Named
  split <;> infer_instance

/-- The child dies, in this call, of a signal unknown to `nix`. -/
def PipedCall.Unnamed : PipedCall → Prop
  | .tryWait answer | .wait answer => ¬ answer.Named
  | _ => False

instance (call : PipedCall) : Decidable call.Unnamed := by
  unfold PipedCall.Unnamed
  split <;> infer_instance

/-- A call that is made on the pid, unless the handle knows how the child ended. -/
def PipedCall.Touches (p : UInt32) : PipedCall → Prop
  | .tryWait _ | .wait _ | .kill _ => True
  | .signal signo _ => addressable p = true ∧ knownSignal signo = true
  | .takeStdin | .takeStdout | .takeStderr => False

/-- A call in which the system answers as documented, a poll that does not block being
    interrupted by nothing, and the child dies of no signal unknown to `nix`. -/
def PipedCall.Usual : PipedCall → Prop
  | .tryWait answer => answer ≠ .interrupted ∧ answer.Named
  | .wait answer => answer.Named
  | _ => True

instance (call : PipedCall) : Decidable call.Usual := by
  unfold PipedCall.Usual
  split <;> infer_instance

namespace PipedChild

/-- A handle of the standard library's child, which knows what that knows. -/
def stdAt (p : UInt32) (status : Option ExitCause) (stdin stdout stderr : Bool) : PipedChild :=
  ⟨p,.std ⟨p,status⟩ (status.map convertStd),stdin,stdout,stderr⟩

/-- A handle of its pid that knows as much. -/
def detachedAt (p : UInt32) (status : Option ExitCause) (stdin stdout stderr : Bool) : PipedChild :=
  ⟨p,.detached p (status.map convertStd),stdin,stdout,stderr⟩

/-- What `spawn_std` returns, with the ends it kept. -/
def std (pid : UInt32) (stdin stdout stderr : Bool) : PipedChild := stdAt pid none stdin stdout stderr

/-- What `spawn_detached` returns. -/
def detached (pid : UInt32) (stdin stdout stderr : Bool) : PipedChild := detachedAt pid none stdin stdout stderr

def Alike (p : UInt32) (c d : PipedChild) : Prop :=
  ∃ status stdin stdout stderr, c = stdAt p status stdin stdout stderr ∧ d = detachedAt p status stdin stdout stderr

/-- A child that ended in a way `nix` has a status for. -/
theorem retry_named {cause : ExitCause} (named : cause.Named) :
    ∃ status, waitpidRetry (.reaped cause) = some (.ok status) ∧ convertWait status = some (convertStd cause) := by
  cases cause with
  | exited code => exact ⟨_,rfl,rfl⟩
  | killed signo =>
    have known : NixSignal.tryFrom signo = some ⟨signo,named⟩ := dif_pos named
    refine ⟨.signaled ⟨signo,named⟩,?_,?_⟩
    · change some (waitpid (.reaped (.killed signo))) = _
      simp only [waitpid,known]
    · simp only [convertWait,convertStd,signame,known]

theorem retry_unnamed {cause : ExitCause} (unnamed : ¬ cause.Named) : waitpidRetry (.reaped cause) = some (.error "EINVAL") := by
  cases cause with
  | exited code => exact absurd trivial unnamed
  | killed signo =>
    have unknown : NixSignal.tryFrom signo = none := dif_neg unnamed
    change some (waitpid (.reaped (.killed signo))) = _
    simp only [waitpid,unknown]

theorem alike_tryWait {p : UInt32} {c d : PipedChild} (alike : Alike p c d) {answer : WaitAnswer}
    (usual : (PipedCall.tryWait answer).Usual) :
    Alike p (c.tryWait answer).1 (d.tryWait answer).1 ∧ (c.tryWait answer).2 = (d.tryWait answer).2 := by
  obtain ⟨status,stdin,stdout,stderr,rfl,rfl⟩ := alike
  cases status with
  | some cause => exact ⟨⟨some cause,stdin,stdout,stderr,rfl,rfl⟩,rfl⟩
  | none =>
    cases answer with
    | interrupted => exact absurd rfl usual.1
    | running | failed => exact ⟨⟨none,stdin,stdout,stderr,rfl,rfl⟩,rfl⟩
    | reaped cause =>
      obtain ⟨status,retried,converted⟩ := retry_named (show cause.Named from usual.2)
      simp only [tryWait,stdAt,detachedAt,Option.map_none,ProcessChild.tryWait,retried,converted,Option.map_some]
      exact ⟨⟨some cause,stdin,stdout,stderr,rfl,rfl⟩,trivial⟩

theorem alike_wait {p : UInt32} {c d : PipedChild} (alike : Alike p c d) {answer : WaitAnswer}
    (usual : (PipedCall.wait answer).Usual) :
    Alike p (c.wait answer).1 (d.wait answer).1 ∧ (c.wait answer).2 = (d.wait answer).2 := by
  obtain ⟨status,stdin,stdout,stderr,rfl,rfl⟩ := alike
  cases status with
  | some cause => exact ⟨⟨some cause,false,stdout,stderr,rfl,rfl⟩,rfl⟩
  | none =>
    cases answer with
    | interrupted | running | failed => exact ⟨⟨none,false,stdout,stderr,rfl,rfl⟩,rfl⟩
    | reaped cause =>
      obtain ⟨status,retried,converted⟩ := retry_named (show cause.Named from usual)
      simp only [wait,stdAt,detachedAt,Option.map_none,ProcessChild.wait,retried,converted]
      exact ⟨⟨some cause,false,stdout,stderr,rfl,rfl⟩,trivial⟩

theorem alike_call {p : UInt32} {c d : PipedChild} (alike : Alike p c d) {call : PipedCall} (usual : call.Usual) :
    Alike p (c.call call).1 (d.call call).1 ∧ (c.call call).2 = (d.call call).2 := by
  cases call with
  | tryWait answer => exact alike_tryWait alike usual
  | wait answer => exact alike_wait alike usual
  | kill answer =>
    obtain ⟨status,stdin,stdout,stderr,rfl,rfl⟩ := alike
    cases status with
    | some cause => exact ⟨⟨some cause,stdin,stdout,stderr,rfl,rfl⟩,rfl⟩
    | none => exact ⟨⟨none,stdin,stdout,stderr,rfl,rfl⟩,rfl⟩
  | signal signo answer =>
    obtain ⟨status,stdin,stdout,stderr,rfl,rfl⟩ := alike
    exact ⟨⟨status,stdin,stdout,stderr,rfl,rfl⟩,rfl⟩
  | takeStdin =>
    obtain ⟨status,stdin,stdout,stderr,rfl,rfl⟩ := alike
    exact ⟨⟨status,false,stdout,stderr,rfl,rfl⟩,rfl⟩
  | takeStdout =>
    obtain ⟨status,stdin,stdout,stderr,rfl,rfl⟩ := alike
    exact ⟨⟨status,stdin,false,stderr,rfl,rfl⟩,rfl⟩
  | takeStderr =>
    obtain ⟨status,stdin,stdout,stderr,rfl,rfl⟩ := alike
    exact ⟨⟨status,stdin,stdout,false,rfl,rfl⟩,rfl⟩

theorem alike_seen {p : UInt32} {c d : PipedChild} (alike : Alike p c d) {call : PipedCall} (usual : call.Usual) :
    Alike p (c.seen call).1 (d.seen call).1 ∧ (c.seen call).2 = (d.seen call).2 := by
  obtain ⟨next,same⟩ := alike_call alike usual
  exact ⟨next,congrArg (fun seen : PipedReturn × List Syscall => seen.2.map Happening.syscall ++ [.returned seen.1]) same⟩

/-! ## What a call tells -/

/-- A call, by what the handle knows before and after it; one may miss that the child was
    reaped. -/
inductive Tells (p : UInt32) (blind : Prop) : Option ExitStatus → Option ExitStatus → List Happening → Prop
  | knows (status : ExitStatus) (log : List Happening)
    (quiet : ∀ b ∈ log, ¬ b.Touches p ∧ ¬ b.Reaps p ∧ b.Repeats status ∧ ∀ other, b.status = some other → other = status) :
    Tells p blind (some status) (some status) log
  | learns (status : ExitStatus) (r : PipedReturn) (given : (Happening.returned r).status = some status)
    (repeats : (Happening.returned r).Repeats status) :
    Tells p blind none (some status) [.syscall (.wait p true),.returned r]
  | asks (log : List Happening) (aware : ¬ blind) (running : ∀ b ∈ log, ¬ b.Reaps p ∧ b.status = none) : Tells p blind none none log
  | misses (r : PipedReturn) (why : blind) (nothing : (Happening.returned r).status = none) :
    Tells p blind none none [.syscall (.wait p true),.returned r]

/-- A handle of the child by its pid, whatever it knows. -/
def detachedWith (p : UInt32) (status : Option ExitStatus) (stdin stdout stderr : Bool) : PipedChild :=
  ⟨p,.detached p status,stdin,stdout,stderr⟩

theorem quiet_return {p : UInt32} {status : ExitStatus} {r : PipedReturn} (repeats : (Happening.returned r).Repeats status)
    (same : ∀ other, (Happening.returned r).status = some other → other = status) :
    ∀ b ∈ [Happening.returned r], ¬ b.Touches p ∧ ¬ b.Reaps p ∧ b.Repeats status ∧
      ∀ other, b.status = some other → other = status := by
  intro b inside
  rw [List.mem_singleton.mp inside]
  exact ⟨id,id,repeats,same⟩

theorem signal_tells {p : UInt32} {blind : Prop} (aware : ¬ blind) {c : PipedChild} (target : c.pid = p) (signo : Int)
    (answer : KillAnswer) : Tells p blind c.done c.done (c.seen (.signal signo answer)).2 := by
  subst target
  change Tells _ _ _ _ (List.map _ (c.signal signo answer).2 ++ [.returned (c.signal signo answer).1])
  unfold signal
  cases c.done with
  | some status => exact .knows status _ (quiet_return trivial fun _ given => nomatch given)
  | none =>
    refine .asks _ aware fun b inside => ?_
    rcases List.mem_append.mp inside with called | returned
    · obtain ⟨s,made,rfl⟩ := List.mem_map.mp called
      exact ⟨signalProcess_fine c.pid signo answer s made,rfl⟩
    · rw [List.mem_singleton.mp returned]
      exact ⟨id,rfl⟩

theorem take_tells {p : UInt32} {blind : Prop} (aware : ¬ blind) (status : Option ExitStatus) (there : Bool) :
    Tells p blind status status [.returned (.took there)] := by
  cases status with
  | some status => exact .knows status _ (quiet_return trivial fun _ given => nomatch given)
  | none => exact .asks _ aware fun b inside => by rw [List.mem_singleton.mp inside]; exact ⟨id,rfl⟩

theorem asks_tells {p : UInt32} {blind : Prop} (aware : ¬ blind) {syscall : Syscall} (running : ¬ syscall.Reaps p) {r : PipedReturn}
    (nothing : (Happening.returned r).status = none) : Tells p blind none none [.syscall syscall,.returned r] := by
  refine .asks _ aware fun b inside => ?_
  rcases List.mem_cons.mp inside with rfl | last
  · exact ⟨running,rfl⟩
  · rw [List.mem_singleton.mp last]
    exact ⟨id,nothing⟩

theorem wait_tells {p : UInt32} {blind : Prop} (aware : ¬ blind) {r : PipedReturn}
    (nothing : (Happening.returned r).status = none) : Tells p blind none none [.syscall (.wait p false),.returned r] :=
  asks_tells aware (show ¬ Syscall.wait p false = .wait p true from fun same => nomatch same) nothing

theorem kill_tells {p : UInt32} {blind : Prop} (aware : ¬ blind) (result : Except String Unit) :
    Tells p blind none none [.syscall (.signal p sigkill),.returned (.killed result)] :=
  asks_tells aware (show ¬ Syscall.signal p sigkill = .wait p true from fun same => nomatch same) rfl

theorem known_tells {p : UInt32} {blind : Prop} (status : ExitStatus) {r : PipedReturn}
    (repeats : (Happening.returned r).Repeats status)
    (same : ∀ other, (Happening.returned r).status = some other → other = status) :
    Tells p blind (some status) (some status) [.returned r] := .knows status _ (quiet_return repeats same)

theorem std_tells (p : UInt32) (status : Option ExitCause) (stdin stdout stderr : Bool) (call : PipedCall) :
    ∃ status' stdin' stdout' stderr',
      ((stdAt p status stdin stdout stderr).seen call).1 = stdAt p status' stdin' stdout' stderr' ∧
        Tells p False (status.map convertStd) (status'.map convertStd) ((stdAt p status stdin stdout stderr).seen call).2 := by
  cases call with
  | signal signo answer =>
    exact ⟨status,stdin,stdout,stderr,rfl,signal_tells id (c := stdAt p status stdin stdout stderr) rfl signo answer⟩
  | takeStdin => exact ⟨status,false,stdout,stderr,rfl,take_tells id _ _⟩
  | takeStdout => exact ⟨status,stdin,false,stderr,rfl,take_tells id _ _⟩
  | takeStderr => exact ⟨status,stdin,stdout,false,rfl,take_tells id _ _⟩
  | kill answer =>
    cases status with
    | some cause => exact ⟨some cause,stdin,stdout,stderr,rfl,known_tells _ trivial fun _ given => nomatch given⟩
    | none => exact ⟨none,stdin,stdout,stderr,rfl,kill_tells id _⟩
  | tryWait answer =>
    cases status with
    | some cause => exact ⟨some cause,stdin,stdout,stderr,rfl,known_tells _ rfl fun _ given => (Option.some.inj given).symm⟩
    | none =>
      cases answer with
      | interrupted | running | failed => exact ⟨none,stdin,stdout,stderr,rfl,wait_tells id rfl⟩
      | reaped cause => exact ⟨some cause,stdin,stdout,stderr,rfl,.learns (convertStd cause) _ rfl rfl⟩
  | wait answer =>
    cases status with
    | some cause => exact ⟨some cause,false,stdout,stderr,rfl,known_tells _ rfl fun _ given => (Option.some.inj given).symm⟩
    | none =>
      cases answer with
      | interrupted | running | failed => exact ⟨none,false,stdout,stderr,rfl,wait_tells id rfl⟩
      | reaped cause => exact ⟨some cause,false,stdout,stderr,rfl,.learns (convertStd cause) _ rfl rfl⟩

theorem detached_tells (p : UInt32) (status : Option ExitStatus) (stdin stdout stderr : Bool) (call : PipedCall) :
    ∃ status' stdin' stdout' stderr',
      ((detachedWith p status stdin stdout stderr).seen call).1 = detachedWith p status' stdin' stdout' stderr' ∧
        Tells p call.Unnamed status status' ((detachedWith p status stdin stdout stderr).seen call).2 := by
  cases call with
  | signal signo answer =>
    exact ⟨status,stdin,stdout,stderr,rfl,signal_tells id (c := detachedWith p status stdin stdout stderr) rfl signo answer⟩
  | takeStdin => exact ⟨status,false,stdout,stderr,rfl,take_tells id _ _⟩
  | takeStdout => exact ⟨status,stdin,false,stderr,rfl,take_tells id _ _⟩
  | takeStderr => exact ⟨status,stdin,stdout,false,rfl,take_tells id _ _⟩
  | kill answer =>
    cases status with
    | some status => exact ⟨some status,stdin,stdout,stderr,rfl,known_tells _ trivial fun _ given => nomatch given⟩
    | none => exact ⟨none,stdin,stdout,stderr,rfl,kill_tells id _⟩
  | tryWait answer =>
    cases status with
    | some status => exact ⟨some status,stdin,stdout,stderr,rfl,known_tells _ rfl fun _ given => (Option.some.inj given).symm⟩
    | none =>
      cases answer with
      | interrupted | running | failed =>
        exact ⟨none,stdin,stdout,stderr,rfl,wait_tells (fun unnamed => unnamed trivial) rfl⟩
      | reaped cause =>
        by_cases named : cause.Named
        · obtain ⟨status,retried,converted⟩ := retry_named named
          have learnt : (detachedWith p none stdin stdout stderr).seen (.tryWait (.reaped cause)) =
              (detachedWith p (some (convertStd cause)) stdin stdout stderr,
                [.syscall (.wait p true),.returned (.polled (.ok (some (convertStd cause))))]) := by
            simp only [seen,PipedChild.call,tryWait,detachedWith,retried,converted]
            rfl
          rw [learnt]
          exact ⟨_,stdin,stdout,stderr,rfl,.learns _ _ rfl rfl⟩
        · have retried := retry_unnamed named
          have missed : (detachedWith p none stdin stdout stderr).seen (.tryWait (.reaped cause)) =
              (detachedWith p none stdin stdout stderr,[.syscall (.wait p true),.returned (.polled (.error "EINVAL"))]) := by
            simp only [seen,PipedChild.call,tryWait,detachedWith,retried]
            rfl
          rw [missed]
          exact ⟨none,stdin,stdout,stderr,rfl,.misses _ named rfl⟩
  | wait answer =>
    cases status with
    | some status => exact ⟨some status,false,stdout,stderr,rfl,known_tells _ rfl fun _ given => (Option.some.inj given).symm⟩
    | none =>
      cases answer with
      | interrupted | running | failed =>
        exact ⟨none,false,stdout,stderr,rfl,wait_tells (fun unnamed => unnamed trivial) rfl⟩
      | reaped cause =>
        by_cases named : cause.Named
        · obtain ⟨status,retried,converted⟩ := retry_named named
          have learnt : (detachedWith p none stdin stdout stderr).seen (.wait (.reaped cause)) =
              (detachedWith p (some (convertStd cause)) false stdout stderr,
                [.syscall (.wait p true),.returned (.waited (.ok (convertStd cause)))]) := by
            simp only [seen,PipedChild.call,wait,detachedWith,retried,converted]
            rfl
          rw [learnt]
          exact ⟨_,false,stdout,stderr,rfl,.learns _ _ rfl rfl⟩
        · have retried := retry_unnamed named
          have missed : (detachedWith p none stdin stdout stderr).seen (.wait (.reaped cause)) =
              (detachedWith p none false stdout stderr,[.syscall (.wait p true),.returned (.waited (.error "EINVAL"))]) := by
            simp only [seen,PipedChild.call,wait,detachedWith,retried]
            rfl
          rw [missed]
          exact ⟨none,false,stdout,stderr,rfl,.misses _ named rfl⟩

/-! ## Runs of calls -/

section
variable {p : UInt32} {blind : Prop} {before after : Option ExitStatus} {log : List Happening}

theorem Tells.known (tells : Tells p blind before after log) {status : ExitStatus} (knows : before = some status) :
    ∀ b ∈ log, ¬ b.Touches p ∧ b.Repeats status := by
  cases tells with
  | knows known _ quiet =>
    cases knows
    exact fun b inside => ⟨(quiet b inside).1,(quiet b inside).2.2.1⟩
  | _ => cases knows

theorem status_syscall (s : Syscall) : (Happening.syscall s).status = none := rfl

theorem Tells.status_iff (tells : Tells p blind before after log) (status : ExitStatus) :
    after = some status ↔ before = some status ∨ ∃ b ∈ log, b.status = some status := by
  cases tells with
  | knows known _ quiet =>
    refine ⟨.inl,?_⟩
    rintro (same | ⟨b,inside,given⟩)
    · exact same
    · rw [(quiet b inside).2.2.2 status given]
  | learns known r given _ => simp [given,status_syscall]
  | asks _ _ running =>
    refine ⟨.inl,?_⟩
    rintro (same | ⟨b,inside,given⟩)
    · exact same
    · exact absurd (given.symm.trans (running b inside).2) (Option.some_ne_none status)
  | misses r _ nothing => simp [nothing,status_syscall]

theorem Tells.repeats (tells : Tells p blind before after log) (status : ExitStatus) :
    NoneAfter (fun b => b.status = some status) (fun b => ¬ b.Repeats status) log := by
  cases tells with
  | knows known _ quiet =>
    by_cases same : status = known
    · subst same
      exact noneAfter_of_good fun b inside wrong => wrong (quiet b inside).2.2.1
    · exact noneAfter_of_open fun b inside given => same ((quiet b inside).2.2.2 status given)
  | learns known r given _ => exact List.pairwise_pair.mpr fun closes => nomatch closes
  | asks _ _ running =>
    exact noneAfter_of_open fun b inside given => absurd (given.symm.trans (running b inside).2) (Option.some_ne_none status)
  | misses r _ nothing => exact List.pairwise_pair.mpr fun closes => nomatch closes

/-- A call touches the pid only before it reaps. -/
theorem Tells.fine (tells : Tells p blind before after log) : NoneAfter (Happening.Reaps p) (Happening.Touches p) log := by
  cases tells with
  | knows known _ quiet => exact noneAfter_of_good fun b inside => (quiet b inside).1
  | learns known r _ _ => exact List.pairwise_pair.mpr fun _ => id
  | asks _ _ running => exact noneAfter_of_open fun b inside => (running b inside).1
  | misses r _ _ => exact List.pairwise_pair.mpr fun _ => id

/-- What reaps is learnt, or else missed. -/
theorem Tells.reaps_iff (tells : Tells p blind before after log) :
    (after ≠ none ∨ before = none ∧ blind) ↔ before ≠ none ∨ ∃ b ∈ log, b.Reaps p := by
  cases tells with
  | knows known _ quiet => simp
  | learns known r _ _ => simp [Happening.Reaps,Syscall.Reaps]
  | asks _ aware running =>
    refine iff_of_false ?_ ?_
    · rintro (known | ⟨_,missed⟩)
      · exact known rfl
      · exact aware missed
    · rintro (known | ⟨b,inside,reaps⟩)
      · exact known rfl
      · exact (running b inside).1 reaps
  | misses r why _ => simp [why,Happening.Reaps,Syscall.Reaps]

end

def HoldsStd (p : UInt32) (c : PipedChild) : Prop := ∃ status stdin stdout stderr, c = stdAt p status stdin stdout stderr

theorem HoldsStd.seen {p : UInt32} {c : PipedChild} (holds : c.HoldsStd p) (call : PipedCall) :
    (c.seen call).1.HoldsStd p ∧ Tells p False c.done (c.seen call).1.done (c.seen call).2 := by
  obtain ⟨status,stdin,stdout,stderr,rfl⟩ := holds
  obtain ⟨status',stdin',stdout',stderr',next,tells⟩ := std_tells p status stdin stdout stderr call
  rw [next]
  exact ⟨⟨status',stdin',stdout',stderr',rfl⟩,tells⟩

/-- From spawns that are alike, whatever calls are made, the two handles make the same system
    calls and return the same; and once a poll or a wait has returned a status, all later
    ones return that. -/
theorem piped_handles_agree (p : UInt32) (stdin stdout stderr : Bool) {calls : List PipedCall}
    (usual : ∀ call ∈ calls, call.Usual) :
    logged seen (std p stdin stdout stderr) calls = logged seen (detached p stdin stdout stderr) calls ∧
      ∀ status, NoneAfter (fun b => b.status = some status) (fun b => ¬ b.Repeats status)
        (logged seen (std p stdin stdout stderr) calls) := by
  have start : (std p stdin stdout stderr).HoldsStd p := ⟨none,stdin,stdout,stderr,rfl⟩
  have both : Alike p (std p stdin stdout stderr) (detached p stdin stdout stderr) := ⟨none,stdin,stdout,stderr,rfl,rfl⟩
  refine ⟨logged_alike (Alike p) ?_ usual both,fun status => ?_⟩
  · exact fun _ _ _ alike usual => alike_seen alike usual
  refine ((noneAfter_logged_iff (HoldsStd p) (fun c => c.done = some status) (fun c call holds => (holds.seen call).1)
    (fun c call holds => (holds.seen call).2.repeats status) (fun c call holds => (holds.seen call).2.status_iff status) calls
    start).mpr fun before call after _ knows b inside wrong => ?_).1
  have held := reached_inv (fun c call (holds : c.HoldsStd p) => (holds.seen call).1) before start
  exact wrong ((held.seen call).2.known knows b inside).2

/-- Polled, signalled, waited for through an interrupt, reaped, and then polled and killed. -/
theorem piped_handles_agree_reaped :
    logged seen (std 7 true true true) [.tryWait .running,.signal 15 .delivered,.takeStdout,.wait .interrupted,
        .wait (.reaped (.killed 15)),.tryWait (.failed "ECHILD"),.kill .esrch] =
      logged seen (detached 7 true true true) [.tryWait .running,.signal 15 .delivered,.takeStdout,.wait .interrupted,
        .wait (.reaped (.killed 15)),.tryWait (.failed "ECHILD"),.kill .esrch] :=
  (piped_handles_agree 7 true true true (by decide)).1

section
variable {p : UInt32} {stdin stdout stderr : Bool}

theorem syscall_touches (answer : WaitAnswer) : Happening.Touches p (.syscall (answer.syscall p)) := by cases answer <;> rfl

theorem signalProcess_only {signo : Int} {answer : KillAnswer} :
    ∀ s ∈ (signalProcess p signo answer).2, s = .signal p signo := by
  intro s inside
  unfold signalProcess at inside
  split_ifs at inside
  · cases inside
  · cases inside
  · cases answer <;> exact List.mem_singleton.mp inside

theorem detached_touches (call : PipedCall) :
    (∃ b ∈ ((detachedWith p none stdin stdout stderr).seen call).2, b.Touches p) ↔ call.Touches p := by
  cases call with
  | tryWait answer =>
    refine iff_of_true ⟨.syscall (answer.syscall p),?_,syscall_touches answer⟩ trivial
    simp only [seen,PipedChild.call,tryWait,detachedWith]
    split <;> simp
  | wait answer =>
    refine iff_of_true ⟨.syscall (answer.syscall p),?_,syscall_touches answer⟩ trivial
    simp only [seen,PipedChild.call,wait,detachedWith]
    split
    · simp
    · simp
    · split <;> simp
  | kill answer => exact iff_of_true ⟨.syscall (.signal p sigkill),List.mem_cons_self,rfl⟩ trivial
  | signal signo answer =>
    refine Iff.trans ?_ (signalProcess_signals signo answer)
    constructor
    · rintro ⟨b,inside,touches⟩
      rcases List.mem_append.mp inside with called | returned
      · obtain ⟨s,made,rfl⟩ := List.mem_map.mp called
        have called : s ∈ (signalProcess p signo answer).2 := made
        refine ⟨s,called,?_⟩
        rw [signalProcess_only s called]
        rfl
      · rw [List.mem_singleton.mp returned] at touches
        cases touches
    · rintro ⟨s,made,signals⟩
      refine ⟨.syscall s,List.mem_append_left _ (List.mem_map.mpr ⟨s,made,rfl⟩),?_⟩
      cases s with
      | signal target signo => exact signals
      | wait target reaped => cases signals
  | takeStdin | takeStdout | takeStderr =>
    refine iff_of_false ?_ id
    rintro ⟨b,inside,touches⟩
    rw [List.mem_singleton.mp inside] at touches
    cases touches

end

def HoldsPid (p : UInt32) (c : PipedChild) : Prop := ∃ status stdin stdout stderr, c = detachedWith p status stdin stdout stderr

theorem HoldsPid.seen {p : UInt32} {c : PipedChild} (holds : c.HoldsPid p) (call : PipedCall) :
    (c.seen call).1.HoldsPid p ∧ Tells p call.Unnamed c.done (c.seen call).1.done (c.seen call).2 := by
  obtain ⟨status,stdin,stdout,stderr,rfl⟩ := holds
  obtain ⟨status',stdin',stdout',stderr',next,tells⟩ := detached_tells p status stdin stdout stderr call
  rw [next]
  exact ⟨⟨status',stdin',stdout',stderr',rfl⟩,tells⟩

/-- A call of a handle that knows of no end touches the pid as the call says, and of one that
    knows it, not at all. -/
theorem HoldsPid.touches {p : UInt32} {c : PipedChild} (holds : c.HoldsPid p) (call : PipedCall) :
    (∃ b ∈ (c.seen call).2, b.Touches p) ↔ c.done = none ∧ call.Touches p := by
  obtain ⟨status,stdin,stdout,stderr,rfl⟩ := id holds
  cases status with
  | none =>
    rw [detached_touches]
    exact (and_iff_right rfl).symm
  | some status =>
    refine iff_of_false ?_ fun both => nomatch both.1
    rintro ⟨b,inside,touches⟩
    exact ((holds.seen call).2.known rfl b inside).1 touches

/-- A detached handle, and whether it has missed how the child ended. -/
def watched (s : PipedChild × Bool) (call : PipedCall) : (PipedChild × Bool) × List Happening :=
  (((s.1.seen call).1,s.2 || decide call.Unnamed),(s.1.seen call).2)

theorem watched_eq (calls : List PipedCall) (c : PipedChild) (missed : Bool) :
    logged watched (c,missed) calls = logged seen c calls ∧
      reached watched (c,missed) calls = (reached seen c calls,missed || calls.any fun call => decide call.Unnamed) := by
  induction calls generalizing c missed with
  | nil => exact ⟨rfl,by simp [reached]⟩
  | cons call calls ih =>
    obtain ⟨same,ends⟩ := ih (c.seen call).1 (missed || decide call.Unnamed)
    refine ⟨congrArg ((c.seen call).2 ++ ·) same,?_⟩
    rw [List.any_cons,← Bool.or_assoc]
    exact ends

/-- The child was reaped, and the handle knows it or has missed it. -/
def Gone (s : PipedChild × Bool) : Prop := s.1.done ≠ none ∨ s.2 = true

theorem HoldsPid.gone {p : UInt32} {s : PipedChild × Bool} (holds : s.1.HoldsPid p) (call : PipedCall) :
    Gone (watched s call).1 ↔ Gone s ∨ ∃ b ∈ (watched s call).2, b.Reaps p := by
  have reaps := (holds.seen call).2.reaps_iff
  have noted : (s.2 || decide call.Unnamed) = true ↔ s.2 = true ∨ call.Unnamed := by rw [Bool.or_eq_true,decide_eq_true_iff]
  unfold Gone watched
  dsimp only
  rw [noted]
  constructor
  · rintro (known | missed | unnamed)
    · exact (reaps.mp (.inl known)).imp_left .inl
    · exact .inl (.inr missed)
    · by_cases knew : s.1.done = none
      · exact (reaps.mp (.inr ⟨knew,unnamed⟩)).imp_left .inl
      · exact .inl (.inl knew)
  · rintro ((known | missed) | reaped)
    · exact .inl ((reaps.mpr (.inl known)).resolve_right fun missed => known missed.1)
    · exact .inr (.inl missed)
    · exact (reaps.mpr (.inr reaped)).imp_right fun missed => .inr missed.2

/-- No pid is touched after its child was reaped: that the standard library's handle keeps in
    every run, whatever the system answers; the detached one exactly in the runs in which, once
    a call found the child dead of a signal that `nix` has no name for, and while the handle
    knows of no end, no call is made on the pid. -/
theorem piped_rule_iff (p : UInt32) (stdin stdout stderr : Bool) (calls : List PipedCall) :
    NoneAfter (Happening.Reaps p) (Happening.Touches p) (logged seen (std p stdin stdout stderr) calls) ∧
      (NoneAfter (Happening.Reaps p) (Happening.Touches p) (logged seen (detached p stdin stdout stderr) calls) ↔
        ∀ before call after, calls = before ++ call :: after → (∃ missed ∈ before, missed.Unnamed) →
          (reached seen (detached p stdin stdout stderr) before).done = none → ¬ call.Touches p) := by
  constructor
  · have start : (std p stdin stdout stderr).HoldsStd p := ⟨none,stdin,stdout,stderr,rfl⟩
    refine ((noneAfter_logged_iff (HoldsStd p) (fun c => c.done ≠ none) (fun c call holds => (holds.seen call).1)
      (fun c call holds => (holds.seen call).2.fine) (fun c call holds => ?_) calls start).mpr ?_).1
    · have reaps := (holds.seen call).2.reaps_iff
      rwa [and_false,or_false] at reaps
    · intro before call after _ knows b inside
      have held := reached_inv (fun c call (holds : c.HoldsStd p) => (holds.seen call).1) before start
      obtain ⟨status,known⟩ := Option.ne_none_iff_exists'.mp knows
      exact ((held.seen call).2.known known b inside).1
  · have start : (detached p stdin stdout stderr).HoldsPid p := ⟨none,stdin,stdout,stderr,rfl⟩
    have rule := noneAfter_logged_iff (fun s : PipedChild × Bool => s.1.HoldsPid p) Gone (fun s call holds => (holds.seen call).1)
      (fun s call holds => (holds.seen call).2.fine) (fun s call holds => HoldsPid.gone holds call) calls
      (s := (detached p stdin stdout stderr,false)) start
    have fresh : ¬ Gone (detached p stdin stdout stderr,false) := by
      rintro (known | missed)
      · exact known rfl
      · cases missed
    rw [(watched_eq calls _ false).1,and_iff_left fun gone => absurd gone fresh] at rule
    refine rule.trans (forall_congr' fun before => forall_congr' fun call => forall_congr' fun after => forall_congr' fun _ => ?_)
    have held := reached_inv (fun c call (holds : c.HoldsPid p) => (holds.seen call).1) before start
    rw [(watched_eq before _ false).2]
    constructor
    · rintro quiet ⟨missed,inside,unnamed⟩ unknown touches
      obtain ⟨b,made,touched⟩ := (held.touches call).mpr ⟨unknown,touches⟩
      exact quiet (.inr (List.any_eq_true.mpr ⟨missed,inside,decide_eq_true unnamed⟩)) b made touched
    · intro quiet gone b inside touched
      obtain ⟨unknown,touches⟩ := (held.touches call).mp ⟨b,inside,touched⟩
      have missing := gone.resolve_left fun known => known unknown
      obtain ⟨missed,inside,unnamed⟩ := List.any_eq_true.mp missing
      exact quiet ⟨missed,inside,of_decide_eq_true unnamed⟩ unknown touches

end PipedChild

end Termpane
