import Termpane.Accounting
import Termpane.Calls

/-!
# How the worker drives its grid

Whatever threads and callers do, the grid of a session is what a run of calls makes of a
new one: the bytes of the run are those the worker fed, and what else it gives to the
terminal are the sizes of the resizes.
-/
namespace Termpane

open Lib

section
variable [Vte] [UnicodeWidth]

namespace Session
variable {s t : Session} {a : Label} {config : WorkerConfig}

theorem feed_drives {w w' : Worker} {answers : Nat → ReplyAnswer} {batch : Bytes} (fed : w.feed answers batch = .ok w')
    (running : w.finalized = false) :
    ∃ d, w.grid.processAll (parts batch) = .ok d ∧ w'.grid = { d with grid := d.grid.host .drainPassthrough } := by
  have ok := Worker.feed_ok fed
  rw [running] at ok
  obtain ⟨p,pumped,_,rfl⟩ := ok
  refine ⟨p.grid,(Worker.pump_ok pumped).1,?_⟩
  obtain ⟨recorded,_,_⟩ := p.recordBatch_same batch
  have forwarded := (Worker.Forwards.same ((p.recordBatch batch).forwardEvents_forwards answers)).1
  change ((p.recordBatch batch).forwardEvents answers).grid = _
  rw [forwarded]
  unfold Worker.drainPassthrough
  rw [recorded]
  rfl

/-- The grid of the worker is that of some calls, whose bytes are those fed and whose
    other cues are counted as resizes. -/
def Driven (config : WorkerConfig) (s : Session) : Prop :=
  ∃ run, (DamageGrid.new config.rows config.cols config.scrollback).calls run = .ok s.worker.grid ∧
    typed (script run) = s.history.fed ∧ untypedCues (script run) = s.worker.resizes

theorem feed_resizes {w w' : Worker} {answers : Nat → ReplyAnswer} {batch : Bytes} (fed : w.feed answers batch = .ok w') :
    w'.resizes = w.resizes := by
  have ok := Worker.feed_ok fed
  split at ok
  · rw [ok]
  · obtain ⟨p,pumped,_,rfl⟩ := ok
    obtain ⟨_,_,_,_,rfl⟩ := (Worker.pump_ok pumped).2
    obtain ⟨_,_,_,recorded⟩ := Worker.recordBatch_eq { w with
      grid := _, frames := _, shared := { w.shared with frames := _ }, wasInSync := _ } batch
    obtain ⟨_,_,_,_,_,_,forwarded⟩ := Worker.forwardEvents_forwards (Worker.recordBatch _ batch) answers
    rw [forwarded,recorded]
    rfl

/-- What keeps the grid, the bytes fed and the count. -/
theorem Driven.of_same (driven : s.Driven config) (grid : t.worker.grid = s.worker.grid) (fed : t.history.fed = s.history.fed)
    (resizes : t.worker.resizes = s.worker.resizes) : t.Driven config := by
  unfold Driven
  rw [grid,fed,resizes]
  exact driven

/-- More calls. -/
theorem Driven.more (driven : s.Driven config) (run : List Call) (ran : s.worker.grid.calls run = .ok t.worker.grid)
    (fed : t.history.fed = s.history.fed ++ typed (script run))
    (resizes : t.worker.resizes = s.worker.resizes + untypedCues (script run)) : t.Driven config := by
  obtain ⟨before,reached,bytes,sizes⟩ := driven
  refine ⟨before ++ run,?_,?_,?_⟩
  · rw [DamageGrid.calls_append,reached,ok_bind,ran]
  · rw [script_append,typed_append,bytes,fed]
  · rw [script_append,untypedCues_append,sizes,resizes]

theorem Acts.driven (acts : s.Acts a t) (driven : s.Driven config) : t.Driven config := by
  cases acts with
  | idle worker told => exact driven.of_same (by rw [worker]) (told_eq told).1 (by rw [worker])
  | feed answers batch _ ran told =>
    cases final : s.worker.finalized with
    | true =>
      rw [if_pos final] at told
      have ok := Worker.feed_ok ran
      rw [if_pos final] at ok
      exact driven.of_same (by rw [ok]) (told_eq told).1 (feed_resizes ran)
    | false =>
      rw [if_neg (by rw [final]; exact Bool.false_ne_true)] at told
      obtain ⟨d,processed,grid⟩ := feed_drives ran final
      have cues : script ((parts batch).map .process ++ [.host .drainPassthrough]) = batch.map .byte := by
        rw [script_append,script_process,parts_flatten]
        exact List.append_nil _
      refine driven.more ((parts batch).map .process ++ [.host .drainPassthrough]) ?_ ?_ ?_
      · rw [DamageGrid.calls_append,DamageGrid.calls_process,processed,grid]
        rfl
      · rw [cues,typed_bytes]
        exact (told_eq told).1
      · rw [cues,untypedCues_bytes]
        exact feed_resizes ran
  | endStream kind _ worker told => exact driven.of_same (by rw [worker]; rfl) (told_eq told).1 (by rw [worker]; rfl)
  | serve answer call op ctl reply _ _ served told =>
    have fed := (told_eq told).1
    have nothing {c : HostCall} : s.history.fed ++ typed (script [.host c]) = s.history.fed := by
      cases c <;> exact List.append_nil _
    have obeys := Worker.handleCtl_obeys served
    generalize worker : t.worker = w at obeys
    cases obeys with
    | keep | observe | write | events => exact driven.of_same (by rw [worker]) fed (by rw [worker])
    | dirtySpans => exact driven.more [.host .dirtySpans] (by rw [worker]; rfl) (by rw [fed,nothing]) (by rw [worker]; rfl)
    | resize cols rows =>
      exact driven.more [.host (.setSize rows cols)] (by rw [worker]; rfl) (by rw [fed,nothing]) (by rw [worker]; rfl)
    | setColors fg bg =>
      exact driven.more [.host (.setReportedColors fg bg)] (by rw [worker]; rfl) (by rw [fed,nothing]) (by rw [worker]; rfl)
    | closeInput => exact driven.of_same (by rw [worker]; rfl) fed (by rw [worker]; rfl)
  | poll child now worker told =>
    obtain ⟨_,_,_,_,_,_,same⟩ := s.worker.pollExitState_exits child now
    exact driven.of_same (by rw [worker,same]) (told_eq told).1 (by rw [worker,same])
  | close polled worker told =>
    obtain ⟨_,_,_,_,_,_,same⟩ := s.worker.finishShutdown_exits polled
    exact driven.of_same (by rw [worker,same]) (told_eq told).1 (by rw [worker,same])

theorem driven_new (config : WorkerConfig) : (new config).Driven config := ⟨[],rfl,rfl,rfl⟩

theorem run_driven {labels : List Label} (ran : (new config).run labels = .ok s) : s.Driven config :=
  run_keeps (fun _ _ _ driven taken => (step_acts taken).driven driven) (driven_new config) ran

end Session

end

end Termpane
