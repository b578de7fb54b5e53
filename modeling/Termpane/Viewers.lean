import Termpane.Driving
import Termpane.Mirror
import Termpane.Scripts

/-!
# What a session hands out of its screen

The worker drives its grid by calls whose script is the output fed so far, with a size for
each resize. So the log of the output, as long as nothing was cut from it and nobody
resized, replays to the live screen, and the state a caller is sent replays to a mirror of it.
-/
namespace Termpane

open Lib

section
variable [Vte] [UnicodeWidth]

namespace Session
variable {s : Session} {config : WorkerConfig}

/-- In every state of every run in which the output was recorded whole and nobody resized,
    the log, however it is cut, takes a new terminal of the session's size to what the
    session shows, whatever was drained or set in between. -/
theorem output_log_replays (laws : VteLaws) (hasRows : 0 < config.rows) (hasCols : 0 < config.cols) {labels : List Label}
    (ran : (new config).run labels = .ok s) (records : config.recordOutput = true) (whole : s.worker.outputTruncated = false)
    (fixed : s.worker.resizes = 0) (limit : Nat) (chunks : List Bytes) (log : chunks.flatten = s.worker.outputLog) :
    ∃ e, (DamageGrid.new config.rows config.cols limit).processAll chunks = .ok e ∧ e.pictured = s.worker.grid.pictured := by
  obtain ⟨run,reached,bytes,sizes⟩ := run_driven ran
  obtain ⟨_,_,recording⟩ : s.worker.eventCap = config.eventCap ∧ s.worker.outputCapBytes = config.outputCapBytes ∧
      s.worker.recordOutput = config.recordOutput := by simpa [Worker.settings,new,Worker.new] using run_settings ran
  have logs := (run_accounts (s := new config) (Worker.accounts_new config) ran).log
  rw [← recording] at records
  have all : s.worker.outputLog = s.history.fed := by
    rw [logs.kept records]
    refine List.take_of_length_le (Nat.le_of_not_lt fun beyond => ?_)
    exact absurd ((logs.truncated records).mpr beyond) (by rw [whole]; exact Bool.false_ne_true)
  have same : script (chunks.map .process) = script run := by
    rw [script_process,log,all,← bytes]
    exact (cues_of_typed (sizes.trans fixed)).symm
  have alike := DamageGrid.script_pictured laws hasRows hasCols limit config.scrollback same
  rw [DamageGrid.calls_process,reached] at alike
  cases done : (DamageGrid.new config.rows config.cols limit).processAll chunks with
  | error e => rw [done] at alike; cases alike
  | ok e =>
    rw [done] at alike
    exact ⟨e,rfl,Except.ok.inj alike⟩

/-- Whenever the worker takes up a caller's request for the state, after any interleaving,
    the bytes it answers with take a new terminal of the screen's size to a mirror of the
    screen as it then is. -/
theorem state_bytes_mirror (laws : VteLaws) (narrow : NarrowSpace) (hasRows : 0 < config.rows) (hasCols : 0 < config.cols)
    {labels : List Label} (ran : (new config).run labels = .ok s) {call : Nat} {ctl : List (Nat × CtlOp)} (top : s.pc = .top)
    (asked : s.ctl = (call,.stateBytes) :: ctl) (few : s.worker.grid.grid.cols < u16Max)
    (sized : ∀ i j, HasWidth (cellAt (s.worker.grid.grid.visibleRow i) j).contents) (answer : CtlAnswer) :
    ∃ bytes t, s.step (.serve answer) = .ok t ∧ t.worker = s.worker ∧
      t.history.answers = s.history.answers ++ [⟨call,!s.gaveUp.contains call,.stateBytes bytes⟩] ∧
      ∀ rows cols : UInt16, rows.toNat = s.worker.grid.grid.rows → cols.toNat = s.worker.grid.grid.cols →
        ∀ (limit : Nat) (chunks : List Bytes), chunks.flatten = bytes →
          ∃ e, (DamageGrid.new rows cols limit).processAll chunks = .ok e ∧ s.worker.grid.grid.Mirrors e.grid ∧
            (s.worker.grid.grid.stateEq e.grid = true ↔ s.worker.grid.grid.Coupled) := by
  obtain ⟨run,reached,_⟩ := run_driven ran
  have legible := DamageGrid.calls_legible laws hasRows hasCols reached few sized
  have shaped : s.worker.grid.grid.Shaped RowOk := legible.shaped.mono fun _ each => each.ok
  have style := DamageGrid.calls_style hasRows hasCols reached
  have rowsFit : s.worker.grid.grid.rows < UInt16.size := Nat.lt_succ_of_le shaped.rowsFit
  have colsFit : s.worker.grid.grid.cols < UInt16.size := Nat.lt_succ_of_le shaped.colsFit
  have mirrors (rows cols : UInt16) (sameRows : rows.toNat = s.worker.grid.grid.rows)
      (sameCols : cols.toNat = s.worker.grid.grid.cols) (limit : Nat) :=
    DamageGrid.fed_mirrors laws
      (Grid.stateFormatted_conveys narrow legible style sameRows.symm sameCols.symm limit)
  obtain ⟨bytes,wrote,_⟩ := mirrors (.ofNat s.worker.grid.grid.rows) (.ofNat s.worker.grid.grid.cols)
    (UInt16.toNat_ofNat_of_lt rowsFit) (UInt16.toNat_ofNat_of_lt colsFit) 0
  have served : s.step (.serve answer) = .ok { s with
      ctl := ctl
      pc := .draining feedBudgetPerTick false
      history.answers := s.history.answers ++ [⟨call,!s.gaveUp.contains call,.stateBytes bytes⟩] } := by
    simp only [step,serve,top,asked,Worker.handleCtl,wrote,ok_bind,pure_ok]
  refine ⟨bytes,_,served,rfl,rfl,fun rows cols sameRows sameCols limit chunks fed => ?_⟩
  obtain ⟨bytes',wrote',replays⟩ := mirrors rows cols sameRows sameCols limit
  cases wrote.symm.trans wrote'
  obtain ⟨e,done,mirror⟩ := replays chunks fed
  exact ⟨e,done,mirror,mirror.stateEq_iff shaped⟩

end Session

end

section
attribute [local instance] byteParser blockWidth

/-- Half a character is fed with the text before it, and the damage and the colours are
    asked for and set; the log is replayed one byte at a time. -/
theorem output_log_replays_cut : ∃ s : Session,
    (Session.new ⟨3,2,5,true,4,64⟩).run [.read (.data [0x41,0x0a,0xe4]),.send,.count,.call .dirtySpans,
      .call (.setColors (some (1,2,3)) none),.timeout,.serve {},.receive,.take fun _ => {},.receive,.poll {} 0,.serve {}] = .ok s ∧
    ∃ e, (DamageGrid.new 2 3 0).processAll [[0x41],[0x0a],[0xe4]] = .ok e ∧ e.pictured = s.worker.grid.pictured := by
  have known : ∃ s : Session, (Session.new ⟨3,2,5,true,4,64⟩).run [.read (.data [0x41,0x0a,0xe4]),.send,.count,.call .dirtySpans,
      .call (.setColors (some (1,2,3)) none),.timeout,.serve {},.receive,.take fun _ => {},.receive,.poll {} 0,.serve {}] = .ok s ∧
      s.worker.outputTruncated = false ∧ s.worker.resizes = 0 ∧ s.worker.outputLog = [0x41,0x0a,0xe4] := ⟨_,rfl,by decide +kernel⟩
  obtain ⟨s,ran,whole,fixed,log⟩ := known
  have replays := Session.output_log_replays byteParser_laws (show 0 < (⟨3,2,5,true,4,64⟩ : WorkerConfig).rows by decide)
    (show 0 < (⟨3,2,5,true,4,64⟩ : WorkerConfig).cols by decide) ran rfl whole fixed 0 [[0x41],[0x0a],[0xe4]] log.symm
  exact ⟨s,ran,replays⟩

/-- The state is asked for after a resize. -/
theorem state_bytes_mirror_resized : ∃ s : Session,
    (Session.new ⟨3,2,5,false,4,64⟩).run [.read (.data [0x41,0x0a,0x42]),.send,.count,.call (.resize 4 1),.call .stateBytes,
      .serve {},.receive,.take fun _ => {},.receive,.poll {} 0] = .ok s ∧
    ∃ bytes t, s.step (.serve {}) = .ok t ∧ ∃ e, (DamageGrid.new 1 4 0).processAll [bytes] = .ok e ∧
      s.worker.grid.grid.stateEq e.grid = true := by
  have known : ∃ s : Session, (Session.new ⟨3,2,5,false,4,64⟩).run [.read (.data [0x41,0x0a,0x42]),.send,.count,
      .call (.resize 4 1),.call .stateBytes,.serve {},.receive,.take fun _ => {},.receive,.poll {} 0] = .ok s ∧ s.pc = .top ∧
      s.ctl = [(1,.stateBytes)] ∧ s.worker.grid.grid.rows = 1 ∧ s.worker.grid.grid.cols = 4 ∧
      (∀ row ∈ s.worker.grid.grid.activeGrid.rows, ∀ c ∈ row, c.contents.length ≤ 1) ∧ s.worker.grid.grid.Coupled :=
    ⟨_,rfl,by decide +kernel⟩
  obtain ⟨s,ran,top,asked,rows,cols,short,coupled⟩ := known
  obtain ⟨bytes,t,served,_,_,replays⟩ := Session.state_bytes_mirror byteParser_laws (show charWidth ' ' = 1 by decide)
    (show 0 < (⟨3,2,5,false,4,64⟩ : WorkerConfig).rows by decide) (show 0 < (⟨3,2,5,false,4,64⟩ : WorkerConfig).cols by decide)
    ran top asked (by rw [cols]; decide) (fun i j => (short_clusters short i j).1) {}
  obtain ⟨e,done,_,same⟩ := replays 1 4 rows.symm cols.symm 0 [bytes] (List.append_nil _)
  exact ⟨s,ran,bytes,t,served,e,done,same.mpr coupled⟩

end

end Termpane
