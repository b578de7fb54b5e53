import Termpane.Coverage

/-!
# What an operation adds

Beside the screens an operation touches collections that only grow until somebody
drains them. Whatever state it starts in, it covers the damage of before, and leaves
the rows in use and the table of links within their caps.
-/
namespace Termpane

open Lib

namespace DirtyTracker
variable {t : DirtyTracker}

/-- `is_dirty`. -/
def isDirty (t : DirtyTracker) : Bool := t.allDirty || !t.rows.isEmpty

/-- What the tracker keeps: the rows in use have room, each with some columns, and
    there are none once everything is dirty. -/
structure WellFormed (t : DirtyTracker) : Prop where
  room : t.rows.length ≤ maxTrackedDirtyRows
  spans : ∀ s ∈ t.rows, s.startCol < s.endCol
  all : t.allDirty = true → t.rows = []

theorem wellFormed_new : ({} : DirtyTracker).WellFormed := ⟨Nat.zero_le _,nofun,fun _ => rfl⟩

theorem wellFormed_markAll (t : DirtyTracker) : t.markAll.WellFormed :=
  ⟨Nat.zero_le _,nofun,fun _ => rfl⟩

theorem WellFormed.pushOrMerge (ok : t.WellFormed) {row start stop : Nat} (some : start < stop) {pushed : List DirtySpan}
    (enters : Termpane.pushOrMerge t.rows row start stop = .some pushed) :
    pushed.length ≤ maxTrackedDirtyRows ∧ ∀ s ∈ pushed, s.startCol < s.endCol := by
  unfold Termpane.pushOrMerge at enters
  split at enters
  case h_1 idx _ =>
    cases enters
    refine ⟨by rw [List.length_modify]; exact ok.room,fun s inside => ?_⟩
    obtain ⟨i,at_i⟩ := List.mem_iff_getElem?.mp inside
    rw [List.getElem?_modify] at at_i
    obtain ⟨before,found,same⟩ := Option.map_eq_some_iff.mp at_i
    have kept := ok.spans before (List.mem_of_getElem? found)
    subst same
    split
    · simp only [DirtySpan.merge]
      omega
    · exact kept
  case h_2 insertAt missing =>
    split_ifs at enters with full
    cases enters
    refine ⟨List.length_insertIdx_le_succ.trans (Nat.lt_of_le_of_ne ok.room full),fun s inside => ?_⟩
    rcases (List.mem_insertIdx (searchRow_inr missing)).mp inside with rfl | old
    · exact some
    · exact ok.spans s old

theorem WellFormed.markRange (ok : t.WellFormed) (row start stop : Nat) : (t.markRange row start stop).WellFormed := by
  unfold DirtyTracker.markRange
  split_ifs with all empty
  · exact ok
  · exact ok
  · split
    case h_1 rows pushed =>
      obtain ⟨room,spans⟩ := ok.pushOrMerge (Nat.lt_of_not_le empty) pushed
      exact ⟨room,spans,fun full => absurd full all⟩
    case h_2 => exact t.wellFormed_markAll

theorem WellFormed.markRows (ok : t.WellFormed) (top bottom : Nat) : (t.markRows top bottom).WellFormed := by
  have marked (rows : List Nat) (t : DirtyTracker) (ok : t.WellFormed) : (rows.foldl markRow t).WellFormed := by
    induction rows generalizing t with
    | nil => exact ok
    | cons row rows ih => exact ih (t.markRow row) (ok.markRange _ _ _)
  exact marked _ t ok

theorem WellFormed.take (ok : t.WellFormed) : t.take.2.WellFormed := by
  unfold DirtyTracker.take
  split
  case isTrue all =>
    have none := ok.all all
    exact ⟨ok.room,ok.spans,fun _ => none⟩
  case isFalse clean => exact ⟨Nat.zero_le _,nofun,fun all => absurd all clean⟩

/-- A clean tracker covers nothing, and a dirty one something. -/
theorem WellFormed.isDirty_iff (ok : t.WellFormed) : t.isDirty = true ↔ ∃ r c, t.Covers r c := by
  unfold isDirty Covers
  rw [Bool.or_eq_true,Bool.not_eq_true',List.isEmpty_eq_false_iff_exists_mem]
  constructor
  · rintro (all | ⟨s,inside⟩)
    · exact ⟨0,0,.inl all⟩
    · exact ⟨s.row,s.startCol,.inr ⟨s,inside,rfl,Nat.le_refl _,ok.spans s inside⟩⟩
  · rintro ⟨_,_,all | ⟨s,inside,_⟩⟩
    · exact .inl all
    · exact .inr ⟨s,inside⟩

/-- After `take` the tracker is clean. -/
theorem WellFormed.take_clean (ok : t.WellFormed) (r c : Nat) : ¬ t.take.2.Covers r c := by
  unfold DirtyTracker.take
  split
  case isTrue all =>
    rintro (still | ⟨s,inside,_⟩)
    · cases still
    · rw [ok.all all] at inside
      cases inside
  case isFalse clean =>
    rintro (all | ⟨s,inside,_⟩)
    · exact clean all
    · cases inside

end DirtyTracker

namespace Grid

theorem internHyperlink_length {recent : List Hyperlink} (room : recent.length ≤ osc8RecentMax) (link : Hyperlink) :
    (internHyperlink recent link).length ≤ osc8RecentMax := by
  unfold internHyperlink
  split_ifs with known full
  · have some := List.length_pos_of_mem known
    rw [List.length_cons,List.length_erase_of_mem known]
    omega
  · change (link :: recent.dropLast).length ≤ osc8RecentMax
    rw [List.length_cons,List.length_dropLast,full]
    decide
  · exact Nat.lt_of_le_of_ne room full

/-- The tables with a cap: the recent links and the keyboard stack. -/
def tables (g : Grid) : List Hyperlink × List Nat := (g.recentHyperlinks,g.kittyKbStack)

/-- A later grid: the damage is kept and well formed, and the tables have room. -/
structure Grows (g h : Grid) : Prop where
  covers : ∀ r c, g.dirty.Covers r c → h.dirty.Covers r c
  damage : g.dirty.WellFormed → h.dirty.WellFormed
  links : g.recentHyperlinks.length ≤ osc8RecentMax → h.recentHyperlinks.length ≤ osc8RecentMax
  keyboard : g.kittyKbStack.length ≤ kittyKbStackCap → h.kittyKbStack.length ≤ kittyKbStackCap

variable {f g h : Grid}

theorem Grows.refl (g : Grid) : g.Grows g := ⟨fun _ _ covered => covered,id,id,id⟩

theorem Grows.trans (left : f.Grows g) (right : g.Grows h) : f.Grows h where
  covers r c covered := right.covers r c (left.covers r c covered)
  damage room := right.damage (left.damage room)
  links room := right.links (left.links room)
  keyboard room := right.keyboard (left.keyboard room)

theorem Grows.of_same (dirty : h.dirty = g.dirty) (tables : h.tables = g.tables) : g.Grows h where
  covers r c covered := by rw [dirty]; exact covered
  damage room := by rw [dirty]; exact room
  links room := by rw [(Prod.mk.inj tables).1]; exact room
  keyboard room := by rw [(Prod.mk.inj tables).2]; exact room

theorem Grows.markRange (tables : h.tables = g.tables) {row start stop : Nat}
    (marked : h.dirty = g.dirty.markRange row start stop) : g.Grows h where
  covers r c covered := by rw [marked]; exact DirtyTracker.markRange_covers _ (.inl covered)
  damage room := by rw [marked]; exact room.markRange _ _ _
  links room := by rw [(Prod.mk.inj tables).1]; exact room
  keyboard room := by rw [(Prod.mk.inj tables).2]; exact room

theorem Grows.markRows (tables : h.tables = g.tables) {top bottom : Nat}
    (marked : h.dirty = g.dirty.markRows top bottom) : g.Grows h where
  covers r c covered := by rw [marked]; exact DirtyTracker.markRows_covers _ (.inl covered)
  damage room := by rw [marked]; exact room.markRows _ _
  links room := by rw [(Prod.mk.inj tables).1]; exact room
  keyboard room := by rw [(Prod.mk.inj tables).2]; exact room

theorem Grows.markAll (tables : h.tables = g.tables) (marked : h.dirty = g.dirty.markAll) : g.Grows h where
  covers _ _ _ := by rw [marked]; exact .inl rfl
  damage _ := by rw [marked]; exact g.dirty.wellFormed_markAll
  links room := by rw [(Prod.mk.inj tables).1]; exact room
  keyboard room := by rw [(Prod.mk.inj tables).2]; exact room

/-- A handler that only adds. -/
def Adds (g : Grid) (handler : Checked Grid) : Prop := Ends g.Grows (fun _ => True) handler

@[simp] theorem adds_ok : g.Adds (.ok h) ↔ g.Grows h := Iff.rfl

theorem Adds.from {handler : Checked Grid} (adds : g.Adds handler) (grows : f.Grows g) : f.Adds handler :=
  adds.mono fun _ more => grows.trans more

/-! ## Handlers -/

theorem edit_grows (g : Grid) (e : Edit) : g.Grows (g.edit e) := by
  cases e with
  | markRange => exact .markRange rfl rfl
  | markRows => exact .markRows rfl rfl
  | markAll => exact .markAll rfl rfl
  | evict top row =>
    obtain ⟨_,same⟩ := g.evict_writes top row
    exact .of_same ((congrArg dirty same).trans rfl) ((congrArg tables same).trans rfl)
  | preserve =>
    obtain ⟨_,_,_,same⟩ := g.preserve_writes
    exact .of_same ((congrArg dirty same).trans rfl) ((congrArg tables same).trans rfl)
  | _ => exact .of_same rfl rfl

theorem setDecMode_grows (g : Grid) (mode : Nat) (enabled : Bool) : g.Grows (g.setDecMode mode enabled) := by
  have switched (g : Grid) (active : Bool) : g.Grows (g.setAltScreen active) := .markAll rfl rfl
  unfold setDecMode
  split
  case h_7 => exact switched g enabled
  case h_8 => exact switched g enabled
  case h_9 =>
    split
    · exact .markAll rfl rfl
    · have restored : g.Grows { (g.setAltScreen false).restoreSavedCursor with kittyKbStack := [] } := by
        rw [restoreSavedCursor_eq]
        split <;> exact ⟨fun _ _ _ => .inl rfl,fun _ => g.dirty.wellFormed_markAll,id,fun _ => Nat.zero_le _⟩
      exact restored.trans (.of_same rfl rfl)
  all_goals exact .of_same rfl rfl

theorem softReset_grows (g : Grid) : g.Grows g.softReset := by
  unfold softReset restoreAutowrap
  dsimp only
  split <;> exact .of_same rfl rfl

theorem handleOsc_grows (g : Grid) (params : List Bytes) (bell : Bool) : g.Grows (g.handleOsc params bell) := by
  unfold handleOsc
  split
  · exact .refl g
  · dsimp only
    split
    case h_9 =>
      unfold oscHyperlink
      dsimp only
      split
      · exact ⟨fun _ _ covered => covered,id,fun room => internHyperlink_length room _,id⟩
      · exact .of_same rfl rfl
    all_goals exact .of_same rfl rfl

theorem setSize_grows (g : Grid) (rows cols : UInt16) : g.Grows (g.setSize rows cols) := .markAll rfl rfl

section
variable [UnicodeWidth]

/-! ## Operations -/

theorem exec_adds (g : Grid) (op : Op) : g.Adds (g.exec op) := by
  cases walked : op.walk with
  | some walk => exact exec_keeps walked (fun h e _ grows => grows.trans (h.edit_grows e)) (.refl g)
  | none =>
    cases op
    case decMode mode enabled => exact setDecMode_grows g mode enabled
    case restoreCursor =>
      simp only [Grid.exec,adds_ok,restoreSavedCursor_eq]
      split_ifs <;> exact .of_same rfl rfl
    case kittyPush flags =>
      refine ⟨fun _ _ covered => covered,id,id,fun room => ?_⟩
      simp only [pushEvent]
      split_ifs with more
      · rw [List.length_append]
        exact more
      · exact room
    case kittyPop count =>
      refine ⟨fun _ _ covered => covered,id,id,fun room => ?_⟩
      simp only [pushEvent,List.rdrop]
      exact (List.take_sublist _ _).length_le.trans room
    case softReset => exact softReset_grows g
    case fullReset => exact Grows.markAll rfl rfl
    case osc params bell => exact handleOsc_grows g params bell
    all_goals first
      | exact Grows.of_same rfl rfl
      | cases walked

theorem performAll_adds (g : Grid) (cs : List Callback) : g.Adds (g.performAll cs) := by
  refine run_ends (fun c _ h grows => ?_) (Grows.refl g)
  refine run_ends (fun op _ h grows => ?_) grows
  exact (exec_adds h op).from grows

end

end Grid

section
variable [Vte] [UnicodeWidth]

theorem DamageGrid.advanceParser_adds (d : DamageGrid) (slice : Bytes) :
    Ends (fun d' => d.grid.Grows d'.grid) (fun _ => True) (d.advanceParser slice) :=
  Ends.bind (d.grid.performAll_adds _) fun _ grows => grows

theorem DamageGrid.process_adds (d : DamageGrid) (bytes : Bytes) :
    Ends (fun d' => d.grid.Grows d'.grid) (fun _ => True) (d.process bytes) := by
  unfold process
  dsimp only
  split
  · exact (d.advanceParser_adds _).bind fun _ grows => grows
  · exact Grid.Grows.refl d.grid

theorem DamageGrid.processAll_adds (d : DamageGrid) (chunks : List Bytes) :
    Ends (fun d' => d.grid.Grows d'.grid) (fun _ => True) (d.processAll chunks) :=
  run_ends (fun chunk _ _ grows => (process_adds _ chunk).mono fun _ => grows.trans) (Grid.Grows.refl d.grid)

end

end Termpane
