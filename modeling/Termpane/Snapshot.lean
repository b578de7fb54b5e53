import Termpane.ByteParser
import Termpane.Marks

/-!
# Patches of the screen

`GridPatch`: the cells of the columns that changed since the last drain. A
renderer that writes them over its copy of the screen has the screen again after
any stream whose operations all mark what they change.
-/
namespace Termpane

open Lib

/-- The screen, and what of it is dirty. -/
structure GridPatch where
  rows : Nat
  cols : Nat
  cursor : Nat × Nat
  alternateScreen : Bool
  screen : RowStore
  dirty : DirtySpans

/-- One item of `changed_spans`: cells of a row from a column on. -/
structure ChangedSpan where
  row : Nat
  startCol : Nat
  cells : List Cell
  deriving DecidableEq, Repr

/-- The item of one dirty span, if it reaches into the screen. -/
def changedSpan (screen : RowStore) (cols : Nat) (span : DirtySpan) : Option ChangedSpan :=
  match screen.rows[span.row]? with
  | none => none
  | some row =>
    let start := min span.startCol cols
    let stop := min span.endCol cols
    if start ≥ stop ∨ start ≥ row.length then none
    else some ⟨span.row,span.startCol,(row.take (min stop row.length)).drop start⟩

/-- `changed_spans`. -/
def GridPatch.changedSpans (p : GridPatch) : List ChangedSpan :=
  match p.dirty with
  | .all => p.screen.rows.mapIdx fun idx row => ⟨idx % 65536,0,row.take (min p.cols (row.length % 65536))⟩
  | .rows spans => spans.filterMap (changedSpan p.screen p.cols)

/-- `dirty_patch_from`. -/
def Grid.dirtyPatchFrom (g : Grid) (dirty : DirtySpans) : GridPatch :=
  { rows := g.rows, cols := g.cols, cursor := (g.cursorRow,g.cursorCol), alternateScreen := g.modeFlags.altScreen,
    screen := g.activeGrid, dirty := dirty }

/-- `dump_dirty_patch`: the patch and the drained grid. -/
def Grid.dumpDirtyPatch (g : Grid) : GridPatch × Grid :=
  (g.dirtyPatchFrom g.dirty.take.1,{ g with dirty := g.dirty.take.2 })

/-! ## Patching a copy -/

/-- The cells of a span written over a copy of the screen. -/
def ChangedSpan.apply (copy : List Row) (s : ChangedSpan) : List Row :=
  copy.modify s.row fun row => row.take s.startCol ++ s.cells ++ row.drop (s.startCol + s.cells.length)

def applySpans (copy : List Row) (spans : List ChangedSpan) : List Row := spans.foldl ChangedSpan.apply copy

namespace ChangedSpan

/-- A span with a position in it. -/
def Hits (s : ChangedSpan) (row col : Nat) : Prop :=
  s.row = row ∧ s.startCol ≤ col ∧ col < s.startCol + s.cells.length

instance (s : ChangedSpan) (row col : Nat) : Decidable (s.Hits row col) := by unfold Hits; infer_instance

/-- A span that holds cells of a screen. -/
def Shows (screen : List Row) (s : ChangedSpan) : Prop :=
  ∃ row, screen[s.row]? = some row ∧ s.startCol + s.cells.length ≤ row.length ∧
    ∀ k, k < s.cells.length → cellAt s.cells k = cellAt row (s.startCol + k)

end ChangedSpan

/-- Every row has the same number of columns. -/
def Uniform (cols : Nat) (screen : List Row) : Prop := ∀ row ∈ screen, row.length = cols

section
variable {cols : Nat} {screen copy : List Row} {s : ChangedSpan}

theorem ChangedSpan.Shows.apply (shows : s.Shows screen) (uniform : Uniform cols screen) (count : copy.length = screen.length)
    (width : Uniform cols copy) :
    (s.apply copy).length = screen.length ∧ Uniform cols (s.apply copy) ∧
      ∀ r c, screenCell (s.apply copy) r c = if s.Hits r c then screenCell screen r c else screenCell copy r c := by
  obtain ⟨row,found,inside,same⟩ := shows
  have bound : s.row < screen.length := (List.getElem?_eq_some_iff.mp found).1
  have rowWidth : row.length = cols := uniform row (List.mem_of_getElem? found)
  have old : copy[s.row]? = some copy[s.row] := List.getElem?_eq_getElem (by omega)
  have oldWidth : copy[s.row].length = cols := width _ (List.getElem_mem _)
  have patched (c : Nat) :
      cellAt (copy[s.row].take s.startCol ++ s.cells ++ copy[s.row].drop (s.startCol + s.cells.length)) c =
        if s.startCol ≤ c ∧ c < s.startCol + s.cells.length then cellAt row c else cellAt copy[s.row] c := by
    have front : (copy[s.row].take s.startCol).length = s.startCol := by rw [List.length_take]; omega
    unfold cellAt at same ⊢
    rcases Nat.lt_or_ge c s.startCol with before | after
    · rw [List.append_assoc,List.getElem?_append_left (by omega),List.getElem?_take_of_lt before,if_neg (by omega)]
    · rcases Nat.lt_or_ge c (s.startCol + s.cells.length) with within | beyond
      · rw [List.append_assoc,List.getElem?_append_right (by omega),front,List.getElem?_append_left (by omega),
          if_pos ⟨after,within⟩,same _ (by omega),Nat.add_sub_cancel' after]
      · rw [List.getElem?_append_right (by rw [List.length_append]; omega),List.length_append,front,List.getElem?_drop,
          Nat.add_sub_cancel' beyond,if_neg (by omega)]
  refine ⟨by rw [ChangedSpan.apply,List.length_modify,count],fun other member => ?_,fun r c => ?_⟩
  · obtain ⟨i,at_i⟩ := List.mem_iff_getElem?.mp member
    rw [ChangedSpan.apply,List.getElem?_modify] at at_i
    obtain ⟨before,at_i',rfl⟩ := Option.map_eq_some_iff.mp at_i
    have beforeWidth : before.length = cols := width before (List.mem_of_getElem? at_i')
    split_ifs
    · simp only [List.length_append,List.length_take,List.length_drop]; omega
    · exact beforeWidth
  · unfold ChangedSpan.apply screenCell ChangedSpan.Hits
    rw [List.getElem?_modify]
    by_cases here : s.row = r
    · subst here
      simp only [old,found,if_true,Option.getD_some,true_and]
      exact patched c
    · simp only [here,if_false,false_and]
      cases copy[r]? <;> rfl

/-- A patched copy shows the screen where a span reaches, and the copy elsewhere. -/
theorem applySpans_cell {spans : List ChangedSpan} (shows : ∀ s ∈ spans, s.Shows screen) (uniform : Uniform cols screen)
    (count : copy.length = screen.length) (width : Uniform cols copy) :
    (applySpans copy spans).length = screen.length ∧ Uniform cols (applySpans copy spans) ∧
      ∀ r c, screenCell (applySpans copy spans) r c =
        if ∃ s ∈ spans, s.Hits r c then screenCell screen r c else screenCell copy r c := by
  induction spans generalizing copy with
  | nil => exact ⟨count,width,fun r c => by simp [applySpans]⟩
  | cons s spans ih =>
    obtain ⟨count',width',cells'⟩ := (shows s List.mem_cons_self).apply uniform count width
    obtain ⟨count'',width'',cells⟩ := ih (fun s inside => shows s (List.mem_cons_of_mem _ inside)) count' width'
    refine ⟨count'',width'',fun r c => ?_⟩
    have split : (∃ t ∈ s :: spans, t.Hits r c) ↔ s.Hits r c ∨ ∃ t ∈ spans, t.Hits r c := by simp
    rw [applySpans,List.foldl_cons]
    refine (cells r c).trans ?_
    rw [cells' r c,if_congr split rfl rfl]
    by_cases first : s.Hits r c
    · simp [first]
    · simp [first]

/-- Screens of one size with the same cells are the same. -/
theorem screen_ext {other : List Row} (count : screen.length = other.length) (width : Uniform cols screen)
    (width' : Uniform cols other) (cells : ∀ r c, r < screen.length → c < cols → screenCell screen r c = screenCell other r c) :
    screen = other := by
  apply List.ext_getElem count
  intro r inside inside'
  have left : screen[r].length = cols := width _ (List.getElem_mem inside)
  have right : other[r].length = cols := width' _ (List.getElem_mem inside')
  refine row_ext (left.trans right.symm) fun c bound => ?_
  have same := cells r c inside (by omega)
  simpa [screenCell,inside,inside'] using same

end

namespace Grid

variable {P : Row → Prop} {g : Grid}

theorem Shaped.uniform (shaped : g.Shaped P) : Uniform g.cols g.activeGrid.rows := shaped.active.width

theorem changedSpans_all (all : g.dirty.allDirty = true) : g.dumpDirtyPatch.1.changedSpans =
    g.activeGrid.rows.mapIdx fun idx row => ⟨idx % 65536,0,row.take (min g.cols (row.length % 65536))⟩ := by
  simp only [dumpDirtyPatch,DirtyTracker.take,if_pos all]
  rfl

theorem changedSpans_rows (some : g.dirty.allDirty ≠ true) :
    g.dumpDirtyPatch.1.changedSpans = g.dirty.rows.filterMap (changedSpan g.activeGrid g.cols) := by
  simp only [dumpDirtyPatch,DirtyTracker.take,if_neg some]
  rfl

/-- The item of a span that reaches into the screen. -/
theorem Shaped.changedSpan_eq (shaped : g.Shaped P) {span : DirtySpan} {item : ChangedSpan} :
    changedSpan g.activeGrid g.cols span = some item ↔
      ∃ row, g.activeGrid.rows[span.row]? = some row ∧ span.startCol < min span.endCol g.cols ∧
        item = ⟨span.row,span.startCol,(row.take (min span.endCol g.cols)).drop span.startCol⟩ := by
  unfold changedSpan
  cases found : g.activeGrid.rows[span.row]? with
  | none => simp
  | some row =>
    have width : row.length = g.cols := shaped.uniform row (List.mem_of_getElem? found)
    dsimp only
    rw [width,show min (min span.endCol g.cols) g.cols = min span.endCol g.cols by omega]
    by_cases inside : span.startCol < min span.endCol g.cols
    · rw [if_neg (by omega),show min span.startCol g.cols = span.startCol by omega]
      simp [inside,eq_comm]
    · rw [if_pos (by omega)]
      simp [inside]

/-- The patch of a grid holds cells of its screen. -/
theorem Shaped.changedSpans_show (shaped : g.Shaped P) : ∀ s ∈ g.dumpDirtyPatch.1.changedSpans, s.Shows g.activeGrid.rows := by
  have rowsFit := shaped.rowsFit
  have count := shaped.active.rowCount
  unfold u16Max at rowsFit
  intro s member
  by_cases all : g.dirty.allDirty = true
  · rw [changedSpans_all all] at member
    obtain ⟨i,bound,rfl⟩ := List.mem_mapIdx.mp member
    refine ⟨g.activeGrid.rows[i],?_,?_,fun k inside => ?_⟩
    · rw [Nat.mod_eq_of_lt (by omega)]
      exact List.getElem?_eq_getElem bound
    · simp only [List.length_take]; omega
    · rw [List.length_take] at inside
      unfold cellAt
      rw [Nat.zero_add,List.getElem?_take_of_lt (by omega)]
  · rw [changedSpans_rows all] at member
    obtain ⟨span,_,shown⟩ := List.mem_filterMap.mp member
    obtain ⟨row,found,inside,rfl⟩ := shaped.changedSpan_eq.mp shown
    have width : row.length = g.cols := shaped.uniform row (List.mem_of_getElem? found)
    refine ⟨row,found,?_,fun k within => ?_⟩
    · simp only [List.length_drop,List.length_take]; omega
    · simp only [List.length_drop,List.length_take] at within
      unfold cellAt
      rw [List.getElem?_drop,List.getElem?_take_of_lt (by omega)]

/-- What the damage covers is in the patch. -/
theorem Shaped.changedSpans_hit (shaped : g.Shaped P) {r c : Nat} (rowInside : r < g.rows) (colInside : c < g.cols)
    (covered : g.dirty.Covers r c) : ∃ s ∈ g.dumpDirtyPatch.1.changedSpans, s.Hits r c := by
  have rowsFit := shaped.rowsFit
  have colsFit := shaped.colsFit
  have count := shaped.active.rowCount
  unfold u16Max at rowsFit colsFit
  have bound : r < g.activeGrid.rows.length := by omega
  have width := shaped.uniform _ (List.getElem_mem bound)
  by_cases all : g.dirty.allDirty = true
  · rw [changedSpans_all all]
    refine ⟨_,List.mem_mapIdx.mpr ⟨r,bound,rfl⟩,Nat.mod_eq_of_lt (by omega),Nat.zero_le c,?_⟩
    simp only [List.length_take]
    omega
  · rw [changedSpans_rows all]
    rcases covered with marked | ⟨span,member,rfl,start,stop⟩
    · exact absurd marked all
    · have shown := shaped.changedSpan_eq.mpr ⟨_,List.getElem?_eq_getElem bound,by omega,rfl⟩
      refine ⟨_,List.mem_filterMap.mpr ⟨span,member,shown⟩,rfl,start,?_⟩
      simp only [List.length_drop,List.length_take]
      omega

/-- A copy of the earlier screen, patched, is the later one. -/
theorem Tracked.patched {h : Grid} (tracked : g.Tracked h) (before : g.Shaped P) (after : h.Shaped P) :
    applySpans g.activeGrid.rows h.dumpDirtyPatch.1.changedSpans = h.activeGrid.rows := by
  have rows := tracked.rows
  have cols := tracked.cols
  have count := before.active.rowCount
  have count' := after.active.rowCount
  have uniform : Uniform h.cols g.activeGrid.rows := cols ▸ before.uniform
  obtain ⟨length,width,cells⟩ := applySpans_cell after.changedSpans_show after.uniform
    (show g.activeGrid.rows.length = h.activeGrid.rows.length by omega) uniform
  refine screen_ext length width after.uniform fun r c rowInside colInside => ?_
  rw [cells r c]
  split_ifs with hit
  · rfl
  · refine (tracked.cells r c (by omega) (by omega) fun covered => hit ?_).symm
    exact after.changedSpans_hit (by omega) colInside covered

end Grid

/-! ## Streams -/

section
variable [UnicodeWidth]

/-- Every operation of a callback starts in a state where it marks what it changes. -/
def Callback.Marks (g : Grid) (c : Callback) : Prop := StepsMeet Grid.exec (fun g op => op.Marks g) g c.ops

theorem Grid.Shaped.tracks_perform {g : Grid} (shaped : g.Shaped RowOk) {c : Callback} (marks : c.Marks g) :
    Ends (fun h => h.Shaped RowOk ∧ g.Tracked h) (fun _ => True) (g.perform c) := by
  have law := rowOk_law fun _ => True
  have granted : ∀ op ∈ c.ops, op.Granted fun _ => True := ops_granted fun _ _ => trivial
  have step (h : Grid) (op : Op) (granted : op.Granted fun _ => True) (still : op.Moves = true → h.modeFlags.pendingWrap = false)
      (marks : op.Marks h) (holds : h.Shaped RowOk ∧ g.Tracked h) :
      Ends (fun h => h.Shaped RowOk ∧ g.Tracked h) (fun _ => True) (h.exec op) := by
    obtain ⟨shaped,tracked⟩ := holds
    have done := (shaped.exec law granted still).and (shaped.tracks_exec granted marks)
    exact (done.allow fun _ _ => trivial).mono fun _ after => ⟨after.1,tracked.trans after.2⟩
  unfold Callback.Marks at marks
  unfold Grid.perform execAll
  rcases ops_cases c with ⟨op,same⟩ | still
  · rw [same] at granted marks ⊢
    have moved := step g.clearPendingWrap op (granted op (by simp)) (fun _ => rfl) (marks.2 _ rfl).1
      ⟨shaped.clearPendingWrap,tracked_clearPendingWrap g⟩
    simpa only [List.foldlM_cons,List.foldlM_nil,Grid.exec.eq_2,ok_bind,pure_ok,bind_ok] using moved
  · have meets := marks.mono fun h op inside marks => And.intro marks (And.intro (granted op inside) (still op inside))
    exact run_ends_of_meets (fun h op meets holds => step h op meets.2.1 (by simp [meets.2.2]) meets.1 holds) meets
      ⟨shaped,Tracked.refl g⟩

theorem Grid.Shaped.tracks_performAll {g : Grid} (shaped : g.Shaped RowOk) {cs : List Callback}
    (marks : StepsMeet Grid.perform (fun g c => c.Marks g) g cs) :
    Ends (fun h => h.Shaped RowOk ∧ g.Tracked h) (fun _ => True) (g.performAll cs) :=
  run_ends_of_meets (fun _ _ marks holds => (holds.1.tracks_perform marks).mono fun _ after =>
    ⟨after.1,holds.2.trans after.2⟩) marks ⟨shaped,Tracked.refl g⟩

variable [Vte]

namespace DamageGrid

/-- `dirty_spans`, or a patch that was taken: the damage is drained. -/
def drained (d : DamageGrid) : DamageGrid := { d with grid := d.grid.dumpDirtyPatch.2 }

/-- Every operation of a stream starts in a state where it marks what it changes. -/
def StreamMarks (d : DamageGrid) (chunks : List Bytes) : Prop :=
  StepsMeet Grid.perform (fun g c => c.Marks g) d.grid (d.callbacks chunks)

/-- The patch of a stream turns a copy of the screen from before it into the
    screen after it. -/
def PatchComplete (d : DamageGrid) (chunks : List Bytes) : Prop :=
  ∀ d', d.drained.processAll chunks = .ok d' →
    applySpans d.grid.activeGrid.rows d'.grid.dumpDirtyPatch.1.changedSpans = d'.grid.activeGrid.rows

/-- From every reachable state, damage is complete after every stream whose
    operations all start where they mark what they change. -/
theorem patch_complete {rows cols : UInt16} (hasRows : 0 < rows) (hasCols : 0 < cols) {scrollbackLimit : Nat}
    {run : List Call} {d : DamageGrid} (reached : (new rows cols scrollbackLimit).calls run = .ok d) {chunks : List Bytes}
    (marks : d.drained.StreamMarks chunks) : d.PatchComplete chunks := by
  intro d' streamed
  have shaped := ((calls_rowOk hasRows hasCols scrollbackLimit run).of_ok reached).1
  have drained : d.drained.grid.Shaped RowOk := { shaped with }
  have performed := processAll_grid d.drained chunks
  rw [streamed] at performed
  obtain ⟨after,tracked⟩ := (drained.tracks_performAll marks).of_ok performed.symm
  exact tracked.patched drained after

end DamageGrid

end

section
attribute [local instance] byteParser blockWidth

theorem patch_complete_wide : ∃ d, (DamageGrid.new 1 4 0).calls [.process [0xe4,0xb8,0xad]] = .ok d ∧
    d.PatchComplete [[0x1b,0x5b,0x4b]] := by
  refine ⟨_,rfl,DamageGrid.patch_complete (show (0 : UInt16) < 1 by decide) (show (0 : UInt16) < 4 by decide)
    (show (DamageGrid.new 1 4 0).calls [.process [0xe4,0xb8,0xad]] = _ from rfl) ?_⟩
  exact ⟨⟨⟨fun _ => rfl,fun toCursor => by cases toCursor⟩,fun _ _ => trivial⟩,fun _ _ => trivial⟩

/-- `ESC [ D`, `ESC [ K` behind a wide glyph: the erase starts at its continuation
    and blanks the lead, one column left of the mark. -/
theorem erase_leaves_lead : ∃ d, (DamageGrid.new 1 4 0).calls [.process [0xe4,0xb8,0xad]] = .ok d ∧
    d.drained.callbacks [[0x1b,0x5b,0x44,0x1b,0x5b,0x4b]] =
      [.csiDispatch [[0]] [] false 'D',.csiDispatch [[0]] [] false 'K'] ∧
    ¬ d.PatchComplete [[0x1b,0x5b,0x44,0x1b,0x5b,0x4b]] := by
  refine ⟨_,rfl,rfl,fun complete => ?_⟩
  have same := complete _ rfl
  revert same
  decide

end

end Termpane
