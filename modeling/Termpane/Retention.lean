import Termpane.History

/-!
# Cleared screens

A clear that finds the screen untouched since the last one that looked at it finds
it blank. So what a clear erases goes into the scrollback, except for a block it
remembers, which must still be there.
-/
namespace Termpane

open Lib

/-- A row without contents. -/
def EmptyRow (row : Row) : Prop := ∀ c ∈ row, c.contents = []

theorem emptyRow_iff (row : Row) : EmptyRow row ↔ Grid.rowHasContents row = false := by
  unfold EmptyRow Grid.rowHasContents Cell.hasContents
  simp

theorem emptyRow_replicate {c : Cell} (blank : c.contents = []) (cols : Nat) : EmptyRow (List.replicate cols c) := by
  intro d member
  rw [List.eq_of_mem_replicate member]
  exact blank

/-! ## Edits -/

variable {row : Row}

theorem EmptyRow.cellAt (empty : EmptyRow row) (i : Nat) : (cellAt row i).contents = [] := by
  rcases Nat.lt_or_ge i row.length with inside | outside
  · exact empty _ (cellAt_mem inside)
  · rw [cellAt_outside outside]
    rfl

theorem EmptyRow.set (empty : EmptyRow row) (i : Nat) {c : Cell} (blank : c.contents = []) : EmptyRow (row.set i c) := by
  intro d member
  rcases List.mem_or_eq_of_mem_set member with old | rfl
  · exact empty d old
  · exact blank

/-- An edit that brings no contents into a row without any. -/
def Empties (edit : Row → Checked Row) : Prop := ∀ row, EmptyRow row → Ends EmptyRow (fun _ => True) (edit row)

theorem assign_empties (i : Nat) {c : Cell} (blank : c.contents = []) : Empties fun row => assign row i c := by
  intro row empty
  dsimp only [assign]
  split
  · exact empty.set i blank
  · trivial

theorem assignIf_empties (condition : Bool) (i : Nat) {c : Cell} (blank : c.contents = []) :
    Empties fun row => assignIf condition row i c := by
  cases condition with
  | false => exact fun _ empty => empty
  | true => exact assign_empties i blank

theorem fill_empties (start stop : Nat) {c : Cell} (blank : c.contents = []) : Empties fun row => fill row start stop c := by
  intro row empty
  dsimp only [fill]
  split
  · intro d member
    rcases List.mem_append.mp member with kept | rest
    · rcases List.mem_append.mp kept with before | filled
      · exact empty d (List.mem_of_mem_take before)
      · rw [List.eq_of_mem_replicate filled]
        exact blank
    · exact empty d (List.mem_of_mem_drop rest)
  · trivial

theorem eraseCellsBce_empties (start stop : Nat) {blank : Cell} (none : blank.contents = []) :
    Empties fun row => eraseCellsBce row start stop blank :=
  fun row empty => (fill_empties start stop none row empty).bind fun filled empty =>
    (assignIf_empties _ _ none filled empty).bind fun left empty => assignIf_empties _ _ none left empty

theorem repairWidePairs_empties : Empties repairWidePairs := by
  intro row empty
  refine run_ends (fun i _ row empty => ?_) empty
  exact (ends_trivial (at? row i)).bind fun cell _ => assignIf_empties _ i rfl row empty

theorem insertBlanks_empties (col n cols : Nat) : Empties fun row => insertBlanks row col n cols := by
  intro row empty
  have moved : Ends EmptyRow (fun _ => True) ((List.range' col (min cols row.length - n - col)).reverse.foldlM
      (fun row c => do
        let cell ← at? row c
        assign row (c + n) cell) row) := by
    refine run_ends (fun c _ row empty => ?_) empty
    unfold at?
    cases found : row[c]? with
    | none => trivial
    | some cell => exact assign_empties (c + n) (empty cell (List.mem_of_getElem? found)) row empty
  refine moved.bind fun shifted empty => ?_
  · have filled : EmptyRow (shifted.mapIdx fun c cell => if col ≤ c ∧ c < min (col + n) (min cols row.length) then default else cell) := by
      intro d member
      obtain ⟨i,inside,rfl⟩ := List.mem_mapIdx.mp member
      split
      · rfl
      · exact empty _ (List.getElem_mem inside)
    dsimp only
    split
    · exact repairWidePairs_empties _ filled
    · exact filled

theorem deleteCells_empties (col n cols : Nat) : Empties fun row => deleteCells row col n cols := by
  intro row empty
  have shifted : Ends EmptyRow (fun _ => True)
      ((List.range' col (cols - n - col)).foldlM (fun row c => assign row c (row[c + n]?.getD default)) row) :=
    run_ends (fun c _ row empty => assign_empties c (empty.cellAt (c + n)) row empty) empty
  exact shifted.bind fun shifted empty => (fill_empties _ _ rfl shifted empty).bind repairWidePairs_empties

theorem resizeRow_empty (cols : Nat) (empty : EmptyRow row) : EmptyRow (resizeRow cols row) := by
  intro d member
  obtain ⟨i,inside,rfl⟩ := mem_iff_cellAt.mp member
  obtain ⟨length,cells⟩ := resizeRow_cellAt row cols
  rw [cells i (length ▸ inside)]
  split_ifs
  · rfl
  · exact empty.cellAt i
  · rfl
  · exact empty.cellAt i

/-! ## Blank screens -/

namespace Grid

variable {P : Row → Prop} {g : Grid}

/-- The primary screen has no contents. -/
def Clean (g : Grid) : Prop := ∀ row ∈ g.primary.rows, EmptyRow row

/-- The primary screen has no contents unless it was written since the last clear that
    looked at it. -/
def Untouched (g : Grid) : Prop := g.modeFlags.mutatedSincePreserve = false → g.Clean

theorem clean_setActive (clean : g.Clean) {s : RowStore} (rows : ∀ row ∈ s.rows, row ∈ g.activeGrid.rows ∨ EmptyRow row) :
    (g.setActiveGrid s).Clean := by
  intro row member
  unfold setActiveGrid at member
  unfold activeGrid at rows
  cases shown : g.modeFlags.altScreen with
  | true =>
    rw [shown] at member
    exact clean row member
  | false =>
    rw [shown] at member rows
    rcases rows row member with old | empty
    · exact clean row old
    · exact empty

theorem clean_edit (clean : g.Clean) (row : Nat) {f : Row → Checked Row} (empties : Empties f) :
    Ends Clean (fun _ => True) (g.modifyActiveRow row f) := by
  cases edited : g.modifyActiveRow row f with
  | error e => trivial
  | ok h =>
    obtain ⟨s,modified,same⟩ := bind_ok_iff.mp edited
    obtain ⟨cells,read,modified⟩ := bind_ok_iff.mp modified
    obtain ⟨after,ran,stored⟩ := bind_ok_iff.mp modified
    cases stored
    cases same
    intro other member
    unfold setActiveGrid at member
    cases shown : g.modeFlags.altScreen with
    | true =>
      rw [shown] at member
      exact clean other member
    | false =>
      have screen : g.activeGrid = g.primary := by simp [activeGrid,shown]
      rw [shown,screen] at member
      rw [screen] at read
      rcases List.mem_or_eq_of_mem_set member with old | rfl
      · exact clean other old
      · refine (empties cells (clean cells ?_)).of_ok ran
        unfold at? at read
        split at read
        · cases read
          exact List.mem_of_getElem? (by assumption)
        · cases read

theorem clean_fill (clean : g.Clean) (start stop : Nat) :
    (g.setActiveGrid (g.activeGrid.fillRows start stop g.blankRowBce)).Clean := by
  refine clean_setActive clean fun row member => ?_
  obtain ⟨i,inside,rfl⟩ := List.mem_mapIdx.mp member
  split
  · exact .inr (emptyRow_replicate rfl _)
  · exact .inl (List.getElem_mem inside)

theorem clean_shiftUp (clean : g.Clean) (top bottom n : Nat) (wrap : RowWrap) :
    (g.setActiveGrid (g.activeGrid.shiftUp top bottom n g.cols wrap)).Clean := by
  refine clean_setActive clean fun row member => ?_
  rcases mem_shiftUp member with old | rfl
  · exact .inl old
  · exact .inr (emptyRow_replicate rfl _)

theorem clean_shiftDown (clean : g.Clean) (top bottom n : Nat) :
    (g.setActiveGrid (g.activeGrid.shiftDown top bottom n g.cols)).Clean := by
  refine clean_setActive clean fun row member => ?_
  rcases mem_shiftDown member with old | rfl
  · exact .inl old
  · exact .inr (emptyRow_replicate rfl _)

theorem Shaped.scrollUp_clean (shaped : g.Shaped P) (clean : g.Clean) (n : Nat) (wrap : RowWrap) :
    Ends Clean (fun _ => True) (g.scrollUp n wrap) := by
  rw [shaped.scrollUp_eq]
  exact clean_shiftUp clean _ _ _ wrap

theorem eraseLine_clean (clean : g.Clean) (mode : Nat) : Ends Clean (fun _ => True) (g.eraseLine mode) := by
  unfold eraseLine
  split
  · exact (clean_edit clean _ (eraseCellsBce_empties _ _ rfl)).bind fun _ clean => clean
  · exact (ends_trivial _).bind fun _ _ =>
      (clean_edit clean _ (eraseCellsBce_empties _ _ rfl)).bind fun _ clean => clean
  · have empties : Empties fun _ => .ok g.blankRowBce := fun _ _ => emptyRow_replicate rfl _
    exact (clean_edit clean _ empties).bind fun _ clean => clean
  · exact clean

theorem preserve_primary (g : Grid) : g.preserveVisibleRowsToScrollback.primary = g.primary := by
  obtain ⟨_,_,_,same⟩ := g.preserve_writes
  exact (congrArg primary same).trans rfl

theorem eraseDisplay_clean (clean : g.Clean) (mode : Nat) : Ends Clean (fun _ => True) (g.eraseDisplay mode) := by
  have preserved : g.preserveVisibleRowsToScrollback.Clean := by
    unfold Clean
    rw [preserve_primary]
    exact clean
  have cells : Ends Clean (fun _ => True) (g.eraseDisplayCells mode) := by
    unfold eraseDisplayCells
    split
    · have kept : (if g.cursorRow = 0 ∧ g.cursorCol = 0 then g.preserveVisibleRowsToScrollback else g).Clean := by
        split
        · exact preserved
        · exact clean
      exact (clean_edit kept _ (eraseCellsBce_empties _ _ rfl)).bind fun _ clean => clean_fill clean _ _
    · exact (ends_trivial _).bind fun _ _ => clean_edit (clean_fill clean _ _) _ (eraseCellsBce_empties _ _ rfl)
    · exact clean_fill preserved _ _
    · exact clean_fill (g := { g with scrollback := {}, scrollbackOffset := 0 }) clean _ _
    · exact clean
  exact cells.bind fun _ clean => clean

theorem handleOsc_primary (g : Grid) (params : List Bytes) (bell : Bool) : (g.handleOsc params bell).primary = g.primary := by
  obtain ⟨_,_,_,same⟩ := g.handleOsc_writes params bell
  exact (congrArg primary same).trans rfl

section
variable [UnicodeWidth]

/-- Only printing brings contents to a blank screen. -/
theorem Shaped.exec_clean (shaped : g.Shaped P) {op : Op} (silent : ∀ ch, op ≠ .print ch) (clean : g.Clean) :
    Ends Clean (fun _ => True) (g.exec op) := by
  have settles (sets : op.Sets = true) : Ends Clean (fun _ => True) (g.exec op) := by
    have same : Ends (fun h => h.primary = g.primary) (fun _ => True) (g.exec op) := exec_unset (fun _ => rfl) sets g
    refine same.mono fun h same => ?_
    unfold Clean
    rw [same]
    exact clean
  cases op
  case print ch => exact absurd rfl (silent ch)
  case newline =>
    change Ends _ _ (g.newlineActionWithWrap .hard)
    rw [newline_eq]
    split
    · exact shaped.scrollUp_clean clean 1 .hard
    · exact clean_setActive clean fun row old => .inl old
  case scrollUp n => exact shaped.scrollUp_clean clean n .hard
  case insertLines p0 =>
    simp only [Grid.exec,shaped.insertLines_eq,ends_ok]
    split
    · exact clean
    · exact clean_shiftDown clean _ _ _
  case deleteLines p0 =>
    simp only [Grid.exec,shaped.deleteLines_eq,ends_ok]
    split
    · exact clean
    · exact clean_shiftUp clean _ _ _ .hard
  case scrollDown p0 =>
    simp only [Grid.exec,shaped.scrollDown_eq,ends_ok]
    exact clean_shiftDown clean _ _ _
  case reverseIndex =>
    simp only [Grid.exec,shaped.reverseIndex_eq,ends_ok]
    split
    · exact clean_shiftDown clean _ _ _
    · exact clean
  case insertChars n => exact (clean_edit clean _ (insertBlanks_empties _ _ _)).bind fun _ clean => clean
  case deleteChars n => exact (clean_edit clean _ (deleteCells_empties _ _ _)).bind fun _ clean => clean
  case eraseChars n =>
    exact (ends_trivial _).bind fun _ _ =>
      (clean_edit clean _ fun row => eraseCellsBce_empties _ _ rfl row).bind fun _ clean => clean
  case eraseLine mode => exact eraseLine_clean clean mode
  case eraseDisplay mode => exact eraseDisplay_clean clean mode
  case osc params bell =>
    change (g.handleOsc params bell).Clean
    unfold Clean
    rw [handleOsc_primary]
    exact clean
  case fullReset =>
    intro row member
    rw [List.eq_of_mem_replicate member]
    exact emptyRow_replicate rfl _
  all_goals exact settles rfl

omit [UnicodeWidth] in
theorem handleOsc_mutated (g : Grid) (params : List Bytes) (bell : Bool) :
    (g.handleOsc params bell).modeFlags.mutatedSincePreserve = g.modeFlags.mutatedSincePreserve := by
  obtain ⟨_,_,_,same⟩ := g.handleOsc_writes params bell
  exact (congrArg (·.modeFlags.mutatedSincePreserve) same).trans rfl

/-- Only a clear takes the mark of a written screen away. -/
theorem Shaped.exec_mutated (shaped : g.Shaped P) {op : Op} (stays : ∀ mode, op ≠ .eraseDisplay mode)
    (mutated : g.modeFlags.mutatedSincePreserve = true) :
    Ends (fun h => h.modeFlags.mutatedSincePreserve = true) (fun _ => True) (g.exec op) := by
  have settles (sets : op.Sets = true) : Ends (fun h => h.modeFlags.mutatedSincePreserve = true) (fun _ => True) (g.exec op) := by
    have same : Ends (fun h => h.modeFlags.mutatedSincePreserve = g.modeFlags.mutatedSincePreserve) (fun _ => True) (g.exec op) :=
      exec_unset (fun _ => rfl) sets g
    exact same.mono fun h same => same.trans mutated
  cases plain : op.Plain with
  | true => exact (shaped.exec_framed plain).mono fun h framed => framed.mutated mutated
  | false =>
    cases op
    case eraseDisplay mode => exact absurd rfl (stays mode)
    case osc params bell => exact (handleOsc_mutated g params bell).trans mutated
    all_goals first
      | exact absurd plain Bool.false_ne_true.symm
      | exact settles rfl
      | exact mutated

/-- Printing leaves the mark. -/
theorem Shaped.print_mutated (shaped : g.Shaped P) (ch : Char) :
    Ends (fun h => h.modeFlags.mutatedSincePreserve = true) (fun _ => True) (g.writeCharAtCursor ch) := by
  have touched : g.touched.Shaped P := { shaped with }
  change Ends _ _ (g.touched.writeCharAtCursor ch)
  exact (touched.print_framed ch).mono fun h framed => framed.mutated rfl

omit [UnicodeWidth] in
/-- A clear that takes the mark away is of the primary screen. -/
theorem eraseHistory_mutated {mode : Nat} (mutated : g.modeFlags.mutatedSincePreserve = true)
    (after : (g.eraseHistory mode).modeFlags.mutatedSincePreserve = false) : g.Clears mode ∧ g.modeFlags.altScreen = false := by
  unfold eraseHistory at after
  split at after
  · exact absurd (mutated.symm.trans after) Bool.true_eq_false.mp
  · split at after
    case isFalse => exact absurd (mutated.symm.trans after) Bool.true_eq_false.mp
    case isTrue clears =>
      refine ⟨clears,?_⟩
      rw [preserve_eq] at after
      cases found : g.clearBlock with
      | none =>
        rw [found] at after
        exact absurd (mutated.symm.trans after) Bool.true_eq_false.mp
      | some block =>
        unfold clearBlock at found
        split at found
        case isTrue => cases found
        case isFalse looked =>
          rw [not_or,not_or] at looked
          exact Bool.not_eq_true _ ▸ looked.2.1

omit [UnicodeWidth] in
/-- A row erased from end to end. -/
theorem eraseRow_empty (row : Row) {blank : Cell} (none : blank.contents = []) :
    Ends EmptyRow (fun _ => True) (eraseCellsBce row 0 row.length blank) := by
  obtain ⟨erased,erasedEq,length,cells⟩ := eraseCellsBce_cellAt (Nat.zero_le _) (Nat.le_refl _) blank
  rw [erasedEq]
  intro d member
  obtain ⟨i,inside,rfl⟩ := mem_iff_cellAt.mp member
  rw [cells i (length ▸ inside),if_pos (.inl ⟨Nat.zero_le _,length ▸ inside⟩)]
  exact none

omit [UnicodeWidth] in
/-- Rows blanked from some row on, when those above are empty. -/
theorem fill_clean (primary : g.modeFlags.altScreen = false) (length : g.activeGrid.rows.length = g.rows) {start : Nat}
    (above : ∀ i < start, ∀ row, g.activeGrid.rows[i]? = some row → EmptyRow row) :
    (g.setActiveGrid (g.activeGrid.fillRows start g.rows g.blankRowBce)).Clean := by
  intro row member
  unfold setActiveGrid at member
  rw [primary] at member
  obtain ⟨i,inside,rfl⟩ := List.mem_mapIdx.mp member
  split
  case isTrue => exact emptyRow_replicate rfl _
  case isFalse outside => exact above i (by omega) _ (List.getElem?_eq_getElem inside)

omit [UnicodeWidth] in
/-- ED 0 at home. -/
theorem eraseDisplayCells_home (home : g.cursorRow = 0 ∧ g.cursorCol = 0) : g.eraseDisplayCells 0 =
    g.preserveVisibleRowsToScrollback.modifyActiveRow g.preserveVisibleRowsToScrollback.cursorRow
        (fun row => eraseCellsBce row g.preserveVisibleRowsToScrollback.cursorCol g.preserveVisibleRowsToScrollback.cols
          g.preserveVisibleRowsToScrollback.blankCell) >>=
      fun g => .ok (g.setActiveGrid (g.activeGrid.fillRows (g.cursorRow + 1) g.rows g.blankRowBce)) := by
  have kept : (if g.cursorRow = 0 ∧ g.cursorCol = 0 then g.preserveVisibleRowsToScrollback else g) =
    g.preserveVisibleRowsToScrollback := if_pos home
  unfold eraseDisplayCells
  dsimp only
  rw [kept]
  rfl

omit [UnicodeWidth] in
/-- After a clear of the screen there is nothing on it. -/
theorem Shaped.clear_clean (shaped : g.Shaped P) (primary : g.modeFlags.altScreen = false) {mode : Nat} (clears : g.Clears mode) :
    Ends Clean (fun _ => True) (g.eraseDisplay mode) := by
  have frame : g.preserveVisibleRowsToScrollback.modeFlags = { g.modeFlags with
        mutatedSincePreserve := g.preserveVisibleRowsToScrollback.modeFlags.mutatedSincePreserve } ∧
      g.preserveVisibleRowsToScrollback.cursorRow = g.cursorRow ∧ g.preserveVisibleRowsToScrollback.cursorCol = g.cursorCol := by
    rw [preserve_eq]
    cases g.clearBlock <;> exact ⟨rfl,rfl,rfl⟩
  obtain ⟨flags,row,col⟩ := frame
  have shown : g.preserveVisibleRowsToScrollback.modeFlags.altScreen = false := by rw [flags]; exact primary
  have kept := shaped.preserveVisibleRowsToScrollback
  have cells : Ends Clean (fun _ => True) (g.eraseDisplayCells mode) := by
    rcases clears with rfl | ⟨rfl,atTop,atLeft⟩
    · exact fill_clean shown kept.active.rowCount fun i none => absurd none (Nat.not_lt_zero i)
    · rw [eraseDisplayCells_home ⟨atTop,atLeft⟩]
      generalize g.preserveVisibleRowsToScrollback = f at *
      cases edited : f.modifyActiveRow f.cursorRow fun row => eraseCellsBce row f.cursorCol f.cols f.blankCell with
      | error e => trivial
      | ok h =>
        obtain ⟨s,modified,same⟩ := bind_ok_iff.mp edited
        obtain ⟨cells,read,modified⟩ := bind_ok_iff.mp modified
        obtain ⟨after,ran,stored⟩ := bind_ok_iff.mp modified
        cases stored
        cases same
        rw [ok_bind]
        have screen := activeGrid_setActiveGrid f { f.activeGrid with rows := f.activeGrid.rows.set f.cursorRow after }
        refine fill_clean (g := f.setActiveGrid _) shown ?_ fun i above row found => ?_
        · rw [screen]
          exact List.length_set.trans kept.active.rowCount
        · change i < f.cursorRow + 1 at above
          rw [screen,show i = f.cursorRow by omega,List.getElem?_set_self] at found
          · cases found
            obtain ⟨_,readAgain,_,width,_⟩ := kept.active.get kept.cursorRow
            cases read.symm.trans readAgain
            rw [col,atLeft,← width] at ran
            exact (eraseRow_empty cells rfl).of_ok ran
          · rw [kept.active.rowCount]
            exact kept.cursorRow
  exact cells.bind fun _ clean => clean

/-- An operation leaves a blank screen unless it leaves the mark. -/
theorem Shaped.exec_untouched (shaped : g.Shaped P) (op : Op) (untouched : g.Untouched) :
    Ends Untouched (fun _ => True) (g.exec op) := by
  by_cases prints : ∃ ch, op = .print ch
  · obtain ⟨ch,rfl⟩ := prints
    exact (shaped.print_mutated ch).mono fun h mutated unmarked => absurd (mutated.symm.trans unmarked) Bool.true_eq_false.mp
  rw [not_exists] at prints
  cases mutated : g.modeFlags.mutatedSincePreserve with
  | false => exact (shaped.exec_clean prints (untouched mutated)).mono fun h clean _ => clean
  | true =>
    by_cases erases : ∃ mode, op = .eraseDisplay mode
    · obtain ⟨mode,rfl⟩ := erases
      cases after : (g.eraseHistory mode).modeFlags.mutatedSincePreserve with
      | true =>
        refine (eraseDisplay_framed g mode).mono fun h framed unmarked => ?_
        exact absurd ((framed.mutated after).symm.trans unmarked) Bool.true_eq_false.mp
      | false =>
        obtain ⟨clears,primary⟩ := eraseHistory_mutated mutated after
        exact (shaped.clear_clean primary clears).mono fun h clean _ => clean
    · rw [not_exists] at erases
      exact (shaped.exec_mutated erases mutated).mono fun h marked unmarked =>
        absurd (marked.symm.trans unmarked) Bool.true_eq_false.mp

omit [UnicodeWidth] in
theorem host_untouched (g : Grid) (c : HostCall) (untouched : g.Untouched) : (g.host c).Untouched := by
  cases c
  case setSize rows cols =>
    intro unmarked row member
    have clean := untouched unmarked
    change row ∈ (g.primary.resize (max rows.toNat 1) (max cols.toNat 1)).rows at member
    unfold RowStore.resize at member
    dsimp only at member
    split at member
    · exact clean row member
    · rcases List.mem_append.mp member with kept | added
      · have old := List.mem_of_mem_take kept
        split at old
        · obtain ⟨row,inside,rfl⟩ := List.mem_map.mp old
          exact resizeRow_empty _ (clean row inside)
        · exact clean row old
      · rw [List.eq_of_mem_replicate added]
        exact emptyRow_replicate rfl _
  all_goals exact untouched

/-- A clear that saves the primary screen. -/
def ClearsSaving (g : Grid) (mode : Nat) : Prop :=
  g.Clears mode ∧ g.modeFlags.altScreen = false ∧ g.eraseDisplayPolicy = .saveToScrollback ∧ g.rows ≤ g.scrollbackLimit

instance (g : Grid) (mode : Nat) : Decidable (g.ClearsSaving mode) := by unfold ClearsSaving; infer_instance

/-- What such a clear erases is then in the scrollback, in order. -/
def ClearKeeps (g : Grid) : Step → Prop
  | .op (.eraseDisplay mode) => g.ClearsSaving mode → ∀ block, visibleBlock g.primary = some block →
      ∀ h, g.exec (.eraseDisplay mode) = .ok h → block.Sublist h.scrollback.rows
  | _ => True

/-- A block that such a clear finds on the screen and remembers is still in the
    scrollback. -/
def ClearRemembers (g : Grid) : Step → Prop
  | .op (.eraseDisplay mode) => g.ClearsSaving mode →
      ∀ block ∈ visibleBlock g.primary, g.lastPreservedBlock = some block → block.Sublist g.scrollback.rows
  | _ => True

omit [UnicodeWidth] in
theorem visibleBlock_of_clean (clean : g.Clean) : visibleBlock g.primary = none := by
  have none : g.primary.rows.findIdx? rowHasContents = .none := by
    rw [List.findIdx?_eq_none_iff]
    intro row member
    exact (emptyRow_iff row).mp (clean row member)
  unfold visibleBlock
  rw [none]

omit [UnicodeWidth] in
theorem visibleBlock_length {s : RowStore} {block : List Row} (found : visibleBlock s = some block) :
    block.length ≤ s.rows.length := by
  unfold visibleBlock at found
  split at found
  · cases found
  · cases found
    rw [List.length_reverse]
    refine Nat.le_trans (List.length_dropWhile_le _ _) ?_
    rw [List.length_reverse,List.length_drop]
    exact Nat.sub_le _ _

omit [UnicodeWidth] in
/-- Rows that enter a scrollback that has room for them are in it afterwards. -/
theorem Shaped.feed_keeps (shaped : g.Shaped P) (some : 0 < g.scrollbackLimit) {block : List Row}
    (fits : block.length ≤ g.scrollbackLimit) (wrap : RowWrap) :
    block <:+ (g.scrollback.feed g.scrollbackLimit (block.map fun row => (row,wrap))).rows := by
  have short : g.scrollback.entries.length ≤ g.scrollbackLimit := by
    unfold RowStore.entries
    rw [List.length_zip]
    exact Nat.le_trans (Nat.min_le_left _ _) shaped.historyLimit
  rw [← RowStore.ofEntries_entries shaped.historyWraps,RowStore.feed_ofEntries,← newest_of_short short,
    foldl_slide_newest (.inl some)]
  have inside : (block.map fun row => (row,wrap)) <:+
      newest g.scrollbackLimit (g.scrollback.entries ++ block.map fun row => (row,wrap)) :=
    suffix_newest (by rw [List.length_map]; exact fits)
  have rows := inside.map Prod.fst
  rwa [List.map_map,show Prod.fst ∘ (fun row : Row => (row,wrap)) = id from rfl,List.map_id] at rows

theorem Shaped.clear_runs (shaped : g.Shaped RowOk) {mode : Nat} (clears : g.Clears mode) :
    ∃ h, g.exec (.eraseDisplay mode) = .ok h := by
  rcases clears with rfl | ⟨rfl,atTop,atLeft⟩
  · exact ⟨_,rfl⟩
  · obtain ⟨s,erased,_⟩ := shaped.preserveVisibleRowsToScrollback.eraseFrom (rowOk_law fun _ => True)
    cases ran : g.exec (.eraseDisplay 0) with
    | ok h => exact ⟨h,rfl⟩
    | error e =>
      change g.eraseDisplayCells 0 >>= _ = _ at ran
      rw [eraseDisplayCells_home ⟨atTop,atLeft⟩,erased] at ran
      cases ran

/-- A clear keeps what it erases exactly if it finds nothing it wrongly remembers. -/
theorem Shaped.clearKeeps_iff (shaped : g.Shaped RowOk) (untouched : g.Untouched) (step : Step) :
    g.ClearKeeps step ↔ g.ClearRemembers step := by
  cases step with
  | host c => exact Iff.rfl
  | op op =>
    cases op
    case eraseDisplay mode =>
      refine imp_congr_right fun saving => forall_congr' fun block => imp_congr_right fun visible => ?_
      obtain ⟨clears,primary,saves,limit⟩ := saving
      have some : 0 < g.scrollbackLimit := Nat.lt_of_lt_of_le (Nat.zero_lt_of_lt shaped.cursorRow) limit
      have looked : g.clearBlock = .some block := by
        unfold clearBlock
        cases mutated : g.modeFlags.mutatedSincePreserve with
        | false => cases (visibleBlock_of_clean (untouched mutated)).symm.trans visible
        | true =>
          rw [if_neg,visible]
          rw [saves,primary]
          simp
          omega
      obtain ⟨h,ran⟩ := shaped.clear_runs clears
      have other : Op.eraseDisplay mode ≠ .eraseDisplay 3 := by
        rcases clears with rfl | ⟨rfl,_⟩ <;> simp
      have scrollback := (shaped.exec_scrollback (.eraseDisplay mode)).of_ok ran
      have admits : g.admitted (.eraseDisplay mode) = g.clearSaves block := by
        change (if g.Clears mode then g.clearBlock.elim [] g.clearSaves else []) = _
        rw [if_pos clears,looked]
        rfl
      rw [if_neg other,admits] at scrollback
      unfold clearSaves at scrollback
      split at scrollback
      case isTrue remembered =>
        constructor
        · intro kept _
          have after := kept h ran
          rwa [scrollback] at after
        · intro kept h' ran'
          cases ran.symm.trans ran'
          rw [scrollback]
          exact kept remembered
      case isFalse fresh =>
        refine iff_of_true (fun h' ran' => ?_) fun remembered => absurd remembered fresh
        cases ran.symm.trans ran'
        rw [scrollback]
        refine (shaped.feed_keeps some ?_ .hard).sublist
        exact Nat.le_trans (visibleBlock_length visible) (shaped.primary.rowCount ▸ limit)
    all_goals exact Iff.rfl

end

end Grid

section
variable [Vte] [UnicodeWidth]

namespace DamageGrid

/-- In a run every clear that saves the screen leaves in the scrollback what it
    erases, in order, exactly if every such clear that finds on the screen the block
    it remembers finds it in the scrollback too. -/
theorem clears_keep_iff {rows cols : UInt16} (hasRows : 0 < rows) (hasCols : 0 < cols) (scrollbackLimit : Nat)
    (run : List Call) :
    StepsMeet Grid.take Grid.ClearKeeps (new rows cols scrollbackLimit).grid ((new rows cols scrollbackLimit).steps run) ↔
      StepsMeet Grid.take Grid.ClearRemembers (new rows cols scrollbackLimit).grid
        ((new rows cols scrollbackLimit).steps run) := by
  have shaped := (sound_new (rowOk_law fun _ => True).blank hasRows hasCols scrollbackLimit).grid
  have start : (new rows cols scrollbackLimit).grid.Untouched := by
    intro _ row member
    rw [List.eq_of_mem_replicate member]
    exact emptyRow_replicate rfl _
  have visits := shaped.takes_visits (fun _ op shaped _ untouched => shaped.exec_untouched op untouched)
    (fun g c _ untouched => g.host_untouched c untouched) (fun none => absurd none Bool.false_ne_true)
    (stepsFrom_tame (new rows cols scrollbackLimit).parser (new rows cols scrollbackLimit).pendingUtf8 run) start
  exact ⟨fun keeps => visits.imp keeps fun _ step visited => (visited.1.clearKeeps_iff visited.2 step).mp,
    fun remembers => visits.imp remembers fun _ step visited => (visited.1.clearKeeps_iff visited.2 step).mpr⟩

end DamageGrid

end

section
attribute [local instance] byteParser blockWidth

/-- `A` and `CSI 2 J`. -/
theorem clears_keep_iff_once :
    StepsMeet Grid.take Grid.ClearKeeps (DamageGrid.new 2 2 5).grid
        ((DamageGrid.new 2 2 5).steps [.process [0x41,0x1b,0x5b,0x32,0x4a]]) ↔
      StepsMeet Grid.take Grid.ClearRemembers (DamageGrid.new 2 2 5).grid
        ((DamageGrid.new 2 2 5).steps [.process [0x41,0x1b,0x5b,0x32,0x4a]]) :=
  DamageGrid.clears_keep_iff (show (0 : UInt16) < 2 by decide) (show (0 : UInt16) < 2 by decide) 5 _

/-- `A`, `CSI 2 J`, `clear_scrollback`, `CSI H`, `A`, `CSI 2 J`: the second clear
    remembers the row that was cleared away. -/
theorem clear_loses_row :
    ¬ StepsMeet Grid.take Grid.ClearKeeps (DamageGrid.new 2 2 5).grid
      ((DamageGrid.new 2 2 5).steps [.process [0x41,0x1b,0x5b,0x32,0x4a],.host .clearScrollback,
        .process [0x1b,0x5b,0x48,0x41,0x1b,0x5b,0x32,0x4a]]) := by
  intro meets
  have peeled : StepsMeet Grid.take Grid.ClearKeeps (DamageGrid.new 2 2 5).grid
      [.op (.print 'A'),.op (.eraseDisplay 2),.host .clearScrollback,.op .clearPendingWrap,.op (.cursorPosition 0 0),
        .op (.print 'A'),.op (.eraseDisplay 2)] := meets
  have last := ((((((peeled.2 _ rfl).2 _ rfl).2 _ rfl).2 _ rfl).2 _ rfl).2 _ rfl).1
  exact absurd (last (by decide) _ rfl _ rfl) (by decide)

end

end Termpane
