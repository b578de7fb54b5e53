import Termpane.Frames
import Termpane.Steps

/-!
# Sequences that are not implemented

Most arms of the dispatchers test the intermediates of a sequence and drop it when
they are not theirs. Those that do not take it for the sequence without, which is inert
only where that one has nothing to do.
-/
namespace Termpane

open Lib

/-! ## Edits that change no cell -/

theorem RowOk.no_orphan {row : Row} (ok : RowOk row) (last : (cellAt row (row.length - 1)).isWide = false) (j : Nat) :
    ¬ Orphan row j := by
  rintro (⟨continuation,first | single⟩ | ⟨lead,single⟩)
  · rw [first,ok.first] at continuation
    cases continuation
  · cases j with
    | zero => rw [ok.first] at continuation; cases continuation
    | succ j =>
      by_cases inside : j + 1 < row.length
      · rw [ok.pairs j inside] at continuation
        rw [Nat.add_sub_cancel,continuation] at single
        cases single
      · rw [cellAt_outside (by omega)] at continuation
        cases continuation
  · by_cases inside : j + 1 < row.length
    · rw [ok.pairs j inside,lead] at single
      cases single
    · by_cases atLast : j + 1 = row.length
      · rw [show row.length - 1 = j by omega,lead] at last
        cases last
      · rw [cellAt_outside (by omega)] at lead
        cases lead

/-- ICH changes nothing exactly if there is nothing from the cursor on. -/
theorem insertBlanks_idle_iff {row : Row} (ok : RowOk row) {col n : Nat} (inside : col ≤ row.length) (some : 0 < n) :
    ∃ inserted, insertBlanks row col n row.length = .ok inserted ∧
      (inserted = row ↔ ∀ j, col ≤ j → j < row.length → cellAt row j = default) := by
  rcases Nat.lt_or_eq_of_le inside with inside | rfl
  · obtain ⟨shifted,inserted,isInserted,insertedEq,length,cells⟩ := insertBlanks_cellAt (n := n) ok.exclusive inside
    refine ⟨inserted,insertedEq,?_⟩
    constructor
    · rintro rfl j
      -- a blank comes from the cell `n` to the left, or was put in
      induction j using Nat.strong_induction_on with
      | _ j ih =>
        intro right bound
        rw [cells j]
        split
        · rfl
        · rw [isInserted.2 j bound,if_neg (by omega)]
          split
          · rfl
          · exact ih (j - n) (by omega) (by omega) (by omega)
    · intro blank
      have still : shifted = row := by
        refine row_ext isInserted.1 fun j bound => ?_
        rw [isInserted.1] at bound
        rw [isInserted.2 j bound]
        split_ifs
        · rfl
        · exact (blank j (by omega) bound).symm
        · rw [blank j (by omega) bound,blank (j - n) (by omega) (by omega)]
      subst still
      refine row_ext length fun j _ => ?_
      rw [cells j,if_neg (ok.no_orphan (by rw [blank _ (by omega) (by omega)]; rfl) j)]
  · exact ⟨row,insertBlanks_parked n,iff_of_true rfl fun j right bound => absurd bound (by omega)⟩

/-- DCH changes nothing exactly if there is nothing from the cursor on, nor among the
    cells it blanks. -/
theorem deleteCells_idle_iff {row : Row} (ok : RowOk row) {col n : Nat} (inside : col ≤ row.length) (some : 0 < n) :
    ∃ deleted, deleteCells row col n row.length = .ok deleted ∧
      (deleted = row ↔ ∀ j, j < row.length → col ≤ j ∨ row.length ≤ j + n → cellAt row j = default) := by
  obtain ⟨shifted,deleted,isDeleted,deletedEq,length,cells⟩ := deleteCells_cellAt ok.exclusive inside some
  refine ⟨deleted,deletedEq,?_⟩
  constructor
  · rintro rfl j bound reached
    -- a blank comes from the cell `n` to the right, or was put in
    induction left : shifted.length - j using Nat.strong_induction_on generalizing j with
    | _ _ ih =>
      rw [cells j]
      split
      · rfl
      · rw [isDeleted.2 j bound]
        split
        · rfl
        · rw [if_pos (by omega)]
          have width := isDeleted.1
          exact ih _ (show shifted.length - (j + n) < _ by omega) (j + n) (by omega) (.inl (by omega)) rfl
  · intro blank
    have still : shifted = row := by
      refine row_ext isDeleted.1 fun j bound => ?_
      rw [isDeleted.1] at bound
      rw [isDeleted.2 j bound]
      split_ifs
      · exact (blank j bound (.inr (by omega))).symm
      · rw [blank j bound (.inl (by omega)),blank (j + n) (by omega) (.inl (by omega))]
      · rfl
    subst still
    refine row_ext length fun j bound => ?_
    have last : (cellAt shifted (shifted.length - 1)).isWide = false := by
      rw [length] at bound
      rw [blank _ (by omega) (.inr (by omega))]
      rfl
    rw [cells j,if_neg (ok.no_orphan last j)]

/-- ECH changes nothing exactly if the cells it erases are blank in the current background. -/
theorem eraseCells_idle_iff {row : Row} {col n : Nat} (blank : Cell) (inside : col ≤ row.length) (some : 0 < n)
    (narrow : blank.isWide = false) (single : blank.isWideContinuation = false) :
    ∃ erased, eraseCells row col n blank = .ok erased ∧
      (erased = row ↔ ∀ j, col ≤ j → j < col + n → j < row.length → cellAt row j = blank) := by
  obtain ⟨erased,erasedEq,length,cells⟩ := eraseCellsBce_cellAt (show min col (min (col + n) row.length) ≤ min (col + n) row.length
    from Nat.min_le_right _ _) (show min (col + n) row.length ≤ row.length from Nat.min_le_right _ _) blank
  rw [show min col (min (col + n) row.length) = col by omega] at erasedEq cells
  refine ⟨erased,?_,?_⟩
  · change eraseCellsBce row (min col (min (col + n) row.length)) _ blank = _
    rw [show min col (min (col + n) row.length) = col by omega]
    exact erasedEq
  constructor
  · rintro rfl j right left bound
    rw [cells j bound,if_pos (.inl ⟨right,by omega⟩)]
  · intro blanks
    refine row_ext length fun j bound => ?_
    rw [length] at bound
    rw [cells j bound]
    split
    case isFalse => rfl
    case isTrue reached =>
      rcases reached with ⟨right,left⟩ | ⟨before,splits⟩ | ⟨after,some,splits⟩
      · exact (blanks j right (by omega) bound).symm
      · by_cases parked : col < row.length
        · rw [blanks col (Nat.le_refl _) (by omega) parked,single] at splits
          cases splits
        · rw [cellAt_outside (by omega)] at splits
          cases splits
      · rw [blanks _ (by omega) (by omega) (by omega),narrow] at splits
        cases splits

/-! ## What a sequence should leave -/

/-- The cells, cursors, margins, modes and histories of a grid. -/
structure Standing where
  cells : List Row × List Row
  cursor : Nat × Nat
  savedCursor : Nat × Nat
  margins : Nat × Nat
  modes : ModeFlags × MouseProtocolMode × MouseProtocolEncoding × Option Bool
  scrollback : RowStore
  scrollOps : List ScrollOp
  deriving DecidableEq

namespace Grid

variable {P : Row → Prop} {g h : Grid}

def standing (g : Grid) : Standing where
  cells := (g.primary.rows,g.alternate.rows)
  cursor := (g.cursorRow,g.cursorCol)
  savedCursor := (g.savedCursorRow,g.savedCursorCol)
  margins := (g.scrollTop,g.scrollBottom)
  modes := (g.modeFlags,g.mouseMode,g.mouseEncoding,g.textCursorEnable)
  scrollback := g.scrollback
  scrollOps := g.scrollOps

/-- A callback that changes none of that. -/
def Inert [UnicodeWidth] (g : Grid) (c : Callback) : Prop := ∃ h, g.perform c = .ok h ∧ h.standing = g.standing

end Grid

/-- The intermediates for which an arm of `csi_dispatch` implements its final. -/
def implemented (intermediates : Bytes) (p0 : Nat) (action : Char) : Bool :=
  (intermediates = [] && "@ABCDEFGHfJKLMPSTXdmrsucn".toList.contains action) ||
  (intermediates = ascii "?" && "JKhlun".toList.contains action) ||
  (intermediates = ascii ">" && ("ucq".toList.contains action || (action = 'm' && p0 = 4))) ||
  (intermediates = ascii "<" && action = 'u') ||
  (intermediates = ascii " " && action = 'q') ||
  (intermediates = ascii "!" && action = 'p') ||
  (intermediates.contains 0x24 && action = 'p')

/-- A CSI with intermediates that its final is not implemented for, or an ESC with
    any. -/
def Callback.Unimplemented : Callback → Prop
  | .csiDispatch params intermediates _ action =>
    implemented intermediates (((params.map (·.map UInt16.toNat)).map Param.first)[0]?.getD 0) action = false
  | .escDispatch intermediates _ _ => intermediates ≠ []
  | _ => False

/-- The finals whose arms do not look at the intermediates. -/
def Callback.blind : Callback → Bool
  | .csiDispatch _ _ _ action => "@ABCDEFGHfLMPSTXdrs".toList.contains action
  | .escDispatch _ _ byte => (ascii "M78=>c").contains byte
  | _ => false

/-- The operations of those arms, with counts of at least one. -/
def Op.Blind : Op → Prop
  | .insertChars n | .cursorUp n | .cursorDown n | .cursorForward n | .cursorBack n | .nextLine n | .previousLine n
  | .deleteChars n | .scrollUp n | .eraseChars n => 0 < n
  | .cursorColumn _ | .cursorPosition _ _ | .cursorRow _ | .insertLines _ | .deleteLines _ | .scrollDown _
  | .setMargins _ _ | .saveCursor | .restoreCursor | .reverseIndex | .keypad _ | .fullReset => True
  | _ => False

/-- A blind arm is one operation; those that move the cursor cancel the pending wrap
    first, and so does RI. -/
theorem blind_ops {c : Callback} (blind : c.blind = true) :
    ∃ op, op.Blind ∧ (c.ops = [op] ∧ op.Moves = false ∨
      c.ops = [.clearPendingWrap,op] ∧ (op.Moves = true ∨ op = .reverseIndex)) := by
  have one (n : Nat) : 0 < max n 1 := by omega
  cases c with
  | csiDispatch params intermediates ignore action =>
    have finals : action ∈ "@ABCDEFGHfLMPSTXdrs".toList := List.contains_iff_mem.mp blind
    simp only [String.reduceToList,List.mem_cons,List.not_mem_nil,or_false] at finals
    rcases finals with rfl | rfl | rfl | rfl | rfl | rfl | rfl | rfl | rfl | rfl | rfl | rfl | rfl | rfl | rfl | rfl | rfl | rfl | rfl
    all_goals refine ⟨_,?_,by first | exact .inl ⟨rfl,rfl⟩ | exact .inr ⟨rfl,.inl rfl⟩⟩
    all_goals first
      | exact one _
      | trivial
  | escDispatch intermediates ignore byte =>
    have finals : byte ∈ ascii "M78=>c" := List.contains_iff_mem.mp blind
    rw [show ascii "M78=>c" = [0x4d,0x37,0x38,0x3d,0x3e,0x63] from rfl] at finals
    simp only [List.mem_cons,List.not_mem_nil,or_false] at finals
    rcases finals with rfl | rfl | rfl | rfl | rfl | rfl
    · exact ⟨.reverseIndex,trivial,.inr ⟨rfl,.inr rfl⟩⟩
    all_goals exact ⟨_,by trivial,.inl ⟨rfl,rfl⟩⟩
  | _ => cases blind

/-- The other arms drop a sequence they do not implement. -/
theorem denied_ops {c : Callback} (unimplemented : c.Unimplemented) (tests : c.blind = false) :
    ∀ op ∈ c.ops, ∃ e, op = .emit e := by
  cases c with
  | csiDispatch params intermediates ignore action =>
    have stays : movesCursor action = false := by
      rw [← Bool.not_eq_true]
      intro moves
      have finals : action ∈ "ABCDEFGHfdr".toList := List.contains_iff_mem.mp moves
      simp only [String.reduceToList,List.mem_cons,List.not_mem_nil,or_false] at finals
      rcases finals with rfl | rfl | rfl | rfl | rfl | rfl | rfl | rfl | rfl | rfl | rfl <;> cases tests
    change implemented intermediates (((params.map (·.map UInt16.toNat)).map Param.first)[0]?.getD 0) action = false
      at unimplemented
    intro op inside
    simp only [Callback.ops,csiDispatch,stays,Bool.false_eq_true,if_false,List.nil_append] at inside
    generalize params.map (·.map UInt16.toNat) = params at unimplemented inside
    unfold csiOps at inside
    split at inside
    case h_30 => exact ⟨_,List.mem_singleton.mp inside⟩
    all_goals cases tests
    all_goals simp [implemented] at unimplemented
    case h_20 =>
      dsimp only at inside
      rw [if_neg unimplemented.1,if_neg (fun modifies => unimplemented.2 modifies.1 (by simpa using modifies.2))] at inside
      exact ⟨_,List.mem_singleton.mp inside⟩
    case h_26 => simp [unimplemented] at inside
    all_goals
      simp [unimplemented] at inside
      exact ⟨_,inside⟩
  | escDispatch intermediates ignore byte =>
    have other : byte ∉ ascii "M78=>c" := fun found => by
      rw [Callback.blind,List.contains_iff_mem.mpr found] at tests
      cases tests
    rw [show ascii "M78=>c" = [0x4d,0x37,0x38,0x3d,0x3e,0x63] from rfl] at other
    simp only [List.mem_cons,List.not_mem_nil,or_false,not_or] at other
    intro op inside
    simp [Callback.ops,escDispatch,other] at inside
  | _ => exact unimplemented.elim

namespace Grid

variable {P : Row → Prop} {g h : Grid}

/-- Where DECSTBM puts the bottom margin. -/
def bottomFor (g : Grid) (p1 : Nat) : Nat := if p1 = 0 then g.rows - 1 else min (p1 - 1) (g.rows - 1)

/-- States in which an operation of a blind arm has nothing to do. -/
def Idles (g : Grid) : Op → Prop
  | .clearPendingWrap => g.modeFlags.pendingWrap = false
  | .insertChars _ => ∀ j, g.cursorCol ≤ j → j < g.cols → cellAt g.cursorCells j = default
  | .deleteChars n => ∀ j, j < g.cols → g.cursorCol ≤ j ∨ g.cols ≤ j + n → cellAt g.cursorCells j = default
  | .eraseChars n => ∀ j, g.cursorCol ≤ j → j < g.cursorCol + n → j < g.cols → cellAt g.cursorCells j = g.blankCell
  | .cursorUp _ => g.cursorRow = 0
  | .cursorDown _ => g.cursorRow = g.rows - 1
  | .cursorForward _ => g.cursorCol = g.cols - 1
  | .cursorBack _ => g.cursorCol = 0
  | .nextLine _ => g.cursorRow = g.rows - 1 ∧ g.cursorCol = 0
  | .previousLine _ => g.cursorRow = 0 ∧ g.cursorCol = 0
  | .cursorColumn p0 => g.cursorCol = min (p0 - 1) (g.cols - 1)
  | .cursorPosition p0 p1 => g.cursorRow = min (p0 - 1) (g.rows - 1) ∧ g.cursorCol = min (p1 - 1) (g.cols - 1)
  | .cursorRow p0 => g.cursorRow = min (p0 - 1) (g.rows - 1)
  | .insertLines _ | .deleteLines _ => g.cursorRow < g.scrollTop ∨ g.cursorRow > g.scrollBottom
  | .setMargins p0 p1 =>
    (g.cursorRow = 0 ∧ g.cursorCol = 0) ∧
      if p0 - 1 < g.bottomFor p1 then g.scrollTop = p0 - 1 ∧ g.scrollBottom = g.bottomFor p1
      else g.scrollTop = 0 ∧ g.scrollBottom = g.rows - 1
  | .saveCursor => g.savedCursorRow = g.cursorRow ∧ g.savedCursorCol = g.cursorCol
  | .restoreCursor => g.cursorRow = min g.savedCursorRow (g.rows - 1) ∧ g.cursorCol = min g.savedCursorCol g.cols
  | .reverseIndex => g.cursorRow = 0 ∧ g.scrollTop ≠ 0
  | .keypad application => g.modeFlags.applicationKeypad = application
  | .fullReset =>
    g.primary.rows = List.replicate g.rows (blankRow g.cols) ∧ g.alternate.rows = List.replicate g.rows (blankRow g.cols) ∧
      (g.cursorRow = 0 ∧ g.cursorCol = 0) ∧ (g.scrollTop = 0 ∧ g.scrollBottom = g.rows - 1) ∧
      g.modeFlags = { mutatedSincePreserve := g.modeFlags.mutatedSincePreserve } ∧
      g.mouseMode = .none ∧ g.mouseEncoding = .default ∧ g.textCursorEnable = none
  | _ => False

/-- An edit of the cursor's row changes something exactly if it changes the row. -/
theorem Shaped.edit_standing (shaped : g.Shaped P) {f : Row → Checked Row} {edited : Row}
    (edits : f g.cursorCells = .ok edited) (mark : Grid → DirtyTracker) :
    ∃ h, (g.modifyActiveRow g.cursorRow f >>= fun g => pure { g with dirty := mark g }) = .ok h ∧
      (h.standing = g.standing ↔ edited = g.cursorCells) := by
  obtain ⟨read,_,_,_⟩ := shaped.cursorCells
  have inside : g.cursorRow < g.activeGrid.rows.length := by rw [shaped.active.rowCount]; exact shaped.cursorRow
  have cells : g.activeGrid.rows[g.cursorRow] = g.cursorCells := by
    unfold Grid.cursorCells
    rw [List.getElem?_eq_getElem inside]
    rfl
  have same : g.activeGrid.rows.set g.cursorRow edited = g.activeGrid.rows ↔ edited = g.cursorCells := by
    constructor
    · intro still
      rw [← cells,← List.getElem_of_eq still (by rwa [List.length_set]),List.getElem_set_self]
    · rintro rfl
      rw [← cells,List.set_getElem_self]
  have modified : g.modifyActiveRow g.cursorRow f =
      .ok (g.setActiveGrid { g.activeGrid with rows := g.activeGrid.rows.set g.cursorRow edited }) := by
    simp only [Grid.modifyActiveRow,RowStore.modifyRow,read,edits,ok_bind,pure_ok]
  refine ⟨_,by rw [modified]; rfl,Iff.trans ?_ same⟩
  unfold activeGrid
  cases alt : g.modeFlags.altScreen with
  | true => simp [standing,setActiveGrid,alt]
  | false => simp [standing,setActiveGrid,alt]

theorem standing_moved (g : Grid) (row col : Nat) :
    ({ g with cursorRow := row, cursorCol := col } : Grid).standing = g.standing ↔ row = g.cursorRow ∧ col = g.cursorCol := by
  simp [standing]

theorem standing_ne_of_recorded {recorded : List ScrollOp} (log : h.scrollOps = g.scrollOps ++ recorded)
    (some : recorded ≠ []) : h.standing ≠ g.standing := by
  intro same
  have still : h.scrollOps = g.scrollOps := congrArg Standing.scrollOps same
  rw [log] at still
  exact some (List.append_right_eq_self.mp still)

theorem Shaped.setMargins_standing_iff (shaped : g.Shaped P) (p0 p1 : Nat) :
    (g.setMargins p0 p1).standing = g.standing ↔ g.Idles (.setMargins p0 p1) := by
  have hasRows := shaped.cursorRow
  have margins := shaped.margins
  have bottom := shaped.bottom
  have spelled : g.setMargins p0 p1 = { g with
    scrollTop := if p0 - 1 < g.bottomFor p1 then p0 - 1 else 0
    scrollBottom := if p0 - 1 < g.bottomFor p1 then g.bottomFor p1 else g.rows - 1
    cursorRow := 0
    cursorCol := 0 } := rfl
  rw [spelled]
  simp only [standing,Standing.mk.injEq,Prod.mk.injEq,true_and,and_true,Idles]
  split <;> omega

theorem Shaped.restoreCursor_standing_iff (shaped : g.Shaped P) :
    g.restoreSavedCursor.standing = g.standing ↔ g.Idles .restoreCursor := by
  have parked := shaped.parked
  have cols := shaped.hasCols
  have inside := shaped.cursorCol
  have rows := shaped.cursorRow
  have flags (pending : Bool) : ({ g.modeFlags with pendingWrap := pending } : ModeFlags) = g.modeFlags ↔
      pending = g.modeFlags.pendingWrap := by
    constructor
    · intro same
      exact congrArg ModeFlags.pendingWrap same
    · rintro rfl
      rfl
  rw [restoreSavedCursor_eq]
  split
  all_goals
    simp only [standing,Standing.mk.injEq,Prod.mk.injEq,true_and,and_true,Idles,flags]
    cases pending : g.modeFlags.pendingWrap
    all_goals simp [pending] at parked ⊢; omega

theorem fullReset_standing_iff (g : Grid) : g.fullReset.standing = g.standing ↔ g.Idles .fullReset := by
  have spelled : g.fullReset.standing = { g.standing with
    cells := (List.replicate g.rows (blankRow g.cols),List.replicate g.rows (blankRow g.cols))
    cursor := (0,0)
    margins := (0,g.rows - 1)
    modes := ({ mutatedSincePreserve := g.modeFlags.mutatedSincePreserve },.none,.default,none) } := rfl
  rw [spelled]
  simp only [standing,Standing.mk.injEq,Prod.mk.injEq,true_and,and_true,Idles]
  grind

section
variable [UnicodeWidth]

theorem Shaped.insertChars_standing_iff (shaped : g.Shaped RowOk) {n : Nat} (some : 0 < n) :
    ∃ h, g.exec (.insertChars n) = .ok h ∧ (h.standing = g.standing ↔ g.Idles (.insertChars n)) := by
  obtain ⟨_,_,width,ok⟩ := shaped.cursorCells
  obtain ⟨inserted,edits,idle⟩ := insertBlanks_idle_iff ok (show g.cursorCol ≤ _ by rw [width]; exact shaped.cursorCol) some
  rw [width] at edits idle
  obtain ⟨h,ran,same⟩ := shaped.edit_standing (f := fun row => insertBlanks row g.cursorCol n g.cols) edits fun g =>
    g.dirty.markRange g.cursorRow g.cursorCol g.cols
  exact ⟨h,ran,same.trans idle⟩

theorem Shaped.deleteChars_standing_iff (shaped : g.Shaped RowOk) {n : Nat} (some : 0 < n) :
    ∃ h, g.exec (.deleteChars n) = .ok h ∧ (h.standing = g.standing ↔ g.Idles (.deleteChars n)) := by
  obtain ⟨_,_,width,ok⟩ := shaped.cursorCells
  obtain ⟨deleted,edits,idle⟩ := deleteCells_idle_iff ok (show g.cursorCol ≤ _ by rw [width]; exact shaped.cursorCol) some
  rw [width] at edits idle
  obtain ⟨h,ran,same⟩ := shaped.edit_standing (f := fun row => deleteCells row g.cursorCol n g.cols) edits fun g =>
    g.dirty.markRange g.cursorRow g.cursorCol g.cols
  exact ⟨h,ran,same.trans idle⟩

theorem Shaped.eraseChars_standing_iff (shaped : g.Shaped RowOk) {n : Nat} (some : 0 < n) :
    ∃ h, g.exec (.eraseChars n) = .ok h ∧ (h.standing = g.standing ↔ g.Idles (.eraseChars n)) := by
  obtain ⟨read,_,width,_⟩ := shaped.cursorCells
  obtain ⟨erased,edits,idle⟩ := eraseCells_idle_iff g.blankCell (show g.cursorCol ≤ _ by rw [width]; exact shaped.cursorCol)
    some rfl rfl
  rw [width] at idle
  obtain ⟨h,ran,same⟩ := shaped.edit_standing (f := fun row => eraseCells row g.cursorCol n g.blankCell) edits fun f =>
    f.dirty.markRange f.cursorRow f.cursorCol (min (g.cursorCol + n) g.cols % 65536)
  refine ⟨h,?_,same.trans idle⟩
  change (at? g.activeGrid.rows g.cursorRow >>= _) = _
  rw [read,ok_bind,width]
  exact ran

theorem Shaped.reverseIndex_standing_iff (shaped : g.Shaped P) :
    ∃ h, g.exec .reverseIndex = .ok h ∧ (h.standing = g.standing ↔ g.Idles .reverseIndex) := by
  refine ⟨_,shaped.reverseIndex_eq,?_⟩
  by_cases atTop : g.cursorRow = g.scrollTop
  · rw [if_pos atTop]
    exact iff_of_false (standing_ne_of_recorded rfl (List.cons_ne_nil _ _)) fun idle => idle.2 (atTop ▸ idle.1)
  · rw [if_neg atTop]
    refine (standing_moved g _ g.cursorCol).trans ?_
    simp only [Idles,and_true]
    constructor
    · intro still
      omega
    · rintro ⟨first,_⟩
      omega

/-- An operation of a blind arm changes nothing exactly in the states named. -/
theorem Shaped.exec_standing_iff (shaped : g.Shaped RowOk) {op : Op} (blind : op.Blind)
    (unparked : op.Moves = true → g.modeFlags.pendingWrap = false) :
    ∃ h, g.exec op = .ok h ∧ (h.standing = g.standing ↔ g.Idles op) := by
  have rows := shaped.cursorRow
  have cols := shaped.hasCols
  have inside := shaped.cursorCol
  have fit := shaped.rowsFit
  have fitCols := shaped.colsFit
  have onScreen (moves : op.Moves = true) : g.cursorCol < g.cols := shaped.unparked_lt (unparked moves)
  cases op
  case insertChars n => exact shaped.insertChars_standing_iff blind
  case deleteChars n => exact shaped.deleteChars_standing_iff blind
  case eraseChars n => exact shaped.eraseChars_standing_iff blind
  case cursorUp n =>
    have moved := onScreen rfl
    refine ⟨_,rfl,(standing_moved g _ _).trans ?_⟩
    have some : 0 < n := blind
    simp only [Idles]
    omega
  case cursorDown n =>
    have moved := onScreen rfl
    refine ⟨_,rfl,(standing_moved g _ _).trans ?_⟩
    have some : 0 < n := blind
    simp only [Idles,addCursorOffset,satAdd16,u16Max] at *
    omega
  case cursorForward n =>
    have moved := onScreen rfl
    refine ⟨_,rfl,(standing_moved g _ _).trans ?_⟩
    have some : 0 < n := blind
    simp only [Idles,addCursorOffset,satAdd16,u16Max] at *
    omega
  case cursorBack n =>
    have moved := onScreen rfl
    refine ⟨_,rfl,(standing_moved g _ _).trans ?_⟩
    have some : 0 < n := blind
    simp only [Idles]
    omega
  case nextLine n =>
    refine ⟨_,rfl,(standing_moved g _ _).trans ?_⟩
    have some : 0 < n := blind
    simp only [Idles,addCursorOffset,satAdd16,u16Max] at *
    omega
  case previousLine n =>
    refine ⟨_,rfl,(standing_moved g _ _).trans ?_⟩
    have some : 0 < n := blind
    simp only [Idles]
    omega
  case cursorColumn p0 =>
    refine ⟨_,rfl,(standing_moved g g.cursorRow _).trans ?_⟩
    simp only [Idles,true_and]
    exact eq_comm
  case cursorPosition p0 p1 =>
    refine ⟨_,rfl,(standing_moved g _ _).trans ?_⟩
    exact and_congr eq_comm eq_comm
  case cursorRow p0 =>
    refine ⟨_,rfl,(standing_moved g _ g.cursorCol).trans ?_⟩
    simp only [Idles,and_true]
    exact eq_comm
  case insertLines p0 =>
    refine ⟨_,shaped.insertLines_eq p0,?_⟩
    by_cases outside : g.cursorRow < g.scrollTop ∨ g.cursorRow > g.scrollBottom
    · rw [if_pos outside]
      exact iff_of_true rfl outside
    · rw [if_neg outside]
      exact iff_of_false (standing_ne_of_recorded rfl (List.cons_ne_nil _ _)) outside
  case deleteLines p0 =>
    refine ⟨_,shaped.deleteLines_eq p0,?_⟩
    by_cases outside : g.cursorRow < g.scrollTop ∨ g.cursorRow > g.scrollBottom
    · rw [if_pos outside]
      exact iff_of_true rfl outside
    · rw [if_neg outside]
      exact iff_of_false (standing_ne_of_recorded rfl (List.cons_ne_nil _ _)) outside
  case scrollUp n =>
    have recorded : g.scrollUpOps n ≠ [] := by
      unfold scrollUpOps
      rw [if_pos (show 0 < n from blind)]
      exact List.cons_ne_nil _ _
    exact ⟨_,shaped.scrollUp_eq n .hard,iff_of_false (standing_ne_of_recorded rfl recorded) id⟩
  case scrollDown p0 =>
    exact ⟨_,shaped.scrollDown_eq p0,iff_of_false (standing_ne_of_recorded rfl (List.cons_ne_nil _ _)) id⟩
  case setMargins p0 p1 => exact ⟨_,rfl,shaped.setMargins_standing_iff p0 p1⟩
  case saveCursor =>
    refine ⟨_,rfl,?_⟩
    simp only [standing,Grid.saveCursor,Standing.mk.injEq,Prod.mk.injEq,true_and,and_true,Idles]
    exact and_congr eq_comm eq_comm
  case restoreCursor => exact ⟨_,rfl,shaped.restoreCursor_standing_iff⟩
  case reverseIndex => exact shaped.reverseIndex_standing_iff
  case keypad application =>
    refine ⟨_,rfl,?_⟩
    constructor
    · intro same
      exact (congrArg (fun s : Standing => s.modes.1.applicationKeypad) same).symm
    · rintro rfl
      rfl
  case fullReset => exact ⟨_,rfl,g.fullReset_standing_iff⟩
  all_goals exact blind.elim

/-- Blind arms that cancel the pending wrap first change no mode themselves. -/
theorem Shaped.exec_modeFlags (shaped : g.Shaped P) {op : Op} (blind : op.Blind) (clears : op.Moves = true ∨ op = .reverseIndex)
    (ran : g.exec op = .ok h) : h.modeFlags = g.modeFlags := by
  rcases clears with moves | rfl
  · cases op
    all_goals first
      | exact blind.elim
      | exact absurd moves Bool.false_ne_true
      | cases ran
    all_goals rfl
  · cases (shaped.reverseIndex_eq).symm.trans ran
    split <;> rfl

theorem execAll_emits (g : Grid) {ops : List Op} (emits : ∀ op ∈ ops, ∃ e, op = .emit e) :
    ∃ h, g.execAll ops = .ok h ∧ h.standing = g.standing := by
  induction ops generalizing g with
  | nil => exact ⟨g,rfl,rfl⟩
  | cons op ops ih =>
    obtain ⟨e,rfl⟩ := emits op List.mem_cons_self
    exact ih (g.pushEvent e) fun op inside => emits op (List.mem_cons_of_mem _ inside)

/-- A sequence that is not implemented changes nothing exactly if its arm looks at the
    intermediates, or has nothing to do in the state. -/
theorem Shaped.inert_iff (shaped : g.Shaped RowOk) {c : Callback} (unimplemented : c.Unimplemented) :
    g.Inert c ↔ (c.blind = true → ∀ op ∈ c.ops, g.Idles op) := by
  cases blind : c.blind with
  | false => exact iff_of_true (execAll_emits g (denied_ops unimplemented blind)) fun tests => absurd tests Bool.false_ne_true
  | true =>
    rw [forall_prop_of_true rfl]
    obtain ⟨op,isBlind,⟨only,still⟩ | ⟨cleared,clears⟩⟩ := blind_ops blind
    · obtain ⟨h,ran,same⟩ := shaped.exec_standing_iff isBlind fun moves => absurd (still.symm.trans moves) Bool.false_ne_true
      have performed : g.perform c = .ok h := by
        unfold Grid.perform execAll
        rw [only,List.foldlM_cons,ran]
        rfl
      rw [only,List.forall_mem_singleton,← same]
      constructor
      · rintro ⟨h',ran',same'⟩
        cases performed.symm.trans ran'
        exact same'
      · exact fun same' => ⟨h,performed,same'⟩
    · obtain ⟨h,ran,same⟩ := shaped.clearPendingWrap.exec_standing_iff isBlind fun _ => rfl
      have performed : g.perform c = .ok h := by
        unfold Grid.perform execAll
        rw [cleared,List.foldlM_cons]
        change g.clearPendingWrap.exec op >>= _ = _
        rw [ran]
        rfl
      have flags := shaped.clearPendingWrap.exec_modeFlags isBlind clears ran
      rw [cleared,List.forall_mem_cons,List.forall_mem_singleton]
      by_cases pending : g.modeFlags.pendingWrap = false
      · -- there was no wrap to cancel
        have inside := shaped.unparked_lt pending
        have unchanged : g.clearPendingWrap = { g with lastPrint := none } := by
          have modes : ({ g.modeFlags with pendingWrap := false } : ModeFlags) = g.modeFlags := by rw [← pending]
          unfold Grid.clearPendingWrap
          rw [if_neg (by omega),modes]
        have standing : g.clearPendingWrap.standing = g.standing := by rw [unchanged]; rfl
        have idle : g.clearPendingWrap.Idles op ↔ g.Idles op := by
          rw [unchanged]
          cases op <;> rfl
        rw [standing,idle] at same
        constructor
        · rintro ⟨h',ran',same'⟩
          cases performed.symm.trans ran'
          exact ⟨pending,same.mp same'⟩
        · exact fun idles => ⟨h,performed,same.mpr idles.2⟩
      · refine iff_of_false ?_ fun idles => pending idles.1
        rintro ⟨h',ran',same'⟩
        cases performed.symm.trans ran'
        have modes : h.modeFlags = g.modeFlags := congrArg (fun s : Standing => s.modes.1) same'
        rw [← modes,flags] at pending
        exact pending rfl

end

end Grid

section
variable [Vte] [UnicodeWidth]

namespace DamageGrid

/-- In every state a run visits: which sequences that are not implemented change nothing. -/
theorem unimplemented_inert_iff {rows cols : UInt16} (hasRows : 0 < rows) (hasCols : 0 < cols) {scrollbackLimit : Nat}
    {run : List Call} {g : Grid} (visited : (new rows cols scrollbackLimit).Visits run g) {c : Callback}
    (unimplemented : c.Unimplemented) : g.Inert c ↔ (c.blind = true → ∀ op ∈ c.ops, g.Idles op) :=
  (visited.shaped hasRows hasCols).inert_iff unimplemented

end DamageGrid

end

section
attribute [local instance] byteParser blockWidth

/-- `CSI 5 t` after `A`. -/
theorem unimplemented_inert_iff_report : ∃ g, (DamageGrid.new 2 2 5).Visits [.process [0x41]] g ∧
    (g.Inert (.csiDispatch [[5]] [] false 't') ↔
      ((Callback.csiDispatch [[5]] [] false 't').blind = true → ∀ op ∈ (Callback.csiDispatch [[5]] [] false 't').ops, g.Idles op)) := by
  refine ⟨_,⟨[.op (.print 'A')],[],rfl,rfl⟩,?_⟩
  exact DamageGrid.unimplemented_inert_iff (show (0 : UInt16) < 2 by decide) (show (0 : UInt16) < 2 by decide)
    (show (DamageGrid.new 2 2 5).Visits [.process [0x41]] _ from ⟨[.op (.print 'A')],[],rfl,rfl⟩) rfl

/-- `CSI ? S` scrolls. -/
theorem private_scroll_scrolls : ∃ d', (DamageGrid.new 2 2 5).callbacks [[0x1b,0x5b,0x3f,0x53]] = [.csiDispatch [[0]] [0x3f] false 'S'] ∧
    (Callback.csiDispatch [[0]] [0x3f] false 'S').Unimplemented ∧
    (DamageGrid.new 2 2 5).processAll [[0x1b,0x5b,0x3f,0x53]] = .ok d' ∧
    d'.grid.standing ≠ (DamageGrid.new 2 2 5).grid.standing :=
  ⟨_,rfl,rfl,rfl,by decide⟩

end

end Termpane
