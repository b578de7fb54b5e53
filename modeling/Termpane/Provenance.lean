import Termpane.History
import Termpane.SavedCursor

/-!
# Wrap provenance

What is noted of the rows goes with them: up and down the screen, into the scrollback
and out of it. The flag of a row goes the same way, and without a deferred wrap it
only ever turns hard. An erase leaves it alone, also on the rows it blanks.
-/
namespace Termpane

open Lib

/-- Something for every row of the two screens and the scrollback. -/
structure PerRow (α : Type) where
  primary : List α
  alternate : List α
  scrollback : List α
  deriving DecidableEq, Repr

namespace PerRow

variable {α β γ : Type} {R : α → β → Prop} {p : PerRow α} {q : PerRow β}

def shown (p : PerRow α) (alternate : Bool) : List α := if alternate then p.alternate else p.primary

def setShown (p : PerRow α) (alternate : Bool) (l : List α) : PerRow α :=
  { p with primary := if alternate then p.primary else l, alternate := if alternate then l else p.alternate }

@[simp] theorem setShown_shown (p : PerRow α) (alternate : Bool) : p.setShown alternate (p.shown alternate) = p := by
  cases alternate <;> rfl

/-- Row by row. -/
structure Rel (R : α → β → Prop) (p : PerRow α) (q : PerRow β) : Prop where
  primary : List.Forall₂ R p.primary q.primary
  alternate : List.Forall₂ R p.alternate q.alternate
  scrollback : List.Forall₂ R p.scrollback q.scrollback

theorem Rel.shown (rel : p.Rel R q) (alternate : Bool) : List.Forall₂ R (p.shown alternate) (q.shown alternate) := by
  cases alternate
  · exact rel.primary
  · exact rel.alternate

theorem Rel.setShown (rel : p.Rel R q) (alternate : Bool) {l : List α} {m : List β} (related : List.Forall₂ R l m) :
    (p.setShown alternate l).Rel R (q.setShown alternate m) := by
  cases alternate
  · exact { rel with primary := related }
  · exact { rel with alternate := related }

theorem Rel.refl {R : α → α → Prop} (self : ∀ a, R a a) (p : PerRow α) : p.Rel R p :=
  ⟨List.forall₂_same.mpr fun a _ => self a,List.forall₂_same.mpr fun a _ => self a,List.forall₂_same.mpr fun a _ => self a⟩

theorem Rel.comp {S : β → γ → Prop} {T : α → γ → Prop} {r : PerRow γ} (left : p.Rel R q) (right : q.Rel S r)
    (imp : ∀ a b c, R a b → S b c → T a c) : p.Rel T r :=
  ⟨forall₂_comp imp left.primary right.primary,forall₂_comp imp left.alternate right.alternate,
    forall₂_comp imp left.scrollback right.scrollback⟩

end PerRow

namespace RowStore

variable {P : Row → Prop} {rows cols : Nat} {s t : RowStore}

theorem Shaped.aligned (shaped : s.Shaped P rows cols) : s.wraps.length = s.rows.length :=
  shaped.wrapCount.trans shaped.rowCount.symm

theorem Shaped.entries_length (shaped : s.Shaped P rows cols) : s.entries.length = rows := by
  rw [length_entries shaped.aligned]
  exact shaped.rowCount

/-- Other cells and the same flags. -/
theorem forall₂_entries (count : t.len = s.len) (flags : t.wraps = s.wraps) :
    List.Forall₂ (fun before after => after.2 = before.2) s.entries t.entries := by
  refine List.forall₂_of_length_eq_of_get ?_ fun i left right => ?_
  · unfold entries
    rw [List.length_zip,List.length_zip,flags,show t.rows.length = s.rows.length from count]
  · simp [entries,flags]

theorem forall₂_entries_setWrap (s : RowStore) (row : Nat) :
    List.Forall₂ (fun before after => after.1 = before.1 ∧ (after.2 = before.2 ∨ after.2 = RowWrap.hard)) s.entries
      (s.setWrap row .hard).entries := by
  refine List.forall₂_of_length_eq_of_get (by simp [entries,setWrap]) fun i left right => ?_
  simp only [entries,setWrap,List.get_eq_getElem,List.getElem_zip,List.getElem_set,true_and]
  split_ifs
  · exact .inr rfl
  · exact .inl rfl

end RowStore

/-- Operations that write cells. -/
def Op.Edits : Op → Bool
  | .print _ | .insertChars _ | .deleteChars _ | .eraseChars _ | .eraseLine _ | .eraseDisplay _ => true
  | _ => false

/-- A row before and after an operation. -/
def Op.Leaves (op : Op) (before after : Row × RowWrap) : Prop :=
  (op.Edits = false → after.1 = before.1) ∧ (after.2 = before.2 ∨ after.2 = .hard)

theorem Op.leaves_refl (op : Op) (entry : Row × RowWrap) : op.Leaves entry entry := ⟨fun _ => rfl,.inl rfl⟩

namespace Grid

variable {P : Row → Prop} {g h : Grid} {α β : Type}

/-- The rows with their flags. -/
def entries (g : Grid) : PerRow (Row × RowWrap) := ⟨g.primary.entries,g.alternate.entries,g.scrollback.entries⟩

theorem entries_shown (g : Grid) : g.entries.shown g.modeFlags.altScreen = g.activeGrid.entries := by
  unfold PerRow.shown activeGrid
  cases g.modeFlags.altScreen <;> rfl

section
variable [UnicodeWidth]

/-- What is noted of the rows when the region moves up: what leaves it at the top of the
    primary screen goes to the scrollback. -/
def movedUp (g : Grid) (fresh : α) (distance : Nat) (p : PerRow α) : PerRow α :=
  { p.setShown g.modeFlags.altScreen
      (Lib.shiftUp g.scrollTop g.scrollBottom distance fresh (p.shown g.modeFlags.altScreen)) with
    scrollback := (if g.Saves g.scrollTop then p.primary.take distance else []).foldl (slide g.scrollbackLimit) p.scrollback }

/-- Where an operation moves what is noted of the rows, `fresh` for new ones. The rows
    that a clear saves are copies. -/
def carried (g : Grid) (fresh : α) (op : Op) (p : PerRow α) : PerRow α :=
  match op with
  | .insertLines p0 =>
    if g.cursorRow < g.scrollTop ∨ g.cursorRow > g.scrollBottom then p
    else p.setShown g.modeFlags.altScreen (Lib.shiftDown g.cursorRow g.scrollBottom
      (min (max p0 1) (g.scrollBottom - g.cursorRow + 1)) fresh (p.shown g.modeFlags.altScreen))
  | .deleteLines p0 =>
    if g.cursorRow < g.scrollTop ∨ g.cursorRow > g.scrollBottom then p
    else p.setShown g.modeFlags.altScreen (Lib.shiftUp g.cursorRow g.scrollBottom
      (min (max p0 1) (g.scrollBottom - g.cursorRow + 1)) fresh (p.shown g.modeFlags.altScreen))
  | .scrollDown p0 =>
    p.setShown g.modeFlags.altScreen (Lib.shiftDown g.scrollTop g.scrollBottom
      (min (max p0 1) (g.scrollBottom - g.scrollTop + 1)) fresh (p.shown g.modeFlags.altScreen))
  | .reverseIndex =>
    if g.cursorRow = g.scrollTop then
      p.setShown g.modeFlags.altScreen (Lib.shiftDown g.scrollTop g.scrollBottom 1 fresh (p.shown g.modeFlags.altScreen))
    else p
  | .eraseDisplay mode =>
    { p with
      scrollback := if mode = 3 then []
        else (List.replicate (g.admitted (.eraseDisplay mode)).length fresh).foldl (slide g.scrollbackLimit) p.scrollback }
  | .fullReset => { p with primary := List.replicate g.rows fresh, alternate := List.replicate g.rows fresh }
  | op => g.movedUp fresh (g.scrollDistance (g.scrollLines op)) p

omit [UnicodeWidth] in
theorem movedUp_rel {R : α → β → Prop} {a : α} {b : β} (fresh : R a b) (g : Grid) (distance : Nat) {p : PerRow α} {q : PerRow β}
    (rel : p.Rel R q) : (g.movedUp a distance p).Rel R (g.movedUp b distance q) := by
  have history : List.Forall₂ R (if g.Saves g.scrollTop then p.primary.take distance else [])
      (if g.Saves g.scrollTop then q.primary.take distance else []) := by
    split_ifs
    · exact List.forall₂_take _ rel.primary
    · exact .nil
  exact { rel.setShown _ (forall₂_shiftUp (rel.shown _) fresh _) with scrollback := forall₂_foldl_slide rel.scrollback history }

/-- Related notes stay related wherever they go. -/
theorem carried_rel {R : α → β → Prop} {a : α} {b : β} (fresh : R a b) (g : Grid) (op : Op) {p : PerRow α} {q : PerRow β}
    (rel : p.Rel R q) : (g.carried a op p).Rel R (g.carried b op q) := by
  have shown := rel.shown g.modeFlags.altScreen
  unfold carried
  split
  case h_1 | h_4 => split_ifs <;> first | exact rel | exact rel.setShown _ (forall₂_shiftDown shown fresh _)
  case h_2 => split_ifs <;> first | exact rel | exact rel.setShown _ (forall₂_shiftUp shown fresh _)
  case h_3 => exact rel.setShown _ (forall₂_shiftDown shown fresh _)
  case h_5 =>
    refine { rel with scrollback := ?_ }
    split_ifs
    · exact .nil
    · exact forall₂_foldl_slide rel.scrollback (forall₂_replicate fresh _)
  case h_6 => exact { rel with primary := forall₂_replicate fresh _, alternate := forall₂_replicate fresh _ }
  case h_7 => exact movedUp_rel fresh g _ rel

end

/-! ## What becomes of a row -/

theorem entries_setActiveGrid (g : Grid) (s : RowStore) :
    (g.setActiveGrid s).entries = g.entries.setShown g.modeFlags.altScreen s.entries := by
  unfold entries setActiveGrid PerRow.setShown
  cases g.modeFlags.altScreen <;> rfl

theorem Shaped.entries_enter (shaped : g.Shaped P) (entered : List (Row × RowWrap)) :
    (g.enter entered).entries =
      { g.entries with scrollback := entered.foldl (slide g.scrollbackLimit) g.entries.scrollback } := by
  have history : g.entries.scrollback = g.scrollback.entries := rfl
  rw [history,← RowStore.entries_feed shaped.historyWraps]
  rfl

theorem Shaped.movedUp_zero (shaped : g.Shaped P) (fresh : Row × RowWrap) : g.movedUp fresh 0 g.entries = g.entries := by
  have inside : g.scrollBottom < g.activeGrid.entries.length := by
    rw [shaped.active.entries_length]
    exact shaped.bottom
  unfold movedUp
  rw [entries_shown,Lib.shiftUp_zero inside,← entries_shown,PerRow.setShown_shown]
  split_ifs <;> rfl

/-- A scroll up moves the rows, and nothing else happens to them. -/
theorem Shaped.scrollUp_entries (shaped : g.Shaped P) (n : Nat) :
    Ends (fun h => h.entries = g.movedUp (blankRow g.cols,.hard) (g.scrollDistance n) g.entries) (fun _ => True)
      (g.scrollUp n .hard) := by
  rw [shaped.scrollUp_eq]
  change ((g.enter (g.leaving g.scrollTop (g.scrollDistance n))).setActiveGrid (g.scrolledScreen n .hard)).entries = _
  rw [entries_setActiveGrid,shaped.entries_enter,scrolledScreen,RowStore.entries_shiftUp shaped.active.aligned,← entries_shown]
  rfl

/-- The number of rows on the screen, and their flags. -/
def rowFlags (g : Grid) : Nat × List RowWrap := (g.activeGrid.len,g.activeGrid.wraps)

/-- A handler that writes cells at most. -/
def KeepsFlags (g : Grid) (handler : Checked Grid) : Prop := Ends (fun h => h.rowFlags = g.rowFlags) (fun _ => True) handler

theorem rowFlags_withRows (g : Grid) {rows : List Row} (count : rows.length = g.activeGrid.len) :
    (g.setActiveGrid { g.activeGrid with rows := rows }).rowFlags = g.rowFlags := by
  unfold rowFlags
  rw [activeGrid_setActiveGrid]
  exact congrArg (·,g.activeGrid.wraps) count

theorem edit_rowFlags (g : Grid) {e : Edit} (display : e.OnDisplay) : (g.edit e).rowFlags = g.rowFlags := by
  cases e with
  | row i cells => exact g.rowFlags_withRows List.length_set
  | fill start stop blank => exact g.rowFlags_withRows List.length_mapIdx
  | markRange | markAll | forget => rfl
  | preserve =>
    obtain ⟨_,_,_,same⟩ := g.preserve_writes
    exact (congrArg rowFlags same).trans rfl
  | _ => exact display.elim

section
variable [UnicodeWidth]

/-- A character that starts no row. -/
theorem Shaped.print_flags (shaped : g.Shaped P) {ch : Char} (still : ¬ g.Wraps ch) : g.KeepsFlags (g.writeCharAtCursor ch) := by
  cases joins : g.joinCol ch with
  | some col =>
    obtain ⟨cells,_,written⟩ := shaped.print_joins joins
    rw [written]
    split_ifs
    · exact g.rowFlags_withRows List.length_set
    · trivial
  | none =>
    by_cases dropped : charWidth ch = 0 ∨ g.TooWide ch
    · rw [shaped.print_dropped joins dropped]
      exact rfl
    · obtain ⟨wide,room⟩ := not_or.mp dropped
      obtain ⟨w,wrapped,_,_,_,⟨cells,_,puts,stops⟩,_⟩ := shaped.print_places joins wide room
      have same : g.touched.deferredWrap = .ok g.touched := if_neg fun due => still ⟨joins,wide,due⟩
      cases same.symm.trans wrapped
      by_cases fits : g.touched.baseCol + charWidth ch ≤ u16Max
      · obtain ⟨h,done,screens,_⟩ := puts fits
        rw [done]
        change h.rowFlags = _
        unfold rowFlags
        rw [activeGrid_of_screens screens]
        exact g.rowFlags_withRows List.length_set
      · rw [stops fits]
        trivial

/-- A character that finds the wrap pending and starts a row. -/
def Defers (g : Grid) : Op → Prop
  | .print ch => g.Wraps ch
  | _ => False

instance (g : Grid) : (op : Op) → Decidable (g.Defers op) := by
  intro op
  cases op
  case print ch => exact inferInstanceAs (Decidable (g.Wraps ch))
  all_goals exact isFalse id

theorem Shaped.edit_flags (shaped : g.Shaped P) {op : Op} (edits : op.Edits = true) (still : ¬ g.Defers op) :
    g.KeepsFlags (g.exec op) := by
  cases op
  case print ch => exact shaped.print_flags still
  case insertChars | deleteChars | eraseChars | eraseLine =>
    exact exec_keeps rfl (fun h _ cells same => (h.edit_rowFlags (Edit.OnCells.onDisplay cells)).trans same) rfl
  case eraseDisplay => exact exec_keeps rfl (fun h _ display same => (h.edit_rowFlags display).trans same) rfl
  all_goals exact absurd edits Bool.false_ne_true

/-- The rows that a clear saves are hard. -/
theorem admitted_hard {mode : Nat} {entry : Row × RowWrap} (inside : entry ∈ g.admitted (.eraseDisplay mode)) :
    entry.2 = .hard := by
  change entry ∈ (if g.Clears mode then g.clearBlock.elim [] g.clearSaves else []) at inside
  cases found : g.clearBlock with
  | none => simp [found] at inside
  | some block =>
    simp only [found,Option.elim_some,clearSaves] at inside
    split_ifs at inside
    · cases inside
    · obtain ⟨row,_,rfl⟩ := List.mem_map.mp inside
      rfl
    · cases inside

omit [UnicodeWidth] in
/-- What happens on the screen that is shown. -/
theorem Apart.entries {Empties : Prop} (apart : g.Apart Empties h) {R : Row × RowWrap → Row × RowWrap → Prop} (self : ∀ entry, R entry entry)
    (screen : List.Forall₂ R g.activeGrid.entries h.activeGrid.entries) :
    List.Forall₂ R g.primary.entries h.primary.entries ∧ List.Forall₂ R g.alternate.entries h.alternate.entries := by
  have shown := apart.shown
  have hidden := apart.hidden
  have same (s : RowStore) : List.Forall₂ R s.entries s.entries := List.forall₂_same.mpr fun entry _ => self entry
  unfold activeGrid at screen
  unfold hiddenGrid at hidden
  rw [shown] at screen hidden
  cases alternate : g.modeFlags.altScreen <;> simp only [alternate,if_true,if_false,Bool.false_eq_true] at screen hidden
  · exact ⟨screen,hidden ▸ same _⟩
  · exact ⟨hidden ▸ same _,screen⟩

/-- An edit moves nothing, but for the copies that a clear saves. -/
theorem Shaped.edit_carries (shaped : g.Shaped P) {op : Op} (edits : op.Edits = true) (still : ¬ g.Defers op) :
    Ends (fun h => (g.carried (blankRow g.cols,.hard) op g.entries).Rel op.Leaves h.entries) (fun _ => True) (g.exec op) := by
  have stays : op.Switches = false := by
    cases op
    all_goals first | rfl | exact absurd edits Bool.false_ne_true
  have after := (((shaped.exec_apart stays).and (shaped.exec_scrollback op)).and (shaped.edit_flags edits still)).allow
    fun _ _ => trivial
  refine after.mono fun h ⟨⟨apart,scrollback⟩,flags⟩ => ?_
  obtain ⟨count,wraps⟩ := Prod.ext_iff.mp flags
  have screen : List.Forall₂ op.Leaves g.activeGrid.entries h.activeGrid.entries :=
    (RowStore.forall₂_entries count wraps).imp fun _ _ same => ⟨fun none => absurd (none.symm.trans edits) Bool.false_ne_true,.inl same⟩
  obtain ⟨primary,alternate⟩ := apart.entries op.leaves_refl screen
  have history : h.entries.scrollback =
      if op = .eraseDisplay 3 then [] else (g.admitted op).foldl (slide g.scrollbackLimit) g.entries.scrollback := by
    change h.scrollback.entries = _
    rw [scrollback]
    split
    · rfl
    · exact RowStore.entries_feed shaped.historyWraps _ _
  -- printing and editing within a row let nothing into the scrollback
  have none (other : ∀ mode, op ≠ .eraseDisplay mode) (lines : g.scrollLines op = 0)
      (moved : g.carried (blankRow g.cols,.hard) op g.entries =
        g.movedUp (blankRow g.cols,.hard) (g.scrollDistance (g.scrollLines op)) g.entries) :
      (g.carried (blankRow g.cols,.hard) op g.entries).Rel op.Leaves h.entries := by
    rw [if_neg (other 3),admitted_of_scroll g other,entering_of_still lines] at history
    rw [moved,lines,scrollDistance_zero,shaped.movedUp_zero]
    exact ⟨primary,alternate,history ▸ List.forall₂_same.mpr fun entry _ => op.leaves_refl entry⟩
  cases op
  case eraseDisplay mode =>
    refine ⟨primary,alternate,?_⟩
    rw [history]
    simp only [carried,Op.eraseDisplay.injEq]
    split_ifs
    · exact .nil
    · refine forall₂_foldl_slide (List.forall₂_same.mpr fun entry _ => Op.leaves_refl _ entry) ?_
      exact forall₂_replicate_left fun entry inside => ⟨fun none => absurd none Bool.true_eq_false.mp,.inr (admitted_hard inside)⟩
  case print ch => exact none (fun _ => Op.noConfusion) (if_neg fun scrolls => still scrolls.1) rfl
  all_goals first | exact none (fun _ => Op.noConfusion) rfl rfl | exact absurd edits Bool.false_ne_true

omit [UnicodeWidth] in
/-- A line feed moves the rows, or lets the next one start a line. -/
theorem Shaped.newline_carries (shaped : g.Shaped P) :
    Ends (fun h => (g.movedUp (blankRow g.cols,.hard) (g.scrollDistance (if g.cursorRow = g.scrollBottom then 1 else 0)) g.entries).Rel
      Op.newline.Leaves h.entries) (fun _ => True) (g.newlineActionWithWrap .hard) := by
  rw [newline_eq]
  split_ifs
  · exact (shaped.scrollUp_entries 1).mono fun h same => same ▸ .refl (Op.leaves_refl _) _
  · rw [scrollDistance_zero,shaped.movedUp_zero]
    change g.entries.Rel _ (Grid.setActiveGrid { g with cursorRow := _ } _).entries
    rw [entries_setActiveGrid,← g.entries.setShown_shown g.modeFlags.altScreen]
    refine (PerRow.Rel.refl (Op.leaves_refl _) g.entries).setShown _ ?_
    rw [entries_shown]
    exact (RowStore.forall₂_entries_setWrap g.activeGrid _).imp fun _ _ same => ⟨fun _ => same.1,same.2⟩

omit [UnicodeWidth] in
theorem handleOsc_entries (g : Grid) (params : List Bytes) (bell : Bool) : (g.handleOsc params bell).entries = g.entries := by
  obtain ⟨_,_,_,same⟩ := g.handleOsc_writes params bell
  exact (congrArg entries same).trans rfl

/-- Without a deferred wrap the rows go where what is noted of them goes. An edit may
    change the cells of a row, and its flag is as it was or turns hard. -/
theorem Shaped.exec_carries (shaped : g.Shaped P) (op : Op) (still : ¬ g.Defers op) :
    Ends (fun h => (g.carried (blankRow g.cols,.hard) op g.entries).Rel op.Leaves h.entries) (fun _ => True) (g.exec op) := by
  have rest {h : Grid} (same : h.entries = g.entries) : (g.movedUp (blankRow g.cols,.hard) (g.scrollDistance 0) g.entries).Rel op.Leaves h.entries := by
    rw [scrollDistance_zero,shaped.movedUp_zero,same]
    exact .refl op.leaves_refl _
  have exact' {h : Grid} (same : h.entries = g.carried (blankRow g.cols,.hard) op g.entries) :
      (g.carried (blankRow g.cols,.hard) op g.entries).Rel op.Leaves h.entries := same ▸ .refl op.leaves_refl _
  have settles {op : Op} (sets : op.Sets = true) : Ends (fun h => h.entries = g.entries) (fun _ => True) (g.exec op) :=
    exec_unset (fun _ => rfl) sets g
  cases edits : op.Edits with
  | true => exact shaped.edit_carries edits still
  | false =>
    cases op
    case newline => exact shaped.newline_carries
    case scrollUp n => exact (shaped.scrollUp_entries n).mono fun h same => exact' same
    case insertLines p0 =>
      change Ends _ _ (g.insertLines p0)
      rw [shaped.insertLines_eq]
      by_cases outside : g.cursorRow < g.scrollTop ∨ g.cursorRow > g.scrollBottom
      · rw [if_pos outside]
        exact exact' (if_pos outside).symm
      · rw [if_neg outside]
        refine exact' (.trans ?_ (if_neg outside).symm)
        rw [entries_shown,← RowStore.entries_shiftDown shaped.active.aligned]
        exact entries_setActiveGrid _ _
    case deleteLines p0 =>
      change Ends _ _ (g.deleteLines p0)
      rw [shaped.deleteLines_eq]
      by_cases outside : g.cursorRow < g.scrollTop ∨ g.cursorRow > g.scrollBottom
      · rw [if_pos outside]
        exact exact' (if_pos outside).symm
      · rw [if_neg outside]
        refine exact' (.trans ?_ (if_neg outside).symm)
        rw [entries_shown,← RowStore.entries_shiftUp shaped.active.aligned]
        exact entries_setActiveGrid _ _
    case scrollDown p0 =>
      change Ends _ _ (g.scrollDown p0)
      rw [shaped.scrollDown_eq]
      refine exact' (.trans (entries_setActiveGrid _ _) ?_)
      rw [RowStore.entries_shiftDown shaped.active.aligned,← entries_shown]
      rfl
    case reverseIndex =>
      change Ends _ _ g.reverseIndex
      rw [shaped.reverseIndex_eq]
      by_cases top : g.cursorRow = g.scrollTop
      · rw [if_pos top]
        refine exact' (.trans ?_ (if_pos top).symm)
        rw [entries_shown,← RowStore.entries_shiftDown shaped.active.aligned]
        exact entries_setActiveGrid _ _
      · rw [if_neg top]
        exact exact' (if_neg top).symm
    case fullReset =>
      refine exact' ?_
      simp only [carried,← RowStore.entries_blank g.rows g.cols]
      rfl
    case osc params bell => exact rest (g.handleOsc_entries params bell)
    all_goals first
      | exact absurd edits Bool.true_eq_false.mp
      | exact (settles rfl).mono fun h same => rest same

end

/-! ## Erased rows -/

/-- The cells an erase of the display or of the line writes. -/
def ErasesCell (g : Grid) (op : Op) (row col : Nat) : Prop :=
  match op with
  | .eraseDisplay mode =>
    mode = 2 ∨ mode = 3 ∨
      mode = 0 ∧ (g.cursorRow < row ∨ row = g.cursorRow ∧ Erases g.cursorCells g.cursorCol g.cols col) ∨
      mode = 1 ∧ (row < g.cursorRow ∨ row = g.cursorRow ∧ Erases g.cursorCells 0 (min g.cursorCol (g.cols - 1) + 1) col)
  | .eraseLine mode =>
    row = g.cursorRow ∧ (mode = 2 ∨ mode = 0 ∧ Erases g.cursorCells g.cursorCol g.cols col ∨
      mode = 1 ∧ Erases g.cursorCells 0 (min g.cursorCol (g.cols - 1) + 1) col)
  | _ => False

instance (g : Grid) (op : Op) (row col : Nat) : Decidable (g.ErasesCell op row col) := by
  cases op
  case eraseDisplay mode => unfold ErasesCell; infer_instance
  case eraseLine mode => unfold ErasesCell; infer_instance
  all_goals exact isFalse id

/-- A row whose cells are all erased. -/
def BlanksRow (g : Grid) (op : Op) (row : Nat) : Prop := ∀ col < g.cols, g.ErasesCell op row col

instance (g : Grid) (op : Op) (row : Nat) : Decidable (g.BlanksRow op row) := by unfold BlanksRow; infer_instance

theorem preserve_fields (g : Grid) : ∃ scrollback block mutated, g.preserveVisibleRowsToScrollback =
    { g with scrollback := scrollback, lastPreservedBlock := block, modeFlags.mutatedSincePreserve := mutated } := by
  rw [preserve_eq]
  split
  · exact ⟨g.scrollback,g.lastPreservedBlock,g.modeFlags.mutatedSincePreserve,rfl⟩
  · exact ⟨_,_,false,rfl⟩

theorem fill_cell (g : Grid) (start stop : Nat) {row col : Nat} (rowInside : row < g.activeGrid.len) (colInside : col < g.cols) :
    (g.setActiveGrid (g.activeGrid.fillRows start stop g.blankRowBce)).cell row col =
      if start ≤ row ∧ row < stop then some g.blankCell else g.cell row col := by
  unfold cell
  rw [activeGrid_setActiveGrid,RowStore.fillRows,List.getElem?_mapIdx,List.getElem?_eq_getElem rowInside,Option.map_some,Option.bind_some]
  split_ifs
  · exact List.getElem?_replicate_of_lt colInside
  · rfl

/-- Cells of the cursor's row erased. -/
theorem Shaped.erase_cells (shaped : g.Shaped P) {start stop : Nat} (order : start ≤ stop) (inside : stop ≤ g.cols) (blank : Cell) :
    ∃ cells, (g.modifyActiveRow g.cursorRow fun row => eraseCellsBce row start stop blank) = .ok (g.withRow g.cursorRow cells) ∧
      ∀ row < g.rows, ∀ col < g.cols, (g.withRow g.cursorRow cells).cell row col =
        if row = g.cursorRow ∧ Erases g.cursorCells start stop col then some blank else g.cell row col := by
  obtain ⟨read,_,width,_⟩ := shaped.cursorCells
  obtain ⟨cells,edited,length,erased⟩ := eraseCellsBce_cellAt order (show stop ≤ g.cursorCells.length by omega) blank
  refine ⟨cells,shaped.modifyCursorRow_eq edited,fun row rowInside col colInside => ?_⟩
  have cursor : g.cursorRow < g.activeGrid.rows.length := by rw [shaped.active.rowCount]; exact shaped.cursorRow
  unfold cell withRow
  rw [activeGrid_setActiveGrid]
  by_cases here : row = g.cursorRow
  · subst here
    have there : g.activeGrid.rows[g.cursorRow]? = some g.cursorCells := by
      unfold at? at read
      split at read
      case h_1 found => cases read; exact found
      case h_2 => cases read
    have cell := erased col (by omega)
    rw [cellAt_inside (by omega),cellAt_inside (by omega)] at cell
    rw [List.getElem?_set_self cursor,there,Option.bind_some,Option.bind_some,List.getElem?_eq_getElem (by omega),
      List.getElem?_eq_getElem (by omega),cell]
    simp only [true_and]
    split_ifs <;> rfl
  · rw [List.getElem?_set_ne (Ne.symm here),if_neg fun both => here both.1]

/-- The cells of the cursor's row from the cursor on, and the rows below. -/
theorem Shaped.eraseBelow (shaped : g.Shaped P) : ∃ h : Grid,
    ((do let g ← g.modifyActiveRow g.cursorRow fun row => eraseCellsBce row g.cursorCol g.cols g.blankCell
         return g.setActiveGrid (g.activeGrid.fillRows (g.cursorRow + 1) g.rows g.blankRowBce)) : Checked Grid) = .ok h ∧
      ∀ row < g.rows, ∀ col < g.cols,
        h.cell row col = if g.ErasesCell (.eraseDisplay 0) row col then some g.blankCell else g.cell row col := by
  obtain ⟨cells,edited,erased⟩ := shaped.erase_cells shaped.cursorCol (Nat.le_refl g.cols) g.blankCell
  refine ⟨_,by rw [edited]; rfl,fun row rowInside col colInside => ?_⟩
  have inside : row < (g.withRow g.cursorRow cells).activeGrid.len := by
    rw [withRow,activeGrid_setActiveGrid,RowStore.len,List.length_set,shaped.active.rowCount]
    exact rowInside
  refine ((g.withRow g.cursorRow cells).fill_cell (g.cursorRow + 1) g.rows inside colInside).trans ?_
  by_cases below : g.cursorRow < row
  · rw [if_pos ⟨below,rowInside⟩,if_pos (.inr (.inr (.inl ⟨rfl,.inl below⟩)))]
    rfl
  · have same : g.ErasesCell (.eraseDisplay 0) row col ↔ row = g.cursorRow ∧ Erases g.cursorCells g.cursorCol g.cols col := by
      simp [ErasesCell,below]
    rw [if_neg fun both => below both.1,erased row rowInside col colInside]
    exact if_congr same.symm rfl rfl

/-- The rows above, and the cells of the cursor's row up to the cursor. -/
theorem Shaped.eraseAbove (shaped : g.Shaped P) : ∃ h, g.eraseDisplay 1 = .ok h ∧ ∀ row < g.rows, ∀ col < g.cols,
    h.cell row col = if g.ErasesCell (.eraseDisplay 1) row col then some g.blankCell else g.cell row col := by
  have anyRow : g.Shaped fun _ => True := shaped.mono fun _ _ => trivial
  have filled := anyRow.setActive (anyRow.active.fillRows 0 g.cursorRow (List.length_replicate (a := g.blankCell)) trivial)
  have hasCols := shaped.hasCols
  obtain ⟨cells,edited,erased⟩ := filled.erase_cells (Nat.zero_le (min g.cursorCol (g.cols - 1) + 1))
    (show min g.cursorCol (g.cols - 1) + 1 ≤ g.cols by omega) g.blankCell
  have done : g.eraseDisplayCells 1 =
      .ok ((g.setActiveGrid (g.activeGrid.fillRows 0 g.cursorRow g.blankRowBce)).withRow g.cursorRow cells) := by
    change (sub g.cols 1 >>= fun last => _) = _
    rw [sub_ok hasCols]
    exact edited
  -- the cursor's row is not among the rows above it
  have cursor : (g.setActiveGrid (g.activeGrid.fillRows 0 g.cursorRow g.blankRowBce)).cursorCells = g.cursorCells := by
    unfold Grid.cursorCells
    rw [activeGrid_setActiveGrid]
    simp [RowStore.fillRows]
  refine ⟨_,by rw [Grid.eraseDisplay,done]; rfl,fun row rowInside col colInside => ?_⟩
  have inside : row < g.activeGrid.len := by
    rw [RowStore.len,shaped.active.rowCount]
    exact rowInside
  refine (erased row rowInside col colInside).trans ?_
  rw [← blankRowBce,cursor,g.fill_cell 0 g.cursorRow inside colInside]
  by_cases above : row < g.cursorRow
  · rw [if_neg fun both => absurd both.1 (Nat.ne_of_lt above),if_pos ⟨Nat.zero_le row,above⟩,
      if_pos (.inr (.inr (.inr ⟨rfl,.inl above⟩)))]
  · have same : g.ErasesCell (.eraseDisplay 1) row col ↔
        row = g.cursorRow ∧ Erases g.cursorCells 0 (min g.cursorCol (g.cols - 1) + 1) col := by
      simp [ErasesCell,above]
    rw [if_neg (show ¬ (0 ≤ row ∧ row < g.cursorRow) from fun both => above both.2)]
    exact if_congr same.symm rfl rfl

/-- What an erase of the display writes, and nothing else. -/
theorem Shaped.eraseDisplay_cells (shaped : g.Shaped P) {mode : Nat} (known : mode ≤ 3) : ∃ h, g.eraseDisplay mode = .ok h ∧
    ∀ row < g.rows, ∀ col < g.cols,
      h.cell row col = if g.ErasesCell (.eraseDisplay mode) row col then some g.blankCell else g.cell row col := by
  have inside (row : Nat) (rowInside : row < g.rows) : row < g.activeGrid.len := by
    rw [RowStore.len,shaped.active.rowCount]
    exact rowInside
  rcases (by omega : mode = 0 ∨ mode = 1 ∨ mode = 2 ∨ mode = 3) with rfl | rfl | rfl | rfl
  · have kept : ∃ scrollback block mutated, (if g.cursorRow = 0 ∧ g.cursorCol = 0 then g.preserveVisibleRowsToScrollback else g) =
        { g with scrollback := scrollback, lastPreservedBlock := block, modeFlags.mutatedSincePreserve := mutated } := by
      split
      · exact g.preserve_fields
      · exact ⟨g.scrollback,g.lastPreservedBlock,g.modeFlags.mutatedSincePreserve,rfl⟩
    have keptShaped : (if g.cursorRow = 0 ∧ g.cursorCol = 0 then g.preserveVisibleRowsToScrollback else g).Shaped P := by
      split
      · exact shaped.preserveVisibleRowsToScrollback
      · exact shaped
    obtain ⟨scrollback,block,mutated,same⟩ := kept
    obtain ⟨h,done,cells⟩ := keptShaped.eraseBelow
    have erased : g.eraseDisplayCells 0 = .ok h := done
    refine ⟨h.markAll,by rw [Grid.eraseDisplay,erased]; rfl,?_⟩
    rw [same] at cells
    exact cells
  · exact shaped.eraseAbove
  · obtain ⟨scrollback,block,mutated,same⟩ := g.preserve_fields
    refine ⟨_,rfl,fun row rowInside col colInside => ?_⟩
    rw [if_pos (.inl rfl),same]
    exact (fill_cell _ 0 g.rows (inside row rowInside) colInside).trans (if_pos ⟨Nat.zero_le row,rowInside⟩)
  · refine ⟨_,rfl,fun row rowInside col colInside => ?_⟩
    rw [if_pos (.inr (.inl rfl))]
    exact (fill_cell _ 0 g.rows (inside row rowInside) colInside).trans (if_pos ⟨Nat.zero_le row,rowInside⟩)

/-- What an erase of the line writes. -/
theorem Shaped.eraseLine_cells (shaped : g.Shaped P) {mode : Nat} (known : mode ≤ 2) : ∃ h, g.eraseLine mode = .ok h ∧
    ∀ row < g.rows, ∀ col < g.cols,
      h.cell row col = if g.ErasesCell (.eraseLine mode) row col then some g.blankCell else g.cell row col := by
  have hasCols := shaped.hasCols
  match mode, known with
  | 0, _ =>
    obtain ⟨cells,edited,erased⟩ := shaped.erase_cells shaped.cursorCol (Nat.le_refl g.cols) g.blankCell
    have done : g.eraseLine 0 = .ok ((g.withRow g.cursorRow cells).markRange g.cursorRow g.cursorCol g.cols) := by
      rw [Grid.eraseLine,edited]
      rfl
    refine ⟨_,done,fun row rowInside col colInside => (erased row rowInside col colInside).trans ?_⟩
    exact if_congr (by simp [ErasesCell]) rfl rfl
  | 1, _ =>
    obtain ⟨cells,edited,erased⟩ := shaped.erase_cells (Nat.zero_le (min g.cursorCol (g.cols - 1) + 1))
      (show min g.cursorCol (g.cols - 1) + 1 ≤ g.cols by omega) g.blankCell
    have done : g.eraseLine 1 = .ok ((g.withRow g.cursorRow cells).markRange g.cursorRow 0 (satAdd16 g.cursorCol 1)) := by
      change (sub g.cols 1 >>= fun last => _) = _
      rw [sub_ok hasCols]
      change (g.modifyActiveRow g.cursorRow _ >>= fun h => _) = _
      rw [edited]
      rfl
    refine ⟨_,done,fun row rowInside col colInside => (erased row rowInside col colInside).trans ?_⟩
    exact if_congr (by simp [ErasesCell]) rfl rfl
  | 2, _ =>
    have edited := shaped.modifyCursorRow_eq (f := fun _ => .ok g.blankRowBce) rfl
    refine ⟨_,by rw [Grid.eraseLine,edited]; rfl,fun row rowInside col colInside => ?_⟩
    have cursor : g.cursorRow < g.activeGrid.rows.length := by rw [shaped.active.rowCount]; exact shaped.cursorRow
    change (g.withRow g.cursorRow g.blankRowBce).cell row col = _
    unfold cell withRow
    rw [activeGrid_setActiveGrid]
    by_cases here : row = g.cursorRow
    · subst here
      rw [if_pos ⟨rfl,.inl rfl⟩,List.getElem?_set_self cursor,Option.bind_some]
      exact List.getElem?_replicate_of_lt colInside
    · rw [if_neg fun erases => here erases.1,List.getElem?_set_ne (Ne.symm here)]

end Grid

/-- ED 0 to 3, and EL 2. -/
def Op.ClearsRows : Op → Prop
  | .eraseDisplay mode => mode ≤ 3
  | .eraseLine mode => mode = 2
  | _ => False

namespace Grid

variable {P : Row → Prop} {g h : Grid}

/-- Marks on rows of the screen that is shown. -/
def marked (g : Grid) (marks : Nat → Bool) : PerRow Bool :=
  PerRow.setShown
    { primary := List.replicate g.primary.len false
      alternate := List.replicate g.alternate.len false
      scrollback := List.replicate g.scrollback.len false }
    g.modeFlags.altScreen ((List.range g.rows).map marks)

/-- Every marked row starts a line. -/
def MarksHard (g : Grid) (marks : PerRow Bool) : Prop :=
  marks.Rel (fun mark entry => mark = true → entry.2 = .hard) g.entries

theorem Shaped.marksHard_iff (shaped : g.Shaped P) (marks : Nat → Bool) :
    g.MarksHard (g.marked marks) ↔ ∀ row < g.rows, marks row = true → g.activeGrid.wrap row = some .hard := by
  have unmarked {s : RowStore} (aligned : s.wraps.length = s.rows.length) :
      List.Forall₂ (fun (mark : Bool) (entry : Row × RowWrap) => mark = true → entry.2 = .hard) (List.replicate s.len false) s.entries := by
    rw [← RowStore.length_entries aligned]
    exact forall₂_replicate_left fun _ _ marks => absurd marks Bool.false_ne_true
  have primary := unmarked shaped.primary.aligned
  have alternate := unmarked shaped.alternate.aligned
  have history := unmarked shaped.historyWraps
  have screen : List.Forall₂ (fun (mark : Bool) (entry : Row × RowWrap) => mark = true → entry.2 = .hard)
      ((List.range g.rows).map marks) g.activeGrid.entries ↔
        ∀ row < g.rows, marks row = true → g.activeGrid.wrap row = some .hard := by
    have count := shaped.active.entries_length
    have flags := shaped.active.wrapCount
    rw [List.forall₂_iff_get]
    constructor
    · rintro ⟨_,each⟩ row inside marked
      have hard := each row (by simpa using inside) (by omega) (by simpa using marked)
      rw [List.get_eq_getElem] at hard
      rw [RowStore.wrap,List.getElem?_eq_getElem (by omega)]
      simpa [RowStore.entries] using hard
    · intro hard
      refine ⟨by simp [count],fun row left right marked => ?_⟩
      have inside : row < g.rows := count ▸ right
      have wrap := hard row inside (by simpa using marked)
      rw [RowStore.wrap,List.getElem?_eq_getElem (by omega)] at wrap
      simpa [RowStore.entries] using wrap
  rw [← screen]
  unfold marked MarksHard activeGrid
  cases g.modeFlags.altScreen
  · exact ⟨fun rel => rel.primary,fun rel => ⟨rel,alternate,history⟩⟩
  · exact ⟨fun rel => rel.alternate,fun rel => ⟨primary,rel,history⟩⟩

section
variable [UnicodeWidth]

/-- Marks that go with their rows while operations are run. -/
def carriedMarks (g : Grid) (ops : List Op) (marks : PerRow Bool) : PerRow Bool :=
  noted Grid.exec (fun g op => g.carried false op) g ops marks

theorem Shaped.exec_marks (shaped : g.Shaped P) {op : Op} (still : ¬ g.Defers op) {marks : PerRow Bool} (hard : g.MarksHard marks) :
    Ends (fun h => h.MarksHard (g.carried false op marks)) (fun _ => True) (g.exec op) := by
  refine (shaped.exec_carries op still).mono fun h carries => ?_
  refine (carried_rel (fun marked => absurd marked Bool.false_ne_true) g op hard).comp carries fun mark before after hard leaves marked => ?_
  rcases leaves.2 with same | turned
  · exact same.trans (hard marked)
  · exact turned

/-- What a clear of rows does, and that it leaves the flags. -/
theorem Shaped.clears_rows (shaped : g.Shaped RowOk) {op : Op} (clears : op.ClearsRows) : ∃ h, g.exec op = .ok h ∧ h.Shaped RowOk ∧
    h.rows = g.rows ∧ h.activeGrid.wraps = g.activeGrid.wraps ∧ ∀ row < g.rows, ∀ col < g.cols,
      h.cell row col = if g.ErasesCell op row col then some g.blankCell else g.cell row col := by
  have law := rowOk_law fun _ => True
  have rest {op : Op} {h : Grid} (done : g.exec op = .ok h) (edits : op.Edits = true) (stays : op.Switches = false)
      (granted : op.Granted fun _ => True) (moves : op.Moves = false) (still : ¬ g.Defers op) :
      h.Shaped RowOk ∧ h.rows = g.rows ∧ h.activeGrid.wraps = g.activeGrid.wraps := by
    have size := ((shaped.exec_saved stays).of_ok done).1
    have flags := (shaped.edit_flags edits still).of_ok done
    exact ⟨(shaped.exec law granted fun on => absurd (moves.symm.trans on) Bool.false_ne_true).of_ok done,
      congrArg Prod.fst size,congrArg Prod.snd flags⟩
  cases op
  case eraseDisplay mode =>
    obtain ⟨h,done,cells⟩ := shaped.eraseDisplay_cells clears
    obtain ⟨shaped',rows,wraps⟩ := @rest (.eraseDisplay mode) h done rfl rfl trivial rfl id
    exact ⟨h,done,shaped',rows,wraps,cells⟩
  case eraseLine mode =>
    obtain ⟨h,done,cells⟩ := shaped.eraseLine_cells (Nat.le_of_eq clears)
    obtain ⟨shaped',rows,wraps⟩ := @rest (.eraseLine mode) h done rfl rfl trivial rfl id
    exact ⟨h,done,shaped',rows,wraps,cells⟩
  all_goals exact clears.elim

end

end Grid

section
variable [UnicodeWidth] [Vte]

namespace DamageGrid

/-- The rows that an erase blanks stay hard, wherever they go while no wrap that was
    deferred is done, exactly if they were hard before the erase. -/
theorem erased_hard_iff {rows cols : UInt16} (hasRows : 0 < rows) (hasCols : 0 < cols) {scrollbackLimit : Nat} {run : List Call}
    {g : Grid} (visited : (new rows cols scrollbackLimit).Visits run g) {op : Op} (clears : op.ClearsRows) :
    ∃ h, g.exec op = .ok h ∧
      (∀ row < g.rows, ∀ col < g.cols,
        h.cell row col = if g.ErasesCell op row col then some g.blankCell else g.cell row col) ∧
      ((∀ (d d' : DamageGrid) (chunks : List Bytes), d.grid = h → StepsMeet Grid.exec (fun g op => ¬ g.Defers op) h (d.ops chunks) →
          d.processAll chunks = .ok d' →
            d'.grid.MarksHard (h.carriedMarks (d.ops chunks) (h.marked fun row => decide (g.BlanksRow op row)))) ↔
        ∀ row < g.rows, g.BlanksRow op row → g.activeGrid.wrap row = some .hard) := by
  have shaped := visited.shaped hasRows hasCols
  obtain ⟨h,done,hShaped,sameRows,wraps,cells⟩ := shaped.clears_rows clears
  have marks : h.MarksHard (h.marked fun row => decide (g.BlanksRow op row)) ↔
      ∀ row < g.rows, g.BlanksRow op row → g.activeGrid.wrap row = some .hard := by
    rw [hShaped.marksHard_iff,sameRows]
    simp only [decide_eq_true_eq,RowStore.wrap,wraps]
  refine ⟨h,done,cells,?_⟩
  rw [← marks]
  constructor
  · intro always
    exact always { new rows cols scrollbackLimit with grid := h } _ [] rfl trivial rfl
  · rintro hard d d' chunks rfl still processed
    have performed := processAll_execAll d chunks
    rw [processed] at performed
    have kept := hShaped.execAll_notes Grid.MarksHard (fun g op => g.carried false op) (fun g op => ¬ g.Defers op)
      (fun _ _ _ shaped _ still hard => shaped.exec_marks still hard) (d.ops_tame chunks) still hard
    exact (kept.of_ok performed.symm).2

end DamageGrid

end

section
attribute [local instance] byteParser blockWidth

/-- `A` and `CSI 2 J`. -/
theorem erased_hard_plain : ∃ g, (DamageGrid.new 2 2 0).Visits [.process [0x41]] g ∧ ∃ h, g.exec (.eraseDisplay 2) = .ok h ∧
    (∀ row < g.rows, ∀ col < g.cols,
      h.cell row col = if g.ErasesCell (.eraseDisplay 2) row col then some g.blankCell else g.cell row col) ∧
    ((∀ (d d' : DamageGrid) (chunks : List Bytes), d.grid = h → StepsMeet Grid.exec (fun g op => ¬ g.Defers op) h (d.ops chunks) →
        d.processAll chunks = .ok d' →
          d'.grid.MarksHard (h.carriedMarks (d.ops chunks) (h.marked fun row => decide (g.BlanksRow (.eraseDisplay 2) row)))) ↔
      ∀ row < g.rows, g.BlanksRow (.eraseDisplay 2) row → g.activeGrid.wrap row = some .hard) :=
  have visited : (DamageGrid.new 2 2 0).Visits [.process [0x41]] _ := ⟨[.op (.print 'A')],[],rfl,rfl⟩
  ⟨_,visited,DamageGrid.erased_hard_iff (by decide) (by decide) visited (show 2 ≤ 3 by decide)⟩

/-- `ABC` in two columns and `CSI 2 J`: the second row is blank and still soft, also
    after `CSI 2 H` and `X`. -/
theorem erased_stays_soft : ∃ g h, (DamageGrid.new 2 2 0).Visits [.process [0x41,0x42,0x43]] g ∧ g.exec (.eraseDisplay 2) = .ok h ∧
    ¬ ∀ (d d' : DamageGrid) (chunks : List Bytes), d.grid = h → StepsMeet Grid.exec (fun g op => ¬ g.Defers op) h (d.ops chunks) →
      d.processAll chunks = .ok d' →
        d'.grid.MarksHard (h.carriedMarks (d.ops chunks) (h.marked fun row => decide (g.BlanksRow (.eraseDisplay 2) row))) := by
  refine ⟨_,_,⟨[.op (.print 'A'),.op (.print 'B'),.op (.print 'C')],[],rfl,rfl⟩,rfl,fun always => ?_⟩
  have rows := (always { DamageGrid.new 2 2 0 with grid := _ } _ [[0x1b,0x5b,0x32,0x48,0x58]] rfl (by decide) rfl).primary
  cases rows with
  | cons _ rest =>
    cases rest with
    | cons second _ => exact absurd (second rfl) (by decide)

end

end Termpane
