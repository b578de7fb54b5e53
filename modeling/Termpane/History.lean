import Termpane.Lib.Newest
import Termpane.Frames
import Termpane.Steps

/-!
# History

The scrollback as a window onto the rows that entered it: which rows every
operation lets in, and that they are the rows of the screen.
-/
namespace Termpane

open Lib

namespace RowStore

/-- Rows and their flags, oldest first. -/
def entries (s : RowStore) : List (Row × RowWrap) := s.rows.zip s.wraps

def ofEntries (entries : List (Row × RowWrap)) : RowStore :=
  { rows := entries.map Prod.fst, wraps := entries.map Prod.snd }

variable {s t : RowStore} {limit : Nat}

theorem ofEntries_entries (aligned : s.wraps.length = s.rows.length) : ofEntries s.entries = s := by
  have rows : s.entries.map Prod.fst = s.rows := List.map_fst_zip (Nat.le_of_eq aligned.symm)
  have wraps : s.entries.map Prod.snd = s.wraps := List.map_snd_zip (Nat.le_of_eq aligned)
  unfold ofEntries
  rw [rows,wraps]

@[simp] theorem len_ofEntries (w : List (Row × RowWrap)) : (ofEntries w).len = w.length := List.length_map _

theorem push_ofEntries (limit : Nat) (w : List (Row × RowWrap)) (entry : Row × RowWrap) :
    push limit (ofEntries w) entry = ofEntries (slide limit w entry) := by
  have front : (if (ofEntries w).len ≥ limit then (ofEntries w).recycleFront else ofEntries w) =
      ofEntries (if w.length ≥ limit then w.tail else w) := by
    rw [len_ofEntries]
    split
    · cases w <;> rfl
    · rfl
  unfold push
  rw [front]
  unfold slide ofEntries pushBackWithWrap
  simp only [List.map_append,List.map_cons,List.map_nil]

/-- Rows fed to a store slide its window on. -/
theorem feed_ofEntries (limit : Nat) (entries w : List (Row × RowWrap)) :
    (ofEntries w).feed limit entries = ofEntries (entries.foldl (slide limit) w) := by
  induction entries generalizing w with
  | nil => rfl
  | cons entry entries ih =>
    change (push limit (ofEntries w) entry).feed limit entries = _
    rw [push_ofEntries,ih]
    rfl

theorem length_entries (aligned : s.wraps.length = s.rows.length) : s.entries.length = s.len := by
  unfold entries
  rw [List.length_zip,aligned,Nat.min_self]
  rfl

theorem entries_ofEntries (w : List (Row × RowWrap)) : (ofEntries w).entries = w := by
  induction w with
  | nil => rfl
  | cons entry w ih => exact congrArg (entry :: ·) ih

theorem entries_blank (rows cols : Nat) : (blank rows cols).entries = List.replicate rows (blankRow cols,.hard) := by
  unfold entries blank
  rw [List.zip_replicate,Nat.min_self]

/-- Rows fed to a store slide its rows on. -/
theorem entries_feed (aligned : s.wraps.length = s.rows.length) (limit : Nat) (entered : List (Row × RowWrap)) :
    (s.feed limit entered).entries = entered.foldl (slide limit) s.entries := by
  rw [← ofEntries_entries aligned,feed_ofEntries,entries_ofEntries,entries_ofEntries]

/-- Rows and flags are moved together. -/
theorem entries_shiftUp (aligned : s.wraps.length = s.rows.length) (top bottom n cols : Nat) (wrap : RowWrap) :
    (s.shiftUp top bottom n cols wrap).entries = Lib.shiftUp top bottom n (blankRow cols,wrap) s.entries :=
  (shiftUp_zip aligned.symm n _ _).symm

theorem entries_shiftDown (aligned : s.wraps.length = s.rows.length) (top bottom n cols : Nat) :
    (s.shiftDown top bottom n cols).entries = Lib.shiftDown top bottom n (blankRow cols,.hard) s.entries :=
  (shiftDown_zip aligned.symm n _ _).symm

theorem len_le_feed (aligned : s.wraps.length = s.rows.length) (limit : Nat) (entries : List (Row × RowWrap)) :
    s.len ≤ (s.feed limit entries).len := by
  rw [← ofEntries_entries aligned,feed_ofEntries,len_ofEntries,len_ofEntries]
  exact length_le_foldl_slide _ _

theorem feed_len_mono (left : s.wraps.length = s.rows.length) (right : t.wraps.length = t.rows.length) (shorter : s.len ≤ t.len)
    (limit : Nat) (entries : List (Row × RowWrap)) : (s.feed limit entries).len ≤ (t.feed limit entries).len := by
  rw [← ofEntries_entries left,← ofEntries_entries right,len_ofEntries,len_ofEntries] at shorter
  rw [← ofEntries_entries left,← ofEntries_entries right,feed_ofEntries,feed_ofEntries,len_ofEntries,len_ofEntries]
  exact foldl_slide_mono _ shorter

theorem len_feed_of_room (aligned : s.wraps.length = s.rows.length) {entries : List (Row × RowWrap)}
    (room : (s.feed limit entries).len < limit) : (s.feed limit entries).len = s.len + entries.length := by
  rw [← ofEntries_entries aligned,feed_ofEntries,len_ofEntries] at room ⊢
  rw [len_ofEntries,foldl_slide_of_room room,List.length_append]

end RowStore

namespace Grid

variable {P : Row → Prop} {g : Grid}

section
variable [UnicodeWidth]

/-- The rows an operation lets into the scrollback: those it scrolls off the top, or
    those a clear of the screen saves. -/
def admitted (g : Grid) : Op → List (Row × RowWrap)
  | .eraseDisplay mode => if g.Clears mode then g.clearBlock.elim [] g.clearSaves else []
  | op => g.entering op

theorem admitted_of_scroll (g : Grid) {op : Op} (scrolls : ∀ mode, op ≠ .eraseDisplay mode) : g.admitted op = g.entering op := by
  cases op
  case eraseDisplay mode => exact absurd rfl (scrolls mode)
  all_goals rfl

theorem eraseHistory_scrollback (g : Grid) (mode : Nat) : (g.eraseHistory mode).scrollback =
    if mode = 3 then {} else g.scrollback.feed g.scrollbackLimit (g.admitted (.eraseDisplay mode)) := by
  have saves : g.admitted (.eraseDisplay mode) = if g.Clears mode then g.clearBlock.elim [] g.clearSaves else [] := rfl
  unfold eraseHistory
  rw [saves]
  split
  · rfl
  · by_cases clears : g.Clears mode
    · rw [if_pos clears,if_pos clears,preserve_eq]
      cases g.clearBlock <;> rfl
    · rw [if_neg clears,if_neg clears]
      rfl

theorem ledgerAfter_scrollback (g : Grid) (op : Op) : (g.ledgerAfter op).scrollback =
    if op = .eraseDisplay 3 then {} else g.scrollback.feed g.scrollbackLimit (g.admitted op) := by
  cases op
  case eraseDisplay mode =>
    simp only [Op.eraseDisplay.injEq]
    exact eraseHistory_scrollback g mode
  case saveCursor | softReset | kittyPush | kittyPop =>
    rw [if_neg (by simp),admitted_of_scroll g (by simp),entering_of_still rfl]
    rfl
  all_goals rfl

/-- What an operation does to the scrollback. -/
theorem Shaped.exec_scrollback (shaped : g.Shaped P) (op : Op) :
    Ends (fun h => h.scrollback = if op = .eraseDisplay 3 then {} else g.scrollback.feed g.scrollbackLimit (g.admitted op))
      (fun _ => True) (g.exec op) :=
  (shaped.exec_past op).mono fun _ same =>
    (congrArg Ledger.scrollback same).trans (ledgerAfter_scrollback g op)

/-- The limit and the policy are the host's. -/
theorem Shaped.exec_settings (shaped : g.Shaped P) (op : Op) :
    Ends (fun h => h.scrollbackLimit = g.scrollbackLimit ∧ h.eraseDisplayPolicy = g.eraseDisplayPolicy) (fun _ => True)
      (g.exec op) := by
  refine (shaped.exec_past op).mono fun h same => ?_
  obtain ⟨_,limit,policy,_⟩ := ledgerAfter_frame g op
  exact ⟨(congrArg Ledger.limit same).trans limit,(congrArg Ledger.policy same).trans policy⟩

end

/-! ## What enters -/

/-- The rows of a screen with their flags, from the first to the last with contents. -/
def visibleSpan (s : RowStore) : List (Row × RowWrap) :=
  (s.entries.dropWhile fun entry => !rowHasContents entry.1).rdropWhile fun entry => !rowHasContents entry.1

theorem visibleBlock_span {s : RowStore} (aligned : s.wraps.length = s.rows.length) {block : List Row}
    (found : visibleBlock s = some block) : (visibleSpan s).map Prod.fst = block := by
  have rows : s.entries.map Prod.fst = s.rows := List.map_fst_zip (Nat.le_of_eq aligned.symm)
  unfold visibleBlock at found
  split at found
  case h_1 => cases found
  case h_2 first at' =>
    have start : s.rows.drop first = s.rows.dropWhile fun row => !rowHasContents row := by
      rw [List.dropWhile_eq_drop_findIdx_not]
      simp only [Bool.not_not]
      rw [(List.findIdx?_eq_some_iff_findIdx_eq.mp at').2]
    cases found
    unfold visibleSpan List.rdropWhile
    rw [start,← rows,List.dropWhile_map,← List.map_reverse,List.dropWhile_map,List.map_reverse]
    rfl

theorem map_hard_iff (entries : List (Row × RowWrap)) :
    entries.map (fun entry => (entry.1,RowWrap.hard)) = entries ↔ ∀ entry ∈ entries, entry.2 = .hard := by
  induction entries with
  | nil => simp
  | cons entry entries ih =>
    obtain ⟨row,wrap⟩ := entry
    simp only [List.map_cons,List.cons.injEq,Prod.mk.injEq,true_and,List.forall_mem_cons,ih]
    exact and_congr_left fun _ => eq_comm

/-- The rows a clear saves as they are on the screen, flags and all. -/
def savedSpan (g : Grid) (mode : Nat) : List (Row × RowWrap) :=
  if g.Clears mode then
    g.clearBlock.elim [] fun block => if g.lastPreservedBlock = some block then [] else visibleSpan g.primary
  else []

section
variable [UnicodeWidth]

/-- The rows an operation lets in as they are on the screen, flags and all. -/
def arriving (g : Grid) : Op → List (Row × RowWrap)
  | .eraseDisplay mode => g.savedSpan mode
  | op => g.entering op

/-- The rows that are saved by a clear. -/
def spanSaved (g : Grid) : Op → List (Row × RowWrap)
  | .eraseDisplay mode => g.savedSpan mode
  | _ => []

/-- No row that is saved by a clear continues a line. -/
def SavesHard (g : Grid) (op : Op) : Prop := ∀ entry ∈ g.spanSaved op, entry.2 = .hard

instance (g : Grid) (op : Op) : Decidable (g.SavesHard op) := by unfold SavesHard; infer_instance

/-- What an operation lets in is what was on the screen, unless a clear saves the
    continuation of a line. -/
theorem Shaped.admitted_eq_iff (shaped : g.Shaped P) (op : Op) : g.admitted op = g.arriving op ↔ g.SavesHard op := by
  cases op
  case eraseDisplay mode =>
    have aligned : g.primary.wraps.length = g.primary.rows.length := shaped.primary.wrapCount.trans shaped.primary.rowCount.symm
    have saved : g.admitted (.eraseDisplay mode) = (g.savedSpan mode).map fun entry => (entry.1,.hard) := by
      have saves : g.admitted (.eraseDisplay mode) = if g.Clears mode then g.clearBlock.elim [] g.clearSaves else [] := rfl
      rw [saves]
      unfold savedSpan
      split
      · cases found : g.clearBlock with
        | none => rfl
        | some block =>
          have visible : visibleBlock g.primary = some block := by
            unfold clearBlock at found
            split at found
            · cases found
            · exact found
          simp only [Option.elim_some,clearSaves]
          split
          · rfl
          · rw [← visibleBlock_span aligned visible,List.map_map]
            rfl
      · rfl
    rw [saved]
    exact map_hard_iff (g.savedSpan mode)
  all_goals exact iff_of_true rfl (by simp [SavesHard,spanSaved])

/-- The rows that entered the scrollback since it was last emptied. -/
def logged (g : Grid) : Step → List (Row × RowWrap) → List (Row × RowWrap)
  | .op op, log => if op = .eraseDisplay 3 then [] else log ++ g.arriving op
  | .host .clearScrollback, _ => []
  | .host _, log => log

/-- The condition on a step. -/
def TakesHard (g : Grid) : Step → Prop
  | .op op => g.SavesHard op
  | .host _ => True

instance (g : Grid) : (step : Step) → Decidable (g.TakesHard step)
  | .op op => inferInstanceAs (Decidable (g.SavesHard op))
  | .host _ => isTrue trivial

/-- The scrollback is the newest rows of a log. -/
def Remembers (g : Grid) (log : List (Row × RowWrap)) : Prop :=
  g.scrollback = .ofEntries (newest g.scrollbackLimit log)

theorem arriving_of_no_limit (none : g.scrollbackLimit = 0) (op : Op) : g.arriving op = [] := by
  have leaves (top n : Nat) : g.leaving top n = [] := if_neg fun saves => absurd saves.2.2 (by omega)
  cases op
  case eraseDisplay mode =>
    have block : g.clearBlock = .none := if_pos (.inr (.inr (.inl none)))
    change g.savedSpan mode = []
    unfold savedSpan
    rw [block]
    exact ite_self _
  all_goals exact leaves _ _

theorem Shaped.exec_remembers (shaped : g.Shaped P) {op : Op} (hard : g.SavesHard op) {log : List (Row × RowWrap)}
    (remembers : g.Remembers log) : Ends (fun h => h.Remembers (g.logged (.op op) log)) (fun _ => True) (g.exec op) := by
  have after := ((shaped.exec_scrollback op).and (shaped.exec_settings op)).allow fun _ _ => trivial
  refine after.mono fun h ⟨scrollback,limit,_⟩ => ?_
  change h.scrollback = .ofEntries (newest h.scrollbackLimit (if op = .eraseDisplay 3 then [] else log ++ g.arriving op))
  rw [scrollback,limit]
  split
  · rw [newest_nil]
    rfl
  · have some : 0 < g.scrollbackLimit ∨ g.arriving op = [] := by
      rcases Nat.eq_zero_or_pos g.scrollbackLimit with none | some
      · exact .inr (arriving_of_no_limit none op)
      · exact .inl some
    rw [(shaped.admitted_eq_iff op).mpr hard,show g.scrollback = _ from remembers,RowStore.feed_ofEntries,
      foldl_slide_newest some]

theorem host_remembers (g : Grid) (c : HostCall) {log : List (Row × RowWrap)} (remembers : g.Remembers log) :
    (g.host c).Remembers (g.logged (.host c) log) := by
  cases c
  case clearScrollback =>
    change RowStore.clear g.scrollback = .ofEntries (newest g.scrollbackLimit [])
    rw [newest_nil]
    rfl
  all_goals exact remembers

end

end Grid

section
variable [Vte] [UnicodeWidth]

namespace DamageGrid

/-- The rows that entered the scrollback in a run, since it was last emptied. -/
def enteredRows (d : DamageGrid) (run : List Call) : List (Row × RowWrap) :=
  noted Grid.take Grid.logged d.grid (d.steps run) []

/-- In a run in which no clear saves the continuation of a line, the scrollback is
    the newest of the rows that entered it, each as it was on the screen. -/
theorem history_newest {rows cols : UInt16} (hasRows : 0 < rows) (hasCols : 0 < cols) {scrollbackLimit : Nat}
    {run : List Call} {d : DamageGrid} (reached : (new rows cols scrollbackLimit).calls run = .ok d)
    (hard : StepsMeet Grid.take Grid.TakesHard (new rows cols scrollbackLimit).grid ((new rows cols scrollbackLimit).steps run)) :
    d.grid.scrollback =
      .ofEntries (newest d.grid.scrollbackLimit ((new rows cols scrollbackLimit).enteredRows run)) := by
  have shaped := (sound_new (rowOk_law fun _ => True).blank hasRows hasCols scrollbackLimit).grid
  have start : (new rows cols scrollbackLimit).grid.Remembers [] := by
    unfold Grid.Remembers
    rw [newest_nil]
    rfl
  have ran := @Grid.Shaped.takes _ _ Grid.Remembers Grid.logged Grid.TakesHard
    (fun _ _ _ shaped _ hard remembers => shaped.exec_remembers hard remembers)
    (fun g c _ _ _ remembers => g.host_remembers c remembers) _ _ shaped _ (fun none => absurd none Bool.false_ne_true)
    (stepsFrom_tame _ _ run) hard _ start
  have performed := calls_grid (new rows cols scrollbackLimit) run
  rw [reached] at performed
  exact (ran.of_ok performed.symm).2

end DamageGrid

end

section
attribute [local instance] byteParser blockWidth

/-- `A` and `CSI 2 J`. -/
theorem history_newest_clear : ∃ d,
    (DamageGrid.new 3 2 5).calls [.process [0x41,0x1b,0x5b,0x32,0x4a]] = .ok d ∧
      d.grid.scrollback = .ofEntries (newest d.grid.scrollbackLimit
        ((DamageGrid.new 3 2 5).enteredRows [.process [0x41,0x1b,0x5b,0x32,0x4a]])) :=
  ⟨_,rfl,DamageGrid.history_newest (show (0 : UInt16) < 3 by decide) (show (0 : UInt16) < 2 by decide)
    (show (DamageGrid.new 3 2 5).calls [.process [0x41,0x1b,0x5b,0x32,0x4a]] = .ok _ from rfl) (by decide)⟩

/-- `ABC` in two columns and `CSI 2 J`: the second row was soft-wrapped. -/
theorem clear_forgets_wrap : ∃ d,
    (DamageGrid.new 3 2 5).calls [.process [0x41,0x42,0x43,0x1b,0x5b,0x32,0x4a]] = .ok d ∧
      d.grid.scrollback ≠ .ofEntries (newest d.grid.scrollbackLimit
        ((DamageGrid.new 3 2 5).enteredRows [.process [0x41,0x42,0x43,0x1b,0x5b,0x32,0x4a]])) := by
  refine ⟨_,rfl,fun same => ?_⟩
  exact absurd (congrArg RowStore.wraps same) (by decide)

end

end Termpane
