import Termpane.Frames
import Termpane.Shifts
import Termpane.Steps

/-!
# Printing

Where a printed character goes and what else changes: the specification of
`write_char_at_cursor` in terms of what was done to the cursor since the last
print, and that every reachable state meets it.
-/
namespace Termpane

open Lib

/-! ## What is to happen -/

/-- The cells a program can see or scroll back to, and the flags of their rows. -/
structure Screens where
  primary : RowStore
  alternate : RowStore
  scrollback : RowStore
  altScreen : Bool
  deriving DecidableEq

/-- A glyph put at `col`: itself, its second half if it is wide and has a column for
    it, blanks for the halves of the pairs it splits, and every other cell as it was. -/
def GlyphPut (row : Row) (col width : Nat) (cell : Cell) (written : Row) : Prop :=
  written.length = row.length ∧ ∀ j, j < row.length → cellAt written j =
    if j = col then cell
    else if j = col + 1 ∧ width > 1 then .continuationOf cell.attrs cell.hyperlink
    else if Splits row col width j then default
    else cellAt row j

/-- A cluster grown at `col`: the column beside it is claimed or freed as its width
    says, with the half of the pair that this splits, and every other cell is as it was. -/
def ClusterGrown (row : Row) (col width : Nat) (cluster : List Char) (hyperlink : Option Hyperlink) (written : Row) : Prop :=
  written.length = row.length ∧ ∀ j, j < row.length → cellAt written j =
    if j = col then
      { cellAt row col with contents := cluster, hyperlink := hyperlink, isWide := decide (width > 1), isWideContinuation := false }
    else if j = col + 1 ∧ width > 1 then .continuationOf (cellAt row col).attrs hyperlink
    else if j = col + 1 ∧ width ≤ 1 ∧ (cellAt row (col + 1)).isWideContinuation = true then default
    else if j = col + 2 ∧ width > 1 ∧ (cellAt row (col + 1)).isWide = true then default
    else cellAt row j

namespace Grid

def screens (g : Grid) : Screens := ⟨g.primary,g.alternate,g.scrollback,g.modeFlags.altScreen⟩

/-- The column at which a new cell begins: the cursor's, the last one when it is parked. -/
def baseCol (g : Grid) : Nat := min g.cursorCol (g.cols - 1)

section
variable [UnicodeWidth]

/-- The column in which the cluster left of the cursor starts. -/
def clusterLeft (g : Grid) : Option Nat := g.clusterTarget.map (clusterCol g.cursorCells)

/-- The cluster a character joins: a mark the one left of the cursor, any other
    character only one that ends in a joiner, with no cursor operation in between. -/
def joinsLeft (g : Grid) (continued : Bool) (ch : Char) : Option Nat :=
  if charWidth ch ≠ 0 ∧ continued = false then none
  else g.clusterLeft.bind fun col => if Joins ch (cellAt g.cursorCells col).contents then some col else none

/-- Without autowrap, a glyph too wide for what is left of the row. -/
def TooWide (g : Grid) (ch : Char) : Prop := g.modeFlags.noAutowrap = true ∧ charWidth ch > g.cols - g.baseCol

instance (g : Grid) (ch : Char) : Decidable (g.TooWide ch) := by unfold TooWide; infer_instance

/-- A character that reaches no cell: a mark without a cluster to join, or a glyph too wide. -/
def Dropped (g : Grid) (continued : Bool) (ch : Char) : Prop :=
  g.joinsLeft continued ch = none ∧ (charWidth ch = 0 ∨ g.TooWide ch)

instance (g : Grid) (continued : Bool) (ch : Char) : Decidable (g.Dropped continued ch) := by unfold Dropped; infer_instance

/-- What printing a character is to do to the cells. -/
def PrintsOnly (g : Grid) (continued : Bool) (ch : Char) (h : Grid) : Prop :=
  match g.joinsLeft continued ch with
  | some col => ∃ cells, ClusterGrown g.cursorCells col (g.grownWidth ch col) ((cellAt g.cursorCells col).contents ++ [ch])
      g.activeHyperlink cells ∧ h.screens = (g.withRow g.cursorRow cells).screens
  | none =>
    if charWidth ch = 0 ∨ g.TooWide ch then h.screens = g.screens
    else ∃ w cells, g.touched.deferredWrap = .ok w ∧ (g.cursorRow ≠ g.scrollBottom → w.activeGrid.rows = g.activeGrid.rows) ∧
      GlyphPut w.cursorCells w.baseCol (charWidth ch) (glyphCell ch g.currentAttrs g.activeHyperlink) cells ∧
      h.screens = (w.withRow w.cursorRow cells).screens

/-- The columns behind the character are counted in `u16`. -/
def PrintFits (g : Grid) (continued : Bool) (ch : Char) : Prop :=
  match g.joinsLeft continued ch with
  | some col => g.JoinFits col (cellWidth (cellAt g.cursorCells col)) (g.grownWidth ch col)
  | none => charWidth ch = 0 ∨ g.TooWide ch ∨ g.modeFlags.pendingWrap = true ∧ g.modeFlags.noAutowrap = false ∨
      g.baseCol + charWidth ch ≤ u16Max

/-! ## What happens -/

variable {P : Row → Prop} {g : Grid}

/-- What `last_print` says of the cursor. A backspace moves the cursor away from it
    and does not forget it. -/
def Continues (g : Grid) : Bool → Prop
  | true => g.lastPrint = some (g.cursorRow,g.cursorCol)
  | false => g.lastPrint = none ∨ ∃ col, g.lastPrint = some (g.cursorRow,col) ∧ (g.cursorCol < col ∨ g.cursorCol = 0)

/-- The cursor and what is remembered of the last print. -/
def caret (g : Grid) : (Nat × Nat) × Option (Nat × Nat) := ((g.cursorRow,g.cursorCol),g.lastPrint)

theorem Shaped.joinCol_eq (shaped : g.Shaped P) {continued : Bool} (known : g.Continues continued) (ch : Char) :
    g.joinCol ch = g.joinsLeft continued ch := by
  have cols := shaped.hasCols
  unfold joinCol joinsLeft clusterLeft
  rw [Option.bind_map]
  cases continued with
  | true =>
    rw [if_neg (fun both => both.2 known),if_neg (fun both => Bool.noConfusion both.2)]
    rfl
  | false =>
    by_cases mark : charWidth ch = 0
    · rw [if_neg (fun both => both.1 mark),if_neg (fun both => both.1 mark)]
      rfl
    rw [show (if charWidth ch ≠ 0 ∧ false = false then (none : Option Nat) else _) = none from if_pos ⟨mark,rfl⟩]
    split_ifs with moved
    · rfl
    -- only at the left margin the two can agree, and no cluster is left of it
    · rw [not_and_or,not_not,not_not] at moved
      have here := moved.resolve_left mark
      have first : g.cursorCol = 0 := by
        rcases known with none | ⟨col,found,left | zero⟩
        · rw [here] at none; cases none
        · rw [here,Option.some.injEq,Prod.mk.injEq] at found; omega
        · exact zero
      have noTarget : g.clusterTarget = none := by
        unfold clusterTarget
        rw [if_neg (by omega),if_neg (by omega)]
      rw [noTarget]
      rfl

/-- A character that joins a cluster grows it, if the cluster ends within `u16`. -/
theorem Shaped.print_joins (shaped : g.Shaped P) {ch : Char} {col : Nat} (joins : g.joinCol ch = some col) :
    ∃ cells, ClusterGrown g.cursorCells col (g.grownWidth ch col) ((cellAt g.cursorCells col).contents ++ [ch])
        g.activeHyperlink cells ∧
      g.writeCharAtCursor ch =
        if g.JoinFits col (cellWidth (cellAt g.cursorCells col)) (g.grownWidth ch col) then
          .ok (g.touched.joined { g.activeGrid with rows := g.activeGrid.rows.set g.cursorRow cells } col
            (cellWidth (cellAt g.cursorCells col)) (g.grownWidth ch col))
        else .error .overflow := by
  have touched : g.touched.Shaped P := { shaped with }
  obtain ⟨target,inside,_,rfl,_⟩ := joinCol_some shaped.hasCols joins
  obtain ⟨_,_,width,_⟩ := shaped.cursorCells
  have start : clusterCol g.cursorCells target ≤ target := by unfold clusterCol; split_ifs <;> omega
  obtain ⟨cells,edited,length,grown⟩ := joinGlyph_cellAt
    (show clusterCol g.cursorCells target < g.cursorCells.length by omega) (cellAt g.cursorCells (clusterCol g.cursorCells target))
    ((cellAt g.cursorCells (clusterCol g.cursorCells target)).contents ++ [ch]) g.activeHyperlink
    (g.grownWidth ch (clusterCol g.cursorCells target))
  rw [width] at edited
  have written := touched.modifyCursorRow_eq (f := g.touched.joinEdit ch (clusterCol g.cursorCells target)) edited
  refine ⟨cells,⟨length,grown⟩,?_⟩
  rw [writeCharAtCursor_eq shaped,show g.touched.joinCol ch = some _ from joins]
  exact joinCluster_eq touched written

theorem Shaped.print_dropped (shaped : g.Shaped P) {ch : Char} (alone : g.joinCol ch = none)
    (dropped : charWidth ch = 0 ∨ g.TooWide ch) : g.writeCharAtCursor ch = .ok g.touched := by
  rw [writeCharAtCursor_eq shaped,show g.touched.joinCol ch = none from alone]
  dsimp only
  split_ifs with mark
  · rfl
  obtain ⟨clips,wide⟩ := dropped.resolve_left mark
  have still : g.touched.deferredWrap = .ok g.touched := if_neg fun both => by
    rw [show g.touched.modeFlags.noAutowrap = true from clips] at both
    cases both.2
  unfold Grid.writeNewCell
  simp only [still,ok_bind]
  rw [if_pos (show g.touched.modeFlags.noAutowrap = true from clips),
    if_pos (show charWidth ch > g.touched.cols - min g.touched.cursorCol (g.touched.cols - 1) from wide)]
  rfl

omit [UnicodeWidth] in
/-- After the deferred wrap the cursor is at the left margin, else where it was. -/
theorem Shaped.deferredWrap_cases (shaped : g.Shaped P) : ∃ w : Grid, g.deferredWrap = .ok w ∧ w.Shaped (fun _ => True) ∧
    w.cols = g.cols ∧ w.modeFlags.noAutowrap = g.modeFlags.noAutowrap ∧
    w.currentAttrs = g.currentAttrs ∧ w.activeHyperlink = g.activeHyperlink ∧
    (g.cursorRow ≠ g.scrollBottom → w.activeGrid.rows = g.activeGrid.rows) ∧
    (g.modeFlags.pendingWrap = true ∧ g.modeFlags.noAutowrap = false → w.cursorCol = 0) ∧
    (¬ (g.modeFlags.pendingWrap = true ∧ g.modeFlags.noAutowrap = false) → w = g) := by
  have cols := shaped.hasCols
  have anyRow : g.Shaped fun _ => True := shaped.mono fun _ _ => trivial
  unfold Grid.deferredWrap
  split_ifs with wraps
  · have home : ({ g with modeFlags.pendingWrap := false, cursorCol := 0 } : Grid).Shaped fun _ => True :=
      { anyRow with cursorCol := Nat.zero_le _, parked := by simp; omega }
    have kept := home.newlineActionWithWrap (fun _ => trivial) .soft
    rw [newline_eq] at kept ⊢
    split_ifs at kept ⊢ with atBottom
    · rw [home.scrollUp_eq] at kept ⊢
      exact ⟨_,rfl,kept,rfl,rfl,rfl,rfl,fun inside => absurd atBottom inside,fun _ => rfl,fun still => absurd wraps still⟩
    · refine ⟨_,rfl,kept,rfl,rfl,rfl,rfl,fun _ => ?_,fun _ => rfl,fun still => absurd wraps still⟩
      rw [lineDown,setActiveRowWrap,activeGrid_setActiveGrid]
      rfl
  · exact ⟨g,rfl,anyRow,rfl,rfl,rfl,rfl,fun _ => rfl,fun both => absurd both wraps,fun _ => rfl⟩

/-- A computation that puts a glyph in the cursor's row of `w`, if the column behind it
    is a `u16`. -/
def PutsGlyph (w : Grid) (col : Nat) (ch : Char) (written : Checked Grid) : Prop :=
  ∃ cells, GlyphPut w.cursorCells col (charWidth ch) (glyphCell ch w.currentAttrs w.activeHyperlink) cells ∧
    (col + charWidth ch ≤ u16Max → ∃ h, written = .ok h ∧ h.screens = (w.withRow w.cursorRow cells).screens ∧
      h.lastPrint = some (h.cursorRow,h.cursorCol)) ∧
    (¬ col + charWidth ch ≤ u16Max → written = .error .overflow)

theorem Shaped.placeChar_puts (shaped : g.Shaped P) (inside : g.cursorCol < g.cols) (ch : Char) :
    g.PutsGlyph g.cursorCol ch (g.placeChar ch (charWidth ch)) := by
  obtain ⟨_,_,width,_⟩ := shaped.cursorCells
  obtain ⟨cells,edited,length,put⟩ := writeGlyph_cellAt (show g.cursorCol < g.cursorCells.length by omega) (charWidth ch)
    (glyphCell ch g.currentAttrs g.activeHyperlink)
  rw [width] at edited
  have written := shaped.modifyCursorRow_eq (f := g.placeEdit ch) edited
  have placed := placeChar_eq shaped inside written
  refine ⟨cells,⟨length,put⟩,fun fits => ?_,fun past => ?_⟩
  · rw [if_pos fits] at placed
    exact ⟨_,placed,rfl,rfl⟩
  · rw [placed,if_neg past]

/-- A character that joins no cluster and is not dropped becomes the base of a cell. -/
theorem Shaped.print_places (shaped : g.Shaped P) {ch : Char} (alone : g.joinCol ch = none) (wide : charWidth ch ≠ 0)
    (room : ¬ g.TooWide ch) : ∃ w : Grid, g.touched.deferredWrap = .ok w ∧
      w.currentAttrs = g.currentAttrs ∧ w.activeHyperlink = g.activeHyperlink ∧
      (g.cursorRow ≠ g.scrollBottom → w.activeGrid.rows = g.activeGrid.rows) ∧
      w.PutsGlyph w.baseCol ch (g.writeCharAtCursor ch) ∧
      (w.baseCol + charWidth ch ≤ u16Max ↔
        g.modeFlags.pendingWrap = true ∧ g.modeFlags.noAutowrap = false ∨ g.baseCol + charWidth ch ≤ u16Max) := by
  have touched : g.touched.Shaped P := { shaped with }
  have narrow := charWidth_le ch
  obtain ⟨w,wrapped,wShaped,sameCols,sameFlag,attrs,link,still,home,stays⟩ := touched.deferredWrap_cases
  have wCols := wShaped.hasCols
  have wParked := wShaped.parked
  have wInside := wShaped.cursorCol
  refine ⟨w,wrapped,attrs,link,still,?_,?_⟩
  · have written : g.writeCharAtCursor ch = g.touched.writeNewCell ch (charWidth ch) := by
      rw [writeCharAtCursor_eq shaped,show g.touched.joinCol ch = none from alone]
      exact if_neg wide
    simp only [Grid.writeNewCell,wrapped,ok_bind] at written
    by_cases clips : w.modeFlags.noAutowrap = true
    -- no wrap was due, and the cursor is clamped to the right margin
    · have off : g.modeFlags.noAutowrap = true := sameFlag.symm.trans clips
      have same : w = g.touched := stays fun both => by
        rw [show g.touched.modeFlags.noAutowrap = true from off] at both
        cases both.2
      rw [if_pos clips,if_neg (by rw [same]; exact fun wide => room ⟨off,wide⟩)] at written
      have clamped : ({ w with modeFlags.pendingWrap := false, cursorCol := w.baseCol } : Grid).Shaped fun _ => True :=
        { wShaped with cursorCol := by dsimp only [baseCol]; omega, parked := by simp [baseCol]; omega }
      rw [written]
      exact clamped.placeChar_puts (by dsimp only [baseCol]; omega) ch
    · rw [if_neg clips] at written
      have on : g.touched.modeFlags.noAutowrap = false := sameFlag.symm.trans (by simpa using clips)
      have inside : w.cursorCol < w.cols := by
        by_cases wraps : g.modeFlags.pendingWrap = true
        · rw [home ⟨wraps,on⟩]; exact wCols
        · have unparked : w.modeFlags.pendingWrap ≠ true := by rw [stays fun both => wraps both.1]; exact wraps
          rw [Ne,← wParked] at unparked
          omega
      have puts := wShaped.placeChar_puts inside ch
      rw [written,show w.baseCol = w.cursorCol by unfold baseCol; omega]
      exact puts
  · by_cases wraps : g.modeFlags.pendingWrap = true ∧ g.modeFlags.noAutowrap = false
    · have first : w.baseCol = 0 := by unfold baseCol; rw [home wraps]; exact Nat.zero_min _
      rw [first]
      exact iff_of_true (by unfold u16Max; omega) (.inl wraps)
    · rw [stays wraps,or_iff_right wraps]
      rfl

/-- A character is printed as it is to be if the columns behind it are counted in
    `u16`, and else the program stops. -/
theorem Shaped.print_iff (shaped : g.Shaped P) {continued : Bool} (known : g.Continues continued) (ch : Char) :
    (∃ h, g.exec (.print ch) = .ok h ∧ g.PrintsOnly continued ch h) ↔ g.PrintFits continued ch := by
  have joins := shaped.joinCol_eq known ch
  change (∃ h, g.writeCharAtCursor ch = .ok h ∧ _) ↔ _
  unfold PrintsOnly PrintFits
  rw [← joins]
  cases found : g.joinCol ch with
  | some col =>
    dsimp only
    obtain ⟨cells,grown,written⟩ := shaped.print_joins found
    rw [written]
    constructor
    · rintro ⟨h,done,_⟩
      by_contra past
      rw [if_neg past] at done
      cases done
    · intro fits
      exact ⟨_,if_pos fits,cells,grown,rfl⟩
  | none =>
    dsimp only
    by_cases dropped : charWidth ch = 0 ∨ g.TooWide ch
    · rw [shaped.print_dropped found dropped]
      refine iff_of_true ⟨_,rfl,?_⟩ (by rcases dropped with mark | wide; exacts [.inl mark,.inr (.inl wide)])
      rw [if_pos dropped]
      rfl
    · obtain ⟨mark,room⟩ := not_or.mp dropped
      obtain ⟨w,wrapped,attrs,link,still,⟨cells,put,done,stops⟩,fits_iff⟩ := shaped.print_places found mark room
      rw [attrs,link] at put
      have condition : charWidth ch = 0 ∨ g.TooWide ch ∨ g.modeFlags.pendingWrap = true ∧ g.modeFlags.noAutowrap = false ∨
          g.baseCol + charWidth ch ≤ u16Max ↔ w.baseCol + charWidth ch ≤ u16Max := by
        rw [or_iff_right mark,or_iff_right room,fits_iff]
      rw [condition]
      constructor
      · rintro ⟨h,ended,_⟩
        by_contra past
        rw [stops past] at ended
        cases ended
      · intro fits
        obtain ⟨h,ended,screens,_⟩ := done fits
        refine ⟨h,ended,?_⟩
        rw [if_neg dropped]
        exact ⟨w,cells,wrapped,still,put,screens⟩

/-- With fewer columns than `u16` counts nothing ends past it. -/
theorem Shaped.printFits (shaped : g.Shaped P) (narrow : g.cols < u16Max) (continued : Bool) (ch : Char) :
    g.PrintFits continued ch := by
  have cols := shaped.hasCols
  have width := charWidth_le ch
  unfold PrintFits
  cases found : g.joinsLeft continued ch with
  | none =>
    refine .inr (.inr (.inr ?_))
    unfold baseCol
    omega
  | some col =>
    have inside : col < g.cols := by
      unfold joinsLeft at found
      split_ifs at found
      obtain ⟨start,left,joined⟩ := Option.bind_eq_some_iff.mp found
      split_ifs at joined
      cases joined
      obtain ⟨target,at_,rfl⟩ := Option.map_eq_some_iff.mp left
      unfold clusterTarget at at_
      have inside := shaped.cursorCol
      have start : clusterCol g.cursorCells target ≤ target := by unfold clusterCol; split_ifs <;> omega
      split_ifs at at_ <;> cases at_ <;> omega
    have old : cellWidth (cellAt g.cursorCells col) ≤ 2 := by unfold cellWidth; split_ifs <;> omega
    have new : g.grownWidth ch col ≤ 2 := Nat.min_le_right _ _
    exact ⟨by omega,fun _ => by omega⟩

/-- What printing does to the cursor: a character that reaches a cell is the last print. -/
theorem Shaped.print_caret (shaped : g.Shaped P) {continued : Bool} (known : g.Continues continued) (ch : Char) :
    Ends (fun h => (g.Dropped continued ch → h.caret = g.caret) ∧
      (¬ g.Dropped continued ch → h.lastPrint = some (h.cursorRow,h.cursorCol))) (fun _ => True) (g.exec (.print ch)) := by
  have joins := shaped.joinCol_eq known ch
  change Ends _ _ (g.writeCharAtCursor ch)
  unfold Dropped
  rw [← joins]
  cases found : g.joinCol ch with
  | some col =>
    obtain ⟨cells,_,written⟩ := shaped.print_joins found
    rw [written]
    split
    · exact ⟨fun both => absurd both.1 (Option.some_ne_none col),fun _ => rfl⟩
    · trivial
  | none =>
    by_cases dropped : charWidth ch = 0 ∨ g.TooWide ch
    · rw [shaped.print_dropped found dropped]
      exact ⟨fun _ => rfl,fun reaches => absurd ⟨rfl,dropped⟩ reaches⟩
    · obtain ⟨mark,room⟩ := not_or.mp dropped
      obtain ⟨w,_,_,_,_,⟨cells,_,done,stops⟩,_⟩ := shaped.print_places found mark room
      by_cases fits : w.baseCol + charWidth ch ≤ u16Max
      · obtain ⟨h,ended,_,last⟩ := done fits
        rw [ended]
        exact ⟨fun both => absurd both.2 dropped,fun _ => last⟩
      · rw [stops fits]
        trivial

end

/-! ## What leaves the cursor alone -/

section

variable {P : Row → Prop} {f g h : Grid}

/-- A handler that leaves the cursor where it is, and what is remembered of the last print. -/
def Stands (g : Grid) (handler : Checked Grid) : Prop := Ends (fun h => h.caret = g.caret) (fun _ => True) handler

theorem edit_caret (g : Grid) {e : Edit} (off : e.OnDisplay ∨ e.OnLines) : (g.edit e).caret = g.caret := by
  cases e with
  | cursor => exact off.elim False.elim False.elim
  | evict top row =>
    obtain ⟨_,same⟩ := g.evict_writes top row
    exact (congrArg caret same).trans rfl
  | preserve =>
    obtain ⟨_,_,_,same⟩ := g.preserve_writes
    exact (congrArg caret same).trans rfl
  | _ => rfl

end

end Grid

/-- Operations that are only called right after the pending wrap was cancelled. -/
def Op.AfterCancel : Op → Bool
  | .newline | .reverseIndex => true
  | op => op.Moves

/-- Operations on the cursor: moves, saves and restores that switch screens, and resets. -/
def Op.OnCursor : Op → Bool
  | .clearPendingWrap | .backspace | .restoreCursor | .softReset | .fullReset => true
  | .decMode mode _ => mode = 1049
  | op => op.AfterCancel

namespace Grid

section
variable [UnicodeWidth] {P : Row → Prop} {g : Grid}

/-- What is no operation on the cursor leaves it alone. -/
theorem exec_stands (g : Grid) {op : Op} (off : op.OnCursor = false) (other : ∀ ch, op ≠ .print ch) : g.Stands (g.exec op) := by
  cases op
  case print ch => exact absurd rfl (other ch)
  case insertChars | deleteChars | eraseChars | eraseLine =>
    exact exec_keeps rfl (fun h _ cells same => (h.edit_caret (.inl (Edit.OnCells.onDisplay cells))).trans same) rfl
  case eraseDisplay => exact exec_keeps rfl (fun h _ display same => (h.edit_caret (.inl display)).trans same) rfl
  case insertLines | deleteLines | scrollUp | scrollDown =>
    exact exec_keeps rfl (fun h _ lines same => (h.edit_caret (.inr lines)).trans same) rfl
  case decMode mode enabled =>
    have other : mode ≠ 1049 := by simpa [Op.OnCursor] using off
    change (g.setDecMode mode enabled).caret = g.caret
    unfold Grid.setDecMode
    split
    case h_9 => exact absurd rfl other
    all_goals rfl
  case osc params bell =>
    obtain ⟨_,_,_,same⟩ := g.handleOsc_writes params bell
    exact (congrArg caret same).trans rfl
  all_goals first
    | exact absurd off Bool.true_eq_false.mp
    | exact rfl

/-- An operation on the cursor leaves no last print that the cursor still stands behind. -/
theorem Shaped.exec_moves (shaped : g.Shaped P) {op : Op} (on : op.OnCursor = true)
    (cancelled : op.AfterCancel = true → g.lastPrint = none) {continued : Bool} (known : g.Continues continued) :
    Ends (·.Continues false) (fun _ => True) (g.exec op) := by
  -- after a cancelled wrap nothing is remembered, and a move does not change that
  have keeps (after : op.AfterCancel = true) (same : Ends (fun h => h.lastPrint = g.lastPrint) (fun _ => True) (g.exec op)) :
      Ends (·.Continues false) (fun _ => True) (g.exec op) := same.mono fun h same => .inl (same.trans (cancelled after))
  cases op
  case backspace =>
    change Grid.Continues _ false
    split_ifs with pending inner
    · exact .inl rfl
    · cases continued with
      | true => exact .inr ⟨g.cursorCol,known,.inl (by dsimp only; omega)⟩
      | false =>
        rcases known with none | ⟨col,found,left | zero⟩
        · exact .inl none
        · exact .inr ⟨col,found,.inl (by dsimp only; omega)⟩
        · omega
    · cases continued with
      | true => exact .inr ⟨g.cursorCol,known,.inr (by omega)⟩
      | false => exact known
  case newline =>
    refine keeps rfl ?_
    change Ends _ _ (g.newlineActionWithWrap .hard)
    rw [newline_eq]
    split
    · rw [shaped.scrollUp_eq]
      exact rfl
    · exact rfl
  case reverseIndex =>
    refine keeps rfl ?_
    change Ends _ _ g.reverseIndex
    rw [shaped.reverseIndex_eq]
    change (if _ then _ else _ : Grid).lastPrint = _
    split <;> rfl
  case tab =>
    refine keeps rfl ?_
    refine Ends.bind (ends_trivial _) fun stop _ => ?_
    dsimp only
    split
    · exact rfl
    · trivial
  case decMode mode enabled =>
    have alternate : mode = 1049 := by simpa [Op.OnCursor] using on
    subst alternate
    cases enabled with
    | true => exact .inl rfl
    | false =>
      refine .inl ?_
      change (g.setAltScreen false).restoreSavedCursor.lastPrint = none
      rw [restoreSavedCursor_eq]
      split <;> rfl
  case restoreCursor =>
    refine .inl ?_
    rw [restoreSavedCursor_eq]
    split <;> rfl
  case clearPendingWrap | softReset | fullReset => exact .inl rfl
  all_goals first
    | exact absurd on Bool.false_ne_true
    | exact keeps rfl rfl

end

end Grid

/-! ## Since the last print -/

/-- Every operation that needs it comes right after the pending wrap was cancelled. -/
def Cancelled : Bool → List Step → Prop
  | _, [] => True
  | cleared, .op op :: steps => (op.AfterCancel = true → cleared = true) ∧ Cancelled (decide (op = .clearPendingWrap)) steps
  | _, .host _ :: steps => Cancelled false steps

theorem Cancelled.of_cleared {cleared : Bool} {steps : List Step} (cancelled : Cancelled false steps) :
    Cancelled cleared steps := by
  cases steps with
  | nil => trivial
  | cons step steps =>
    cases step with
    | op op => exact ⟨fun after => absurd (cancelled.1 after) Bool.false_ne_true,cancelled.2⟩
    | host c => exact cancelled

theorem Cancelled.left {cleared : Bool} {steps more : List Step} (cancelled : Cancelled cleared (steps ++ more)) :
    Cancelled cleared steps := by
  induction steps generalizing cleared with
  | nil => trivial
  | cons step steps ih =>
    cases step with
    | op op => exact ⟨cancelled.1,ih cancelled.2⟩
    | host c => exact @ih false cancelled

/-- No arm of `csi_dispatch` feeds a line. -/
theorem csiOps_feedless (params : List Param) (intermediates : Bytes) (action : Char) :
    (csiOps params intermediates action).Forall fun op => op ≠ .newline ∧ op ≠ .reverseIndex := by
  unfold csiOps
  split
  all_goals
    dsimp only
    repeat' split
    all_goals first
      | exact ⟨Op.noConfusion,Op.noConfusion⟩
      | simp [List.forall_iff_forall_mem]

/-- A callback is one operation after the pending wrap was cancelled, or needs none cancelled. -/
theorem ops_afterCancel (c : Callback) :
    (∃ op, c.ops = [.clearPendingWrap,op]) ∨ ∀ op ∈ c.ops, op.AfterCancel = false := by
  rcases Grid.ops_cases c with moved | still
  · exact .inl moved
  cases c with
  | execute byte =>
    simp only [Callback.ops,Termpane.execute]
    split_ifs
    all_goals simp [Op.AfterCancel,Op.Moves]
  | csiDispatch params intermediates ignore action =>
    refine .inr fun op inside => ?_
    have stays := still op inside
    have feedless : op ≠ .newline ∧ op ≠ .reverseIndex := by
      rcases List.mem_append.mp inside with cleared | dispatched
      · split_ifs at cleared
        · rw [List.mem_singleton.mp cleared]; exact ⟨Op.noConfusion,Op.noConfusion⟩
        · cases cleared
      · exact List.forall_iff_forall_mem.mp (csiOps_feedless _ _ _) op dispatched
    cases op
    case newline => exact absurd rfl feedless.1
    case reverseIndex => exact absurd rfl feedless.2
    all_goals exact stays
  | escDispatch intermediates ignore byte =>
    simp only [Callback.ops,Termpane.escDispatch]
    split_ifs
    all_goals simp [Op.AfterCancel,Op.Moves]
  | _ => exact .inr (by simp [Callback.ops,Op.AfterCancel,Op.Moves])

theorem cancelled_callbacks (cs : List Callback) {steps : List Step} (cancelled : Cancelled false steps) :
    Cancelled false ((cs.flatMap Callback.ops).map .op ++ steps) := by
  induction cs with
  | nil => exact cancelled
  | cons c cs ih =>
    rw [List.flatMap_cons,List.map_append,List.append_assoc]
    rcases ops_afterCancel c with ⟨op,same⟩ | free
    · rw [same]
      exact ⟨fun none => absurd none Bool.false_ne_true,fun _ => rfl,ih.of_cleared⟩
    · generalize c.ops = ops at free
      induction ops with
      | nil => exact ih
      | cons op ops ih' =>
        refine ⟨fun after => ?_,(ih' fun other inside => free other (List.mem_cons_of_mem op inside)).of_cleared⟩
        rw [free op List.mem_cons_self] at after
        cases after

theorem stepsFrom_cancelled [Vte] (s : Vte.State) (pending : Bytes) (run : List Call) : Cancelled false (stepsFrom s pending run) := by
  induction run generalizing s pending with
  | nil => trivial
  | cons call run ih =>
    cases call with
    | process bytes => exact cancelled_callbacks _ (ih _ _)
    | host c => exact ih s pending

section
variable [UnicodeWidth]

/-- A step that needs the pending wrap cancelled finds no last print. -/
def ForgetsFirst (g : Grid) : Step → Prop
  | .op op => op.AfterCancel = true → g.lastPrint = none
  | .host _ => True

theorem Cancelled.meets {steps : List Step} {cleared : Bool} (cancelled : Cancelled cleared steps) {g : Grid}
    (forgotten : cleared = true → g.lastPrint = none) : StepsMeet Grid.take ForgetsFirst g steps := by
  induction steps generalizing cleared g with
  | nil => trivial
  | cons step steps ih =>
    cases step with
    | host c => exact ⟨trivial,fun h taken => @ih false cancelled h fun none => absurd none Bool.false_ne_true⟩
    | op op =>
      refine ⟨fun after => forgotten (cancelled.1 after),fun h taken => ih cancelled.2 fun cleared => ?_⟩
      rw [decide_eq_true_eq] at cleared
      subst cleared
      cases taken
      rfl

/-- Whether no operation on the cursor came after the last character that reached a cell. -/
def noteContinued (g : Grid) : Step → Bool → Bool
  | .op (.print ch), continued => continued || !decide (g.Dropped continued ch)
  | .op op, continued => continued && !op.OnCursor
  | .host (.setSize _ _), _ => false
  | .host _, continued => continued

/-- Whether the last print of a run still stands behind the cursor. -/
def continuedAfter (g : Grid) (steps : List Step) : Bool := noted Grid.take noteContinued g steps false

namespace Grid

variable {P : Row → Prop} {g : Grid}

omit [UnicodeWidth] in
theorem Continues.of_caret {g h : Grid} {continued : Bool} (known : g.Continues continued) (same : h.caret = g.caret) :
    h.Continues continued := by
  have row : h.cursorRow = g.cursorRow := congrArg (·.1.1) same
  have col : h.cursorCol = g.cursorCol := congrArg (·.1.2) same
  have last : h.lastPrint = g.lastPrint := congrArg (·.2) same
  cases continued with
  | true =>
    change h.lastPrint = some (h.cursorRow,h.cursorCol)
    rw [row,col,last]
    exact known
  | false =>
    change h.lastPrint = none ∨ ∃ c, h.lastPrint = some (h.cursorRow,c) ∧ (h.cursorCol < c ∨ h.cursorCol = 0)
    rw [row,col,last]
    exact known

theorem Shaped.exec_continues (shaped : g.Shaped P) {op : Op} {continued : Bool} (forgets : ForgetsFirst g (.op op))
    (known : g.Continues continued) :
    Ends (fun h => h.Continues (noteContinued g (.op op) continued)) (fun _ => True) (g.exec op) := by
  by_cases print : ∃ ch, op = .print ch
  · obtain ⟨ch,rfl⟩ := print
    refine (shaped.print_caret known ch).mono fun h after => ?_
    change h.Continues (continued || !decide (g.Dropped continued ch))
    by_cases dropped : g.Dropped continued ch
    · rw [decide_eq_true dropped,Bool.not_true,Bool.or_false]
      exact known.of_caret (after.1 dropped)
    · rw [decide_eq_false dropped,Bool.not_false,Bool.or_true]
      exact after.2 dropped
  have other (ch : Char) : op ≠ .print ch := fun same => print ⟨ch,same⟩
  have noted : noteContinued g (.op op) continued = (continued && !op.OnCursor) := by
    cases op
    case print ch => exact absurd rfl (other ch)
    all_goals rfl
  rw [noted]
  cases on : op.OnCursor with
  | true =>
    rw [Bool.not_true,Bool.and_false]
    exact shaped.exec_moves on forgets known
  | false =>
    rw [Bool.not_false,Bool.and_true]
    exact (exec_stands _ on other).mono fun h same => known.of_caret same

theorem host_continues {continued : Bool} (known : g.Continues continued) (c : HostCall) :
    (g.host c).Continues (noteContinued g (.host c) continued) := by
  cases c
  case setSize rows cols => exact .inl rfl
  all_goals exact known.of_caret rfl

end Grid

namespace DamageGrid

variable [Vte]

/-- Wherever a run is, a printed character joins the cluster left of the cursor, or
    becomes the base of a cell, or is dropped, and touches nothing but what that takes,
    exactly if the columns behind it are counted in `u16`. -/
theorem prints_only_iff {rows cols : UInt16} (hasRows : 0 < rows) (hasCols : 0 < cols) {scrollbackLimit : Nat} {run : List Call}
    {before after : List Step} {g : Grid} (split : (new rows cols scrollbackLimit).steps run = before ++ after)
    (ran : before.foldlM Grid.take (new rows cols scrollbackLimit).grid = .ok g) (ch : Char) :
    (∃ h, g.exec (.print ch) = .ok h ∧
      g.PrintsOnly (continuedAfter (new rows cols scrollbackLimit).grid before) ch h) ↔
      g.PrintFits (continuedAfter (new rows cols scrollbackLimit).grid before) ch := by
  have shaped := (sound_new (rowOk_law fun _ => True).blank hasRows hasCols scrollbackLimit).grid
  have tame : Tame false (before ++ after) := split ▸ stepsFrom_tame _ _ run
  have cancelled : Cancelled false (before ++ after) := split ▸ stepsFrom_cancelled _ _ run
  have known := (@Grid.Shaped.takes _ _ Grid.Continues noteContinued ForgetsFirst
    (fun _ _ _ shaped _ forgets known => shaped.exec_continues forgets known) (fun _ c _ _ _ known => Grid.host_continues known c)
    _ _ shaped _ (fun none => absurd none Bool.false_ne_true) tame.left
    (cancelled.left.meets fun none => absurd none Bool.false_ne_true) false (.inl rfl)).of_ok ran
  exact known.1.print_iff known.2 ch

end DamageGrid

end

section
attribute [local instance] byteParser blockWidth

/-- `a` and an acute accent, and then `b`. -/
theorem prints_only_accent : ∃ before g,
    (DamageGrid.new 1 3 0).steps [.process [0x61,0xcc,0x81]] = before ++ [] ∧
      before.foldlM Grid.take (DamageGrid.new 1 3 0).grid = .ok g ∧
      ((∃ h, g.exec (.print 'b') = .ok h ∧
        g.PrintsOnly (continuedAfter (DamageGrid.new 1 3 0).grid before) 'b' h) ↔
        g.PrintFits (continuedAfter (DamageGrid.new 1 3 0).grid before) 'b') :=
  ⟨_,_,(List.append_nil _).symm,rfl,DamageGrid.prints_only_iff (by decide) (by decide)
    (show (DamageGrid.new 1 3 0).steps [.process [0x61,0xcc,0x81]] = _ ++ [] from (List.append_nil _).symm) rfl 'b'⟩

/-- `CSI 65535 G` and a wide glyph, in as many columns: the sum behind it leaves `u16`. -/
theorem print_past_u16 : ∃ before g,
    (DamageGrid.new 1 65535 0).steps [.process [0x1b,0x5b,0x36,0x35,0x35,0x33,0x35,0x47]] = before ++ [] ∧
      before.foldlM Grid.take (DamageGrid.new 1 65535 0).grid = .ok g ∧
      ¬ ∃ h, g.exec (.print '中') = .ok h ∧
        g.PrintsOnly (continuedAfter (DamageGrid.new 1 65535 0).grid before) '中' h := by
  have steps : (DamageGrid.new 1 65535 0).steps [.process [0x1b,0x5b,0x36,0x35,0x35,0x33,0x35,0x47]] =
      [.op .clearPendingWrap,.op (.cursorColumn 65535)] ++ [] := rfl
  let g : Grid := { (DamageGrid.new 1 65535 0).grid.clearPendingWrap with cursorCol := 65534 }
  have ran : [.op .clearPendingWrap,.op (.cursorColumn 65535)].foldlM Grid.take (DamageGrid.new 1 65535 0).grid = .ok g := rfl
  have shaped : g.Shaped RowOk := DamageGrid.Visits.shaped (by decide) (by decide) ⟨_,_,steps,ran⟩
  refine ⟨_,g,steps,ran,?_⟩
  change ¬ ∃ h, g.exec (.print '中') = .ok h ∧ g.PrintsOnly false '中' h
  have known : g.Continues false := .inl rfl
  rw [shaped.print_iff known]
  have wide : charWidth '中' = 2 := by decide
  have alone : g.joinsLeft false '中' = none := if_pos ⟨by rw [wide]; decide,rfl⟩
  have base : g.baseCol = 65534 := rfl
  unfold Grid.PrintFits
  rw [alone]
  dsimp only
  rw [wide,base]
  rintro (mark | ⟨clips,_⟩ | ⟨pending,_⟩ | fits)
  · cases mark
  · exact absurd clips Bool.false_ne_true
  · exact absurd pending Bool.false_ne_true
  · exact absurd fits (by decide)

end

end Termpane
