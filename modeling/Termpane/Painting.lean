import Termpane.Repaint
import Termpane.Strokes

/-!
# Painting a row

The loop of both row painters, over a destination that shows the row before the change: a
full paint is the case of a blank row. Writing a cell may blank cells right of it; each
of these is due to be written, and what is left of the loop's column shows the row.
-/
namespace Termpane

open Lib

/-- What a row looks like once it was repainted: a continuation carries what its lead carries. -/
def mirrored (row : Row) (j : Nat) : Cell :=
  if (cellAt row j).isWideContinuation then .continuationOf (cellAt row (j - 1)).attrs none else (cellAt row j).face

/-- No half of a wide pair. -/
structure Cell.Single (c : Cell) : Prop where
  narrow : c.isWide = false
  alone : c.isWideContinuation = false

theorem single_default : (default : Cell).Single := ⟨rfl,rfl⟩
theorem single_blankOn (background : Color) : (Cell.blankOn background).Single := ⟨rfl,rfl⟩

section
variable {row : Row} {j : Nat}

theorem mirrored_of_alone (alone : (cellAt row j).isWideContinuation = false) : mirrored row j = (cellAt row j).face := by
  unfold mirrored
  rw [alone]
  rfl

theorem mirrored_of_continuation (second : (cellAt row j).isWideContinuation = true) :
    mirrored row j = .continuationOf (cellAt row (j - 1)).attrs none := if_pos second

theorem mirrored_isWideContinuation : (mirrored row j).isWideContinuation = (cellAt row j).isWideContinuation := by
  unfold mirrored
  split_ifs with second
  · exact second.symm
  · rfl

theorem RowOk.continuation_narrow (ok : RowOk row) (second : (cellAt row j).isWideContinuation = true) :
    (cellAt row j).isWide = false := by
  cases wide : (cellAt row j).isWide with
  | false => rfl
  | true => exact absurd ⟨wide,second⟩ (ok.exclusive j)

theorem RowOk.mirrored_isWide (ok : RowOk row) : (mirrored row j).isWide = (cellAt row j).isWide := by
  unfold mirrored
  split_ifs with second
  · exact (ok.continuation_narrow second).symm
  · rfl

theorem RowOk.mirrored_contents (ok : RowOk row) : (mirrored row j).contents = (cellAt row j).contents := by
  unfold mirrored
  split_ifs with second
  · exact ((ok.cells j).continuation second).symm
  · rfl

/-- A blank cell is what an erase in its own attributes leaves. -/
theorem RowOk.mirrored_blank (ok : RowOk row) (empty : (cellAt row j).contents = [])
    (alone : (cellAt row j).isWideContinuation = false) : mirrored row j = .blankOn (cellAt row j).attrs.background := by
  have narrow : (cellAt row j).isWide = false := by
    cases wide : (cellAt row j).isWide with
    | false => rfl
    | true => exact absurd empty ((ok.cells j).lead wide).2
  obtain ⟨attrs,_⟩ := (ok.cells j).blank empty alone
  rw [mirrored_of_alone alone]
  generalize cellAt row j = c at *
  obtain ⟨contents,isWide,isWideContinuation,cellAttrs,hyperlink⟩ := c
  cases empty
  cases narrow
  cases alone
  exact congrArg (fun attrs => ({ attrs := attrs } : Cell)) attrs

/-- A cell that is not a continuation stands right of no lead. -/
theorem RowOk.alone_of_narrow (ok : RowOk row) (narrow : 0 < j → (cellAt row (j - 1)).isWide = false) :
    (cellAt row j).isWideContinuation = false := by
  by_cases first : j = 0
  · rw [first]
    exact ok.first
  by_cases inside : j < row.length
  · have pair := ok.pairs (j - 1) (by omega)
    rw [show j - 1 + 1 = j by omega] at pair
    rw [pair]
    exact narrow (by omega)
  · rw [cellAt_outside (by omega)]
    rfl

end

/-! ## The row being painted -/

section
variable [UnicodeWidth]

/-- The row is one of the screen's, and the row above it is painted already. -/
structure RowCtx.Sits (s : Settings) (ctx : RowCtx) (k : Canvas) : Prop where
  row : ctx.row < s.rows
  cols : ctx.cols = s.cols
  width : ctx.cells.length = s.cols
  ok : EachCell Cell.Filled ctx.cells
  sized : ∀ j, HasWidth (cellAt ctx.cells j).contents
  above : 0 < ctx.row → ∃ row, ctx.prevRow = some row ∧ row.length = s.cols ∧ RowOk row ∧
    ∀ j, j < s.cols → k.lines (ctx.row - 1) j = mirrored row j

omit [UnicodeWidth] in
/-- What holds of the destination where the brush has come. -/
structure Brush.Tracks (brush : Brush) (k : Canvas) : Prop where
  pos : k.pos = brush.prevPos
  pen : k.pen = brush.prevAttrs

variable {s : Settings} {ctx : RowCtx} {before : Row} {k k₀ : Canvas} {p : Painter} {c : Nat}

omit [UnicodeWidth] in
/-- Why a column will be written: it changed, or the cell left of it is written over it. -/
def Due (ctx : RowCtx) (before : Row) (p : Painter) (c j : Nat) : Prop :=
  cellAt ctx.cells j ≠ cellAt before j ∨ (j = c ∧ p.repaintNext = true) ∨
    (c < j ∧ (cellAt ctx.cells j).isWideContinuation = true)

omit [UnicodeWidth] in
/-- What holds of the destination `k` before column `c`'s turn, if it was `k₀` before the row. -/
structure Progress (s : Settings) (ctx : RowCtx) (before : Row) (k₀ : Canvas) (c : Nat) (p : Painter) (k : Canvas) : Prop where
  tracks : p.brush.Tracks k
  others : ∀ i, i ≠ ctx.row → k.lines i = k₀.lines i
  /-- The columns of the run are blanks of its attributes. -/
  run : ∀ run ∈ p.erase, run.1 < c ∧ ∀ j, run.1 ≤ j → j < c →
    (cellAt ctx.cells j).contents = [] ∧ (cellAt ctx.cells j).isWideContinuation = false ∧ (cellAt ctx.cells j).attrs = run.2
  done : ∀ j, j < (p.erase.elim c (·.1)) → k.lines ctx.row j = mirrored ctx.cells j
  wide : p.prevWasWide = (decide (0 < c) && (cellAt ctx.cells (c - 1)).isWide)
  second : p.prevWasWide = true →
    p.erase = none ∧ p.repaintNext = false ∧ (c < s.cols → k.lines ctx.row c = mirrored ctx.cells c)
  rest : ∀ j, c ≤ j → j < s.cols → (p.prevWasWide = true → j ≠ c) →
    k.lines ctx.row j = mirrored before j ∨ (k.lines ctx.row j).Single ∧ Due ctx before p c j

/-! ## Moves -/

omit [UnicodeWidth] in
theorem joins_iff_of_wide [UnicodeWidth] {ch : Char} (wide : charWidth ch ≠ 0) {cluster : List Char} :
    Joins ch cluster → endsWithZwj cluster = true := fun joins => joins.2.2.resolve_left wide

theorem clear_of_forgotten (forgotten : k.last = none) : k.Clear s := fun ch wide => by
  unfold Canvas.joinCol
  rw [if_pos ⟨wide,by simp [forgotten]⟩]

/-- A cluster that does not end in a joiner is joined by no character with a width. -/
theorem clear_of_joint (final : ∀ col, k.joint s = some col → endsWithZwj (k.line col).contents = false) : k.Clear s := by
  intro ch wide
  unfold Canvas.joinCol
  split_ifs
  · rfl
  · cases found : k.joint s with
    | none => rfl
    | some col =>
      refine if_neg fun joins => ?_
      have ends := joins_iff_of_wide wide joins
      rw [final col found] at ends
      cases ends

/-- Where the cursor is ready for the content of column `col` of row `row`. -/
structure Canvas.ReadyAt (s : Settings) (k : Canvas) (row col : Nat) : Prop where
  base : k.base s = ⟨row,col⟩
  clear : k.Clear s

theorem readyAt_moved (pos : Pos) (col : pos.col < s.cols) : (k.moved pos).ReadyAt s pos.row pos.col :=
  ⟨if_pos col,clear_of_forgotten rfl⟩

omit [UnicodeWidth] in
theorem naturalWrap_eq (row : k.pos.row < u16Max) {pos : Pos} : naturalWrap ctx pos k.pos =
    .ok (decide (ctx.wrapping = true ∧ k.pos.row + 1 = pos.row ∧ k.pos.col ≥ ctx.cols ∧ pos.col = 0)) := by
  unfold naturalWrap
  cases ctx.wrapping with
  | false => simp
  | true => simp [add16_ok (show k.pos.row + 1 ≤ u16Max from row)]

/-- The pending wrap of the row above takes the cursor to the start of the row. -/
theorem readyAt_wrap (hasCols : 0 < s.cols) (sits : ctx.Sits s k) (below : k.pos.row + 1 = ctx.row) (parked : k.pos.col ≥ s.cols)
    (safe : ctx.prevRow.any zwjWrapHazard = false) : k.ReadyAt s ctx.row 0 := by
  refine ⟨?_,clear_of_joint fun col found => ?_⟩
  · unfold Canvas.base
    rw [if_neg (by omega),below]
  · obtain ⟨row,isAbove,length,ok,shown⟩ := sits.above (by omega)
    unfold Canvas.joint at found
    rw [if_pos parked,Option.map_some,Option.some.injEq] at found
    have line (j : Nat) (inside : j < s.cols) : k.line j = mirrored row j := by
      rw [← shown j inside,show ctx.row - 1 = k.pos.row by omega]
      rfl
    rw [isAbove] at safe
    change zwjWrapHazard row = false at safe
    have last : row.getLast? = some (cellAt row (s.cols - 1)) := by
      rw [List.getLast?_eq_getElem?,length,cellAt_inside (by omega)]
      exact List.getElem?_eq_getElem (by omega)
    unfold zwjWrapHazard at safe
    rw [last] at safe
    dsimp only at safe
    have final : (k.line (s.cols - 1)).isWideContinuation = (cellAt row (s.cols - 1)).isWideContinuation := by
      rw [line _ (by omega),mirrored_isWideContinuation]
    unfold Canvas.clusterCol at found
    rw [final] at found
    rw [length] at safe
    by_cases second : (cellAt row (s.cols - 1)).isWideContinuation = true ∧ 2 ≤ s.cols
    · rw [if_pos ⟨second.1,by omega⟩] at found
      rw [if_pos second] at safe
      rw [← found,line _ (by omega),ok.mirrored_contents]
      exact safe
    · rw [if_neg fun pair => second ⟨pair.1,by omega⟩] at found
      rw [if_neg second] at safe
      rw [← found,line _ (by omega),ok.mirrored_contents]
      exact safe

/-- A row above or left of the cursor that does not end in a joiner needs no jog. -/
theorem readyAt_here (sits : ctx.Sits s k) (inside : c < s.cols) (here : k.pos = ⟨ctx.row,c⟩)
    (done : ∀ j, j < c → k.lines ctx.row j = mirrored ctx.cells j) (safe : zwjJoinHazard ctx.cells c = .ok false) :
    k.ReadyAt s ctx.row c := by
  have line (j : Nat) (left : j < c) : k.line j = mirrored ctx.cells j := by
    unfold Canvas.line
    rw [here]
    exact done j left
  refine ⟨by unfold Canvas.base; rw [here]; exact if_pos inside,clear_of_joint fun col found => ?_⟩
  unfold Canvas.joint at found
  rw [here,if_neg (show ¬ c ≥ s.cols by omega)] at found
  dsimp only at found
  split_ifs at found with some
  · rw [Option.map_some,Option.some.injEq] at found
    have width := sits.width
    unfold zwjJoinHazard at safe
    rw [if_neg (by omega),at?_cellAt (by omega),ok_bind] at safe
    have final : (k.line (c - 1)).isWideContinuation = (cellAt ctx.cells (c - 1)).isWideContinuation := by
      rw [line _ (by omega),mirrored_isWideContinuation]
    unfold Canvas.clusterCol at found
    rw [final] at found
    by_cases second : (cellAt ctx.cells (c - 1)).isWideContinuation = true ∧ c ≥ 2
    · rw [if_pos ⟨second.1,by omega⟩] at found
      rw [if_pos second,at?_cellAt (by omega)] at safe
      rw [← found,line _ (by omega),sits.ok.ok.mirrored_contents,show c - 1 - 1 = c - 2 by omega]
      exact Except.ok.inj safe
    · rw [if_neg fun pair => second ⟨pair.1,by omega⟩] at found
      rw [if_neg second] at safe
      rw [← found,line _ (by omega),sits.ok.ok.mirrored_contents]
      exact Except.ok.inj safe
  · cases found

/-- Before content is written at a column the cursor is brought there, or is left where
    the pending wrap takes it there, and so that nothing joins what is left of it. -/
theorem contentMove_paints (opened : s.Open) (sound : k.Sound s) (sits : ctx.Sits s k) (inside : c < s.cols)
    (done : ∀ j, j < c → k.lines ctx.row j = mirrored ctx.cells j) :
    Paints s (writeContentMove ctx ⟨ctx.row,c⟩ k.pos) k fun _ k' =>
      k'.ReadyAt s ctx.row c ∧ k'.lines = k.lines ∧ k'.pen = k.pen := by
  have rowFits : k.pos.row < u16Max := Nat.lt_of_lt_of_le sound.row sound.rowsFit
  have moved : (k.moved ⟨ctx.row,c⟩).ReadyAt s ctx.row c := readyAt_moved ⟨ctx.row,c⟩ inside
  unfold writeContentMove
  split_ifs with other
  · refine Paints.lift_bind (naturalWrap_eq rowFits) ?_
    split_ifs with quiet wraps
    · obtain ⟨wraps,safe⟩ := quiet
      obtain ⟨_,below,parked,first⟩ := of_decide_eq_true wraps
      change c = 0 at first
      subst first
      exact paints_pure ⟨readyAt_wrap sound.hasCols sits below (sits.cols ▸ parked) safe,rfl,rfl⟩
    · refine (moveTo_paints _ sound sits.row inside).mono fun _ k' _ same => ?_
      rw [same]
      exact ⟨moved,rfl,rfl⟩
    · refine (moveFromTo_paints _ opened sound sits.row fun _ => inside).mono fun _ k' _ same => ?_
      rw [if_neg other] at same
      rw [same]
      exact ⟨moved,rfl,rfl⟩
  · have here : k.pos = ⟨ctx.row,c⟩ := (not_not.mp other).symm
    obtain ⟨hazard,hazardEq⟩ := zwjJoinHazard_ok (show c < ctx.cells.length by rw [sits.width]; exact inside)
    refine Paints.lift_bind hazardEq ?_
    split_ifs with joins
    · refine (moveTo_paints _ sound sits.row inside).mono fun _ k' _ same => ?_
      rw [same]
      exact ⟨moved,rfl,rfl⟩
    · rw [Bool.not_eq_true] at joins
      rw [joins] at hazardEq
      exact paints_pure ⟨readyAt_here sits inside here done hazardEq,rfl,rfl⟩

/-! ## The run of blanks -/

omit [UnicodeWidth] in
theorem Progress.alone (progress : Progress s ctx before k₀ c p k) (ok : RowOk ctx.cells) (narrow : p.prevWasWide = false) :
    (cellAt ctx.cells c).isWideContinuation = false := by
  refine ok.alone_of_narrow fun some => ?_
  have wide := progress.wide
  rw [narrow,decide_eq_true some,Bool.true_and] at wide
  exact wide.symm

omit [UnicodeWidth] in
/-- A column that shows half of a pair which the row no longer has there is due. -/
theorem Progress.due_of_continuation (progress : Progress s ctx before k₀ c p k) {j : Nat} (after : c ≤ j) (inside : j < s.cols)
    (other : p.prevWasWide = true → j ≠ c) (second : (k.lines ctx.row j).isWideContinuation = true)
    (alone : (cellAt ctx.cells j).isWideContinuation = false) : cellAt ctx.cells j ≠ cellAt before j := by
  rcases progress.rest j after inside other with same | ⟨single,_⟩
  · intro equal
    rw [same,mirrored_isWideContinuation,← equal,alone] at second
    cases second
  · rw [single.alone] at second
    cases second

/-- The run is erased up to the loop's column, or to the end of the row. -/
theorem Progress.flush (opened : s.Open) (sound : k.Sound s) (sits : ctx.Sits s k) (progress : Progress s ctx before k₀ c p k)
    (narrow : p.prevWasWide = false) {endCol : Option Nat} (stop : endCol = some c ∧ c < s.cols ∨ endCol = none ∧ c = s.cols) :
    Paints s (flushEraseRun p.erase ctx.row endCol p.brush) k fun b k' =>
      Progress s ctx before k₀ c { p with brush := b, erase := none } k' := by
  have ok := sits.ok.ok
  have pending := progress.run
  have done := progress.done
  unfold flushEraseRun
  cases erase : p.erase with
  | none =>
    rw [erase] at done
    exact paints_pure { progress with run := fun _ none => (nomatch none), second := fun wide => absurd (narrow ▸ wide) Bool.false_ne_true,
                                      done := done }
  | some run =>
    rw [erase] at pending done
    obtain ⟨start,attrs⟩ := run
    obtain ⟨before_c,blanks⟩ := pending _ rfl
    dsimp only [Option.elim_some] at before_c blanks done ⊢
    have inside : start < s.cols := by omega
    rw [← progress.tracks.pos]
    refine (moveFromTo_paints _ opened sound sits.row fun _ => inside).bind fun _ k₁ _ moved => ?_
    have pos : k₁.pos = ⟨ctx.row,start⟩ := by
      rw [moved]
      split_ifs with same
      · exact same.symm
      · rfl
    have lines : k₁.lines = k.lines := by
      rw [moved]
      split_ifs <;> rfl
    have pen : k₁.pen = p.brush.prevAttrs := by
      rw [moved]
      split_ifs <;> exact progress.tracks.pen
    clear moved
    refine (setAttrs_paints ⟨⟨ctx.row,start⟩,p.brush.prevAttrs⟩ pen attrs).bind fun b k₂ sound₂ drawn => ?_
    obtain ⟨rfl,set⟩ := drawn
    have pos₂ : k₂.pos = ⟨ctx.row,start⟩ := by rw [set]; exact pos
    have lines₂ : k₂.lines = k.lines := by rw [set]; exact lines
    have pen₂ : k₂.pen = attrs := by rw [set]
    have row₂ : k₂.pos.row = ctx.row := by rw [pos₂]
    have line₂ : k₂.line = k.lines ctx.row := by
      unfold Canvas.line
      rw [row₂,lines₂]
    clear set
    -- what the erase leaves, wherever it stops
    have erased : Progress s ctx before k₀ c { p with brush := ⟨⟨ctx.row,start⟩,attrs⟩, erase := none }
        (k₂.erased s c) := by
      have shown (j : Nat) : (k₂.erased s c).lines ctx.row j =
          if j < s.cols ∧ Canvas.Cuts (k.lines ctx.row) start c j then .blankOn attrs.background else k.lines ctx.row j := by
        unfold Canvas.erased
        rw [row₂,Canvas.withLine_same,line₂,pen₂,pos₂]
      have whole : (k.lines ctx.row start).isWideContinuation = false := by
        have blank := blanks start (Nat.le_refl _) before_c
        by_cases first : start = 0
        · rw [first]
          exact sound.first ctx.row
        · have pair := sound.pairs ctx.row (start - 1) (by omega)
          have pair' := ok.pairs (start - 1) (by rw [sits.width]; omega)
          rw [show start - 1 + 1 = start by omega] at pair pair'
          rw [pair,done (start - 1) (by omega),ok.mirrored_isWide,← pair',blank.2.1]
      refine ⟨⟨?_,pen₂⟩,fun i other => ?_,fun _ none => (nomatch none),fun j left => ?_,progress.wide,
        fun wide => absurd (narrow ▸ wide) Bool.false_ne_true,fun j after bound other => ?_⟩
      · unfold Canvas.erased
        exact pos₂
      · unfold Canvas.erased
        rw [row₂,Canvas.withLine_other _ other,lines₂]
        exact progress.others i other
      · change j < c at left
        rw [shown]
        by_cases right : start ≤ j
        · obtain ⟨empty,alone,same⟩ := blanks j right left
          rw [if_pos ⟨by omega,.inl ⟨right,left⟩⟩,ok.mirrored_blank empty alone,same]
        · rw [if_neg]
          · exact done j (by omega)
          · rintro ⟨_,⟨right',_⟩ | ⟨_,second⟩ | ⟨same,_⟩⟩
            · exact right right'
            · rw [whole] at second
              cases second
            · omega
      · rw [shown]
        split_ifs with cut
        · rcases cut.2 with ⟨_,left⟩ | ⟨same,_⟩ | ⟨same,_,lead⟩
          · omega
          · omega
          · have pair := sound.pairs ctx.row (c - 1) (by omega)
            rw [show c - 1 + 1 = c by omega,lead] at pair
            have due := progress.due_of_continuation (Nat.le_refl c) (by omega)
              (fun wide => absurd (narrow ▸ wide) Bool.false_ne_true)
              pair (progress.alone ok narrow)
            rw [same]
            exact .inr ⟨single_blankOn _,.inl due⟩
        · exact progress.rest j after bound other
    rcases stop with ⟨rfl,_⟩ | ⟨rfl,isEnd⟩
    · dsimp only
      refine Paints.lift_bind (sub_ok (Nat.le_of_lt before_c)) ?_
      have col : k₂.pos.col = start := by rw [pos₂]
      have stop : k₂.pos.col + (c - start) = c := by omega
      refine (eraseChars_paints sound₂ (by omega) (by omega)).bind fun _ k₃ _ same => paints_pure ?_
      rw [same,stop]
      exact erased
    · dsimp only
      have col : k₂.pos.col < s.cols := by rw [pos₂]; exact inside
      refine (eraseLine_paints col).bind fun _ k₃ _ same => paints_pure ?_
      rw [same,← isEnd]
      exact erased

/-! ## Contents -/

/-- The cells that are told to blank the column right of them are those that do, where it matters. -/
structure Narrows (s : Settings) (ctx : RowCtx) (before : Row) (narrows : Cell → Bool) : Prop where
  wide : ∀ c : Cell, c.isWide = true → narrows c = false
  swells : ∀ j, j + 1 < s.cols → (cellAt ctx.cells j).contents ≠ [] → (cellAt ctx.cells j).isWide = false →
    Swells (cellAt ctx.cells j).contents → narrows (cellAt ctx.cells j) = true ∨ mirrored before (j + 1) = default

theorem readyAt_pen {row col : Nat} (ready : k.ReadyAt s row col) (pen : Attrs) :
    ({ k with pen := pen } : Canvas).ReadyAt s row col :=
  ⟨ready.base,ready.clear⟩

omit [UnicodeWidth] in
theorem Progress.whole (progress : Progress s ctx before k₀ c p k) (sound : k.Sound s) (ok : RowOk ctx.cells)
    (narrow : p.prevWasWide = false) (flushed : p.erase = none) (inside : c < s.cols) :
    (k.lines ctx.row c).isWideContinuation = false := by
  have done := progress.done
  rw [flushed] at done
  by_cases first : c = 0
  · rw [first]
    exact sound.first ctx.row
  · have pair := sound.pairs ctx.row (c - 1) (by omega)
    have wide := progress.wide
    rw [narrow,decide_eq_true (by omega),Bool.true_and] at wide
    rw [show c - 1 + 1 = c by omega] at pair
    rw [pair,done (c - 1) (by change c - 1 < c; omega),ok.mirrored_isWide,← wide]

/-- After a cluster was printed at the loop's column, the columns it may have blanked are due. -/
theorem Progress.stamped (sound : k.Sound s) (sits : ctx.Sits s k) (progress : Progress s ctx before k₀ c p k)
    (narrow : p.prevWasWide = false) {narrows : Cell → Bool} (honest : Narrows s ctx before narrows)
    (filled : (cellAt ctx.cells c).contents ≠ []) {line : Nat → Cell}
    (stamped : Canvas.Stamped s.cols (k.lines ctx.row) c (cellAt ctx.cells c).contents (cellAt ctx.cells c).attrs line)
    {b : Brush} {j : Nat} (after : c < j) (bound : j < s.cols) (other : (cellAt ctx.cells c).isWide = true → j ≠ c + 1) :
    line j = mirrored before j ∨ (line j).Single ∧ Due ctx before
      { brush := b, prevWasWide := (cellAt ctx.cells c).isWide, repaintNext := narrows (cellAt ctx.cells c) } (c + 1) j := by
  have ok := sits.ok.ok
  have width := sits.width
  obtain ⟨printed,isWide⟩ := sits.ok.each c filled
  have skips (i : Nat) (right : c < i) : p.prevWasWide = true → i ≠ c := fun wide => absurd (narrow ▸ wide) Bool.false_ne_true
  have apart : ¬ (j = c + 1 ∧ glyphWidth (cellAt ctx.cells c).contents > 1) := fun both =>
    other (isWide.trans (decide_eq_true both.2)) both.1
  -- a column that showed the second half of a pair, of which the first is gone
  have cut (i : Nat) (right : c ≤ i) (bound : i + 1 < s.cols) (lead : (k.lines ctx.row i).isWide = true)
      (alone : (cellAt ctx.cells (i + 1)).isWideContinuation = false) : cellAt ctx.cells (i + 1) ≠ cellAt before (i + 1) :=
    progress.due_of_continuation (by omega) bound (skips _ (by omega)) ((sound.pairs ctx.row i bound).trans lead) alone
  have next (bound : c + 1 < s.cols) : (cellAt ctx.cells (c + 1)).isWideContinuation = (cellAt ctx.cells c).isWide :=
    ok.pairs c (by omega)
  rcases stamped.right j after bound apart with same | ⟨blank,⟨rfl,why⟩ | ⟨rfl,_,lead⟩⟩
  · rw [same]
    rcases progress.rest j (by omega) bound (skips j after) with shown | ⟨single,changed | ⟨here,_⟩ | ⟨_,second⟩⟩
    · exact .inl shown
    · exact .inr ⟨single,.inl changed⟩
    · omega
    · by_cases isNext : j = c + 1
      · rw [isNext,next (by omega)] at second
        exact absurd isNext (other second)
      · exact .inr ⟨single,.inr (.inr ⟨by omega,second⟩)⟩
  · have narrowHere : (cellAt ctx.cells c).isWide = false := by
      cases wide : (cellAt ctx.cells c).isWide with
      | false => rfl
      | true => exact absurd rfl (other wide)
    rw [blank]
    rcases why with lead | swells
    · exact .inr ⟨single_default,.inl (cut c (Nat.le_refl _) bound lead ((next bound).trans narrowHere))⟩
    · rcases honest.swells c bound filled narrowHere swells with told | blank
      · exact .inr ⟨single_default,.inr (.inl ⟨rfl,told⟩)⟩
      · exact .inl blank.symm
  · rw [blank]
    refine .inr ⟨single_default,?_⟩
    cases second : (cellAt ctx.cells (c + 2)).isWideContinuation with
    | true => exact .inr (.inr ⟨by omega,second⟩)
    | false => exact .inl (cut (c + 1) (by omega) bound lead second)

theorem Progress.contents (opened : s.Open) (few : s.cols < u16Max) (sound : k.Sound s) (sits : ctx.Sits s k)
    (progress : Progress s ctx before k₀ c p k) (narrow : p.prevWasWide = false) (flushed : p.erase = none) (inside : c < s.cols)
    {narrows : Cell → Bool} (honest : Narrows s ctx before narrows) (filled : (cellAt ctx.cells c).contents ≠ []) :
    Paints s (paintContents ctx p.brush c (cellAt ctx.cells c)) k fun b k' => Progress s ctx before k₀ (c + 1)
      { brush := b, prevWasWide := (cellAt ctx.cells c).isWide, repaintNext := narrows (cellAt ctx.cells c) } k' := by
  have ok := sits.ok.ok
  have width := sits.width
  have alone := progress.alone ok narrow
  obtain ⟨printed,isWide⟩ := sits.ok.each c filled
  have whole := progress.whole sound ok narrow flushed inside
  have done := progress.done
  rw [flushed] at done
  change ∀ j, j < c → _ at done
  unfold paintContents
  rw [← progress.tracks.pos]
  refine (contentMove_paints opened sound sits inside done).bind fun _ k₁ _ moved => ?_
  obtain ⟨ready,lines,pen⟩ := moved
  refine (setAttrs_paints _ (pen.trans progress.tracks.pen) _).bind fun b k₂ _ set => ?_
  obtain ⟨rfl,rfl⟩ := set
  have ready := readyAt_pen ready (cellAt ctx.cells c).attrs
  have base := ready.base
  generalize atPen : ({ k₁ with pen := (cellAt ctx.cells c).attrs } : Canvas) = k₂ at ready base
  have lines₂ : k₂.lines = k.lines := by rw [← atPen]; exact lines
  have pen₂ : k₂.pen = (cellAt ctx.cells c).attrs := by rw [← atPen]
  have room : (k₂.base s).row < s.rows := by rw [base]; exact sits.row
  have single : (k₂.lines (k₂.base s).row (k₂.base s).col).isWideContinuation = false := by rw [base,lines₂]; exact whole
  refine (cluster_paints opened few ready.clear room single printed (sits.sized c)).bind fun _ k₃ _ stroke => ?_
  rw [base] at stroke
  obtain ⟨pen₃,pos₃,_,others,stamped⟩ := stroke
  dsimp only at pos₃ others stamped
  rw [pen₂,lines₂] at stamped
  have gw := printed.width (sits.sized c)
  have gw' := glyphWidth_le (cellAt ctx.cells c).contents
  refine Paints.lift_bind (add16_ok (by omega)) (Paints.lift_bind (add16_ok (by split <;> omega)) (paints_pure ?_))
  refine ⟨⟨?_,pen₃.trans pen₂⟩,fun i other => ?_,fun _ none => (nomatch none),fun j left => ?_,?_,fun wide => ?_,
    fun j after bound other => ?_⟩
  · rw [pos₃,sits.cols,isWide]
    congr 1
    simp only [decide_eq_true_eq]
    split_ifs <;> omega
  · rw [others i other,lines₂]
    exact progress.others i other
  · change j < c + 1 at left
    by_cases here : j = c
    · rw [here,stamped.here,mirrored_of_alone alone,← isWide]
      exact (congrArg (fun flag => ({ (cellAt ctx.cells c).face with isWideContinuation := flag } : Cell)) alone).symm
    · rw [stamped.left j (by omega)]
      exact done j (by omega)
  · simp
  · change (cellAt ctx.cells c).isWide = true at wide
    refine ⟨rfl,honest.wide _ wide,fun next => ?_⟩
    have second : (cellAt ctx.cells (c + 1)).isWideContinuation = true := (ok.pairs c (by omega)).trans wide
    rw [stamped.second next (of_decide_eq_true (isWide.symm.trans wide)),mirrored_of_continuation second]
    rfl
  · exact progress.stamped sound sits narrow honest filled stamped after bound other

/-! ## Turns -/

omit [UnicodeWidth] in
/-- The column right of a lead was written with it. -/
theorem Progress.skip (progress : Progress s ctx before k₀ c p k) (ok : RowOk ctx.cells) (width : ctx.cells.length = s.cols)
    (wide : p.prevWasWide = true) (inside : c < s.cols) :
    Progress s ctx before k₀ (c + 1) { p with prevWasWide := false } k := by
  obtain ⟨flushed,quiet,shown⟩ := progress.second wide
  have isWide := progress.wide
  rw [wide] at isWide
  obtain ⟨some,lead⟩ := Bool.and_eq_true_iff.mp isWide.symm
  have some := of_decide_eq_true some
  have second : (cellAt ctx.cells c).isWideContinuation = true := by
    have pair := ok.pairs (c - 1) (by omega)
    rw [show c - 1 + 1 = c by omega,lead] at pair
    exact pair
  have narrow := ok.continuation_narrow second
  have done := progress.done
  rw [flushed] at done
  refine ⟨progress.tracks,progress.others,fun run pending => ?_,fun j left => ?_,?_,fun none => (nomatch none),
    fun j after bound _ => ?_⟩
  · rw [show ({ p with prevWasWide := false } : Painter).erase = none from flushed] at pending
    cases pending
  · rw [show ({ p with prevWasWide := false } : Painter).erase = none from flushed] at left
    change j < c + 1 at left
    by_cases here : j = c
    · rw [here]
      exact shown inside
    · exact done j (by change j < c; omega)
  · rw [Nat.add_sub_cancel,narrow,Bool.and_false]
  · rcases progress.rest j (by omega) bound (fun _ => by omega) with same | ⟨single,changed | ⟨here,_⟩ | ⟨right,continues⟩⟩
    · exact .inl same
    · exact .inr ⟨single,.inl changed⟩
    · omega
    · refine .inr ⟨single,.inr (.inr ⟨?_,continues⟩)⟩
      by_contra next
      rw [show j = c + 1 by omega,ok.pairs c (by omega),narrow] at continues
      cases continues

omit [UnicodeWidth] in
/-- What is known right of a column that was left to the run, or as it was. -/
theorem Progress.rest_next (progress : Progress s ctx before k₀ c p k) (narrow : p.prevWasWide = false) (ok : RowOk ctx.cells)
    (width : ctx.cells.length = s.cols) {q : Painter} {j : Nat} (after : c + 1 ≤ j) (bound : j < s.cols)
    (other : (cellAt ctx.cells c).isWide = true → j ≠ c + 1) :
    k.lines ctx.row j = mirrored before j ∨ (k.lines ctx.row j).Single ∧ Due ctx before q (c + 1) j := by
  rcases progress.rest j (by omega) bound (fun wide => absurd (narrow ▸ wide) Bool.false_ne_true) with
    same | ⟨single,changed | ⟨here,_⟩ | ⟨_,continues⟩⟩
  · exact .inl same
  · exact .inr ⟨single,.inl changed⟩
  · omega
  · refine .inr ⟨single,.inr (.inr ⟨?_,continues⟩)⟩
    by_contra next
    rw [show j = c + 1 by omega,ok.pairs c (by omega)] at continues
    exact other continues (by omega)

omit [UnicodeWidth] in
/-- A blank is left to the run, which begins or goes on. -/
theorem Progress.blank (progress : Progress s ctx before k₀ c p k) (ok : RowOk ctx.cells) (width : ctx.cells.length = s.cols)
    (narrow : p.prevWasWide = false) (empty : (cellAt ctx.cells c).contents = [])
    (goesOn : ∀ run ∈ p.erase, (cellAt ctx.cells c).attrs = run.2) :
    Progress s ctx before k₀ (c + 1)
      { brush := p.brush, erase := p.erase.or (some (c,(cellAt ctx.cells c).attrs)), prevWasWide := (cellAt ctx.cells c).isWide } k := by
  have alone := progress.alone ok narrow
  have isNarrow : (cellAt ctx.cells c).isWide = false := by
    cases wide : (cellAt ctx.cells c).isWide with
    | false => rfl
    | true => exact absurd empty ((ok.cells c).lead wide).2
  have pending := progress.run
  have done := progress.done
  have flag : (cellAt ctx.cells c).isWide = (decide (0 < c + 1) && (cellAt ctx.cells (c + 1 - 1)).isWide) := by simp
  have rest := fun j after bound other => progress.rest_next narrow ok width
    (q := { brush := p.brush, erase := p.erase.or (some (c,(cellAt ctx.cells c).attrs)), prevWasWide := (cellAt ctx.cells c).isWide })
    (j := j) after bound other
  cases erase : p.erase with
  | none =>
    rw [erase] at done rest
    refine ⟨progress.tracks,progress.others,fun run isRun => ?_,done,flag,fun wide => ?_,rest⟩
    · cases isRun
      refine ⟨Nat.lt_succ_self c,fun j right left => ?_⟩
      rw [show j = c by change c ≤ j at right; omega]
      exact ⟨empty,alone,rfl⟩
    · exact absurd (isNarrow ▸ wide : false = true) Bool.false_ne_true
  | some run =>
    rw [erase] at pending done rest goesOn
    obtain ⟨before_c,blanks⟩ := pending run rfl
    refine ⟨progress.tracks,progress.others,fun run' isRun => ?_,done,flag,fun wide => ?_,rest⟩
    · cases isRun
      refine ⟨by omega,fun j right left => ?_⟩
      by_cases here : j = c
      · rw [here]
        exact ⟨empty,alone,goesOn run rfl⟩
      · exact blanks j right (by omega)
    · exact absurd (isNarrow ▸ wide : false = true) Bool.false_ne_true

omit [UnicodeWidth] in
/-- A cell that did not change and was not written over is seen already. -/
theorem Progress.keep (progress : Progress s ctx before k₀ c p k) (sound : k.Sound s) (ok : RowOk ctx.cells)
    (width : ctx.cells.length = s.cols) (narrow : p.prevWasWide = false) (inside : c < s.cols)
    (same : cellAt ctx.cells c = cellAt before c) (quiet : ¬ p.repaintNext = true)
    (goesOn : ∀ run ∈ p.erase, (cellAt ctx.cells c).contents = [] ∧ (cellAt ctx.cells c).attrs = run.2) :
    Progress s ctx before k₀ (c + 1) { brush := p.brush, erase := p.erase, prevWasWide := (cellAt ctx.cells c).isWide } k := by
  have alone := progress.alone ok narrow
  have pending := progress.run
  have done := progress.done
  have flag : (cellAt ctx.cells c).isWide = (decide (0 < c + 1) && (cellAt ctx.cells (c + 1 - 1)).isWide) := by simp
  have here : k.lines ctx.row c = mirrored ctx.cells c := by
    rcases progress.rest c (Nat.le_refl _) inside (fun wide => absurd (narrow ▸ wide) Bool.false_ne_true) with
      shown | ⟨_,changed | ⟨_,told⟩ | ⟨right,_⟩⟩
    · rw [shown,mirrored_of_alone alone,mirrored_of_alone (same ▸ alone),same]
    · exact absurd same changed
    · exact absurd told quiet
    · omega
  have rest := fun j after bound other => progress.rest_next narrow ok width
    (q := { brush := p.brush, erase := p.erase, prevWasWide := (cellAt ctx.cells c).isWide }) (j := j) after bound other
  refine ⟨progress.tracks,progress.others,fun run isRun => ?_,fun j left => ?_,flag,fun wide => ?_,rest⟩
  · obtain ⟨before_c,blanks⟩ := pending run isRun
    refine ⟨by omega,fun j right left => ?_⟩
    by_cases isHere : j = c
    · rw [isHere]
      exact ⟨(goesOn run isRun).1,alone,(goesOn run isRun).2⟩
    · exact blanks j right (by omega)
  · cases erase : p.erase with
    | none =>
      rw [erase] at done left
      by_cases isHere : j = c
      · rw [isHere]
        exact here
      · exact done j (by change j < c; change j < c + 1 at left; omega)
    | some run =>
      rw [erase] at done left
      exact done j left
  · change (cellAt ctx.cells c).isWide = true at wide
    have flushed : p.erase = none := by
      cases erase : p.erase with
      | none => rfl
      | some run => exact absurd (goesOn run erase).1 ((ok.cells c).lead wide).2
    refine ⟨flushed,rfl,fun next => ?_⟩
    have second : (cellAt ctx.cells (c + 1)).isWideContinuation = true := (ok.pairs c (by omega)).trans wide
    have seen : (k.lines ctx.row (c + 1)).isWideContinuation = true := by
      rw [sound.pairs ctx.row c next,here,ok.mirrored_isWide,wide]
    rcases progress.rest (c + 1) (by omega) next (fun wide => absurd (narrow ▸ wide) Bool.false_ne_true) with shown | ⟨single,_⟩
    · rw [shown] at seen ⊢
      rw [mirrored_isWideContinuation] at seen
      rw [mirrored_of_continuation seen,mirrored_of_continuation second,Nat.add_sub_cancel,same]
    · rw [single.alone] at seen
      cases seen

theorem RowCtx.Sits.kept {k₁ : Canvas} (sits : ctx.Sits s k) (others : ∀ i, i ≠ ctx.row → k₁.lines i = k.lines i) :
    ctx.Sits s k₁ := by
  refine { sits with above := fun some => ?_ }
  obtain ⟨row,isAbove,length,rowOk,shown⟩ := sits.above some
  refine ⟨row,isAbove,length,rowOk,fun j bound => ?_⟩
  rw [others (ctx.row - 1) (by omega)]
  exact shown j bound

/-- One turn of the loop. -/
theorem Progress.turn (opened : s.Open) (few : s.cols < u16Max) (sound : k.Sound s) (sits : ctx.Sits s k)
    (progress : Progress s ctx before k₀ c p k) (inside : c < s.cols) {narrows : Cell → Bool}
    (honest : Narrows s ctx before narrows) :
    Paints s (paintCell ctx narrows p ((cellAt ctx.cells c,cellAt before c),c)) k (Progress s ctx before k₀ (c + 1)) := by
  have ok := sits.ok.ok
  have width := sits.width
  unfold paintCell
  dsimp only
  cases narrow : p.prevWasWide with
  | true => exact paints_pure (progress.skip ok width narrow inside)
  | false =>
    rw [if_neg Bool.false_ne_true]
    -- the rest of the turn, with the run flushed or going on over a blank of its attributes
    have rest (b : Brush) (erase : Option (Nat × Attrs)) (k₁ : Canvas) (sound₁ : k₁.Sound s)
        (progress₁ : Progress s ctx before k₀ c { p with brush := b, erase := erase } k₁)
        (goesOn : ∀ run ∈ erase, (cellAt ctx.cells c).contents = [] ∧ (cellAt ctx.cells c).attrs = run.2) :
        Paints s (if p.repaintNext = true ∨ cellAt ctx.cells c ≠ cellAt before c then
          if (cellAt ctx.cells c).hasContents = true then do
            let brush ← paintContents ctx b c (cellAt ctx.cells c)
            pure { brush := brush, erase := erase, prevWasWide := (cellAt ctx.cells c).isWide,
                   repaintNext := narrows (cellAt ctx.cells c) }
          else pure { brush := b, erase := erase.or (some (c,(cellAt ctx.cells c).attrs)),
                      prevWasWide := (cellAt ctx.cells c).isWide }
        else pure { brush := b, erase := erase, prevWasWide := (cellAt ctx.cells c).isWide } : Out Painter) k₁
          (Progress s ctx before k₀ (c + 1)) := by
      split_ifs with written filled
      · have filled : (cellAt ctx.cells c).contents ≠ [] := by simpa [Cell.hasContents] using filled
        have flushed : erase = none := by
          cases isErase : erase with
          | none => rfl
          | some run => exact absurd (goesOn run isErase).1 filled
        rw [flushed] at progress₁ ⊢
        have sits₁ := sits.kept fun i other => (progress₁.others i other).trans (progress.others i other).symm
        exact (progress₁.contents opened few sound₁ sits₁ narrow rfl inside honest filled).bind
          fun b' k₂ _ progress₂ => paints_pure progress₂
      · have empty : (cellAt ctx.cells c).contents = [] := by simpa [Cell.hasContents] using filled
        exact paints_pure (progress₁.blank ok width narrow empty fun run pending => (goesOn run pending).2)
      · obtain ⟨quiet,same⟩ := not_or.mp written
        exact paints_pure (progress₁.keep sound₁ ok width narrow inside (not_not.mp same) quiet goesOn)
    by_cases flush : (p.erase.any fun run =>
      (cellAt ctx.cells c).hasContents || decide ((cellAt ctx.cells c).attrs ≠ run.2)) = true
    · simp only [flush,if_true]
      exact (progress.flush opened sound sits narrow (.inl ⟨rfl,inside⟩)).bind fun b k₁ sound₁ progress₁ =>
        rest b none k₁ sound₁ progress₁ fun _ none => nomatch none
    · simp only [flush,Bool.false_eq_true,if_false]
      refine (paints_pure (Q := fun b k₁ => b = p.brush ∧ k₁ = k) ⟨rfl,rfl⟩).bind fun b k₁ sound₁ same => ?_
      obtain ⟨rfl,rfl⟩ := same
      refine rest p.brush p.erase k₁ sound₁ progress fun run pending => ?_
      rw [Option.any_eq_true] at flush
      simp only [Bool.or_eq_true,decide_eq_true_eq,not_exists,not_and,not_or,not_not] at flush
      have goes := flush run pending
      exact ⟨by simpa [Cell.hasContents] using goes.1,goes.2⟩

/-! ## Rows -/

omit [UnicodeWidth] in
/-- The row of `k₀` was repainted. -/
structure Painted (s : Settings) (ctx : RowCtx) (k₀ : Canvas) (b : Brush) (k : Canvas) : Prop where
  tracks : b.Tracks k
  others : ∀ i, i ≠ ctx.row → k.lines i = k₀.lines i
  row : ∀ j, j < s.cols → k.lines ctx.row j = mirrored ctx.cells j

/-- The loop and the run left at its end repaint the row, whatever it was. -/
theorem paintCells_paints (opened : s.Open) (few : s.cols < u16Max) (sits : ctx.Sits s k)
    (width : before.length = s.cols) {narrows : Cell → Bool} (honest : Narrows s ctx before narrows) {brush : Brush}
    (tracks : brush.Tracks k) (start : ∀ j, j < s.cols → k.lines ctx.row j = mirrored before j) (repaintFirst : Bool) :
    Paints s (paintCells ctx narrows before repaintFirst brush) k (Painted s ctx k) := by
  have cells := sits.width
  have length : (ctx.cells.zip before).zipIdx.length = s.cols := by simp [cells,width]
  have loop := paints_foldlM (s := s) (I := Progress s ctx before k) (f := paintCell ctx narrows)
    (l := (ctx.cells.zip before).zipIdx)
    (k := k) (b := { brush := brush, repaintNext := repaintFirst }) (fun i inside p k₁ sound progress => ?_) ?_
  · rw [length] at loop
    refine loop.bind fun p k₁ sound progress => ?_
    have sits₁ := sits.kept progress.others
    by_cases narrow : p.prevWasWide = false
    · refine (progress.flush opened sound sits₁ narrow (.inr ⟨rfl,rfl⟩)).mono fun b k₂ _ flushed => ?_
      exact ⟨flushed.tracks,flushed.others,flushed.done⟩
    · have flushed := (progress.second (by simpa using narrow)).1
      have done := progress.done
      rw [flushed] at done ⊢
      exact paints_pure ⟨progress.tracks,progress.others,done⟩
  · rw [length] at inside
    rw [List.getElem_zipIdx,List.getElem_zip,Nat.zero_add,← cellAt_inside (by omega),← cellAt_inside (by omega)]
    exact progress.turn opened few sound (sits.kept progress.others) inside honest
  · exact ⟨tracks,fun _ _ => rfl,fun _ none => (nomatch none),fun j left => absurd left (Nat.not_lt_zero j),rfl,
      fun wide => absurd wide Bool.false_ne_true,fun j _ bound _ => .inl (start j bound)⟩

/-! ## A space taken back -/

/-- The cursor is brought back from behind what was printed last. -/
theorem backspace_paints (right : 0 < k.pos.col) :
    Paints s (tell [0x08]) k fun _ k' => k'.lines = k.lines ∧ k'.pen = k.pen ∧ k'.pos = ⟨k.pos.row,k.pos.col - 1⟩ := by
  intro g bears
  have parked := bears.parked
  have col := bears.sound.col
  have control : ∀ t ∈ [Token.control 0x08], t.WellFormed := List.forall_mem_singleton.mpr (show IsC0 0x08 by decide)
  obtain ⟨shaped,rfl,rfl⟩ := bears
  have bears : g.Bears g.settings g.canvas := shaped.bears
  change g.cursorCol = g.cols ↔ _ at parked
  change g.cursorCol ≤ g.cols at col
  change 0 < g.cursorCol at right
  by_cases pending : g.modeFlags.pendingWrap = true
  · have played : [Token.control 0x08].foldlM terminal.exec g = .ok g.clearPendingWrap :=
      terminal_one [.backspace] rfl (congrArg Except.ok (if_pos pending))
    have back : g.clearPendingWrap.cursorCol = g.cursorCol - 1 := by
      rw [parked.mpr pending]
      exact (if_pos (Nat.le_of_eq (parked.mpr pending).symm)).trans rfl
    exact ⟨(),_,_,rfl,control,played,g.clearPendingWrap.canvas,⟨rfl,rfl,congrArg (Pos.mk g.cursorRow) back⟩,
      bears.played played rfl rfl⟩
  · have played : [Token.control 0x08].foldlM terminal.exec g = .ok { g with cursorCol := g.cursorCol - 1 } :=
      terminal_one [.backspace] rfl (congrArg Except.ok ((if_neg pending).trans (if_pos right)))
    exact ⟨(),_,_,rfl,control,played,{ g.canvas with pos := ⟨g.cursorRow,g.cursorCol - 1⟩ },⟨rfl,rfl,rfl⟩,
      bears.played played rfl rfl⟩

omit [UnicodeWidth] in
theorem cuts_single {line : Nat → Cell} {col j : Nat} (single : (line col).Single) :
    Canvas.Cuts line col (col + 1) j ↔ j = col := by
  have narrow := single.narrow
  have alone := single.alone
  unfold Canvas.Cuts
  rw [Nat.add_sub_cancel,narrow,alone]
  simp only [Bool.false_eq_true,and_false,or_false]
  omega

/-- A space is one column wide. -/
def NarrowSpace : Prop := charWidth ' ' = 1

theorem NarrowSpace.printed (narrow : NarrowSpace) : Printed [' '] :=
  .base ' ' (by decide) fun zero => by unfold NarrowSpace at narrow; omega

theorem hasWidth_one (ch : Char) : HasWidth [ch] := fun front grown starts => by
  have := starts.length_le
  simp only [List.length_singleton] at this
  omega

theorem NarrowSpace.width (narrow : NarrowSpace) : glyphWidth [' '] = 1 := narrow

/-- A space blanks no column beside its own. -/
theorem NarrowSpace.beside (narrow : NarrowSpace) {cols : Nat} {line stamped : Nat → Cell} {col : Nat} {pen : Attrs}
    (drawn : Canvas.Stamped cols line col [' '] pen stamped) (single : (line col).isWide = false) {j : Nat} (bound : j < cols)
    (other : j ≠ col) : stamped j = line j := by
  have still : ¬ Swells [' '] := fun ⟨front,filled,starts,wide⟩ => by
    rcases List.prefix_cons_iff.mp starts with empty | ⟨rest,same,starts⟩
    · exact filled empty
    · rw [same,List.prefix_nil.mp starts,narrow.width] at wide
      omega
  rcases Nat.lt_or_gt_of_ne other with left | right
  · exact drawn.left j left
  · rcases drawn.right j right bound (fun both => by rw [narrow.width] at both; omega) with same | ⟨_,⟨_,lead | swells⟩ | ⟨_,swells,_⟩⟩
    · exact same
    · rw [single] at lead
      cases lead
    · exact absurd swells still
    · exact absurd swells still

/-- A column after a space was printed in it, taken back and erased. -/
theorem NarrowSpace.erased (narrow : NarrowSpace) {k' k₁ : Canvas} {start : Pos} (stroke : k.Stroke s start [' '] k')
    (single : (k.lines start.row start.col).isWide = false) (lines : k₁.lines = k'.lines) (here : k₁.pos = start) :
    (∀ i, i ≠ start.row → (k₁.erased s (start.col + 1)).lines i = k.lines i) ∧
      ∀ j, j < s.cols → (k₁.erased s (start.col + 1)).lines start.row j =
        if j = start.col then .blankOn k₁.pen.background else k.lines start.row j := by
  have line : k₁.line = k'.lines start.row := by unfold Canvas.line; rw [lines,here]
  have space : (k₁.line start.col).Single := by
    rw [line,stroke.line.here,narrow.width]
    exact ⟨rfl,rfl⟩
  refine ⟨fun i other => ?_,fun j bound => ?_⟩
  · unfold Canvas.erased
    rw [here,Canvas.withLine_other _ other,lines]
    exact stroke.others i other
  · unfold Canvas.erased
    rw [here,Canvas.withLine_same,if_congr (and_congr_right fun _ => cuts_single space) rfl rfl]
    by_cases isHere : j = start.col
    · rw [if_pos ⟨bound,isHere⟩,if_pos isHere]
    · rw [if_neg fun both => isHere both.2,if_neg isHere,line]
      exact narrow.beside stroke.line single bound isHere

omit [UnicodeWidth] in
theorem tell_append (x y : Bytes) : (tell (x ++ y) : Out Unit) = tell x >>= fun _ => tell y := rfl

/-- The pending wrap is performed by a space that leaves a blank. -/
theorem wrapWithSpace_paints (narrow : NarrowSpace) (opened : s.Open) (few : s.cols < u16Max) (sound : k.Sound s)
    (sits : ctx.Sits s k) {brush : Brush} (tracks : brush.Tracks k) (below : brush.prevPos.row + 1 = ctx.row)
    (parked : brush.prevPos.col ≥ ctx.cols) (safe : ctx.prevRow.any zwjWrapHazard = false)
    (single : (k.lines ctx.row 0).isWide = false) (attrs : Attrs) :
    Paints s (wrapWithSpace ctx.row attrs brush) k fun b k' => b.Tracks k' ∧ (∀ i, i ≠ ctx.row → k'.lines i = k.lines i) ∧
      ∀ j, j < s.cols → k'.lines ctx.row j = if j = 0 then .blankOn attrs.background else k.lines ctx.row j := by
  have hasCols := sound.hasCols
  have ready : k.ReadyAt s ctx.row 0 := by
    rw [← tracks.pos,sits.cols] at *
    exact readyAt_wrap hasCols sits below parked safe
  unfold wrapWithSpace
  refine (setAttrs_paints _ tracks.pen attrs).bind fun b k₁ _ set => ?_
  obtain ⟨rfl,rfl⟩ := set
  have ready := readyAt_pen ready attrs
  have base := ready.base
  have alone : (k.lines ctx.row 0).isWideContinuation = false := sound.first ctx.row
  refine Paints.bind (Q := fun _ k₂ => k₂.pen = attrs ∧ k₂.pos = ⟨ctx.row,0⟩ ∧
    ∃ k', ({ k with pen := attrs } : Canvas).Stroke s ⟨ctx.row,0⟩ [' '] k' ∧ k₂.lines = k'.lines) ?_ fun _ k₂ _ drawn => ?_
  · rw [show ascii " \x08" = utf8.spell [' '] ++ [0x08] by decide,tell_append]
    refine (cluster_paints opened few ready.clear (by rw [base]; exact sits.row) (by rw [base]; exact alone) narrow.printed
      (hasWidth_one ' ')).bind fun _ k' _ stroke => ?_
    rw [base] at stroke
    have pos := stroke.pos
    rw [narrow.width] at pos
    refine (backspace_paints (by rw [pos]; exact Nat.lt_min.mpr ⟨Nat.zero_lt_succ _,hasCols⟩)).mono fun _ k₂ _ back => ?_
    obtain ⟨lines,pen,pos'⟩ := back
    refine ⟨pen.trans stroke.pen,?_,k',stroke,lines⟩
    rw [pos',pos]
    exact congrArg (Pos.mk ctx.row) (by dsimp only; omega)
  obtain ⟨pen,pos,k',stroke,lines⟩ := drawn
  have column : k₂.pos.col = 0 := by rw [pos]
  refine (eraseChars_paints (n := 1) ‹_› Nat.zero_lt_one (by rw [column]; exact hasCols)).bind fun _ k₃ _ erased => paints_pure ?_
  rw [column] at erased
  obtain ⟨others,row⟩ := narrow.erased stroke single lines pos
  rw [erased]
  rw [pen] at row
  exact ⟨⟨pos,pen⟩,others,row⟩

/-! ## The two row painters -/

omit [UnicodeWidth] in
theorem mirrored_blankRow (cols j : Nat) : mirrored (List.replicate cols default) j = default := by
  have blank : cellAt (List.replicate cols default) j = default := by
    rw [cellAt_replicate]
    split <;> rfl
  rw [mirrored_of_alone (by rw [blank]; rfl),blank]
  rfl

omit [UnicodeWidth] in
/-- Once the cursor is ready the row is painted, and what was done of the other rows before stays. -/
theorem Painted.after {k₁ : Canvas} {b : Brush} (painted : Painted s ctx k₁ b k)
    (others : ∀ i, i ≠ ctx.row → k₁.lines i = k₀.lines i) : Painted s ctx k₀ b k :=
  ⟨painted.tracks,fun i other => (painted.others i other).trans (others i other),painted.row⟩

/-- A row is painted on a line that was erased. -/
theorem rowFormatted_paints (narrow : NarrowSpace) (opened : s.Open) (few : s.cols < u16Max) (sound : k.Sound s)
    (sits : ctx.Sits s k) {brush : Brush} (tracks : brush.Tracks k) (blank : ∀ j, j < s.cols → k.lines ctx.row j = default) :
    Paints s (writeRowFormatted ctx brush) k (Painted s ctx k) := by
  have hasCols := sound.hasCols
  have width := sits.width
  have rowFits : brush.prevPos.row < u16Max := by rw [← tracks.pos]; exact Nat.lt_of_lt_of_le sound.row sound.rowsFit
  have honest : Narrows s ctx (List.replicate ctx.cells.length default) fun _ => false :=
    ⟨fun _ _ => rfl,fun j _ _ _ _ => .inr (mirrored_blankRow _ _)⟩
  have painted (b : Brush) (k₁ : Canvas) (tracks₁ : b.Tracks k₁) (others : ∀ i, i ≠ ctx.row → k₁.lines i = k.lines i)
      (blank₁ : ∀ j, j < s.cols → k₁.lines ctx.row j = default) :
      Paints s (paintCells ctx (fun _ => false) (List.replicate ctx.cells.length default) false b) k₁ (Painted s ctx k) :=
    (paintCells_paints opened few (sits.kept others) (by simpa using width) honest tracks₁
      (fun j bound => (blank₁ j bound).trans (mirrored_blankRow _ _).symm) false).mono fun _ _ _ painted => painted.after others
  unfold writeRowFormatted
  refine Paints.lift_bind (at?_cellAt (by omega)) ?_
  dsimp only
  split_ifs with goesOn
  · refine Paints.lift_bind (add16_ok (show brush.prevPos.row + 1 ≤ u16Max from rowFits)) ?_
    split_ifs with wraps
    · obtain ⟨⟨below,parked⟩,safe⟩ := wraps
      refine (wrapWithSpace_paints narrow opened few sound sits tracks below parked safe (by rw [blank 0 hasCols]; rfl) {}).bind
        fun b k₁ _ wrapped => ?_
      obtain ⟨tracks₁,others,row⟩ := wrapped
      refine painted b k₁ tracks₁ others fun j bound => ?_
      rw [row j bound,blank j bound]
      split <;> rfl
    · refine (moveTo_paints ⟨ctx.row,0⟩ sound sits.row hasCols).bind fun _ k₁ _ moved => ?_
      rw [moved]
      have placed : Brush.Tracks ⟨⟨ctx.row,0⟩,brush.prevAttrs⟩ (k.moved ⟨ctx.row,0⟩) := ⟨rfl,tracks.pen⟩
      refine (paints_pure (Q := fun (b : Brush) k₁ => b.Tracks k₁ ∧ k₁.lines = k.lines) ⟨placed,rfl⟩).bind fun b k₁ _ placed => ?_
      obtain ⟨tracks₁,lines⟩ := placed
      refine painted b k₁ tracks₁ (fun i _ => congrFun lines i) fun j bound => ?_
      rw [lines]
      exact blank j bound
  · refine (paints_pure (Q := fun (b : Brush) k₁ => b.Tracks k₁ ∧ k₁ = k) ⟨tracks,rfl⟩).bind fun b k₁ _ same => ?_
    obtain ⟨tracks₁,rfl⟩ := same
    exact painted b k₁ tracks₁ (fun _ _ => rfl) blank

/-- A cluster that ends narrow and was wide before started wide. -/
def Steady (cluster : List Char) : Prop :=
  glyphWidth cluster ≤ 1 → Swells cluster → cluster.head?.any (fun ch => charWidth ch > 1) = true

theorem narrowsOnReplay_honest (ok : EachCell Cell.Filled ctx.cells) (steady : ∀ j, Steady (cellAt ctx.cells j).contents)
    (before : Row) : Narrows s ctx before narrowsOnReplay := by
  refine ⟨fun c wide => ?_,fun j _ filled narrow swells => .inl ?_⟩
  · unfold narrowsOnReplay
    rw [wide]
    rfl
  · have width := (ok.each j filled).2
    rw [narrow,eq_comm,decide_eq_false_iff_not,Nat.not_lt] at width
    unfold narrowsOnReplay
    rw [narrow]
    exact steady j width swells

omit [UnicodeWidth] in
theorem wrapRedraw_spec (ctx : RowCtx) (prevCells : Row) (some : 0 < ctx.cells.length) (prevSome : 0 < prevCells.length)
    (prevWrapping : Bool) {prevPos : Pos} (row : prevPos.row < u16Max) :
    ∃ redraw, wrapRedraw ctx prevCells prevWrapping prevPos = .ok redraw ∧
      (redraw = true → cellAt ctx.cells 0 = cellAt prevCells 0 ∧ prevPos.row + 1 = ctx.row ∧ prevPos.col ≥ ctx.cols ∧
        ctx.prevRow.any zwjWrapHazard = false) := by
  unfold wrapRedraw
  simp only [at?_cellAt some,at?_cellAt prevSome,add16_ok (show prevPos.row + 1 ≤ u16Max from row),ok_bind,pure_ok]
  split_ifs with wraps same
  · refine ⟨_,rfl,fun redraws => ?_⟩
    rw [Bool.and_eq_true,decide_eq_true_eq,Bool.not_eq_true'] at redraws
    exact ⟨same,redraws.1.1,redraws.1.2,redraws.2⟩
  · exact ⟨_,rfl,fun redraws => absurd redraws Bool.false_ne_true⟩
  · exact ⟨_,rfl,fun redraws => absurd redraws Bool.false_ne_true⟩

/-- A row is painted over what the line shows of the row before the change. -/
theorem rowDiff_paints (narrow : NarrowSpace) (opened : s.Open) (few : s.cols < u16Max) (sound : k.Sound s) (sits : ctx.Sits s k)
    (steady : ∀ j, Steady (cellAt ctx.cells j).contents) {prevCells : Row} (prevWidth : prevCells.length = s.cols)
    (prevOk : RowOk prevCells) {brush : Brush} (tracks : brush.Tracks k)
    (shown : ∀ j, j < s.cols → k.lines ctx.row j = mirrored prevCells j) (prevWrapping : Bool) :
    Paints s (writeRowDiff ctx prevCells prevWrapping brush) k (Painted s ctx k) := by
  have hasCols := sound.hasCols
  have width := sits.width
  have rowFits : brush.prevPos.row < u16Max := by rw [← tracks.pos]; exact Nat.lt_of_lt_of_le sound.row sound.rowsFit
  have honest := narrowsOnReplay_honest (s := s) sits.ok steady prevCells
  obtain ⟨redraw,redrawEq,spec⟩ := wrapRedraw_spec ctx prevCells (by omega) (by omega) prevWrapping rowFits
  unfold writeRowDiff
  refine Paints.lift_bind (at?_cellAt (by omega)) (Paints.lift_bind redrawEq ?_)
  dsimp only
  split_ifs with wraps
  · obtain ⟨redraws,empty⟩ := wraps
    obtain ⟨same,below,parked,safe⟩ := spec redraws
    have empty : (cellAt prevCells 0).contents = [] := by
      rw [← same]
      simpa [Cell.hasContents] using empty
    have blank := prevOk.mirrored_blank empty prevOk.first
    have single : (k.lines ctx.row 0).isWide = false := by rw [shown 0 hasCols,blank]; rfl
    refine (wrapWithSpace_paints narrow opened few sound sits tracks below parked safe single _).bind fun b k₁ _ wrapped => ?_
    obtain ⟨tracks₁,others,row⟩ := wrapped
    refine (paintCells_paints opened few (sits.kept others) prevWidth honest tracks₁ (fun j bound => ?_) _).mono
      fun _ _ _ painted => painted.after others
    rw [row j bound]
    split_ifs with here
    · rw [here,blank,same]
    · exact shown j bound
  · refine (paints_pure (Q := fun (b : Brush) k₁ => b.Tracks k₁ ∧ k₁ = k) ⟨tracks,rfl⟩).bind fun b k₁ _ unmoved => ?_
    obtain ⟨tracks₁,rfl⟩ := unmoved
    exact paintCells_paints opened few sits prevWidth honest tracks₁ shown _

end

end Termpane
