import Termpane.Shape

/-!
# What printing does

The cluster a character joins, or else the cell it is put in, and where the
cursor goes: `write_char_at_cursor` as equations on a grid in shape, with the
panics it has left.
-/
namespace Termpane

open Lib

theorem endsWithZwj_ne_nil {contents : List Char} (ends : endsWithZwj contents = true) : contents ≠ [] := by
  rintro rfl
  cases ends

namespace Grid

/-- The row the cursor is in. -/
def cursorCells (g : Grid) : Row := g.activeGrid.rows[g.cursorRow]?.getD []

variable {P : Row → Prop} {g : Grid}

theorem Shaped.cursorCells (shaped : g.Shaped P) :
    at? g.activeGrid.rows g.cursorRow = .ok g.cursorCells ∧ g.cursorCells ∈ g.activeGrid.rows ∧
      g.cursorCells.length = g.cols ∧ P g.cursorCells := by
  obtain ⟨row,read,member,width,holds⟩ := shaped.active.get shaped.cursorRow
  have same : g.cursorCells = row := by
    unfold Grid.cursorCells
    unfold at? at read
    split at read
    case h_1 found => rw [found]; cases read; rfl
    case h_2 => cases read
  rw [same]
  exact ⟨read,member,width,holds⟩

theorem Shaped.modifyCursorRow (shaped : g.Shaped P) {f : Row → Checked Row}
    (edits : Edits P g.cursorCells (f g.cursorCells)) :
    ∃ s, g.modifyActiveRow g.cursorRow f = .ok (g.setActiveGrid s) ∧ (g.setActiveGrid s).Shaped P :=
  shaped.modifyActiveRow shaped.cursorRow fun cells read _ _ => by
    rw [shaped.cursorCells.1] at read
    cases read
    exact edits

section
variable [UnicodeWidth]

instance (ch : Char) (cluster : List Char) : Decidable (Joins ch cluster) := by unfold Joins; infer_instance

/-- The column left of the cursor, the last one when it is parked. -/
def clusterTarget (g : Grid) : Option Nat :=
  if g.cursorCol ≥ g.cols then some (g.cols - 1) else if g.cursorCol > 0 then some (g.cursorCol - 1) else none

/-- The column of the cluster a character joins. -/
def joinCol (g : Grid) (ch : Char) : Option Nat :=
  if charWidth ch ≠ 0 ∧ g.lastPrint ≠ some (g.cursorRow,g.cursorCol) then none
  else g.clusterTarget.bind fun target =>
    if Joins ch (cellAt g.cursorCells (clusterCol g.cursorCells target)).contents then
      some (clusterCol g.cursorCells target)
    else none

/-- The width of the cluster at `col` once `ch` joined it. -/
def grownWidth (g : Grid) (ch : Char) (col : Nat) : Nat :=
  min (clusterWidth ((cellAt g.cursorCells col).contents ++ [ch])) 2

/-- The edit of the cursor's row when `ch` joins the cluster at `col`. -/
def joinEdit (g : Grid) (ch : Char) (col : Nat) (cells : Row) : Checked Row :=
  joinGlyph cells col (cellAt g.cursorCells col) ((cellAt g.cursorCells col).contents ++ [ch]) g.activeHyperlink
    (g.grownWidth ch col) g.cols

/-- The edit of the cursor's row when `ch` is put in a new cell. -/
def placeEdit (g : Grid) (ch : Char) (cells : Row) : Checked Row :=
  writeGlyph cells g.cursorCol g.cols (charWidth ch) (glyphCell ch g.currentAttrs g.activeHyperlink)

/-- The grid a character is about to be written to. -/
def touched (g : Grid) : Grid := { g with modeFlags.mutatedSincePreserve := true }

/-- The cursor's column with the flag it is legal with. -/
def setCursorCol (g : Grid) (col : Nat) (pending : Bool) : Grid :=
  { g with cursorCol := col, modeFlags.pendingWrap := pending }

/-- Where the cursor is when a cluster at `col` changed its width, and whether
    the wrap is pending there. -/
def joinedCursor (g : Grid) (col oldWidth newWidth : Nat) : Nat × Bool :=
  if g.cursorCol ≠ col + oldWidth ∨ g.cursorCol = g.cols ∧ newWidth ≥ oldWidth then (g.cursorCol,g.modeFlags.pendingWrap)
  else (min (col + newWidth) g.cols,decide (col + newWidth ≥ g.cols))

/-- The sums made when a cluster at `col` changes its width are `u16`s. -/
def JoinFits (g : Grid) (col oldWidth newWidth : Nat) : Prop :=
  col + oldWidth ≤ u16Max ∧ (g.cursorCol = col + oldWidth ∨ g.cursorCol = g.cols → col + newWidth ≤ u16Max)

instance (g : Grid) (col oldWidth newWidth : Nat) : Decidable (g.JoinFits col oldWidth newWidth) := by
  unfold JoinFits; infer_instance

/-- The grid with the edited screen `s` once a cluster at `col` changed its width. -/
def joined (g : Grid) (s : RowStore) (col oldWidth newWidth : Nat) : Grid :=
  { (g.setActiveGrid s).setCursorCol (g.joinedCursor col oldWidth newWidth).1 (g.joinedCursor col oldWidth newWidth).2 with
    dirty := g.dirty.markRange g.cursorRow col (satAdd16 col (max (max oldWidth newWidth) 1))
    lastPrint := some (g.cursorRow,(g.joinedCursor col oldWidth newWidth).1) }

/-- The grid with the edited screen `s` once a glyph is put at the cursor. -/
def placed (g : Grid) (s : RowStore) (width dirtyStart dirtyEnd : Nat) : Grid :=
  { (g.setActiveGrid s).setCursorCol (min (g.cursorCol + width) g.cols)
      (decide (g.cursorCol + width ≥ g.cols)) with
    dirty := g.dirty.markRange g.cursorRow dirtyStart dirtyEnd
    lastPrint := some (g.cursorRow,min (g.cursorCol + width) g.cols) }

omit [UnicodeWidth] in
theorem followWidth_eq (inside : g.cursorCol ≤ g.cols) (parked : g.cursorCol = g.cols ↔ g.modeFlags.pendingWrap = true)
    {col oldWidth : Nat} (oldFits : col + oldWidth ≤ u16Max) (newWidth : Nat) :
    g.followWidth col oldWidth (col + oldWidth) newWidth =
      if g.JoinFits col oldWidth newWidth then
        .ok (g.setCursorCol (g.joinedCursor col oldWidth newWidth).1 (g.joinedCursor col oldWidth newWidth).2)
      else .error .overflow := by
  unfold followWidth JoinFits joinedCursor
  rcases Nat.lt_or_eq_of_le inside with left | atEnd
  · have pending : g.modeFlags.pendingWrap = false := by
      cases pending : g.modeFlags.pendingWrap with
      | false => rfl
      | true => have := parked.mpr pending; omega
    by_cases here : g.cursorCol = col + oldWidth
    · by_cases newFits : col + newWidth ≤ u16Max
      · by_cases wide : col + newWidth ≥ g.cols
        · have grown : newWidth > oldWidth := by omega
          simp [here,here ▸ left,add16_ok newFits,pending,wide,grown,oldFits,newFits,Nat.ne_of_lt (here ▸ left)]
          rfl
        · have margin : min (col + newWidth) g.cols = col + newWidth := by omega
          simp [here,here ▸ left,add16_ok newFits,pending,margin,wide,oldFits,newFits,Nat.ne_of_lt (here ▸ left)]
          rw [← pending]
          rfl
      · simp [here,here ▸ left,add16,newFits]
    · simp [here,Nat.ne_of_lt left,pending,oldFits,Nat.not_le_of_lt left]
      rw [← pending]
      rfl
  · have pending : g.modeFlags.pendingWrap = true := parked.mp atEnd
    have unchanged : g = g.setCursorCol g.cols true := by rw [← atEnd,← pending]; rfl
    by_cases newFits : col + newWidth ≤ u16Max
    · by_cases here : col + oldWidth = g.cols
      · by_cases narrower : newWidth < oldWidth
        · have short : ¬ g.cols ≤ col + newWidth := by omega
          have margin : min (col + newWidth) g.cols = col + newWidth := by omega
          simp [atEnd,here ▸ oldFits,add16_ok newFits,margin,short,newFits,here,narrower,Nat.not_le_of_lt narrower]
          rfl
        · simp [atEnd,add16_ok newFits,narrower,newFits,here,here ▸ oldFits,Nat.le_of_not_lt narrower,pending]
          split_ifs
          · rfl
          · exact congrArg Except.ok unchanged
      · simp [atEnd,add16_ok newFits,newFits,Ne.symm here,oldFits,pending]
        split_ifs
        · rfl
        · exact congrArg Except.ok unchanged
    · by_cases here : col + oldWidth = g.cols
      · simp [atEnd,newFits,add16,pending,here]
      · simp [atEnd,newFits,add16,pending,Ne.symm here]

theorem appendToPreviousCluster_eq (shaped : g.Shaped P) (ch : Char) :
    g.appendToPreviousCluster ch (charWidth ch) =
      match g.joinCol ch with
      | some col => (g.joinCluster ch col (cellAt g.cursorCells col)).map (·,true)
      | none => .ok (g,decide (charWidth ch = 0)) := by
  obtain ⟨read,_,width,_⟩ := shaped.cursorCells
  have cols := shaped.hasCols
  have inside := shaped.cursorCol
  have parked := shaped.parked
  have target : g.joinTarget (charWidth ch) =
      match g.clusterTarget with
      | some target => .inl target
      | none => .inr (decide (charWidth ch = 0)) := by
    unfold joinTarget clusterTarget
    have same : (g.modeFlags.pendingWrap = true ∨ g.cursorCol ≥ g.cols) ↔ g.cursorCol ≥ g.cols := by
      rw [← parked]; omega
    rw [if_congr same rfl rfl]
    split_ifs <;> rfl
  unfold appendToPreviousCluster joinCol
  rw [target]
  by_cases moved : charWidth ch ≠ 0 ∧ g.lastPrint ≠ some (g.cursorRow,g.cursorCol)
  · simp [moved]
  have stays : ¬ (decide (charWidth ch = 0) = false ∧ g.lastPrint ≠ some (g.cursorRow,g.cursorCol)) := by simpa using moved
  rw [if_neg stays,if_neg moved]
  cases found : g.clusterTarget with
  | none => rfl
  | some target =>
    have bound : target < g.cursorCells.length := by
      unfold clusterTarget at found
      split_ifs at found <;> cases found <;> omega
    have start : clusterCol g.cursorCells target < g.cursorCells.length := by
      unfold clusterCol
      split_ifs <;> omega
    have second : (if (cellAt g.cursorCells target).isWideContinuation = true ∧ target > 0 then target - 1 else target) =
        clusterCol g.cursorCells target := rfl
    simp only [read,ok_bind,if_neg (show ¬ target ≥ g.cursorCells.length by omega),at?_cellAt bound,second,
      at?_cellAt start,Option.bind_some,pure_ok]
    generalize clusterCol g.cursorCells target = col
    generalize contentsEq : (cellAt g.cursorCells col).contents = contents
    have full : (contents[maxClusterJoiners]?).isSome = true ↔ ¬ contents.length ≤ maxClusterJoiners := by simp
    have nonempty : endsWithZwj contents = true → contents ≠ [] := endsWithZwj_ne_nil
    by_cases zero : charWidth ch = 0
    · simp only [zero,decide_true,Bool.true_eq_false,false_and,if_false,and_true,List.isEmpty_iff,full,Joins,true_or]
      by_cases empty : contents = []
      · simp [empty]
      · by_cases short : contents.length ≤ maxClusterJoiners
        · simp only [empty,short,if_false,not_true_eq_false,ne_eq,not_false_eq_true,and_self,if_true]
          cases g.joinCluster ch col (cellAt g.cursorCells col) <;> rfl
        · simp [empty,short]
    · simp only [zero,decide_false,true_and,Bool.false_eq_true,and_false,if_false,full,Joins,false_or]
      cases ends : endsWithZwj contents with
      | false => simp
      | true =>
        by_cases short : contents.length ≤ maxClusterJoiners
        · simp only [nonempty ends,short,Bool.true_eq_false,if_false,not_true_eq_false,ne_eq,not_false_eq_true,and_self,
            if_true]
          cases g.joinCluster ch col (cellAt g.cursorCells col) <;> rfl
        · simp [short]

theorem joinCluster_eq (shaped : g.Shaped P) {ch : Char} {col : Nat} {s : RowStore}
    (edited : g.modifyActiveRow g.cursorRow (g.joinEdit ch col) = .ok (g.setActiveGrid s)) :
    g.joinCluster ch col (cellAt g.cursorCells col) =
      if g.JoinFits col (cellWidth (cellAt g.cursorCells col)) (g.grownWidth ch col) then
        .ok (g.joined s col (cellWidth (cellAt g.cursorCells col)) (g.grownWidth ch col))
      else .error .overflow := by
  have grown : min (clusterWidth ((cellAt g.cursorCells col).contents ++ [ch])) 2 = g.grownWidth ch col := rfl
  unfold joinEdit at edited
  simp only [joinCluster,grown,edited,ok_bind]
  generalize g.grownWidth ch col = newWidth
  generalize cellWidth (cellAt g.cursorCells col) = oldWidth
  by_cases oldFits : col + oldWidth ≤ u16Max
  case neg => simp [add16,JoinFits,oldFits]
  have followed := followWidth_eq (g := g.setActiveGrid s) shaped.cursorCol shaped.parked oldFits newWidth
  simp only [add16_ok oldFits,ok_bind,followed]
  change (if g.JoinFits col oldWidth newWidth then _ else _) >>= _ = _
  split_ifs <;> rfl

theorem placeChar_eq (shaped : g.Shaped P) (inside : g.cursorCol < g.cols) {ch : Char} {s : RowStore}
    (edited : g.modifyActiveRow g.cursorRow (g.placeEdit ch) = .ok (g.setActiveGrid s)) :
    g.placeChar ch (charWidth ch) =
      if g.cursorCol + charWidth ch ≤ u16Max then
        .ok (g.placed s (charWidth ch) (clearPartners g.cursorCells g.cursorCol (charWidth ch)).2.1
          (clearPartners g.cursorCells g.cursorCol (charWidth ch)).2.2)
      else .error .overflow := by
  have row := shaped.cursorRow
  have parked := shaped.parked
  have pending : g.modeFlags.pendingWrap = false := by
    cases pending : g.modeFlags.pendingWrap with
    | false => rfl
    | true => have := parked.mpr pending; omega
  unfold placeEdit glyphCell at edited
  simp only [placeChar,shaped.cursorCells.1,ok_bind,edited,if_neg (show ¬ (g.cursorRow ≥ g.rows ∨ g.cursorCol ≥ g.cols) by omega)]
  change add16 g.cursorCol (charWidth ch) >>= _ = _
  by_cases fits : g.cursorCol + charWidth ch ≤ u16Max
  · rw [if_pos fits,add16_ok fits,ok_bind]
    by_cases parks : g.cursorCol + charWidth ch ≥ g.cols
    · simp only [placed,show min (g.cursorCol + charWidth ch) g.cols = g.cols by omega,parks,decide_true]
      exact congrArg Except.ok (if_pos parks ▸ rfl)
    · simp only [placed,show min (g.cursorCol + charWidth ch) g.cols = g.cursorCol + charWidth ch by omega,parks,decide_false]
      rw [← pending]
      exact congrArg Except.ok (if_neg parks ▸ rfl)
  · rw [if_neg fits,add16,if_neg fits]
    rfl

theorem writeCharAtCursor_eq (shaped : g.Shaped P) (ch : Char) :
    g.writeCharAtCursor ch =
      match g.touched.joinCol ch with
      | some col => g.touched.joinCluster ch col (cellAt g.touched.cursorCells col)
      | none => if charWidth ch = 0 then .ok g.touched else g.touched.writeNewCell ch (charWidth ch) := by
  have touched : g.touched.Shaped P := { shaped with }
  have appended := appendToPreviousCluster_eq touched ch
  change (g.touched.appendToPreviousCluster ch (charWidth ch) >>= fun r => if r.2 then pure r.1 else _) = _
  rw [appended]
  cases g.touched.joinCol ch with
  | none => by_cases zero : charWidth ch = 0 <;> simp [zero]
  | some col =>
    dsimp only
    cases g.touched.joinCluster ch col (cellAt g.touched.cursorCells col) <;> rfl

end

end Grid

end Termpane
