import Termpane.Canvas
import Termpane.Text

/-!
# What the serializer's tokens draw

Each writer of a token of `serialize.rs` with what it does to a canvas: moves, erases and
the pen here, and the clusters, which are printed scalar by scalar.
-/
namespace Termpane

open Lib

/-! ## Tokens -/

/-- A CSI without marker and intermediate. -/
def Token.plain (params : List Param) (action : Char) : Token := .csi none params none action

def moveToken (pos : Pos) : Token := .plain (if pos.row = 0 ∧ pos.col = 0 then [] else [[pos.row + 1],[pos.col + 1]]) 'H'

def countToken (n : Nat) (action : Char) : Token := .plain (if n = 1 then [] else [[n]]) action

section
variable {pos : Pos} {n : Nat}

theorem plain_wellFormed {params : List Param} {action : Char} (legal : ∀ p ∈ params, p ≠ [] ∧ ∀ n ∈ p, n ≤ u16Max)
    (few : (params.map List.length).sum ≤ 32) (final : 0x40 ≤ action.toNat ∧ action.toNat ≤ 0x7e) :
    (Token.plain params action).WellFormed := ⟨by simp,by simp,legal,few,final⟩

theorem moveToken_wellFormed (row : pos.row < u16Max) (col : pos.col < u16Max) : (moveToken pos).WellFormed := by
  refine plain_wellFormed ?_ ?_ (by decide)
  · split_ifs
    · simp
    · simp
      omega
  · split_ifs <;> simp

theorem countToken_wellFormed (fits : n ≤ u16Max) {action : Char} (final : 0x40 ≤ action.toNat ∧ action.toNat ≤ 0x7e) :
    (countToken n action).WellFormed := by
  refine plain_wellFormed ?_ ?_ final
  · split_ifs <;> simp [fits]
  · split_ifs <;> simp

theorem writeMoveTo_run (row : pos.row < u16Max) (col : pos.col < u16Max) :
    (writeMoveTo pos).run = .ok ((),encodeAll [moveToken pos]) := by
  unfold writeMoveTo moveToken Token.plain
  split_ifs
  · rfl
  · rw [add16_ok row,add16_ok col]
    simp [Token.encode,Token.writeParams]
    rfl

theorem writeCount_run (some : 0 < n) {action : String} (final : Char) (same : ascii action = [UInt8.ofNat final.toNat]) :
    (writeCount n action).run = .ok ((),encodeAll [countToken n final]) := by
  unfold writeCount countToken Token.plain
  split
  · omega
  · simp [Token.encode,Token.writeParams,same]
    rfl
  case h_3 other =>
    rw [if_neg other]
    simp [Token.encode,Token.writeParams,same]
    rfl

theorem toNat_ofNat (fits : n ≤ u16Max) : (UInt16.ofNat n).toNat = n := UInt16.toNat_ofNat_of_lt' (Nat.lt_succ_of_le fits)

theorem moveToken_ops (row : pos.row < u16Max) (col : pos.col < u16Max) : ∃ p0 p1, p0 - 1 = pos.row ∧ p1 - 1 = pos.col ∧
    (moveToken pos).callback.ops = [.clearPendingWrap,.cursorPosition p0 p1] := by
  unfold moveToken
  split_ifs with home
  · exact ⟨0,0,home.1.symm,home.2.symm,rfl⟩
  · exact ⟨_,_,congrArg (· - 1) (toNat_ofNat (n := pos.row + 1) row),congrArg (· - 1) (toNat_ofNat (n := pos.col + 1) col),rfl⟩

theorem forwardToken_ops (some : 0 < n) (fits : n ≤ u16Max) :
    (countToken n 'C').callback.ops = [.clearPendingWrap,.cursorForward n] := by
  unfold countToken
  split_ifs with one
  · rw [one]
    rfl
  · change [Op.clearPendingWrap,.cursorForward (max (UInt16.ofNat n).toNat 1)] = _
    rw [toNat_ofNat fits,Nat.max_eq_left some]

theorem eraseToken_ops (some : 0 < n) (fits : n ≤ u16Max) : (countToken n 'X').callback.ops = [.eraseChars n] := by
  unfold countToken
  split_ifs with one
  · rw [one]
    rfl
  · change [Op.eraseChars (max (UInt16.ofNat n).toNat 1)] = _
    rw [toNat_ofNat fits,Nat.max_eq_left some]

end

/-! ## Moves -/

section
variable [UnicodeWidth] {s : Settings} {k : Canvas}

/-- Tokens whose operations are known. -/
theorem terminal_played {g h : Grid} {tokens : List Token} {ops : List Op}
    (same : tokens.flatMap (fun t => t.callback.ops) = ops) (ran : g.execAll ops = .ok h) :
    tokens.foldlM terminal.exec g = .ok h := by
  rw [← ran,← same]
  clear ran same
  induction tokens generalizing g with
  | nil => rfl
  | cons t tokens ih =>
    rw [List.foldlM_cons,List.flatMap_cons]
    unfold Grid.execAll
    rw [List.foldlM_append]
    exact bind_congr fun _ => ih

theorem terminal_one {g h : Grid} {t : Token} (ops : List Op) (same : t.callback.ops = ops) (ran : g.execAll ops = .ok h) :
    [t].foldlM terminal.exec g = .ok h := terminal_played (by simpa using same) ran

theorem moveTo_paints (pos : Pos) (sound : k.Sound s) (row : pos.row < s.rows) (col : pos.col < s.cols) :
    Paints s (writeMoveTo pos) k fun _ k' => k' = k.moved pos := by
  have rowFits : pos.row < u16Max := Nat.lt_of_lt_of_le row sound.rowsFit
  have colFits : pos.col < u16Max := Nat.lt_of_lt_of_le col sound.colsFit
  refine paints_tokens [moveToken pos] (k.moved pos) (writeMoveTo_run rowFits colFits)
    (by simpa using moveToken_wellFormed rowFits colFits) (fun g bears => ?_) rfl
  obtain ⟨p0,p1,isRow,isCol,ops⟩ := moveToken_ops rowFits colFits
  obtain ⟨shaped,rfl,rfl⟩ := bears
  refine ⟨_,terminal_one _ ops rfl,rfl,?_⟩
  have here : (⟨min (p0 - 1) (g.rows - 1),min (p1 - 1) (g.cols - 1)⟩ : Pos) = pos := by
    change pos.row < g.rows at row
    change pos.col < g.cols at col
    rw [isRow,isCol,Nat.min_eq_left (by omega),Nat.min_eq_left (by omega)]
  exact congrArg g.canvas.moved here

theorem forward_paints {n : Nat} (sound : k.Sound s) (some : 0 < n) (inside : k.pos.col + n < s.cols) :
    Paints s (writeCount n "C") k fun _ k' => k' = k.moved ⟨k.pos.row,k.pos.col + n⟩ := by
  have colsFit := sound.colsFit
  have fits : n ≤ u16Max := by omega
  refine paints_tokens [countToken n 'C'] (k.moved ⟨k.pos.row,k.pos.col + n⟩) (writeCount_run some 'C' rfl)
    (by simpa using countToken_wellFormed fits (by decide)) (fun g bears => ?_) rfl
  obtain ⟨shaped,rfl,rfl⟩ := bears
  refine ⟨_,terminal_one _ (forwardToken_ops some fits) rfl,rfl,?_⟩
  change g.cursorCol + n < g.cols at inside
  have rows := shaped.cursorRow
  have start : (if g.cursorCol ≥ g.cols then g.cols - 1 else g.cursorCol) = g.cursorCol := if_neg (by omega)
  have here : (⟨min g.cursorRow (g.rows - 1),
      min (Grid.addCursorOffset (if g.cursorCol ≥ g.cols then g.cols - 1 else g.cursorCol) n (g.cols - 1)) (g.cols - 1)⟩ : Pos) =
      ⟨g.cursorRow,g.cursorCol + n⟩ := by
    rw [start]
    unfold Grid.addCursorOffset satAdd16
    change g.cols ≤ u16Max at colsFit
    congr 1 <;> omega
  exact congrArg g.canvas.moved here

/-- On every row but the last `CR LF` is a plain move. -/
theorem lineFeed_paints (opened : s.Open) (above : k.pos.row + 1 < s.rows) :
    Paints s (tell (ascii "\r\n")) k fun _ k' => k' = k.moved ⟨k.pos.row + 1,0⟩ := by
  have controls : ∀ t ∈ [Token.control 0x0d,.control 0x0a], t.WellFormed := by
    simp only [List.forall_mem_cons]
    exact ⟨show IsC0 0x0d by decide,show IsC0 0x0a by decide,List.forall_mem_nil _⟩
  refine paints_tokens [.control 0x0d,.control 0x0a] (k.moved ⟨k.pos.row + 1,0⟩) rfl controls (fun g bears => ?_) rfl
  obtain ⟨shaped,rfl,rfl⟩ := bears
  have bottom := opened.bottom
  change g.scrollBottom + 1 = g.rows at bottom
  change g.cursorRow + 1 < g.rows at above
  have cols := shaped.hasCols
  have rowsFit := shaped.rowsFit
  let start : Grid := { g.clearPendingWrap with cursorCol := 0 }
  have fed : start.clearPendingWrap.newlineActionWithWrap .hard =
      .ok ({ start.clearPendingWrap with cursorRow := g.cursorRow + 1 }.setActiveRowWrap (g.cursorRow + 1) .hard) := by
    have notBottom : ¬ start.clearPendingWrap.cursorRow = start.clearPendingWrap.scrollBottom := by
      change ¬ g.cursorRow = g.scrollBottom
      omega
    have next : Grid.addCursorOffset g.cursorRow 1 (g.rows - 1) = g.cursorRow + 1 := by
      unfold Grid.addCursorOffset satAdd16
      omega
    unfold Grid.newlineActionWithWrap
    rw [if_neg notBottom]
    change Except.ok ({ start.clearPendingWrap with cursorRow := Grid.addCursorOffset g.cursorRow 1 (g.rows - 1) }.setActiveRowWrap
      (Grid.addCursorOffset g.cursorRow 1 (g.rows - 1)) .hard) = _
    rw [next]
  have ran : g.execAll [.clearPendingWrap,.carriageReturn,.clearPendingWrap,.newline] =
      start.clearPendingWrap.newlineActionWithWrap .hard := bind_pure (start.clearPendingWrap.newlineActionWithWrap .hard)
  refine ⟨_,terminal_played rfl (ran.trans fed),rfl,?_⟩
  have margin : start.clearPendingWrap.cursorCol = 0 := if_neg (by change ¬ 0 ≥ g.cols; omega)
  have lines : ({ start.clearPendingWrap with cursorRow := g.cursorRow + 1 }.setActiveRowWrap (g.cursorRow + 1) .hard).canvas.lines =
      g.canvas.lines := by
    unfold Grid.setActiveRowWrap Grid.canvas Grid.visibleRow
    rw [Grid.activeGrid_setActiveGrid]
    rfl
  have pos : ({ start.clearPendingWrap with cursorRow := g.cursorRow + 1 }.setActiveRowWrap (g.cursorRow + 1) .hard).canvas.pos =
      ⟨g.cursorRow + 1,0⟩ := by
    change (⟨g.cursorRow + 1,start.clearPendingWrap.cursorCol⟩ : Pos) = _
    rw [margin]
  rw [Canvas.moved,← lines]
  exact congrArg (fun pos => (⟨_,pos,g.currentAttrs,none⟩ : Canvas)) pos

/-- The move that the next content or erase needs, none where the cursor is there already. -/
theorem moveFromTo_paints (goal : Pos) (opened : s.Open) (sound : k.Sound s) (row : goal.row < s.rows)
    (col : goal ≠ k.pos → goal.col < s.cols) :
    Paints s (writeMoveFromTo k.pos goal) k fun _ k' => k' = if goal = k.pos then k else k.moved goal := by
  have rowFits : k.pos.row + 1 ≤ u16Max := Nat.le_trans sound.row sound.rowsFit
  by_cases stays : goal = k.pos
  · rw [stays,if_pos rfl]
    refine Paints.lift_bind (add16_ok rowFits) ?_
    rw [if_neg (by omega),if_neg (by omega),if_neg (not_not.mpr rfl)]
    exact paints_pure rfl
  rw [if_neg stays]
  refine Paints.lift_bind (add16_ok rowFits) ?_
  have inside := col stays
  split_ifs with feeds forward
  · have here : goal = ⟨k.pos.row + 1,0⟩ := by
      cases goal
      simp_all
    rw [here]
    exact lineFeed_paints opened (by omega)
  · have here : goal = ⟨k.pos.row,k.pos.col + (goal.col - k.pos.col)⟩ := by
      cases goal
      simp only [Pos.mk.injEq] at forward ⊢
      omega
    refine (forward_paints sound (by omega) (by omega)).mono fun _ k' _ same => ?_
    rw [same,← here]
  · exact moveTo_paints goal sound row inside

/-! ## The pen and the erases -/

theorem attrsDiff_paints {target : Attrs} (prev : Attrs) (pen : k.pen = prev) :
    Paints s (writeAttrsDiff target prev) k fun _ k' => k' = { k with pen := target } := by
  obtain ⟨tokens,valid,ran,_,played⟩ := writeAttrsDiff_plays target prev
  refine paints_tokens tokens { k with pen := target } ran valid (fun g bears => ?_) rfl
  obtain ⟨shaped,rfl,rfl⟩ := bears
  refine ⟨{ g with currentAttrs := target },?_,rfl,rfl⟩
  rw [← played g pen]
  unfold Grid.performAll
  rw [List.foldlM_map]
  rfl

theorem setAttrs_paints (brush : Brush) (pen : k.pen = brush.prevAttrs) (attrs : Attrs) :
    Paints s (brush.setAttrs attrs) k fun b k' => b = { brush with prevAttrs := attrs } ∧ k' = { k with pen := attrs } := by
  unfold Brush.setAttrs
  dsimp only
  split_ifs with other
  · exact (attrsDiff_paints _ pen).bind fun _ k' _ same => paints_pure ⟨rfl,same⟩
  · refine paints_pure ⟨rfl,?_⟩
    rw [← not_not.mp other,← pen]

namespace Canvas

/-- The columns that an erase of `start..stop` blanks in a line. -/
def Cuts (line : Nat → Cell) (start stop j : Nat) : Prop :=
  (start ≤ j ∧ j < stop) ∨ (j + 1 = start ∧ (line start).isWideContinuation = true) ∨
    (j = stop ∧ start < stop ∧ (line (stop - 1)).isWide = true)

instance (line : Nat → Cell) (start stop j : Nat) : Decidable (Cuts line start stop j) := by unfold Cuts; infer_instance

/-- The columns from the cursor up to `stop` erased in the pen's background. -/
def erased (s : Settings) (k : Canvas) (stop : Nat) : Canvas :=
  k.withLine k.pos.row fun j => if j < s.cols ∧ Cuts k.line k.pos.col stop j then .blankOn k.pen.background else k.line j

end Canvas

omit [UnicodeWidth] in
theorem visibleRow_withRow {g : Grid} {row : Nat} (inside : row < g.activeGrid.rows.length) (cells : Row) (i : Nat) :
    (g.withRow row cells).visibleRow i = if i = row then cells else g.visibleRow i := by
  have active : (g.withRow row cells).activeGrid.rows = g.activeGrid.rows.set row cells :=
    congrArg RowStore.rows (Grid.activeGrid_setActiveGrid g _)
  unfold Grid.visibleRow
  rw [active]
  split_ifs with here
  · rw [here,List.getElem?_set_self inside]
    rfl
  · rw [List.getElem?_set_ne (Ne.symm here)]

omit [UnicodeWidth] in
theorem canvas_withRow {g : Grid} (shaped : g.Shaped RowOk) (cells : Row) :
    (g.withRow g.cursorRow cells).canvas = g.canvas.withLine g.cursorRow fun j => (cellAt cells j).face := by
  have inside : g.cursorRow < g.activeGrid.rows.length := by rw [shaped.active.rowCount]; exact shaped.cursorRow
  have lines : (g.withRow g.cursorRow cells).canvas.lines =
      Function.update g.canvas.lines g.cursorRow fun j => (cellAt cells j).face := by
    funext i j
    change (cellAt ((g.withRow g.cursorRow cells).visibleRow i) j).face = _
    rw [visibleRow_withRow inside]
    split_ifs with here
    · rw [here,Function.update_self]
    · rw [Function.update_of_ne here]
      rfl
  unfold Canvas.withLine
  rw [← lines]
  rfl

omit [UnicodeWidth] in
theorem erased_canvas {g : Grid} (shaped : g.Shaped RowOk) {stop : Nat} (inside : stop ≤ g.cols) (order : g.cursorCol ≤ stop) :
    ∃ cells, eraseCellsBce g.cursorCells g.cursorCol stop g.blankCell = .ok cells ∧
      (g.withRow g.cursorRow cells).canvas = g.canvas.erased g.settings stop := by
  obtain ⟨_,_,width,_⟩ := shaped.cursorCells
  obtain ⟨cells,done,length,each⟩ := eraseCellsBce_cellAt order (show stop ≤ g.cursorCells.length by omega) g.blankCell
  refine ⟨cells,done,?_⟩
  rw [canvas_withRow shaped]
  refine congrArg (g.canvas.withLine g.cursorRow) (funext fun j => ?_)
  change _ = if j < g.cols ∧ Erases g.cursorCells g.cursorCol stop j then _ else (cellAt g.cursorCells j).face
  by_cases bound : j < g.cols
  · rw [each j (by omega)]
    by_cases cut : Erases g.cursorCells g.cursorCol stop j
    · rw [if_pos cut,if_pos ⟨bound,cut⟩]
      rfl
    · rw [if_neg cut,if_neg fun both => cut both.2]
  · rw [if_neg fun both => bound both.1,cellAt_outside (by omega),cellAt_outside (by omega)]

omit [UnicodeWidth] in
theorem eraseChars_run {g : Grid} (shaped : g.Shaped RowOk) {n : Nat} (inside : g.cursorCol + n ≤ g.cols) : ∃ cells,
    g.eraseChars n = .ok ((g.withRow g.cursorRow cells).markRange g.cursorRow g.cursorCol
      (min (g.cursorCol + n) g.cursorCells.length % 65536)) ∧
      (g.withRow g.cursorRow cells).canvas = g.canvas.erased g.settings (g.cursorCol + n) := by
  obtain ⟨read,_,width,_⟩ := shaped.cursorCells
  obtain ⟨cells,done,canvas⟩ := erased_canvas shaped inside (by omega)
  have edited : eraseCells g.cursorCells g.cursorCol n g.blankCell = .ok cells := by
    have stop : min (g.cursorCol + n) g.cursorCells.length = g.cursorCol + n := by omega
    unfold eraseCells
    dsimp only
    rw [stop,Nat.min_eq_left (by omega),done]
  have written := shaped.modifyCursorRow_eq (f := fun row => eraseCells row g.cursorCol n g.blankCell) edited
  refine ⟨cells,?_,canvas⟩
  unfold Grid.eraseChars
  rw [read,ok_bind,written]
  rfl

theorem eraseChars_paints {n : Nat} (sound : k.Sound s) (some : 0 < n) (inside : k.pos.col + n ≤ s.cols) :
    Paints s (writeEraseChars n) k fun _ k' => k' = k.erased s (k.pos.col + n) := by
  have fits : n ≤ u16Max := Nat.le_trans (by omega) sound.colsFit
  refine paints_tokens [countToken n 'X'] (k.erased s (k.pos.col + n)) (writeCount_run some 'X' rfl)
    (by simpa using countToken_wellFormed fits (by decide)) (fun g bears => ?_) rfl
  obtain ⟨shaped,rfl,rfl⟩ := bears
  obtain ⟨cells,ran,canvas⟩ := eraseChars_run shaped inside
  exact ⟨_,terminal_one _ (eraseToken_ops some fits) ((bind_pure (g.eraseChars n)).trans ran),rfl,canvas⟩

/-- `CSI K`: the rest of the line. -/
theorem eraseLine_paints (inside : k.pos.col < s.cols) :
    Paints s (tell (ascii "\x1b[K")) k fun _ k' => k' = k.erased s s.cols := by
  refine paints_tokens [.plain [] 'K'] (k.erased s s.cols) rfl
    (by simpa using plain_wellFormed (List.forall_mem_nil _) (Nat.zero_le _) (by decide)) (fun g bears => ?_) rfl
  obtain ⟨shaped,rfl,rfl⟩ := bears
  obtain ⟨cells,done,canvas⟩ := erased_canvas shaped (Nat.le_refl g.cols) (Nat.le_of_lt inside)
  have written := shaped.modifyCursorRow_eq (f := fun row => eraseCellsBce row g.cursorCol g.cols g.blankCell) done
  refine ⟨(g.withRow g.cursorRow cells).markRange g.cursorRow g.cursorCol g.cols,terminal_one [.eraseLine 0] rfl ?_,rfl,
    canvas⟩
  change g.eraseLine 0 >>= pure = _
  unfold Grid.eraseLine
  dsimp only
  rw [written]
  rfl

/-! ## Characters -/

namespace Canvas

/-- Where the cluster that a column belongs to starts. -/
def clusterCol (line : Nat → Cell) (col : Nat) : Nat := if (line col).isWideContinuation ∧ col > 0 then col - 1 else col

/-- The cluster left of the cursor. -/
def joint (s : Settings) (k : Canvas) : Option Nat :=
  (if k.pos.col ≥ s.cols then some (s.cols - 1) else if k.pos.col > 0 then some (k.pos.col - 1) else none).map (clusterCol k.line)

/-- The cluster a character joins. -/
def joinCol (s : Settings) (k : Canvas) (ch : Char) : Option Nat :=
  if charWidth ch ≠ 0 ∧ k.last ≠ some (k.pos.row,k.pos.col) then none
  else (k.joint s).bind fun col => if Joins ch (k.line col).contents then some col else none

/-- Where a character that joins none is put: at the cursor, or where the pending wrap takes it. -/
def base (s : Settings) (k : Canvas) : Pos := if k.pos.col < s.cols then k.pos else ⟨k.pos.row + 1,0⟩

/-- The columns with the other halves of the pairs that a glyph put at `col` splits. -/
def Parts (line : Nat → Cell) (col width j : Nat) : Prop :=
  (j + 1 = col ∧ (line col).isWideContinuation = true) ∨ (j = col + 1 ∧ width < 2 ∧ (line col).isWide = true) ∨
    (j = col + 2 ∧ width > 1 ∧ (line (col + 1)).isWide = true)

instance (line : Nat → Cell) (col width j : Nat) : Decidable (Parts line col width j) := by unfold Parts; infer_instance

/-- The line with a glyph put at `col`. -/
def glyphLine (cols : Nat) (line : Nat → Cell) (col width : Nat) (cell : Cell) : Nat → Cell := fun j =>
  if j < cols then
    if j = col then cell
    else if j = col + 1 ∧ width > 1 then .continuationOf cell.attrs none
    else if Parts line col width j then default
    else line j
  else line j

/-- The line with the cluster at `col` grown. -/
def grownLine (cols : Nat) (line : Nat → Cell) (col width : Nat) (cluster : List Char) : Nat → Cell := fun j =>
  if j < cols then
    if j = col then { line col with contents := cluster, isWide := decide (width > 1), isWideContinuation := false }
    else if j = col + 1 ∧ width > 1 then .continuationOf (line col).attrs none
    else if j = col + 1 ∧ width ≤ 1 ∧ (line (col + 1)).isWideContinuation = true then default
    else if j = col + 2 ∧ width > 1 ∧ (line (col + 1)).isWide = true then default
    else line j
  else line j

/-- The canvas with another line and the cursor behind what was printed in it. -/
def printed (k : Canvas) (row col : Nat) (line : Nat → Cell) : Canvas :=
  { k.withLine row line with pos := ⟨row,col⟩, last := some (row,col) }

/-- Where the cursor is once the cluster at `col` changed its width. -/
def followed (s : Settings) (k : Canvas) (col oldWidth newWidth : Nat) : Nat :=
  if k.pos.col ≠ col + oldWidth ∨ k.pos.col = s.cols ∧ newWidth ≥ oldWidth then k.pos.col else min (col + newWidth) s.cols

end Canvas

theorem joinCol_canvas (g : Grid) (ch : Char) : g.joinCol ch = g.canvas.joinCol g.settings ch := by
  unfold Grid.joinCol Canvas.joinCol Canvas.joint
  rw [Option.bind_map]
  rfl

omit [UnicodeWidth] in
theorem glyphPut_face {row written : Row} {col width : Nat} {cell : Cell} (put : GlyphPut row col width cell written) :
    (fun j => (cellAt written j).face) =
      Canvas.glyphLine row.length (fun j => (cellAt row j).face) col width cell.face := by
  funext j
  unfold Canvas.glyphLine
  dsimp only
  by_cases inside : j < row.length
  · have parts : Canvas.Parts (fun j => (cellAt row j).face) col width j ↔ Splits row col width j := Iff.rfl
    rw [if_pos inside,put.2 j inside,if_congr parts rfl rfl]
    split_ifs <;> rfl
  · rw [if_neg inside,cellAt_outside (by rw [put.1]; omega),cellAt_outside (by omega)]

omit [UnicodeWidth] in
theorem clusterGrown_face {row written : Row} {col width : Nat} {cluster : List Char} {hyperlink : Option Hyperlink}
    (grown : ClusterGrown row col width cluster hyperlink written) :
    (fun j => (cellAt written j).face) = Canvas.grownLine row.length (fun j => (cellAt row j).face) col width cluster := by
  funext j
  unfold Canvas.grownLine
  dsimp only
  by_cases inside : j < row.length
  · rw [if_pos inside,grown.2 j inside]
    split_ifs <;> first | rfl | simp_all
  · rw [if_neg inside,cellAt_outside (by rw [grown.1]; omega),cellAt_outside (by omega)]

omit [UnicodeWidth] in
/-- The wrap that a character performs before it is put down is a move to the next row. -/
theorem Grid.Bears.deferredWrap {g : Grid} (bears : g.Bears s k) (opened : s.Open) (room : (k.base s).row < s.rows) :
    ∃ w, g.touched.deferredWrap = .ok w ∧ w.Bears s { k with pos := k.base s } ∧ w.modeFlags.noAutowrap = false := by
  have parked := bears.parked
  have sound := bears.sound
  obtain ⟨shaped,rfl,rfl⟩ := bears
  have touched : g.touched.Shaped RowOk := { shaped with }
  have autowrap : g.modeFlags.noAutowrap = false := opened.autowrap
  have col := sound.col
  unfold Canvas.base at *
  unfold Grid.deferredWrap
  by_cases inside : g.canvas.pos.col < g.settings.cols
  · have unparked : ¬ (g.touched.modeFlags.pendingWrap = true ∧ g.touched.modeFlags.noAutowrap = false) := fun both => by
      have := parked.mpr both.1
      omega
    rw [if_neg unparked,if_pos inside]
    exact ⟨_,rfl,⟨touched,rfl,rfl⟩,autowrap⟩
  · rw [if_neg inside] at room ⊢
    have wraps : g.touched.modeFlags.pendingWrap = true ∧ g.touched.modeFlags.noAutowrap = false :=
      ⟨parked.mp (by omega),autowrap⟩
    rw [if_pos wraps]
    let start : Grid := { g.touched with modeFlags.pendingWrap := false, cursorCol := 0 }
    have cols := shaped.hasCols
    have home : start.Shaped RowOk := { touched with cursorCol := Nat.zero_le _, parked := by simp [start,Grid.touched]; omega }
    have bottom := opened.bottom
    change g.cursorRow + 1 < g.rows at room
    change g.scrollBottom + 1 = g.rows at bottom
    have rowsFit := shaped.rowsFit
    have next : addCursorOffset g.cursorRow 1 (g.rows - 1) = g.cursorRow + 1 := by
      unfold addCursorOffset satAdd16
      omega
    have fed : start.newlineActionWithWrap .soft =
        .ok ({ start with cursorRow := g.cursorRow + 1 }.setActiveRowWrap (g.cursorRow + 1) .soft) := by
      unfold Grid.newlineActionWithWrap
      rw [if_neg (show ¬ start.cursorRow = start.scrollBottom from show ¬ g.cursorRow = g.scrollBottom by omega)]
      change Except.ok ({ start with cursorRow := addCursorOffset g.cursorRow 1 (g.rows - 1) }.setActiveRowWrap
        (addCursorOffset g.cursorRow 1 (g.rows - 1)) .soft) = _
      rw [next]
    have kept := (home.newlineActionWithWrap (fun cols => RowOk.replicate CellOk.default rfl rfl cols) .soft).of_ok fed
    refine ⟨_,fed,⟨kept,rfl,?_⟩,autowrap⟩
    have lines : ({ start with cursorRow := g.cursorRow + 1 }.setActiveRowWrap (g.cursorRow + 1) .soft).canvas.lines =
        g.canvas.lines := by
      unfold Grid.setActiveRowWrap Grid.canvas Grid.visibleRow
      rw [Grid.activeGrid_setActiveGrid]
      rfl
    exact congrArg (fun lines => (⟨lines,⟨g.cursorRow + 1,0⟩,g.currentAttrs,g.lastPrint⟩ : Canvas)) lines

theorem perform_print {g h : Grid} {ch : Char} (ran : g.writeCharAtCursor ch = .ok h) :
    g.perform (Token.text ch).callback = .ok h := by
  change g.writeCharAtCursor ch >>= pure = _
  rw [ran]
  rfl

/-- A character that joins nothing is put down as the base of a cell. -/
theorem Grid.Bears.print_base {g : Grid} (bears : g.Bears s k) (opened : s.Open) (narrow : s.cols < u16Max) {ch : Char}
    (wide : charWidth ch ≠ 0) (alone : k.joinCol s ch = none) (room : (k.base s).row < s.rows) :
    ∃ h, g.perform (Token.text ch).callback = .ok h ∧ h.settings = s ∧
      h.canvas = k.printed (k.base s).row (min ((k.base s).col + charWidth ch) s.cols)
        (Canvas.glyphLine s.cols (k.lines (k.base s).row) (k.base s).col (charWidth ch) (glyphCell ch k.pen none)) := by
  obtain ⟨w,wrapped,wBears,autowrap⟩ := bears.deferredWrap opened room
  have width := charWidth_le ch
  have joins : g.touched.joinCol ch = none := by
    obtain ⟨_,rfl,rfl⟩ := bears
    exact (joinCol_canvas g ch).trans alone
  have written : g.writeCharAtCursor ch = w.placeChar ch (charWidth ch) := by
    rw [Grid.writeCharAtCursor_eq bears.shaped,joins]
    dsimp only
    rw [if_neg wide]
    unfold Grid.writeNewCell
    rw [wrapped,ok_bind,autowrap]
    rfl
  obtain ⟨wShaped,wSettings,wCanvas⟩ := wBears
  have pos : w.canvas.pos = k.base s := by rw [wCanvas]
  have lines : w.canvas.lines = k.lines := by rw [wCanvas]
  have pen : w.canvas.pen = k.pen := by rw [wCanvas]
  have cols : w.cols = s.cols := congrArg Settings.cols wSettings
  have row : w.cursorRow = (k.base s).row := congrArg Pos.row pos
  have col : w.cursorCol = (k.base s).col := congrArg Pos.col pos
  have inside : w.cursorCol < w.cols := by
    have hasCols := wShaped.hasCols
    rw [col,cols] at *
    unfold Canvas.base
    split
    case isTrue inside => exact inside
    case isFalse => exact hasCols
  obtain ⟨_,_,length,_⟩ := wShaped.cursorCells
  obtain ⟨cells,edited,put⟩ := writeGlyph_cellAt (show w.cursorCol < w.cursorCells.length by omega) (charWidth ch)
    (glyphCell ch w.currentAttrs w.activeHyperlink)
  rw [length] at edited
  have placed := Grid.placeChar_eq wShaped inside (wShaped.modifyCursorRow_eq (f := w.placeEdit ch) edited)
  rw [if_pos (by omega)] at placed
  refine ⟨_,perform_print (written.trans placed),wSettings,?_⟩
  have line := glyphPut_face put
  have drawn := canvas_withRow wShaped cells
  rw [line,length] at drawn
  have lines' : (w.withRow w.cursorRow cells).canvas.lines = Function.update k.lines (k.base s).row
      (Canvas.glyphLine s.cols (k.lines (k.base s).row) (k.base s).col (charWidth ch) (glyphCell ch k.pen none)) := by
    rw [drawn,← row,← col,← cols,← pen,← lines]
    rfl
  unfold Canvas.printed Canvas.withLine
  rw [← lines',← row,← col,← cols,← pen]
  rfl

/-- A character that joins a cluster grows it. -/
theorem Grid.Bears.print_join {g : Grid} (bears : g.Bears s k) (narrow : s.cols < u16Max) {ch : Char} {col : Nat}
    (joins : k.joinCol s ch = some col) (inside : col < s.cols) :
    ∃ h, g.perform (Token.text ch).callback = .ok h ∧ h.settings = s ∧
      h.canvas = k.printed k.pos.row
        (k.followed s col (cellWidth (k.line col)) (min (clusterWidth ((k.line col).contents ++ [ch])) 2))
        (Canvas.grownLine s.cols k.line col (min (clusterWidth ((k.line col).contents ++ [ch])) 2) ((k.line col).contents ++ [ch])) := by
  obtain ⟨shaped,rfl,rfl⟩ := bears
  have joins' : g.joinCol ch = some col := (joinCol_canvas g ch).trans joins
  obtain ⟨cells,grown,written⟩ := shaped.print_joins joins'
  have oldWidth : cellWidth (cellAt g.cursorCells col) ≤ 2 := by unfold cellWidth; split_ifs <;> omega
  have newWidth : g.grownWidth ch col ≤ 2 := Nat.min_le_right _ _
  change g.cols < u16Max at narrow
  change col < g.cols at inside
  rw [if_pos ⟨by omega,fun _ => by omega⟩] at written
  refine ⟨_,perform_print written,rfl,?_⟩
  obtain ⟨_,_,length,_⟩ := shaped.cursorCells
  have line := clusterGrown_face grown
  rw [length] at line
  have drawn := canvas_withRow shaped cells
  rw [line] at drawn
  have lines : (g.withRow g.cursorRow cells).canvas.lines = Function.update g.canvas.lines g.cursorRow
      (Canvas.grownLine g.cols g.canvas.line col (g.grownWidth ch col) ((cellAt g.cursorCells col).contents ++ [ch])) := by
    rw [drawn]
    rfl
  have cursor : (g.joinedCursor col (cellWidth (cellAt g.cursorCells col)) (g.grownWidth ch col)).1 =
      g.canvas.followed g.settings col (cellWidth (cellAt g.cursorCells col)) (g.grownWidth ch col) := by
    unfold Grid.joinedCursor Canvas.followed
    exact apply_ite Prod.fst _ _ _
  have drawn' : (g.touched.joined { g.activeGrid with rows := g.activeGrid.rows.set g.cursorRow cells } col
      (cellWidth (cellAt g.cursorCells col)) (g.grownWidth ch col)).canvas =
      (⟨(g.withRow g.cursorRow cells).canvas.lines,
        ⟨g.cursorRow,(g.joinedCursor col (cellWidth (cellAt g.cursorCells col)) (g.grownWidth ch col)).1⟩,g.currentAttrs,
        some (g.cursorRow,(g.joinedCursor col (cellWidth (cellAt g.cursorCells col)) (g.grownWidth ch col)).1)⟩ : Canvas) := rfl
  rw [drawn',lines,cursor]
  rfl

/-! ## Clusters -/

/-- A cluster that takes two columns at some point of its printing. -/
def Swells (cluster : List Char) : Prop := ∃ front, front ≠ [] ∧ front <+: cluster ∧ glyphWidth front > 1

/-- A cluster that has a width at every point of its growth. -/
def HasWidth (cluster : List Char) : Prop := ∀ front, 1 < front.length → front <+: cluster → clusterWidth front ≠ 0

theorem HasWidth.front {front rest : List Char} (sized : HasWidth (front ++ rest)) : HasWidth front :=
  fun first grown starts => sized first grown (starts.trans (List.prefix_append _ _))

theorem Printed.printable {cluster : List Char} (printed : Printed cluster) : ∀ ch ∈ cluster, Printable ch := by
  induction printed with
  | base ch prints _ => exact List.forall_mem_singleton.mpr prints
  | join cluster ch _ prints _ ih =>
    intro other inside
    rcases List.mem_append.mp inside with before | last
    · exact ih other before
    · rw [List.mem_singleton.mp last]
      exact prints

theorem Printed.width {cluster : List Char} (printed : Printed cluster) (sized : HasWidth cluster) : 1 ≤ glyphWidth cluster := by
  cases printed with
  | base ch _ wide => exact Nat.pos_of_ne_zero wide
  | join front ch before prints joins =>
    rw [glyphWidth_join before.ne_nil]
    have := sized (front ++ [ch]) (by simpa using List.length_pos_iff.mpr before.ne_nil) (List.prefix_refl _)
    omega

namespace Canvas

/-- No character with a width joins what is left of the cursor. -/
def Clear (s : Settings) (k : Canvas) : Prop := ∀ ch, charWidth ch ≠ 0 → k.joinCol s ch = none

/-- The columns right of `col` that printing a cluster there may leave blank. -/
def Clobbers (line : Nat → Cell) (col : Nat) (cluster : List Char) (j : Nat) : Prop :=
  (j = col + 1 ∧ ((line col).isWide = true ∨ Swells cluster)) ∨
    (j = col + 2 ∧ Swells cluster ∧ (line (col + 1)).isWide = true)

/-- A line with a cluster printed at `col`. -/
structure Stamped (cols : Nat) (line : Nat → Cell) (col : Nat) (cluster : List Char) (pen : Attrs)
    (stamped : Nat → Cell) : Prop where
  here : stamped col = { contents := cluster, isWide := decide (glyphWidth cluster > 1), attrs := pen }
  left : ∀ j, j < col → stamped j = line j
  second : col + 1 < cols → glyphWidth cluster > 1 → stamped (col + 1) = .continuationOf pen none
  right : ∀ j, col < j → j < cols → ¬ (j = col + 1 ∧ glyphWidth cluster > 1) →
    stamped j = line j ∨ stamped j = default ∧ Clobbers line col cluster j

/-- A cluster printed at `pos`, and the cursor behind it. -/
structure Stroke (s : Settings) (k : Canvas) (start : Pos) (cluster : List Char) (k' : Canvas) : Prop where
  pen : k'.pen = k.pen
  pos : k'.pos = ⟨start.row,min (start.col + glyphWidth cluster) s.cols⟩
  last : k'.last = some (k'.pos.row,k'.pos.col)
  others : ∀ i, i ≠ start.row → k'.lines i = k.lines i
  line : Stamped s.cols (k.lines start.row) start.col cluster k.pen (k'.lines start.row)

theorem base_stamped {cols : Nat} {line : Nat → Cell} {col : Nat} (inside : col < cols)
    (single : (line col).isWideContinuation = false) (ch : Char) (pen : Attrs) :
    Stamped cols line col [ch] pen (glyphLine cols line col (charWidth ch) (glyphCell ch pen none)) := by
  have single' : ¬ (line col).isWideContinuation = true := by simp [single]
  have swells (wide : charWidth ch > 1) : Swells [ch] := ⟨[ch],by simp,List.prefix_refl _,wide⟩
  refine ⟨?_,fun j before => ?_,fun next wide => ?_,fun j after bound other => ?_⟩
  · unfold glyphLine
    rw [if_pos inside,if_pos rfl]
    rfl
  · have whole : ¬ Parts line col (charWidth ch) j := by
      rintro (⟨_,second⟩ | ⟨same,_⟩ | ⟨same,_⟩)
      · exact single' second
      · omega
      · omega
    unfold glyphLine
    rw [if_pos (by omega),if_neg (by omega),if_neg (by omega),if_neg whole]
  · unfold glyphLine
    rw [if_pos next,if_neg (by omega),if_pos ⟨rfl,wide⟩]
    rfl
  · unfold glyphLine
    rw [if_pos bound,if_neg (by omega),if_neg (show ¬ (j = col + 1 ∧ charWidth ch > 1) from other)]
    split_ifs with parts
    · rcases parts with ⟨same,_⟩ | ⟨same,_,lead⟩ | ⟨same,wide,lead⟩
      · omega
      · exact .inr ⟨rfl,.inl ⟨same,.inl lead⟩⟩
      · exact .inr ⟨rfl,.inr ⟨same,swells wide,lead⟩⟩
    · exact .inl rfl

theorem Stamped.grow {cols : Nat} {line stamped : Nat → Cell} {col : Nat} {cluster : List Char} {pen : Attrs} (inside : col < cols)
    (before : Stamped cols line col cluster pen stamped) (some : cluster ≠ []) (ch : Char)
    (pairs : col + 1 < cols → (stamped (col + 1)).isWideContinuation = (stamped col).isWide) :
    Stamped cols line col (cluster ++ [ch]) pen (grownLine cols stamped col (glyphWidth (cluster ++ [ch])) (cluster ++ [ch])) := by
  have longer (swells : Swells cluster) : Swells (cluster ++ [ch]) := by
    obtain ⟨front,filled,starts,wide⟩ := swells
    exact ⟨front,filled,starts.trans (List.prefix_append _ _),wide⟩
  have lead : (stamped col).isWide = decide (glyphWidth cluster > 1) := by rw [before.here]
  have own (wide : glyphWidth cluster > 1) : Swells (cluster ++ [ch]) := longer ⟨cluster,some,List.prefix_refl _,wide⟩
  refine ⟨?_,fun j left => ?_,fun next wide => ?_,fun j after bound other => ?_⟩
  · unfold grownLine
    rw [if_pos inside,if_pos rfl,before.here]
  · unfold grownLine
    rw [if_pos (by omega),if_neg (by omega),if_neg (by omega),if_neg (by omega),if_neg (by omega),before.left j left]
  · unfold grownLine
    rw [if_pos next,if_neg (by omega),if_pos ⟨rfl,wide⟩,before.here]
  · unfold grownLine
    rw [if_pos bound,if_neg (by omega),if_neg other]
    split_ifs with freed cut
    -- the column was taken as long as the cluster was wide
    · obtain ⟨rfl,_,second⟩ := freed
      rw [pairs bound,lead,decide_eq_true_eq] at second
      exact .inr ⟨rfl,.inl ⟨rfl,.inr (own second)⟩⟩
    · obtain ⟨rfl,wide,next⟩ := cut
      have swells : Swells (cluster ++ [ch]) := ⟨_,by simp,List.prefix_refl _,wide⟩
      have narrow : ¬ glyphWidth cluster > 1 := fun wide' => by
        rw [before.second (by omega) wide'] at next
        cases next
      rcases before.right (col + 1) (by omega) (by omega) (fun both => narrow both.2) with same | ⟨blank,_⟩
      · exact .inr ⟨rfl,.inr ⟨rfl,swells,same ▸ next⟩⟩
      · rw [blank] at next
        cases next
    · have kept : ¬ (j = col + 1 ∧ glyphWidth cluster > 1) := by
        rintro ⟨rfl,wide⟩
        refine freed ⟨rfl,Nat.le_of_not_lt fun wide' => other ⟨rfl,wide'⟩,?_⟩
        rw [before.second bound wide]
        rfl
      rcases before.right j after bound kept with same | ⟨blank,clobbers⟩
      · exact .inl same
      · refine .inr ⟨blank,?_⟩
        rcases clobbers with ⟨same,lead | swells⟩ | ⟨same,swells,lead⟩
        · exact .inl ⟨same,.inl lead⟩
        · exact .inl ⟨same,.inr (longer swells)⟩
        · exact .inr ⟨same,longer swells,lead⟩

end Canvas

/-- Right after a cluster was printed its next character finds it. -/
theorem Canvas.Stroke.joinCol {pos : Pos} {cluster : List Char} {k' : Canvas} (stroke : k.Stroke s pos cluster k')
    (inside : pos.col < s.cols) (width : 1 ≤ glyphWidth cluster) {ch : Char} (joins : Joins ch cluster) :
    k'.joinCol s ch = some pos.col := by
  have le := glyphWidth_le cluster
  have here : (k'.line pos.col).contents = cluster := by
    unfold Canvas.line
    rw [stroke.pos,stroke.line.here]
  have single : (k'.line pos.col).isWideContinuation = false := by
    unfold Canvas.line
    rw [stroke.pos,stroke.line.here]
  have own : Canvas.clusterCol k'.line pos.col = pos.col := if_neg fun both => by
    rw [single] at both
    cases both.1
  have second (next : pos.col + 1 < s.cols) (wide : glyphWidth cluster > 1) :
      Canvas.clusterCol k'.line (pos.col + 1) = pos.col := by
    have continues : (k'.line (pos.col + 1)).isWideContinuation = true := by
      unfold Canvas.line
      rw [stroke.pos,stroke.line.second next wide]
      rfl
    exact if_pos ⟨continues,by omega⟩
  have col : k'.pos.col = min (pos.col + glyphWidth cluster) s.cols := by rw [stroke.pos]
  have joint : k'.joint s = some pos.col := by
    unfold Canvas.joint
    rw [col]
    by_cases wide : glyphWidth cluster > 1 ∧ pos.col + 1 < s.cols
    · have target : (if min (pos.col + glyphWidth cluster) s.cols ≥ s.cols then some (s.cols - 1)
          else if min (pos.col + glyphWidth cluster) s.cols > 0 then some (min (pos.col + glyphWidth cluster) s.cols - 1)
          else none) = some (pos.col + 1) := by
        split_ifs <;> (congr 1; omega)
      rw [target]
      exact congrArg some (second wide.2 wide.1)
    · have target : (if min (pos.col + glyphWidth cluster) s.cols ≥ s.cols then some (s.cols - 1)
          else if min (pos.col + glyphWidth cluster) s.cols > 0 then some (min (pos.col + glyphWidth cluster) s.cols - 1)
          else none) = some pos.col := by
        split_ifs <;> (congr 1; omega)
      rw [target]
      exact congrArg some own
  unfold Canvas.joinCol
  rw [if_neg fun both => both.2 stroke.last,joint]
  exact if_pos (by rw [here]; exact joins)

/-- The scalars of a printed cluster, one after the other, print the cluster. -/
theorem Grid.Bears.print_cluster (opened : s.Open) (narrow : s.cols < u16Max) {g : Grid} (bears : g.Bears s k)
    (clear : k.Clear s) (room : (k.base s).row < s.rows)
    (single : (k.lines (k.base s).row (k.base s).col).isWideContinuation = false) {cluster : List Char} (printed : Printed cluster)
    (sized : HasWidth cluster) :
    ∃ h k', (cluster.map Token.text).foldlM terminal.exec g = .ok h ∧ h.Bears s k' ∧ k.Stroke s (k.base s) cluster k' := by
  have hasCols := bears.sound.hasCols
  have inside : (k.base s).col < s.cols := by
    unfold Canvas.base
    split
    case isTrue inside => exact inside
    case isFalse => exact hasCols
  induction printed with
  | base ch prints wide =>
    obtain ⟨h,ran,settings,canvas⟩ := bears.print_base opened narrow wide (clear ch wide) room
    have played : ([ch].map Token.text).foldlM terminal.exec g = .ok h := (bind_pure (g.perform (Token.text ch).callback)).trans ran
    refine ⟨h,_,played,bears.played played settings canvas,rfl,rfl,rfl,fun i other => ?_,?_⟩
    · exact Function.update_of_ne other ..
    · have line : (k.printed (k.base s).row (min ((k.base s).col + charWidth ch) s.cols)
          (Canvas.glyphLine s.cols (k.lines (k.base s).row) (k.base s).col (charWidth ch) (glyphCell ch k.pen none))).lines
            (k.base s).row = _ := Function.update_self ..
      rw [line]
      exact Canvas.base_stamped inside single ch k.pen
  | join cluster ch before prints joins ih =>
    obtain ⟨h,k',played,bears',stroke⟩ := ih sized.front
    have width := before.width sized.front
    have le := glyphWidth_le cluster
    have width' := (Printed.join cluster ch before prints joins).width sized
    have le' := glyphWidth_le (cluster ++ [ch])
    have found := stroke.joinCol inside width joins
    obtain ⟨h',ran,settings,canvas⟩ := bears'.print_join narrow found inside
    have row : k'.pos.row = (k.base s).row := by rw [stroke.pos]
    have col : k'.pos.col = min ((k.base s).col + glyphWidth cluster) s.cols := by rw [stroke.pos]
    have line : k'.line = k'.lines (k.base s).row := congrArg k'.lines row
    have here : k'.line (k.base s).col = { contents := cluster, isWide := decide (glyphWidth cluster > 1), attrs := k.pen } := by
      rw [line,stroke.line.here]
    have contents : (k'.line (k.base s).col).contents = cluster := by rw [here]
    have oldWidth : cellWidth (k'.line (k.base s).col) = glyphWidth cluster := by
      have filled : cluster.isEmpty = false := by simpa using before.ne_nil
      rw [here]
      unfold cellWidth
      simp only [filled,decide_eq_true_eq]
      split_ifs <;> first | omega | simp_all
    rw [contents,← glyphWidth_join before.ne_nil,oldWidth,row] at canvas
    have cursor : k'.followed s (k.base s).col (glyphWidth cluster) (glyphWidth (cluster ++ [ch])) =
        min ((k.base s).col + glyphWidth (cluster ++ [ch])) s.cols := by
      unfold Canvas.followed
      split_ifs <;> omega
    rw [cursor,line] at canvas
    have played' : ((cluster ++ [ch]).map Token.text).foldlM terminal.exec g = .ok h' := by
      rw [List.map_append,List.foldlM_append,played,ok_bind]
      exact (bind_pure (h.perform (Token.text ch).callback)).trans ran
    refine ⟨h',_,played',bears.played played' settings canvas,stroke.pen,rfl,rfl,fun i other => ?_,?_⟩
    · exact (Function.update_of_ne other ..).trans (stroke.others i other)
    · have drawn : (k'.printed (k.base s).row (min ((k.base s).col + glyphWidth (cluster ++ [ch])) s.cols)
          (Canvas.grownLine s.cols (k'.lines (k.base s).row) (k.base s).col (glyphWidth (cluster ++ [ch])) (cluster ++ [ch]))).lines
            (k.base s).row = _ := Function.update_self ..
      rw [drawn]
      exact stroke.line.grow inside before.ne_nil ch fun next => bears'.sound.pairs _ _ next

theorem cluster_paints (opened : s.Open) (narrow : s.cols < u16Max) (clear : k.Clear s)
    (room : (k.base s).row < s.rows) (single : (k.lines (k.base s).row (k.base s).col).isWideContinuation = false)
    {cluster : List Char} (printed : Printed cluster) (sized : HasWidth cluster) :
    Paints s (tell (utf8.spell cluster)) k fun _ k' => k.Stroke s (k.base s) cluster k' := by
  intro g bears
  obtain ⟨h,k',played,bears',stroke⟩ := bears.print_cluster opened narrow clear room single printed sized
  refine ⟨(),cluster.map Token.text,h,?_,?_,played,k',stroke,bears'⟩
  · exact congrArg (fun bytes => Except.ok ((),bytes)) (encodeAll_text cluster).symm
  · intro t inside
    obtain ⟨ch,member,rfl⟩ := List.mem_map.mp inside
    exact printed.printable ch member

end

end Termpane
