import Termpane.Printing
import Termpane.Provenance
import Termpane.Repaint
import Termpane.Views

/-!
# Arithmetic on sizes

Columns and rows are `u16`s, indices into a row `usize`s. Every addition, subtraction and
multiplication of the handlers is listed here with its operands, a sum of `usize`s also
where its branch is not taken. The results are numbers of their types but in two places,
both at the right margin of the widest grids: the next tab stop, and the column behind a
wide glyph. A run ends well if and only if it is spared them. In the views of the history
one sum is too large where more rows are asked for than could ever be kept.
-/
namespace Termpane

open Lib

/-- The unsigned types of sizes. -/
inductive SizeType
  | u16
  | usize
  deriving DecidableEq, Repr

/-- The largest number of a type. -/
def SizeType.max : SizeType → Nat
  | .u16 => u16Max
  | .usize => 2 ^ 64 - 1

/-- One operation on sizes. Those that saturate have a result whatever their operands. -/
inductive Arith
  | add (type : SizeType) (a b : Nat)
  | sub (type : SizeType) (a b : Nat)
  | mul (type : SizeType) (a b : Nat)
  deriving DecidableEq, Repr

/-- The result is a number of the type. -/
def Arith.InType : Arith → Prop
  | .add type a b => a + b ≤ type.max
  | .sub _ a b => b ≤ a
  | .mul type a b => a * b ≤ type.max

instance (a : Arith) : Decidable a.InType := by cases a <;> unfold Arith.InType <;> infer_instance

/-- All results are numbers of their types. -/
def InTypes (l : List Arith) : Prop := ∀ a ∈ l, a.InType

instance (l : List Arith) : Decidable (InTypes l) := by unfold InTypes; infer_instance

@[simp] theorem inTypes_nil : InTypes [] := fun _ none => nomatch none

@[simp] theorem inTypes_cons {a : Arith} {l : List Arith} : InTypes (a :: l) ↔ a.InType ∧ InTypes l := List.forall_mem_cons

@[simp] theorem inTypes_append {l l' : List Arith} : InTypes (l ++ l') ↔ InTypes l ∧ InTypes l' := List.forall_mem_append

@[simp] theorem inTypes_when {c : Prop} [Decidable c] {l : List Arith} : InTypes (if c then l else []) ↔ (c → InTypes l) := by
  by_cases holds : c <;> simp [holds]

@[simp] theorem inTypes_unless {c : Prop} [Decidable c] {l : List Arith} : InTypes (if c then [] else l) ↔ (¬ c → InTypes l) := by
  by_cases holds : c <;> simp [holds]

@[simp] theorem sub_inType {type : SizeType} {a b : Nat} : (Arith.sub type a b).InType ↔ b ≤ a := Iff.rfl

@[simp] theorem add16_inType {a b : Nat} : (Arith.add .u16 a b).InType ↔ a + b ≤ u16Max := Iff.rfl

@[simp] theorem mul16_inType {a b : Nat} : (Arith.mul .u16 a b).InType ↔ a * b ≤ u16Max := Iff.rfl

/-- The sum of two sizes is an index. -/
theorem usize_inType {a b : Nat} (small : a + b ≤ 2 * u16Max) : (Arith.add .usize a b).InType := by
  unfold u16Max at small
  change a + b ≤ 2 ^ 64 - 1
  omega

/-! ## Row helpers -/

/-- The first block of `write_char_at_cursor`. -/
def partnersArith (row : Row) (col : Nat) : List Arith :=
  (if (cellAt row col).isWideContinuation = true ∧ col > 0 then [.sub .usize col 1] else []) ++
    [.add .usize col 1,.add .usize col 2]

/-- `set_cell_width`. -/
def cellWidthArith (col : Nat) : List Arith := [.add .usize col 1,.add .usize col 2]

/-- `erase_cells_bce`. -/
def eraseArith (row : Row) (start stop : Nat) : List Arith :=
  (if stop > start ∧ stop < row.length then [.sub .usize stop 1] else []) ++
    if start > 0 ∧ (cellAt row start).isWideContinuation = true then [.sub .usize start 1] else []

/-- `repair_wide_pairs`. -/
def repairArith (row : Row) : List Arith :=
  (List.range row.length).flatMap fun i => (if i = 0 then [] else [.sub .usize i 1]) ++ [.add .usize i 1]

/-- ICH. -/
def insertArith (row : Row) (col n cols : Nat) : List Arith :=
  let stop := min cols row.length
  (List.range' col (stop - n - col)).map (.add .usize · n) ++ [.add .usize col n] ++ if col < stop then repairArith row else []

/-- DCH. -/
def deleteArith (row : Row) (col n cols : Nat) : List Arith :=
  (List.range' col (cols - n - col)).map (.add .usize · n) ++ repairArith row

/-- The counts of the edits in a row, which the dispatcher takes from a `u16`. -/
def Op.Counted : Op → Prop
  | .insertChars n | .deleteChars n | .eraseChars n => n ≤ u16Max
  | _ => True

namespace Grid

/-! ## Handlers -/

/-- `scroll_bottom - top + 1`. -/
def regionArith (g : Grid) (top : Nat) : List Arith := [.sub .u16 g.scrollBottom top,.add .u16 (g.scrollBottom - top) 1]

/-- `newline_action_with_wrap`. -/
def newlineArith (g : Grid) : List Arith := if g.cursorRow = g.scrollBottom then g.regionArith g.scrollTop else []

/-- The last row with contents, `rposition`. -/
def lastWithContents (rows : List Row) : Option Nat := (rows.reverse.findIdx? rowHasContents).map (rows.length - 1 - ·)

/-- `preserve_visible_rows_to_scrollback`: the length of the block to compare. -/
def preserveArith (g : Grid) : List Arith :=
  if g.eraseDisplayPolicy = .discard ∨ g.modeFlags.altScreen ∨ g.scrollbackLimit = 0 then []
  else if !g.modeFlags.mutatedSincePreserve then []
  else
    match g.primary.rows.findIdx? rowHasContents,lastWithContents g.primary.rows with
    | some first,some last =>
      if g.lastPreservedBlock.isSome then [.sub .usize last first,.add .usize (last - first) 1] else []
    | _,_ => []

/-- EL and ED up to the cursor: `col.min(cols - 1) + 1`, and the erase. -/
def eraseToArith (g : Grid) : List Arith :=
  [.sub .usize g.cols 1,.add .usize (min g.cursorCol (g.cols - 1)) 1] ++
    eraseArith g.cursorCells 0 (min g.cursorCol (g.cols - 1) + 1)

/-- `erase_line`. -/
def eraseLineArith (g : Grid) (mode : Nat) : List Arith :=
  match mode with
  | 0 => eraseArith g.cursorCells g.cursorCol g.cols
  | 1 => g.eraseToArith
  | _ => []

/-- `erase_display`. -/
def eraseDisplayArith (g : Grid) (mode : Nat) : List Arith :=
  match mode with
  | 0 =>
    (if g.cursorRow = 0 ∧ g.cursorCol = 0 then g.preserveArith else []) ++
      eraseArith g.cursorCells g.cursorCol g.cols ++ [.add .usize g.cursorRow 1]
  | 1 => g.eraseToArith
  | 2 => g.preserveArith
  | _ => []

section
variable [UnicodeWidth]

/-- The sums of `append_to_previous_cluster` once a cluster is found: behind it as it was,
    beside it, and behind it as it is where the cursor follows. -/
def joinArith (g : Grid) (col oldWidth newWidth : Nat) : List Arith :=
  [.add .u16 col oldWidth] ++ cellWidthArith col ++
    if g.cursorCol = col + oldWidth ∨ g.modeFlags.pendingWrap = true ∨ g.cursorCol ≥ g.cols then [.add .u16 col newWidth] else []

/-- `append_to_previous_cluster`. -/
def appendArith (g : Grid) (ch : Char) : List Arith :=
  if charWidth ch ≠ 0 ∧ g.lastPrint ≠ some (g.cursorRow,g.cursorCol) then []
  else
    (if g.cursorCol < g.cols ∧ g.cursorCol > 0 then [.sub .u16 g.cursorCol 1] else []) ++
    (match g.clusterTarget with
      | some target => if (cellAt g.cursorCells target).isWideContinuation = true ∧ target > 0 then [.sub .usize target 1] else []
      | none => []) ++
    match g.joinCol ch with
    | some col => g.joinArith col (cellWidth (cellAt g.cursorCells col)) (g.grownWidth ch col)
    | none => []

/-- The end of `write_char_at_cursor`, with the glyph at `col`. -/
def placeArith (g : Grid) (col width : Nat) : List Arith :=
  partnersArith g.cursorCells col ++ [.add .usize col 1,.add .u16 col width]

/-- `write_char_at_cursor`. -/
def printArith (g : Grid) (ch : Char) : List Arith :=
  g.appendArith ch ++
    if g.joinCol ch ≠ none ∨ charWidth ch = 0 then []
    else
      (if g.modeFlags.pendingWrap ∧ g.modeFlags.noAutowrap = false then g.newlineArith else []) ++
      match g.touched.deferredWrap with
      | .error _ => []
      | .ok w =>
        if w.modeFlags.noAutowrap then
          if charWidth ch > w.cols - w.baseCol then [] else w.placeArith w.baseCol (charWidth ch)
        else if w.cursorCol ≥ w.cols then [] else w.placeArith w.cursorCol (charWidth ch)

/-- What an operation computes. The cursor's moves, the margins, the resets and the modes
    only compare and saturate. -/
def arithmetic (g : Grid) : Op → List Arith
  | .print ch => g.printArith ch
  | .newline => g.newlineArith
  | .backspace => if g.modeFlags.pendingWrap = false ∧ g.cursorCol > 0 then [.sub .u16 g.cursorCol 1] else []
  | .tab => [.add .u16 (g.cursorCol / 8) 1,.mul .u16 (g.cursorCol / 8 + 1) 8]
  | .insertChars n => insertArith g.cursorCells g.cursorCol n g.cols
  | .eraseDisplay mode => g.eraseDisplayArith mode
  | .eraseLine mode => g.eraseLineArith mode
  | .insertLines _ => if g.cursorRow < g.scrollTop ∨ g.cursorRow > g.scrollBottom then [] else g.regionArith g.cursorRow
  | .deleteLines _ =>
    if g.cursorRow < g.scrollTop ∨ g.cursorRow > g.scrollBottom then []
    else g.regionArith g.cursorRow ++ [.add .usize (g.activeGrid.remove g.cursorRow).len 1]
  | .deleteChars n => deleteArith g.cursorCells g.cursorCol n g.cols
  | .scrollUp _ => g.regionArith g.scrollTop
  | .scrollDown _ => g.regionArith g.scrollTop
  | .eraseChars n =>
    let stop := min (g.cursorCol + n) g.cursorCells.length
    [.add .usize g.cursorCol n] ++ eraseArith g.cursorCells (min g.cursorCol stop) stop
  | _ => []

/-- What a step of a run computes. The calls of the host compute nothing: they clamp. -/
def stepArith (g : Grid) : Step → List Arith
  | .op op => g.arithmetic op
  | .host _ => []

/-! ## Where they fit -/

/-- In the last column of a grid 65535 columns wide no glyph is put and no cluster becomes
    two columns wide. -/
def ColumnsFit (g : Grid) (ch : Char) : Prop :=
  match g.joinCol ch with
  | some col => g.cols = u16Max → col + 1 = g.cols → g.grownWidth ch col ≤ 1
  | none => g.cols = u16Max → g.cursorCol + 1 = g.cols → g.autowrap = true → charWidth ch ≤ 1

instance (g : Grid) (ch : Char) : Decidable (g.ColumnsFit ch) := by
  unfold ColumnsFit
  split <;> infer_instance

/-- The cursor goes to a next tab stop only from the left of the last eight columns there
    could be. -/
def SizesFit (g : Grid) : Op → Prop
  | .print ch => g.ColumnsFit ch
  | .tab => g.cursorCol < 65528
  | _ => True

instance (g : Grid) (op : Op) : Decidable (g.SizesFit op) :=
  decidable_of_bool (match op with
    | .print ch => decide (g.ColumnsFit ch)
    | .tab => decide (g.cursorCol < 65528)
    | _ => true) (by cases op <;> first | exact decide_eq_true_iff | exact iff_of_true rfl trivial)

/-- The condition on a step of a run. -/
def StepFits (g : Grid) : Step → Prop
  | .op op => g.SizesFit op
  | .host _ => True

instance (g : Grid) (step : Step) : Decidable (g.StepFits step) := by cases step <;> unfold StepFits <;> infer_instance

/-! ## Row helpers and handlers that fit -/

omit [UnicodeWidth] in
theorem partnersArith_inTypes (row : Row) {col : Nat} (small : col < u16Max) : InTypes (partnersArith row col) := by
  simp only [partnersArith,inTypes_append,inTypes_when,inTypes_cons,inTypes_nil,sub_inType,and_true]
  exact ⟨fun both => both.2,usize_inType (by omega),usize_inType (by unfold u16Max at *; omega)⟩

omit [UnicodeWidth] in
theorem eraseArith_inTypes (row : Row) (start stop : Nat) : InTypes (eraseArith row start stop) := by
  simp only [eraseArith,inTypes_append,inTypes_when,inTypes_cons,inTypes_nil,sub_inType,and_true]
  exact ⟨fun both => by omega,fun both => both.1⟩

omit [UnicodeWidth] in
theorem repairArith_inTypes {row : Row} (small : row.length ≤ u16Max) : InTypes (repairArith row) := by
  intro a listed
  obtain ⟨i,inside,found⟩ := List.mem_flatMap.mp listed
  rw [List.mem_range] at inside
  have each : InTypes ((if i = 0 then [] else [.sub .usize i 1]) ++ [.add .usize i 1]) := by
    simp only [inTypes_append,inTypes_unless,inTypes_cons,inTypes_nil,sub_inType,and_true]
    exact ⟨fun first => by omega,usize_inType (by omega)⟩
  exact each a found

omit [UnicodeWidth] in
/-- The sums of a loop that shifts cells by `n` columns. -/
theorem shifts_inTypes {start count n : Nat} (small : start + count + n ≤ 2 * u16Max) :
    InTypes ((List.range' start count).map (.add .usize · n)) := by
  intro a listed
  obtain ⟨c,inside,rfl⟩ := List.mem_map.mp listed
  rw [List.mem_range'_1] at inside
  exact usize_inType (by omega)

variable {g : Grid} {P : Row → Prop}

omit [UnicodeWidth] in
theorem Shaped.regionArith_inTypes (shaped : g.Shaped P) {top : Nat} (order : top ≤ g.scrollBottom) : InTypes (g.regionArith top) := by
  have bottom := shaped.bottom
  have rowsFit := shaped.rowsFit
  simp only [regionArith,inTypes_cons,inTypes_nil,sub_inType,add16_inType,and_true]
  omega

omit [UnicodeWidth] in
theorem Shaped.newlineArith_inTypes (shaped : g.Shaped P) : InTypes g.newlineArith := by
  rw [newlineArith,inTypes_when]
  exact fun _ => shaped.regionArith_inTypes shaped.margins

omit [UnicodeWidth] in
theorem lastWithContents_le {rows : List Row} {first last : Nat} (isFirst : rows.findIdx? rowHasContents = some first)
    (isLast : lastWithContents rows = some last) : first ≤ last ∧ last < rows.length := by
  obtain ⟨k,found,rfl⟩ := Option.map_eq_some_iff.mp isLast
  obtain ⟨inside,holds,_⟩ := List.findIdx?_eq_some_iff_getElem.mp found
  rw [List.length_reverse] at inside
  refine ⟨?_,by omega⟩
  by_contra before
  have blank := (List.findIdx?_eq_some_iff_getElem.mp isFirst).2.2 (rows.length - 1 - k) (by omega)
  rw [List.getElem_reverse] at holds
  exact blank holds

omit [UnicodeWidth] in
theorem Shaped.preserveArith_inTypes (shaped : g.Shaped P) : InTypes g.preserveArith := by
  have rowsFit := shaped.rowsFit
  have count := shaped.primary.rowCount
  simp only [preserveArith,inTypes_unless]
  intro _ _
  split
  case h_1 first last isFirst isLast =>
    obtain ⟨order,inside⟩ := lastWithContents_le isFirst isLast
    simp only [inTypes_when,inTypes_cons,inTypes_nil,sub_inType,and_true]
    exact fun _ => ⟨order,usize_inType (by omega)⟩
  case h_2 => exact inTypes_nil

omit [UnicodeWidth] in
theorem Shaped.eraseToArith_inTypes (shaped : g.Shaped P) : InTypes g.eraseToArith := by
  have cols := shaped.hasCols
  have colsFit := shaped.colsFit
  simp only [eraseToArith,inTypes_append,inTypes_cons,inTypes_nil,sub_inType,and_true]
  exact ⟨⟨cols,usize_inType (by omega)⟩,eraseArith_inTypes _ _ _⟩

omit [UnicodeWidth] in
theorem Shaped.eraseLineArith_inTypes (shaped : g.Shaped P) (mode : Nat) : InTypes (g.eraseLineArith mode) := by
  unfold eraseLineArith
  split
  · exact eraseArith_inTypes _ _ _
  · exact shaped.eraseToArith_inTypes
  · exact inTypes_nil

omit [UnicodeWidth] in
theorem Shaped.eraseDisplayArith_inTypes (shaped : g.Shaped P) (mode : Nat) : InTypes (g.eraseDisplayArith mode) := by
  have row := shaped.cursorRow
  have rowsFit := shaped.rowsFit
  unfold eraseDisplayArith
  split
  · simp only [inTypes_append,inTypes_when,inTypes_cons,inTypes_nil,and_true]
    exact ⟨⟨fun _ => shaped.preserveArith_inTypes,eraseArith_inTypes _ _ _⟩,usize_inType (by omega)⟩
  · exact shaped.eraseToArith_inTypes
  · exact shaped.preserveArith_inTypes
  · exact inTypes_nil

/-! ## Printing -/

/-- A cluster's old width fits where it stands, and its new one everywhere but in the last column. -/
theorem Shaped.joinFits_iff (shaped : g.Shaped RowFits) {ch : Char} {col : Nat} (joins : g.joinCol ch = some col) :
    g.JoinFits col (cellWidth (cellAt g.cursorCells col)) (g.grownWidth ch col) ↔
      (g.cols = u16Max → col + 1 = g.cols → g.grownWidth ch col ≤ 1) := by
  obtain ⟨target,inside,before,rfl,_⟩ := joinCol_some shaped.hasCols joins
  obtain ⟨_,_,width,fits⟩ := shaped.cursorCells
  have start : clusterCol g.cursorCells target ≤ target := by unfold clusterCol; split_ifs <;> omega
  generalize clusterCol g.cursorCells target = col at *
  have cursor := shaped.cursorCol
  have colsFit := shaped.colsFit
  have grown : g.grownWidth ch col ≤ 2 := Nat.min_le_right _ _
  have old : cellWidth (cellAt g.cursorCells col) ≤ 2 := by unfold cellWidth; split_ifs <;> omega
  have oldFits : col + cellWidth (cellAt g.cursorCells col) ≤ u16Max := by
    by_cases wide : (cellAt g.cursorCells col).isWide = true
    · have behind := fits.wide (width ▸ colsFit) (by omega) wide
      omega
    · have narrow : cellWidth (cellAt g.cursorCells col) ≤ 1 := by
        unfold cellWidth
        rw [if_neg wide]
        split_ifs <;> omega
      omega
  unfold JoinFits
  rw [and_iff_right oldFits]
  constructor
  · intro newFits full last
    have parked : g.cursorCol = g.cols := by
      by_contra left
      have := before (by omega)
      omega
    have := newFits (.inr parked)
    omega
  · intro narrow _
    by_cases last : g.cols = u16Max ∧ col + 1 = g.cols
    · have := narrow last.1 last.2
      omega
    · omega

theorem Shaped.appendArith_iff (shaped : g.Shaped RowFits) (ch : Char) : InTypes (g.appendArith ch) ↔
    ∀ col, g.joinCol ch = some col → g.JoinFits col (cellWidth (cellAt g.cursorCells col)) (g.grownWidth ch col) := by
  unfold appendArith
  by_cases moved : charWidth ch ≠ 0 ∧ g.lastPrint ≠ some (g.cursorRow,g.cursorCol)
  · have alone : g.joinCol ch = none := if_pos moved
    rw [if_pos moved,alone]
    exact iff_of_true inTypes_nil fun _ none => nomatch none
  rw [if_neg moved,inTypes_append,inTypes_append]
  have steps : InTypes (if g.cursorCol < g.cols ∧ g.cursorCol > 0 then [.sub .u16 g.cursorCol 1] else []) := by
    simp only [inTypes_when,inTypes_cons,inTypes_nil,sub_inType,and_true]
    exact fun both => both.2
  have back : InTypes (match g.clusterTarget with
      | some target => if (cellAt g.cursorCells target).isWideContinuation = true ∧ target > 0 then [.sub .usize target 1] else []
      | none => []) := by
    split
    · simp only [inTypes_when,inTypes_cons,inTypes_nil,sub_inType,and_true]
      exact fun both => both.2
    · exact inTypes_nil
  rw [and_iff_right steps,and_iff_right back]
  cases joins : g.joinCol ch with
  | none => exact iff_of_true inTypes_nil fun _ none => nomatch none
  | some col =>
    have colFits : col < g.cols := by
      obtain ⟨target,inside,_,rfl,_⟩ := joinCol_some shaped.hasCols joins
      unfold clusterCol
      split_ifs <;> omega
    have colsFit := shaped.colsFit
    have parked := shaped.parked
    have inside := shaped.cursorCol
    have beside : InTypes (cellWidthArith col) := by
      simp only [cellWidthArith,inTypes_cons,inTypes_nil,and_true]
      exact ⟨usize_inType (by omega),usize_inType (by unfold u16Max at *; omega)⟩
    have followed : (g.cursorCol = col + cellWidth (cellAt g.cursorCells col) ∨ g.modeFlags.pendingWrap = true ∨
        g.cursorCol ≥ g.cols) ↔ g.cursorCol = col + cellWidth (cellAt g.cursorCells col) ∨ g.cursorCol = g.cols := by
      rw [← parked]
      omega
    simp only [joinArith,inTypes_append,inTypes_when,inTypes_cons,inTypes_nil,add16_inType,and_true,and_iff_left beside,followed,
      Option.some.injEq,forall_eq']
    rfl

omit [UnicodeWidth] in
/-- A glyph at a column: the column behind it is what may not fit. -/
theorem placeArith_iff (w : Grid) {col : Nat} (small : col < u16Max) (width : Nat) :
    InTypes (w.placeArith col width) ↔ col + width ≤ u16Max := by
  simp only [placeArith,inTypes_append,inTypes_cons,inTypes_nil,add16_inType,and_true]
  rw [and_iff_right (partnersArith_inTypes _ small),and_iff_right (usize_inType (by omega))]

omit [UnicodeWidth] in
/-- Left of the right margin the columns behind a glyph are not counted only where it is wide
    and in the last column there could be. -/
theorem behind_iff {col cols width : Nat} (left : col < cols) (counted : cols ≤ u16Max) (narrow : width ≤ 2) {on : Prop}
    (holds : on) : col + width ≤ u16Max ↔ (cols = u16Max → col + 1 = cols → on → width ≤ 1) := by
  constructor
  · intro fits full last _
    omega
  · intro thin
    by_cases last : cols = u16Max ∧ col + 1 = cols
    · have := thin last.1 last.2 holds
      omega
    · omega

theorem Shaped.printArith_iff (shaped : g.Shaped RowFits) (ch : Char) :
    InTypes (g.printArith ch) ↔ g.ColumnsFit ch := by
  have touched : g.touched.Shaped RowFits := { shaped with }
  have cursor := shaped.cursorCol
  have colsFit := shaped.colsFit
  have hasCols := shaped.hasCols
  have narrow := charWidth_le ch
  unfold printArith
  rw [inTypes_append,shaped.appendArith_iff]
  unfold ColumnsFit
  cases joins : g.joinCol ch with
  | some col =>
    simp only [Option.some.injEq,forall_eq',ne_eq,reduceCtorEq,not_false_eq_true,true_or,if_true,inTypes_nil,and_true]
    exact shaped.joinFits_iff joins
  | none =>
    simp only [reduceCtorEq,false_imp_iff,implies_true,true_and,ne_eq,not_true_eq_false,false_or]
    by_cases mark : charWidth ch = 0
    · rw [if_pos mark]
      exact iff_of_true inTypes_nil fun _ _ _ => by omega
    rw [if_neg mark,inTypes_append,inTypes_when,and_iff_right fun _ => shaped.newlineArith_inTypes]
    obtain ⟨w,wrapped,wShaped,sameCols,sameFlag,_,_,_,home,stays⟩ := touched.deferredWrap_cases
    have wCols := wShaped.hasCols
    have parked := shaped.parked
    rw [wrapped]
    change w.cols = g.cols at sameCols
    dsimp only
    by_cases clips : g.modeFlags.noAutowrap = true
    · rw [if_pos (sameFlag.trans clips),inTypes_unless]
      have base : w.baseCol < w.cols := by unfold baseCol; omega
      refine iff_of_true (fun room => ?_) fun _ _ on => ?_
      · rw [placeArith_iff w (by omega)]
        omega
      · rw [autowrap,clips] at on
        cases on
    have on : g.modeFlags.noAutowrap = false := by simpa using clips
    rw [if_neg (by rw [sameFlag]; exact clips),inTypes_unless]
    by_cases wraps : g.modeFlags.pendingWrap = true
    · have first : w.cursorCol = 0 := home ⟨wraps,on⟩
      have past := parked.mpr wraps
      refine iff_of_true (fun _ => ?_) fun _ last _ => by omega
      rw [placeArith_iff w (by rw [first]; decide)]
      unfold u16Max
      omega
    -- no wrap is due: the glyph goes where the cursor is
    · have same : w = g.touched := stays fun both => wraps both.1
      have left : g.cursorCol < g.cols := by rw [← parked] at wraps; omega
      rw [same]
      change (¬ g.cursorCol ≥ g.cols → InTypes (g.touched.placeArith g.cursorCol (charWidth ch))) ↔ _
      rw [placeArith_iff _ (by omega),imp_iff_right (by omega)]
      exact behind_iff left colsFit narrow (by rw [autowrap,on]; rfl)

/-- What an operation is handed: the counts of the edits in a row are parameters of a sequence. -/
theorem Shaped.arithmetic_iff (shaped : g.Shaped RowFits) {op : Op} (counted : op.Counted) :
    InTypes (g.arithmetic op) ↔ g.SizesFit op := by
  obtain ⟨_,_,width,_⟩ := shaped.cursorCells
  have cursor := shaped.cursorCol
  have colsFit := shaped.colsFit
  cases op
  case print ch => exact shaped.printArith_iff ch
  case tab =>
    change InTypes [.add .u16 (g.cursorCol / 8) 1,.mul .u16 (g.cursorCol / 8 + 1) 8] ↔ g.cursorCol < 65528
    simp only [inTypes_cons,inTypes_nil,add16_inType,mul16_inType,and_true]
    unfold u16Max at *
    omega
  case backspace =>
    refine iff_of_true ?_ trivial
    change InTypes (if g.modeFlags.pendingWrap = false ∧ g.cursorCol > 0 then [.sub .u16 g.cursorCol 1] else [])
    simp only [inTypes_when,inTypes_cons,inTypes_nil,sub_inType,and_true]
    exact fun both => both.2
  case newline => exact iff_of_true shaped.newlineArith_inTypes trivial
  case insertChars n =>
    refine iff_of_true ?_ trivial
    change n ≤ u16Max at counted
    change InTypes (insertArith g.cursorCells g.cursorCol n g.cols)
    simp only [insertArith,inTypes_append,inTypes_when,inTypes_cons,inTypes_nil,and_true]
    refine ⟨⟨shifts_inTypes (by omega),usize_inType (by omega)⟩,fun _ => repairArith_inTypes (by omega)⟩
  case eraseDisplay mode => exact iff_of_true (shaped.eraseDisplayArith_inTypes mode) trivial
  case eraseLine mode => exact iff_of_true (shaped.eraseLineArith_inTypes mode) trivial
  case insertLines p0 =>
    refine iff_of_true (inTypes_unless.mpr ?_) trivial
    exact fun inside => shaped.regionArith_inTypes (by omega)
  case deleteLines p0 =>
    refine iff_of_true (inTypes_unless.mpr ?_) trivial
    simp only [inTypes_append,inTypes_cons,inTypes_nil,and_true]
    have count := shaped.active.rowCount
    have row := shaped.cursorRow
    have rowsFit := shaped.rowsFit
    refine fun inside => ⟨shaped.regionArith_inTypes (by omega),usize_inType ?_⟩
    rw [RowStore.remove,shaped.active.removed shaped.cursorRow,RowStore.len]
    dsimp only
    rw [List.length_eraseIdx_of_lt (by rw [count]; exact row),count]
    omega
  case deleteChars n =>
    refine iff_of_true ?_ trivial
    change n ≤ u16Max at counted
    change InTypes (deleteArith g.cursorCells g.cursorCol n g.cols)
    simp only [deleteArith,inTypes_append]
    refine ⟨shifts_inTypes (by omega),repairArith_inTypes (by omega)⟩
  case scrollUp n => exact iff_of_true (shaped.regionArith_inTypes shaped.margins) trivial
  case scrollDown p0 => exact iff_of_true (shaped.regionArith_inTypes shaped.margins) trivial
  case eraseChars n =>
    change n ≤ u16Max at counted
    refine iff_of_true (inTypes_append.mpr ⟨?_,eraseArith_inTypes _ _ _⟩) trivial
    exact inTypes_cons.mpr ⟨usize_inType (by omega),inTypes_nil⟩
  all_goals exact iff_of_true inTypes_nil trivial

/-! ## Where they end -/

/-- A character is printed if and only if the columns behind it are counted in `u16`. -/
theorem Shaped.print_ok_iff (shaped : g.Shaped RowFits) (ch : Char) :
    (∃ h, g.writeCharAtCursor ch = .ok h) ↔ g.ColumnsFit ch := by
  have narrow := charWidth_le ch
  have colsFit := shaped.colsFit
  have cursor := shaped.cursorCol
  have parked := shaped.parked
  unfold ColumnsFit
  cases joins : g.joinCol ch with
  | some col =>
    dsimp only
    obtain ⟨cells,_,written⟩ := shaped.print_joins joins
    rw [written,← shaped.joinFits_iff joins]
    split_ifs with fits
    · exact iff_of_true ⟨_,rfl⟩ fits
    · exact iff_of_false (by rintro ⟨_,⟨⟩⟩) fits
  | none =>
    dsimp only
    by_cases dropped : charWidth ch = 0 ∨ g.TooWide ch
    · rw [shaped.print_dropped joins dropped]
      refine iff_of_true ⟨_,rfl⟩ fun _ _ on => ?_
      rcases dropped with mark | ⟨off,_⟩
      · omega
      · rw [autowrap,off] at on
        cases on
    · obtain ⟨mark,room⟩ := not_or.mp dropped
      obtain ⟨w,_,_,_,_,⟨cells,_,done,stops⟩,fits⟩ := shaped.print_places joins mark room
      have ends : (∃ h, g.writeCharAtCursor ch = .ok h) ↔ w.baseCol + charWidth ch ≤ u16Max := by
        by_cases ended : w.baseCol + charWidth ch ≤ u16Max
        · exact iff_of_true ((done ended).imp fun _ result => result.1) ended
        · rw [stops ended]
          exact iff_of_false (by rintro ⟨_,⟨⟩⟩) ended
      rw [ends,fits]
      unfold baseCol
      by_cases off : g.modeFlags.noAutowrap = true
      -- what is not too wide ends at the margin
      · have inside : ¬ charWidth ch > g.cols - g.baseCol := fun wide => room ⟨off,wide⟩
        unfold baseCol at inside
        refine iff_of_true (.inr (by omega)) fun _ _ on => ?_
        rw [autowrap,off] at on
        cases on
      · have on : g.modeFlags.noAutowrap = false := by simpa using off
        rw [autowrap,on]
        by_cases wraps : g.modeFlags.pendingWrap = true
        · have past := parked.mpr wraps
          exact iff_of_true (.inl ⟨wraps,rfl⟩) fun _ last _ => by omega
        · have left : g.cursorCol < g.cols := by rw [← parked] at wraps; omega
          have here : min g.cursorCol (g.cols - 1) = g.cursorCol := by omega
          rw [or_iff_right (fun both => wraps both.1),here]
          exact behind_iff left colsFit narrow rfl

omit [UnicodeWidth] in
theorem Shaped.newline_ok (shaped : g.Shaped P) (wrap : RowWrap) : ∃ h, g.newlineActionWithWrap wrap = .ok h := by
  rw [newline_eq]
  split_ifs
  · exact ⟨_,shaped.scrollUp_eq 1 wrap⟩
  · exact ⟨_,rfl⟩

theorem tab_ok_iff (g : Grid) : (∃ h, g.exec .tab = .ok h) ↔ g.cursorCol < 65528 := by
  unfold exec add16
  by_cases first : g.cursorCol / 8 + 1 ≤ u16Max
  · rw [if_pos first,ok_bind]
    by_cases second : (g.cursorCol / 8 + 1) * 8 ≤ u16Max
    · rw [if_pos second]
      exact iff_of_true ⟨_,rfl⟩ (by unfold u16Max at second; omega)
    · rw [if_neg second]
      exact iff_of_false (by rintro ⟨_,⟨⟩⟩) (by unfold u16Max at second; omega)
  · rw [if_neg first]
    exact iff_of_false (by rintro ⟨_,⟨⟩⟩) (by unfold u16Max at first; omega)

omit [UnicodeWidth] in
/-- An edit of the cursor's row that succeeds, before what always ends. -/
theorem Shaped.edit_ok (shaped : g.Shaped P) {f : Row → Checked Row} {rest : Grid → Checked Grid}
    (edits : ∀ cells, P cells → cells.length = g.cols → Edits P cells (f cells)) (ends : ∀ h, ∃ h', rest h = .ok h') :
    ∃ h, (g.modifyActiveRow g.cursorRow f >>= rest) = .ok h := by
  obtain ⟨s,edited,_⟩ := shaped.modifyActiveRow shaped.cursorRow fun cells _ => edits cells
  rw [edited,ok_bind]
  exact ends _

/-- An operation ends well if and only if its sizes fit. -/
theorem Shaped.exec_ok_iff (shaped : g.Shaped RowFits) {op : Op} (granted : op.Granted fun _ => True) :
    (∃ h, g.exec op = .ok h) ↔ g.SizesFit op := by
  have inside := shaped.cursorCol
  cases op
  case print ch => exact shaped.print_ok_iff ch
  case tab => exact g.tab_ok_iff
  case newline => exact iff_of_true (shaped.newline_ok .hard) trivial
  case insertChars n =>
    refine iff_of_true (shaped.edit_ok (fun cells holds width => ?_) fun _ => ⟨_,rfl⟩) trivial
    exact width ▸ (rowFits_law fun _ => True).insert cells g.cursorCol n holds (width ▸ inside)
  case deleteChars n =>
    refine iff_of_true (shaped.edit_ok (fun cells holds width => ?_) fun _ => ⟨_,rfl⟩) trivial
    exact width ▸ (rowFits_law fun _ => True).delete cells g.cursorCol n holds (width ▸ inside) granted
  case eraseChars n =>
    change 0 < n at granted
    obtain ⟨row,read,_⟩ := shaped.active.get shaped.cursorRow
    change (∃ h, (at? g.activeGrid.rows g.cursorRow >>= _) = .ok h) ↔ True
    rw [read,ok_bind]
    refine iff_of_true (shaped.edit_ok (fun cells holds width => ?_) fun _ => ⟨_,rfl⟩) trivial
    exact (rowFits_law fun _ => True).erase cells _ _ _ holds (by omega) (by omega) (by omega)
  case eraseDisplay mode =>
    refine iff_of_true ?_ trivial
    by_cases known : mode ≤ 3
    · exact (shaped.eraseDisplay_cells known).imp fun _ done => done.1
    · obtain ⟨n,rfl⟩ := Nat.exists_eq_add_of_le' (Nat.lt_of_not_le known)
      exact ⟨_,rfl⟩
  case eraseLine mode =>
    refine iff_of_true ?_ trivial
    by_cases known : mode ≤ 2
    · exact (shaped.eraseLine_cells known).imp fun _ done => done.1
    · obtain ⟨n,rfl⟩ := Nat.exists_eq_add_of_le' (Nat.lt_of_not_le known)
      exact ⟨_,rfl⟩
  case insertLines p0 => exact iff_of_true ⟨_,shaped.insertLines_eq p0⟩ trivial
  case deleteLines p0 => exact iff_of_true ⟨_,shaped.deleteLines_eq p0⟩ trivial
  case scrollUp n => exact iff_of_true ⟨_,shaped.scrollUp_eq n .hard⟩ trivial
  case scrollDown p0 => exact iff_of_true ⟨_,shaped.scrollDown_eq p0⟩ trivial
  case reverseIndex => exact iff_of_true ⟨_,shaped.reverseIndex_eq⟩ trivial
  all_goals exact iff_of_true ⟨_,rfl⟩ trivial

end

/-! ## Counts -/

/-- The parameters of a sequence are `u16`s, and so is the count an edit is handed. -/
theorem csiOps_counted {params : List Param} (small : ∀ param ∈ params, ∀ n ∈ param, n ≤ u16Max) (intermediates : Bytes)
    (action : Char) : (csiOps params intermediates action).Forall Op.Counted := by
  have first : (params.map Param.first)[0]?.getD 0 ≤ u16Max := by
    cases params with
    | nil => exact Nat.zero_le _
    | cons param params =>
      cases param with
      | nil => exact Nat.zero_le _
      | cons n param => exact small _ List.mem_cons_self n List.mem_cons_self
  have one : max ((params.map Param.first)[0]?.getD 0) 1 ≤ u16Max := Nat.max_le.mpr ⟨first,by decide⟩
  unfold csiOps
  split
  all_goals
    dsimp only
    repeat' split
    all_goals first
      | exact one
      | trivial
      | simp [List.forall_iff_forall_mem,Op.Counted]

theorem ops_counted (c : Callback) : ∀ op ∈ c.ops, op.Counted := by
  cases c with
  | execute byte =>
    simp only [Callback.ops,Termpane.execute]
    split_ifs
    all_goals simp [Op.Counted]
  | csiDispatch params intermediates ignore action =>
    have small : ∀ param ∈ params.map (·.map UInt16.toNat), ∀ n ∈ param, n ≤ u16Max := by
      intro param inside n listed
      obtain ⟨words,_,rfl⟩ := List.mem_map.mp inside
      obtain ⟨word,_,rfl⟩ := List.mem_map.mp listed
      exact Nat.le_of_lt_succ word.toNat_lt
    intro op inside
    rcases List.mem_append.mp inside with cleared | dispatched
    · split_ifs at cleared
      · rw [List.mem_singleton.mp cleared]; trivial
      · cases cleared
    · exact List.forall_iff_forall_mem.mp (csiOps_counted small intermediates action) op dispatched
  | escDispatch intermediates ignore byte =>
    simp only [Callback.ops,Termpane.escDispatch]
    split_ifs
    all_goals simp [Op.Counted]
  | _ => simp [Callback.ops,Op.Counted]

end Grid

/-- The counts of a step's operation. -/
def Step.Counted : Step → Prop
  | .op edit => edit.Counted
  | .host _ => True

theorem stepsFrom_counted [Vte] (s : Vte.State) (pending : Bytes) (run : List Call) :
    ∀ step ∈ stepsFrom s pending run, step.Counted := by
  induction run generalizing s pending with
  | nil => intro _ none; cases none
  | cons call run ih =>
    intro step inside
    cases call with
    | process bytes =>
      rcases List.mem_append.mp inside with now | later
      · obtain ⟨op,listed,rfl⟩ := List.mem_map.mp now
        obtain ⟨c,_,among⟩ := List.mem_flatMap.mp listed
        exact Grid.ops_counted c op among
      · exact ih _ _ step later
    | host c =>
      rcases List.mem_cons.mp inside with rfl | later
      · trivial
      · exact ih _ _ step later

/-! ## Rows of the scrollback -/

/-- `a + b` on `usize`. -/
def addUsize (a b : Nat) : Checked Nat := if a + b ≤ SizeType.usize.max then .ok (a + b) else .error .overflow

namespace Grid

/-- `scrollback_rows_at_offset`, with the sum of its operands checked. -/
def scrollbackRowsChecked (g : Grid) (offset maxRows : Nat) : Checked (List Row) :=
  let len := g.scrollback.len
  if offset = 0 ∨ len = 0 ∨ maxRows = 0 then .ok []
  else do
    let clamped := min offset len
    let start := len - clamped
    let stop := min (← addUsize start maxRows) len
    return (List.range' start (stop - start)).filterMap g.scrollback.get

/-- The end of the requested rows is an index, or nothing is requested. -/
def RowsFit (g : Grid) (offset maxRows : Nat) : Prop :=
  offset = 0 ∨ g.scrollback.len = 0 ∨ maxRows = 0 ∨ g.scrollback.len - offset + maxRows ≤ SizeType.usize.max

/-- The rows asked for are returned if and only if their end is an index. -/
theorem scrollbackRowsChecked_iff (g : Grid) (offset maxRows : Nat) :
    g.scrollbackRowsChecked offset maxRows = .ok ((g.scrollback.rows.drop (g.scrollback.len - offset)).take maxRows) ↔
      g.RowsFit offset maxRows := by
  have start : g.scrollback.len - min offset g.scrollback.len = g.scrollback.len - offset := by omega
  rw [← scrollbackRowsAtOffset_eq]
  unfold scrollbackRowsChecked scrollbackRowsAtOffset RowsFit
  by_cases nothing : offset = 0 ∨ g.scrollback.len = 0 ∨ maxRows = 0
  · simp only [if_pos nothing]
    exact iff_of_true trivial (by tauto)
  · simp only [if_neg nothing,start]
    by_cases fits : g.scrollback.len - offset + maxRows ≤ SizeType.usize.max
    · have sum : addUsize (g.scrollback.len - offset) maxRows = .ok (g.scrollback.len - offset + maxRows) := if_pos fits
      rw [sum]
      exact iff_of_true rfl (.inr (.inr (.inr fits)))
    · have past : addUsize (g.scrollback.len - offset) maxRows = .error .overflow := if_neg fits
      rw [past]
      exact iff_of_false (by rintro ⟨⟩) (by tauto)

end Grid

/-! ## Runs -/

section
variable [UnicodeWidth]

/-- A step in a state its run can be in ends well if and only if its sizes fit, and then
    all that it computes is in its type. -/
theorem Grid.Ready.fits_iff {g : Grid} {step : Step} (ready : Ready RowFits g step) (counted : step.Counted) :
    ((∃ h, g.take step = .ok h) ↔ g.StepFits step) ∧ (InTypes (g.stepArith step) ↔ g.StepFits step) := by
  cases step with
  | op op => exact ⟨ready.1.exec_ok_iff ready.2.1,ready.1.arithmetic_iff counted⟩
  | host c => exact ⟨iff_of_true ⟨_,rfl⟩ trivial,iff_of_true inTypes_nil trivial⟩

variable [Vte]

namespace DamageGrid

/-- A run ends well if and only if the sizes of all its steps fit. -/
theorem sizes_exact {rows cols : UInt16} (hasRows : 0 < rows) (hasCols : 0 < cols) (scrollbackLimit : Nat) (run : List Call) :
    ((∃ d, (new rows cols scrollbackLimit).calls run = .ok d) ↔
      StepsMeet Grid.take Grid.StepFits (new rows cols scrollbackLimit).grid ((new rows cols scrollbackLimit).steps run)) ∧
    (StepsMeet Grid.take (fun g step => InTypes (g.stepArith step)) (new rows cols scrollbackLimit).grid
        ((new rows cols scrollbackLimit).steps run) ↔
      StepsMeet Grid.take Grid.StepFits (new rows cols scrollbackLimit).grid ((new rows cols scrollbackLimit).steps run)) ∧
    ∀ g, (new rows cols scrollbackLimit).Visits run g →
      (∃ bytes, g.stateFormatted = .ok bytes) ∧
      (∀ (rows' cols' : UInt16) (scrollbackLimit' : Nat) (run' : List Call) (prev : Grid), 0 < rows' → 0 < cols' →
        (new rows' cols' scrollbackLimit').Visits run' prev → ∃ bytes, g.stateDiff prev = .ok bytes) ∧
      ∀ offset maxRows,
        g.scrollbackRowsChecked offset maxRows = .ok ((g.scrollback.rows.drop (g.scrollback.len - offset)).take maxRows) ↔
          g.RowsFit offset maxRows := by
  have shaped := (sound_new (rowFits_law fun _ => True).blank hasRows hasCols scrollbackLimit).grid
  have tame : Tame false ((new rows cols scrollbackLimit).steps run) := stepsFrom_tame _ _ run
  have ready := (shaped.takes_ready (rowFits_law _) (fun none => absurd none Bool.false_ne_true) tame).2
  have each := ready.mono fun g step listed ready => ready.fits_iff (stepsFrom_counted _ _ run step listed)
  refine ⟨?_,?_,fun g visited => ?_⟩
  · rw [← run_ok_iff each fun g step both => both.1]
    have same := calls_grid (new rows cols scrollbackLimit) run
    constructor
    · rintro ⟨d,ran⟩
      rw [ran] at same
      exact ⟨d.grid,same.symm⟩
    · rintro ⟨h,ran⟩
      cases ended : (new rows cols scrollbackLimit).calls run with
      | error e =>
        rw [ended,ran] at same
        cases same
      | ok d => exact ⟨d,rfl⟩
  · exact ⟨fun inTypes => each.imp inTypes fun g step both holds => both.2.mp holds,
      fun fits => each.imp fits fun g step both holds => both.2.mpr holds⟩
  · have fits := visited.shaped_law (rowFits_law _) hasRows hasCols
    refine ⟨fits.stateFormatted_ok,fun rows' cols' limit' run' prev hasRows' hasCols' visited' => ?_,g.scrollbackRowsChecked_iff⟩
    exact fits.stateDiff_ok (visited'.shaped_law (rowFits_law _) hasRows' hasCols')

end DamageGrid

end

section
attribute [local instance] byteParser blockWidth

open DamageGrid

theorem sizes_exact_small :
    (∃ d, (new 2 20 5).calls [.process (ascii "a\t")] = .ok d) ∧
      ∃ bytes, (new 2 20 5).grid.stateDiff (new 3 10 0).grid = .ok bytes :=
  ⟨(sizes_exact (by decide) (by decide) 5 _).1.mpr (by decide),
    ((sizes_exact (by decide) (by decide) 5 []).2.2 _ ⟨[],[],rfl,rfl⟩).2.1 3 10 0 [] _ (by decide) (by decide) ⟨[],[],rfl,rfl⟩⟩

/-- A tab stop past `u16`, and rows past `usize`. -/
theorem sizes_past_tab :
    ¬ StepsMeet Grid.take (fun g step => InTypes (g.stepArith step)) (new 1 65535 0).grid
      ((new 1 65535 0).steps [.process (ascii "\x1b[65530G\t")]) ∧
    (new 1 65535 0).calls [.process (ascii "\x1b[65530G\t")] = .error .overflow ∧
    ((new 2 2 2).calls [.process (ascii "\n\n\n")]).map (·.grid.scrollbackRowsChecked 1 SizeType.usize.max) =
      .ok (.error .overflow) :=
  ⟨by decide,rfl,by decide⟩

end

end Termpane
