import Termpane.Checked

/-!
# Cells

The colours and attributes of `cell.rs`, cells, and rows of cells. Text is a
list of scalars. A link is compared by value, as `Arc` compares it.
-/
namespace Termpane

/-- `cell.rs` `Color`. -/
inductive Color
  | default
  | idx (i : UInt8)
  | rgb (r g b : UInt8)
  deriving DecidableEq, Repr

instance : Inhabited Color := ⟨.default⟩

inductive UnderlineStyle
  | none
  | single
  | double
  | curly
  | dotted
  | dashed
  deriving DecidableEq, Repr

/-- The SGR attributes of a cell, and the pen. -/
structure Attrs where
  foreground : Color := .default
  background : Color := .default
  underlineColor : Color := .default
  underlineStyle : UnderlineStyle := .none
  bold : Bool := false
  italic : Bool := false
  inverse : Bool := false
  dim : Bool := false
  strikethrough : Bool := false
  slowBlink : Bool := false
  rapidBlink : Bool := false
  conceal : Bool := false
  overline : Bool := false
  deriving DecidableEq, Repr

instance : Inhabited Attrs := ⟨{}⟩

structure Hyperlink where
  id : List Char
  uri : List Char
  deriving DecidableEq, Repr

structure Cell where
  contents : List Char := []
  isWide : Bool := false
  isWideContinuation : Bool := false
  attrs : Attrs := {}
  hyperlink : Option Hyperlink := none
  deriving DecidableEq, Repr

/-- `Cell::default()`. -/
instance : Inhabited Cell := ⟨{}⟩

abbrev Row := List Cell

def Cell.hasContents (c : Cell) : Bool := !c.contents.isEmpty

/-- U+200D, the joiner. -/
def zwj : Char := '\u200d'

/-- `contents.ends_with('\u{200d}')`. -/
def endsWithZwj (contents : List Char) : Bool := contents.getLast? == some zwj

def maxClusterJoiners : Nat := 16

/-- A blank cell of one background colour, all a background erase leaves. -/
def Cell.blankOn (background : Color) : Cell := { attrs := { background := background } }

/-- The continuation cell of a wide lead. -/
def Cell.continuationOf (attrs : Attrs) (hyperlink : Option Hyperlink) : Cell :=
  { isWideContinuation := true, attrs := attrs, hyperlink := hyperlink }

/-- The cell at a column, a default cell outside the row. -/
def cellAt (row : Row) (col : Nat) : Cell := row[col]?.getD default

@[simp] theorem default_contents : (default : Cell).contents = [] := rfl
@[simp] theorem default_isWide : (default : Cell).isWide = false := rfl
@[simp] theorem default_isWideContinuation : (default : Cell).isWideContinuation = false := rfl
@[simp] theorem default_attrs : (default : Cell).attrs = {} := rfl
@[simp] theorem default_hyperlink : (default : Cell).hyperlink = none := rfl
@[simp] theorem default_hasContents : (default : Cell).hasContents = false := rfl

@[simp] theorem blankOn_contents (b : Color) : (Cell.blankOn b).contents = [] := rfl
@[simp] theorem blankOn_isWide (b : Color) : (Cell.blankOn b).isWide = false := rfl
@[simp] theorem blankOn_isWideContinuation (b : Color) : (Cell.blankOn b).isWideContinuation = false := rfl
@[simp] theorem blankOn_attrs (b : Color) : (Cell.blankOn b).attrs = { background := b } := rfl
@[simp] theorem blankOn_hyperlink (b : Color) : (Cell.blankOn b).hyperlink = none := rfl

@[simp] theorem continuationOf_contents (a : Attrs) (h : Option Hyperlink) :
    (Cell.continuationOf a h).contents = [] := rfl
@[simp] theorem continuationOf_isWide (a : Attrs) (h : Option Hyperlink) :
    (Cell.continuationOf a h).isWide = false := rfl
@[simp] theorem continuationOf_isWideContinuation (a : Attrs) (h : Option Hyperlink) :
    (Cell.continuationOf a h).isWideContinuation = true := rfl
@[simp] theorem continuationOf_attrs (a : Attrs) (h : Option Hyperlink) :
    (Cell.continuationOf a h).attrs = a := rfl

theorem cellAt_outside {row : Row} {j : Nat} (outside : row.length ≤ j) : cellAt row j = default := by
  simp [cellAt,List.getElem?_eq_none outside]

theorem cellAt_inside {row : Row} {j : Nat} (inside : j < row.length) : cellAt row j = row[j] := by
  simp [cellAt,List.getElem?_eq_getElem inside]

theorem cellAt_mem {row : Row} {j : Nat} (inside : j < row.length) : cellAt row j ∈ row := by
  rw [cellAt_inside inside]; exact List.getElem_mem inside

theorem mem_iff_cellAt {row : Row} {c : Cell} : c ∈ row ↔ ∃ j, j < row.length ∧ cellAt row j = c := by
  rw [List.mem_iff_getElem]
  constructor
  · rintro ⟨j,inside,same⟩; exact ⟨j,inside,by rw [cellAt_inside inside,same]⟩
  · rintro ⟨j,inside,same⟩; exact ⟨j,inside,by rw [← cellAt_inside inside,same]⟩

/-- A guarded read of a cell's flag: `col < row.len() && p(row[col])`. -/
theorem getElem?_any_eq {row : Row} {j : Nat} {p : Cell → Bool} (no : p default = false) :
    row[j]?.any p = p (cellAt row j) := by
  unfold cellAt
  cases row[j]? with
  | none => simpa using no.symm
  | some c => rfl

theorem any_isWide (row : Row) (j : Nat) : row[j]?.any (·.isWide) = (cellAt row j).isWide := getElem?_any_eq rfl

theorem any_isWideContinuation (row : Row) (j : Nat) :
    row[j]?.any (·.isWideContinuation) = (cellAt row j).isWideContinuation := getElem?_any_eq rfl

theorem at?_cellAt {row : Row} {j : Nat} (inside : j < row.length) : at? row j = .ok (cellAt row j) := by
  simp [at?,cellAt,List.getElem?_eq_getElem inside]

@[simp] theorem cellAt_set (row : Row) (i : Nat) (c : Cell) (j : Nat) :
    cellAt (row.set i c) j = if i = j ∧ j < row.length then c else cellAt row j := by
  unfold cellAt
  rw [List.getElem?_set]
  by_cases same : i = j
  · subst same
    by_cases inside : i < row.length
    · simp [inside]
    · simp [inside]
  · simp [same]

theorem cellAt_setIf (condition : Bool) (row : Row) (i : Nat) (c : Cell) (j : Nat) :
    cellAt (if condition then row.set i c else row) j =
      if condition = true ∧ i = j ∧ j < row.length then c else cellAt row j := by
  cases condition <;> simp

theorem length_setIf (condition : Bool) (row : Row) (i : Nat) (c : Cell) :
    (if condition then row.set i c else row).length = row.length := by
  cases condition <;> simp

theorem cellAt_replicate (n : Nat) (c : Cell) (j : Nat) :
    cellAt (List.replicate n c) j = if j < n then c else default := by
  unfold cellAt
  rw [List.getElem?_replicate]
  split <;> rfl

theorem cellAt_mapIdx {row : Row} (f : Nat → Cell → Cell) {j : Nat} (inside : j < row.length) :
    cellAt (row.mapIdx f) j = f j (cellAt row j) := by
  simp [cellAt,List.getElem?_mapIdx,List.getElem?_eq_getElem inside]

/-- A guarded write, read at a column. -/
theorem assignIf_cellAt (condition : Bool) (row : Row) {i : Nat} (inside : condition = true → i < row.length) (c : Cell) :
    ∃ row', assignIf condition row i c = .ok row' ∧ row'.length = row.length ∧
      ∀ j, cellAt row' j = if condition = true ∧ i = j then c else cellAt row j := by
  cases condition with
  | false => exact ⟨row,rfl,rfl,fun j => by simp⟩
  | true =>
    have bound := inside rfl
    refine ⟨row.set i c,assign_ok bound c,List.length_set,fun j => ?_⟩
    rw [cellAt_set]
    by_cases same : i = j
    · subst same; simp [bound]
    · simp [same]

/-- Rows of one length that agree at every column are equal. -/
theorem row_ext {row other : Row} (length : row.length = other.length)
    (agree : ∀ j, j < row.length → cellAt row j = cellAt other j) : row = other := by
  apply List.ext_getElem length
  intro j inside inside'
  rw [← cellAt_inside inside,← cellAt_inside inside',agree j inside]

/-- A range fill, read at a column. -/
theorem fill_cellAt {row : Row} {start stop : Nat} (order : start ≤ stop) (inside : stop ≤ row.length) (c : Cell) :
    ∃ filled, fill row start stop c = .ok filled ∧ filled.length = row.length ∧
      ∀ j, cellAt filled j = if start ≤ j ∧ j < stop then c else cellAt row j := by
  refine ⟨_,fill_ok order inside c,?_,?_⟩
  · simp only [List.length_append,List.length_take,List.length_replicate,List.length_drop]; omega
  · intro j
    unfold cellAt
    rw [List.append_assoc]
    rcases Nat.lt_or_ge j start with before | after
    · rw [List.getElem?_append_left (by rw [List.length_take]; omega),List.getElem?_take_of_lt before,
        if_neg (by omega)]
    · have taken : (row.take start).length = start := by rw [List.length_take]; omega
      rw [List.getElem?_append_right (by omega),taken]
      rcases Nat.lt_or_ge j stop with within | beyond
      · rw [List.getElem?_append_left (by rw [List.length_replicate]; omega),List.getElem?_replicate,
          if_pos (by omega),if_pos ⟨after,within⟩]
        rfl
      · rw [List.getElem?_append_right (by rw [List.length_replicate]; omega),List.length_replicate,
          List.getElem?_drop,if_neg (by omega),show stop + (j - start - (stop - start)) = j by omega]

end Termpane
