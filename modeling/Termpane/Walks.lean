import Termpane.Perform
import Termpane.Shape

/-!
# What handlers are made of

A handler that prints, edits, erases, moves or scrolls reads the screens, the cursor,
the margins, the pen and the modes of the grid, and makes a few kinds of edits on what it
read. Each is walked here once, for any relation of two grids which grants that the
reads agree and which the edits respect.
-/
namespace Termpane

open Lib

/-- The edits handlers are made of. -/
inductive Edit
  | row (i : Nat) (cells : Row)
  | fill (start stop : Nat) (blank : Row)
  | markRange (row start stop : Nat)
  | markRows (top bottom : Nat)
  | markAll
  | cursor (row col : Nat) (pending : Bool) (lastPrint : Option (Nat × Nat))
  | screen (s : RowStore)
  | evict (top : Nat) (row : Row)
  | record (op : ScrollOp)
  | touch
  | preserve
  | forget

namespace Edit

/-- Cells are written, and marked. -/
def OnCells : Edit → Prop
  | .row _ _ | .fill _ _ _ | .markRange _ _ _ | .markAll => True
  | _ => False

def OnCursor : Edit → Prop
  | .cursor _ _ _ _ => True
  | _ => False

/-- Lines are moved, marked and kept in the history. -/
def OnLines : Edit → Prop
  | .markRows _ _ | .markAll | .screen _ | .evict _ _ | .record _ | .touch => True
  | _ => False

/-- Cells are written after the screen was saved or the history cleared. -/
def OnDisplay : Edit → Prop
  | .preserve | .forget => True
  | e => e.OnCells

theorem OnCells.onDisplay {e : Edit} (cells : e.OnCells) : e.OnDisplay := by
  cases e with
  | row | fill | markRange | markAll => trivial
  | _ => exact cells.elim

/-- What a character put down writes. -/
def OnGlyph (e : Edit) : Prop := e.OnCells ∨ e.OnCursor

/-- What text writes, with the lines it scrolls. -/
def OnText (e : Edit) : Prop := e.OnGlyph ∨ e.OnLines

end Edit

namespace Grid

def edit (g : Grid) : Edit → Grid
  | .row i cells => g.setActiveGrid { g.activeGrid with rows := g.activeGrid.rows.set i cells }
  | .fill start stop blank => g.setActiveGrid (g.activeGrid.fillRows start stop blank)
  | .markRange row start stop => { g with dirty := g.dirty.markRange row start stop }
  | .markRows top bottom => { g with dirty := g.dirty.markRows top bottom }
  | .markAll => g.markAll
  | .cursor row col pending lastPrint =>
    { g with cursorRow := row, cursorCol := col, modeFlags.pendingWrap := pending, lastPrint := lastPrint }
  | .screen s => g.setActiveGrid s
  | .evict top row => g.evict top row
  | .record op => { g with scrollOps := g.scrollOps ++ [op] }
  | .touch => { g with modeFlags.mutatedSincePreserve := true }
  | .preserve => g.preserveVisibleRowsToScrollback
  | .forget => { g with scrollback := g.scrollback.clear, scrollbackOffset := 0 }.pushEvent .scrollbackClear

/-- What a scroll evicts goes into the history. -/
theorem evict_writes (g : Grid) (top : Nat) (row : Row) : ∃ scrollback, g.evict top row = { g with scrollback := scrollback } := by
  unfold evict
  split
  · exact ⟨_,rfl⟩
  · exact ⟨g.scrollback,rfl⟩

theorem pushRows_writes (block : List Row) (g : Grid) :
    ∃ scrollback, block.foldl (fun g row => g.pushScrollbackRow row .hard) g = { g with scrollback := scrollback } := by
  induction block generalizing g with
  | nil => exact ⟨g.scrollback,rfl⟩
  | cons row block ih => exact ih (g.pushScrollbackRow row .hard)

/-- What a clear saves goes into the history. -/
theorem preserve_writes (g : Grid) : ∃ scrollback block touched, g.preserveVisibleRowsToScrollback =
    { g with scrollback := scrollback, lastPreservedBlock := block, modeFlags.mutatedSincePreserve := touched } := by
  unfold preserveVisibleRowsToScrollback
  split_ifs
  · exact ⟨_,_,_,rfl⟩
  · exact ⟨_,_,_,rfl⟩
  · split
    · exact ⟨_,_,_,rfl⟩
    case h_2 block found =>
      split_ifs
      · exact ⟨_,_,_,rfl⟩
      · obtain ⟨_,same⟩ := pushRows_writes block g
        exact ⟨_,_,_,by rw [same]⟩

/-- An OSC writes the hyperlinks and the events. -/
theorem handleOsc_writes (g : Grid) (params : List Bytes) (bell : Bool) : ∃ link recent events,
    g.handleOsc params bell = { g with activeHyperlink := link, recentHyperlinks := recent, passthrough := events } := by
  unfold handleOsc
  split
  · exact ⟨_,_,_,rfl⟩
  · dsimp only
    split
    case h_9 =>
      unfold oscHyperlink
      dsimp only
      split <;> exact ⟨_,_,_,rfl⟩
    all_goals exact ⟨_,_,_,rfl⟩

/-- The grid without what edits write. -/
def unwritten (g : Grid) : Grid :=
  { g with
    primary := {}
    alternate := {}
    scrollback := {}
    scrollbackOffset := 0
    cursorRow := 0
    cursorCol := 0
    lastPrint := none
    lastPreservedBlock := none
    modeFlags.pendingWrap := false
    modeFlags.mutatedSincePreserve := false
    scrollOps := []
    dirty := {}
    passthrough := [] }

theorem edit_unwritten (g : Grid) (e : Edit) : (g.edit e).unwritten = g.unwritten := by
  cases e with
  | evict top row =>
    obtain ⟨_,same⟩ := g.evict_writes top row
    exact (congrArg unwritten same).trans rfl
  | preserve =>
    obtain ⟨_,_,_,same⟩ := g.preserve_writes
    exact (congrArg unwritten same).trans rfl
  | _ => rfl

/-- Where the saved cursor comes back. -/
theorem restoreSavedCursor_eq (g : Grid) : g.restoreSavedCursor =
    if g.savedCursorCol ≥ g.cols then
      { g with modeFlags.pendingWrap := true, lastPrint := none, cursorRow := min g.savedCursorRow (g.rows - 1),
               cursorCol := g.cols }
    else
      { g with modeFlags.pendingWrap := false, lastPrint := none, cursorRow := min g.savedCursorRow (g.rows - 1),
               cursorCol := min g.savedCursorCol (g.cols - 1) } := rfl

/-- The grid without its settings: modes, pen, margins, cursors, keyboard stack, marks and
    events. -/
def unset (g : Grid) : Grid :=
  { g with
    cursorRow := 0
    cursorCol := 0
    savedCursorRow := 0
    savedCursorCol := 0
    mouseMode := .none
    mouseEncoding := .default
    cursorStyle := 0
    textCursorEnable := none
    lastPrint := none
    modeFlags := { mutatedSincePreserve := g.modeFlags.mutatedSincePreserve }
    currentAttrs := {}
    activeHyperlink := none
    scrollTop := 0
    scrollBottom := 0
    kittyKbStack := []
    dirty := {}
    passthrough := [] }

theorem restoreSavedCursor_unset (g : Grid) : g.restoreSavedCursor.unset = g.unset := by
  rw [restoreSavedCursor_eq]
  split <;> rfl

theorem setDecMode_unset (g : Grid) (mode : Nat) (enabled : Bool) : (g.setDecMode mode enabled).unset = g.unset := by
  unfold setDecMode
  split
  case h_9 =>
    cases enabled with
    | true => rfl
    | false => exact (g.setAltScreen false).restoreSavedCursor_unset
  all_goals rfl

theorem softReset_unset (g : Grid) : g.softReset.unset = g.unset := by
  unfold softReset restoreAutowrap
  dsimp only
  split <;> rfl

/-- A grid with all that handlers read taken from another. -/
def reading (f g : Grid) : Grid :=
  { f with
    rows := g.rows
    cols := g.cols
    primary := g.primary
    alternate := g.alternate
    cursorRow := g.cursorRow
    cursorCol := g.cursorCol
    lastPrint := g.lastPrint
    modeFlags := { g.modeFlags with mutatedSincePreserve := f.modeFlags.mutatedSincePreserve }
    currentAttrs := g.currentAttrs
    activeHyperlink := g.activeHyperlink
    scrollTop := g.scrollTop
    scrollBottom := g.scrollBottom }

/-- A relation that some edits, made on both sides, respect. -/
structure Respects (Allowed : Edit → Prop) (R : Grid → Grid → Prop) : Prop where
  read : ∀ {f g : Grid}, R f g → ∃ rest : Grid, f = rest.reading g
  edit : ∀ {f g : Grid} (e : Edit), Allowed e → R f g → R (f.edit e) (g.edit e)

variable {Allowed Other : Edit → Prop} {R : Grid → Grid → Prop} {f g : Grid}

theorem Respects.mono (respects : Respects Allowed R) (fewer : ∀ e, Other e → Allowed e) : Respects Other R where
  read := respects.read
  edit e other := respects.edit e (fewer e other)

/-- What each edit keeps, of one grid. -/
theorem respects_kept {Q : Grid → Prop} (keeps : ∀ (h : Grid) (e : Edit), Allowed e → Q h → Q (h.edit e)) :
    Respects Allowed fun f g => f = g ∧ Q g where
  read := by
    rintro f g ⟨rfl,_⟩
    exact ⟨f,rfl⟩
  edit := by
    rintro f g e allowed ⟨rfl,holds⟩
    exact ⟨rfl,keeps f e allowed holds⟩

/-- An edit made from what is read. -/
theorem Respects.step (respects : Respects Allowed R) (e : Grid → Edit) (reads : ∀ rest h : Grid, e (rest.reading h) = e h)
    (allowed : ∀ h, Allowed (e h)) (same : R f g) : R (f.edit (e f)) (g.edit (e g)) := by
  have agree : e f = e g := by
    obtain ⟨rest,rfl⟩ := respects.read same
    exact reads rest g
  rw [agree]
  exact respects.edit (e g) (allowed g) same

theorem rel_ite {c : Prop} [Decidable c] {f' g' : Grid} (yes : R f g) (no : R f' g') :
    R (if c then f else f') (if c then g else g') := by
  split
  · exact yes
  · exact no

/-! ## Cells -/

section
variable (respects : Respects Edit.OnCells R)
include respects

theorem Respects.modifyActiveRow (same : R f g) (row : Nat) (edit : Row → Checked Row) :
    Both R (f.modifyActiveRow row edit) (g.modifyActiveRow row edit) := by
  obtain ⟨rest,rfl⟩ := respects.read same
  unfold Grid.modifyActiveRow RowStore.modifyRow
  simp only [bind_assoc]
  exact Both.bind_same fun cells => Both.bind_same fun cells' => respects.edit (.row row cells') trivial same

/-- A row edited, and a part of the cursor's row marked. -/
theorem Respects.editRow (same : R f g) (row : Nat) (edit : Row → Checked Row) (span : Grid → Nat × Nat)
    (reads : ∀ rest h : Grid, span (rest.reading h) = span h) :
    Both R (f.modifyActiveRow row edit >>= fun h => .ok (h.markRange h.cursorRow (span h).1 (span h).2))
      (g.modifyActiveRow row edit >>= fun h => .ok (h.markRange h.cursorRow (span h).1 (span h).2)) :=
  (respects.modifyActiveRow same row edit).bind fun _ _ =>
    respects.step (fun h => .markRange h.cursorRow (span h).1 (span h).2) (fun rest h => by rw [reads]; rfl) fun _ => trivial

theorem Respects.eraseLine (same : R f g) (mode : Nat) : Both R (f.eraseLine mode) (g.eraseLine mode) := by
  obtain ⟨rest,rfl⟩ := respects.read same
  unfold Grid.eraseLine
  split
  · exact respects.editRow same _ _ (fun h => (h.cursorCol,h.cols)) fun _ _ => rfl
  · exact Both.bind_same fun last => respects.editRow same _ _ (fun h => (0,satAdd16 h.cursorCol 1)) fun _ _ => rfl
  · exact respects.editRow same _ _ (fun _ => (0,u16Max)) fun _ _ => rfl
  · exact same

theorem Respects.insertChars (same : R f g) (n : Nat) : Both R (f.insertChars n) (g.insertChars n) := by
  obtain ⟨rest,rfl⟩ := respects.read same
  exact respects.editRow same _ _ (fun h => (h.cursorCol,h.cols)) fun _ _ => rfl

theorem Respects.deleteChars (same : R f g) (n : Nat) : Both R (f.deleteChars n) (g.deleteChars n) := by
  obtain ⟨rest,rfl⟩ := respects.read same
  exact respects.editRow same _ _ (fun h => (h.cursorCol,h.cols)) fun _ _ => rfl

theorem Respects.eraseChars (same : R f g) (n : Nat) : Both R (f.eraseChars n) (g.eraseChars n) := by
  obtain ⟨rest,rfl⟩ := respects.read same
  exact Both.bind_same fun row =>
    respects.editRow same _ _ (fun h => (h.cursorCol,min (g.cursorCol + n) row.length % 65536)) fun _ _ => rfl

end

section
variable (respects : Respects Edit.OnDisplay R)
include respects

theorem Respects.onCells : Respects Edit.OnCells R := respects.mono fun _ => Edit.OnCells.onDisplay

/-- The rows below the cursor are blanked after its row. -/
theorem Respects.eraseDisplayCells (same : R f g) (mode : Nat) : Both R (f.eraseDisplayCells mode) (g.eraseDisplayCells mode) := by
  have preserved : R f.preserveVisibleRowsToScrollback g.preserveVisibleRowsToScrollback := respects.edit .preserve trivial same
  have filled {f g : Grid} (same : R f g) : R (f.setActiveGrid (f.activeGrid.fillRows 0 f.rows f.blankRowBce))
      (g.setActiveGrid (g.activeGrid.fillRows 0 g.rows g.blankRowBce)) :=
    respects.step (fun h => .fill 0 h.rows h.blankRowBce) (fun _ _ => rfl) (fun _ => trivial) same
  unfold Grid.eraseDisplayCells
  split
  · have below {f g : Grid} (same : R f g) :
        Both R (f.modifyActiveRow f.cursorRow (fun row => eraseCellsBce row f.cursorCol f.cols f.blankCell) >>=
          fun h => .ok (h.setActiveGrid (h.activeGrid.fillRows (h.cursorRow + 1) h.rows h.blankRowBce)))
        (g.modifyActiveRow g.cursorRow (fun row => eraseCellsBce row g.cursorCol g.cols g.blankCell) >>=
          fun h => .ok (h.setActiveGrid (h.activeGrid.fillRows (h.cursorRow + 1) h.rows h.blankRowBce))) := by
      obtain ⟨rest,rfl⟩ := respects.read same
      exact (respects.onCells.modifyActiveRow same _ _).bind fun _ _ =>
        respects.step (fun h => .fill (h.cursorRow + 1) h.rows h.blankRowBce) (fun _ _ => rfl) fun _ => trivial
    refine below ?_
    obtain ⟨rest,rfl⟩ := respects.read same
    exact rel_ite preserved same
  · obtain ⟨rest,rfl⟩ := respects.read same
    have above := respects.edit (.fill 0 g.cursorRow g.blankRowBce) trivial same
    exact Both.bind_same fun last => respects.onCells.modifyActiveRow above _ _
  · exact filled preserved
  · exact filled (respects.edit .forget trivial same)
  · exact same

theorem Respects.eraseDisplay (same : R f g) (mode : Nat) : Both R (f.eraseDisplay mode) (g.eraseDisplay mode) :=
  (respects.eraseDisplayCells same mode).bind fun _ _ => respects.edit .markAll trivial

end

/-! ## The cursor -/

/-- The edit that puts the cursor where it is. -/
def steering (g : Grid) : Edit := .cursor g.cursorRow g.cursorCol g.modeFlags.pendingWrap g.lastPrint

section
variable (respects : Respects Edit.OnCursor R)
include respects

/-- An update of the cursor, as what is read says. -/
theorem Respects.steer (same : R f g) (u : Grid → Grid) (steers : ∀ h, u h = h.edit (u h).steering)
    (reads : ∀ rest h : Grid, (u (rest.reading h)).steering = (u h).steering) : R (u f) (u g) := by
  rw [steers f,steers g]
  exact respects.step (fun h => (u h).steering) reads (fun _ => trivial) same

/-- The cursor is remembered with the last print. -/
theorem Respects.printed (same : R f g) :
    R { f with lastPrint := some (f.cursorRow,f.cursorCol) } { g with lastPrint := some (g.cursorRow,g.cursorCol) } :=
  respects.steer same (fun h => { h with lastPrint := some (h.cursorRow,h.cursorCol) }) (fun _ => rfl) fun _ _ => rfl

/-- The cursor is parked past the last column. -/
theorem Respects.parked (same : R f g) :
    R { f with cursorCol := f.cols, modeFlags.pendingWrap := true } { g with cursorCol := g.cols, modeFlags.pendingWrap := true } :=
  respects.steer same (fun h => { h with cursorCol := h.cols, modeFlags.pendingWrap := true }) (fun _ => rfl) fun _ _ => rfl

theorem Respects.clearPendingWrap (same : R f g) : R f.clearPendingWrap g.clearPendingWrap :=
  respects.steer same Grid.clearPendingWrap (fun _ => rfl) fun _ _ => rfl

end

/-! ## Glyphs -/

section
variable (respects : Respects Edit.OnGlyph R)
include respects

theorem Respects.cells : Respects Edit.OnCells R := respects.mono fun _ => Or.inl

theorem Respects.cursor : Respects Edit.OnCursor R := respects.mono fun _ => Or.inr

theorem Respects.placeChar (same : R f g) (ch : Char) (width : Nat) : Both R (f.placeChar ch width) (g.placeChar ch width) := by
  obtain ⟨rest,rfl⟩ := respects.read same
  refine Both.ite (fun _ => same) fun _ => Both.bind_same fun cells => ?_
  refine (respects.cells.modifyActiveRow same _ _).bind fun f' g' written => ?_
  obtain ⟨rest',rfl⟩ := respects.read written
  refine Both.bind_same fun col => respects.cursor.printed ?_
  have marked := respects.step (fun h => .markRange h.cursorRow (clearPartners cells g.cursorCol width).2.1
    (clearPartners cells g.cursorCol width).2.2) (fun _ _ => rfl) (fun _ => Or.inl trivial) written
  exact rel_ite (respects.cursor.parked marked)
    (respects.cursor.steer marked (fun h => { h with cursorCol := col }) (fun _ => rfl) fun _ _ => rfl)

theorem Respects.followWidth (same : R f g) (col oldWidth oldCursorEnd newWidth : Nat) :
    Both R (f.followWidth col oldWidth oldCursorEnd newWidth) (g.followWidth col oldWidth oldCursorEnd newWidth) := by
  -- what is done once the cursor has followed the cluster
  have parks {f g : Grid} (same : R f g) : Both R
      (if f.modeFlags.pendingWrap ∨ f.cursorCol ≥ f.cols then do
        let newEnd ← add16 col newWidth
        if newEnd ≥ f.cols ∧ newWidth > oldWidth then .ok { f with cursorCol := f.cols, modeFlags.pendingWrap := true } else .ok f
      else .ok f)
      (if g.modeFlags.pendingWrap ∨ g.cursorCol ≥ g.cols then do
        let newEnd ← add16 col newWidth
        if newEnd ≥ g.cols ∧ newWidth > oldWidth then .ok { g with cursorCol := g.cols, modeFlags.pendingWrap := true } else .ok g
      else .ok g) := by
    obtain ⟨rest,rfl⟩ := respects.read same
    refine Both.ite (fun _ => Both.bind_same fun newEnd => ?_) fun _ => same
    exact Both.ite (fun _ => respects.cursor.parked same) fun _ => same
  obtain ⟨rest,rfl⟩ := respects.read same
  refine Both.ite (fun _ => ?_) fun _ => parks same
  refine Both.ite (fun _ => Both.bind_same fun newEnd => ?_) fun _ => ?_
  · exact parks (respects.cursor.steer same (fun h => { h with cursorCol := min newEnd h.cols }) (fun _ => rfl) fun _ _ => rfl)
  · refine Both.ite (fun _ => Both.bind_same fun newEnd => ?_) fun _ => parks same
    exact parks (respects.cursor.steer same (fun h => { h with cursorCol := newEnd, modeFlags.pendingWrap := false }) (fun _ => rfl)
      fun _ _ => rfl)

variable [UnicodeWidth]

theorem Respects.joinCluster (same : R f g) (ch : Char) (col : Nat) (cell : Cell) :
    Both R (f.joinCluster ch col cell) (g.joinCluster ch col cell) := by
  obtain ⟨rest,rfl⟩ := respects.read same
  refine Both.bind_same fun oldCursorEnd => (respects.cells.modifyActiveRow same _ _).bind fun f g same => ?_
  refine (respects.followWidth same _ _ _ _).bind fun f g same => respects.cursor.printed ?_
  exact respects.step (fun h => .markRange h.cursorRow col _) (fun _ _ => rfl) (fun _ => Or.inl trivial) same

theorem Respects.appendToPreviousCluster (same : R f g) (ch : Char) (width : Nat) :
    Both (fun r r' => R r.1 r'.1 ∧ r.2 = r'.2) (f.appendToPreviousCluster ch width) (g.appendToPreviousCluster ch width) := by
  obtain ⟨rest,rfl⟩ := respects.read same
  refine Both.ite (fun _ => ⟨same,rfl⟩) fun _ => ?_
  have target : (rest.reading g).joinTarget width = g.joinTarget width := rfl
  simp only [target]
  cases g.joinTarget width with
  | inr absorbed => exact ⟨same,rfl⟩
  | inl targetCol =>
    refine Both.bind_same fun cells => Both.ite (fun _ => ⟨same,rfl⟩) fun _ => ?_
    refine Both.bind_same fun target => Both.bind_same fun cell => ?_
    refine Both.ite (fun _ => ⟨same,rfl⟩) fun _ => Both.ite (fun _ => ⟨same,rfl⟩) fun _ => ?_
    refine Both.ite (fun _ => ⟨same,rfl⟩) fun _ => ?_
    exact (respects.joinCluster same ch _ cell).bind fun _ _ same => ⟨same,rfl⟩

end

/-! ## Lines -/

theorem both_repeatBody {body body' : Grid → Checked Grid} (turn : ∀ f g : Grid, R f g → Both R (body f) (body' g)) (n : Nat)
    (same : R f g) : Both R (repeatBody body n f) (repeatBody body' n g) := by
  induction n generalizing f g with
  | zero => exact same
  | succ n ih => exact (turn f g same).bind fun _ _ => ih

section
variable (respects : Respects Edit.OnLines R)
include respects

theorem Respects.scrollUpOnce (top bottom : Nat) (wrap : RowWrap) (f g : Grid) (same : R f g) :
    Both R (scrollUpOnce top bottom wrap f) (scrollUpOnce top bottom wrap g) := by
  obtain ⟨rest,rfl⟩ := respects.read same
  by_cases outside : bottom ≥ g.activeGrid.rows.length ∨ top ≥ bottom
  · have still : Grid.scrollUpOnce top bottom wrap g = .ok g := if_pos outside
    have still' : Grid.scrollUpOnce top bottom wrap (rest.reading g) = .ok (rest.reading g) := if_pos outside
    rw [still,still']
    exact same
  · have inside : bottom < g.activeGrid.rows.length := by omega
    rw [scrollUpOnce_eq (by omega) inside,scrollUpOnce_eq (g := rest.reading g) (by omega) inside]
    have evicted := respects.edit (.evict top g.activeGrid.rows[top]) trivial same
    exact Both.bind_same fun inserted => respects.edit (.screen inserted) trivial evicted

theorem Respects.scrollUp (same : R f g) (n : Nat) (wrap : RowWrap) : Both R (f.scrollUp n wrap) (g.scrollUp n wrap) := by
  obtain ⟨rest,rfl⟩ := respects.read same
  have touched := respects.edit .touch trivial same
  refine Both.bind_same fun height => ?_
  have recorded := respects.edit (.record (.up g.scrollTop g.scrollBottom (min n height))) trivial touched
  refine (both_repeatBody (respects.scrollUpOnce _ _ wrap) _ (rel_ite recorded touched)).bind fun _ _ => ?_
  exact respects.edit (.markRows g.scrollTop g.scrollBottom) trivial

theorem Respects.shiftDownOnce (row bottom : Nat) (f g : Grid) (same : R f g) :
    Both R (shiftDownOnce row bottom f) (shiftDownOnce row bottom g) := by
  obtain ⟨rest,rfl⟩ := respects.read same
  exact Both.bind_same fun s => respects.edit (.screen s) trivial same

theorem Respects.deleteLineOnce (row bottom : Nat) (f g : Grid) (same : R f g) :
    Both R (deleteLineOnce row bottom f) (deleteLineOnce row bottom g) := by
  obtain ⟨rest,rfl⟩ := respects.read same
  exact Both.ite (fun _ => Both.bind_same fun s => respects.edit (.screen s) trivial same) fun _ =>
    respects.edit (.screen _) trivial same

/-- Lines are shifted after one shift of all of them is recorded, and everything is marked. -/
theorem Respects.shifts (same : R f g) {body body' : Grid → Checked Grid} (turn : ∀ f g : Grid, R f g → Both R (body f) (body' g))
    (n : Nat) (op : ScrollOp) : Both R (repeatBody body n { f with scrollOps := f.scrollOps ++ [op] } >>= fun h => .ok h.markAll)
      (repeatBody body' n { g with scrollOps := g.scrollOps ++ [op] } >>= fun h => .ok h.markAll) :=
  (both_repeatBody turn n (respects.edit (.record op) trivial same)).bind fun _ _ => respects.edit .markAll trivial

theorem Respects.insertLines (same : R f g) (p0 : Nat) : Both R (f.insertLines p0) (g.insertLines p0) := by
  obtain ⟨rest,rfl⟩ := respects.read same
  exact Both.ite (fun _ => same) fun _ => Both.bind_same fun height => respects.shifts same (respects.shiftDownOnce _ _) _ _

theorem Respects.deleteLines (same : R f g) (p0 : Nat) : Both R (f.deleteLines p0) (g.deleteLines p0) := by
  obtain ⟨rest,rfl⟩ := respects.read same
  exact Both.ite (fun _ => same) fun _ => Both.bind_same fun height => respects.shifts same (respects.deleteLineOnce _ _) _ _

theorem Respects.scrollDown (same : R f g) (p0 : Nat) : Both R (f.scrollDown p0) (g.scrollDown p0) := by
  obtain ⟨rest,rfl⟩ := respects.read same
  exact Both.bind_same fun height => respects.shifts same (respects.shiftDownOnce _ _) _ _

end

/-! ## Text -/

section
variable (respects : Respects Edit.OnText R)
include respects

theorem Respects.glyph : Respects Edit.OnGlyph R := respects.mono fun _ => Or.inl

theorem Respects.lines : Respects Edit.OnLines R := respects.mono fun _ => Or.inr

theorem Respects.newline (same : R f g) (wrap : RowWrap) :
    Both R (f.newlineActionWithWrap wrap) (g.newlineActionWithWrap wrap) := by
  obtain ⟨rest,rfl⟩ := respects.read same
  refine Both.ite (fun _ => respects.lines.scrollUp same 1 wrap) fun _ => ?_
  have moved := respects.glyph.cursor.steer same (fun h => { h with cursorRow := addCursorOffset h.cursorRow 1 (h.rows - 1) })
    (fun _ => rfl) fun _ _ => rfl
  exact respects.step (fun h => .screen (h.activeGrid.setWrap h.cursorRow wrap)) (fun _ _ => rfl) (fun _ => Or.inr trivial) moved

theorem Respects.reverseIndex (same : R f g) : Both R f.reverseIndex g.reverseIndex := by
  obtain ⟨rest,rfl⟩ := respects.read same
  refine Both.ite (fun _ => ?_) fun _ => ?_
  · have recorded := respects.edit (.record (.down g.scrollTop g.scrollBottom 1)) (Or.inr trivial) same
    exact (respects.lines.shiftDownOnce _ _ _ _ recorded).bind fun _ _ => respects.edit .markAll (Or.inr trivial)
  · exact respects.glyph.cursor.steer same (fun h => { h with cursorRow := h.cursorRow - 1 }) (fun _ => rfl) fun _ _ => rfl

theorem Respects.deferredWrap (same : R f g) : Both R f.deferredWrap g.deferredWrap := by
  obtain ⟨rest,rfl⟩ := respects.read same
  refine Both.ite (fun _ => respects.newline ?_ .soft) fun _ => same
  exact respects.glyph.cursor.steer same (fun h => { h with modeFlags.pendingWrap := false, cursorCol := 0 }) (fun _ => rfl)
    fun _ _ => rfl

theorem Respects.writeNewCell (same : R f g) (ch : Char) (width : Nat) : Both R (f.writeNewCell ch width) (g.writeNewCell ch width) := by
  refine (respects.deferredWrap same).bind fun f g same => ?_
  obtain ⟨rest,rfl⟩ := respects.read same
  have clamped := respects.glyph.cursor.steer same
    (fun h => { h with modeFlags.pendingWrap := false, cursorCol := min h.cursorCol (h.cols - 1) }) (fun _ => rfl) fun _ _ => rfl
  refine Both.ite (fun _ => ?_) fun _ => respects.glyph.placeChar same ch width
  exact Both.ite (fun _ => same) fun _ => respects.glyph.placeChar clamped ch width

theorem Respects.writeCharAtCursor [UnicodeWidth] (same : R f g) (ch : Char) :
    Both R (f.writeCharAtCursor ch) (g.writeCharAtCursor ch) := by
  have touched := respects.edit .touch (Or.inr trivial) same
  refine (respects.glyph.appendToPreviousCluster touched ch _).bind ?_
  rintro ⟨f,absorbed⟩ ⟨g,_⟩ ⟨same,rfl⟩
  exact Both.ite (fun _ => same) fun _ => respects.writeNewCell same ch _

end

end Grid

/-! ## Operations -/

/-- The operations whose handlers make edits of what they read. -/
inductive Walk
  | cells
  | display
  | cursor
  | lines
  | text
  deriving DecidableEq

/-- The kind of edits an operation makes, if it is one of these. -/
def Op.walk : Op → Option Walk
  | .insertChars _ | .deleteChars _ | .eraseChars _ | .eraseLine _ => some .cells
  | .eraseDisplay _ => some .display
  | .clearPendingWrap | .carriageReturn | .backspace | .tab | .cursorUp _ | .cursorDown _ | .cursorForward _ | .cursorBack _
  | .nextLine _ | .previousLine _ | .cursorColumn _ | .cursorPosition _ _ | .cursorRow _ => some .cursor
  | .insertLines _ | .deleteLines _ | .scrollUp _ | .scrollDown _ => some .lines
  | .print _ | .newline | .reverseIndex => some .text
  | _ => none

def Walk.Edits : Walk → Edit → Prop
  | .cells => Edit.OnCells
  | .display => Edit.OnDisplay
  | .cursor => Edit.OnCursor
  | .lines => Edit.OnLines
  | .text => Edit.OnText

/-- The operations that only change settings. -/
def Op.Sets (op : Op) : Bool :=
  match op.walk,op with
  | some walk,_ => walk = .cursor
  | none,.fullReset => false
  | none,.osc _ _ => false
  | none,_ => true

theorem Walk.onText {walk : Walk} (other : walk ≠ .display) {e : Edit} (edits : walk.Edits e) : e.OnText := by
  cases walk with
  | cells => exact Or.inl (Or.inl edits)
  | display => exact absurd rfl other
  | cursor => exact Or.inl (Or.inr edits)
  | lines => exact Or.inr edits
  | text => exact edits

namespace Grid

variable {R : Grid → Grid → Prop} {f g : Grid} [UnicodeWidth]

/-- An operation that puts the cursor somewhere. -/
theorem Respects.moves (respects : Respects Edit.OnCursor R) (same : R f g) {op : Op} (u : Grid → Grid)
    (moved : ∀ h : Grid, h.exec op = .ok (u h)) (steers : ∀ h, u h = h.edit (u h).steering)
    (reads : ∀ rest h : Grid, (u (rest.reading h)).steering = (u h).steering) : Both R (f.exec op) (g.exec op) := by
  rw [moved f,moved g]
  exact respects.steer same u steers reads

/-- No operation of these tells apart what their edits respect. -/
theorem Respects.exec {op : Op} {walk : Walk} (respects : Respects walk.Edits R) (same : R f g) (walked : op.walk = some walk) :
    Both R (f.exec op) (g.exec op) := by
  cases op
  all_goals cases walked
  case insertChars n => exact respects.insertChars same n
  case deleteChars n => exact respects.deleteChars same n
  case eraseChars n => exact respects.eraseChars same n
  case eraseLine mode => exact respects.eraseLine same mode
  case eraseDisplay mode => exact respects.eraseDisplay same mode
  case insertLines p0 => exact respects.insertLines same p0
  case deleteLines p0 => exact respects.deleteLines same p0
  case scrollUp n => exact respects.scrollUp same n .hard
  case scrollDown p0 => exact respects.scrollDown same p0
  case print ch => exact respects.writeCharAtCursor same ch
  case newline => exact respects.newline same .hard
  case reverseIndex => exact respects.reverseIndex same
  case clearPendingWrap => exact respects.clearPendingWrap same
  case backspace =>
    have back := respects.steer same (fun h => { h with cursorCol := h.cursorCol - 1 }) (fun _ => rfl) fun _ _ => rfl
    have cleared := respects.clearPendingWrap same
    obtain ⟨rest,rfl⟩ := respects.read same
    exact rel_ite cleared (rel_ite back same)
  case tab =>
    obtain ⟨rest,rfl⟩ := respects.read same
    refine Both.bind_same fun stop => Both.ite (fun _ => ?_) fun _ => rfl
    exact respects.steer same (fun h => { h with cursorCol := min (stop * 8) (h.cols - 1) }) (fun _ => rfl) fun _ _ => rfl
  all_goals exact respects.moves same _ (fun _ => rfl) (fun _ => rfl) fun _ _ => rfl

/-- What each edit keeps, an operation keeps. -/
theorem exec_keeps {Q : Grid → Prop} {op : Op} {walk : Walk} (walked : op.walk = some walk)
    (keeps : ∀ (h : Grid) (e : Edit), walk.Edits e → Q h → Q (h.edit e)) (holds : Q g) : Ends Q (fun _ => True) (g.exec op) :=
  ((respects_kept keeps).exec ⟨rfl,holds⟩ walked).ends

/-- What does not depend on what edits write is as it was. -/
theorem exec_unwritten {β : Type} {φ : Grid → β} (blind : ∀ h : Grid, φ h.unwritten = φ h) {op : Op} {walk : Walk}
    (walked : op.walk = some walk) (g : Grid) : Ends (fun h => φ h = φ g) (fun _ => True) (g.exec op) := by
  refine exec_keeps walked (fun h e _ same => ?_) rfl
  rw [← blind,edit_unwritten,blind]
  exact same

omit [UnicodeWidth] in
theorem edit_unset (g : Grid) {e : Edit} (cursor : e.OnCursor) : (g.edit e).unset = g.unset := by
  cases e with
  | cursor => rfl
  | _ => exact cursor.elim

/-- What does not depend on the settings is as it was after an operation on them. -/
theorem exec_unset {β : Type} {φ : Grid → β} (blind : ∀ h : Grid, φ h.unset = φ h) {op : Op} (sets : op.Sets = true) (g : Grid) :
    Ends (fun h => φ h = φ g) (fun _ => True) (g.exec op) := by
  have kept {h : Grid} (same : h.unset = g.unset) : φ h = φ g := by rw [← blind,same,blind]
  cases walked : op.walk with
  | some walk =>
    have steers : walk = .cursor := by simpa [Op.Sets,walked] using sets
    subst steers
    exact (exec_keeps walked (fun h e cursor same => (h.edit_unset cursor).trans same) rfl).mono fun _ => kept
  | none =>
    cases op
    case decMode mode enabled => exact kept (g.setDecMode_unset mode enabled)
    case restoreCursor => exact kept g.restoreSavedCursor_unset
    case softReset => exact kept g.softReset_unset
    all_goals first
      | exact absurd sets Bool.false_ne_true
      | exact kept rfl
      | cases walked

end Grid

end Termpane
