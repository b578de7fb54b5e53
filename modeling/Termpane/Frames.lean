import Termpane.Print
import Termpane.Handlers
import Termpane.Scroll

/-!
# What handlers leave alone

A ledger of what printing, editing, moving and scrolling never change or only
add to: the hidden screen, the saved cursor, the keyboard stack, the events, the
history and the log of scrolls. Most operations add to it the rows and the scroll
they cause and nothing else.
-/
namespace Termpane

open Lib

structure Ledger where
  size : Nat × Nat
  limit : Nat
  policy : EraseDisplayPolicy
  altScreen : Bool
  hidden : RowStore
  savedCursor : Nat × Nat
  keyboard : List Nat
  events : List PassthroughEvent
  block : Option (List Row)
  scrollback : RowStore
  scrollOps : List ScrollOp

/-- A ledger with more rows in the scrollback and more scrolls in the log. -/
def Ledger.add (l : Ledger) (entered : List (Row × RowWrap)) (recorded : List ScrollOp) : Ledger :=
  { l with scrollback := l.scrollback.feed l.limit entered, scrollOps := l.scrollOps ++ recorded }

@[simp] theorem Ledger.add_nil (l : Ledger) : l.add [] [] = l := by
  unfold Ledger.add
  rw [List.append_nil]
  rfl

theorem Ledger.add_add (l : Ledger) (entered entered' : List (Row × RowWrap)) (recorded recorded' : List ScrollOp) :
    (l.add entered recorded).add entered' recorded' = l.add (entered ++ entered') (recorded ++ recorded') := by
  simp only [Ledger.add,RowStore.feed,List.foldl_append,List.append_assoc]

namespace Grid

/-- The screen that is not shown. -/
def hiddenGrid (g : Grid) : RowStore := if g.modeFlags.altScreen then g.primary else g.alternate

def ledger (g : Grid) : Ledger :=
  { size := (g.rows,g.cols)
    limit := g.scrollbackLimit
    policy := g.eraseDisplayPolicy
    altScreen := g.modeFlags.altScreen
    hidden := g.hiddenGrid
    savedCursor := (g.savedCursorRow,g.savedCursorCol)
    keyboard := g.kittyKbStack
    events := g.passthrough
    block := g.lastPreservedBlock
    scrollback := g.scrollback
    scrollOps := g.scrollOps }

/-- A later grid whose ledger is the earlier one's with some rows and scrolls added. -/
structure Framed (g : Grid) (entered : List (Row × RowWrap)) (recorded : List ScrollOp) (h : Grid) : Prop where
  ledger : h.ledger = g.ledger.add entered recorded
  mutated : g.modeFlags.mutatedSincePreserve = true → h.modeFlags.mutatedSincePreserve = true

variable {P : Row → Prop} {f g h : Grid}

theorem Framed.trans {entered entered' : List (Row × RowWrap)} {recorded recorded' : List ScrollOp}
    (left : f.Framed entered recorded g) (right : g.Framed entered' recorded' h) :
    f.Framed (entered ++ entered') (recorded ++ recorded') h where
  ledger := by rw [right.ledger,left.ledger,Ledger.add_add]
  mutated before := right.mutated (left.mutated before)

/-- The ledger is as it was. -/
theorem Framed.still (ledger : h.ledger = g.ledger)
    (mutated : g.modeFlags.mutatedSincePreserve = true → h.modeFlags.mutatedSincePreserve = true) : g.Framed [] [] h :=
  ⟨by rw [ledger,Ledger.add_nil],mutated⟩

theorem Framed.refl (g : Grid) : g.Framed [] [] g := .still rfl id

@[simp] theorem hiddenGrid_setActiveGrid (g : Grid) (s : RowStore) : (g.setActiveGrid s).hiddenGrid = g.hiddenGrid := by
  unfold hiddenGrid setActiveGrid
  cases g.modeFlags.altScreen <;> rfl

theorem ledger_setActiveGrid (g : Grid) (s : RowStore) : (g.setActiveGrid s).ledger = g.ledger := by
  unfold ledger
  rw [hiddenGrid_setActiveGrid]
  rfl

theorem framed_setActiveGrid (g : Grid) (s : RowStore) : g.Framed [] [] (g.setActiveGrid s) :=
  .still (ledger_setActiveGrid g s) id

/-! ## Edits and prints -/

/-- What is put down adds nothing to the ledger. -/
theorem Framed.edit (framed : g.Framed [] [] h) {e : Edit} (glyph : e.OnGlyph) : g.Framed [] [] (h.edit e) := by
  cases e with
  | row | fill => exact framed.trans (framed_setActiveGrid h _)
  | markRange | markAll | cursor => exact ⟨framed.ledger,framed.mutated⟩
  | _ => exact glyph.elim False.elim False.elim

theorem respects_framed (g : Grid) : Respects Edit.OnGlyph fun f h => f = h ∧ g.Framed [] [] h :=
  respects_kept fun _ _ glyph framed => framed.edit glyph

theorem modifyActiveRow_framed (g : Grid) (row : Nat) (edit : Row → Checked Row) :
    Ends (g.Framed [] []) (fun _ => True) (g.modifyActiveRow row edit) :=
  ((respects_framed g).cells.modifyActiveRow ⟨rfl,.refl g⟩ row edit).ends

theorem placeChar_framed (g : Grid) (ch : Char) (width : Nat) : Ends (g.Framed [] []) (fun _ => True) (g.placeChar ch width) :=
  ((respects_framed g).placeChar ⟨rfl,.refl g⟩ ch width).ends

/-! ## Clears -/

/-- Whether an erase is the clear of a whole screen. -/
def Clears (g : Grid) (mode : Nat) : Prop := mode = 2 ∨ mode = 0 ∧ g.cursorRow = 0 ∧ g.cursorCol = 0

instance (g : Grid) (mode : Nat) : Decidable (g.Clears mode) := by unfold Clears; infer_instance

/-- The rows a clear of the screen looks at. -/
def clearBlock (g : Grid) : Option (List Row) :=
  if g.eraseDisplayPolicy = .discard ∨ g.modeFlags.altScreen ∨ g.scrollbackLimit = 0 ∨ g.modeFlags.mutatedSincePreserve = false then
    none
  else visibleBlock g.primary

/-- The rows it saves: those it looks at, unless it remembers them. -/
def clearSaves (g : Grid) (block : List Row) : List (Row × RowWrap) :=
  if g.lastPreservedBlock = some block then [] else block.map fun row => (row,.hard)

theorem pushRows_eq (block : List Row) (g : Grid) :
    block.foldl (fun g row => g.pushScrollbackRow row .hard) g = g.enter (block.map fun row => (row,.hard)) := by
  induction block generalizing g with
  | nil => rfl
  | cons row block ih => exact ih (g.pushScrollbackRow row .hard)

theorem preserve_eq (g : Grid) : g.preserveVisibleRowsToScrollback =
    match g.clearBlock with
    | none => g
    | some block =>
      { g.enter (g.clearSaves block) with lastPreservedBlock := some block, modeFlags.mutatedSincePreserve := false } := by
  unfold preserveVisibleRowsToScrollback clearBlock
  by_cases skipped : g.eraseDisplayPolicy = .discard ∨ g.modeFlags.altScreen ∨ g.scrollbackLimit = 0
  · rw [if_pos skipped,if_pos (by tauto)]
  · cases touched : g.modeFlags.mutatedSincePreserve with
    | false => simp [skipped]
    | true =>
      rw [if_neg skipped,if_neg (by simp),if_neg (by simpa using skipped)]
      cases visibleBlock g.primary with
      | none => rfl
      | some block =>
        dsimp only
        unfold clearSaves
        split
        case isTrue same => rw [← same]; rfl
        case isFalse => rw [pushRows_eq]

/-- The grid after what an erase of the display does to the history. -/
def eraseHistory (g : Grid) (mode : Nat) : Grid :=
  if mode = 3 then { g with scrollback := {}, scrollbackOffset := 0 }.pushEvent .scrollbackClear
  else if g.Clears mode then g.preserveVisibleRowsToScrollback else g

theorem eraseDisplay_framed (g : Grid) (mode : Nat) :
    Ends ((g.eraseHistory mode).Framed [] []) (fun _ => True) (g.eraseDisplay mode) := by
  have cells : Ends ((g.eraseHistory mode).Framed [] []) (fun _ => True) (g.eraseDisplayCells mode) := by
    unfold eraseDisplayCells
    split
    · have home : g.eraseHistory 0 = if g.cursorRow = 0 ∧ g.cursorCol = 0 then g.preserveVisibleRowsToScrollback else g := by
        simp [eraseHistory,Clears]
      rw [home]
      exact (modifyActiveRow_framed _ _ _).bind fun h framed => framed.trans (framed_setActiveGrid h _)
    · have none : g.eraseHistory 1 = g := by simp [eraseHistory,Clears]
      rw [none]
      refine (ends_trivial _).bind fun last _ => ?_
      exact (modifyActiveRow_framed (g.setActiveGrid _) _ _).mono fun h framed => (framed_setActiveGrid g _).trans framed
    · have full : g.eraseHistory 2 = g.preserveVisibleRowsToScrollback := by simp [eraseHistory,Clears]
      rw [full]
      exact framed_setActiveGrid _ _
    · refine Framed.still ?_ id
      exact congrArg (fun l : Ledger => { l with events := l.events ++ [PassthroughEvent.scrollbackClear] })
        (ledger_setActiveGrid { g with scrollback := {}, scrollbackOffset := 0 } _)
    case h_5 zero one two three =>
      have none : g.eraseHistory mode = g := by
        unfold eraseHistory
        rw [if_neg three,if_neg]
        rintro (full | ⟨home,_⟩)
        · exact two full
        · exact zero home
      rw [none]
      exact Framed.refl g
  exact cells.bind fun h framed => ⟨framed.ledger,framed.mutated⟩

section
variable [UnicodeWidth]

theorem joinCluster_framed (g : Grid) (ch : Char) (col : Nat) (cell : Cell) :
    Ends (g.Framed [] []) (fun _ => True) (g.joinCluster ch col cell) :=
  ((respects_framed g).joinCluster ⟨rfl,.refl g⟩ ch col cell).ends

/-- Whether a character starts a new row: it joins no cluster and finds the wrap
    pending. -/
def Wraps (g : Grid) (ch : Char) : Prop :=
  g.joinCol ch = none ∧ charWidth ch ≠ 0 ∧ g.modeFlags.pendingWrap = true ∧ g.modeFlags.noAutowrap = false

instance (g : Grid) (ch : Char) : Decidable (g.Wraps ch) := by unfold Wraps; infer_instance

omit [UnicodeWidth] in
theorem writeNewCell_framed (g : Grid) (ch : Char) (width : Nat) {entered : List (Row × RowWrap)} {recorded : List ScrollOp}
    (wrapped : Ends (g.Framed entered recorded) (fun _ => True) g.deferredWrap) :
    Ends (g.Framed entered recorded) (fun _ => True) (g.writeNewCell ch width) := by
  refine wrapped.bind fun h framed => ?_
  have placed (f : Grid) (still : h.Framed [] [] f) : Ends (g.Framed entered recorded) (fun _ => True) (f.placeChar ch width) :=
    (placeChar_framed f ch width).mono fun _ later => by simpa using (framed.trans still).trans later
  dsimp only
  split
  · split
    · exact framed
    · exact placed _ (.still rfl id)
  · exact placed _ (.refl h)

omit [UnicodeWidth] in
theorem Shaped.scrollUp_framed (shaped : g.Shaped P) (n : Nat) (wrap : RowWrap) :
    Ends (g.Framed (g.leaving g.scrollTop (g.scrollDistance n)) (g.scrollUpOps n)) (fun _ => True) (g.scrollUp n wrap) := by
  rw [shaped.scrollUp_eq]
  refine ⟨?_,fun _ => rfl⟩
  have hidden := hiddenGrid_setActiveGrid (g.enter (g.leaving g.scrollTop (g.scrollDistance n))) (g.scrolledScreen n wrap)
  unfold hiddenGrid at hidden
  simp only [ledger,hiddenGrid]
  rw [hidden]
  rfl

omit [UnicodeWidth] in
/-- The lines by which a line feed scrolls. -/
theorem Shaped.newline_framed (shaped : g.Shaped P) (wrap : RowWrap) :
    Ends (g.Framed (g.leaving g.scrollTop (g.scrollDistance (if g.cursorRow = g.scrollBottom then 1 else 0)))
      (g.scrollUpOps (if g.cursorRow = g.scrollBottom then 1 else 0))) (fun _ => True) (g.newlineActionWithWrap wrap) := by
  rw [newline_eq]
  split
  · exact shaped.scrollUp_framed 1 wrap
  · have none : g.scrollDistance 0 = 0 := by unfold scrollDistance; split <;> simp
    rw [none,leaving_zero]
    have framed := framed_setActiveGrid { g with cursorRow := addCursorOffset g.cursorRow 1 (g.rows - 1) }
    exact ⟨(framed _).ledger,id⟩

omit [UnicodeWidth] in
theorem Shaped.deferredWrap_framed (shaped : g.Shaped P) :
    Ends (g.Framed
      (g.leaving g.scrollTop (g.scrollDistance
        (if g.modeFlags.pendingWrap ∧ g.modeFlags.noAutowrap = false ∧ g.cursorRow = g.scrollBottom then 1 else 0)))
      (g.scrollUpOps (if g.modeFlags.pendingWrap ∧ g.modeFlags.noAutowrap = false ∧ g.cursorRow = g.scrollBottom then 1 else 0)))
      (fun _ => True) g.deferredWrap := by
  have cols := shaped.hasCols
  unfold Grid.deferredWrap
  by_cases wraps : g.modeFlags.pendingWrap ∧ g.modeFlags.noAutowrap = false
  · have unparked : ({ g with modeFlags.pendingWrap := false, cursorCol := 0 } : Grid).Shaped P :=
      { shaped with cursorCol := Nat.zero_le _, parked := by simp; omega }
    rw [if_pos wraps]
    refine (unparked.newline_framed .soft).mono fun h framed => ?_
    simp only [wraps.1,wraps.2,true_and]
    have first : g.Framed [] [] { g with modeFlags.pendingWrap := false, cursorCol := 0 } := .still rfl id
    exact first.trans framed
  · have none : g.scrollDistance 0 = 0 := by unfold scrollDistance; split <;> simp
    rw [if_neg wraps,if_neg fun wrapping => wraps ⟨wrapping.1,wrapping.2.1⟩,none,leaving_zero]
    exact Framed.refl g

/-- The lines an operation scrolls up. -/
def scrollLines (g : Grid) : Op → Nat
  | .newline => if g.cursorRow = g.scrollBottom then 1 else 0
  | .print ch => if g.Wraps ch ∧ g.cursorRow = g.scrollBottom then 1 else 0
  | .scrollUp n => n
  | _ => 0

/-- The scroll an operation records besides scrolling up. -/
def shiftOps (g : Grid) : Op → List ScrollOp
  | .insertLines p0 =>
    if g.cursorRow < g.scrollTop ∨ g.cursorRow > g.scrollBottom then []
    else [.down g.cursorRow g.scrollBottom (min (max p0 1) (g.scrollBottom - g.cursorRow + 1))]
  | .deleteLines p0 =>
    if g.cursorRow < g.scrollTop ∨ g.cursorRow > g.scrollBottom then []
    else [.up g.cursorRow g.scrollBottom (min (max p0 1) (g.scrollBottom - g.cursorRow + 1))]
  | .scrollDown p0 => [.down g.scrollTop g.scrollBottom (min (max p0 1) (g.scrollBottom - g.scrollTop + 1))]
  | .reverseIndex => if g.cursorRow = g.scrollTop then [.down g.scrollTop g.scrollBottom 1] else []
  | _ => []

/-- The rows an operation scrolls into the scrollback. -/
def entering (g : Grid) (op : Op) : List (Row × RowWrap) := g.leaving g.scrollTop (g.scrollDistance (g.scrollLines op))

/-- The scrolls an operation records. -/
def recording (g : Grid) (op : Op) : List ScrollOp := g.scrollUpOps (g.scrollLines op) ++ g.shiftOps op

end

end Grid

/-- Operations that print, edit, move or scroll. -/
def Op.Plain : Op → Bool
  | .print _ | .clearPendingWrap | .newline | .carriageReturn | .backspace | .tab | .insertChars _ | .cursorUp _
  | .cursorDown _ | .cursorForward _ | .cursorBack _ | .nextLine _ | .previousLine _ | .cursorColumn _
  | .cursorPosition _ _ | .cursorRow _ | .eraseLine _ | .insertLines _ | .deleteLines _ | .deleteChars _ | .scrollUp _
  | .scrollDown _ | .eraseChars _ | .sgr _ | .setMargins _ _ | .restoreCursor | .cursorStyle _ | .reverseIndex
  | .keypad _ => true
  | _ => false

namespace Grid

variable {P : Row → Prop} {f g h : Grid}

theorem scrollDistance_zero (g : Grid) : g.scrollDistance 0 = 0 := by
  unfold scrollDistance
  split
  · exact Nat.zero_min _
  · rfl

theorem scrollUpOps_zero (g : Grid) : g.scrollUpOps 0 = [] := rfl

variable [UnicodeWidth]

theorem entering_of_still {op : Op} (still : g.scrollLines op = 0) : g.entering op = [] := by
  unfold entering
  rw [still,scrollDistance_zero,leaving_zero]

theorem Shaped.print_framed (shaped : g.Shaped P) (ch : Char) :
    Ends (g.Framed (g.entering (.print ch)) (g.recording (.print ch))) (fun _ => True) (g.writeCharAtCursor ch) := by
  have touched : g.touched.Shaped P := { shaped with }
  have first : g.Framed [] [] g.touched := .still rfl fun _ => rfl
  have target : g.touched.joinCol ch = g.joinCol ch := rfl
  unfold entering recording scrollLines
  rw [writeCharAtCursor_eq shaped,target]
  simp only [shiftOps,List.append_nil]
  by_cases wraps : g.Wraps ch
  · simp only [wraps.1,wraps,true_and,if_neg wraps.2.1]
    have wrapped := touched.deferredWrap_framed
    have pending : g.touched.modeFlags.pendingWrap = true ∧ g.touched.modeFlags.noAutowrap = false := wraps.2.2
    simp only [pending,true_and] at wrapped
    exact (writeNewCell_framed g.touched ch _ wrapped).mono fun h framed => first.trans framed
  · rw [if_neg fun scrolls => wraps scrolls.1,scrollDistance_zero,leaving_zero,scrollUpOps_zero]
    cases joins : g.joinCol ch with
    | some col => exact (joinCluster_framed g.touched ch col _).mono fun h framed => first.trans framed
    | none =>
      dsimp only
      split
      case isTrue => exact first
      case isFalse wide =>
        have stays : Ends (g.touched.Framed [] []) (fun _ => True) g.touched.deferredWrap := by
          rw [show g.touched.deferredWrap = .ok g.touched from if_neg fun pending => wraps ⟨joins,wide,pending⟩]
          exact Framed.refl _
        exact (writeNewCell_framed g.touched ch _ stays).mono fun h framed => first.trans framed

omit [UnicodeWidth] in
/-- A shift of lines, recorded. -/
theorem shift_framed (g : Grid) (s : RowStore) (op : ScrollOp) (dirty : DirtyTracker) :
    g.Framed [] [op] { g.setActiveGrid s with scrollOps := g.scrollOps ++ [op], dirty := dirty } := by
  refine ⟨?_,id⟩
  have hidden := hiddenGrid_setActiveGrid g s
  unfold hiddenGrid at hidden
  simp only [ledger,hiddenGrid]
  rw [hidden]
  rfl

/-- What the operations that print, edit, move or scroll add to the ledger. -/
theorem Shaped.exec_framed (shaped : g.Shaped P) {op : Op} (plain : op.Plain = true) :
    Ends (g.Framed (g.entering op) (g.recording op)) (fun _ => True) (g.exec op) := by
  -- an operation that does not scroll up
  have still (none : g.scrollLines op = 0) (ends : Ends (g.Framed [] (g.shiftOps op)) (fun _ => True) (g.exec op)) :
      Ends (g.Framed (g.entering op) (g.recording op)) (fun _ => True) (g.exec op) := by
    rw [entering_of_still none,recording,none]
    exact ends
  cases op
  case print ch => exact shaped.print_framed ch
  case newline =>
    simp only [entering,recording,scrollLines,shiftOps,List.append_nil]
    exact shaped.newline_framed .hard
  case scrollUp n =>
    simp only [entering,recording,scrollLines,shiftOps,List.append_nil]
    exact shaped.scrollUp_framed n .hard
  case insertLines p0 =>
    refine still rfl ?_
    simp only [Grid.exec,shaped.insertLines_eq,shiftOps,ends_ok]
    split
    · exact Framed.refl g
    · exact shift_framed g _ _ _
  case deleteLines p0 =>
    refine still rfl ?_
    simp only [Grid.exec,shaped.deleteLines_eq,shiftOps,ends_ok]
    split
    · exact Framed.refl g
    · exact shift_framed g _ _ _
  case scrollDown p0 =>
    refine still rfl ?_
    simp only [Grid.exec,shaped.scrollDown_eq,shiftOps,ends_ok]
    exact shift_framed g _ _ _
  case reverseIndex =>
    refine still rfl ?_
    simp only [Grid.exec,shaped.reverseIndex_eq,shiftOps,ends_ok]
    split
    · exact shift_framed g _ _ _
    · exact Framed.still rfl id
  all_goals first
    | exact absurd plain Bool.false_ne_true
    | refine still rfl ?_
  case insertChars | deleteChars | eraseChars | eraseLine =>
    exact exec_keeps rfl (fun h e cells framed => framed.edit (Or.inl cells)) (.refl g)
  case clearPendingWrap | carriageReturn | backspace | tab | cursorUp | cursorDown | cursorForward | cursorBack | nextLine |
      previousLine | cursorColumn | cursorPosition | cursorRow =>
    exact exec_keeps rfl (fun h e cursor framed => framed.edit (Or.inr cursor)) (.refl g)
  case restoreCursor =>
    simp only [Grid.exec,restoreSavedCursor_eq,ends_ok]
    split <;> exact Framed.still rfl id
  all_goals exact Framed.still rfl id

end Grid

/-- Operations that change the screen shown: modes 47, 1047 and 1049, and RIS. -/
def Op.Switches : Op → Bool
  | .decMode mode _ => mode = 47 ∨ mode = 1047 ∨ mode = 1049
  | .fullReset => true
  | _ => false

/-- Operations that write the saved cursor, beside entering the alternate screen. -/
def Op.SavesCursor : Op → Bool
  | .saveCursor | .softReset => true
  | _ => false

/-- A ledger without the events. -/
def Ledger.silent (l : Ledger) : Ledger := { l with events := [] }

/-- A ledger without what a switch of screens changes. -/
def Ledger.past (l : Ledger) : Ledger := { l.silent with altScreen := false, hidden := {}, savedCursor := (0,0), keyboard := [] }

namespace Grid

variable {P : Row → Prop} {g : Grid}

theorem setDecMode_ledger {mode : Nat} (stays : (Op.decMode mode true).Switches = false) (enabled : Bool) :
    (g.setDecMode mode enabled).ledger.silent = g.ledger.silent := by
  unfold setDecMode
  split
  case h_7 | h_8 | h_9 => simp [Op.Switches] at stays
  all_goals rfl

theorem handleOsc_ledger (g : Grid) (params : List Bytes) (bell : Bool) :
    (g.handleOsc params bell).ledger.silent = g.ledger.silent := by
  obtain ⟨_,_,_,same⟩ := g.handleOsc_writes params bell
  exact (congrArg (·.ledger.silent) same).trans rfl

/-- The position such an operation saves: DECSTR the home position. -/
def savedBy (g : Grid) : Op → Nat × Nat
  | .softReset => (0,0)
  | _ => (g.cursorRow,g.cursorCol)

section
variable [UnicodeWidth]

/-- What any operation that does not switch screens makes of the ledger, but for
    the events. -/
def ledgerAfter (g : Grid) : Op → Ledger
  | .eraseDisplay mode => (g.eraseHistory mode).ledger
  | .saveCursor => { g.ledger with savedCursor := g.savedBy .saveCursor }
  | .softReset => { g.ledger with savedCursor := g.savedBy .softReset }
  | .kittyPush flags =>
    { g.ledger with keyboard := if g.kittyKbStack.length < kittyKbStackCap then g.kittyKbStack ++ [flags] else g.kittyKbStack }
  | .kittyPop count => { g.ledger with keyboard := g.kittyKbStack.rdrop (min count g.kittyKbStack.length) }
  | op => g.ledger.add (g.entering op) (g.recording op)

theorem add_still {op : Op} (lines : g.scrollLines op = 0) (shift : g.shiftOps op = []) :
    g.ledger.add (g.entering op) (g.recording op) = g.ledger := by
  rw [entering_of_still lines,recording,lines,shift]
  exact Ledger.add_nil _

theorem Shaped.exec_ledger (shaped : g.Shaped P) {op : Op} (stays : op.Switches = false) :
    Ends (fun h => h.ledger.silent = (g.ledgerAfter op).silent) (fun _ => True) (g.exec op) := by
  cases plain : op.Plain with
  | true =>
    have same : g.ledgerAfter op = g.ledger.add (g.entering op) (g.recording op) := by
      cases op
      all_goals first
        | rfl
        | cases plain
    rw [same]
    exact (shaped.exec_framed plain).mono fun h framed => congrArg Ledger.silent framed.ledger
  | false =>
    cases op
    case eraseDisplay mode =>
      refine (eraseDisplay_framed g mode).mono fun h framed => ?_
      rw [framed.ledger,Ledger.add_nil]
      rfl
    case softReset =>
      simp only [Grid.exec,Grid.softReset,Grid.restoreAutowrap,ends_ok]
      split <;> rfl
    case fullReset => exact absurd stays Bool.true_eq_false.mp
    all_goals first
      | exact absurd plain Bool.false_ne_true.symm
      | skip
    case saveCursor | kittyPush | kittyPop => rfl
    -- the rest neither scrolls nor records
    all_goals
      refine Eq.trans ?_ (congrArg Ledger.silent (add_still rfl rfl)).symm
    case decMode mode enabled => exact setDecMode_ledger stays enabled
    case osc params bell => exact handleOsc_ledger g params bell
    all_goals rfl

omit [UnicodeWidth] in
/-- A clear writes the scrollback, the remembered block and the events. -/
theorem eraseHistory_ledger (g : Grid) (mode : Nat) :
    ∃ scrollback block events,
      (g.eraseHistory mode).ledger = { g.ledger with scrollback := scrollback, block := block, events := events } := by
  unfold eraseHistory
  split
  · exact ⟨_,_,_,rfl⟩
  · split
    · rw [preserve_eq]
      cases g.clearBlock with
      | none => exact ⟨_,_,_,rfl⟩
      | some block => exact ⟨_,_,_,rfl⟩
    · exact ⟨_,_,_,rfl⟩

/-- What no operation changes of the ledger without switching screens. -/
theorem ledgerAfter_frame (g : Grid) (op : Op) :
    (g.ledgerAfter op).size = g.ledger.size ∧ (g.ledgerAfter op).limit = g.ledger.limit ∧
      (g.ledgerAfter op).policy = g.ledger.policy ∧ (g.ledgerAfter op).altScreen = g.ledger.altScreen ∧
      (g.ledgerAfter op).hidden = g.ledger.hidden ∧
      (g.ledgerAfter op).savedCursor = if op.SavesCursor then g.savedBy op else g.ledger.savedCursor := by
  cases op
  case eraseDisplay mode =>
    obtain ⟨_,_,_,same⟩ := eraseHistory_ledger g mode
    rw [show g.ledgerAfter (.eraseDisplay mode) = (g.eraseHistory mode).ledger from rfl,same]
    exact ⟨rfl,rfl,rfl,rfl,rfl,rfl⟩
  all_goals exact ⟨rfl,rfl,rfl,rfl,rfl,rfl⟩

/-- What any operation makes of the past. -/
theorem Shaped.exec_past (shaped : g.Shaped P) (op : Op) :
    Ends (fun h => h.ledger.past = (g.ledgerAfter op).past) (fun _ => True) (g.exec op) := by
  cases stays : op.Switches with
  | false =>
    refine (shaped.exec_ledger stays).mono fun h same => ?_
    exact (congrArg Ledger.past same : h.ledger.silent.past = (g.ledgerAfter op).silent.past)
  | true =>
    cases op
    case decMode mode enabled =>
      have same : (g.setDecMode mode enabled).ledger.past = g.ledger.past :=
        congrArg (·.ledger.past) (g.setDecMode_unset mode enabled)
      exact same.trans (congrArg Ledger.past (add_still rfl rfl)).symm
    case fullReset =>
      have still : g.ledger.add (g.entering .fullReset) (g.recording .fullReset) = g.ledger := add_still rfl rfl
      exact (congrArg Ledger.past still).symm
    all_goals exact absurd stays Bool.false_ne_true

end

end Grid

end Termpane
