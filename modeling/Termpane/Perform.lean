import Termpane.Grid

/-!
# The parser's callbacks

`perform.rs`. A callback of `vte::Perform` is a list of operations, selected by
the match of its dispatcher alone; `exec` is what an operation does to the grid.
-/
namespace Termpane

/-- A call of the parser into `vte::Perform`. -/
inductive Callback
  | print (ch : Char)
  | execute (byte : UInt8)
  | csiDispatch (params : List (List UInt16)) (intermediates : Bytes) (ignore : Bool) (action : Char)
  | escDispatch (intermediates : Bytes) (ignore : Bool) (byte : UInt8)
  | oscDispatch (params : List Bytes) (bellTerminated : Bool)
  | hook (params : List (List UInt16)) (intermediates : Bytes) (ignore : Bool) (action : Char)
  | put (byte : UInt8)
  | unhook
  deriving DecidableEq, Repr

/-- The operations the callbacks are made of. -/
inductive Op
  | print (ch : Char)
  | clearPendingWrap
  | newline
  | carriageReturn
  | backspace
  | tab
  | emit (e : PassthroughEvent)
  | insertChars (n : Nat)
  | cursorUp (n : Nat)
  | cursorDown (n : Nat)
  | cursorForward (n : Nat)
  | cursorBack (n : Nat)
  | nextLine (n : Nat)
  | previousLine (n : Nat)
  | cursorColumn (p0 : Nat)
  | cursorPosition (p0 p1 : Nat)
  | cursorRow (p0 : Nat)
  | eraseDisplay (mode : Nat)
  | eraseLine (mode : Nat)
  | insertLines (p0 : Nat)
  | deleteLines (p0 : Nat)
  | deleteChars (n : Nat)
  | scrollUp (n : Nat)
  | scrollDown (p0 : Nat)
  | eraseChars (n : Nat)
  | sgr (params : List Param)
  | decMode (mode : Nat) (enabled : Bool)
  | setMargins (p0 p1 : Nat)
  | saveCursor
  | restoreCursor
  | kittyPush (flags : Nat)
  | kittyPop (count : Nat)
  | cursorReport (dec : Bool)
  | requestMode (mode : Nat) (dec : Bool)
  | cursorStyle (style : Nat)
  | softReset
  | reverseIndex
  | keypad (application : Bool)
  | fullReset
  | osc (params : List Bytes) (bellTerminated : Bool)
  deriving DecidableEq, Repr

/-- `execute`: C0 controls. -/
def execute (byte : UInt8) : List Op :=
  if 0x0a ≤ byte ∧ byte ≤ 0x0c then [.clearPendingWrap,.newline]
  else if byte = 0x0d then [.clearPendingWrap,.carriageReturn]
  else if byte = 0x08 then [.backspace]
  else if byte = 0x09 then [.clearPendingWrap,.tab]
  else if byte = 0x07 then [.emit .bell]
  else []

/-- The finals whose CSI positions the cursor and so cancels a deferred wrap. -/
def movesCursor (action : Char) : Bool := "ABCDEFGHfdr".toList.contains action

/-- The match of `csi_dispatch` on the final, the intermediates and the first
    parameters. -/
def csiOps (params : List Param) (intermediates : Bytes) (action : Char) : List Op :=
  let p := params.map Param.first
  let p0 := p[0]?.getD 0
  let p1 := p[1]?.getD 0
  let n := max p0 1
  let deny : List Op := [.emit (.droppedCsi (reconstructCsi params intermediates (UInt8.ofNat action.toNat)))]
  match action with
  | '@' => [.insertChars n]
  | 'A' => [.cursorUp n]
  | 'B' => [.cursorDown n]
  | 'C' => [.cursorForward n]
  | 'D' => [.cursorBack n]
  | 'E' => [.nextLine n]
  | 'F' => [.previousLine n]
  | 'G' => [.cursorColumn p0]
  | 'H' => [.cursorPosition p0 p1]
  | 'f' => [.cursorPosition p0 p1]
  | 'J' => if intermediates = [] ∨ intermediates = ascii "?" then [.eraseDisplay p0] else deny
  | 'K' => if intermediates = [] ∨ intermediates = ascii "?" then [.eraseLine p0] else deny
  | 'L' => [.insertLines p0]
  | 'M' => [.deleteLines p0]
  | 'P' => [.deleteChars n]
  | 'S' => [.scrollUp n]
  | 'T' => [.scrollDown p0]
  | 'X' => [.eraseChars n]
  | 'd' => [.cursorRow p0]
  | 'm' =>
    if intermediates = [] then [.sgr params]
    else if intermediates = ascii ">" ∧ p0 = 4 then
      [.emit (.unhandledCsi (reconstructCsi params intermediates (UInt8.ofNat action.toNat)))]
    else deny
  | 'h' => if intermediates = ascii "?" then p.map (.decMode · true) else deny
  | 'l' => if intermediates = ascii "?" then p.map (.decMode · false) else deny
  | 'r' => [.setMargins p0 p1]
  | 's' => [.saveCursor]
  | 'u' =>
    if intermediates = [] then [.restoreCursor]
    else if intermediates = ascii ">" then [.kittyPush n]
    else if intermediates = ascii "<" then [.kittyPop n]
    else if intermediates = ascii "?" then [.emit (.reply (ascii "\x1b[?0u"))]
    else deny
  | 'c' =>
    if intermediates = [] then [.emit (.reply (ascii "\x1b[?62c"))]
    else if intermediates = ascii ">" then [.emit (.reply (ascii "\x1b[>0;0;0c"))]
    else []
  | 'n' =>
    if intermediates = [] ∨ intermediates = ascii "?" then
      match p0 with
      | 5 => [.emit (.reply (ascii "\x1b[0n"))]
      | 6 => [.cursorReport (intermediates = ascii "?")]
      | _ => []
    else deny
  | 'p' =>
    if intermediates.contains 0x24 then [.requestMode p0 (intermediates.contains 0x3f)]
    else if intermediates = ascii "!" then [.softReset]
    else deny
  | 'q' =>
    if intermediates = ascii " " then [.cursorStyle p0]
    else if intermediates = ascii ">" then []
    else deny
  | _ => deny

/-- `csi_dispatch`. -/
def csiDispatch (params : List (List UInt16)) (intermediates : Bytes) (action : Char) : List Op :=
  let params := params.map (·.map UInt16.toNat)
  (if movesCursor action then [.clearPendingWrap] else []) ++ csiOps params intermediates action

/-- `esc_dispatch`: the intermediates are not looked at. -/
def escDispatch (byte : UInt8) : List Op :=
  if byte = 0x4d then [.clearPendingWrap,.reverseIndex]
  else if byte = 0x37 then [.saveCursor]
  else if byte = 0x38 then [.restoreCursor]
  else if byte = 0x3d then [.keypad true]
  else if byte = 0x3e then [.keypad false]
  else if byte = 0x63 then [.fullReset]
  else []

/-- The operations of one callback. -/
def Callback.ops : Callback → List Op
  | .print ch => [.print ch]
  | .execute byte => Termpane.execute byte
  | .csiDispatch params intermediates _ action => Termpane.csiDispatch params intermediates action
  | .escDispatch _ _ byte => Termpane.escDispatch byte
  | .oscDispatch params bell => [.osc params bell]
  | .hook _ _ _ _ => []
  | .put _ => []
  | .unhook => []

namespace Grid
variable [UnicodeWidth]

/-- What one operation does to the grid. -/
def exec (g : Grid) : Op → Checked Grid
  | .print ch => g.writeCharAtCursor ch
  | .clearPendingWrap => .ok g.clearPendingWrap
  | .newline => g.newlineActionWithWrap .hard
  | .carriageReturn => .ok { g with cursorCol := 0 }
  | .backspace =>
    .ok (if g.modeFlags.pendingWrap then g.clearPendingWrap
      else if g.cursorCol > 0 then { g with cursorCol := g.cursorCol - 1 } else g)
  | .tab => do
    -- `((cursor_col / 8) + 1) * 8`, each step a `u16`
    let stop ← add16 (g.cursorCol / 8) 1
    let nextTab ← if stop * 8 ≤ u16Max then pure (stop * 8) else .error .overflow
    return { g with cursorCol := min nextTab (g.cols - 1) }
  | .emit e => .ok (g.pushEvent e)
  | .insertChars n => g.insertChars n
  | .cursorUp n => .ok { g with cursorRow := g.cursorRow - n }.clampCursor
  | .cursorDown n => .ok { g with cursorRow := addCursorOffset g.cursorRow n (g.rows - 1) }.clampCursor
  | .cursorForward n => .ok { g with cursorCol := addCursorOffset g.cursorCol n (g.cols - 1) }.clampCursor
  | .cursorBack n => .ok { g with cursorCol := g.cursorCol - n }.clampCursor
  | .nextLine n => .ok { g with cursorRow := addCursorOffset g.cursorRow n (g.rows - 1), cursorCol := 0 }
  | .previousLine n => .ok { g with cursorRow := g.cursorRow - n, cursorCol := 0 }
  | .cursorColumn p0 => .ok { g with cursorCol := min (p0 - 1) (g.cols - 1) }
  | .cursorPosition p0 p1 =>
    .ok { g with cursorRow := min (p0 - 1) (g.rows - 1), cursorCol := min (p1 - 1) (g.cols - 1) }
  | .cursorRow p0 => .ok { g with cursorRow := min (p0 - 1) (g.rows - 1) }
  | .eraseDisplay mode => g.eraseDisplay mode
  | .eraseLine mode => g.eraseLine mode
  | .insertLines p0 => g.insertLines p0
  | .deleteLines p0 => g.deleteLines p0
  | .deleteChars n => g.deleteChars n
  | .scrollUp n => g.scrollUp n .hard
  | .scrollDown p0 => g.scrollDown p0
  | .eraseChars n => g.eraseChars n
  | .sgr params => .ok { g with currentAttrs := applySgr params g.currentAttrs }
  | .decMode mode enabled => .ok (g.setDecMode mode enabled)
  | .setMargins p0 p1 => .ok (g.setMargins p0 p1)
  | .saveCursor => .ok g.saveCursor
  | .restoreCursor => .ok g.restoreSavedCursor
  | .kittyPush flags =>
    let stack := if g.kittyKbStack.length < kittyKbStackCap then g.kittyKbStack ++ [flags] else g.kittyKbStack
    .ok ({ g with kittyKbStack := stack }.pushEvent
      (.unhandledCsi (ascii "\x1b[>" ++ decimal flags ++ ascii "u")))
  | .kittyPop count =>
    .ok ({ g with kittyKbStack := g.kittyKbStack.rdrop (min count g.kittyKbStack.length) }.pushEvent
      (.unhandledCsi (ascii "\x1b[<" ++ decimal count ++ ascii "u")))
  | .cursorReport dec =>
    let row := decimal (satAdd16 g.cursorRow 1)
    let col := decimal (satAdd16 (min g.cursorCol (g.cols - 1)) 1)
    .ok (g.pushEvent (.reply (if dec then ascii "\x1b[?" ++ row ++ ascii ";" ++ col ++ ascii ";1R"
      else ascii "\x1b[" ++ row ++ ascii ";" ++ col ++ ascii "R")))
  | .requestMode mode dec =>
    let status := if dec then g.decrqmStatus mode else 0
    let intro := if dec then ascii "\x1b[?" else ascii "\x1b["
    .ok (g.pushEvent (.reply (intro ++ decimal mode ++ ascii ";" ++ decimal status ++ ascii "$y")))
  | .cursorStyle style => .ok { g with cursorStyle := style }
  | .softReset => .ok g.softReset
  | .reverseIndex => g.reverseIndex
  | .keypad application => .ok { g with modeFlags.applicationKeypad := application }
  | .fullReset => .ok g.fullReset
  | .osc params bell => .ok (g.handleOsc params bell)

/-- The operations of a callback, in order. -/
def execAll (g : Grid) (ops : List Op) : Checked Grid := ops.foldlM exec g

/-- One callback of the parser. -/
def perform (g : Grid) (c : Callback) : Checked Grid := g.execAll c.ops

/-- The callbacks of one call of the parser. -/
def performAll (g : Grid) (cs : List Callback) : Checked Grid := cs.foldlM perform g

end Grid

end Termpane
