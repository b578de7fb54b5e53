import Termpane.Clusters
import Termpane.Serialize
import Termpane.SgrDiff
import Termpane.Lib.Playback

/-!
# The grid as a canvas

What a paint reads and changes of a grid is a small machine: cells without their links, a
cursor, a pen and the place of the last print. The tokens the serializer writes act on it,
and on a grid as they act on it.
-/
namespace Termpane

open Lib

/-- A cell as it is seen: all of it but its link. -/
def Cell.face (c : Cell) : Cell := { c with hyperlink := none }

@[simp] theorem face_contents (c : Cell) : c.face.contents = c.contents := rfl
@[simp] theorem face_isWide (c : Cell) : c.face.isWide = c.isWide := rfl
@[simp] theorem face_isWideContinuation (c : Cell) : c.face.isWideContinuation = c.isWideContinuation := rfl
@[simp] theorem face_attrs (c : Cell) : c.face.attrs = c.attrs := rfl
@[simp] theorem face_default : (default : Cell).face = default := rfl
@[simp] theorem face_blankOn (background : Color) : (Cell.blankOn background).face = .blankOn background := rfl
@[simp] theorem face_continuationOf (attrs : Attrs) (hyperlink : Option Hyperlink) :
    (Cell.continuationOf attrs hyperlink).face = .continuationOf attrs none := rfl

theorem shows_iff (c d : Cell) : c.shows d = true ↔ c.face = d.face := by
  cases c
  cases d
  simp [Cell.shows,Cell.face,and_assoc]

/-- The part of a grid that painting changes. -/
structure Canvas where
  lines : Nat → Nat → Cell
  pos : Pos
  pen : Attrs
  last : Option (Nat × Nat)

/-- The sizes, margins and modes that painting finds and leaves. -/
structure Settings where
  rows : Nat
  cols : Nat
  scrollBottom : Nat
  mouseMode : MouseProtocolMode
  mouseEncoding : MouseProtocolEncoding
  cursorStyle : Nat
  modeFlags : ModeFlags

/-- The modes under which a line feed and a pending wrap are plain moves on every row but the last. -/
structure Settings.Open (s : Settings) : Prop where
  autowrap : s.modeFlags.noAutowrap = false
  bottom : s.scrollBottom + 1 = s.rows

namespace Canvas

/-- What the cells and the cursor of a grid in shape satisfy. -/
structure Sound (s : Settings) (k : Canvas) : Prop where
  rowsFit : s.rows ≤ u16Max
  colsFit : s.cols ≤ u16Max
  hasCols : 0 < s.cols
  row : k.pos.row < s.rows
  col : k.pos.col ≤ s.cols
  cells : ∀ i j, CellOk (k.lines i j)
  first : ∀ i, (k.lines i 0).isWideContinuation = false
  pairs : ∀ i j, j + 1 < s.cols → (k.lines i (j + 1)).isWideContinuation = (k.lines i j).isWide

/-- The cursor moved, which forgets the last print. -/
def moved (k : Canvas) (pos : Pos) : Canvas := { k with pos := pos, last := none }

/-- One line written over. -/
def withLine (k : Canvas) (row : Nat) (line : Nat → Cell) : Canvas := { k with lines := Function.update k.lines row line }

/-- The line the cursor is in. -/
def line (k : Canvas) : Nat → Cell := k.lines k.pos.row

@[simp] theorem withLine_pos (k : Canvas) (row : Nat) (line : Nat → Cell) : (k.withLine row line).pos = k.pos := rfl
@[simp] theorem withLine_pen (k : Canvas) (row : Nat) (line : Nat → Cell) : (k.withLine row line).pen = k.pen := rfl
@[simp] theorem withLine_last (k : Canvas) (row : Nat) (line : Nat → Cell) : (k.withLine row line).last = k.last := rfl
@[simp] theorem withLine_same (k : Canvas) (row : Nat) (line : Nat → Cell) : (k.withLine row line).lines row = line :=
  Function.update_self ..
theorem withLine_other (k : Canvas) {row i : Nat} (other : i ≠ row) (line : Nat → Cell) :
    (k.withLine row line).lines i = k.lines i :=
  Function.update_of_ne other ..

end Canvas

namespace Grid

/-- Row `i` of the visible screen. -/
def visibleRow (g : Grid) (i : Nat) : Row := g.activeGrid.rows[i]?.getD []

def canvas (g : Grid) : Canvas where
  lines i j := (cellAt (g.visibleRow i) j).face
  pos := g.cursorPos
  pen := g.currentAttrs
  last := g.lastPrint

def settings (g : Grid) : Settings where
  rows := g.rows
  cols := g.cols
  scrollBottom := g.scrollBottom
  mouseMode := g.mouseMode
  mouseEncoding := g.mouseEncoding
  cursorStyle := g.cursorStyle
  modeFlags := { g.modeFlags with pendingWrap := false, mutatedSincePreserve := false }

/-- A grid in shape with these settings, seen as this canvas. -/
structure Bears (s : Settings) (k : Canvas) (g : Grid) : Prop where
  shaped : g.Shaped RowOk
  settings : g.settings = s
  canvas : g.canvas = k

variable {g h : Grid} {s : Settings} {k : Canvas}

theorem Shaped.bears (shaped : g.Shaped RowOk) : g.Bears g.settings g.canvas := ⟨shaped,rfl,rfl⟩

theorem face_ok {c : Cell} (ok : CellOk c) : CellOk c.face :=
  ⟨ok.continuation,ok.lead,fun empty single => ⟨(ok.blank empty single).1,rfl⟩,ok.scalars⟩

theorem Shaped.visibleRow_ok (shaped : g.Shaped RowOk) (i : Nat) : RowOk (g.visibleRow i) := by
  unfold visibleRow
  by_cases inside : i < g.activeGrid.rows.length
  · rw [List.getElem?_eq_getElem inside]
    exact shaped.active.all _ (List.getElem_mem inside)
  · rw [List.getElem?_eq_none (by omega)]
    exact RowOk.replicate CellOk.default rfl rfl 0

theorem Shaped.visibleRow_length (shaped : g.Shaped RowOk) {i : Nat} (inside : i < g.rows) : (g.visibleRow i).length = g.cols := by
  have bound : i < g.activeGrid.rows.length := by rw [shaped.active.rowCount]; exact inside
  unfold visibleRow
  rw [List.getElem?_eq_getElem bound]
  exact shaped.active.width _ (List.getElem_mem bound)

theorem Bears.sound (bears : g.Bears s k) : k.Sound s := by
  obtain ⟨shaped,rfl,rfl⟩ := bears
  refine ⟨shaped.rowsFit,shaped.colsFit,shaped.hasCols,shaped.cursorRow,shaped.cursorCol,
    fun i j => face_ok ((shaped.visibleRow_ok i).cells j),fun i => (shaped.visibleRow_ok i).first,fun i j inside => ?_⟩
  by_cases bound : i < g.rows
  · exact (shaped.visibleRow_ok i).pairs j (by rw [shaped.visibleRow_length bound]; exact inside)
  · have none : g.visibleRow i = [] := by
      unfold visibleRow
      rw [List.getElem?_eq_none (by rw [shaped.active.rowCount]; omega)]
      rfl
    change (cellAt (g.visibleRow i) (j + 1)).face.isWideContinuation = (cellAt (g.visibleRow i) j).face.isWide
    rw [none]
    rfl

theorem Bears.parked (bears : g.Bears s k) : k.pos.col = s.cols ↔ g.modeFlags.pendingWrap = true := by
  obtain ⟨shaped,rfl,rfl⟩ := bears
  exact shaped.parked

end Grid

/-! ## Writers on canvases -/

section
variable [UnicodeWidth]

/-- The grid as a device that takes the tokens of terminal output. -/
def terminal : Device UInt8 Grid Token Panic where
  encode := Token.encode
  Valid := Token.WellFormed
  exec g t := g.perform t.callback

/-- Played on any grid that is seen as `k`, the writer's output leaves one seen as a canvas
    that `Q` holds of. -/
def Paints {α : Type} (s : Settings) (x : Out α) (k : Canvas) (Q : α → Canvas → Prop) : Prop :=
  ∀ g : Grid, g.Bears s k → terminal.Plays x g fun a h => ∃ k', Q a k' ∧ h.Bears s k'

variable {α β : Type} {s : Settings} {x : Out α} {k : Canvas} {Q : α → Canvas → Prop}

theorem Paints.mono {Q' : α → Canvas → Prop} (paints : Paints s x k Q) (imp : ∀ a k', k'.Sound s → Q a k' → Q' a k') :
    Paints s x k Q' :=
  fun g bears => (paints g bears).mono fun a _ ⟨k',holds,bears'⟩ => ⟨k',imp a k' bears'.sound holds,bears'⟩

theorem paints_pure {a : α} (holds : Q a k) : Paints s (pure a) k Q := fun _ bears => Device.plays_pure ⟨k,holds,bears⟩

theorem Paints.bind {f : α → Out β} {R : β → Canvas → Prop} (paints : Paints s x k Q)
    (next : ∀ a k', k'.Sound s → Q a k' → Paints s (f a) k' R) : Paints s (x >>= f) k R :=
  fun g bears => (paints g bears).bind fun a h ⟨k',holds,bears'⟩ => next a k' bears'.sound holds h bears'

theorem Paints.lift_bind {step : Checked α} {a : α} (done : step = .ok a) {f : α → Out β} {R : β → Canvas → Prop}
    (next : Paints s (f a) k R) : Paints s (liftM step >>= f) k R :=
  fun g bears => Device.Plays.lift_bind done (next g bears)

/-- A loop whose turns keep what is known after so many elements. -/
theorem paints_foldlM {γ : Type*} {I : Nat → β → Canvas → Prop} {f : β → γ → Out β} {l : List γ}
    (turn : ∀ i (inside : i < l.length) b k, k.Sound s → I i b k → Paints s (f b l[i]) k (I (i + 1))) {b : β} (start : I 0 b k) :
    Paints s (l.foldlM f b) k (I l.length) := fun _ bears =>
  Device.plays_foldlM (I := fun i b h => ∃ k, I i b k ∧ h.Bears s k)
    (fun i inside b h ⟨k,holds,bears⟩ => turn i inside b k bears.sound holds h bears) ⟨k,start,bears⟩

/-- What tokens leave is in shape. -/
theorem Grid.Bears.played {g h : Grid} (bears : g.Bears s k) {tokens : List Token} (played : tokens.foldlM terminal.exec g = .ok h)
    {s' : Settings} {k' : Canvas} (settings : h.settings = s') (canvas : h.canvas = k') : h.Bears s' k' := by
  refine ⟨?_,settings,canvas⟩
  have ran : g.performAll (tokens.map Token.callback) = .ok h := by
    unfold Grid.performAll
    rw [List.foldlM_map]
    exact played
  exact (bears.shaped.performAll (rowOk_law fun _ => True) fun _ _ => trivial).of_ok ran

/-- A writer of these tokens, which take every such grid to one seen as `k'`. -/
theorem paints_tokens {a : α} (tokens : List Token) (k' : Canvas) (ran : x.run = .ok (a,encodeAll tokens))
    (valid : ∀ t ∈ tokens, t.WellFormed)
    (played : ∀ g : Grid, g.Bears s k → ∃ h, tokens.foldlM terminal.exec g = .ok h ∧ h.settings = s ∧ h.canvas = k')
    (holds : Q a k') : Paints s x k Q := by
  intro g bears
  obtain ⟨h,taken,settings,canvas⟩ := played g bears
  exact ⟨a,tokens,h,ran,valid,taken,k',holds,bears.played taken settings canvas⟩

end

end Termpane
