import Termpane.Arena

/-!
# Grids that share an arena

A row from the arena is a row of default cells whatever was recycled, so a call that takes
its rows there does what the call on rows of its own does, and the grids that share an
arena do not see each other.
-/
namespace Termpane

open Lib

namespace RowRequest

/-- What every arena answers. -/
def reply : (q : RowRequest) → q.Answer
  | .blankRow cols => Termpane.blankRow cols
  | .recycle _ => ()

end RowRequest

open RowRequest (reply)

/-! ## The arena -/

/-- What an arena keeps. -/
structure RowArena.Clean (arena : RowArena) : Prop where
  few : arena.rows.length ≤ maxRecycledRows
  blank : ∀ row ∈ arena.rows, ∀ cell ∈ row, cell = default

theorem fillRow_eq (row : Row) : fillRow row = blankRow row.length := List.map_const'

theorem default_of_mem_fillRow {row : Row} {cell : Cell} (inside : cell ∈ fillRow row) : cell = default := by
  rw [fillRow_eq] at inside
  exact List.eq_of_mem_replicate inside

theorem swapRemove_subset {rows : List Row} {index : Nat} {row : Row} (inside : row ∈ swapRemove rows index) : row ∈ rows := by
  unfold swapRemove at inside
  split at inside
  · rename_i last same
    rcases List.mem_or_eq_of_mem_set ((List.dropLast_subset _) inside) with old | rfl
    · exact old
    · exact List.mem_of_getLast? same
  · exact inside

theorem swapRemove_length_le (rows : List Row) (index : Nat) : (swapRemove rows index).length ≤ rows.length := by
  unfold swapRemove
  split
  · rw [List.length_dropLast,List.length_set]
    exact Nat.sub_le _ _
  · exact le_refl _

namespace RowArena

theorem blankRow_fst (arena : RowArena) (cols : Nat) : (arena.blankRow cols).1 = Termpane.blankRow cols := by
  unfold RowArena.blankRow
  dsimp only
  split
  · rename_i row found
    have wide : row.length = cols := by simpa using List.find?_some found
    exact (fillRow_eq row).trans (by rw [wide])
  · rfl

theorem Clean.blankRow {arena : RowArena} (clean : arena.Clean) (cols : Nat) : (arena.blankRow cols).2.Clean := by
  unfold RowArena.blankRow
  dsimp only
  split
  · exact ⟨(swapRemove_length_le _ _).trans clean.few,fun row inside => clean.blank row (swapRemove_subset inside)⟩
  · exact clean

theorem Clean.recycle {arena : RowArena} (clean : arena.Clean) (row : Row) : (arena.recycle row).Clean := by
  unfold RowArena.recycle
  dsimp only
  split
  case isFalse => exact clean
  case isTrue room =>
    constructor
    · rw [List.length_append,List.length_singleton]
      exact room
    · intro row' inside
      rcases List.mem_append.mp inside with old | new
      · exact clean.blank row' old
      · rw [List.mem_singleton.mp new]
        exact fun cell => default_of_mem_fillRow

theorem clean_empty : RowArena.Clean {} := ⟨Nat.zero_le _,fun _ inside => absurd inside List.not_mem_nil⟩

/-- An arena answers by the request alone, and stays clean. -/
theorem serves : Serves RowArena.serve reply RowArena.Clean where
  answers arena q _ := by
    cases q with
    | blankRow cols => exact arena.blankRow_fst cols
    | recycle row => rfl
  keeps arena q clean := by
    cases q with
    | blankRow cols => exact clean.blankRow cols
    | recycle row => exact clean.recycle row

end RowArena

/-! ## Calls on an arena -/

namespace Pooled

@[simp] theorem answered_blankRow (cols : Nat) : (blankRow cols).answered reply = .ok (Termpane.blankRow cols) := rfl

@[simp] theorem answered_recycle (row : Row) : (recycle row).answered reply = .ok () := rfl

@[simp] theorem answered_blankRows (cols n : Nat) :
    (blankRows cols n).answered reply = .ok (List.replicate n (Termpane.blankRow cols)) := by
  induction n with
  | zero => rfl
  | succ n ih => simp [blankRows,ih,List.replicate_succ]

@[simp] theorem answered_recycleRows (rows : List Row) : (recycleRows rows).answered reply = .ok () := by
  induction rows with
  | nil => rfl
  | cons row rows ih => simp [recycleRows,ih]

@[simp] theorem answered_blank (rows cols : Nat) : (blank rows cols).answered reply = .ok (.blank rows cols) := by
  simp [blank,RowStore.blank]

@[simp] theorem answered_clear (s : RowStore) : (clear s).answered reply = .ok s.clear := by
  simp [clear,RowStore.clear]

@[simp] theorem answered_recycleFront (s : RowStore) : (recycleFront s).answered reply = .ok s.recycleFront := by
  unfold recycleFront RowStore.recycleFront
  cases s.rows <;> simp

@[simp] theorem answered_resize (s : RowStore) (targetRows targetCols : Nat) :
    (resize s targetRows targetCols).answered reply = .ok (s.resize targetRows targetCols) := by
  unfold resize RowStore.resize
  dsimp only
  split
  · rfl
  · simp

@[simp] theorem answered_pushScrollbackRow (g : Grid) (row : Row) (wrap : RowWrap) :
    (pushScrollbackRow g row wrap).answered reply = .ok (g.pushScrollbackRow row wrap) := by
  unfold pushScrollbackRow Grid.pushScrollbackRow
  split <;> simp

@[simp] theorem answered_scrollUpOnce (top bottom : Nat) (insertedWrap : RowWrap) (g : Grid) :
    (scrollUpOnce top bottom insertedWrap g).answered reply = Grid.scrollUpOnce top bottom insertedWrap g := by
  unfold scrollUpOnce Grid.scrollUpOnce
  dsimp only
  split
  · rfl
  · rcases g.activeGrid.removeWithWrap top with ⟨_ | ⟨row,wrap⟩,remaining⟩
    · simp [evict,Grid.setActiveGrid]
    · simp only [evict,Program.answered_bind,answered_blankRow,ok_bind,Program.answered_ite]
      split <;> simp [Grid.pushScrollbackRow]

@[simp] theorem answered_repeatBody {body : Grid → Pooled Grid} {body' : Grid → Checked Grid}
    (same : ∀ g, (body g).answered reply = body' g) (n : Nat) (g : Grid) :
    (repeatBody body n g).answered reply = Grid.repeatBody body' n g := by
  induction n generalizing g with
  | zero => rfl
  | succ n ih => simp [repeatBody,Grid.repeatBody,same,ih]

@[simp] theorem answered_scrollUp (g : Grid) (n : Nat) (insertedWrap : RowWrap) :
    (scrollUp g n insertedWrap).answered reply = g.scrollUp n insertedWrap := by
  simp only [scrollUp,Grid.scrollUp,Program.answered_bind,Program.answered_lift,Program.answered_pure,pure_ok,
    answered_repeatBody (answered_scrollUpOnce _ _ insertedWrap)]

theorem answered_pushAll (block : List Row) (g : Grid) :
    (block.foldlM (fun g row => pushScrollbackRow g row .hard) g).answered reply =
      .ok (block.foldl (fun g row => g.pushScrollbackRow row .hard) g) := by
  induction block generalizing g with
  | nil => rfl
  | cons row block ih => rw [List.foldlM_cons,Program.answered_bind,answered_pushScrollbackRow,ok_bind,ih,List.foldl_cons]

@[simp] theorem answered_preserveVisibleRowsToScrollback (g : Grid) :
    (preserveVisibleRowsToScrollback g).answered reply = .ok g.preserveVisibleRowsToScrollback := by
  unfold preserveVisibleRowsToScrollback Grid.preserveVisibleRowsToScrollback
  by_cases kept : g.eraseDisplayPolicy = .discard ∨ g.modeFlags.altScreen ∨ g.scrollbackLimit = 0
  · rw [if_pos kept,if_pos kept]; rfl
  rw [if_neg kept,if_neg kept]
  by_cases same : (!g.modeFlags.mutatedSincePreserve) = true
  · rw [if_pos same,if_pos same]; rfl
  rw [if_neg same,if_neg same]
  cases Grid.visibleBlock g.primary with
  | none => rfl
  | some block =>
    dsimp only
    by_cases again : g.lastPreservedBlock = some block
    · rw [if_pos again,if_pos again]; rfl
    · rw [if_neg again,if_neg again,Program.answered_bind,answered_pushAll]
      rfl

@[simp] theorem answered_newlineActionWithWrap (g : Grid) (wrap : RowWrap) :
    (newlineActionWithWrap g wrap).answered reply = g.newlineActionWithWrap wrap := by
  unfold newlineActionWithWrap
  split
  case isTrue last => rw [answered_scrollUp,Grid.newlineActionWithWrap,if_pos last]
  case isFalse => rfl

@[simp] theorem answered_eraseDisplay (g : Grid) (mode : Nat) : (eraseDisplay g mode).answered reply = g.eraseDisplay mode := by
  have cells : (eraseDisplayCells g mode).answered reply = g.eraseDisplayCells mode := by
    unfold eraseDisplayCells
    split
    · unfold Grid.eraseDisplayCells
      split <;> simp
    · simp [Grid.eraseDisplayCells]
    · simp [Grid.eraseDisplayCells]
    · rfl
  rw [eraseDisplay,Program.answered_bind,cells]
  rfl

@[simp] theorem answered_fullReset (g : Grid) : (fullReset g).answered reply = .ok g.fullReset := by
  simp only [fullReset,Program.answered_bind,answered_blank,answered_clear,ok_bind,Program.answered_pure]
  rfl

@[simp] theorem answered_host (g : Grid) (c : HostCall) : (host g c).answered reply = .ok (g.host c) := by
  cases c with
  | setSize rows cols => simp [host,setSize,Grid.host,Grid.setSize]
  | clearScrollback => simp [host,clearScrollback,Grid.host]
  | _ => rfl

section
variable [UnicodeWidth]

@[simp] theorem answered_writeCharAtCursor (g : Grid) (ch : Char) :
    (writeCharAtCursor g ch).answered reply = g.writeCharAtCursor ch := by
  have deferred : ∀ g : Grid, (deferredWrap g).answered reply = g.deferredWrap := fun g => by
    unfold deferredWrap Grid.deferredWrap
    split
    · exact answered_newlineActionWithWrap _ _
    · rfl
  have written : ∀ (g : Grid) width, (writeNewCell g ch width).answered reply = g.writeNewCell ch width := fun g width => by
    simp only [writeNewCell,Grid.writeNewCell,Program.answered_bind,deferred,Program.answered_ite,Program.answered_lift,
      Program.answered_pure,pure_ok]
  simp only [writeCharAtCursor,Grid.writeCharAtCursor,Program.answered_bind,Program.answered_lift]
  refine congrArg _ (funext fun result => ?_)
  cases result.2 with
  | true => rfl
  | false => exact written result.1 _

@[simp] theorem answered_exec (g : Grid) (op : Op) : (exec g op).answered reply = g.exec op := by
  cases op with
  | print ch => exact answered_writeCharAtCursor g ch
  | newline => exact answered_newlineActionWithWrap g .hard
  | eraseDisplay mode => exact answered_eraseDisplay g mode
  | scrollUp n => exact answered_scrollUp g n .hard
  | fullReset => exact answered_fullReset g
  | _ => rfl

@[simp] theorem answered_perform (g : Grid) (c : Callback) : (perform g c).answered reply = g.perform c := by
  rw [perform,Program.answered_foldlM]
  simp only [answered_exec]
  rfl

end

section
variable [Vte] [UnicodeWidth]

omit [UnicodeWidth] in
@[simp] theorem answered_withRowArena (rows cols : UInt16) (scrollbackLimit : Nat) :
    (withRowArena rows cols scrollbackLimit).answered reply = .ok (.new rows cols scrollbackLimit) := by
  simp only [withRowArena,Program.answered_bind,answered_blank,ok_bind]
  rfl

omit [UnicodeWidth] in
@[simp] theorem answered_drop (d : DamageGrid) : (drop d).answered reply = .ok () := by simp [drop]

theorem answered_advanceParser (d : DamageGrid) (bytes : Bytes) :
    (advanceParser d bytes).answered reply = d.advanceParser bytes := by
  simp only [advanceParser,Program.answered_bind,Program.answered_foldlM,answered_perform]
  rfl

@[simp] theorem answered_process (d : DamageGrid) (bytes : Bytes) : (process d bytes).answered reply = d.process bytes := by
  unfold process DamageGrid.process
  rcases nextSlice d.pendingUtf8 bytes with ⟨_ | slice,pending⟩
  · rfl
  · simp only [Program.answered_bind,answered_advanceParser]
    rfl

/-- A call that takes its rows from an arena does what the call on rows of its own does. -/
theorem answered_call (d : DamageGrid) (c : Call) : (call d c).answered reply = d.call c := by
  cases c with
  | process bytes => exact answered_process d bytes
  | host c => simp [call,DamageGrid.call]

end

end Pooled

section
variable [Vte] [UnicodeWidth]

theorem GridCall.answered_pooled (grid : Option DamageGrid) (c : GridCall) :
    (GridCall.pooled grid c).answered reply = GridCall.unpooled grid c := by
  cases grid with
  | none => cases c <;> simp [pooled,unpooled]
  | some d => cases c <;> simp [pooled,unpooled,Pooled.answered_call]

variable {ι : Type} [DecidableEq ι]

/-- A grid on a shared arena ends up as its own calls, one after the other, leave a grid
    that has its rows to itself. -/
theorem Grids.outcome (schedule : List (ι × Move RowRequest GridCall)) (i : ι) :
    ((Grids.after schedule).client i).outcome reply =
      (((.idle none : Client RowRequest RowRequest.Answer Panic (Option DamageGrid)).calls GridCall.pooled reply
        (movesOf i schedule)).foldlM GridCall.unpooled none : Checked (Option DamageGrid)) := by
  rw [Grids.after,run_client RowArena.serves schedule RowArena.clean_empty,outcome_moves]
  simp only [GridCall.answered_pooled]
  rfl

/-- A call on a grid between two calls ends, whatever the others do meanwhile, and as the
    call on a grid that has its rows to itself. -/
theorem Grids.call_ends {schedule : List (ι × Move RowRequest GridCall)} {i : ι} {grid : Option DamageGrid}
    (idle : (Grids.after schedule).client i = .idle grid) (c : GridCall) :
    ∃ turns, ∀ later, movesOf i later = .call c :: List.replicate turns .turn →
      (Grids.after (schedule ++ later)).client i = .ended (GridCall.unpooled grid c) := by
  obtain ⟨turns,ends⟩ : ∃ turns, (Client.busy (GridCall.pooled grid c)).moves GridCall.pooled reply (List.replicate turns .turn) =
    .ended ((GridCall.pooled grid c).answered reply) := turns_end _
  refine ⟨turns,fun later mine => ?_⟩
  unfold Grids.after at idle ⊢
  rw [run_client RowArena.serves _ RowArena.clean_empty] at idle ⊢
  rw [movesOf_append,mine,Client.moves,List.foldl_append]
  change Client.moves GridCall.pooled reply (Client.moves GridCall.pooled reply _ _) _ = _
  rw [idle,← GridCall.answered_pooled]
  exact ends

/-- Whatever the order in which any number of grids on one arena are created, called and
    dropped, and wherever a call is interrupted by another's, each is in the state in which
    its own calls leave it on an empty arena, and the arena holds a bounded number of rows
    of default cells. -/
theorem Grids.sharing_invisible (schedule : List (ι × Move RowRequest GridCall)) :
    (∀ i, (Grids.after schedule).client i = (Grids.after (schedule.filter (·.1 = i))).client i) ∧
      (Grids.after schedule).service.rows.length ≤ maxRecycledRows ∧
        ∀ row ∈ (Grids.after schedule).service.rows, ∀ cell ∈ row, cell = default := by
  have clean := RowArena.clean_empty
  have after : (Grids.after schedule).service.Clean := run_service RowArena.serves schedule clean
  exact ⟨fun i => run_alone RowArena.serves schedule clean clean rfl,after.few,after.blank⟩

end

section
attribute [local instance] byteParser blockWidth

/-- A grid that printed leaves blank rows behind. -/
example :
    let schedule : List (Nat × Move RowRequest GridCall) :=
      [(0,.call (.withRowArena 1 2 0)),(0,.turn),(0,.turn),(0,.call (.call (.process [0x41]))),(0,.turn),
        (0,.call .drop),(0,.turn),(0,.turn),(0,.turn)]
    (Grids.after schedule).service.rows = [blankRow 2,blankRow 2] := by rfl

end

end Termpane
