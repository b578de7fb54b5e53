import Termpane.Midseq

/-!
# Processing output

`DamageGrid::process`: bytes are cut where a character is unfinished, the rest
goes to the tracker and the parser, and the parser's callbacks to the grid.
-/
namespace Termpane

open Lib

/-! ## The carried bytes -/

/-- `Iterator::rposition` on a slice. -/
def rposition (p : UInt8 → Bool) (bytes : Bytes) : Option Nat :=
  (bytes.reverse.findIdx? p).map fun i => bytes.length - 1 - i

/-- `incomplete_utf8_suffix_len`. -/
def incompleteUtf8SuffixLen (bytes : Bytes) : Nat :=
  match bytes.getLast? with
  | none => 0
  | some last =>
    if isAscii last then 0
    else
      let start := (rposition isAscii bytes).elim 0 (· + 1)
      let suffix := bytes.drop start
      match fromUtf8 suffix with
      | some _ => 0
      | none => if validUpTo suffix > 0 then suffix.length - validUpTo suffix else suffix.length

/-- What one call hands to the parser, if anything, and what it leaves in
    `pending_utf8`. -/
def nextSlice (pending bytes : Bytes) : Option Bytes × Bytes :=
  if bytes = [] then (none,pending)
  else
    let bytes := pending ++ bytes
    let pendingLen := incompleteUtf8SuffixLen bytes
    let feedLen := bytes.length - pendingLen
    (if feedLen > 0 then some (bytes.take feedLen) else none,
      if pendingLen > 0 then bytes.drop feedLen else [])

/-- What a run of calls hands to the parser, and what it leaves. -/
def slices : Bytes → List Bytes → List Bytes × Bytes
  | pending, [] => ([],pending)
  | pending, chunk :: chunks =>
    let (slice,pending) := nextSlice pending chunk
    let (later,pending) := slices pending chunks
    (slice.toList ++ later,pending)

section
variable [Vte]

/-- `DamageGrid`: the grid with its parser, the parser's tracker and the bytes
    carried between calls. -/
structure DamageGrid where
  grid : Grid
  parser : Vte.State := Vte.start
  seqState : SeqState := .ground
  pendingUtf8 : Bytes := []

namespace DamageGrid

/-- `DamageGrid::new`. -/
def new (rows cols : UInt16) (scrollbackLimit : Nat) : DamageGrid := { grid := .new rows cols scrollbackLimit }

/-- `mid_sequence`. -/
def midSequence (d : DamageGrid) : Bool := !d.pendingUtf8.isEmpty || !d.seqState.isGround

variable [UnicodeWidth]

/-- `advance_parser`. -/
def advanceParser (d : DamageGrid) (bytes : Bytes) : Checked DamageGrid := do
  let (parser,callbacks) := Vte.advance d.parser bytes
  let grid ← d.grid.performAll callbacks
  return { d with grid := grid, parser := parser, seqState := d.seqState.advanceBytes bytes }

/-- `process`. -/
def process (d : DamageGrid) (bytes : Bytes) : Checked DamageGrid := do
  let (slice,pending) := nextSlice d.pendingUtf8 bytes
  let d ←
    match slice with
    | some slice => d.advanceParser slice
    | none => pure d
  return { d with pendingUtf8 := pending }

/-- A run of `process` over the chunks of a stream. -/
def processAll (d : DamageGrid) (chunks : List Bytes) : Checked DamageGrid := chunks.foldlM process d

end DamageGrid

end

/-! ## What is carried -/

/-- The run of non-ASCII bytes a byte string ends in. -/
def trailingRun (bytes : Bytes) : Bytes := bytes.rtakeWhile fun b => !isAscii b

/-- The bytes of the trailing run that no character can be read from. -/
def held (bytes : Bytes) : Bytes := utf8.rest (trailingRun bytes)

/-- `pending_utf8` as a call leaves it: nothing is left to read from it. -/
def Carried (pending : Bytes) : Prop := held pending = pending

/-- Nothing, or the start of the encoding of one scalar. -/
def Unfinished (pending : Bytes) : Prop := pending = [] ∨ ∃ c, pending <+: utf8.encode c ∧ pending ≠ utf8.encode c

theorem held_nil : held [] = [] := rfl

theorem trailingRun_suffix (bytes : Bytes) : trailingRun bytes <:+ bytes := List.rtakeWhile_suffix _ _

theorem held_suffix_run (bytes : Bytes) : held bytes <:+ trailingRun bytes := utf8.rest_suffix _

theorem held_suffix (bytes : Bytes) : held bytes <:+ bytes := (held_suffix_run bytes).trans (trailingRun_suffix bytes)

theorem trailingRun_nonAscii {bytes : Bytes} {b : UInt8} (inside : b ∈ trailingRun bytes) : isAscii b = false := by
  have taken := List.mem_rtakeWhile_imp inside
  simpa using taken

theorem held_nonAscii {bytes : Bytes} {b : UInt8} (inside : b ∈ held bytes) : isAscii b = false :=
  trailingRun_nonAscii ((held_suffix_run bytes).subset inside)

theorem trailingRun_append_ascii {right : Bytes} (hasAscii : ∃ b ∈ right, isAscii b = true) (left : Bytes) :
    trailingRun (left ++ right) = trailingRun right := by
  induction right using List.reverseRecOn with
  | nil => obtain ⟨b,none,_⟩ := hasAscii; cases none
  | append_singleton right b ih =>
    unfold trailingRun at ih ⊢
    rw [← List.append_assoc,List.rtakeWhile_concat,List.rtakeWhile_concat]
    split
    case isFalse => rfl
    case isTrue nonAscii =>
      rw [ih]
      obtain ⟨c,inside,ascii⟩ := hasAscii
      rcases List.mem_append.mp inside with before | last
      · exact ⟨c,before,ascii⟩
      · rw [List.mem_singleton.mp last] at ascii
        simp [ascii] at nonAscii

theorem trailingRun_append_nonAscii {right : Bytes} (nonAscii : ∀ b ∈ right, isAscii b = false) (left : Bytes) :
    trailingRun (left ++ right) = trailingRun left ++ right := by
  induction right using List.reverseRecOn with
  | nil => simp
  | append_singleton right b ih =>
    unfold trailingRun at ih ⊢
    rw [← List.append_assoc,List.rtakeWhile_concat,if_pos (by simp [nonAscii b (by simp)]),
      ih fun c inside => nonAscii c (by simp [inside]),List.append_assoc]

/-- What is held is all of the past that a later call depends on. -/
theorem held_append (left right : Bytes) : held (held left ++ right) = held (left ++ right) := by
  unfold held
  by_cases hasAscii : ∃ b ∈ right, isAscii b = true
  · rw [trailingRun_append_ascii hasAscii,trailingRun_append_ascii hasAscii]
  · have nonAscii : ∀ b ∈ right, isAscii b = false := fun b inside => by
      cases ascii : isAscii b with
      | false => rfl
      | true => exact absurd ⟨b,inside,ascii⟩ hasAscii
    have kept : trailingRun (held left) = held left :=
      List.rtakeWhile_eq_self_iff.mpr fun b inside => by simp [held_nonAscii inside]
    rw [trailingRun_append_nonAscii nonAscii,trailingRun_append_nonAscii nonAscii]
    conv_rhs => rw [utf8.rest_append]
    rw [show trailingRun (utf8.rest (trailingRun left)) = utf8.rest (trailingRun left) from kept]

theorem held_carried (bytes : Bytes) : Carried (held bytes) := by
  have same := held_append bytes []
  simpa [Carried] using same

/-! ## The cut -/

theorem drop_rposition (bytes : Bytes) : bytes.drop ((rposition isAscii bytes).elim 0 (· + 1)) = trailingRun bytes := by
  induction bytes using List.reverseRecOn with
  | nil => rfl
  | append_singleton bytes b ih =>
    unfold rposition trailingRun at *
    rw [List.rtakeWhile_concat,List.reverse_concat,List.findIdx?_cons]
    cases ascii : isAscii b with
    | true => simp
    | false =>
      simp only [Bool.not_false,if_true,Bool.false_eq_true,if_false]
      rw [← ih]
      cases found : bytes.reverse.findIdx? isAscii with
      | none => simp
      | some i =>
        have inside : i < bytes.length := by
          obtain ⟨inside,_⟩ := List.findIdx?_eq_some_iff_getElem.mp found
          simpa using inside
        simp only [Option.map_some,Option.elim_some,List.length_append,List.length_singleton]
        rw [List.drop_append_of_le_length (by omega),show bytes.length + 1 - 1 - (i + 1) = bytes.length - 1 - i by omega]

/-- The suffix function measures what is held. -/
theorem incompleteUtf8SuffixLen_eq (bytes : Bytes) : incompleteUtf8SuffixLen bytes = (held bytes).length := by
  induction bytes using List.reverseRecOn with
  | nil => rfl
  | append_singleton bytes b _ =>
    simp only [incompleteUtf8SuffixLen,List.getLast?_concat,drop_rposition]
    cases ascii : isAscii b with
    | true =>
      have run : trailingRun (bytes ++ [b]) = [] := List.rtakeWhile_concat_neg _ _ _ (by simp [ascii])
      rw [if_pos rfl,held,run]
      rfl
    | false =>
      rw [if_neg (by simp)]
      have split := utf8.rest_length (trailingRun (bytes ++ [b]))
      unfold fromUtf8 validUpTo held
      by_cases valid : utf8.rest (trailingRun (bytes ++ [b])) = []
      · simp [valid]
      · simp only [List.isEmpty_iff,valid,if_false]
        split_ifs <;> omega

theorem trailingRun_preceded (bytes : Bytes) :
    bytes = trailingRun bytes ∨ ∃ front b, bytes = front ++ [b] ++ trailingRun bytes ∧ isAscii b = true := by
  have split : bytes.rdropWhile (fun b => !isAscii b) ++ trailingRun bytes = bytes := List.rdropWhile_append_rtakeWhile
  rcases List.eq_nil_or_concat (bytes.rdropWhile fun b => !isAscii b) with empty | ⟨front,b,last⟩
  · rw [empty] at split
    exact .inl split.symm
  · have nonempty : bytes.rdropWhile (fun b => !isAscii b) ≠ [] := by rw [last]; simp
    have ascii := List.rdropWhile_last_not _ _ nonempty
    simp only [last,List.concat_eq_append,List.getLast_append_singleton] at ascii
    rw [last,List.concat_eq_append] at split
    exact .inr ⟨front,b,split.symm,by simpa using ascii⟩

/-- What is not held ends with an ASCII byte or a whole character. -/
theorem endsCharacter_of_split {slice bytes : Bytes} (split : slice ++ held bytes = bytes) (some : slice ≠ []) :
    EndsCharacter slice := by
  have read := utf8.spell_symbols_append_rest (trailingRun bytes)
  have run : ∃ front, bytes = front ++ trailingRun bytes ∧ (front = [] ∨ ∃ pre b, front = pre ++ [b] ∧ isAscii b = true) := by
    rcases trailingRun_preceded bytes with whole | ⟨front,b,same,ascii⟩
    · exact ⟨[],whole,.inl rfl⟩
    · exact ⟨front ++ [b],same,.inr ⟨front,b,rfl,ascii⟩⟩
  obtain ⟨front,same,before⟩ := run
  have sliced : slice = front ++ utf8.spell (utf8.symbols (trailingRun bytes)) := by
    refine List.append_cancel_right (?_ : _ ++ held bytes = _ ++ held bytes)
    rw [split,List.append_assoc,held,read]
    exact same
  rcases List.eq_nil_or_concat (utf8.symbols (trailingRun bytes)) with none | ⟨chars,c,last⟩
  · rw [none,utf8.spell_nil,List.append_nil] at sliced
    rcases before with empty | ⟨pre,b,ends,ascii⟩
    · exact absurd (sliced.trans empty) some
    · exact .inl ⟨pre,b,sliced.trans ends,ascii⟩
  · right
    refine ⟨front ++ utf8.spell chars,c,?_⟩
    rw [sliced,last,List.concat_eq_append,utf8.spell_append,utf8.spell_cons,utf8.spell_nil,List.append_nil,List.append_assoc]

/-- The slice of one call. -/
theorem nextSlice_eq {bytes : Bytes} (more : bytes ≠ []) (pending : Bytes) :
    ∃ slice, slice ++ held (pending ++ bytes) = pending ++ bytes ∧
      nextSlice pending bytes = (if slice = [] then none else some slice,held (pending ++ bytes)) := by
  obtain ⟨slice,split⟩ := held_suffix (pending ++ bytes)
  have length := congrArg List.length split
  rw [List.length_append] at length
  refine ⟨slice,split,?_⟩
  have cut : (pending ++ bytes).take ((pending ++ bytes).length - (held (pending ++ bytes)).length) = slice := by
    rw [← length,Nat.add_sub_cancel,← split,List.take_left]
  have left : (pending ++ bytes).drop ((pending ++ bytes).length - (held (pending ++ bytes)).length) =
      held (pending ++ bytes) := by
    rw [← length,Nat.add_sub_cancel]
    conv_lhs => rw [← split]
    exact List.drop_left
  simp only [nextSlice,if_neg more,incompleteUtf8SuffixLen_eq,cut,left]
  rw [← length,Nat.add_sub_cancel]
  congr 1
  · by_cases empty : slice = []
    · simp [empty]
    · simp [empty,List.length_pos_iff.mpr empty]
  · by_cases empty : held (pending ++ bytes) = []
    · simp [empty]
    · simp [List.length_pos_iff.mpr empty]

theorem nextSlice_pending {pending : Bytes} (carried : Carried pending) (bytes : Bytes) :
    (nextSlice pending bytes).2 = held (pending ++ bytes) := by
  by_cases empty : bytes = []
  · rw [empty,List.append_nil,carried]; rfl
  · obtain ⟨slice,_,same⟩ := nextSlice_eq empty pending
    rw [same]

theorem nextSlice_spell (pending bytes : Bytes) :
    (nextSlice pending bytes).1.toList.flatten ++ (nextSlice pending bytes).2 = pending ++ bytes := by
  by_cases empty : bytes = []
  · simp [nextSlice,empty]
  · obtain ⟨slice,split,same⟩ := nextSlice_eq empty pending
    by_cases none : slice = []
    · simpa [same,none] using split
    · simpa [same,none] using split

theorem nextSlice_ends {pending bytes slice : Bytes} (cut : (nextSlice pending bytes).1 = some slice) :
    EndsCharacter slice := by
  by_cases empty : bytes = []
  · simp [nextSlice,empty] at cut
  · obtain ⟨slice',split,same⟩ := nextSlice_eq empty pending
    rw [same] at cut
    by_cases none : slice' = []
    · simp [none] at cut
    · simp only [none,if_false,Option.some.injEq] at cut
      exact cut ▸ endsCharacter_of_split split none

/-! ## Runs of calls -/

theorem slices_cons (pending chunk : Bytes) (chunks : List Bytes) :
    slices pending (chunk :: chunks) =
      ((nextSlice pending chunk).1.toList ++ (slices (nextSlice pending chunk).2 chunks).1,
        (slices (nextSlice pending chunk).2 chunks).2) := rfl

/-- What is left after a run depends on the bytes alone. -/
theorem slices_pending {pending : Bytes} (carried : Carried pending) (chunks : List Bytes) :
    (slices pending chunks).2 = held (pending ++ chunks.flatten) := by
  induction chunks generalizing pending with
  | nil => rw [List.flatten_nil,List.append_nil,carried]; rfl
  | cons chunk chunks ih =>
    rw [slices_cons,nextSlice_pending carried,ih (held_carried _),held_append,List.flatten_cons,List.append_assoc]

/-- What was handed over and what is left spell the input. -/
theorem slices_spell (pending : Bytes) (chunks : List Bytes) :
    (slices pending chunks).1.flatten ++ (slices pending chunks).2 = pending ++ chunks.flatten := by
  induction chunks generalizing pending with
  | nil => simp [slices]
  | cons chunk chunks ih =>
    rw [slices_cons,List.flatten_append,List.append_assoc,ih,← List.append_assoc,nextSlice_spell,List.flatten_cons,
      List.append_assoc]

theorem slices_ends {pending slice : Bytes} {chunks : List Bytes} (handed : slice ∈ (slices pending chunks).1) :
    EndsCharacter slice := by
  induction chunks generalizing pending with
  | nil => simp [slices] at handed
  | cons chunk chunks ih =>
    rw [slices_cons] at handed
    rcases List.mem_append.mp handed with now | later
    · exact nextSlice_ends (Option.mem_toList.mp now)
    · exact ih later

/-- Every way of cutting the input hands over the same bytes. -/
theorem slices_flatten {pending : Bytes} (carried : Carried pending) (chunks : List Bytes) :
    (slices pending chunks).1.flatten = (slices pending [chunks.flatten]).1.flatten := by
  refine List.append_cancel_right (?_ : _ ++ held (pending ++ chunks.flatten) = _ ++ held (pending ++ chunks.flatten))
  have chunked := slices_spell pending chunks
  have oneShot := slices_spell pending [chunks.flatten]
  rw [slices_pending carried] at chunked oneShot
  simp only [List.flatten_cons,List.flatten_nil,List.append_nil] at oneShot
  rw [chunked,oneShot]

theorem advanceBytes_flatten (s : SeqState) (slices : List Bytes) :
    slices.foldl SeqState.advanceBytes s = s.advanceBytes slices.flatten := by
  induction slices generalizing s with
  | nil => rfl
  | cons slice slices ih => rw [List.foldl_cons,ih,List.flatten_cons,SeqState.advanceBytes_append]

theorem held_of_ascii (front : Bytes) {b : UInt8} (ascii : isAscii b = true) : held (front ++ [b]) = [] := by
  have run : trailingRun (front ++ [b]) = [] := List.rtakeWhile_concat_neg _ _ _ (by simp [ascii])
  unfold held
  rw [run]
  rfl

/-- A whole character is not held. -/
theorem held_encode (ch : Char) : held (utf8.encode ch) = [] := by
  by_cases hasAscii : ∃ b ∈ utf8.encode ch, isAscii b = true
  · obtain ⟨b,inside,ascii⟩ := hasAscii
    rw [encode_of_ascii_mem inside ascii]
    exact held_of_ascii [] ascii
  · have run : trailingRun (utf8.encode ch) = utf8.encode ch := by
      refine List.rtakeWhile_eq_self_iff.mpr fun b inside => ?_
      cases ascii : isAscii b with
      | false => rfl
      | true => exact absurd ⟨b,inside,ascii⟩ hasAscii
    unfold held
    rw [run,utf8.rest_eq_nil_iff]
    exact ⟨[ch],(List.append_nil _).symm⟩

theorem held_token {t : Token} (wellFormed : t.WellFormed) : held t.encode = [] := by
  cases t with
  | text ch => exact held_encode ch
  | control byte =>
    refine held_of_ascii [] ?_
    unfold Token.WellFormed IsC0 at wellFormed
    simp only [isAscii,decide_eq_true_eq,UInt8.le_iff_toNat_le,UInt8.lt_iff_toNat_lt,← UInt8.toNat_inj,UInt8.reduceToNat] at *
    omega
  | esc byte =>
    refine held_of_ascii [0x1b] ?_
    obtain ⟨_,final,_⟩ := wellFormed
    simp only [isAscii,decide_eq_true_eq,UInt8.le_iff_toNat_le,UInt8.lt_iff_toNat_lt,UInt8.reduceToNat] at *
    omega
  | csi marker params intermediate action =>
    refine held_of_ascii _ ?_
    obtain ⟨_,_,_,_,_,final⟩ := wellFormed
    simp only [isAscii,decide_eq_true_eq,UInt8.lt_iff_toNat_lt,UInt8.toNat_ofNat',UInt8.reduceToNat]
    omega

/-- Nothing is held of whole tokens. -/
theorem held_encodeAll {tokens : List Token} (wellFormed : ∀ t ∈ tokens, t.WellFormed) : held (encodeAll tokens) = [] := by
  induction tokens with
  | nil => rfl
  | cons t tokens ih =>
    rw [encodeAll_cons,← held_append,held_token (wellFormed t List.mem_cons_self),List.nil_append]
    exact ih fun t inside => wellFormed t (List.mem_cons_of_mem _ inside)

section
variable [Vte]

namespace DamageGrid

/-- The grid with other bytes carried. -/
def carrying (d : DamageGrid) (pending : Bytes) : DamageGrid := { d with pendingUtf8 := pending }

variable [UnicodeWidth]

theorem advanceParser_carrying (d : DamageGrid) (pending slice : Bytes) :
    (d.carrying pending).advanceParser slice = (d.advanceParser slice).map (·.carrying pending) := by
  unfold advanceParser carrying
  cases run : d.grid.performAll (Vte.advance d.parser slice).2 <;> simp [run,Except.map]

theorem foldlM_advanceParser_carrying (slices : List Bytes) (d : DamageGrid) (pending : Bytes) :
    slices.foldlM advanceParser (d.carrying pending) = (slices.foldlM advanceParser d).map (·.carrying pending) := by
  induction slices generalizing d with
  | nil => rfl
  | cons slice slices ih =>
    rw [List.foldlM_cons,List.foldlM_cons,advanceParser_carrying]
    cases d.advanceParser slice with
    | error e => rfl
    | ok d' => exact ih d'

theorem process_eq (d : DamageGrid) (bytes : Bytes) : d.process bytes =
    ((nextSlice d.pendingUtf8 bytes).1.toList.foldlM advanceParser d).map
      (·.carrying (nextSlice d.pendingUtf8 bytes).2) := by
  rcases cut : nextSlice d.pendingUtf8 bytes with ⟨_ | slice,pending⟩
  · simp only [process,cut]; rfl
  · simp only [process,cut,Option.toList_some,List.foldlM_cons,List.foldlM_nil,bind_pure]
    cases d.advanceParser slice <;> rfl

/-- A run of `process` is the run of `advance_parser` over the slices. -/
theorem processAll_eq (chunks : List Bytes) (d : DamageGrid) : d.processAll chunks =
    ((slices d.pendingUtf8 chunks).1.foldlM advanceParser d).map (·.carrying (slices d.pendingUtf8 chunks).2) := by
  induction chunks generalizing d with
  | nil => rfl
  | cons chunk chunks ih =>
    unfold processAll at ih ⊢
    rw [List.foldlM_cons,process_eq,slices_cons,List.foldlM_append]
    cases (nextSlice d.pendingUtf8 chunk).1.toList.foldlM advanceParser d with
    | error e => rfl
    | ok d' =>
      have later := ih (d'.carrying (nextSlice d.pendingUtf8 chunk).2)
      rw [show (d'.carrying (nextSlice d.pendingUtf8 chunk).2).pendingUtf8 = (nextSlice d.pendingUtf8 chunk).2 from rfl,
        foldlM_advanceParser_carrying] at later
      refine later.trans ?_
      change _ = ((slices (nextSlice d.pendingUtf8 chunk).2 chunks).1.foldlM advanceParser d').map _
      cases (slices (nextSlice d.pendingUtf8 chunk).2 chunks).1.foldlM advanceParser d' <;> rfl

/-- The callbacks of slices handed over one after the other. -/
def parsed (s : Vte.State) : List Bytes → List Callback
  | [] => []
  | slice :: slices => (Vte.advance s slice).2 ++ parsed (Vte.advance s slice).1 slices

theorem foldlM_advanceParser_grid (slices : List Bytes) (d : DamageGrid) :
    (slices.foldlM advanceParser d).map (·.grid) = d.grid.performAll (parsed d.parser slices) := by
  induction slices generalizing d with
  | nil => rfl
  | cons slice slices ih =>
    have split : d.grid.performAll (parsed d.parser (slice :: slices)) =
        d.grid.performAll (Vte.advance d.parser slice).2 >>= fun g =>
          g.performAll (parsed (Vte.advance d.parser slice).1 slices) := List.foldlM_append
    have first : d.advanceParser slice = (d.grid.performAll (Vte.advance d.parser slice).2).map fun g =>
        { d with grid := g, parser := (Vte.advance d.parser slice).1, seqState := d.seqState.advanceBytes slice } := by
      simp only [advanceParser]
      cases d.grid.performAll (Vte.advance d.parser slice).2 <;> rfl
    rw [List.foldlM_cons,split,first]
    cases d.grid.performAll (Vte.advance d.parser slice).2 with
    | error e => rfl
    | ok g => exact ih { d with grid := g, parser := (Vte.advance d.parser slice).1,
                                seqState := d.seqState.advanceBytes slice }

/-- The callbacks of a stream. -/
def callbacks (d : DamageGrid) (chunks : List Bytes) : List Callback := parsed d.parser (slices d.pendingUtf8 chunks).1

omit [UnicodeWidth] in
theorem parsed_flatten (laws : VteLaws) {slices : List Bytes} (ends : ∀ slice ∈ slices, EndsCharacter slice) (s : Vte.State) :
    parsed s slices = (Vte.advance s slices.flatten).2 := by
  induction slices generalizing s with
  | nil => exact (laws.nothing s).symm
  | cons slice slices ih =>
    rw [List.flatten_cons,laws.persists s slice _ (ends slice List.mem_cons_self)]
    exact congrArg _ (ih (fun slice inside => ends slice (List.mem_cons_of_mem _ inside)) _)

omit [UnicodeWidth] in
/-- Tokens are decoded as written, however they are cut. -/
theorem parsed_tokens (laws : VteLaws) {tokens : List Token} (wellFormed : ∀ t ∈ tokens, t.WellFormed) {chunks : List Bytes}
    (spelled : chunks.flatten = encodeAll tokens) : parsed Vte.start (slices [] chunks).1 = tokens.map Token.callback := by
  have whole : (slices [] chunks).1.flatten = encodeAll tokens := by
    have spell := slices_spell [] chunks
    rwa [slices_pending held_nil,List.nil_append,spelled,held_encodeAll wellFormed,List.append_nil] at spell
  have decoded := laws.decodes tokens [] wellFormed
  rw [laws.nothing,List.append_nil,List.append_nil] at decoded
  rw [parsed_flatten laws fun slice handed => slices_ends handed,whole,decoded]

/-- A stream does to the grid what its callbacks do. -/
theorem processAll_grid (d : DamageGrid) (chunks : List Bytes) :
    (d.processAll chunks).map (·.grid) = d.grid.performAll (d.callbacks chunks) := by
  rw [processAll_eq,callbacks,← foldlM_advanceParser_grid]
  cases (slices d.pendingUtf8 chunks).1.foldlM advanceParser d <;> rfl

/-- Cutting the input differently changes nothing the parser, the tracker or the
    next call can see: the slices concatenate to the same bytes, the same bytes
    are carried and the tracker is in the same state, and no slice cuts a character. -/
theorem process_chunks (d : DamageGrid) (carried : Carried d.pendingUtf8) (chunks : List Bytes) :
    let handed := slices d.pendingUtf8 chunks
    let oneShot := slices d.pendingUtf8 [chunks.flatten]
    d.processAll chunks = (handed.1.foldlM advanceParser d).map (·.carrying handed.2) ∧
      handed.1.flatten = oneShot.1.flatten ∧ handed.2 = oneShot.2 ∧
      handed.1.foldl SeqState.advanceBytes d.seqState = oneShot.1.foldl SeqState.advanceBytes d.seqState ∧
      handed.1.flatten ++ handed.2 = d.pendingUtf8 ++ chunks.flatten ∧
      ∀ slice ∈ handed.1, EndsCharacter slice := by
  have flat := slices_flatten carried chunks
  refine ⟨processAll_eq chunks d,flat,?_,?_,slices_spell _ chunks,fun slice handed => slices_ends handed⟩
  · rw [slices_pending carried,slices_pending carried,List.flatten_cons,List.flatten_nil,List.append_nil]
  · rw [advanceBytes_flatten,advanceBytes_flatten,flat]

/-- The bytes carried after a run of calls on a new grid. -/
theorem processAll_pending {rows cols : UInt16} {scrollbackLimit : Nat} {chunks : List Bytes} {d : DamageGrid}
    (run : (new rows cols scrollbackLimit).processAll chunks = .ok d) : d.pendingUtf8 = held chunks.flatten := by
  rw [processAll_eq] at run
  have pending : (slices [] chunks).2 = held ([] ++ chunks.flatten) :=
    slices_pending (show Carried [] from rfl) chunks
  rw [List.nil_append] at pending
  change ((slices [] chunks).1.foldlM advanceParser (new rows cols scrollbackLimit)).map _ = _ at run
  cases fed : (slices [] chunks).1.foldlM advanceParser (new rows cols scrollbackLimit) with
  | error e => rw [fed] at run; cases run
  | ok d' =>
    rw [fed] at run
    cases run
    exact pending

/-- What is carried is at most one unfinished character, exactly when the run of
    non-ASCII bytes the input ends in can still become valid UTF-8. -/
theorem pending_unfinished_iff {rows cols : UInt16} {scrollbackLimit : Nat} {chunks : List Bytes} {d : DamageGrid}
    (run : (new rows cols scrollbackLimit).processAll chunks = .ok d) :
    Unfinished d.pendingUtf8 ↔ ∃ more, utf8.Spells (trailingRun chunks.flatten ++ more) := by
  rw [processAll_pending run]
  exact (utf8.spells_extension_iff _).symm

end DamageGrid

end

section
attribute [local instance] byteParser blockWidth

theorem process_chunks_split_character :
    let handed := slices [] [[0x41,0xc3],[0xa9]]
    let oneShot := slices [] [[0x41,0xc3,0xa9]]
    (DamageGrid.new 2 3 0).processAll [[0x41,0xc3],[0xa9]] =
      (handed.1.foldlM DamageGrid.advanceParser (DamageGrid.new 2 3 0)).map (·.carrying handed.2) ∧
      handed.1.flatten = oneShot.1.flatten ∧ handed.2 = oneShot.2 ∧
      handed.1.foldl SeqState.advanceBytes .ground = oneShot.1.foldl SeqState.advanceBytes .ground ∧
      handed.1.flatten ++ handed.2 = [0x41,0xc3,0xa9] ∧ ∀ slice ∈ handed.1, EndsCharacter slice :=
  DamageGrid.process_chunks (DamageGrid.new 2 3 0) held_nil [[0x41,0xc3],[0xa9]]

theorem pending_unfinished_iff_lead : Unfinished [0xc3] ↔ ∃ more, utf8.Spells (trailingRun [0xc3] ++ more) :=
  DamageGrid.pending_unfinished_iff
    (show (DamageGrid.new 2 3 0).processAll [[0xc3]] = .ok ((DamageGrid.new 2 3 0).carrying [0xc3]) by rfl)

/-- A stray byte, and with it the text after it, is withheld. -/
theorem stray_byte_withheld :
    (DamageGrid.new 2 3 0).processAll [[0xff],[0xc3,0xa9]] = .ok ((DamageGrid.new 2 3 0).carrying [0xff,0xc3,0xa9]) ∧
      ¬ ∀ chunks d, (DamageGrid.new 2 3 0).processAll chunks = .ok d → Unfinished d.pendingUtf8 := by
  refine ⟨by rfl,fun always => ?_⟩
  have unfinished := always [[0xff]] ((DamageGrid.new 2 3 0).carrying [0xff]) (by rfl)
  rcases unfinished with none | ⟨c,⟨rest,same⟩,_⟩
  · cases none
  · obtain ⟨b,tail,encoded,first,_⟩ := encode_first c
    rw [encoded] at same
    have stray : (0xff : UInt8) = b := (List.cons.inj same).1
    exact absurd (stray ▸ first) (by decide)

end

end Termpane
