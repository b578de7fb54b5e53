import Termpane.Vte

/-!
# A parser that obeys the laws

A byte machine with vte's fourteen states: it reads parameters, intermediates,
OSC strings and UTF-8 as vte does on well-formed input, without vte's limits on
the number of parameters and intermediates. It shows that the laws the parser is assumed to obey can be
obeyed, and runs the grid on concrete input.
-/
namespace Termpane

/-- The table, in full. -/
def VteState.next (v : VteState) (b : UInt8) : VteState :=
  if b = 0x1b then .escape
  else if b = 0x18 ∨ b = 0x1a then .ground
  else
    match v with
    | .ground => .ground
    | .escape =>
      if 0x20 ≤ b ∧ b ≤ 0x2f then .escapeIntermediate
      else if b = 0x50 then .dcsEntry
      else if b = 0x58 ∨ b = 0x5e ∨ b = 0x5f then .sosPmApcString
      else if b = 0x5b then .csiEntry
      else if b = 0x5d then .oscString
      else if 0x30 ≤ b ∧ b ≤ 0x7e then .ground
      else .escape
    | .escapeIntermediate => if 0x30 ≤ b ∧ b ≤ 0x7e then .ground else .escapeIntermediate
    | .csiEntry =>
      if 0x20 ≤ b ∧ b ≤ 0x2f then .csiIntermediate
      else if 0x30 ≤ b ∧ b ≤ 0x3f then .csiParam
      else if 0x40 ≤ b ∧ b ≤ 0x7e then .ground
      else .csiEntry
    | .csiParam =>
      if 0x20 ≤ b ∧ b ≤ 0x2f then .csiIntermediate
      else if 0x3c ≤ b ∧ b ≤ 0x3f then .csiIgnore
      else if 0x40 ≤ b ∧ b ≤ 0x7e then .ground
      else .csiParam
    | .csiIntermediate =>
      if 0x30 ≤ b ∧ b ≤ 0x3f then .csiIgnore
      else if 0x40 ≤ b ∧ b ≤ 0x7e then .ground
      else .csiIntermediate
    | .csiIgnore => if 0x40 ≤ b ∧ b ≤ 0x7e then .ground else .csiIgnore
    | .dcsEntry =>
      if 0x20 ≤ b ∧ b ≤ 0x2f then .dcsIntermediate
      else if 0x30 ≤ b ∧ b ≤ 0x3f then .dcsParam
      else if 0x40 ≤ b ∧ b ≤ 0x7e then .dcsPassthrough
      else .dcsEntry
    | .dcsParam =>
      if 0x20 ≤ b ∧ b ≤ 0x2f then .dcsIntermediate
      else if 0x3c ≤ b ∧ b ≤ 0x3f then .dcsIgnore
      else if 0x40 ≤ b ∧ b ≤ 0x7e then .dcsPassthrough
      else .dcsParam
    | .dcsIntermediate =>
      if 0x30 ≤ b ∧ b ≤ 0x3f then .dcsIgnore
      else if 0x40 ≤ b ∧ b ≤ 0x7e then .dcsPassthrough
      else .dcsIntermediate
    | .dcsPassthrough => if b = 0x9c then .ground else .dcsPassthrough
    | .dcsIgnore => if b = 0x9c then .ground else .dcsIgnore
    | .oscString => if b = 0x07 then .ground else .oscString
    | .sosPmApcString => .sosPmApcString

private theorem next_inSequence {v : VteState} {b : UInt8} (sequence : v.InSequence) (unread : IsC0 b ∨ 0x7f ≤ b) :
    v.next b = v := by
  unfold IsC0 at unread
  rcases sequence with rfl | rfl | rfl | rfl | rfl | rfl <;> simp only [VteState.next] <;> split_ifs <;> grind

theorem VteState.next_table : VteTable VteState.next where
  ground_stays b plain := by simp [VteState.next,plain]
  escape v := rfl
  cancel v b cancel := by rcases cancel with rfl | rfl <;> cases v <;> decide
  c0_stays v b sequence c0 := next_inSequence sequence (.inl c0)
  high_stays v b sequence high := next_inSequence sequence (.inr high)
  escape_intermediate b low high := by simp only [VteState.next]; split_ifs <;> grind
  escape_dcs := by decide
  escape_string b string := by rcases string with rfl | rfl | rfl <;> decide
  escape_csi := by decide
  escape_osc := by decide
  escape_final b low high h1 h2 h3 h4 h5 h6 := by simp only [VteState.next]; split_ifs <;> grind
  intermediate_stays b low high := by simp only [VteState.next]; split_ifs <;> grind
  intermediate_final b low high := by simp only [VteState.next]; split_ifs <;> grind
  csi_parameter v b csi low high := by
    unfold VteState.InCsi at *
    rcases csi with rfl | rfl | rfl | rfl <;> simp only [VteState.next] <;> split_ifs <;> grind
  csi_final v b csi low high := by
    rcases csi with rfl | rfl | rfl | rfl <;> simp only [VteState.next] <;> split_ifs <;> grind
  osc_bell := by decide
  osc_stays b h1 h2 h3 h4 := by simp [VteState.next,h1,h2,h3,h4]
  sosPmApc_stays b h1 h2 h3 := by simp [VteState.next,h1,h2,h3]
  dcs_continues v b dcs h1 h2 h3 h4 := by
    unfold VteState.InDcs VteState.InDcsHeader at *
    rcases dcs with (rfl | rfl | rfl) | rfl | rfl <;> simp only [VteState.next] <;> split_ifs <;> grind
  dcs_terminator v body := by rcases body with rfl | rfl <;> decide
  dcs_header_absorbs v header := by rcases header with rfl | rfl | rfl <;> decide

/-! ## The machine -/

structure ByteParser where
  state : VteState := .ground
  partialUtf8 : Bytes := []
  intermediates : Bytes := []
  groups : List Param := []
  group : Param := []
  param : Nat := 0
  osc : Bytes := []
  deriving DecidableEq, Repr

/-- Printed, or executed if it is a control. -/
def dispatchChar (ch : Char) : Callback := if Printable ch then .print ch else .execute (UInt8.ofNat ch.toNat)

/-- The character a byte belongs to: the first byte of one cuts the unfinished
    one before it short. With the callbacks for that. -/
def groundWord (unfinished : Bytes) (b : UInt8) : Bytes × List Callback :=
  if unfinished ≠ [] ∧ b.IsUTF8FirstByte then ([b],[.print '\ufffd']) else (unfinished ++ [b],[])

/-- One byte of plain text after the start of a character: what is unfinished
    then, and the callbacks. -/
def readGround (unfinished : Bytes) (b : UInt8) : Bytes × List Callback :=
  let (word,before) := groundWord unfinished b
  match firstScalar word with
  | some ch => ([],before ++ [dispatchChar ch])
  | none =>
    if word.length < 4 ∧ (b.IsUTF8FirstByte ∨ unfinished ≠ []) then (word,before)
    else ([],before ++ [if word = [b] ∧ b ≤ 0x9f then .execute b else .print '\ufffd'])

namespace ByteParser

def params (p : ByteParser) : List Param := p.groups ++ [p.group ++ [p.param]]

/-- A parameter, separator or intermediate byte. -/
def collect (p : ByteParser) (b : UInt8) : ByteParser :=
  if 0x30 ≤ b ∧ b ≤ 0x39 then { p with param := min (p.param * 10 + (b.toNat - 0x30)) u16Max }
  else if b = 0x3a then { p with group := p.group ++ [p.param], param := 0 }
  else if b = 0x3b then { p with groups := p.groups ++ [p.group ++ [p.param]], group := [], param := 0 }
  else { p with intermediates := p.intermediates ++ [b] }

/-- The callbacks of leaving a state by `ESC`, `CAN` or `SUB`. -/
def interrupted (p : ByteParser) : List Callback :=
  match p.state with
  | .ground => if p.partialUtf8 = [] then [] else [.print '\ufffd']
  | .oscString => [.oscDispatch (oscFields p.osc) false]
  | .dcsPassthrough => [.unhook]
  | _ => []

def update (p : ByteParser) (b : UInt8) : ByteParser :=
  if b = 0x1b ∨ (p.state ≠ .ground ∧ p.state.next b = .ground) then {}
  else
    match p.state with
    | .ground => { partialUtf8 := (readGround p.partialUtf8 b).1 }
    | .escape | .escapeIntermediate => if 0x20 ≤ b ∧ b ≤ 0x2f then p.collect b else p
    | .csiEntry | .csiParam | .csiIntermediate | .csiIgnore | .dcsEntry | .dcsParam | .dcsIntermediate =>
      if 0x20 ≤ b ∧ b ≤ 0x3f then p.collect b else p
    | .oscString => if IsC0 b then p else { p with osc := p.osc ++ [b] }
    | .dcsPassthrough | .dcsIgnore | .sosPmApcString => p

def callbacks (p : ByteParser) (b : UInt8) : List Callback :=
  if b = 0x1b then p.interrupted
  else if p.state ≠ .ground ∧ (b = 0x18 ∨ b = 0x1a) then p.interrupted ++ [.execute b]
  else
    match p.state with
    | .ground => (readGround p.partialUtf8 b).2
    | .escape | .escapeIntermediate =>
      if IsC0 b then [.execute b]
      else if p.state.next b = .ground then [.escDispatch p.intermediates false b]
      else []
    | .csiEntry | .csiParam | .csiIntermediate =>
      if IsC0 b then [.execute b]
      else if p.state.next b = .ground then
        [.csiDispatch (p.params.map (·.map UInt16.ofNat)) p.intermediates false (Char.ofNat b.toNat)]
      else []
    | .csiIgnore => if IsC0 b then [.execute b] else []
    | .dcsEntry | .dcsParam | .dcsIntermediate =>
      if p.state.next b = .dcsPassthrough then
        [.hook (p.params.map (·.map UInt16.ofNat)) p.intermediates false (Char.ofNat b.toNat)]
      else []
    | .dcsPassthrough => if b = 0x9c then [.unhook] else if b ≤ 0x7e then [.put b] else []
    | .oscString => if b = 0x07 then [.oscDispatch (oscFields p.osc) true] else []
    | .dcsIgnore | .sosPmApcString => []

def step (p : ByteParser) (b : UInt8) : ByteParser := { p.update b with state := p.state.next b }

def run (p : ByteParser) : Bytes → ByteParser × List Callback
  | [] => (p,[])
  | b :: bytes => (((p.step b).run bytes).1,p.callbacks b ++ ((p.step b).run bytes).2)

end ByteParser

/-- The byte machine as the parser. -/
@[reducible] def byteParser : Vte where
  State := ByteParser
  start := {}
  advance := ByteParser.run

/-! ## Characters -/

theorem encode_first (c : Char) : ∃ b tail, utf8.encode c = b :: tail ∧ b.IsUTF8FirstByte ∧
    ∀ t ∈ tail, ¬ t.IsUTF8FirstByte := by
  cases word : utf8.encode c with
  | nil => exact absurd word (utf8.encode_ne_nil c)
  | cons b tail =>
    have first (i : Nat) (inside : i < (String.utf8EncodeChar c).length) :
        (String.utf8EncodeChar c)[i].IsUTF8FirstByte ↔ i = 0 := UInt8.isUTF8FirstByte_getElem_utf8EncodeChar
    have same : String.utf8EncodeChar c = b :: tail := word
    simp only [same] at first
    refine ⟨b,tail,rfl,(first 0 (by simp)).mpr rfl,?_⟩
    intro t inside isFirst
    obtain ⟨i,bound,rfl⟩ := List.mem_iff_getElem.mp inside
    have at' := first (i + 1) (by simpa using bound)
    simp only [List.getElem_cons_succ] at at'
    exact absurd (at'.mp isFirst) (by omega)

theorem encode_length_le (c : Char) : (utf8.encode c).length ≤ 4 := by
  have size := String.length_utf8EncodeChar c
  have bound := Char.utf8Size_le_four c
  change (String.utf8EncodeChar c).length ≤ 4
  omega

/-- The start of a character's encoding is no character. -/
theorem firstScalar_proper {word rest : Bytes} {c : Char} (split : word ++ rest = utf8.encode c) (more : rest ≠ []) :
    firstScalar word = none := by
  cases read : firstScalar word with
  | none => rfl
  | some c' =>
    obtain ⟨r,same⟩ := utf8.encode_decode (show utf8.decode word = some c' from read)
    rw [same,List.append_assoc] at split
    have again := utf8.decode_encode c' (r ++ rest)
    rw [split] at again
    have whole := utf8.decode_encode c []
    rw [List.append_nil,again] at whole
    cases whole
    have empty : r ++ rest = [] := by simpa using split
    exact absurd (List.append_eq_nil_iff.mp empty).2 more

theorem firstScalar_encode (c : Char) : firstScalar (utf8.encode c) = some c := by
  have read := utf8.decode_encode c []
  rwa [List.append_nil] at read

private theorem encode_below : ∀ n, n < 128 → utf8.encode (Char.ofNat n) = [UInt8.ofNat n] := by decide

/-- An ASCII byte is the encoding of its scalar. -/
theorem encode_ascii {b : UInt8} (ascii : isAscii b = true) : utf8.encode (Char.ofNat b.toNat) = [b] := by
  have small : b.toNat < 128 := by simpa [isAscii,UInt8.lt_iff_toNat_lt] using ascii
  rw [encode_below _ small,UInt8.ofNat_toNat]

theorem firstScalar_ascii {b : UInt8} (ascii : isAscii b = true) : firstScalar [b] = some (Char.ofNat b.toNat) := by
  rw [← encode_ascii ascii,firstScalar_encode]

/-- A character with an ASCII byte is that byte. -/
theorem encode_of_ascii_mem {c : Char} {b : UInt8} (inside : b ∈ utf8.encode c) (ascii : isAscii b = true) :
    utf8.encode c = [b] := by
  obtain ⟨first,tail,same,isFirst,later⟩ := encode_first c
  have lowFirst : b.IsUTF8FirstByte := by
    left
    have small : b.toNat < 128 := by simpa [isAscii,UInt8.lt_iff_toNat_lt] using ascii
    have low : ∀ n, n < 128 → UInt8.ofNat n &&& 0x80 = 0 := by decide
    simpa using low _ small
  rw [same] at inside
  rcases List.mem_cons.mp inside with rfl | tailed
  · have read := utf8.decode_encode (Char.ofNat b.toNat) tail
    rw [encode_ascii ascii,List.singleton_append,← same] at read
    have whole := utf8.decode_encode c []
    rw [List.append_nil,read] at whole
    rw [← Option.some.inj whole,encode_ascii ascii]
  · exact absurd lowFirst (later b tailed)

theorem printable_no_escape {c : Char} (printable : Printable c) : 0x1b ∉ utf8.encode c := by
  intro inside
  have whole := encode_of_ascii_mem inside (by decide)
  have escape : utf8.encode (Char.ofNat 0x1b) = [0x1b] := by decide
  have read := firstScalar_encode c
  rw [whole,← escape,firstScalar_encode] at read
  rw [← Option.some.inj read] at printable
  exact absurd printable (by decide)

/-! ## Plain text -/

theorem groundWord_nil (b : UInt8) : groundWord [] b = ([b],[]) := by simp [groundWord]

theorem groundWord_first {b : UInt8} (first : b.IsUTF8FirstByte) (unfinished : Bytes) :
    (groundWord unfinished b).1 = [b] := by
  by_cases empty : unfinished = [] <;> simp [groundWord,empty,first]

theorem groundWord_later {b : UInt8} (later : ¬ b.IsUTF8FirstByte) (unfinished : Bytes) :
    groundWord unfinished b = (unfinished ++ [b],[]) := by simp [groundWord,later]

theorem readGround_ascii {b : UInt8} (ascii : isAscii b = true) (unfinished : Bytes) :
    (readGround unfinished b).1 = [] := by
  have first : b.IsUTF8FirstByte := by
    obtain ⟨first,tail,same,isFirst,_⟩ := encode_first (Char.ofNat b.toNat)
    rw [encode_ascii ascii] at same
    cases same
    exact isFirst
  simp only [readGround,groundWord_first first,firstScalar_ascii ascii]

theorem readGround_first {b : UInt8} (first : b.IsUTF8FirstByte) (unfinished : Bytes) :
    (readGround unfinished b).1 = (readGround [] b).1 := by
  simp only [readGround,groundWord_first first]
  cases firstScalar [b] <;> simp [first]

/-- A later byte of a character. -/
theorem readGround_continue {word rest : Bytes} {b : UInt8} {c : Char} (split : word ++ b :: rest = utf8.encode c)
    (begun : word ≠ []) : readGround word b = if rest = [] then ([],[dispatchChar c]) else (word ++ [b],[]) := by
  obtain ⟨first,tail,same,_,later⟩ := encode_first c
  have notFirst : ¬ b.IsUTF8FirstByte := by
    cases word with
    | nil => exact absurd rfl begun
    | cons w word =>
      rw [same,List.cons_append] at split
      have tails := (List.cons.inj split).2
      exact later b (by rw [← tails]; simp)
  have read : readGround word b = match firstScalar (word ++ [b]) with
      | some ch => ([],[dispatchChar ch])
      | none => if (word ++ [b]).length < 4 then (word ++ [b],[]) else
          ([],[if word ++ [b] = [b] ∧ b ≤ 0x9f then .execute b else .print '\ufffd']) := by
    simp [readGround,groundWord_later notFirst,begun]
  rw [read]
  by_cases last : rest = []
  · subst last
    rw [split,firstScalar_encode]
    simp
  · have proper : (word ++ [b]) ++ rest = utf8.encode c := by simpa using split
    have length := congrArg List.length proper
    have bound := encode_length_le c
    have positive := List.length_pos_iff.mpr last
    rw [List.length_append] at length
    rw [firstScalar_proper proper last]
    simp only [last,if_false]
    rw [if_pos (by omega)]

theorem readGround_begin {b : UInt8} {rest : Bytes} {c : Char} (split : b :: rest = utf8.encode c) :
    readGround [] b = if rest = [] then ([],[dispatchChar c]) else ([b],[]) := by
  obtain ⟨first,tail,same,isFirst,_⟩ := encode_first c
  have head : b.IsUTF8FirstByte := by
    rw [same] at split
    rw [(List.cons.inj split).1]
    exact isFirst
  have read : readGround [] b = match firstScalar [b] with
      | some ch => ([],[dispatchChar ch])
      | none => ([b],[]) := by
    simp [readGround,groundWord_nil,head]
  rw [read]
  by_cases last : rest = []
  · subst last
    rw [split,firstScalar_encode]
    simp
  · rw [firstScalar_proper (show [b] ++ rest = utf8.encode c by simpa using split) last]
    simp [last]

namespace ByteParser

@[simp] theorem step_state (p : ByteParser) (b : UInt8) : (p.step b).state = p.state.next b := rfl

@[simp] theorem run_nil (p : ByteParser) : p.run [] = (p,[]) := rfl

theorem run_cons (p : ByteParser) (b : UInt8) (bytes : Bytes) :
    p.run (b :: bytes) = (((p.step b).run bytes).1,p.callbacks b ++ ((p.step b).run bytes).2) := rfl

/-- The machine reads a text in parts. -/
theorem run_append (p : ByteParser) (left right : Bytes) :
    p.run (left ++ right) = (((p.run left).1.run right).1,(p.run left).2 ++ ((p.run left).1.run right).2) := by
  induction left generalizing p with
  | nil => simp
  | cons b left ih => rw [List.cons_append,run_cons,ih,run_cons,List.append_assoc]

/-- `ESC` clears the machine. -/
theorem step_escape (p : ByteParser) : p.step 0x1b = { state := .escape } := by simp [step,update,VteState.next]

theorem run_escape (p : ByteParser) (rest : Bytes) :
    p.run (0x1b :: rest) = ((run { state := .escape } rest).1,p.interrupted ++ (run { state := .escape } rest).2) := by
  rw [run_cons,step_escape]
  rfl

theorem step_ground {p : ByteParser} (ground : p.state = .ground) {b : UInt8} (plain : b ≠ 0x1b) :
    p.step b = { partialUtf8 := (readGround p.partialUtf8 b).1 } := by
  simp [step,update,ground,plain,VteState.next]

theorem callbacks_ground {p : ByteParser} (ground : p.state = .ground) {b : UInt8} (plain : b ≠ 0x1b) :
    p.callbacks b = (readGround p.partialUtf8 b).2 := by
  simp [callbacks,ground,plain]

/-- A byte that begins a character, `ESC` apart. -/
private theorem plain_of_later {b : UInt8} (later : ¬ b.IsUTF8FirstByte) : b ≠ 0x1b := by
  rintro rfl; exact later (by decide)

/-- The rest of a character. -/
theorem run_rest {c : Char} (rest : Bytes) : ∀ word : Bytes, word ≠ [] → rest ≠ [] → word ++ rest = utf8.encode c →
    run { partialUtf8 := word } rest = ({},[dispatchChar c]) := by
  induction rest with
  | nil => intro word _ more; exact absurd rfl more
  | cons b rest ih =>
    intro word begun _ split
    have plain : b ≠ 0x1b := by
      obtain ⟨first,tail,same,_,later⟩ := encode_first c
      cases word with
      | nil => exact absurd rfl begun
      | cons w word =>
        rw [same,List.cons_append] at split
        exact plain_of_later (later b (by rw [← (List.cons.inj split).2]; simp))
    have read := readGround_continue split begun
    rw [run_cons,step_ground rfl plain,callbacks_ground rfl plain,read]
    by_cases last : rest = []
    · subst last
      simp
    · simp only [last,if_false,List.nil_append]
      exact ih (word ++ [b]) (by simp) last (by simpa using split)

theorem run_char {c : Char} (plain : 0x1b ∉ utf8.encode c) (p : ByteParser) (ground : p.state = .ground)
    (clean : p.partialUtf8 = []) : p.run (utf8.encode c) = ({},[dispatchChar c]) := by
  cases word : utf8.encode c with
  | nil => exact absurd word (utf8.encode_ne_nil c)
  | cons b rest =>
    rw [word] at plain
    have notEscape : b ≠ 0x1b := fun same => plain (by simp [same])
    rw [run_cons,step_ground ground notEscape,callbacks_ground ground notEscape,clean,readGround_begin word.symm]
    by_cases last : rest = []
    · subst last
      simp
    · simp only [last,if_false,List.nil_append]
      exact run_rest rest [b] (by simp) last (by simpa using word.symm)

/-! ## Between slices nothing is unfinished -/

@[simp] theorem collect_partialUtf8 (p : ByteParser) (b : UInt8) : (p.collect b).partialUtf8 = p.partialUtf8 := by
  unfold collect; split_ifs <;> rfl

theorem step_sequence_clean {p : ByteParser} (sequence : p.state ≠ .ground) (clean : p.partialUtf8 = []) (b : UInt8) :
    (p.step b).partialUtf8 = [] := by
  simp only [step,update]
  split_ifs
  · rfl
  all_goals cases state : p.state <;> simp_all

/-- Only at ground can a character be unfinished. -/
def Tidy (p : ByteParser) : Prop := p.state ≠ .ground → p.partialUtf8 = []

theorem step_tidy {p : ByteParser} (tidy : p.Tidy) (b : UInt8) : (p.step b).Tidy := by
  intro left
  by_cases ground : p.state = .ground
  · by_cases escape : b = 0x1b
    · rw [escape,step_escape]
    · rw [step_ground ground escape] at left
      exact absurd rfl left
  · exact step_sequence_clean ground (tidy ground) b

theorem run_tidy {p : ByteParser} (tidy : p.Tidy) (bytes : Bytes) : (p.run bytes).1.Tidy := by
  induction bytes generalizing p with
  | nil => exact tidy
  | cons b bytes ih => rw [run_cons]; exact ih (step_tidy tidy b)

theorem step_later_clean {p : ByteParser} (clean : p.partialUtf8 = []) {b : UInt8} (later : ¬ b.IsUTF8FirstByte) :
    (p.step b).partialUtf8 = [] := by
  by_cases ground : p.state = .ground
  · rw [step_ground ground (plain_of_later later),clean]
    simp only [readGround,groundWord_nil,later]
    cases firstScalar _ <;> simp
  · exact step_sequence_clean ground clean b

theorem run_later_clean (bytes : Bytes) {p : ByteParser} (clean : p.partialUtf8 = [])
    (later : ∀ b ∈ bytes, ¬ b.IsUTF8FirstByte) : (p.run bytes).1.partialUtf8 = [] := by
  induction bytes generalizing p with
  | nil => exact clean
  | cons b bytes ih =>
    rw [run_cons]
    exact ih (step_later_clean clean (later b (by simp))) fun t inside => later t (by simp [inside])

theorem run_endsCharacter {p : ByteParser} (tidy : p.Tidy) {slice : Bytes} (ends : EndsCharacter slice) :
    (p.run slice).1.partialUtf8 = [] := by
  rcases ends with ⟨front,b,rfl,ascii⟩ | ⟨front,c,rfl⟩
  · rw [run_append,run_cons]
    have before := run_tidy tidy front
    by_cases ground : (p.run front).1.state = .ground
    · by_cases escape : b = 0x1b
      · rw [escape,step_escape]; rfl
      · rw [step_ground ground escape]; exact readGround_ascii ascii _
    · exact step_sequence_clean ground (before ground) b
  · rw [run_append]
    have before := run_tidy tidy front
    obtain ⟨b,tail,same,first,later⟩ := encode_first c
    rw [same,run_cons]
    by_cases ground : (p.run front).1.state = .ground
    · by_cases escape : b = 0x1b
      · rw [escape,step_escape]
        exact run_later_clean tail rfl later
      · rw [step_ground ground escape,readGround_first first,readGround_begin same.symm]
        by_cases last : tail = []
        · rw [if_pos last,last]; rfl
        · rw [if_neg last,run_rest tail [b] (by simp) last (by simpa using same.symm)]
    · exact run_later_clean tail (step_sequence_clean ground (before ground) b) later

theorem reached_clean (p : byteParser.State) (reached : @Vte.Reached byteParser p) : ByteParser.partialUtf8 p = [] := by
  have both : ByteParser.partialUtf8 p = [] ∧ ByteParser.Tidy p := by
    induction reached with
    | start => exact ⟨rfl,fun _ => rfl⟩
    | advance s slice _ ends ih => exact ⟨run_endsCharacter ih.2 ends,run_tidy ih.2 slice⟩
  exact both.1

/-! ## Printing -/

theorem dispatchChar_print {c ch : Char} (print : dispatchChar c = .print ch) : Printable ch := by
  unfold dispatchChar at print
  split at print
  case isTrue printable => cases print; exact printable
  case isFalse => cases print

theorem readGround_print {unfinished : Bytes} {b : UInt8} {ch : Char}
    (print : .print ch ∈ (readGround unfinished b).2) : Printable ch := by
  have replacement : Printable '\ufffd' := by decide
  have cut (before : .print ch ∈ (groundWord unfinished b).2) : Printable ch := by
    unfold groundWord at before
    split_ifs at before
    · rw [Callback.print.inj (List.mem_singleton.mp before)]; exact replacement
    · cases before
  simp only [readGround] at print
  split at print
  · rcases List.mem_append.mp print with before | now
    · exact cut before
    · exact dispatchChar_print (List.mem_singleton.mp now).symm
  · split_ifs at print
    · exact cut print
    · rcases List.mem_append.mp print with before | now
      · exact cut before
      · cases List.mem_singleton.mp now
    · rcases List.mem_append.mp print with before | now
      · exact cut before
      · rw [Callback.print.inj (List.mem_singleton.mp now)]; exact replacement

theorem interrupted_print {p : ByteParser} {ch : Char} (print : .print ch ∈ p.interrupted) : Printable ch := by
  unfold interrupted at print
  cases state : p.state <;> simp only [state] at print <;> try simp at print
  rw [print.2]
  decide

theorem callbacks_print {p : ByteParser} {b : UInt8} {ch : Char} (print : .print ch ∈ p.callbacks b) : Printable ch := by
  unfold callbacks at print
  by_cases escape : b = 0x1b
  · rw [if_pos escape] at print
    exact interrupted_print print
  rw [if_neg escape] at print
  by_cases cancel : p.state ≠ .ground ∧ (b = 0x18 ∨ b = 0x1a)
  · rw [if_pos cancel] at print
    rcases List.mem_append.mp print with before | now
    · exact interrupted_print before
    · cases List.mem_singleton.mp now
  rw [if_neg cancel] at print
  cases state : p.state <;> simp only [state] at print
  case ground => exact readGround_print print
  all_goals (try split_ifs at print) <;> simp at print

theorem run_print (bytes : Bytes) {p : ByteParser} {ch : Char} (print : .print ch ∈ (p.run bytes).2) : Printable ch := by
  induction bytes generalizing p with
  | nil => cases print
  | cons b bytes ih =>
    rw [run_cons] at print
    rcases List.mem_append.mp print with now | later
    · exact callbacks_print now
    · exact ih later

/-! ## Aborting -/

theorem interrupted_ends {p : ByteParser} (clean : p.partialUtf8 = []) {c : Callback} (inside : c ∈ p.interrupted) :
    c.EndsString := by
  unfold interrupted at inside
  cases state : p.state <;> simp only [state,clean,if_true] at inside <;> simp at inside
  · rw [inside]; trivial
  · rw [inside]; trivial

theorem interrupted_fromHigh {p : ByteParser} {c : Callback} (inside : c ∈ p.interrupted) :
    c.EndsString ∨ c.FromHigh := by
  unfold interrupted at inside
  cases state : p.state <;> simp only [state] at inside <;> simp at inside
  · rw [inside.2]; exact .inr trivial
  · rw [inside]; exact .inl trivial
  · rw [inside]; exact .inl trivial

/-- Only bytes above ASCII are unfinished. -/
def HighPartial (p : ByteParser) : Prop := ∀ b ∈ p.partialUtf8, isAscii b = false

/-- A control read from bytes above ASCII is a C1 control. -/
private theorem dispatchChar_high {word : Bytes} {ch : Char} (high : ∀ u ∈ word, isAscii u = false)
    (read : firstScalar word = some ch) : (dispatchChar ch).FromHigh := by
  unfold dispatchChar
  split
  case isTrue => trivial
  case isFalse control =>
    obtain ⟨r,split⟩ := utf8.encode_decode (show utf8.decode word = some ch from read)
    change isAscii (UInt8.ofNat ch.toNat) = false
    by_contra ascii
    rw [Bool.not_eq_false] at ascii
    have low : ch.toNat < 128 := by
      unfold Printable at control
      have small : ch.toNat % 256 < 128 := by simpa [isAscii,UInt8.lt_iff_toNat_lt] using ascii
      omega
    have encoded := encode_below ch.toNat low
    rw [Char.ofNat_toNat] at encoded
    have inWord := high (UInt8.ofNat ch.toNat) (by rw [split,encoded]; simp)
    rw [ascii] at inWord
    cases inWord

theorem readGround_high {unfinished : Bytes} {b : UInt8} (high : ∀ u ∈ unfinished, isAscii u = false)
    (highByte : isAscii b = false) :
    (∀ u ∈ (readGround unfinished b).1, isAscii u = false) ∧ ∀ c ∈ (readGround unfinished b).2, c.FromHigh := by
  have word : ∀ u ∈ (groundWord unfinished b).1, isAscii u = false := by
    intro u inside
    unfold groundWord at inside
    split_ifs at inside
    · rw [List.mem_singleton.mp inside]; exact highByte
    · rcases List.mem_append.mp inside with before | now
      · exact high u before
      · rw [List.mem_singleton.mp now]; exact highByte
  have cut : ∀ c ∈ (groundWord unfinished b).2, c.FromHigh := by
    intro c inside
    unfold groundWord at inside
    split_ifs at inside
    · rw [List.mem_singleton.mp inside]; trivial
    · cases inside
  have both {c : Callback} (now : c.FromHigh) : ∀ d ∈ (groundWord unfinished b).2 ++ [c], d.FromHigh := by
    intro d inside
    rcases List.mem_append.mp inside with before | last
    · exact cut d before
    · rw [List.mem_singleton.mp last]; exact now
  simp only [readGround]
  split
  case h_1 ch read => exact ⟨by simp,both (dispatchChar_high word read)⟩
  case h_2 =>
    split_ifs
    · exact ⟨word,cut⟩
    · exact ⟨by simp,both highByte⟩
    · exact ⟨by simp,both trivial⟩

private theorem high_above {b : UInt8} (high : isAscii b = false) : 0x80 ≤ b := by
  simpa [isAscii,UInt8.not_lt] using high

theorem callbacks_high {p : ByteParser} (partialHigh : p.HighPartial) {b : UInt8} (high : isAscii b = false) :
    ∀ c ∈ p.callbacks b, c.FromHigh := by
  have above := high_above high
  have notC0 : ¬ IsC0 b := by unfold IsC0; grind
  have plain : b ≠ 0x1b ∧ b ≠ 0x18 ∧ b ≠ 0x1a ∧ b ≠ 0x07 ∧ ¬ b ≤ 0x7e := by grind
  have stays (v : VteState) (sequence : v.InSequence) : v.next b = v :=
    VteState.next_table.high_stays v b sequence (by grind)
  have header (v : VteState) (header : v.InDcsHeader) : v.next b ≠ .dcsPassthrough := by
    rcases header with rfl | rfl | rfl <;> simp only [VteState.next] <;> split_ifs <;> grind
  intro c inside
  unfold callbacks at inside
  rw [if_neg plain.1,if_neg (by simp [plain])] at inside
  cases state : p.state <;> simp only [state,notC0,if_false,plain] at inside
  case ground => exact (readGround_high partialHigh high).2 c inside
  case dcsPassthrough =>
    split_ifs at inside
    · rw [List.mem_singleton.mp inside]; trivial
    · cases inside
  case csiIgnore | oscString | dcsIgnore | sosPmApcString => cases inside
  case escape => simp [stays .escape (by decide)] at inside
  case escapeIntermediate => simp [stays .escapeIntermediate (by decide)] at inside
  case csiEntry => simp [stays .csiEntry (by decide)] at inside
  case csiParam => simp [stays .csiParam (by decide)] at inside
  case csiIntermediate => simp [stays .csiIntermediate (by decide)] at inside
  case dcsEntry => simp [header .dcsEntry (by decide)] at inside
  case dcsParam => simp [header .dcsParam (by decide)] at inside
  case dcsIntermediate => simp [header .dcsIntermediate (by decide)] at inside

theorem step_high {p : ByteParser} (partialHigh : p.HighPartial) {b : UInt8} (high : isAscii b = false) :
    (p.step b).HighPartial := by
  by_cases ground : p.state = .ground
  · have plain : b ≠ 0x1b := by rintro rfl; cases high
    unfold HighPartial
    rw [step_ground ground plain]
    exact (readGround_high partialHigh high).1
  · have kept : (p.step b).partialUtf8 = p.partialUtf8 ∨ (p.step b).partialUtf8 = [] := by
      simp only [step,update]
      split_ifs
      · exact .inr rfl
      all_goals cases state : p.state <;> simp_all
    rcases kept with same | none
    · intro u inside; exact partialHigh u (same ▸ inside)
    · intro u inside; rw [none] at inside; cases inside

theorem run_high (cut : Bytes) {p : ByteParser} (partialHigh : p.HighPartial) (high : ∀ b ∈ cut, isAscii b = false) :
    ∀ c ∈ (p.run cut).2, c.FromHigh := by
  induction cut generalizing p with
  | nil => intro c inside; cases inside
  | cons b cut ih =>
    intro c inside
    have highByte := high b (by simp)
    rw [run_cons] at inside
    rcases List.mem_append.mp inside with now | later
    · exact callbacks_high partialHigh highByte c now
    · exact ih (step_high partialHigh highByte) (fun u inside => high u (by simp [inside])) c later

/-! ## Ground -/

theorem readGround_plain {unfinished : Bytes} {b : UInt8} {c : Callback} (inside : c ∈ (Termpane.readGround unfinished b).2) :
    ¬ c.Dispatches := by
  have before : ∀ c ∈ (groundWord unfinished b).2, ¬ c.Dispatches := by
    unfold groundWord
    split
    · rintro c (_ | ⟨_,⟨⟩⟩) dispatches
      exact dispatches
    · rintro c ⟨⟩
  have last (c : Callback) (plain : ¬ c.Dispatches) : ∀ d ∈ (groundWord unfinished b).2 ++ [c], ¬ d.Dispatches := by
    intro d inside
    rcases List.mem_append.mp inside with earlier | now
    · exact before d earlier
    · rw [List.mem_singleton.mp now]; exact plain
  revert c
  simp only [Termpane.readGround]
  split
  · refine fun {c} => last _ ?_ c
    unfold dispatchChar
    split <;> exact id
  · split
    · exact fun {c} => before c
    · refine fun {c} => last _ ?_ c
      split <;> exact id

theorem interrupted_plain {p : ByteParser} {c : Callback} (inside : c ∈ p.interrupted) : ¬ c.Dispatches := by
  unfold interrupted at inside
  split at inside
  · split at inside
    · cases inside
    · rw [List.mem_singleton.mp inside]; exact id
  · rw [List.mem_singleton.mp inside]; exact id
  · rw [List.mem_singleton.mp inside]; exact id
  · cases inside

/-- A dispatch is all that its byte does, an ASCII byte that returns to ground. -/
theorem callbacks_dispatch {p : ByteParser} {b : UInt8} {c : Callback} (inside : c ∈ p.callbacks b) (dispatches : c.Dispatches) :
    p.callbacks b = [c] ∧ p.state.next b = .ground ∧ isAscii b = true := by
  unfold callbacks at inside ⊢
  by_cases escape : b = 0x1b
  · rw [if_pos escape] at inside
    exact absurd dispatches (interrupted_plain inside)
  by_cases cancel : p.state ≠ .ground ∧ (b = 0x18 ∨ b = 0x1a)
  · rw [if_neg escape,if_pos cancel] at inside
    rcases List.mem_append.mp inside with before | now
    · exact absurd dispatches (interrupted_plain before)
    · rw [List.mem_singleton.mp now] at dispatches
      exact dispatches.elim
  rw [if_neg escape,if_neg cancel] at inside ⊢
  have final (ground : p.state.next b = .ground) (some : p.state ≠ .ground) (string : p.state ≠ .oscString)
      (body : p.state ≠ .dcsPassthrough) (ignored : p.state ≠ .dcsIgnore) : isAscii b = true := by
    unfold isAscii
    unfold VteState.next at ground
    grind
  cases state : p.state <;> rw [state] at final <;> simp only [state] at inside ⊢
  case ground => exact absurd dispatches (readGround_plain inside)
  case dcsIgnore | sosPmApcString => cases inside
  case escape | escapeIntermediate | csiEntry | csiParam | csiIntermediate =>
    split_ifs at inside ⊢ with c0 ends
    · rw [List.mem_singleton.mp inside] at dispatches
      exact dispatches.elim
    · rw [List.mem_singleton.mp inside]
      exact ⟨rfl,ends,final ends nofun nofun nofun nofun⟩
    · cases inside
  case csiIgnore | dcsEntry | dcsParam | dcsIntermediate | oscString =>
    split_ifs at inside
    · rw [List.mem_singleton.mp inside] at dispatches
      exact dispatches.elim
    · cases inside
  case dcsPassthrough =>
    split_ifs at inside
    · rw [List.mem_singleton.mp inside] at dispatches
      exact dispatches.elim
    · rw [List.mem_singleton.mp inside] at dispatches
      exact dispatches.elim
    · cases inside

theorem run_returns (slice : Bytes) {p : ByteParser} {before : List Callback} {c : Callback} {after : List Callback}
    (callbacks : (p.run slice).2 = before ++ c :: after) (dispatches : c.Dispatches) : ∃ left right, slice = left ++ right ∧
      EndsCharacter left ∧ (p.run left).2 = before ++ [c] ∧ (p.run left).1.state = .ground := by
  induction slice generalizing p before with
  | nil => exact absurd callbacks (by simp [run])
  | cons b slice ih =>
    rw [run_cons] at callbacks
    rcases List.append_eq_append_iff.mp callbacks with ⟨more,same,rest⟩ | ⟨more,same,rest⟩
    · -- the callbacks of the first byte are all before it
      obtain ⟨left,right,split,ends,made,ground⟩ := ih rest
      refine ⟨b :: left,right,by rw [split]; rfl,?_,?_,?_⟩
      · rcases ends with ⟨front,last,split,ascii⟩ | ⟨front,ch,split⟩
        · exact .inl ⟨b :: front,last,by rw [split]; rfl,ascii⟩
        · exact .inr ⟨b :: front,ch,by rw [split]; rfl⟩
      · rw [run_cons,made,same,List.append_assoc]
      · rw [run_cons]
        exact ground
    · cases more with
      | nil =>
        have later : ((p.step b).run slice).2 = [] ++ c :: after := rest.symm
        obtain ⟨left,right,split,ends,made,ground⟩ := ih later
        refine ⟨b :: left,right,by rw [split]; rfl,?_,?_,?_⟩
        · rcases ends with ⟨front,last,split,ascii⟩ | ⟨front,ch,split⟩
          · exact .inl ⟨b :: front,last,by rw [split]; rfl,ascii⟩
          · exact .inr ⟨b :: front,ch,by rw [split]; rfl⟩
        · rw [run_cons,made,same,List.append_nil,List.nil_append]
        · rw [run_cons]
          exact ground
      | cons d more =>
        obtain ⟨rfl,_⟩ := List.cons.inj rest
        have inside : c ∈ p.callbacks b := by rw [same]; simp
        obtain ⟨alone,ground,ascii⟩ := callbacks_dispatch inside dispatches
        have first : before = [] := by
          rw [alone] at same
          cases before with
          | nil => rfl
          | cons d before => cases before <;> cases same
        subst first
        refine ⟨[b],slice,rfl,.inl ⟨[],b,rfl,ascii⟩,?_,?_⟩
        · rw [run_cons,alone]; rfl
        · rw [run_cons]; exact ground

theorem run_ground {p : ByteParser} (ground : p.state = .ground) {slice : Bytes} (plain : 0x1b ∉ slice) :
    (p.run slice).1.state = .ground ∧ ∀ c ∈ (p.run slice).2, ¬ c.Dispatches := by
  induction slice generalizing p with
  | nil => exact ⟨ground,nofun⟩
  | cons b slice ih =>
    have notEscape : b ≠ 0x1b := fun escape => plain (by rw [escape]; exact List.mem_cons_self)
    have stays : (p.step b).state = .ground := by
      change p.state.next b = .ground
      rw [ground]
      exact VteState.next_table.ground_stays b notEscape
    obtain ⟨last,later⟩ := ih stays fun inside => plain (List.mem_cons_of_mem b inside)
    rw [run_cons]
    refine ⟨last,fun c inside => ?_⟩
    rcases List.mem_append.mp inside with now | rest
    · rw [callbacks_ground ground notEscape] at now
      exact readGround_plain now
    · exact later c rest

/-! ## Decoding -/

/-- In the parameters of a CSI. -/
def Reading (p : ByteParser) : Prop := p.state = .csiEntry ∨ p.state = .csiParam

theorem run_digit {p : ByteParser} (reading : p.Reading) {d : Nat} (digit : d < 10) (rest : Bytes) :
    p.run (UInt8.ofNat (0x30 + d) :: rest) =
      run { p with state := .csiParam, param := min (p.param * 10 + d) u16Max } rest := by
  have value : (UInt8.ofNat (0x30 + d)).toNat = 0x30 + d := by
    rw [UInt8.toNat_ofNat']
    omega
  generalize UInt8.ofNat (0x30 + d) = b at value
  have range : 0x30 ≤ b ∧ b ≤ 0x39 := by
    simp only [UInt8.le_iff_toNat_le,value]
    constructor
    · change 48 ≤ 48 + d; omega
    · change 48 + d ≤ 57; omega
  have others : b ≠ 0x1b ∧ b ≠ 0x18 ∧ b ≠ 0x1a ∧ ¬ b ≤ 0x2f ∧ ¬ 0x3c ≤ b ∧ ¬ 0x40 ≤ b ∧ 0x20 ≤ b ∧ b ≤ 0x3f := by grind
  have notC0 : ¬ IsC0 b := by unfold IsC0; grind
  have amount : b.toNat - 0x30 = d := by omega
  rcases reading with state | state <;>
    simp [run_cons,step,update,collect,callbacks,state,VteState.next,notC0,range,others,amount]

theorem run_semicolon {p : ByteParser} (reading : p.Reading) (rest : Bytes) :
    p.run (0x3b :: rest) =
      run { p with state := .csiParam, groups := p.groups ++ [p.group ++ [p.param]], group := [], param := 0 } rest := by
  rcases reading with state | state <;> simp [run_cons,step,update,collect,callbacks,state,VteState.next,IsC0]

theorem run_colon {p : ByteParser} (reading : p.Reading) (rest : Bytes) :
    p.run (0x3a :: rest) = run { p with state := .csiParam, group := p.group ++ [p.param], param := 0 } rest := by
  rcases reading with state | state <;> simp [run_cons,step,update,collect,callbacks,state,VteState.next,IsC0]

/-- Digits are read back as the number they were written from. -/
theorem run_writeU16Loop (rest : Bytes) : ∀ i n out, 0 < i → n < 10 ^ i → n ≤ u16Max →
    ∀ p : ByteParser, p.Reading → p.param = 0 →
    p.run (writeU16Loop i n out ++ rest) = run { p with state := .csiParam, param := n } (out ++ rest) := by
  intro i
  induction i with
  | zero => intro n out positive; omega
  | succ i ih =>
    intro n out _ bound small p reading fresh
    have digit : n % 10 < 10 := Nat.mod_lt _ (by omega)
    unfold writeU16Loop
    by_cases last : n / 10 = 0
    · simp only [last,if_true,List.cons_append]
      rw [run_digit reading digit,fresh]
      congr 3
      omega
    · simp only [last,if_false]
      have power : 10 ^ (i + 1) = 10 * 10 ^ i := by rw [Nat.pow_succ,Nat.mul_comm]
      have more : 0 < i := by
        rcases Nat.eq_zero_or_pos i with zero | positive
        · rw [zero] at bound; omega
        · exact positive
      rw [ih (n / 10) _ more (by omega) (by omega) p reading fresh,List.cons_append,run_digit (.inr rfl) digit]
      congr 3
      simp only
      omega

theorem run_writeU16 {p : ByteParser} (reading : p.Reading) (fresh : p.param = 0) {n : Nat} (small : n ≤ u16Max)
    (rest : Bytes) : p.run (writeU16 n ++ rest) = run { p with state := .csiParam, param := n } rest := by
  have read := run_writeU16Loop rest 5 n [] (by decide) (by unfold u16Max at small; omega) small p reading fresh
  simpa [writeU16] using read

/-- Subparameters are read back. -/
theorem run_subparams (rest : Bytes) : ∀ sub : Param, sub ≠ [] → (∀ n ∈ sub, n ≤ u16Max) →
    ∀ p : ByteParser, p.Reading → p.param = 0 →
    ∃ group param, p.run (List.intercalate [0x3a] (sub.map writeU16) ++ rest) =
      run { p with state := .csiParam, group := group, param := param } rest ∧ group ++ [param] = p.group ++ sub := by
  intro sub
  induction sub with
  | nil => intro some; exact absurd rfl some
  | cons n sub ih =>
    intro _ small p reading fresh
    cases sub with
    | nil =>
      refine ⟨p.group,n,?_,rfl⟩
      simpa [List.intercalate] using run_writeU16 reading fresh (small n (by simp)) rest
    | cons m sub =>
      have later := ih (by simp) (fun k inside => small k (by simp [inside]))
        { p with state := .csiParam, group := p.group ++ [n], param := 0 } (.inr rfl) rfl
      obtain ⟨group,param,read,same⟩ := later
      refine ⟨group,param,?_,by simpa using same⟩
      rw [← read]
      have split : List.intercalate [0x3a] ((n :: m :: sub).map writeU16) ++ rest =
          writeU16 n ++ (0x3a :: (List.intercalate [0x3a] ((m :: sub).map writeU16) ++ rest)) := by
        simp [List.intercalate]
      rw [split,run_writeU16 reading fresh (small n (by simp)),run_colon (.inr rfl)]

/-- Parameters are read back. -/
theorem run_writeParams (rest : Bytes) : ∀ params : List Param, params ≠ [] → (∀ p ∈ params, p ≠ [] ∧ ∀ n ∈ p, n ≤ u16Max) →
    ∀ p : ByteParser, p.Reading → p.param = 0 → p.group = [] →
    ∃ q : ByteParser, p.run (Token.writeParams params ++ rest) = q.run rest ∧ q.Reading ∧
      q.params = p.groups ++ params ∧ q.intermediates = p.intermediates := by
  intro params
  induction params with
  | nil => intro some; exact absurd rfl some
  | cons sub params ih =>
    intro _ small p reading fresh empty
    obtain ⟨some,bounded⟩ := small sub (by simp)
    cases params with
    | nil =>
      obtain ⟨group,param,read,same⟩ := run_subparams rest sub some bounded p reading fresh
      refine ⟨{ p with state := .csiParam, group := group, param := param },?_,.inr rfl,?_,rfl⟩
      · simpa [Token.writeParams,List.intercalate] using read
      · simp [ByteParser.params,same,empty]
    | cons next params =>
      have split : Token.writeParams (sub :: next :: params) ++ rest =
          List.intercalate [0x3a] (sub.map writeU16) ++ (0x3b :: (Token.writeParams (next :: params) ++ rest)) := by
        simp [Token.writeParams,List.intercalate]
      obtain ⟨group,param,read,same⟩ :=
        run_subparams (0x3b :: (Token.writeParams (next :: params) ++ rest)) sub some bounded p reading fresh
      rw [empty,List.nil_append] at same
      obtain ⟨q,later,reading',params',inter⟩ := ih (by simp) (fun k inside => small k (by simp [inside]))
        { p with state := .csiParam, groups := p.groups ++ [group ++ [param]], group := [], param := 0 } (.inr rfl) rfl rfl
      refine ⟨q,?_,reading',?_,inter⟩
      · rw [split,read,run_semicolon (.inr rfl),← later]
      · rw [params',same]; simp

theorem run_marker {m : UInt8} (low : 0x3c ≤ m) (high : m ≤ 0x3f) (rest : Bytes) :
    run { state := .csiEntry } (m :: rest) = run { state := .csiParam, intermediates := [m] } rest := by
  have others : m ≠ 0x1b ∧ m ≠ 0x18 ∧ m ≠ 0x1a ∧ ¬ m ≤ 0x2f ∧ ¬ m ≤ 0x39 ∧ m ≠ 0x3a ∧ m ≠ 0x3b ∧ ¬ 0x40 ≤ m ∧
      0x20 ≤ m ∧ 0x30 ≤ m := by grind
  have notC0 : ¬ IsC0 m := by unfold IsC0; grind
  simp [run_cons,step,update,collect,callbacks,VteState.next,notC0,others,high]

theorem run_intermediate {p : ByteParser} (reading : p.Reading) {b : UInt8} (low : 0x20 ≤ b) (high : b ≤ 0x2f)
    (rest : Bytes) :
    p.run (b :: rest) = run { p with state := .csiIntermediate, intermediates := p.intermediates ++ [b] } rest := by
  have others : b ≠ 0x1b ∧ b ≠ 0x18 ∧ b ≠ 0x1a ∧ ¬ 0x30 ≤ b ∧ b ≠ 0x3a ∧ b ≠ 0x3b ∧ b ≤ 0x3f := by grind
  have notC0 : ¬ IsC0 b := by unfold IsC0; grind
  rcases reading with state | state <;>
    simp [run_cons,step,update,collect,callbacks,state,VteState.next,notC0,others,low,high]

theorem run_final {p : ByteParser} (state : p.Reading ∨ p.state = .csiIntermediate) {b : UInt8} (low : 0x40 ≤ b)
    (high : b ≤ 0x7e) :
    p.run [b] = ({},[.csiDispatch (p.params.map (·.map UInt16.ofNat)) p.intermediates false (Char.ofNat b.toNat)]) := by
  have others : b ≠ 0x1b ∧ b ≠ 0x18 ∧ b ≠ 0x1a ∧ ¬ b ≤ 0x2f ∧ ¬ b ≤ 0x3f := by grind
  have notC0 : ¬ IsC0 b := by unfold IsC0; grind
  rcases state with (state | state) | state <;>
    simp [run_cons,step,update,callbacks,state,VteState.next,notC0,others,low,high]

/-- After the introducer and the marker. -/
theorem run_marked {marker : Option UInt8} (markers : ∀ b ∈ marker, 0x3c ≤ b ∧ b ≤ 0x3f) :
    ∃ p : ByteParser, p.Reading ∧ p.param = 0 ∧ p.group = [] ∧ p.groups = [] ∧ p.intermediates = marker.toList ∧
      ∀ rest, run {} ([0x1b,0x5b] ++ (marker.toList ++ rest)) = p.run rest := by
  have opened (rest : Bytes) : run {} ([0x1b,0x5b] ++ rest) = run { state := .csiEntry } rest := by
    simp [run_cons,step,update,callbacks,interrupted,VteState.next,IsC0]
  cases marker with
  | none => exact ⟨{ state := .csiEntry },.inl rfl,rfl,rfl,rfl,rfl,fun rest => opened rest⟩
  | some m =>
    obtain ⟨low,high⟩ := markers m rfl
    exact ⟨{ state := .csiParam, intermediates := [m] },.inr rfl,rfl,rfl,rfl,rfl,fun rest =>
      (opened (m :: rest)).trans (run_marker low high rest)⟩

theorem run_csi {marker : Option UInt8} {params : List Param} {intermediate : Option UInt8} {action : Char}
    (wellFormed : (Token.csi marker params intermediate action).WellFormed) :
    run {} (Token.csi marker params intermediate action).encode =
      ({},[(Token.csi marker params intermediate action).callback]) := by
  obtain ⟨markers,intermediates,bounded,_,low,high⟩ := wellFormed
  obtain ⟨p,reading,fresh,noGroup,noGroups,marked,afterMarker⟩ := run_marked markers
  -- after the parameters
  obtain ⟨q,reading',read,kept,afterParams⟩ : ∃ q : ByteParser, q.Reading ∧
      q.params = (if params = [] then [[0]] else params) ∧ q.intermediates = marker.toList ∧
      p.run (Token.writeParams params ++ (intermediate.toList ++ [UInt8.ofNat action.toNat])) =
        q.run (intermediate.toList ++ [UInt8.ofNat action.toNat]) := by
    by_cases none : params = []
    · subst none
      exact ⟨p,reading,by simp [ByteParser.params,fresh,noGroup,noGroups],marked,rfl⟩
    · obtain ⟨q,after,reading',read,kept⟩ := run_writeParams (intermediate.toList ++ [UInt8.ofNat action.toNat]) params
        none bounded p reading fresh noGroup
      exact ⟨q,reading',by simp [read,none,noGroups],kept.trans marked,after⟩
  -- after the intermediate
  obtain ⟨r,state,same,collected,afterIntermediate⟩ : ∃ r : ByteParser, (r.Reading ∨ r.state = .csiIntermediate) ∧
      r.params = q.params ∧ r.intermediates = marker.toList ++ intermediate.toList ∧
      ∀ rest, q.run (intermediate.toList ++ rest) = r.run rest := by
    cases intermediate with
    | none => exact ⟨q,.inl reading',rfl,by simpa using kept,fun _ => rfl⟩
    | some i =>
      obtain ⟨iLow,iHigh⟩ := intermediates i rfl
      exact ⟨{ q with state := .csiIntermediate, intermediates := q.intermediates ++ [i] },.inr rfl,rfl,by simp [kept],
        fun rest => run_intermediate reading' iLow iHigh rest⟩
  have value : (UInt8.ofNat action.toNat).toNat = action.toNat := by rw [UInt8.toNat_ofNat']; omega
  have finalLow : 0x40 ≤ UInt8.ofNat action.toNat := by rw [UInt8.le_iff_toNat_le,value]; exact low
  have finalHigh : UInt8.ofNat action.toNat ≤ 0x7e := by rw [UInt8.le_iff_toNat_le,value]; exact high
  have final := run_final state finalLow finalHigh
  simp only [Token.encode,List.append_assoc]
  rw [afterMarker,afterParams,afterIntermediate,final,value,Char.ofNat_toNat,same,read,collected]
  by_cases none : params = [] <;> simp [Token.callback,none]

theorem run_control {b : UInt8} (c0 : IsC0 b) : run {} [b] = ({},[.execute b]) := by
  have ascii : isAscii b = true := by unfold IsC0 at c0; unfold isAscii; grind
  have plain : b ≠ 0x1b := by rintro rfl; exact absurd c0 (by decide)
  have control : ¬ Printable (Char.ofNat b.toNat) := by
    have low : ∀ n, n < 32 → ¬ Printable (Char.ofNat n) := by decide
    apply low
    have below : b < 32 := by unfold IsC0 at c0; grind
    simpa [UInt8.lt_iff_toNat_lt] using below
  have read := readGround_begin (show [b] = utf8.encode _ from (encode_ascii ascii).symm)
  have value : UInt8.ofNat (Char.ofNat b.toNat).toNat = b := by
    have small : b.toNat < 128 := by simpa [isAscii,UInt8.lt_iff_toNat_lt] using ascii
    have same : ∀ n, n < 128 → (Char.ofNat n).toNat = n := by decide
    rw [same _ small,UInt8.ofNat_toNat]
  rw [run_cons,step_ground rfl plain,callbacks_ground rfl plain]
  simp [read,dispatchChar,control,value]

theorem run_esc {b : UInt8} (low : 0x30 ≤ b) (high : b ≤ 0x7e) (final : b ∉ ascii "PX[]^_") :
    run {} [0x1b,b] = ({},[.escDispatch [] false b]) := by
  have others : b ≠ 0x1b ∧ b ≠ 0x18 ∧ b ≠ 0x1a ∧ ¬ b ≤ 0x2f := by grind
  have notC0 : ¬ IsC0 b := by unfold IsC0; grind
  have introducers : ascii "PX[]^_" = [0x50,0x58,0x5b,0x5d,0x5e,0x5f] := by decide
  rw [introducers] at final
  simp only [List.mem_cons,List.not_mem_nil,or_false,not_or] at final
  have ground : VteState.escape.next b = .ground := by
    simp [VteState.next,others,final,low,high]
  rw [run_cons,step_escape]
  simp [run_cons,step,update,callbacks,interrupted,ground,notC0,others]

/-- A token leaves the machine as it was. -/
theorem run_token {t : Token} (wellFormed : t.WellFormed) : run {} t.encode = ({},[t.callback]) := by
  cases t with
  | text ch =>
    have printable : Printable ch := wellFormed
    rw [show (Token.text ch).encode = utf8.encode ch from rfl,run_char (printable_no_escape printable) {} rfl rfl]
    simp [dispatchChar,printable,Token.callback]
  | control b => exact run_control wellFormed
  | esc b => exact run_esc wellFormed.1 wellFormed.2.1 wellFormed.2.2
  | csi marker params intermediate action => exact run_csi wellFormed

theorem run_tokens (tokens : List Token) (wellFormed : ∀ t ∈ tokens, t.WellFormed) :
    run {} (encodeAll tokens) = ({},tokens.map Token.callback) := by
  induction tokens with
  | nil => rfl
  | cons t tokens ih =>
    rw [encodeAll_cons,run_append,run_token (wellFormed t (by simp)),ih fun u inside => wellFormed u (by simp [inside])]
    rfl

/-! ## Strings and ignored sequences -/

theorem run_payload : ∀ (payload : Bytes) (p : ByteParser), p.state = .oscString → (∀ b ∈ payload, 0x20 ≤ b) →
    p.run payload = ({ p with osc := p.osc ++ payload },[]) := by
  intro payload
  induction payload with
  | nil => intro p _ _; simp [run]
  | cons b payload ih =>
    intro p state plain
    have low : 0x20 ≤ b := plain b (by simp)
    have others : b ≠ 0x1b ∧ b ≠ 0x18 ∧ b ≠ 0x1a ∧ b ≠ 0x07 := by grind
    have notC0 : ¬ IsC0 b := by unfold IsC0; grind
    have stepped : p.step b = { p with osc := p.osc ++ [b] } := by simp [step,update,state,VteState.next,others,notC0]
    have quiet : p.callbacks b = [] := by simp [callbacks,state,others]
    rw [run_cons,stepped,quiet,ih { p with osc := p.osc ++ [b] } state fun c inside => plain c (by simp [inside])]
    simp

theorem run_osc {payload : Bytes} (plain : ∀ b ∈ payload, 0x20 ≤ b) :
    run {} ([0x1b,0x5d] ++ payload ++ [0x07]) = ({},[.oscDispatch (oscFields payload) true]) := by
  have opened (rest : Bytes) : run {} ([0x1b,0x5d] ++ rest) = run { state := .oscString } rest := by
    simp [run_cons,step,update,callbacks,interrupted,VteState.next,IsC0]
  rw [List.append_assoc,opened,run_append,run_payload payload _ rfl plain]
  simp [run,step,update,callbacks,VteState.next]

theorem run_intermediates : ∀ (intermediates : Bytes) (p : ByteParser), p.Reading ∨ p.state = .csiIntermediate →
    intermediates ≠ [] → (∀ b ∈ intermediates, 0x20 ≤ b ∧ b ≤ 0x2f) →
    ∃ q : ByteParser, q.state = .csiIntermediate ∧ ∀ rest, p.run (intermediates ++ rest) = q.run rest := by
  intro intermediates
  induction intermediates with
  | nil => intro p _ some; exact absurd rfl some
  | cons b intermediates ih =>
    intro p state _ range
    obtain ⟨low,high⟩ := range b (by simp)
    have others : b ≠ 0x1b ∧ b ≠ 0x18 ∧ b ≠ 0x1a ∧ ¬ 0x30 ≤ b ∧ b ≠ 0x3a ∧ b ≠ 0x3b ∧ b ≤ 0x3f := by grind
    have notC0 : ¬ IsC0 b := by unfold IsC0; grind
    have first (rest : Bytes) : p.run (b :: rest) =
        run { p with state := .csiIntermediate, intermediates := p.intermediates ++ [b] } rest := by
      rcases state with reading | state
      · exact run_intermediate reading low high rest
      · have within : ¬ 0x40 ≤ b := by grind
        simp [run_cons,step,update,collect,callbacks,state,VteState.next,notC0,others,within,low]
    by_cases last : intermediates = []
    · subst last
      exact ⟨_,rfl,first⟩
    · obtain ⟨q,state',same⟩ := ih { p with state := .csiIntermediate, intermediates := p.intermediates ++ [b] } (.inr rfl) last
        fun c inside => range c (by simp [inside])
      exact ⟨q,state',fun rest => (first (intermediates ++ rest)).trans (same rest)⟩

theorem run_ignored : ∀ (parameters : Bytes) (p : ByteParser), p.state = .csiIntermediate ∨ p.state = .csiIgnore →
    parameters ≠ [] → (∀ b ∈ parameters, 0x30 ≤ b ∧ b ≤ 0x3f) →
    ∃ q : ByteParser, q.state = .csiIgnore ∧ ∀ rest, p.run (parameters ++ rest) = q.run rest := by
  intro parameters
  induction parameters with
  | nil => intro p _ some; exact absurd rfl some
  | cons b parameters ih =>
    intro p state _ range
    obtain ⟨low,high⟩ := range b (by simp)
    have others : b ≠ 0x1b ∧ b ≠ 0x18 ∧ b ≠ 0x1a ∧ ¬ b ≤ 0x2f ∧ ¬ 0x40 ≤ b ∧ 0x20 ≤ b := by grind
    have notC0 : ¬ IsC0 b := by unfold IsC0; grind
    have ignore : p.state.next b = .csiIgnore := by
      rcases state with state | state <;> simp [state,VteState.next,others,low,high]
    have quiet : p.callbacks b = [] := by
      rcases state with state | state <;> simp [callbacks,state,VteState.next,others,notC0,low,high]
    have first (rest : Bytes) : p.run (b :: rest) = (p.step b).run rest := by rw [run_cons,quiet]; simp
    have after : (p.step b).state = .csiIgnore := ignore
    by_cases last : parameters = []
    · subst last
      exact ⟨_,after,first⟩
    · obtain ⟨q,state',same⟩ := ih (p.step b) (.inr after) last fun c inside => range c (by simp [inside])
      exact ⟨q,state',fun rest => (first (parameters ++ rest)).trans (same rest)⟩

theorem run_ignores {marker : Option UInt8} {intermediates parameters : Bytes} {final : UInt8}
    (markers : ∀ m ∈ marker, 0x3c ≤ m ∧ m ≤ 0x3f) (some : intermediates ≠ [])
    (range : ∀ b ∈ intermediates, 0x20 ≤ b ∧ b ≤ 0x2f) (someParameters : parameters ≠ [])
    (digits : ∀ b ∈ parameters, 0x30 ≤ b ∧ b ≤ 0x3f) (low : 0x40 ≤ final) :
    (run {} ([0x1b,0x5b] ++ marker.toList ++ intermediates ++ parameters ++ [final])).2 = [] := by
  obtain ⟨p,reading,_,_,_,_,afterMarker⟩ := run_marked markers
  obtain ⟨q,state,afterIntermediates⟩ := run_intermediates intermediates p (.inl reading) some range
  obtain ⟨r,ignoring,afterParameters⟩ := run_ignored parameters q (.inl state) someParameters digits
  have notC0 : ¬ IsC0 final := by unfold IsC0; grind
  have others : final ≠ 0x1b ∧ final ≠ 0x18 ∧ final ≠ 0x1a := by grind
  simp only [List.append_assoc]
  rw [afterMarker,afterIntermediates,afterParameters]
  simp [run,callbacks,ignoring,others,notC0]

end ByteParser

section
attribute [local instance] byteParser

/-- The byte machine obeys the laws. -/
theorem byteParser_laws : VteLaws where
  nothing _ := rfl
  decodes tokens more wellFormed := by
    change (ByteParser.run {} (encodeAll tokens ++ more)).2 = _ ++ (ByteParser.run {} more).2
    rw [ByteParser.run_append,ByteParser.run_tokens tokens wellFormed]
  persists s slice more _ := ByteParser.run_append s slice more
  prints _ _ slice _ print := ByteParser.run_print slice print
  aborts s reached rest := by
    refine ⟨ByteParser.interrupted s,?_,fun c inside =>
      @ByteParser.interrupted_ends s (ByteParser.reached_clean s reached) c inside⟩
    change (ByteParser.run s (0x1b :: rest)).2 = _ ++ (ByteParser.run {} (0x1b :: rest)).2
    rw [ByteParser.run_escape,ByteParser.run_escape]
    rfl
  aborts_high s reached cut rest high := by
    refine ⟨(ByteParser.run s cut).2 ++ (ByteParser.run s cut).1.interrupted,?_,?_⟩
    · change (ByteParser.run s (cut ++ 0x1b :: rest)).2 = _ ++ (ByteParser.run {} (0x1b :: rest)).2
      rw [ByteParser.run_append,ByteParser.run_escape,ByteParser.run_escape,List.append_assoc]
      rfl
    · intro c inside
      have clean : ByteParser.HighPartial s := fun b unfinished => by
        rw [ByteParser.reached_clean s reached] at unfinished
        cases unfinished
      rcases List.mem_append.mp inside with before | now
      · exact .inr (ByteParser.run_high cut clean high c before)
      · exact ByteParser.interrupted_fromHigh now

/-- So does its ground state. -/
theorem byteParser_ground : VteGround fun p : ByteParser => p.state = .ground where
  stays _ _ ground plain := ByteParser.run_ground ground plain
  returns _ slice _ _ _ made dispatches := ByteParser.run_returns slice made dispatches

/-- So do its sequences. -/
theorem byteParser_sequences : VteSequences fun p : ByteParser => p = {} where
  start := rfl
  begins _ _ ground := by rw [ground]; rfl
  ignores _ _ _ _ markers some range someParameters digits low _ :=
    ByteParser.run_ignores markers some range someParameters digits low

/-- So do its strings. -/
theorem byteParser_osc : VteOsc := ⟨fun _ plain => congrArg Prod.snd (ByteParser.run_osc plain)⟩

end

end Termpane
