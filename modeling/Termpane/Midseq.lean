import Termpane.ByteParser

/-!
# The ground-state tracker

`midseq.rs`: seven states that follow the parser's fourteen. The parser is not
part of the repository; what is taken of its table is what the module's comments
list, and that the one-byte string terminator ends a DCS only once its header
has been read.
-/
namespace Termpane

open Lib

/-- Parser sequence state. -/
inductive SeqState
  | ground
  | escape
  | escapeIntermediate
  | csi
  | osc
  | dcs
  | sosPmApc
  deriving DecidableEq, Repr

namespace SeqState

def isGround (s : SeqState) : Bool := s == .ground

/-- CAN and SUB abort to ground, ESC enters the escape state. -/
def anywhere (s : SeqState) (b : UInt8) : SeqState :=
  if b = 0x18 ∨ b = 0x1a then .ground
  else if b = 0x1b then .escape
  else s

def advance (s : SeqState) (b : UInt8) : SeqState :=
  match s with
  | .ground => if b = 0x1b then .escape else .ground
  | .escape =>
    if IsC0 b then .escape
    else if 0x20 ≤ b ∧ b ≤ 0x2f then .escapeIntermediate
    else if b = 0x50 then .dcs
    else if b = 0x58 ∨ b = 0x5e ∨ b = 0x5f then .sosPmApc
    else if b = 0x5b then .csi
    else if b = 0x5d then .osc
    else if 0x30 ≤ b ∧ b ≤ 0x7e then .ground
    else anywhere .escape b
  | .escapeIntermediate =>
    if IsC0 b then .escapeIntermediate
    else if 0x20 ≤ b ∧ b ≤ 0x2f then .escapeIntermediate
    else if 0x30 ≤ b ∧ b ≤ 0x7e then .ground
    else anywhere .escapeIntermediate b
  | .csi =>
    if IsC0 b then .csi
    else if 0x20 ≤ b ∧ b ≤ 0x3f then .csi
    else if 0x40 ≤ b ∧ b ≤ 0x7e then .ground
    else anywhere .csi b
  | .osc =>
    if b = 0x07 then .ground
    else if b = 0x1b then .escape
    else if b = 0x18 ∨ b = 0x1a then .ground
    else .osc
  | .dcs =>
    if b = 0x1b then .escape
    else if b = 0x18 ∨ b = 0x1a then .ground
    else if b = 0x9c then .ground
    else .dcs
  | .sosPmApc => anywhere .sosPmApc b

/-- The loop of `advance_bytes`, at most `n` turns of it: at ground, skip to the
    next `ESC`. -/
def advanceLoop : Nat → SeqState → List UInt8 → SeqState
  | 0, s, _ => s
  | n+1, s, rest =>
    match rest with
    | [] => s
    | b :: tail =>
      if s.isGround then
        match rest.findIdx? (· == 0x1b) with
        | some idx => advanceLoop n (s.advance 0x1b) (rest.drop (idx + 1))
        | none => s
      else advanceLoop n (s.advance b) tail

/-- `advance_bytes`. Every turn takes a byte, so there are at most as many turns. -/
def advanceBytes (s : SeqState) (bytes : List UInt8) : SeqState := advanceLoop bytes.length s bytes

theorem isGround_iff {s : SeqState} : s.isGround ↔ s = .ground := by simp [isGround]

/-- Without `ESC` the ground state stays. -/
theorem foldl_ground {bytes : List UInt8} (plain : ∀ b ∈ bytes, b ≠ 0x1b) : bytes.foldl advance .ground = .ground := by
  induction bytes with
  | nil => rfl
  | cons b bytes ih =>
    rw [List.foldl_cons]
    simp only [advance,if_neg (plain b (by simp))]
    exact ih fun c inside => plain c (by simp [inside])

theorem advanceLoop_eq_foldl : ∀ n s (bytes : List UInt8), bytes.length ≤ n →
    advanceLoop n s bytes = bytes.foldl advance s := by
  intro n
  induction n with
  | zero => intro s bytes short; rw [List.length_eq_zero_iff.mp (Nat.le_zero.mp short)]; rfl
  | succ n ih =>
    intro s bytes short
    cases bytes with
    | nil => rfl
    | cons b tail =>
      simp only [List.length_cons] at short
      simp only [advanceLoop]
      by_cases ground : s = .ground
      · subst ground
        simp only [show ground.isGround = true from rfl,if_true]
        cases found : (b :: tail).findIdx? (· == 0x1b) with
        | none =>
          rw [List.findIdx?_eq_none_iff] at found
          exact (foldl_ground fun c inside => by simpa using found c inside).symm
        | some idx =>
          obtain ⟨inside,escape,before⟩ := List.findIdx?_eq_some_iff_getElem.mp found
          have escape : (b :: tail)[idx] = 0x1b := by simpa using escape
          have skipped : ((b :: tail).take idx).foldl advance ground = ground := by
            apply foldl_ground
            intro c taken
            obtain ⟨j,jInside,rfl⟩ := List.mem_iff_getElem.mp taken
            rw [List.length_take] at jInside
            rw [List.getElem_take]
            simpa using before j (by omega)
          have split : (b :: tail) = (b :: tail).take idx ++ 0x1b :: (b :: tail).drop (idx + 1) := by
            conv_lhs => rw [← List.take_append_drop idx (b :: tail),List.drop_eq_getElem_cons inside,escape]
          conv_rhs => rw [split,List.foldl_append,skipped,List.foldl_cons]
          exact ih _ _ (by rw [List.length_drop,List.length_cons]; omega)
      · rw [if_neg (by simpa [isGround] using ground)]
        exact ih _ tail (by omega)

/-- The fast path at ground does not change what the tracker reaches. -/
theorem advanceBytes_eq_foldl (s : SeqState) (bytes : List UInt8) : s.advanceBytes bytes = bytes.foldl advance s :=
  advanceLoop_eq_foldl _ s bytes (Nat.le_refl _)

theorem advanceBytes_append (s : SeqState) (left right : List UInt8) :
    s.advanceBytes (left ++ right) = (s.advanceBytes left).advanceBytes right := by
  simp only [advanceBytes_eq_foldl,List.foldl_append]

end SeqState

/-! ## The tracker follows the parser -/

/-- The tracker state that stands for a parser state. -/
def VteState.coarse : VteState → SeqState
  | .ground => .ground
  | .escape => .escape
  | .escapeIntermediate => .escapeIntermediate
  | .csiEntry | .csiParam | .csiIntermediate | .csiIgnore => .csi
  | .dcsEntry | .dcsParam | .dcsIntermediate | .dcsPassthrough | .dcsIgnore => .dcs
  | .oscString => .osc
  | .sosPmApcString => .sosPmApc

namespace VteState

theorem coarse_ground_iff {v : VteState} : v.coarse = .ground ↔ v = .ground := by cases v <;> decide

theorem InCsi.coarse {v : VteState} (csi : v.InCsi) : v.coarse = .csi := by rcases csi with rfl | rfl | rfl | rfl <;> rfl

theorem InDcsHeader.coarse {v : VteState} (header : v.InDcsHeader) : v.coarse = .dcs := by
  rcases header with rfl | rfl | rfl <;> rfl

theorem InDcs.coarse {v : VteState} (dcs : v.InDcs) : v.coarse = .dcs := by
  rcases dcs with header | rfl | rfl
  · exact header.coarse
  · rfl
  · rfl

/-- The states by what the tracker keeps of them. -/
theorem coarse_cases (v : VteState) : v = .ground ∨ v = .escape ∨ v = .escapeIntermediate ∨ v.InCsi ∨ v.InDcs ∨
    v = .oscString ∨ v = .sosPmApcString := by cases v <;> decide

end VteState

namespace VteTable
variable {step : VteState → UInt8 → VteState}

/-- The ranges the tables are written in cover every byte. -/
private theorem byte_cases (b : UInt8) : IsC0 b ∨ b = 0x18 ∨ b = 0x1a ∨ b = 0x1b ∨ (0x20 ≤ b ∧ b ≤ 0x2f) ∨
    (0x30 ≤ b ∧ b ≤ 0x3f) ∨ (0x40 ≤ b ∧ b ≤ 0x7e) ∨ 0x7f ≤ b := by
  unfold IsC0
  grind

private theorem coarse_ground (table : VteTable step) (b : UInt8) :
    (step .ground b).coarse = SeqState.ground.advance b := by
  by_cases escape : b = 0x1b
  · rw [escape,table.escape]; rfl
  · rw [table.ground_stays b escape]; simp [SeqState.advance,escape,VteState.coarse]

private theorem coarse_escape (table : VteTable step) (b : UInt8) :
    (step .escape b).coarse = SeqState.escape.advance b := by
  have c0 := table.c0_stays .escape b (by decide)
  have high := table.high_stays .escape b (by decide)
  have cancel := table.cancel .escape b
  have again := table.escape .escape
  have collected := table.escape_intermediate b
  have dcs := table.escape_dcs
  have string := table.escape_string b
  have csi := table.escape_csi
  have osc := table.escape_osc
  have final := table.escape_final b
  have cover := byte_cases b
  simp only [SeqState.advance,SeqState.anywhere]
  split_ifs <;> grind [VteState.coarse]

private theorem coarse_escapeIntermediate (table : VteTable step) (b : UInt8) :
    (step .escapeIntermediate b).coarse = SeqState.escapeIntermediate.advance b := by
  have c0 := table.c0_stays .escapeIntermediate b (by decide)
  have high := table.high_stays .escapeIntermediate b (by decide)
  have cancel := table.cancel .escapeIntermediate b
  have again := table.escape .escapeIntermediate
  have collected := table.intermediate_stays b
  have final := table.intermediate_final b
  have cover := byte_cases b
  simp only [SeqState.advance,SeqState.anywhere]
  split_ifs <;> grind [VteState.coarse]

private theorem coarse_csi (table : VteTable step) {v : VteState} (csi : v.InCsi) (b : UInt8) :
    (step v b).coarse = SeqState.csi.advance b := by
  have same := csi.coarse
  have c0 := table.c0_stays v b (.inr (.inr csi))
  have high := table.high_stays v b (.inr (.inr csi))
  have cancel := table.cancel v b
  have again := table.escape v
  have parameter (low : 0x20 ≤ b) (below : b ≤ 0x3f) := (table.csi_parameter v b csi low below).coarse
  have final := table.csi_final v b csi
  have cover := byte_cases b
  simp only [SeqState.advance,SeqState.anywhere]
  split_ifs <;> grind [VteState.coarse]

private theorem coarse_osc (table : VteTable step) (b : UInt8) :
    (step .oscString b).coarse = SeqState.osc.advance b := by
  have bell := table.osc_bell
  have cancel := table.cancel .oscString b
  have again := table.escape .oscString
  have stays := table.osc_stays b
  simp only [SeqState.advance]
  split_ifs <;> grind [VteState.coarse]

private theorem coarse_dcs (table : VteTable step) {v : VteState} (dcs : v.InDcs) (b : UInt8)
    (kept : ¬ (b = 0x9c ∧ v.InDcsHeader)) : (step v b).coarse = SeqState.dcs.advance b := by
  have cancel := table.cancel v b
  have again := table.escape v
  have continues (h1 : b ≠ 0x18) (h2 : b ≠ 0x1a) (h3 : b ≠ 0x1b) (h4 : b ≠ 0x9c) :=
    (table.dcs_continues v b dcs h1 h2 h3 h4).coarse
  have terminator := table.dcs_terminator v
  have body : v.InDcsHeader ∨ v = .dcsPassthrough ∨ v = .dcsIgnore := dcs
  simp only [SeqState.advance]
  split_ifs <;> grind [VteState.coarse]

private theorem coarse_sosPmApc (table : VteTable step) (b : UInt8) :
    (step .sosPmApcString b).coarse = SeqState.sosPmApc.advance b := by
  have cancel := table.cancel .sosPmApcString b
  have again := table.escape .sosPmApcString
  have stays := table.sosPmApc_stays b
  simp only [SeqState.advance,SeqState.anywhere]
  split_ifs <;> grind [VteState.coarse]

/-- The tracker makes the parser's step, the string terminator in a DCS header apart. -/
theorem coarse_step (table : VteTable step) (v : VteState) (b : UInt8) (kept : ¬ (b = 0x9c ∧ v.InDcsHeader)) :
    (step v b).coarse = v.coarse.advance b := by
  rcases v.coarse_cases with rfl | rfl | rfl | csi | dcs | rfl | rfl
  · exact table.coarse_ground b
  · exact table.coarse_escape b
  · exact table.coarse_escapeIntermediate b
  · rw [csi.coarse]; exact table.coarse_csi csi b
  · rw [dcs.coarse]; exact table.coarse_dcs dcs b kept
  · exact table.coarse_osc b
  · exact table.coarse_sosPmApc b

/-- Until the string terminator comes in a DCS header, the tracker is in the
    state that stands for the parser's. -/
theorem coarse_foldl (table : VteTable step) (bytes : List UInt8)
    (kept : ∀ p b, p ++ [b] <+: bytes → ¬ (b = 0x9c ∧ (p.foldl step .ground).InDcsHeader)) :
    (bytes.foldl step .ground).coarse = SeqState.ground.advanceBytes bytes := by
  rw [SeqState.advanceBytes_eq_foldl]
  have simulates (v : VteState) (s : SeqState) (b : UInt8) (related : v.coarse = s)
      (kept : ¬ (b = 0x9c ∧ v.InDcsHeader)) : (step v b).coarse = s.advance b := by
    rw [table.coarse_step v b kept,related]
  exact lockstep simulates bytes .ground .ground rfl kept

end VteTable

/-- Whether the tracker's answer is the parser's after every byte of a string. -/
def TrackerAgrees (step : VteState → UInt8 → VteState) (bytes : List UInt8) : Prop :=
  ∀ p, p <+: bytes → ((SeqState.ground.advanceBytes p).isGround ↔ p.foldl step .ground = .ground)

/-- The tracker answers as the parser's state does after every byte, exactly when
    `0x9c` never arrives while the parser reads the header of a DCS. -/
theorem trackerAgrees_iff {step : VteState → UInt8 → VteState} (table : VteTable step) (bytes : List UInt8) :
    TrackerAgrees step bytes ↔ ∀ p, p ++ [0x9c] <+: bytes → ¬ (p.foldl step .ground).InDcsHeader := by
  constructor
  · intro agrees p
    -- before the first such byte the two agree, and there they part
    induction length : p.length using Nat.strongRecOn generalizing p with
    | ind n ih =>
      intro inside header
      have shorter (q : List UInt8) (b : UInt8) (cut : q ++ [b] <+: p) :
          ¬ (b = 0x9c ∧ (q.foldl step .ground).InDcsHeader) := by
        rintro ⟨rfl,early⟩
        have length' := cut.length_le
        rw [List.length_append,List.length_singleton] at length'
        exact ih q.length (by omega) q rfl (cut.trans ((List.prefix_append p _).trans inside)) early
      have related := table.coarse_foldl p shorter
      have answer := agrees _ inside
      rw [SeqState.advanceBytes_append,← related,header.coarse,List.foldl_append] at answer
      have stays : step (p.foldl step .ground) 0x9c = .ground := answer.mp (by decide)
      rw [table.dcs_header_absorbs _ header] at stays
      rw [stays] at header
      exact absurd header (by decide)
  · intro kept p inside
    have related := table.coarse_foldl p fun q b cut ⟨terminator,header⟩ =>
      kept q (terminator ▸ cut.trans inside) header
    rw [SeqState.isGround_iff,← related,VteState.coarse_ground_iff]

theorem trackerAgrees_iff_next : TrackerAgrees VteState.next [0x1b,0x50,0x71,0x9c] ↔
    ∀ p, p ++ [0x9c] <+: [0x1b,0x50,0x71,0x9c] → ¬ (p.foldl VteState.next .ground).InDcsHeader :=
  trackerAgrees_iff VteState.next_table _

/-- `ESC P 0x9c`: the tracker is back at ground, the parser still reads the header. -/
theorem tracker_leaves_dcs_header : VteTable VteState.next ∧
    SeqState.ground.advanceBytes [0x1b,0x50,0x9c] = .ground ∧
    [0x1b,0x50,0x9c].foldl VteState.next .ground = .dcsEntry ∧
    ¬ ∀ bytes, (SeqState.ground.advanceBytes bytes).isGround ↔ bytes.foldl VteState.next .ground = .ground := by
  refine ⟨VteState.next_table,by decide,by decide,fun agrees => ?_⟩
  have ground := (agrees [0x1b,0x50,0x9c]).mp (by decide)
  revert ground
  decide

end Termpane
