import Termpane.Perform
import Termpane.Lib.Fields

/-!
# The parser

`vte` is not part of the repository. It is a parameter twice over: as the table
of its states, which the tracker mirrors, and as a machine that turns slices
into callbacks. What is relied on of either is a structure of laws.
-/
namespace Termpane

open Lib

/-! ## The table -/

/-- vte's `State`. -/
inductive VteState
  | ground
  | escape
  | escapeIntermediate
  | csiEntry
  | csiParam
  | csiIntermediate
  | csiIgnore
  | dcsEntry
  | dcsParam
  | dcsIntermediate
  | dcsPassthrough
  | dcsIgnore
  | oscString
  | sosPmApcString
  deriving DecidableEq, Repr

namespace VteState

def InCsi (v : VteState) : Prop := v = .csiEntry ∨ v = .csiParam ∨ v = .csiIntermediate ∨ v = .csiIgnore

/-- Still reading the header of a DCS. -/
def InDcsHeader (v : VteState) : Prop := v = .dcsEntry ∨ v = .dcsParam ∨ v = .dcsIntermediate

def InDcs (v : VteState) : Prop := v.InDcsHeader ∨ v = .dcsPassthrough ∨ v = .dcsIgnore

/-- Inside a sequence that is not a string. -/
def InSequence (v : VteState) : Prop := v = .escape ∨ v = .escapeIntermediate ∨ v.InCsi

instance (v : VteState) : Decidable v.InCsi := by unfold InCsi; infer_instance
instance (v : VteState) : Decidable v.InDcsHeader := by unfold InDcsHeader; infer_instance
instance (v : VteState) : Decidable v.InDcs := by unfold InDcs; infer_instance
instance (v : VteState) : Decidable v.InSequence := by unfold InSequence; infer_instance

end VteState

/-- `0x00..=0x17 | 0x19 | 0x1c..=0x1f`: the C0 controls without `CAN`, `SUB` and `ESC`. -/
def IsC0 (b : UInt8) : Prop := b ≤ 0x17 ∨ b = 0x19 ∨ (0x1c ≤ b ∧ b ≤ 0x1f)

instance (b : UInt8) : Decidable (IsC0 b) := by unfold IsC0; infer_instance

/-- The transitions of the parser, byte by byte. -/
structure VteTable (step : VteState → UInt8 → VteState) : Prop where
  ground_stays : ∀ b, b ≠ 0x1b → step .ground b = .ground
  -- ESC begins a sequence from everywhere, CAN and SUB abort one
  escape : ∀ v, step v 0x1b = .escape
  cancel : ∀ v b, b = 0x18 ∨ b = 0x1a → step v b = .ground
  -- controls execute in place, 0x7f and high bytes are absorbed
  c0_stays : ∀ v b, v.InSequence → IsC0 b → step v b = v
  high_stays : ∀ v b, v.InSequence → 0x7f ≤ b → step v b = v
  escape_intermediate : ∀ b, 0x20 ≤ b → b ≤ 0x2f → step .escape b = .escapeIntermediate
  escape_dcs : step .escape 0x50 = .dcsEntry
  escape_string : ∀ b, b = 0x58 ∨ b = 0x5e ∨ b = 0x5f → step .escape b = .sosPmApcString
  escape_csi : step .escape 0x5b = .csiEntry
  escape_osc : step .escape 0x5d = .oscString
  escape_final : ∀ b, 0x30 ≤ b → b ≤ 0x7e → b ≠ 0x50 → b ≠ 0x58 → b ≠ 0x5b → b ≠ 0x5d → b ≠ 0x5e → b ≠ 0x5f →
    step .escape b = .ground
  intermediate_stays : ∀ b, 0x20 ≤ b → b ≤ 0x2f → step .escapeIntermediate b = .escapeIntermediate
  intermediate_final : ∀ b, 0x30 ≤ b → b ≤ 0x7e → step .escapeIntermediate b = .ground
  -- parameter and intermediate bytes move between the CSI states
  csi_parameter : ∀ v b, v.InCsi → 0x20 ≤ b → b ≤ 0x3f → (step v b).InCsi
  csi_final : ∀ v b, v.InCsi → 0x40 ≤ b → b ≤ 0x7e → step v b = .ground
  -- strings run until their terminator
  osc_bell : step .oscString 0x07 = .ground
  osc_stays : ∀ b, b ≠ 0x07 → b ≠ 0x18 → b ≠ 0x1a → b ≠ 0x1b → step .oscString b = .oscString
  sosPmApc_stays : ∀ b, b ≠ 0x18 → b ≠ 0x1a → b ≠ 0x1b → step .sosPmApcString b = .sosPmApcString
  dcs_continues : ∀ v b, v.InDcs → b ≠ 0x18 → b ≠ 0x1a → b ≠ 0x1b → b ≠ 0x9c → (step v b).InDcs
  dcs_terminator : ∀ v, v = .dcsPassthrough ∨ v = .dcsIgnore → step v 0x9c = .ground
  dcs_header_absorbs : ∀ v, v.InDcsHeader → step v 0x9c = v

/-! ## The machine -/

/-- `vte::Parser`: `new` and `advance`, which hands its callbacks over in order. -/
class Vte where
  State : Type
  start : State
  advance : State → Bytes → State × List Callback

/-- A scalar the parser prints and does not execute: neither a C0 nor a C1 control. -/
def Printable (ch : Char) : Prop := 0x20 ≤ ch.toNat ∧ ¬ (0x80 ≤ ch.toNat ∧ ch.toNat ≤ 0x9f)

instance (ch : Char) : Decidable (Printable ch) := by unfold Printable; infer_instance

/-- The loop of `write_u16`, which fills a buffer of five digits from its end. -/
def writeU16Loop : Nat → Nat → Bytes → Bytes
  | 0, _, out => out
  | i+1, n, out =>
    let out := UInt8.ofNat (0x30 + n % 10) :: out
    if n / 10 = 0 then out else writeU16Loop i (n / 10) out

/-- `write_u16`. -/
def writeU16 (n : Nat) : Bytes := writeU16Loop 5 n []

/-- One piece of output that the parser answers with one callback. -/
inductive Token
  | text (ch : Char)
  | control (byte : UInt8)
  | esc (byte : UInt8)
  | csi (marker : Option UInt8) (params : List Param) (intermediate : Option UInt8) (action : Char)
  deriving DecidableEq, Repr

namespace Token

/-- Parameters separated by `;`, subparameters by `:`. -/
def writeParams (params : List Param) : Bytes :=
  List.intercalate [0x3b] (params.map fun sub => List.intercalate [0x3a] (sub.map writeU16))

def encode : Token → Bytes
  | .text ch => utf8.encode ch
  | .control byte => [byte]
  | .esc byte => [0x1b,byte]
  | .csi marker params intermediate action =>
    [0x1b,0x5b] ++ marker.toList ++ writeParams params ++ intermediate.toList ++ [UInt8.ofNat action.toNat]

/-- What the parser makes of it. Without a parameter it reports one of value 0. -/
def callback : Token → Callback
  | .text ch => .print ch
  | .control byte => .execute byte
  | .esc byte => .escDispatch [] false byte
  | .csi marker params intermediate action =>
    .csiDispatch (if params = [] then [[0]] else params.map (·.map UInt16.ofNat))
      (marker.toList ++ intermediate.toList) false action

/-- In the ranges of the table, within the parser's limit of 32 parameters. -/
def WellFormed : Token → Prop
  | .text ch => Printable ch
  | .control byte => IsC0 byte
  | .esc byte => 0x30 ≤ byte ∧ byte ≤ 0x7e ∧ byte ∉ ascii "PX[]^_"
  | .csi marker params intermediate action =>
    (∀ b ∈ marker, 0x3c ≤ b ∧ b ≤ 0x3f) ∧ (∀ b ∈ intermediate, 0x20 ≤ b ∧ b ≤ 0x2f) ∧
      (∀ p ∈ params, p ≠ [] ∧ ∀ n ∈ p, n ≤ u16Max) ∧ (params.map List.length).sum ≤ 32 ∧
      0x40 ≤ action.toNat ∧ action.toNat ≤ 0x7e

end Token

/-- The bytes of a list of tokens. -/
def encodeAll (tokens : List Token) : Bytes := tokens.flatMap Token.encode

@[simp] theorem encodeAll_nil : encodeAll [] = [] := rfl

@[simp] theorem encodeAll_cons (t : Token) (tokens : List Token) :
    encodeAll (t :: tokens) = t.encode ++ encodeAll tokens := rfl

@[simp] theorem encodeAll_append (left right : List Token) :
    encodeAll (left ++ right) = encodeAll left ++ encodeAll right := by simp [encodeAll]

/-- A state the parser can be in between slices that end with a character. -/
inductive Vte.Reached [Vte] : Vte.State → Prop
  | start : Reached Vte.start
  | advance (s : Vte.State) (slice : Bytes) : Reached s → EndsCharacter slice → Reached (Vte.advance s slice).1

/-- A callback that ends a string whose terminator is missing. -/
def Callback.EndsString : Callback → Prop
  | .oscDispatch _ _ | .unhook => True
  | _ => False

/-- A callback that bytes above ASCII can cause. -/
def Callback.FromHigh : Callback → Prop
  | .print _ | .put _ | .unhook => True
  | .execute byte => isAscii byte = false
  | _ => False

/-- A callback that ends a control or an escape sequence. -/
def Callback.Dispatches : Callback → Prop
  | .csiDispatch _ _ _ _ | .escDispatch _ _ _ => True
  | _ => False

/-- What the grid and the serializer rely on of `vte`. -/
structure VteLaws [Vte] : Prop where
  /-- No bytes, no callbacks. -/
  nothing : ∀ s : Vte.State, (Vte.advance s []).2 = []
  /-- Well-formed output is decoded as written, and what follows it as from the start. -/
  decodes : ∀ (tokens : List Token) (more : Bytes), (∀ t ∈ tokens, t.WellFormed) →
    (Vte.advance Vte.start (encodeAll tokens ++ more)).2 = tokens.map Token.callback ++ (Vte.advance Vte.start more).2
  /-- The parser persists between slices that do not cut a character. -/
  persists : ∀ (s : Vte.State) (slice more : Bytes), EndsCharacter slice → Vte.advance s (slice ++ more) =
    ((Vte.advance (Vte.advance s slice).1 more).1,
      (Vte.advance s slice).2 ++ (Vte.advance (Vte.advance s slice).1 more).2)
  /-- Control characters are executed, not printed, unless a slice before cut them. -/
  prints : ∀ s : Vte.State, Vte.Reached s → ∀ (slice : Bytes) (ch : Char), .print ch ∈ (Vte.advance s slice).2 → Printable ch
  /-- `ESC` drops what was unfinished and begins anew. -/
  aborts : ∀ s : Vte.State, Vte.Reached s → ∀ rest : Bytes, ∃ ended,
    (Vte.advance s (0x1b :: rest)).2 = ended ++ (Vte.advance Vte.start (0x1b :: rest)).2 ∧
      ∀ c ∈ ended, c.EndsString
  /-- So it does after bytes that end in the middle of a character. -/
  aborts_high : ∀ s : Vte.State, Vte.Reached s → ∀ cut rest : Bytes, (∀ b ∈ cut, isAscii b = false) → ∃ ended,
    (Vte.advance s (cut ++ 0x1b :: rest)).2 = ended ++ (Vte.advance Vte.start (0x1b :: rest)).2 ∧
      ∀ c ∈ ended, c.EndsString ∨ c.FromHigh

/-- What the worker relies on of the ground state of `vte`. -/
structure VteGround [Vte] (Ground : Vte.State → Prop) : Prop where
  /-- Only `ESC` leaves it, and nothing is dispatched there. -/
  stays : ∀ (s : Vte.State) (slice : Bytes), Ground s → 0x1b ∉ slice →
    Ground (Vte.advance s slice).1 ∧ ∀ c ∈ (Vte.advance s slice).2, ¬ c.Dispatches
  /-- A dispatch, at the final byte of its sequence, returns to it. -/
  returns : ∀ (s : Vte.State) (slice : Bytes) (before : List Callback) (c : Callback) (after : List Callback),
    (Vte.advance s slice).2 = before ++ c :: after → c.Dispatches → ∃ left right, slice = left ++ right ∧ EndsCharacter left ∧
      (Vte.advance s left).2 = before ++ [c] ∧ Ground (Vte.advance s left).1

/-! ## Strings and sequences -/

/-- The fields of an OSC's payload: it is cut at every `;` into at most 16, the last
    with the rest. `vte` 0.15 ends the last at the 16th `;` and drops what follows. -/
def oscFields (payload : Bytes) : List Bytes := fields 0x3b 15 payload

/-- What the events and the forwarded sequences rely on of `vte`, from a ground state
    with no character unfinished. -/
structure VteSequences [Vte] (Ground : Vte.State → Prop) : Prop where
  start : Ground Vte.start
  /-- There is nothing to end: `ESC` begins as at the start. -/
  begins : ∀ (s : Vte.State) (rest : Bytes), Ground s →
    (Vte.advance s (0x1b :: rest)).2 = (Vte.advance Vte.start (0x1b :: rest)).2
  /-- A parameter byte after an intermediate leads to `CsiIgnore`: nothing is dispatched. -/
  ignores : ∀ (marker : Option UInt8) (intermediates parameters : Bytes) (final : UInt8),
    (∀ m ∈ marker, 0x3c ≤ m ∧ m ≤ 0x3f) → intermediates ≠ [] → (∀ b ∈ intermediates, 0x20 ≤ b ∧ b ≤ 0x2f) →
    parameters ≠ [] → (∀ b ∈ parameters, 0x30 ≤ b ∧ b ≤ 0x3f) → 0x40 ≤ final → final ≤ 0x7e →
    (Vte.advance Vte.start ([0x1b,0x5b] ++ marker.toList ++ intermediates ++ parameters ++ [final])).2 = []

/-- What is assumed of the strings of `vte` where an OSC is to carry a whole text. It is
    so of `vte` 0.15 for payloads with at most 15 `;`. -/
structure VteOsc [Vte] : Prop where
  /-- `BEL` ends an OSC, and its payload is handed over in fields. -/
  dispatches : ∀ payload : Bytes, (∀ b ∈ payload, 0x20 ≤ b) →
    (Vte.advance Vte.start ([0x1b,0x5d] ++ payload ++ [0x07])).2 = [.oscDispatch (oscFields payload) true]

end Termpane
