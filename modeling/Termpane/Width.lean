import Termpane.Cell

/-!
# Display width

The widths come from the `unicode-width` crate, which is not part of the
repository: its two functions are a parameter, and `width.rs` clamps what they
return to the two columns a cell can take.
-/
namespace Termpane

/-- `UnicodeWidthChar::width` and `UnicodeWidthStr::width`. -/
class UnicodeWidth where
  charWidth : Char → Option Nat
  strWidth : List Char → Nat

/-- The fields of `VirtualTerminalProfile` the grid reads, at their defaults. -/
structure VirtualTerminalProfile where
  decrqmMode2027Status : Nat := 0
  defaultReportedFg : UInt8 × UInt8 × UInt8 := (0xe6,0xe6,0xe6)
  defaultReportedBg : UInt8 × UInt8 × UInt8 := (0x00,0x00,0x00)

/-- DECRQM status of a private mode, 0 if untracked. -/
def VirtualTerminalProfile.decrqmStatus (p : VirtualTerminalProfile) (mode : Nat) : Nat :=
  if mode = 2027 then p.decrqmMode2027Status else 0

section
variable [UnicodeWidth]

/-- Width of one printable scalar before it joins a cluster. -/
def charWidth (ch : Char) : Nat := min ((UnicodeWidth.charWidth ch).getD 1) 2

/-- Width of one cluster. `UnicodeWidthStr::width` is cast to `u16` first. -/
def displayWidth (cluster : List Char) : Nat :=
  if cluster.isEmpty then 0 else min (UnicodeWidth.strWidth cluster % 65536) 2

def clusterWidth (cluster : List Char) : Nat := displayWidth cluster

theorem charWidth_le (ch : Char) : charWidth ch ≤ 2 := Nat.min_le_right _ _

end

/-- Widths by block, with the wide blocks, the marks and the joiner of common
    text: a table in place of the crate's, for runs on concrete input. -/
@[reducible] def blockWidth : UnicodeWidth where
  charWidth ch :=
    let n := ch.toNat
    if n < 0x20 ∨ (0x7f ≤ n ∧ n ≤ 0x9f) then none
    else if (0x300 ≤ n ∧ n ≤ 0x36f) ∨ n = 0x200d ∨ (0xfe00 ≤ n ∧ n ≤ 0xfe0f) then some 0
    else if (0x1100 ≤ n ∧ n ≤ 0x115f) ∨ (0x2e80 ≤ n ∧ n ≤ 0xa4cf) ∨ (0xac00 ≤ n ∧ n ≤ 0xd7a3) ∨
      (0xff00 ≤ n ∧ n ≤ 0xff60) ∨ (0x1f300 ≤ n ∧ n ≤ 0x1faff) then some 2
    else some 1
  strWidth cluster :=
    let wide (ch : Char) : Bool := 0x1100 ≤ ch.toNat ∧ ch.toNat ≤ 0x115f ∨ 0x2e80 ≤ ch.toNat ∧ ch.toNat ≤ 0xa4cf ∨
      0xac00 ≤ ch.toNat ∧ ch.toNat ≤ 0xd7a3 ∨ 0xff00 ≤ ch.toNat ∧ ch.toNat ≤ 0xff60 ∨
      0x1f300 ≤ ch.toNat ∧ ch.toNat ≤ 0x1faff ∨ ch.toNat = 0xfe0f
    if cluster.any wide then 2 else 1

end Termpane
