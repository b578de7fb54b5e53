import Termpane.Sgr
import Termpane.Lib.PrefixCode

/-!
# Passthrough events and reconstructed sequences

The events of `passthrough.rs` that the grid emits, and the byte strings of the
replies and forwarded sequences.
-/
namespace Termpane

abbrev Bytes := List UInt8

/-- The bytes of an ASCII literal. -/
def ascii (s : String) : Bytes := s.toList.map fun c => UInt8.ofNat c.toNat

/-- A number in decimal. -/
def decimal (n : Nat) : Bytes := (Nat.toDigits 10 n).map fun c => UInt8.ofNat c.toNat

inductive PassthroughEvent
  | bell
  | titleChanged (title : List Char)
  | iconNameChanged (name : List Char)
  | clipboardWrite (payload : List Char)
  | cwdChanged (uri : List Char)
  | notification (msg : List Char)
  | applicationCursorKeys (on : Bool)
  | focusEvents (on : Bool)
  | bracketedPaste (on : Bool)
  | unhandledCsi (bytes : Bytes)
  | droppedCsi (bytes : Bytes)
  | reply (bytes : Bytes)
  | scrollbackClear
  deriving DecidableEq, Repr

/-- Rebuild a CSI sequence as bytes. -/
def reconstructCsi (params : List Param) (intermediates : Bytes) (finalByte : UInt8) : Bytes :=
  ascii "\x1b[" ++ intermediates ++
    (List.intersperse (ascii ";") (params.map fun sub => (List.intersperse (ascii ":") (sub.map decimal)).flatten)).flatten
    ++ [finalByte]

/-- Two hex digits of a colour channel, doubled: `{:04x}` of `channel * 0x101`. -/
def hex4 (channel : UInt8) : Bytes :=
  let digit (n : Nat) : UInt8 := if n < 10 then UInt8.ofNat (48 + n) else UInt8.ofNat (87 + n)
  let two := [digit (channel.toNat / 16),digit (channel.toNat % 16)]
  two ++ two

/-- Reply to an OSC 10/11 colour query, ended as the query was. -/
def oscColorReply (code : Nat) (rgb : UInt8 × UInt8 × UInt8) (bellTerminated : Bool) : Bytes :=
  ascii "\x1b]" ++ decimal code ++ ascii ";rgb:" ++ hex4 rgb.1 ++ ascii "/" ++ hex4 rgb.2.1 ++ ascii "/" ++
    hex4 rgb.2.2 ++ (if bellTerminated then [0x07] else ascii "\x1b\\")

end Termpane
