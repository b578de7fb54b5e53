import Termpane.Lib.PrefixCode

/-!
# UTF-8

`std::str::from_utf8` on bytes, by Lean's own decoder of one scalar. UTF-8 is a
prefix code, so the valid part of a byte string is what can be read off its
front.
-/
namespace Termpane

open Lib

/-- The scalar a byte string starts with, if it starts with a well-formed one. -/
def firstScalar (bytes : List UInt8) : Option Char := bytes.toByteArray.utf8DecodeChar? 0

/-- UTF-8 as a code of scalars. -/
def utf8 : PrefixCode Char UInt8 where
  encode := String.utf8EncodeChar
  decode := firstScalar
  encode_ne_nil c := by
    have size := String.length_utf8EncodeChar c
    have positive := Char.utf8Size_pos c
    intro empty
    rw [empty] at size
    simp at size
    omega
  decode_encode c r := by
    unfold firstScalar
    rw [List.toByteArray_append]
    exact ByteArray.utf8DecodeChar?_utf8EncodeChar_append
  encode_decode := by
    intro bytes c read
    obtain ⟨r,split⟩ := ByteArray.exists_of_utf8DecodeChar?_eq_some read
    refine ⟨r.data.toList,?_⟩
    have data := congrArg (fun b => b.data.toList) split
    simpa using data

/-- `Utf8Error::valid_up_to`, and the length of the input where there is no error. -/
def validUpTo (bytes : List UInt8) : Nat := (utf8.spell (utf8.symbols bytes)).length

/-- `std::str::from_utf8(bytes).ok()`. -/
def fromUtf8 (bytes : List UInt8) : Option (List Char) :=
  if (utf8.rest bytes).isEmpty then some (utf8.symbols bytes) else none

/-- `str::len`. -/
def utf8Len (s : List Char) : Nat := (utf8.spell s).length

def isAscii (b : UInt8) : Bool := b < 0x80

/-- A slice that ends with an ASCII byte or with the last byte of a character. -/
def EndsCharacter (slice : List UInt8) : Prop :=
  (∃ front b, slice = front ++ [b] ∧ isAscii b = true) ∨ ∃ front c, slice = front ++ utf8.encode c

end Termpane
