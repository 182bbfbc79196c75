import Mathlib.Algebra.Ring.Int.Defs
import Mathlib.Algebra.Ring.Nat
import Mathlib.Data.List.Basic
import Mathlib.Tactic.Common

/-!
# Exact UTF-8 over byte lists

`utf8Bytes` and `utf8Decode` are Lean's own UTF-8, read over lists of bytes. They are
exact inverses (`utf8Decode_eq_some`): decoding fails on every list that is not the
encoding of a text.
-/

namespace OpendalMbt.Codec

def utf8Bytes (text : String) : List UInt8 :=
  text.toList.flatMap String.utf8EncodeChar

def utf8Decode (bytes : List UInt8) : Option String :=
  bytes.toByteArray.utf8Decode?.map (fun chars => String.ofList chars.toList)

theorem utf8Bytes_ofList (chars : List Char) :
    utf8Bytes (String.ofList chars) = chars.flatMap String.utf8EncodeChar := by
  simp [utf8Bytes]

theorem toByteArray_utf8Bytes (text : String) : (utf8Bytes text).toByteArray = text.toList.utf8Encode := by
  simp [utf8Bytes, List.utf8Encode]

@[simp] theorem length_utf8Bytes (text : String) : (utf8Bytes text).length = text.utf8ByteSize := by
  have hsize : (utf8Bytes text).toByteArray.size = text.utf8ByteSize := by
    rw [toByteArray_utf8Bytes, String.utf8Encode_toList]
    rfl
  simpa using hsize

theorem utf8Decode_utf8Bytes (text : String) : utf8Decode (utf8Bytes text) = some text := by
  rw [utf8Decode, toByteArray_utf8Bytes, List.utf8Decode?_utf8Encode]
  simp

theorem utf8Bytes_of_utf8Decode {bytes : List UInt8} {text : String}
    (h : utf8Decode bytes = some text) : utf8Bytes text = bytes := by
  obtain ⟨chars, hchars, rfl⟩ := Option.map_eq_some_iff.mp h
  have hsome : bytes.toByteArray.utf8Decode?.isSome := by simp [hchars]
  have hencode := ByteArray.utf8Encode_get_utf8Decode? (h := hsome)
  simp only [hchars, Option.get_some] at hencode
  have harray : (utf8Bytes (String.ofList chars.toList)).toByteArray = bytes.toByteArray := by
    rw [toByteArray_utf8Bytes, String.toList_ofList, hencode]
  have hdata := congrArg (fun b => b.data.toList) harray
  simpa using hdata

/-- The decoder accepts exactly the encodings, and returns the text encoded. -/
theorem utf8Decode_eq_some {bytes : List UInt8} {text : String} :
    utf8Decode bytes = some text ↔ utf8Bytes text = bytes := by
  constructor
  · exact utf8Bytes_of_utf8Decode
  · intro h
    rw [← h, utf8Decode_utf8Bytes]

theorem utf8Bytes_injective {a b : String} (h : utf8Bytes a = utf8Bytes b) : a = b := by
  have ha := utf8Decode_utf8Bytes a
  rw [h, utf8Decode_utf8Bytes] at ha
  exact (Option.some.inj ha).symm

/-! ## One character -/

/-- The bytes of the code point `v`: its bits in groups of six, behind the marks of the first
byte and of the others. -/
def codePointBytes (v : Nat) : List Nat :=
  if v ≤ 0x7f then [v]
  else if v ≤ 0x7ff then [0xc0 + v / 64, 0x80 + v % 64]
  else if v ≤ 0xffff then [0xe0 + v / 4096, 0x80 + v / 64 % 64, 0x80 + v % 64]
  else [0xf0 + v / 262144, 0x80 + v / 4096 % 64, 0x80 + v / 64 % 64, 0x80 + v % 64]

theorem toNat_lt (c : Char) : c.toNat < 0x110000 := by
  have hvalid : c.toNat < 0xd800 ∨ 0xdfff < c.toNat ∧ c.toNat < 0x110000 := c.valid
  omega

theorem map_toNat_utf8EncodeChar (c : Char) :
    (String.utf8EncodeChar c).map UInt8.toNat = codePointBytes c.toNat := by
  have hmax := toNat_lt c
  have hval : c.val.toNat = c.toNat := rfl
  unfold String.utf8EncodeChar codePointBytes
  dsimp only
  rw [hval]
  split_ifs <;>
    simp only [List.map_cons, List.map_nil, UInt8.toNat_ofNat', List.cons.injEq, and_true] <;>
    omega

/-- A character is written as its sequence. -/
theorem utf8EncodeChar_eq_iff {c : Char} {bytes : List UInt8} :
    String.utf8EncodeChar c = bytes ↔ codePointBytes c.toNat = bytes.map UInt8.toNat := by
  have hinjective : Function.Injective UInt8.toNat := fun a b => UInt8.toNat_inj.mp
  rw [← map_toNat_utf8EncodeChar, (List.map_injective_iff.mpr hinjective).eq_iff]

end OpendalMbt.Codec
