import OpendalMbt.Codec.Fields

/-!
# Reading bytes in JavaScript

`Uint8Array.subarray`, the little-endian getters of `DataView`, and the comparison with a
magic, over lists of bytes; and where they find what a writer has put together.
-/

namespace OpendalMbt.Browser

open Codec

def magicEquals (bytes expected : List UInt8) : Bool :=
  expected.isPrefixOf bytes

/-- `DataView.getUint32` and `getBigUint64`, little endian. -/
def getUint32 (bytes : List UInt8) (offset : Nat) : Nat := uintAt bytes offset 4

def getBigUint64 (bytes : List UInt8) (offset : Nat) : Nat := uintAt bytes offset 8

def getBigInt64 (bytes : List UInt8) (offset : Nat) : Int :=
  let value := uintAt bytes offset 8
  if value < 2 ^ 63 then value else value - 2 ^ 64

/-- `Uint8Array.subarray`. -/
def subarray (bytes : List UInt8) (start stop : Nat) : List UInt8 := (bytes.take stop).drop start

/-! ## Reading at offsets -/

theorem subarray_append {before part after : List UInt8} {start stop : Nat}
    (hstart : start = before.length) (hstop : stop = before.length + part.length) :
    subarray (before ++ (part ++ after)) start stop = part := by
  subst hstart hstop
  rw [subarray, ← List.append_assoc, ← List.length_append, List.take_left, List.drop_left]

theorem subarray_append_drop {bytes : List UInt8} {start stop : Nat} (h : start ≤ stop)
    (hstop : stop ≤ bytes.length) :
    subarray bytes start stop ++ bytes.drop stop = bytes.drop start := by
  have hsplit : bytes.drop start = (bytes.take stop ++ bytes.drop stop).drop start := by
    rw [List.take_append_drop]
  have hlength : start ≤ (bytes.take stop).length := by
    rw [List.length_take]
    omega
  rw [hsplit, List.drop_append_of_le_length hlength, subarray]

theorem length_subarray {bytes : List UInt8} {start stop : Nat} (hstop : stop ≤ bytes.length) :
    (subarray bytes start stop).length = stop - start := by
  simp only [subarray, List.length_drop, List.length_take]
  omega

theorem uintAt_lt (bytes : List UInt8) (offset width : Nat) :
    uintAt bytes offset width < 256 ^ width := by
  have hvalue := leValue_lt ((bytes.drop offset).take width)
  have hlength : ((bytes.drop offset).take width).length ≤ width := List.length_take_le ..
  exact Nat.lt_of_lt_of_le hvalue (Nat.pow_le_pow_right (by decide) hlength)

theorem getUint32_lt (bytes : List UInt8) (offset : Nat) : getUint32 bytes offset < 2 ^ 32 :=
  uintAt_lt bytes offset 4

/-- A magic is a first field of four bytes. -/
theorem magic_encodeFields {magic : List UInt8} (hmagic : magic.length = 4)
    (fields : List (Nat × Nat)) :
    magic ++ encodeFields fields = encodeFields ((4, leValue magic) :: fields) := by
  have hbytes := leBytes_leValue magic
  rw [hmagic] at hbytes
  rw [encodeFields, hbytes]

theorem magic_fits {magic : List UInt8} (hmagic : magic.length = 4) : Fits (4, leValue magic) := by
  have hlt := leValue_lt magic
  rw [hmagic] at hlt
  exact hlt

theorem uintAt_of_magicEquals {bytes magic : List UInt8} (hmagic : magic.length = 4)
    (h : magicEquals bytes magic = true) : uintAt bytes 0 4 = leValue magic := by
  obtain ⟨rest, rfl⟩ := List.isPrefixOf_iff_prefix.mp h
  rw [uintAt, List.drop_zero, List.take_left' hmagic]

theorem magicEquals_append (magic rest : List UInt8) : magicEquals (magic ++ rest) magic = true :=
  List.isPrefixOf_iff_prefix.mpr (List.prefix_append ..)

end OpendalMbt.Browser
