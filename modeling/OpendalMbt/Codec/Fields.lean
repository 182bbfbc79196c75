import Mathlib.Algebra.Ring.Int.Defs
import Mathlib.Algebra.Ring.Nat
import Mathlib.Data.List.Basic
import Mathlib.Tactic.Common

/-!
# Fixed-width little-endian fields

A binary header is a row of unsigned fields, each of a width in bytes, followed by a
payload. `encodeFields` writes such a row and `readFields` reads it back; `uintAt` is
the random access a reader uses, at a fixed offset.

* `readFields_encodeFields`: what was written is what is read.
* `encodeFields_readFields`: writing what was read gives the same bytes, so a row of
  fields has one encoding only.
-/

namespace OpendalMbt.Codec

/-- The `width` low bytes of `n`, the lowest first. -/
def leBytes : Nat → Nat → List UInt8
  | 0, _ => []
  | width + 1, n => UInt8.ofNat n :: leBytes width (n / 256)

def leValue : List UInt8 → Nat
  | [] => 0
  | b :: bs => b.toNat + 256 * leValue bs

attribute [local simp] leBytes leValue

@[simp] theorem length_leBytes (width n : Nat) : (leBytes width n).length = width := by
  induction width generalizing n with
  | zero => simp [leBytes]
  | succ width ih => simp [leBytes, ih]

theorem leValue_lt (bs : List UInt8) : leValue bs < 256 ^ bs.length := by
  induction bs with
  | nil => simp [leValue]
  | cons b bs ih =>
    have hb := b.toNat_lt
    simp only [leValue, List.length_cons, Nat.pow_succ]
    omega

theorem leValue_leBytes {width n : Nat} (h : n < 256 ^ width) : leValue (leBytes width n) = n := by
  induction width generalizing n with
  | zero =>
    simp only [Nat.pow_zero] at h
    simp only [leBytes, leValue]
    omega
  | succ width ih =>
    have hrest : n / 256 < 256 ^ width := by
      apply Nat.div_lt_of_lt_mul
      rw [Nat.mul_comm, ← Nat.pow_succ]
      exact h
    have hlow : (UInt8.ofNat n).toNat = n % 256 := by simp
    simp only [leBytes, leValue, ih hrest, hlow]
    omega

theorem leBytes_leValue (bs : List UInt8) : leBytes bs.length (leValue bs) = bs := by
  induction bs with
  | nil => simp [leBytes]
  | cons b bs ih =>
    have hb := b.toNat_lt
    have hlow : UInt8.ofNat (b.toNat + 256 * leValue bs) = b := by
      apply UInt8.toNat_inj.mp
      simp only [UInt8.toNat_ofNat']
      omega
    have hrest : (b.toNat + 256 * leValue bs) / 256 = leValue bs := by omega
    simp only [List.length_cons, leValue, leBytes, hlow, hrest, ih]

/-! ## Rows of fields -/

/-- A field is its width and its value. -/
def encodeFields : List (Nat × Nat) → List UInt8
  | [] => []
  | (width, value) :: fields => leBytes width value ++ encodeFields fields

def readFields : List Nat → List UInt8 → List Nat
  | [], _ => []
  | width :: widths, bytes => leValue (bytes.take width) :: readFields widths (bytes.drop width)

/-- The unsigned value of the `width` bytes at `offset`. -/
def uintAt (bytes : List UInt8) (offset width : Nat) : Nat :=
  leValue ((bytes.drop offset).take width)

def Fits (field : Nat × Nat) : Prop := field.2 < 256 ^ field.1

attribute [local simp] encodeFields readFields

@[simp] theorem length_encodeFields (fields : List (Nat × Nat)) :
    (encodeFields fields).length = (fields.map Prod.fst).sum := by
  induction fields with
  | nil => simp [encodeFields]
  | cons field fields ih => simp [encodeFields, ih]

theorem encodeFields_append (fields more : List (Nat × Nat)) :
    encodeFields (fields ++ more) = encodeFields fields ++ encodeFields more := by
  induction fields with
  | nil => simp [encodeFields]
  | cons field fields ih => simp [encodeFields, ih]

theorem readFields_encodeFields {fields : List (Nat × Nat)} (hfits : ∀ f ∈ fields, Fits f)
    (payload : List UInt8) :
    readFields (fields.map Prod.fst) (encodeFields fields ++ payload) = fields.map Prod.snd := by
  induction fields with
  | nil => simp [readFields]
  | cons field fields ih =>
    have hhead : Fits field := hfits field (by simp)
    have hrest := ih (fun f hf => hfits f (by simp [hf]))
    have hlength : (leBytes field.1 field.2).length = field.1 := length_leBytes ..
    simp only [List.map_cons, readFields, encodeFields, List.append_assoc]
    rw [List.take_left' hlength, List.drop_left' hlength, leValue_leBytes hhead, hrest]

theorem length_readFields (widths : List Nat) (bytes : List UInt8) :
    (readFields widths bytes).length = widths.length := by
  induction widths generalizing bytes with
  | nil => simp [readFields]
  | cons width widths ih => simp [readFields, ih]

/-- The bytes of a row are determined by its fields. -/
theorem encodeFields_readFields {widths : List Nat} {bytes : List UInt8}
    (hlength : widths.sum ≤ bytes.length) :
    encodeFields (widths.zip (readFields widths bytes)) ++ bytes.drop widths.sum = bytes := by
  induction widths generalizing bytes with
  | nil => simp [readFields, encodeFields]
  | cons width widths ih =>
    simp only [List.sum_cons] at hlength
    have htake : (bytes.take width).length = width := by
      rw [List.length_take]
      omega
    have hvalue := leBytes_leValue (bytes.take width)
    rw [htake] at hvalue
    have hrest : widths.sum ≤ (bytes.drop width).length := by
      rw [List.length_drop]
      omega
    have htail := ih hrest
    rw [List.drop_drop] at htail
    simp only [readFields, List.zip_cons_cons, encodeFields, List.sum_cons, hvalue,
      List.append_assoc, htail, List.take_append_drop]

/-! ## Presence words -/

/-- The word whose bit `i` is the `i`-th flag. -/
def flagBits : List Bool → Nat
  | [] => 0
  | flag :: flags => flag.toNat + 2 * flagBits flags

theorem testBit_flagBits (flags : List Bool) (i : Nat) :
    (flagBits flags).testBit i = flags.getD i false := by
  induction flags generalizing i with
  | nil => simp [flagBits]
  | cons flag flags ih =>
    have hflag := flag.toNat_lt
    cases i with
    | zero =>
      cases flag <;> simp [flagBits, Nat.testBit_zero]
    | succ i =>
      have hhalf : (flag.toNat + 2 * flagBits flags) / 2 = flagBits flags := by omega
      rw [flagBits, Nat.testBit_succ, hhalf, ih]
      simp

theorem flagBits_lt (flags : List Bool) : flagBits flags < 2 ^ flags.length := by
  induction flags with
  | nil => simp [flagBits]
  | cons flag flags ih =>
    have hflag := flag.toNat_lt
    simp only [flagBits, List.length_cons, Nat.pow_succ]
    omega

/-- A word without unknown bits is the word of its bits. -/
theorem flagBits_eq {flags : List Bool} {n : Nat} (hlt : n < 2 ^ flags.length)
    (hbits : ∀ i, i < flags.length → n.testBit i = flags.getD i false) : flagBits flags = n := by
  apply Nat.eq_of_testBit_eq
  intro i
  rw [testBit_flagBits]
  by_cases hi : i < flags.length
  · exact (hbits i hi).symm
  · have hpow : 2 ^ flags.length ≤ 2 ^ i := Nat.pow_le_pow_right (by decide) (by omega)
    rw [Nat.testBit_lt_two_pow (by omega), List.getD_eq_getElem?_getD,
      List.getElem?_eq_none (by omega), Option.getD_none]

end OpendalMbt.Codec
