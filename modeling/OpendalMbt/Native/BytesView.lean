import OpendalMbt.Codec.Utf8
import OpendalMbt.RangeCodec

/-!
# Borrowed bytes on the native ABI

`BytesViewV1` of `native/rust/src/abi.rs`, and how `native/rust/src/lib.rs` writes and reads
such views. A pointer that is not null stands for the bytes that can be read behind it. A
`usize` has 64 bits.

* `optionalText_written`: a text that is written under its presence bit is read back;
* `absent_of_optionalText`: a field without its presence bit is refused unless it is empty.
-/

namespace OpendalMbt.Native

open Codec

/-- A pointer to a struct of the caller. -/
inductive Pointer (T : Type) where
  | null
  | misaligned
  | valid (target : T)
  deriving DecidableEq, Repr

structure StructHeaderV1 where
  structSize : UInt32
  structVersion : UInt32
  deriving DecidableEq, Repr

structure BytesViewV1 where
  data : Option (List UInt8)
  len : Nat
  readable : ∀ bytes ∈ data, bytes.length = len
  deriving DecidableEq, Repr

theorem readable_some (bytes : List UInt8) : ∀ b ∈ some bytes, b.length = bytes.length := by
  intro b hb
  rw [Option.mem_some.mp hb]

/-- A null pointer with length zero. -/
def BytesViewV1.absent : BytesViewV1 where
  data := none
  len := 0
  readable := fun _ h => nomatch h

/-- The bytes that a view stands for. -/
def BytesViewV1.bytes (view : BytesViewV1) : List UInt8 := view.data.getD []

/-! ## Writing -/

def bytesView (bytes : List UInt8) : BytesViewV1 :=
  if bytes.isEmpty then .absent
  else {
    data := some bytes
    len := bytes.length
    readable := readable_some bytes }

def stringView (value : String) : BytesViewV1 := bytesView (utf8Bytes value)

def optionalStringView (value : Option String) : BytesViewV1 := value.elim .absent stringView

@[simp] theorem bytesView_nil : bytesView [] = .absent := rfl

theorem bytesView_data (bytes : List UInt8) :
    (bytesView bytes).data = if bytes = [] then none else some bytes := by
  cases bytes <;> rfl

@[simp] theorem bytesView_len (bytes : List UInt8) : (bytesView bytes).len = bytes.length := by
  cases bytes <;> rfl

@[simp] theorem bytesView_bytes (bytes : List UInt8) : (bytesView bytes).bytes = bytes := by
  cases bytes <;> rfl

@[simp] theorem stringView_len (text : String) : (stringView text).len = text.utf8ByteSize := by
  rw [stringView, bytesView_len, length_utf8Bytes]

@[simp] theorem stringView_bytes (text : String) : (stringView text).bytes = utf8Bytes text :=
  bytesView_bytes (utf8Bytes text)

/-- Bytes of a length are never behind a null pointer. -/
theorem readable_bytesView (bytes : List UInt8) :
    ¬ ((bytesView bytes).len ≠ 0 ∧ (bytesView bytes).data.isNone) := by
  intro ⟨hlen, hnone⟩
  rw [bytesView_len] at hlen
  rw [bytesView_data, if_neg (fun h => hlen (by rw [h]; rfl))] at hnone
  cases hnone

/-- An empty text crosses as a null view. -/
theorem stringView_empty : stringView "" = .absent := rfl

/-! ## Reading -/

def checkedLen (length : Nat) : CallResult Nat :=
  if isizeMax < length then .error .abiMismatch else .ok length

def borrowedBytes (view : BytesViewV1) : CallResult (List UInt8) :=
  match checkedLen view.len with
  | .error failure => .error failure
  | .ok length =>
    if length = 0 then .ok []
    else
      match view.data with
      | none => .error .abiMismatch
      | some bytes => .ok bytes

def readTextValue (view : BytesViewV1) (label : String) : CallResult String :=
  match borrowedBytes view with
  | .error failure => .error failure
  | .ok bytes =>
    match utf8Decode bytes with
    | some text => .ok text
    | none => .error (invalidArgument s!"{label} must be valid UTF-8")

def absentBytesIsCanonical (view : BytesViewV1) : Bool := view.data.isNone && view.len == 0

def optionalText (view : BytesViewV1) (presentBits bit : UInt64) (label : String) :
    CallResult (Option String) :=
  if presentBits &&& bit ≠ 0 then (readTextValue view label).map some
  else if !absentBytesIsCanonical view then .error .abiMismatch
  else .ok none

theorem absentBytesIsCanonical_iff {view : BytesViewV1} :
    absentBytesIsCanonical view = true ↔ view = .absent := by
  rw [absentBytesIsCanonical, Bool.and_eq_true, Option.isNone_iff_eq_none, beq_iff_eq]
  constructor
  · intro ⟨hdata, hlen⟩
    cases view
    cases hdata
    cases hlen
    rfl
  · intro h
    rw [h]
    exact ⟨rfl, rfl⟩

/-- A written view is read back when its length is a length of memory. -/
theorem borrowedBytes_bytesView {bytes : List UInt8} (h : bytes.length ≤ isizeMax) :
    borrowedBytes (bytesView bytes) = .ok bytes := by
  unfold borrowedBytes checkedLen
  rw [bytesView_len, if_neg (by omega), bytesView_data]
  cases bytes with
  | nil => rfl
  | cons byte bytes => rfl

theorem readTextValue_stringView {text : String} (label : String)
    (h : text.utf8ByteSize ≤ isizeMax) : readTextValue (stringView text) label = .ok text := by
  have hborrow : borrowedBytes (stringView text) = .ok (utf8Bytes text) := by
    apply borrowedBytes_bytesView
    rw [length_utf8Bytes]
    exact h
  rw [readTextValue, hborrow]
  simp only [utf8Decode_utf8Bytes]

theorem optionalText_of_clear {view : BytesViewV1} {presentBits bit : UInt64} (label : String)
    (h : presentBits &&& bit = 0) :
    optionalText view presentBits bit label =
      if view = .absent then .ok none else .error .abiMismatch := by
  unfold optionalText
  rw [if_neg (by rw [h]; decide)]
  by_cases habsent : view = .absent
  · rw [if_pos habsent, absentBytesIsCanonical_iff.mpr habsent]
    rfl
  · rw [if_neg habsent, if_pos]
    rw [Bool.not_eq_true', ← Bool.not_eq_true, absentBytesIsCanonical_iff]
    exact habsent

/-- A text that was written under its presence bit comes back as it was. -/
theorem optionalText_written {value : Option String} {presentBits bit : UInt64} (label : String)
    (hbit : presentBits &&& bit ≠ 0 ↔ value.isSome)
    (hlength : ∀ text ∈ value, text.utf8ByteSize ≤ isizeMax) :
    optionalText (optionalStringView value) presentBits bit label = .ok value := by
  cases value with
  | none =>
    have hclear : presentBits &&& bit = 0 := by
      by_contra hset
      exact absurd (hbit.mp hset) (by decide)
    rw [optionalText_of_clear label hclear]
    rfl
  | some text =>
    have hread : readTextValue (stringView text) label = .ok text :=
      readTextValue_stringView label (hlength text rfl)
    rw [optionalText, if_pos (hbit.mpr rfl)]
    change (readTextValue (stringView text) label).map some = _
    rw [hread]
    rfl

/-- An accepted field whose presence bit is clear holds nothing. -/
theorem absent_of_optionalText {view : BytesViewV1} {presentBits bit : UInt64} {label : String}
    {value : Option String} (h : optionalText view presentBits bit label = .ok value)
    (hclear : presentBits &&& bit = 0) : view = .absent := by
  rw [optionalText_of_clear label hclear] at h
  split_ifs at h with habsent
  exact habsent

end OpendalMbt.Native
