import OpendalMbt.Native.MetadataView
import OpendalMbt.Stub.Utf16ToUtf8
import OpendalMbt.Stub.ValidUtf8

/-!
# Metadata in the C stub

The validation of a metadata view and the getters of `src/opendal_stub.c`. Each getter asks the
library for a view of its own, and answers with a default when it gets none.

* `validOptionalText_written`: the check of one text;
* `validateMetadataView_written`: the check of a view that `metadata_output_view` has written.
-/

namespace OpendalMbt.Stub

open Codec Native

/-- `valid_utf8` on a view. -/
def validUtf8View (value : BytesViewV1) : Bool :=
  if value.len ≠ 0 ∧ value.data.isNone then false else validUtf8 value.bytes == some true

def copyBytes (value : BytesViewV1) : List UInt8 :=
  if INT32_MAX < value.len ∨ value.len ≠ 0 ∧ value.data.isNone then [] else value.bytes

theorem validUtf8View_stringView (text : String) : validUtf8View (stringView text) = true := by
  have hdata : ¬ ((stringView text).len ≠ 0 ∧ (stringView text).data.isNone) :=
    readable_bytesView (utf8Bytes text)
  rw [validUtf8View, if_neg hdata, stringView_bytes, validUtf8_utf8Bytes]
  rfl

/-- Bytes within the limit are copied as they are. -/
theorem copyBytes_bytesView {bytes : List UInt8} (h : bytes.length ≤ INT32_MAX) :
    copyBytes (bytesView bytes) = bytes := by
  have hcopied : ¬ (INT32_MAX < (bytesView bytes).len ∨
      (bytesView bytes).len ≠ 0 ∧ (bytesView bytes).data.isNone) := by
    rw [not_or]
    refine ⟨?_, readable_bytesView bytes⟩
    rw [bytesView_len]
    omega
  rw [copyBytes, if_neg hcopied, bytesView_bytes]

/-! ## Validation -/

def validOptionalText (value : BytesViewV1) (present : Bool) : Bool :=
  if !present then value.data.isNone && value.len == 0
  else decide (value.len ≤ INT32_MAX) && validUtf8View value

def OPENDAL_MBT_METADATA_IS_CURRENT_PRESENT : Nat := 1 <<< 0
def OPENDAL_MBT_METADATA_LAST_MODIFIED_PRESENT : Nat := 1 <<< 1
def OPENDAL_MBT_METADATA_CACHE_CONTROL_PRESENT : Nat := 1 <<< 2
def OPENDAL_MBT_METADATA_CONTENT_DISPOSITION_PRESENT : Nat := 1 <<< 3
def OPENDAL_MBT_METADATA_CONTENT_ENCODING_PRESENT : Nat := 1 <<< 4
def OPENDAL_MBT_METADATA_CONTENT_MD5_PRESENT : Nat := 1 <<< 5
def OPENDAL_MBT_METADATA_CONTENT_TYPE_PRESENT : Nat := 1 <<< 6
def OPENDAL_MBT_METADATA_ETAG_PRESENT : Nat := 1 <<< 7
def OPENDAL_MBT_METADATA_VERSION_PRESENT : Nat := 1 <<< 8

def knownPresentBits : Nat :=
  OPENDAL_MBT_METADATA_IS_CURRENT_PRESENT ||| OPENDAL_MBT_METADATA_LAST_MODIFIED_PRESENT |||
    OPENDAL_MBT_METADATA_CACHE_CONTROL_PRESENT |||
    OPENDAL_MBT_METADATA_CONTENT_DISPOSITION_PRESENT |||
    OPENDAL_MBT_METADATA_CONTENT_ENCODING_PRESENT ||| OPENDAL_MBT_METADATA_CONTENT_MD5_PRESENT |||
    OPENDAL_MBT_METADATA_CONTENT_TYPE_PRESENT ||| OPENDAL_MBT_METADATA_ETAG_PRESENT |||
    OPENDAL_MBT_METADATA_VERSION_PRESENT

/-- `OPENDAL_MBT_FALSE` and `OPENDAL_MBT_TRUE` are 0 and 1. -/
def validFlags (view : MetadataViewV1) : Bool :=
  if Nat.ldiff view.presentBits knownPresentBits ≠ 0 ∨ view.isCurrent ≠ 0 ∧ view.isCurrent ≠ 1 ∨
      view.isDeleted ≠ 0 ∧ view.isDeleted ≠ 1 ∨ view.reserved0 ≠ 0 then
    false
  else if view.presentBits &&& OPENDAL_MBT_METADATA_IS_CURRENT_PRESENT = 0 ∧
      view.isCurrent ≠ 0 then
    false
  else true

def validTimestamp (view : MetadataViewV1) : Bool :=
  if view.presentBits &&& OPENDAL_MBT_METADATA_LAST_MODIFIED_PRESENT ≠ 0 then
    if 1000000000 ≤ view.lastModified.nanoseconds ∨ view.lastModified.reserved0 ≠ 0 then false
    else true
  else if view.lastModified.unixSeconds ≠ 0 ∨ view.lastModified.nanoseconds ≠ 0 ∨
      view.lastModified.reserved0 ≠ 0 then
    false
  else true

def validTexts (view : MetadataViewV1) : Bool :=
  validOptionalText view.cacheControl
    (view.presentBits &&& OPENDAL_MBT_METADATA_CACHE_CONTROL_PRESENT != 0) &&
  validOptionalText view.contentDisposition
    (view.presentBits &&& OPENDAL_MBT_METADATA_CONTENT_DISPOSITION_PRESENT != 0) &&
  validOptionalText view.contentEncoding
    (view.presentBits &&& OPENDAL_MBT_METADATA_CONTENT_ENCODING_PRESENT != 0) &&
  validOptionalText view.contentMd5
    (view.presentBits &&& OPENDAL_MBT_METADATA_CONTENT_MD5_PRESENT != 0) &&
  validOptionalText view.contentType
    (view.presentBits &&& OPENDAL_MBT_METADATA_CONTENT_TYPE_PRESENT != 0) &&
  validOptionalText view.etag (view.presentBits &&& OPENDAL_MBT_METADATA_ETAG_PRESENT != 0) &&
  validOptionalText view.version (view.presentBits &&& OPENDAL_MBT_METADATA_VERSION_PRESENT != 0)

def validateMetadataView (view : MetadataViewV1) : Bool :=
  validFlags view && validTimestamp view && validTexts view

/-! ## Handles -/

/-- A MoonBit object that holds a metadata handle, the metadata of an entry, or neither. -/
inductive NativeMetadata where
  | null
  | metadata (metadata : Metadata)
  | entry (metadata : Metadata)
  deriving DecidableEq, Repr

def sizeOfMetadataViewV1 : Nat := 168

def metadataViewHeader : StructHeaderV1 := ⟨UInt32.ofNat sizeOfMetadataViewV1, 1⟩

/-- The views of both handles come from `metadata_output_view`. -/
def fillMetadataView : NativeMetadata → Option MetadataViewV1
  | .null => none
  | .metadata metadata | .entry metadata =>
    match metadataOutputView metadata metadataViewHeader with
    | .ok view => some view
    | .error _ => none

def validateMetadataSnapshot (metadata : Metadata) : Bool :=
  match metadataOutputView metadata metadataViewHeader with
  | .ok view => validateMetadataView view
  | .error _ => false

/-- A getter by what it takes from the view, and its default. -/
def metadataGetter {α : Type} (default : α) (field : MetadataViewV1 → α) (m : NativeMetadata) : α :=
  (fillMetadataView m).elim default field

def metadataPresentBits : NativeMetadata → Nat := metadataGetter 0 (·.presentBits)

def metadataMode : NativeMetadata → Nat := metadataGetter 0 (·.mode)

def metadataContentLength : NativeMetadata → UInt64 := metadataGetter 0 (·.contentLength)

def metadataIsCurrent : NativeMetadata → Bool := metadataGetter false (·.isCurrent == 1)

def metadataIsDeleted : NativeMetadata → Bool := metadataGetter false (·.isDeleted == 1)

def metadataLastModifiedSeconds : NativeMetadata → Int :=
  metadataGetter 0 (·.lastModified.unixSeconds)

def metadataLastModifiedNanoseconds : NativeMetadata → Nat :=
  metadataGetter 0 (·.lastModified.nanoseconds)

def metadataCacheControl : NativeMetadata → List UInt8 :=
  metadataGetter [] (fun view => copyBytes view.cacheControl)

def metadataContentDisposition : NativeMetadata → List UInt8 :=
  metadataGetter [] (fun view => copyBytes view.contentDisposition)

def metadataContentEncoding : NativeMetadata → List UInt8 :=
  metadataGetter [] (fun view => copyBytes view.contentEncoding)

def metadataContentMd5 : NativeMetadata → List UInt8 :=
  metadataGetter [] (fun view => copyBytes view.contentMd5)

def metadataContentType : NativeMetadata → List UInt8 :=
  metadataGetter [] (fun view => copyBytes view.contentType)

def metadataEtag : NativeMetadata → List UInt8 :=
  metadataGetter [] (fun view => copyBytes view.etag)

def metadataVersion : NativeMetadata → List UInt8 :=
  metadataGetter [] (fun view => copyBytes view.version)

/-! ## A view that the library has written -/

theorem and_bit (n i : Nat) : (n &&& 1 <<< i != 0) = n.testBit i := by
  rw [Nat.one_shiftLeft, Nat.and_two_pow]
  cases n.testBit i
  · simp
  · simp

/-- The view of a metadata whose timestamp has no negative part. -/
def writtenView (metadata : Metadata) : MetadataViewV1 where
  structSize := metadataViewHeader.structSize
  structVersion := metadataViewHeader.structVersion
  presentBits := flagBits (Bridge.presence metadata)
  mode := Bridge.modeCode metadata.mode
  isCurrent := metadata.isCurrent.elim 0 Bool.toNat
  isDeleted := metadata.isDeleted.toNat
  reserved0 := 0
  contentLength := metadata.contentLength
  lastModified := metadata.lastModified.elim {} fun t =>
    { unixSeconds := t.asSecond, nanoseconds := t.subsecNanosecond.toNat }
  cacheControl := optionalStringView metadata.cacheControl
  contentDisposition := optionalStringView metadata.contentDisposition
  contentEncoding := optionalStringView metadata.contentEncoding
  contentMd5 := optionalStringView metadata.contentMd5
  contentType := optionalStringView metadata.contentType
  etag := optionalStringView metadata.etag
  version := optionalStringView metadata.version

/-- From 1970 on, and on whole seconds. -/
def Representable (metadata : Metadata) : Prop :=
  ∀ t ∈ metadata.lastModified, 0 ≤ t.instant ∨ t.instant % 1000000000 = 0

theorem metadataOutputView_eq {metadata : Metadata} (h : Representable metadata) :
    metadataOutputView metadata metadataViewHeader = .ok (writtenView metadata) := by
  have htime : lastModifiedView metadata =
      .ok ((writtenView metadata).lastModified, metadata.lastModified.isSome) := by
    cases hmod : metadata.lastModified with
    | none => simp [lastModifiedView, writtenView, hmod]
    | some t =>
      rw [lastModifiedView_eq hmod, if_pos ((subsec_nonneg_iff t).mpr (h t hmod))]
      simp [writtenView, hmod]
  have hcount : metadata.strings.length = 7 := rfl
  have hbits := Bridge.addBits_stringBits metadata.isCurrent.isSome metadata.lastModified.isSome
    hcount
  unfold metadataOutputView
  rw [htime]
  dsimp only [Bridge.addBits] at hbits ⊢
  rw [hbits]
  rfl

section Written

variable (metadata : Metadata)

theorem testBit_written (i : Nat) :
    (writtenView metadata).presentBits.testBit i = (Bridge.presence metadata).getD i false :=
  testBit_flagBits _ i

theorem bit_written (i : Nat) :
    ((writtenView metadata).presentBits &&& 1 <<< i != 0) =
      (Bridge.presence metadata).getD i false := by
  rw [and_bit, testBit_written]

theorem known_written :
    Nat.ldiff (writtenView metadata).presentBits knownPresentBits = 0 := by
  have hknown : knownPresentBits = 2 ^ 9 - 1 := by decide
  have hlt : (writtenView metadata).presentBits < 2 ^ 9 := flagBits_lt (Bridge.presence metadata)
  apply Nat.eq_of_testBit_eq
  intro i
  rw [Nat.testBit_ldiff, hknown, Nat.testBit_two_pow_sub_one, Nat.zero_testBit]
  by_cases hi : i < 9
  · simp [hi]
  · rw [Nat.testBit_lt_two_pow (Nat.lt_of_lt_of_le hlt (Nat.pow_le_pow_right (by omega) (by omega)))]
    rfl

theorem validFlags_written : validFlags (writtenView metadata) = true := by
  have hdeleted := metadata.isDeleted.toNat_lt
  have hcurrent : ((writtenView metadata).presentBits &&&
      OPENDAL_MBT_METADATA_IS_CURRENT_PRESENT != 0) = metadata.isCurrent.isSome :=
    bit_written metadata 0
  unfold validFlags
  rw [if_neg, if_neg]
  · rintro ⟨hclear, hset⟩
    rw [hclear] at hcurrent
    cases hvalue : metadata.isCurrent with
    | none =>
      apply hset
      simp [writtenView, hvalue]
    | some value => simp [hvalue] at hcurrent
  · rw [known_written]
    rintro (hknown | hisCurrent | hisDeleted | hreserved)
    · exact hknown rfl
    · cases hvalue : metadata.isCurrent with
      | none => simp [writtenView, hvalue] at hisCurrent
      | some value => cases value <;> simp [writtenView, hvalue] at hisCurrent
    · change metadata.isDeleted.toNat ≠ 0 ∧ metadata.isDeleted.toNat ≠ 1 at hisDeleted
      omega
    · exact hreserved rfl

theorem validTimestamp_written : validTimestamp (writtenView metadata) = true := by
  have hmodified : ((writtenView metadata).presentBits &&&
      OPENDAL_MBT_METADATA_LAST_MODIFIED_PRESENT != 0) = metadata.lastModified.isSome :=
    bit_written metadata 1
  have htime : (writtenView metadata).lastModified = metadata.lastModified.elim {} fun t =>
    { unixSeconds := t.asSecond, nanoseconds := t.subsecNanosecond.toNat } := rfl
  unfold validTimestamp
  cases hvalue : metadata.lastModified with
  | none =>
    have hclear : (writtenView metadata).presentBits &&&
        OPENDAL_MBT_METADATA_LAST_MODIFIED_PRESENT = 0 := by
      simpa [hvalue] using hmodified
    rw [if_neg (not_not.mpr hclear), htime, hvalue]
    rfl
  | some t =>
    have hset : (writtenView metadata).presentBits &&&
        OPENDAL_MBT_METADATA_LAST_MODIFIED_PRESENT ≠ 0 := by
      simpa [hvalue] using hmodified
    have hrange := t.subsec_lt
    rw [if_pos hset, htime, hvalue]
    apply if_neg
    simp only [Option.elim_some, ne_eq, not_true_eq_false, or_false]
    omega

/-- One text of the view, under its bit. -/
theorem validOptionalText_written {value : Option String}
    (h : Bridge.textLength value ≤ maxOutputBytes) :
    validOptionalText (optionalStringView value) value.isSome = true := by
  cases value with
  | none => rfl
  | some text =>
    have hlength : (stringView text).len ≤ INT32_MAX := by
      rw [stringView_len]
      exact h
    simp only [validOptionalText, Option.isSome_some, Bool.not_true, Bool.false_eq_true, if_false,
      optionalStringView, Option.elim_some, hlength, validUtf8View_stringView, decide_true,
      Bool.and_self]

theorem validTexts_written
    (h : ∀ value ∈ metadata.strings, Bridge.textLength value ≤ maxOutputBytes) :
    validTexts (writtenView metadata) = true := by
  simp only [Metadata.strings, List.forall_mem_cons] at h
  obtain ⟨h1, h2, h3, h4, h5, h6, h7, -⟩ := h
  have htext : ∀ (i : Nat) (value : Option String), Bridge.textLength value ≤ maxOutputBytes →
      (Bridge.presence metadata).getD i false = value.isSome →
      validOptionalText (optionalStringView value)
        ((writtenView metadata).presentBits &&& 1 <<< i != 0) = true := by
    intro i value hlength hpresent
    rw [bit_written, hpresent]
    exact validOptionalText_written hlength
  unfold validTexts
  simp only [Bool.and_eq_true]
  exact ⟨⟨⟨⟨⟨⟨htext 2 _ h1 rfl, htext 3 _ h2 rfl⟩, htext 4 _ h3 rfl⟩, htext 5 _ h4 rfl⟩,
    htext 6 _ h5 rfl⟩, htext 7 _ h6 rfl⟩, htext 8 _ h7 rfl⟩

theorem validateMetadataView_written
    (h : ∀ value ∈ metadata.strings, Bridge.textLength value ≤ maxOutputBytes) :
    validateMetadataView (writtenView metadata) = true := by
  rw [validateMetadataView, validFlags_written, validTimestamp_written,
    validTexts_written metadata h]
  rfl

end Written

end OpendalMbt.Stub
