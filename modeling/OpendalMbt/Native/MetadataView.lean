import OpendalMbt.Bridge.MetadataSnapshot
import OpendalMbt.Native.BytesView

/-!
# Metadata on the native target, against the browser snapshot

`checked_metadata` and `metadata_output_view` of `native/rust/src/lib.rs`. The native view
takes the sub-second part of a timestamp as it comes, the ODM1 snapshot rounds the second
down first: the two agree on whole seconds and from 1970 on, and the native view fails on
every other instant.
-/

namespace OpendalMbt.Native

open Bridge (tryU32 modeCode METADATA_IS_CURRENT_PRESENT METADATA_LAST_MODIFIED_PRESENT stringBits
  MetadataSnapshotView WithinLimit snapshotView)

structure TimestampV1 where
  unixSeconds : Int := 0
  nanoseconds : Nat := 0
  reserved0 : Nat := 0
  deriving DecidableEq, Repr

structure MetadataViewV1 where
  structSize : UInt32
  structVersion : UInt32
  presentBits : Nat
  mode : Nat
  isCurrent : Nat
  isDeleted : Nat
  reserved0 : Nat
  contentLength : UInt64
  lastModified : TimestampV1
  cacheControl : BytesViewV1
  contentDisposition : BytesViewV1
  contentEncoding : BytesViewV1
  contentMd5 : BytesViewV1
  contentType : BytesViewV1
  etag : BytesViewV1
  version : BytesViewV1
  deriving DecidableEq, Repr

def checkOutputString (value : Option String) : CallResult Unit :=
  match value with
  | none => .ok ()
  | some text =>
    if text.utf8ByteSize > maxOutputBytes then
      .error (bufferTooLarge "metadata string exceeds the binding output limit")
    else .ok ()

def checkedMetadata (metadata : Metadata) : CallResult Metadata := do
  checkOutputString metadata.cacheControl
  checkOutputString metadata.contentDisposition
  checkOutputString metadata.contentEncoding
  checkOutputString metadata.contentMd5
  checkOutputString metadata.contentType
  checkOutputString metadata.etag
  checkOutputString metadata.version
  .ok metadata

/-- The timestamp of a view, and whether there is one. -/
def lastModifiedView (metadata : Metadata) : CallResult (TimestampV1 × Bool) :=
  match metadata.lastModified with
  | some value =>
    match tryU32 value.subsecNanosecond with
    | none => .error .abiMismatch
    | some nanoseconds => .ok ({ unixSeconds := value.asSecond, nanoseconds }, true)
  | none => .ok ({}, false)

def metadataOutputView (metadata : Metadata) (header : StructHeaderV1) :
    CallResult MetadataViewV1 :=
  let presentBits := 0
  let presentBits :=
    if metadata.isCurrent.isSome then presentBits ||| METADATA_IS_CURRENT_PRESENT else presentBits
  match lastModifiedView metadata with
  | .error e => .error e
  | .ok (lastModified, modifiedPresent) =>
    let presentBits :=
      if modifiedPresent then presentBits ||| METADATA_LAST_MODIFIED_PRESENT else presentBits
    let presentBits := (stringBits.zip metadata.strings).foldl
      (fun bits item => if item.2.isSome then bits ||| item.1 else bits) presentBits
    .ok {
      structSize := header.structSize
      structVersion := header.structVersion
      presentBits
      mode := modeCode metadata.mode
      isCurrent := metadata.isCurrent.elim 0 Bool.toNat
      isDeleted := metadata.isDeleted.toNat
      reserved0 := 0
      contentLength := metadata.contentLength
      lastModified
      cacheControl := optionalStringView metadata.cacheControl
      contentDisposition := optionalStringView metadata.contentDisposition
      contentEncoding := optionalStringView metadata.contentEncoding
      contentMd5 := optionalStringView metadata.contentMd5
      contentType := optionalStringView metadata.contentType
      etag := optionalStringView metadata.etag
      version := optionalStringView metadata.version }

/-- The view that a native caller gets of a metadata that an operation returned. -/
def metadataView (metadata : Metadata) (header : StructHeaderV1) : CallResult MetadataViewV1 := do
  let checked ← checkedMetadata metadata
  metadataOutputView checked header

/-! ## Sizes -/

theorem checkOutputString_ok {value : Option String}
    (h : Bridge.textLength value ≤ maxOutputBytes) : checkOutputString value = .ok () := by
  cases value with
  | none => rfl
  | some text =>
    simp only [Bridge.textLength, Option.elim_some] at h
    unfold checkOutputString
    simp only
    rw [if_neg (by omega)]

theorem checkedMetadata_ok {metadata : Metadata}
    (h : ∀ value ∈ metadata.strings, Bridge.textLength value ≤ maxOutputBytes) :
    checkedMetadata metadata = .ok metadata := by
  have hcheck : ∀ value ∈ metadata.strings, checkOutputString value = .ok () :=
    fun value hvalue => checkOutputString_ok (h value hvalue)
  simp only [Metadata.strings, List.forall_mem_cons] at hcheck
  obtain ⟨h1, h2, h3, h4, h5, h6, h7, -⟩ := hcheck
  unfold checkedMetadata
  rw [h1, h2, h3, h4, h5, h6, h7]
  rfl

/-- The size limit of the browser snapshot is the smaller one. -/
theorem checkedMetadata_of_withinLimit {metadata : Metadata} (h : WithinLimit metadata) :
    checkedMetadata metadata = .ok metadata := by
  apply checkedMetadata_ok
  intro value hvalue
  have hle := Bridge.textLength_le hvalue
  unfold WithinLimit Bridge.metadataSnapshotHeaderLength Bridge.maxBufferLength at h
  unfold maxOutputBytes
  omega

/-! ## Timestamps -/

/-- Before 1970 the sub-second part of a fractional instant is negative. -/
theorem subsec_nonneg_iff (t : Timestamp) :
    0 ≤ t.subsecNanosecond ↔ 0 ≤ t.instant ∨ t.instant % 1000000000 = 0 := by
  have hsub := t.subsec_lt
  have hsigns := t.signs
  unfold Timestamp.instant
  omega

theorem tryU32_subsec (t : Timestamp) :
    tryU32 t.subsecNanosecond =
      if 0 ≤ t.subsecNanosecond then some t.subsecNanosecond.toNat else none := by
  have hsub := t.subsec_lt
  unfold tryU32
  apply if_congr
  · omega
  · rfl
  · rfl

theorem lastModifiedView_eq {metadata : Metadata} {t : Timestamp}
    (ht : metadata.lastModified = some t) :
    lastModifiedView metadata =
      if 0 ≤ t.subsecNanosecond then
        .ok ({ unixSeconds := t.asSecond, nanoseconds := t.subsecNanosecond.toNat }, true)
      else .error .abiMismatch := by
  unfold lastModifiedView
  rw [ht]
  simp only
  rw [tryU32_subsec]
  by_cases hneg : 0 ≤ t.subsecNanosecond
  · rw [if_pos hneg, if_pos hneg]
  · rw [if_neg hneg, if_neg hneg]

/-- Both targets succeed on the metadata, with one and the same normalised pair. -/
def TimestampsAgree (metadata : Metadata) (t : Timestamp) (header : StructHeaderV1) : Prop :=
  ∃ view snapshot bytes,
    metadataView metadata header = .ok view ∧
    MetadataSnapshotView.new metadata = .ok snapshot ∧
    snapshot.encode (fun _ => true) = .ok bytes ∧
    view.lastModified.unixSeconds = snapshot.lastModifiedSeconds ∧
    view.lastModified.nanoseconds = snapshot.lastModifiedNanoseconds ∧
    snapshot.lastModifiedNanoseconds < 1000000000 ∧
    snapshot.lastModifiedSeconds * 1000000000 + snapshot.lastModifiedNanoseconds = t.instant

theorem timestamps_agree_iff (metadata : Metadata) (t : Timestamp) (header : StructHeaderV1)
    (ht : metadata.lastModified = some t) :
    TimestampsAgree metadata t header ↔
      (0 ≤ t.instant ∨ t.instant % 1000000000 = 0) ∧ WithinLimit metadata := by
  have hview := lastModifiedView_eq ht
  have hparts : (snapshotView metadata).lastModifiedSeconds = t.instant / 1000000000 ∧
      (snapshotView metadata).lastModifiedNanoseconds = (t.instant % 1000000000).toNat := by
    simp [snapshotView, ht]
  rw [← subsec_nonneg_iff]
  constructor
  · intro h
    obtain ⟨view, snapshot, bytes, hnative, hnew, hrest⟩ := h
    have hlimit : WithinLimit metadata := by
      rw [MetadataSnapshotView.new_eq] at hnew
      by_contra hbig
      rw [if_neg hbig] at hnew
      cases hnew
    refine ⟨?_, hlimit⟩
    by_contra hneg
    rw [if_neg hneg] at hview
    simp [metadataView, checkedMetadata_of_withinLimit hlimit, metadataOutputView, hview,
      bind, Except.bind] at hnative
  · intro h
    obtain ⟨hsub, hlimit⟩ := h
    rw [if_pos hsub] at hview
    have hnative : ∃ view, metadataView metadata header = .ok view ∧
        view.lastModified = { unixSeconds := t.asSecond, nanoseconds := t.subsecNanosecond.toNat } := by
      simp only [metadataView, checkedMetadata_of_withinLimit hlimit, metadataOutputView, hview,
        bind, Except.bind]
      exact ⟨_, rfl, rfl⟩
    obtain ⟨view, hnative, htime⟩ := hnative
    have hrange := t.subsec_lt
    have hsigns := t.signs
    refine ⟨view, snapshotView metadata, _, hnative, ?_, rfl, ?_, ?_, ?_, ?_⟩
    · rw [MetadataSnapshotView.new_eq, if_pos hlimit]
    · rw [htime, hparts.1]
      simp only [Timestamp.instant]
      omega
    · rw [htime, hparts.2]
      simp only [Timestamp.instant]
      omega
    · rw [hparts.2]
      omega
    · rw [hparts.1, hparts.2]
      omega

/-- One and a half seconds before the epoch. -/
def beforeEpoch : Timestamp where
  asSecond := -1
  subsecNanosecond := -500000000
  subsec_lt := by decide
  signs := by decide
  lower := by decide
  upper := by decide

def modifiedAt (t : Timestamp) : Metadata where
  mode := .file
  isCurrent := none
  isDeleted := false
  contentLength := 0
  lastModified := some t
  cacheControl := none
  contentDisposition := none
  contentEncoding := none
  contentMd5 := none
  contentType := none
  etag := none
  version := none

/-- The native view of such an instant is an ABI mismatch; the browser has the pair. -/
theorem timestamps_disagree_before_epoch :
    metadataView (modifiedAt beforeEpoch) ⟨0, 1⟩ = .error .abiMismatch ∧
      Bridge.lastModifiedParts beforeEpoch = .ok (-2, 500000000) ∧
      ¬ TimestampsAgree (modifiedAt beforeEpoch) beforeEpoch ⟨0, 1⟩ := by
  have hnative : metadataView (modifiedAt beforeEpoch) ⟨0, 1⟩ = .error .abiMismatch := rfl
  refine ⟨hnative, rfl, ?_⟩
  intro ⟨view, snapshot, bytes, hview, hrest⟩
  rw [hnative] at hview
  cases hview

def halfSecondAfterEpoch : Timestamp where
  asSecond := 0
  subsecNanosecond := 500000000
  subsec_lt := by decide
  signs := by decide
  lower := by decide
  upper := by decide

theorem timestamps_agree_after_epoch :
    TimestampsAgree (modifiedAt halfSecondAfterEpoch) halfSecondAfterEpoch ⟨0, 1⟩ :=
  (timestamps_agree_iff (modifiedAt halfSecondAfterEpoch) halfSecondAfterEpoch ⟨0, 1⟩ rfl).mpr
    ⟨by decide, by decide⟩

end OpendalMbt.Native
