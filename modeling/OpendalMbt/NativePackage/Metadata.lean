import OpendalMbt.NativePackage.Error
import OpendalMbt.Stub.Metadata

/-!
# Metadata of the native package

`metadata_from_native` of `src/native_ffi.mbt` reads a handle through the getters of the stub, and
releases it before it decodes any text.

* `fillMetadataView_eq`: both handles answer with the written view;
* `optionalMetadataText_copied`: a text under its own bit;
* `metadata_roundTrip`: the metadata that is read is the one that was written.
-/

namespace OpendalMbt.NativePackage

open Codec Native Stub

/-- `Timestamp` of `src/opendal_types.mbt`, beside the instant of the library. -/
structure Timestamp where
  unixSeconds : Int
  nanoseconds : Int
  deriving DecidableEq, Repr

inductive EntryMode where
  | file | directory | unknown
  deriving DecidableEq, Repr

structure Metadata where
  mode : EntryMode
  contentLength : UInt64
  isCurrent : Option Bool
  isDeleted : Bool
  cacheControl : Option String
  contentDisposition : Option String
  contentEncoding : Option String
  contentMd5 : Option String
  contentType : Option String
  etag : Option String
  lastModified : Option Timestamp
  version : Option String
  deriving DecidableEq, Repr

def metadataBit (bits index : Nat) : Bool := bits &&& 1 <<< index != 0

def optionalMetadataText (present : Bool) (bytes : List UInt8) (subject : Subject) :
    Except OpenDalError (Option String) :=
  if present then (decodeAbiText bytes subject).map some else .ok none

def entryModeOfCode (modeCode : Nat) : EntryMode :=
  match modeCode with
  | 1 => .file
  | 2 => .directory
  | _ => .unknown

def metadataFromNative (metadata : NativeMetadata) (subject : Subject) :
    Except OpenDalError Metadata := do
  let bits := metadataPresentBits metadata
  let isCurrent :=
    if metadataBit bits 0 then some (metadataIsCurrent metadata) else none
  let lastModified : Option Timestamp :=
    if metadataBit bits 1 then
      some {
        unixSeconds := metadataLastModifiedSeconds metadata
        nanoseconds := reinterpretAsInt (UInt32.ofNat (metadataLastModifiedNanoseconds metadata)) }
    else none
  let cacheControl ←
    optionalMetadataText (metadataBit bits 2) (metadataCacheControl metadata) subject
  let contentDisposition ←
    optionalMetadataText (metadataBit bits 3) (metadataContentDisposition metadata) subject
  let contentEncoding ←
    optionalMetadataText (metadataBit bits 4) (metadataContentEncoding metadata) subject
  let contentMd5 ←
    optionalMetadataText (metadataBit bits 5) (metadataContentMd5 metadata) subject
  let contentType ←
    optionalMetadataText (metadataBit bits 6) (metadataContentType metadata) subject
  let etag ← optionalMetadataText (metadataBit bits 7) (metadataEtag metadata) subject
  let version ← optionalMetadataText (metadataBit bits 8) (metadataVersion metadata) subject
  .ok {
    mode := entryModeOfCode (metadataMode metadata)
    contentLength := metadataContentLength metadata
    isCurrent
    isDeleted := metadataIsDeleted metadata
    cacheControl, contentDisposition, contentEncoding, contentMd5, contentType, etag
    lastModified
    version }

/-! ## What the metadata says -/

/-- The second is rounded down. -/
def Timestamp.ofTimestamp (t : OpendalMbt.Timestamp) : Timestamp where
  unixSeconds := t.instant / 1000000000
  nanoseconds := t.instant % 1000000000

def EntryMode.ofMode : OpendalMbt.EntryMode → EntryMode
  | .file => .file
  | .dir => .directory
  | .unknown => .unknown

/-- The same mode, flags, length, timestamp and texts. -/
def Metadata.ofMetadata (metadata : OpendalMbt.Metadata) : Metadata where
  mode := .ofMode metadata.mode
  contentLength := metadata.contentLength
  isCurrent := metadata.isCurrent
  isDeleted := metadata.isDeleted
  cacheControl := metadata.cacheControl
  contentDisposition := metadata.contentDisposition
  contentEncoding := metadata.contentEncoding
  contentMd5 := metadata.contentMd5
  contentType := metadata.contentType
  etag := metadata.etag
  lastModified := metadata.lastModified.map .ofTimestamp
  version := metadata.version

/-! ## The getters on a written view -/

theorem entryModeOfCode_modeCode (mode : OpendalMbt.EntryMode) :
    entryModeOfCode (Bridge.modeCode mode) = .ofMode mode := by
  cases mode
  · rfl
  · rfl
  · rfl

/-- The two parts of a representable timestamp, as the getters return them. -/
theorem ofTimestamp_eq {t : OpendalMbt.Timestamp} (h : 0 ≤ t.instant ∨ t.instant % 1000000000 = 0) :
    Timestamp.ofTimestamp t =
      ⟨t.asSecond, reinterpretAsInt (UInt32.ofNat t.subsecNanosecond.toNat)⟩ := by
  have hsub := t.subsec_lt
  have hnonneg := (subsec_nonneg_iff t).mpr h
  have hword : (UInt32.ofNat t.subsecNanosecond.toNat).toNat = t.subsecNanosecond.toNat := by
    rw [UInt32.toNat_ofNat']
    omega
  have hread : reinterpretAsInt (UInt32.ofNat t.subsecNanosecond.toNat) = t.subsecNanosecond := by
    rw [reinterpretAsInt, hword, if_pos (by omega)]
    omega
  rw [hread, Timestamp.ofTimestamp, OpendalMbt.Timestamp.instant]
  congr 1
  · omega
  · omega

/-- An absent text and an empty one have the same view, and different bits. -/
theorem optionalMetadataText_copied {value : Option String} (subject : Subject)
    (h : Bridge.textLength value ≤ maxOutputBytes) :
    optionalMetadataText value.isSome (copyBytes (optionalStringView value)) subject =
      .ok value := by
  cases value with
  | none => rfl
  | some text =>
    have hlength : (utf8Bytes text).length ≤ INT32_MAX := by
      rw [length_utf8Bytes]
      exact h
    simp only [optionalMetadataText, Option.isSome_some, if_true, optionalStringView,
      Option.elim_some, stringView, copyBytes_bytesView hlength, decodeAbiText_utf8Bytes]
    rfl

/-- Both handles get the view that `metadata_output_view` has written. -/
theorem fillMetadataView_eq {handle : NativeMetadata} {metadata : OpendalMbt.Metadata}
    (hhandle : handle = .metadata metadata ∨ handle = .entry metadata)
    (h : Representable metadata) : fillMetadataView handle = some (writtenView metadata) := by
  have hview := metadataOutputView_eq h
  obtain rfl | rfl := hhandle
  · simp only [fillMetadataView, hview]
  · simp only [fillMetadataView, hview]

/-- Every getter reads the same view. -/
theorem metadataGetter_eq {α : Type} {handle : NativeMetadata} {metadata : OpendalMbt.Metadata}
    (hfill : fillMetadataView handle = some (writtenView metadata)) (default : α)
    (field : MetadataViewV1 → α) :
    metadataGetter default field handle = field (writtenView metadata) := by
  rw [metadataGetter, hfill]
  rfl

section Read

variable {handle : NativeMetadata} {metadata : OpendalMbt.Metadata}
  (hfill : fillMetadataView handle = some (writtenView metadata))

include hfill

theorem metadataBit_eq (i : Nat) :
    metadataBit (metadataPresentBits handle) i = (Bridge.presence metadata).getD i false := by
  rw [metadataPresentBits, metadataGetter_eq hfill, metadataBit, bit_written]

theorem isCurrent_eq :
    (if metadataBit (metadataPresentBits handle) 0 then some (metadataIsCurrent handle)
      else none) = metadata.isCurrent := by
  have hflag : metadataIsCurrent handle = (metadata.isCurrent.elim 0 Bool.toNat == 1) :=
    metadataGetter_eq hfill _ _
  have hbit : metadataBit (metadataPresentBits handle) 0 = metadata.isCurrent.isSome :=
    metadataBit_eq hfill 0
  rw [hbit, hflag]
  cases metadata.isCurrent with
  | none => rfl
  | some value =>
    cases value
    · rfl
    · rfl

theorem isDeleted_eq : metadataIsDeleted handle = metadata.isDeleted := by
  have hflag : metadataIsDeleted handle = (metadata.isDeleted.toNat == 1) :=
    metadataGetter_eq hfill _ _
  rw [hflag]
  cases metadata.isDeleted
  · rfl
  · rfl

theorem lastModified_eq (h : Representable metadata) :
    (if metadataBit (metadataPresentBits handle) 1 then
      some (⟨metadataLastModifiedSeconds handle,
        reinterpretAsInt (UInt32.ofNat (metadataLastModifiedNanoseconds handle))⟩ : Timestamp)
      else none) = metadata.lastModified.map .ofTimestamp := by
  have hbit : metadataBit (metadataPresentBits handle) 1 = metadata.lastModified.isSome :=
    metadataBit_eq hfill 1
  have hseconds : metadataLastModifiedSeconds handle =
      (writtenView metadata).lastModified.unixSeconds := metadataGetter_eq hfill _ _
  have hnanoseconds : metadataLastModifiedNanoseconds handle =
      (writtenView metadata).lastModified.nanoseconds := metadataGetter_eq hfill _ _
  rw [hbit, hseconds, hnanoseconds, writtenView]
  cases hmodified : metadata.lastModified with
  | none => rfl
  | some t => exact congrArg some (ofTimestamp_eq (h t hmodified)).symm

/-- One text, from its bit and its getter. -/
theorem text_eq (subject : Subject) {value : Option String} (i : Nat)
    (field : MetadataViewV1 → BytesViewV1)
    (hpresent : (Bridge.presence metadata).getD i false = value.isSome)
    (hfield : field (writtenView metadata) = optionalStringView value)
    (hlength : Bridge.textLength value ≤ maxOutputBytes) :
    optionalMetadataText (metadataBit (metadataPresentBits handle) i)
      (metadataGetter [] (fun view => copyBytes (field view)) handle) subject = .ok value := by
  rw [metadataBit_eq hfill, hpresent, metadataGetter_eq hfill, hfield]
  exact optionalMetadataText_copied subject hlength

theorem metadataFromNative_eq (h : Representable metadata)
    (htexts : ∀ value ∈ metadata.strings, Bridge.textLength value ≤ maxOutputBytes)
    (subject : Subject) :
    metadataFromNative handle subject = .ok (.ofMetadata metadata) := by
  simp only [Metadata.strings, List.forall_mem_cons] at htexts
  obtain ⟨h1, h2, h3, h4, h5, h6, h7, -⟩ := htexts
  have hmode : metadataMode handle = Bridge.modeCode metadata.mode := metadataGetter_eq hfill _ _
  have hlength : metadataContentLength handle = metadata.contentLength :=
    metadataGetter_eq hfill _ _
  have hcacheControl := text_eq hfill subject 2 (·.cacheControl) rfl rfl h1
  have hcontentDisposition := text_eq hfill subject 3 (·.contentDisposition) rfl rfl h2
  have hcontentEncoding := text_eq hfill subject 4 (·.contentEncoding) rfl rfl h3
  have hcontentMd5 := text_eq hfill subject 5 (·.contentMd5) rfl rfl h4
  have hcontentType := text_eq hfill subject 6 (·.contentType) rfl rfl h5
  have hetag := text_eq hfill subject 7 (·.etag) rfl rfl h6
  have hversion := text_eq hfill subject 8 (·.version) rfl rfl h7
  unfold metadataFromNative metadataCacheControl metadataContentDisposition
    metadataContentEncoding metadataContentMd5 metadataContentType metadataEtag metadataVersion
  dsimp only
  rw [isCurrent_eq hfill, lastModified_eq hfill h, isDeleted_eq hfill, hmode, hlength,
    hcacheControl, hcontentDisposition, hcontentEncoding, hcontentMd5, hcontentType, hetag,
    hversion, entryModeOfCode_modeCode]
  rfl

end Read

/-! ## The round trip -/

/-- The view is written and valid, and either handle is read back as the same metadata. -/
structure RoundTrips (metadata : OpendalMbt.Metadata) : Prop where
  written : metadataView metadata metadataViewHeader = .ok (writtenView metadata)
  valid : validateMetadataView (writtenView metadata) = true
  snapshot : validateMetadataSnapshot metadata = true
  read : ∀ handle subject, handle = .metadata metadata ∨ handle = .entry metadata →
    metadataFromNative handle subject = .ok (.ofMetadata metadata)

theorem metadata_roundTrip (metadata : OpendalMbt.Metadata)
    (htime : ∀ t ∈ metadata.lastModified, 0 ≤ t.instant ∨ t.instant % 1000000000 = 0)
    (htexts : ∀ value ∈ metadata.strings, Bridge.textLength value ≤ maxOutputBytes) :
    RoundTrips metadata where
  written := by
    rw [metadataView, checkedMetadata_ok htexts]
    exact metadataOutputView_eq htime
  valid := validateMetadataView_written metadata htexts
  snapshot := by
    rw [validateMetadataSnapshot, metadataOutputView_eq htime]
    exact validateMetadataView_written metadata htexts
  read handle subject hhandle :=
    metadataFromNative_eq (fillMetadataView_eq hhandle htime) htime htexts subject

/-- An empty entity tag beside absent texts. -/
def emptyEtag : OpendalMbt.Metadata :=
  { modifiedAt halfSecondAfterEpoch with isCurrent := some false, etag := some "" }

theorem emptyEtag_roundTrip :
    RoundTrips emptyEtag ∧
      (Metadata.ofMetadata emptyEtag).etag = some "" ∧
      (Metadata.ofMetadata emptyEtag).version = none :=
  ⟨metadata_roundTrip emptyEtag (by decide) (by decide), rfl, rfl⟩

end OpendalMbt.NativePackage
