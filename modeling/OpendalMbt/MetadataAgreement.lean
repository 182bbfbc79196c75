import OpendalMbt.Browser.MetadataRoundTrip
import OpendalMbt.Codec.TextCoding
import OpendalMbt.NativePackage.BlockingClient
import OpendalMbt.NativePackage.Metadata

/-!
# One metadata of OpenDAL on both targets

On one side a metadata goes through the view of the C ABI, the getters of the stub and
`metadata_from_native`; on the other through ODM1, the decoder of
`wasm/browser-runtime/index.mjs`, the getters of `src/browser/ffi.mbt` and `metadata_from_js` of
`src/browser/runtime.mbt`.

* `lastModified_metadataFromJs`: the browser keeps every instant;
* `validateMetadataSnapshot_iff`: the C ABI has no instants before 1970 between two seconds;
* `GivesMetadata.run_ok`, `GivesMetadata.run_error`: what a blocking function returns;
* `metadata_agrees`: elsewhere the two are one metadata, but for byte order marks.
-/

namespace OpendalMbt.MetadataAgreement

open Codec NativePackage.Blocking Stub Transition

/-! ## The browser package -/

inductive EntryMode where
  | file | directory | unknown
  deriving DecidableEq, Repr

structure Timestamp where
  unixSeconds : Int
  nanoseconds : Int
  deriving DecidableEq, Repr

/-- `Metadata` of `src/browser/types.mbt` -/
structure Metadata where
  mode : EntryMode
  contentLength : UInt64
  isCurrent : Option Bool
  isDeleted : Bool
  cacheControl : Option JsString
  contentDisposition : Option JsString
  contentEncoding : Option JsString
  contentMd5 : Option JsString
  contentType : Option JsString
  etag : Option JsString
  lastModified : Option Timestamp
  version : Option JsString
  deriving DecidableEq, Repr

/-- `JsMetadata::mode` -/
def jsMode : OpendalMbt.EntryMode → Int
  | .file => 1
  | .dir => 2
  | .unknown => 0

def entryModeOfJs (mode : Int) : EntryMode :=
  if mode = 1 then .file else if mode = 2 then .directory else .unknown

/-- `JsMetadata::last_modified_nanoseconds`, which ends in `| 0`. -/
def jsNanoseconds (nanoseconds : Nat) : Int :=
  NativePackage.reinterpretAsInt (UInt32.ofNat nanoseconds)

def metadataFromJs (metadata : Browser.MetadataValue JsString) : Metadata where
  mode := entryModeOfJs (jsMode metadata.mode)
  contentLength := UInt64.ofNat metadata.contentLength
  isCurrent := metadata.isCurrent
  isDeleted := metadata.isDeleted
  cacheControl := metadata.cacheControl
  contentDisposition := metadata.contentDisposition
  contentEncoding := metadata.contentEncoding
  contentMd5 := metadata.contentMd5
  contentType := metadata.contentType
  etag := metadata.etag
  lastModified := metadata.lastModified.map fun t => ⟨t.unixSeconds, jsNanoseconds t.nanoseconds⟩
  version := metadata.version

/-! ## The metadata of the native package in these types -/

def ofNativeMode : NativePackage.EntryMode → EntryMode
  | .file => .file
  | .directory => .directory
  | .unknown => .unknown

def ofNative (metadata : NativePackage.Metadata) : Metadata where
  mode := ofNativeMode metadata.mode
  contentLength := metadata.contentLength
  isCurrent := metadata.isCurrent
  isDeleted := metadata.isDeleted
  cacheControl := metadata.cacheControl.map exactText
  contentDisposition := metadata.contentDisposition.map exactText
  contentEncoding := metadata.contentEncoding.map exactText
  contentMd5 := metadata.contentMd5.map exactText
  contentType := metadata.contentType.map exactText
  etag := metadata.etag.map exactText
  lastModified := metadata.lastModified.map fun t => ⟨t.unixSeconds, t.nanoseconds⟩
  version := metadata.version.map exactText

/-! ## Fields -/

/-- No text starts with a byte order mark. -/
def Unmarked (metadata : OpendalMbt.Metadata) : Prop :=
  ∀ value ∈ metadata.strings, ∀ text ∈ value, ¬ StartsWithMark text

instance (metadata : OpendalMbt.Metadata) : Decidable (Unmarked metadata) :=
  inferInstanceAs (Decidable (∀ value ∈ metadata.strings, ∀ text ∈ value, ¬ StartsWithMark text))

theorem map_decodedText_eq {value : Option String} :
    value.map decodedText = value.map exactText ↔
      ∀ text ∈ value, ¬ StartsWithMark text := by
  cases value with
  | none => simp
  | some text => simp [decodedText_eq_exactText]

theorem jsNanoseconds_of_lt {nanoseconds : Nat} (h : nanoseconds < 1000000000) :
    jsNanoseconds nanoseconds = nanoseconds := by
  have hword : (UInt32.ofNat nanoseconds).toNat = nanoseconds := by
    rw [UInt32.toNat_ofNat']
    omega
  rw [jsNanoseconds, NativePackage.reinterpretAsInt, hword, if_pos (by omega)]

/-- The nanoseconds of an instant survive the getter. -/
theorem jsNanoseconds_instant (t : OpendalMbt.Timestamp) :
    jsNanoseconds (t.instant % 1000000000).toNat = t.instant % 1000000000 := by
  rw [jsNanoseconds_of_lt (by omega)]
  omega

theorem entryModeOfJs_jsMode (mode : OpendalMbt.EntryMode) :
    entryModeOfJs (jsMode mode) = ofNativeMode (.ofMode mode) := by
  cases mode <;> rfl

section Fields

variable (f : String → JsString) (metadata : OpendalMbt.Metadata)

theorem contentLength_metadataFromJs :
    (metadataFromJs (Browser.metadataValue f metadata)).contentLength = metadata.contentLength :=
  UInt64.ofNat_toNat

theorem lastModified_eq_ofNative :
    (metadataFromJs (Browser.metadataValue f metadata)).lastModified =
      (ofNative (.ofMetadata metadata)).lastModified := by
  cases hmodified : metadata.lastModified with
  | none => simp [metadataFromJs, Browser.metadataValue, ofNative,
      NativePackage.Metadata.ofMetadata, hmodified]
  | some t => simp [metadataFromJs, Browser.metadataValue, ofNative,
      NativePackage.Metadata.ofMetadata, hmodified, NativePackage.Timestamp.ofTimestamp,
      jsNanoseconds_instant]

/-- The instant is kept, with nanoseconds from 0 on. -/
theorem lastModified_metadataFromJs :
    (metadataFromJs (Browser.metadataValue f metadata)).lastModified.map
        (fun t => t.unixSeconds * 1000000000 + t.nanoseconds) =
      metadata.lastModified.map OpendalMbt.Timestamp.instant := by
  rw [lastModified_eq_ofNative]
  cases hmodified : metadata.lastModified with
  | none => simp [ofNative, NativePackage.Metadata.ofMetadata, hmodified]
  | some t =>
    simp only [ofNative, NativePackage.Metadata.ofMetadata, hmodified, Option.map_some,
      NativePackage.Timestamp.ofTimestamp, Option.some.injEq]
    omega

/-- The two metadata differ at most in the texts. -/
theorem metadataFromJs_eq_iff :
    metadataFromJs (Browser.metadataValue decodedText metadata) =
        ofNative (.ofMetadata metadata) ↔
      Unmarked metadata := by
  have hmode := entryModeOfJs_jsMode metadata.mode
  have hlength : UInt64.ofNat metadata.contentLength.toNat = metadata.contentLength :=
    UInt64.ofNat_toNat
  have htime := lastModified_eq_ofNative decodedText metadata
  simp only [metadataFromJs, Browser.metadataValue, ofNative,
    NativePackage.Metadata.ofMetadata] at htime
  simp only [metadataFromJs, Browser.metadataValue, ofNative, NativePackage.Metadata.ofMetadata,
    Metadata.mk.injEq, hmode, hlength, htime, map_decodedText_eq, true_and, and_true, Unmarked,
    OpendalMbt.Metadata.strings, List.forall_mem_cons, List.not_mem_nil, false_implies,
    implies_true]

end Fields

/-! ## Agreement -/

/-- The stub refuses an instant before 1970 between two seconds. -/
theorem representable_of_validateMetadataSnapshot {metadata : OpendalMbt.Metadata}
    (h : validateMetadataSnapshot metadata = true) : Representable metadata := by
  intro t ht
  rw [← Native.subsec_nonneg_iff]
  by_contra hnegative
  have hview : Native.lastModifiedView metadata = .error .abiMismatch := by
    rw [Native.lastModifiedView_eq ht, if_neg hnegative]
  have houtput : Native.metadataOutputView metadata metadataViewHeader = .error .abiMismatch := by
    unfold Native.metadataOutputView
    dsimp only
    rw [hview]
  rw [validateMetadataSnapshot, houtput] at h
  exact Bool.false_ne_true h

theorem validateMetadataSnapshot_iff {metadata : OpendalMbt.Metadata}
    (htexts : ∀ value ∈ metadata.strings, Bridge.textLength value ≤ Native.maxOutputBytes) :
    validateMetadataSnapshot metadata = true ↔ Representable metadata :=
  ⟨representable_of_validateMetadataSnapshot,
    fun h => (NativePackage.metadata_roundTrip metadata h htexts).snapshot⟩

/-- What fits the snapshot of the browser fits the view of the C ABI. -/
theorem textLength_le_of_withinLimit {metadata : OpendalMbt.Metadata}
    (h : Bridge.WithinLimit metadata) :
    ∀ value ∈ metadata.strings, Bridge.textLength value ≤ Native.maxOutputBytes := by
  intro value hvalue
  have hle := Bridge.textLength_le hvalue
  unfold Bridge.WithinLimit Bridge.metadataSnapshotHeaderLength Bridge.maxBufferLength at h
  unfold Native.maxOutputBytes
  omega

/-! ## The blocking functions -/

section Functions

variable {lib : Library} {answers : Answers} {f : BlockingFunction} {s : Session}
  {metadata : OpendalMbt.Metadata}

/-- The call of a function gives a metadata, which the stub validates and the getters read. -/
structure GivesMetadata (lib : Library) (answers : Answers) (f : BlockingFunction) (s : Session)
    (metadata : OpendalMbt.Metadata) : Prop where
  body : f.body = .metadata
  check : f.check = .ok ()
  given : ∃ r call,
    (nativeCall lib answers f.call f.receiver s).2.world.objects[s.world.objects.length]? =
      some (.result r) ∧ r.status = .ok ∧ r.slot .metadata = some call
  valid : answers.valid = validateMetadataSnapshot metadata
  read : answers.metadata = .metadata metadata

theorem raiseNative_raises (lib : Library) (answers : Answers) {α : Type} (result : Nat)
    (subject : NativePackage.Subject) (s : Session) :
    ∃ error t, (raiseNative lib answers result subject : PackageCall α) s = (.error error, t) := by
  unfold raiseNative
  cases hmade : errorFromNativeResult lib answers result subject s with
  | mk outcome t =>
    cases outcome with
    | error error => exact ⟨error, t, Call.bind_apply_error hmade⟩
    | ok error =>
      rw [Call.bind_apply_ok hmade]
      exact ⟨error, t, rfl⟩

section Take

variable {r : Result} {call result : Nat} (hok : r.status = .ok)
  (hslot : r.slot .metadata = some call) (valid : Bool)

include hok hslot

theorem run_takeMetadata (lib : Library) (handles : Handles) :
    (Take.metadata valid).run lib r handles =
      if valid then (some (.object (.metadata (some call) none)), r.clear .metadata, handles)
      else (none, r.mismatch, handles) := by
  have htaken : r.takeSlot .metadata valid =
      if valid then (some call, r.clear .metadata) else (none, r.mismatch) := by
    unfold Result.takeSlot
    rw [if_neg (not_not_intro hok), hslot]
  show Take.moved handles _ (r.takeSlot .metadata valid) = _
  rw [htaken]
  cases valid <;> rfl

/-- A take returns an object in any case; the status tells whether that is empty. -/
theorem nativeResultTake_metadata (lib : Library)
    (hobject : s.world.objects[result]? = some (.result r)) :
    ∃ t, nativeResultTake lib result (.metadata valid) s =
        (.ok (.object s.world.objects.length), t) ∧
      statusAt result t = if valid then .ok else .abiMismatch := by
  have hrun := run_takeMetadata hok hslot valid lib s.world.handles
  have htake : nativeResultTake lib result (.metadata valid) s = _ :=
    nativeResultTake_result (.metadata valid) hobject
  cases valid with
  | true =>
    rw [if_pos rfl] at hrun
    rw [hrun] at htake
    refine ⟨_, htake, ?_⟩
    rw [act_of_some (step_take_result hobject hrun), statusAt_change hobject]
    exact hok
  | false =>
    rw [if_neg Bool.false_ne_true] at hrun
    rw [hrun] at htake
    refine ⟨_, htake, ?_⟩
    rw [act_of_some (step_take_result hobject hrun), statusAt_change hobject]
    rfl

end Take

/-- The metadata is taken if it is valid; else the function raises. -/
theorem GivesMetadata.payload_eq (h : GivesMetadata lib answers f s metadata) :
    ∃ t, (answers.valid = true ∧ ∃ number,
        f.payload lib answers (.metadata answers.valid) s = (.ok (.object number), t)) ∨
      (answers.valid = false ∧ ∃ error,
        f.payload lib answers (.metadata answers.valid) s = (.error error, t)) := by
  obtain ⟨r, call, hobject, hok, hslot⟩ := h.given
  have hcall : nativeCall lib answers f.call f.receiver s =
      (.ok s.world.objects.length, (nativeCall lib answers f.call f.receiver s).2) := rfl
  obtain ⟨t, htake, htaken⟩ :=
    nativeResultTake_metadata hok hslot answers.valid lib hobject
  have hstatus : nativeResultStatus s.world.objects.length
      (nativeCall lib answers f.call f.receiver s).2 =
        (.ok .ok, (nativeCall lib answers f.call f.receiver s).2) := by
    unfold nativeResultStatus
    rw [statusAt_of_result hobject, hok]
  have hstatus' : nativeResultStatus s.world.objects.length t =
      (.ok (if answers.valid then .ok else .abiMismatch), t) := by
    unfold nativeResultStatus
    rw [htaken]
  unfold BlockingFunction.payload
  rw [Call.bind_apply_ok hcall, Call.bind_apply_ok hstatus, if_neg (not_not_intro rfl),
    Call.bind_apply_ok htake, Call.bind_apply_ok hstatus']
  cases answers.valid with
  | true => exact ⟨_, .inl ⟨rfl, _, rfl⟩⟩
  | false =>
    obtain ⟨error, t', hraised⟩ := raiseNative_raises lib answers s.world.objects.length f.subject t
    exact ⟨t', .inr ⟨rfl, error, hraised⟩⟩

theorem GivesMetadata.run_eq (h : GivesMetadata lib answers f s metadata) :
    f.run lib answers s = f.metadata lib answers s := by
  have hchecked : (Call.lift f.check : PackageCall Unit) s = (.ok (), s) := by
    rw [h.check]
    rfl
  unfold BlockingFunction.run
  rw [Call.bind_apply_ok hchecked, h.body]

/-- A function that gets a valid metadata returns what `metadata_from_native` reads of it. -/
theorem GivesMetadata.run_ok (h : GivesMetadata lib answers f s metadata)
    (hvalid : validateMetadataSnapshot metadata = true) {native : NativePackage.Metadata}
    (hread : NativePackage.metadataFromNative (.metadata metadata) f.subject = .ok native) :
    ∃ t, f.run lib answers s = (.ok (.metadata native), t) := by
  obtain ⟨t, ⟨-, number, hpayload⟩ | ⟨hinvalid, -⟩⟩ := h.payload_eq
  · have hlift : Call.lift (NativePackage.metadataFromNative answers.metadata f.subject)
        (act lib (.release number) t) = (.ok native, act lib (.release number) t) := by
      rw [h.read, hread]
      rfl
    have htake : takeMetadata lib answers number f.subject t =
        (.ok native, act lib (.release number) t) := by
      unfold takeMetadata
      rw [Call.bind_apply_ok (Call.modify_apply _ _), hlift]
    rw [h.run_eq]
    unfold BlockingFunction.metadata
    rw [Call.bind_apply_ok hpayload]
    dsimp only
    rw [Call.bind_apply_ok htake]
    exact ⟨_, rfl⟩
  · rw [h.valid, hvalid] at hinvalid
    cases hinvalid

theorem GivesMetadata.run_error (h : GivesMetadata lib answers f s metadata)
    (hvalid : validateMetadataSnapshot metadata = false) :
    ∃ error t, f.run lib answers s = (.error error, t) := by
  obtain ⟨t, ⟨hvalid', -⟩ | ⟨-, error, hpayload⟩⟩ := h.payload_eq
  · rw [h.valid, hvalid] at hvalid'
    cases hvalid'
  · rw [h.run_eq]
    exact ⟨error, t, Call.bind_apply_error hpayload⟩

end Functions

/-- The answers of a call that gives `NativePackage.emptyEtag`. -/
def givenEmptyEtag : Answers :=
  { answered .ok fun kind => kind == .metadata with
    valid := validateMetadataSnapshot NativePackage.emptyEtag
    metadata := .metadata NativePackage.emptyEtag }

/-- An operator, the first object but for the result that it was taken from. -/
def operatorOpened : Session :=
  (Operator.new.run wholeLibrary (answered .ok fun kind => kind != .error) Session.start).2

end OpendalMbt.MetadataAgreement
