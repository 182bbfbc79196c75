import OpendalMbt.Codec.Layout
import OpendalMbt.Native.CallResult

/-!
# Negotiation of the API table

`opendal_mbt_get_api`, `install_api` and `stage_api` of `native/rust/src/lib.rs` over the
struct `ApiV1` of `native/rust/src/abi.rs`. The caller's table is a part of the memory; on the
targets of the library a pointer has 8 bytes and integers are little-endian.

* `installApi_frame`, `installApi_field`, `installApi_cleared`: which bytes are left alone,
  which hold a member, and which are zero;
* `getApi_negotiates`: a header is rejected, or the table is filled member by member.
-/

namespace OpendalMbt.Native

open Codec

/-- The members of `ApiV1` in their order. -/
inductive ApiField where
  | structSize | requestedMajor | libraryStructSize | libraryMinor | libraryPatch | reserved0
  | featureBits | maxOutputBytes | libraryInfo | errorView | errorFree | bufferLen | bufferCopy
  | bufferFree | metadataView | metadataFree | entryView | entryMetadataView | entryFree
  | operatorInfoView | operatorInfoFree | operatorNew | operatorFree | operatorCheck
  | operatorExists | operatorStat | operatorRead | operatorWrite | operatorCreateDir
  | operatorDelete | operatorCopy | operatorRename | operatorLister | listerNext | listerClose
  | listerFree | operatorReader | readerRead | readerClose | readerFree | operatorWriter
  | writerWrite | writerClose | writerFree | operatorReadStream | readStreamNext
  | readStreamClose | readStreamFree | writerAbort | operatorS3 | operatorPresignRead
  | operatorPresignWrite | operatorPresignStat | presignedRequestView
  | presignedRequestHeaderView | presignedRequestFree | operatorWithTimeout | operatorWithRetry
  | operatorWithConcurrencyLimit | operatorDeleteMany | operatorCopier | copierNext
  | copierFinish | copierAbort | copierFree | asyncOperatorReadStart
  | asyncOperatorReadStreamStart | asyncReadStreamNextStart | asyncReadStreamClose
  | asyncReadStreamFree | asyncOperatorWriterStart | asyncWriterWriteStart
  | asyncWriterFinishStart | asyncWriterAbortStart | asyncWriterFree | asyncTaskCancel
  | asyncTaskTakeBuffer | asyncTaskTakeMetadata | asyncTaskTakeReadStream | asyncTaskTakeWriter
  | asyncTaskTakeUnit | asyncTaskFree
  deriving DecidableEq, Repr

namespace ApiField

def size : ApiField → Nat
  | structSize | requestedMajor | libraryStructSize | libraryMinor | libraryPatch | reserved0 => 4
  | _ => 8

def fields : List ApiField :=
  [.structSize, .requestedMajor, .libraryStructSize, .libraryMinor, .libraryPatch, .reserved0,
    .featureBits, .maxOutputBytes, .libraryInfo, .errorView, .errorFree, .bufferLen, .bufferCopy,
    .bufferFree, .metadataView, .metadataFree, .entryView, .entryMetadataView, .entryFree,
    .operatorInfoView, .operatorInfoFree, .operatorNew, .operatorFree, .operatorCheck,
    .operatorExists, .operatorStat, .operatorRead, .operatorWrite, .operatorCreateDir,
    .operatorDelete, .operatorCopy, .operatorRename, .operatorLister, .listerNext, .listerClose,
    .listerFree, .operatorReader, .readerRead, .readerClose, .readerFree, .operatorWriter,
    .writerWrite, .writerClose, .writerFree, .operatorReadStream, .readStreamNext,
    .readStreamClose, .readStreamFree, .writerAbort, .operatorS3, .operatorPresignRead,
    .operatorPresignWrite, .operatorPresignStat, .presignedRequestView,
    .presignedRequestHeaderView, .presignedRequestFree, .operatorWithTimeout, .operatorWithRetry,
    .operatorWithConcurrencyLimit, .operatorDeleteMany, .operatorCopier, .copierNext,
    .copierFinish, .copierAbort, .copierFree, .asyncOperatorReadStart,
    .asyncOperatorReadStreamStart, .asyncReadStreamNextStart, .asyncReadStreamClose,
    .asyncReadStreamFree, .asyncOperatorWriterStart, .asyncWriterWriteStart,
    .asyncWriterFinishStart, .asyncWriterAbortStart, .asyncWriterFree, .asyncTaskCancel,
    .asyncTaskTakeBuffer, .asyncTaskTakeMetadata, .asyncTaskTakeReadStream, .asyncTaskTakeWriter,
    .asyncTaskTakeUnit, .asyncTaskFree]

end ApiField

def apiV1 : List (Slot ApiField) := place ApiField.size 0 ApiField.fields

def alignOfApiV1 : Nat := 8

def sizeOfApiV1 : Nat := sizeOfLayout alignOfApiV1 apiV1

def API_INPUT_SIZE : Nat := 8

def API_PREFIX_SIZE : Nat := 40

example : (⟨.requestedMajor, 4, 4⟩ : Slot ApiField) ∈ apiV1 := by decide

example : (⟨.maxOutputBytes, 32, 8⟩ : Slot ApiField) ∈ apiV1 := by decide

set_option maxRecDepth 2000 in
example : sizeOfApiV1 = 632 := rfl

/-! ## Staging -/

def ABI_MAJOR : Nat := 1
def ABI_MINOR : Nat := 7
def ABI_PATCH : Nat := 0

/-- The features that the library was built with. -/
structure Build where
  profileStandard : Bool
  layersTimeoutRetry : Bool
  layersConcurrentLimit : Bool
  unix : Bool
  deriving DecidableEq, Repr

/-- The base features 0 to 6, then S3, presigning, layers, the concurrency limit, batch
deletes, copiers and the asynchronous functions. -/
def featureBits (build : Build) : Nat :=
  0x7F ||| (if build.profileStandard then 1 <<< 7 else 0) ||| 1 <<< 8 |||
    (if build.layersTimeoutRetry then 1 <<< 9 else 0) |||
    (if build.layersConcurrentLimit then 1 <<< 10 else 0) ||| 1 <<< 11 ||| 1 <<< 12 |||
    (if build.unix then 1 <<< 13 else 0)

/-- A function that is not built in is a null pointer. -/
def stageApi (build : Build) (address : ApiField → Nat) : ApiField → Nat
  | .structSize | .requestedMajor | .reserved0 => 0
  | .libraryStructSize => sizeOfApiV1
  | .libraryMinor => ABI_MINOR
  | .libraryPatch => ABI_PATCH
  | .featureBits => featureBits build
  | .maxOutputBytes => maxOutputBytes
  | .operatorS3 => if build.profileStandard then address .operatorS3 else 0
  | .operatorWithTimeout => if build.layersTimeoutRetry then address .operatorWithTimeout else 0
  | .operatorWithRetry => if build.layersTimeoutRetry then address .operatorWithRetry else 0
  | .operatorWithConcurrencyLimit =>
    if build.layersConcurrentLimit then address .operatorWithConcurrencyLimit else 0
  | field => address field

/-- How `catch_unwind(stage_api)` ends. -/
inductive Staging where
  | staged (value : ApiField → Nat)
  | none
  | panic

/-! ## Installation -/

section Install

/-- The bytes of a member of the staged table. -/
def fieldBytes (value : ApiField → Nat) (field : ApiField) : List UInt8 :=
  leBytes field.size (value field)

/-- `install_field!` stands there for every member after the input, in their order. -/
def installedSlots : List (Slot ApiField) := apiV1.drop 2

def installLimit (callerSize : Nat) : Nat := min callerSize sizeOfApiV1

def installApi (base callerSize : Nat) (value : ApiField → Nat) (m : Memory) : Memory :=
  copyMembers base (installLimit callerSize) (fieldBytes value) installedSlots
    (m.clear (base + API_INPUT_SIZE) (base + installLimit callerSize))

variable {base callerSize address : Nat} {value : ApiField → Nat} {m : Memory}

theorem length_fieldBytes {slot : Slot ApiField} (h : slot ∈ installedSlots) :
    (fieldBytes value slot.field).length = slot.size := by
  rw [size_of_mem_place (List.mem_of_mem_drop h)]
  exact length_leBytes _ _

theorem pairwise_installedSlots : installedSlots.Pairwise fun a b => a.stop ≤ b.offset :=
  (pairwise_place _ _ _).sublist (List.drop_sublist _ _)

theorem input_le_offset {slot : Slot ApiField} (h : slot ∈ installedSlots) :
    API_INPUT_SIZE ≤ slot.offset := by
  have hplaced : installedSlots = place ApiField.size API_INPUT_SIZE (ApiField.fields.drop 2) := rfl
  rw [hplaced] at h
  exact le_offset_of_mem_place h

/-- Only the table is written, and not its header. -/
theorem installApi_frame
    (h : address < base + API_INPUT_SIZE ∨ base + installLimit callerSize ≤ address) :
    installApi base callerSize value m address = m address := by
  unfold installApi
  rw [copyMembers_outside fun _ => length_fieldBytes]
  · exact Memory.clear_outside h
  · intro slot hslot hcovered
    have hinput := input_le_offset hslot
    omega

theorem installApi_field {slot : Slot ApiField} (hslot : slot ∈ installedSlots)
    (hcovered : slot.stop ≤ installLimit callerSize) :
    (installApi base callerSize value m).read (base + slot.offset) slot.size =
      fieldBytes value slot.field :=
  read_copyMembers (fun _ => length_fieldBytes) pairwise_installedSlots hslot hcovered

/-- A member that the limit cuts off is zero as far as it goes. -/
theorem installApi_cleared {slot : Slot ApiField} (hslot : slot ∈ installedSlots)
    (hcut : installLimit callerSize < slot.stop) (hstart : base + slot.offset ≤ address)
    (hlimit : address < base + installLimit callerSize) :
    installApi base callerSize value m address = 0 := by
  unfold installApi
  rw [copyMembers_outside fun _ => length_fieldBytes]
  · have hinput := input_le_offset hslot
    exact Memory.clear_inside (by omega) hlimit
  · intro other hother hcovered
    rcases separate_of_mem pairwise_installedSlots hother hslot with rfl | hbefore | hafter
    · omega
    · omega
    · have hsize : other.offset ≤ other.stop := Nat.le_add_right _ _
      omega

end Install

/-! ## Negotiation -/

/-- The header that the caller has put into its table. -/
structure ApiHeader where
  structSize : Nat
  requestedMajor : Nat
  deriving DecidableEq, Repr

def readHeader (inoutApi : Nat) (m : Memory) : ApiHeader where
  structSize := leValue (m.read inoutApi 4)
  requestedMajor := leValue (m.read (inoutApi + 4) 4)

/-- The pointer and the header that the negotiation goes on with. -/
def HeaderAccepted (inoutApi : Nat) (header : ApiHeader) : Prop :=
  inoutApi ≠ 0 ∧ inoutApi % alignOfApiV1 = 0 ∧ header.structSize ≤ isizeMax ∧
    API_PREFIX_SIZE ≤ header.structSize ∧ header.requestedMajor = ABI_MAJOR ∧
    inoutApi + header.structSize < 2 ^ 64

def getApi (staging : Staging) (inoutApi : Nat) (m : Memory) : Status × Memory :=
  if inoutApi = 0 ∨ inoutApi % alignOfApiV1 ≠ 0 then (.abiMismatch, m)
  else
    let header := readHeader inoutApi m
    if isizeMax < header.structSize then (.abiMismatch, m)
    else if header.structSize < API_PREFIX_SIZE ∨ header.requestedMajor ≠ ABI_MAJOR ∨
        2 ^ 64 ≤ inoutApi + header.structSize then (.abiMismatch, m)
    else
      match staging with
      | .none | .panic => (.panic, m)
      | .staged value => (.ok, installApi inoutApi header.structSize value m)

/-- What a negotiation leaves in the caller's table and around it. -/
structure Negotiated (inoutApi structSize : Nat) (value : ApiField → Nat) (m m' : Memory) :
    Prop where
  header : ∀ i < API_INPUT_SIZE, m' (inoutApi + i) = m (inoutApi + i)
  outside : ∀ address,
    address < inoutApi ∨ inoutApi + min structSize sizeOfApiV1 ≤ address → m' address = m address
  complete : ∀ slot ∈ apiV1, API_INPUT_SIZE < slot.stop → slot.stop ≤ structSize →
    m'.read (inoutApi + slot.offset) slot.size = fieldBytes value slot.field
  cleared : ∀ slot ∈ apiV1, structSize < slot.stop → ∀ i < slot.size,
    slot.offset + i < structSize → m' (inoutApi + (slot.offset + i)) = 0

theorem mem_installedSlots {slot : Slot ApiField} (h : slot ∈ apiV1)
    (hstop : API_INPUT_SIZE < slot.stop) : slot ∈ installedSlots := by
  have hsplit : apiV1 = ⟨.structSize, 0, 4⟩ :: ⟨.requestedMajor, 4, 4⟩ :: installedSlots := rfl
  rw [hsplit] at h
  rcases List.mem_cons.mp h with rfl | h
  · exact absurd hstop (by decide)
  rcases List.mem_cons.mp h with rfl | h
  · exact absurd hstop (by decide)
  · exact h

theorem stop_le_sizeOfApiV1 {slot : Slot ApiField} (h : slot ∈ apiV1) : slot.stop ≤ sizeOfApiV1 :=
  stop_le_sizeOfLayout (pairwise_place _ _ _) h

theorem negotiated_installApi {inoutApi structSize : Nat} {value : ApiField → Nat} {m : Memory}
    (hsize : API_PREFIX_SIZE ≤ structSize) :
    Negotiated inoutApi structSize value m (installApi inoutApi structSize value m) where
  header := by
    intro i hi
    apply installApi_frame
    left
    omega
  outside := by
    intro address haddress
    apply installApi_frame
    unfold installLimit
    omega
  complete := by
    intro slot hslot hoffset hcovered
    apply installApi_field (mem_installedSlots hslot hoffset)
    exact Nat.le_min.mpr ⟨hcovered, stop_le_sizeOfApiV1 hslot⟩
  cleared := by
    intro slot hslot hcut i hi hlimit
    have hsize' : structSize ≤ sizeOfApiV1 :=
      Nat.le_trans (Nat.le_of_lt hcut) (stop_le_sizeOfApiV1 hslot)
    have hinput : API_INPUT_SIZE < slot.stop := by
      unfold API_INPUT_SIZE
      unfold API_PREFIX_SIZE at hsize
      omega
    have hlimited : installLimit structSize = structSize := Nat.min_eq_left hsize'
    apply installApi_cleared (mem_installedSlots hslot hinput)
    · rw [hlimited]
      exact hcut
    · omega
    · omega

/-- What the caller reads back of a member that its table covers. -/
theorem Negotiated.leValue_read {inoutApi structSize : Nat} {value : ApiField → Nat}
    {m m' : Memory} (h : Negotiated inoutApi structSize value m m') {slot : Slot ApiField}
    (hslot : slot ∈ installedSlots) (hcovered : slot.stop ≤ structSize)
    (hvalue : value slot.field < 256 ^ slot.size) :
    leValue (m'.read (inoutApi + slot.offset) slot.size) = value slot.field := by
  have hmem : slot ∈ apiV1 := List.mem_of_mem_drop hslot
  have hsize : slot.size = slot.field.size := size_of_mem_place hmem
  have hpositive : 0 < slot.size := by
    rw [hsize]
    unfold ApiField.size
    split <;> omega
  have hinput := input_le_offset hslot
  rw [h.complete slot hmem (by unfold Slot.stop; omega) hcovered, fieldBytes, ← hsize]
  exact leValue_leBytes hvalue

theorem getApi_of_accepted {staging : Staging} {value : ApiField → Nat} {inoutApi : Nat}
    {m : Memory} (h : HeaderAccepted inoutApi (readHeader inoutApi m))
    (hstaging : staging = .staged value) :
    getApi staging inoutApi m =
      (.ok, installApi inoutApi (readHeader inoutApi m).structSize value m) := by
  obtain ⟨hnull, halign, hisize, hprefix, hmajor, haddress⟩ := h
  unfold getApi
  rw [if_neg (by omega)]
  dsimp only
  rw [if_neg (by omega), if_neg (by omega), hstaging]

theorem getApi_of_rejected {staging : Staging} {inoutApi : Nat} {m : Memory}
    (h : ¬ HeaderAccepted inoutApi (readHeader inoutApi m)) :
    getApi staging inoutApi m = (.abiMismatch, m) := by
  unfold getApi
  split
  · rfl
  dsimp only
  split
  · rfl
  split
  · rfl
  · exfalso
    apply h
    unfold HeaderAccepted
    omega

theorem getApi_of_unstaged {staging : Staging} {inoutApi : Nat} {m : Memory}
    (h : HeaderAccepted inoutApi (readHeader inoutApi m))
    (hstaging : staging = .none ∨ staging = .panic) :
    getApi staging inoutApi m = (.panic, m) := by
  obtain ⟨hnull, halign, hisize, hprefix, hmajor, haddress⟩ := h
  unfold getApi
  rw [if_neg (by omega)]
  dsimp only
  rw [if_neg (by omega), if_neg (by omega)]
  rcases hstaging with rfl | rfl <;> rfl

/-- A call of `opendal_mbt_get_api` over any memory: an unaccepted header and a failed staging
leave the memory as it was, and otherwise the table is negotiated. -/
theorem getApi_negotiates (staging : Staging) (inoutApi : Nat) (m : Memory) :
    (¬ HeaderAccepted inoutApi (readHeader inoutApi m) ∧
      getApi staging inoutApi m = (.abiMismatch, m)) ∨
    (staging = .none ∨ staging = .panic) ∧ getApi staging inoutApi m = (.panic, m) ∨
    HeaderAccepted inoutApi (readHeader inoutApi m) ∧ ∃ value m', staging = .staged value ∧
      getApi staging inoutApi m = (.ok, m') ∧
      Negotiated inoutApi (readHeader inoutApi m).structSize value m m' := by
  by_cases haccepted : HeaderAccepted inoutApi (readHeader inoutApi m)
  · right
    cases staging with
    | staged value =>
      right
      exact ⟨haccepted, value, _, rfl, getApi_of_accepted haccepted rfl,
        negotiated_installApi haccepted.2.2.2.1⟩
    | none => exact Or.inl ⟨Or.inl rfl, getApi_of_unstaged haccepted (Or.inl rfl)⟩
    | panic => exact Or.inl ⟨Or.inr rfl, getApi_of_unstaged haccepted (Or.inr rfl)⟩
  · left
    exact ⟨haccepted, getApi_of_rejected haccepted⟩

end OpendalMbt.Native
