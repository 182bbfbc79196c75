import OpendalMbt.Bridge.Handle
import OpendalMbt.Codec.Fields
import OpendalMbt.Codec.Utf8

/-!
# The ODE1 error snapshot, as the bridge writes it

The kind, status and texts of a `BridgeError`, and `error_snapshot_bytes` of
`wasm/browser-bridge/src/lib.rs`: a 24-byte header with the two text lengths, then the
kind name and the message.
-/

namespace OpendalMbt.Bridge

open Codec

def maxBufferLength : Nat := 64 * 1024 * 1024

def maxListEntries : Nat := 65536

def maxListOutputBytes : Nat := 16 * 1024 * 1024

def ERROR_UNEXPECTED : UInt32 := 1
def ERROR_INVALID_ARGUMENT : UInt32 := 0x1001
def ERROR_RESOURCE_CLOSED : UInt32 := 0x1002
def ERROR_BUFFER_TOO_LARGE : UInt32 := 0x1003
def ERROR_ABI_MISMATCH : UInt32 := 0x1004
def ERROR_RESOURCE_BUSY : UInt32 := 0x1006

def ERROR_STATUS_PERMANENT : UInt32 := 1

namespace BridgeError

def kind : BridgeError → UInt32
  | .invalidHandle _ | .taskNotReady _ | .taskConsumed _ | .tornDown | .resourceClosed _ =>
    ERROR_RESOURCE_CLOSED
  | .resourceBusy _ => ERROR_RESOURCE_BUSY
  | .wrongResourceType .. => ERROR_ABI_MISMATCH
  | .indexOutOfBounds .. | .invalidByte _ | .invalidUtf8 | .invalidArgument _ =>
    ERROR_INVALID_ARGUMENT
  | .bufferTooLarge | .lengthOverflow | .listTooLarge => ERROR_BUFFER_TOO_LARGE
  | .openDal kind _ _ _ => kind
  | .asyncPending => ERROR_UNEXPECTED
  | .handleLimit | .allocationFailed => ERROR_UNEXPECTED

def errorStatus : BridgeError → UInt32
  | .openDal _ status _ _ => status
  | _ => ERROR_STATUS_PERMANENT

def kindName : BridgeError → String
  | .invalidHandle _ | .taskNotReady _ | .taskConsumed _ | .tornDown | .resourceClosed _ =>
    "ResourceClosed"
  | .resourceBusy _ => "ResourceBusy"
  | .wrongResourceType .. => "AbiMismatch"
  | .indexOutOfBounds .. | .invalidByte _ | .invalidUtf8 | .invalidArgument _ => "InvalidArgument"
  | .bufferTooLarge | .lengthOverflow | .listTooLarge => "BufferTooLarge"
  | .openDal _ _ kindName _ => kindName
  | .asyncPending => "Unexpected"
  | .handleLimit | .allocationFailed => "Unexpected"

/-- The `Display` text of the error, or for a service error its own message. -/
def diagnosticMessage : BridgeError → String
  | .invalidHandle handle => s!"invalid or stale handle {handle}"
  | .wrongResourceType handle expected actual =>
    s!"handle {handle} contains {actual}, expected {expected}"
  | .bufferTooLarge => s!"buffer cannot grow beyond {maxBufferLength} bytes in ABI v1"
  | .indexOutOfBounds index length =>
    s!"buffer index {index} is out of bounds for length {length}"
  | .invalidByte value => s!"{value} is not an unsigned byte"
  | .invalidUtf8 => "path buffer is not valid UTF-8"
  | .openDal _ _ _ message => message
  | .asyncPending => "OpenDAL future returned Pending in the poll-once canary adapter"
  | .handleLimit => s!"the bridge has reached its {maxSlots}-handle capacity"
  | .lengthOverflow => "value cannot be represented by the scalar ABI"
  | .taskNotReady handle => s!"task {handle} is not ready"
  | .taskConsumed handle => s!"task {handle} has already been consumed"
  | .tornDown => "the bridge instance has been torn down"
  | .resourceClosed handle => s!"resource {handle} is closed"
  | .resourceBusy handle => s!"resource {handle} already has an operation in flight"
  | .listTooLarge =>
    s!"list exceeds the binding limits of {maxListEntries} entries or {maxListOutputBytes} UTF-8 bytes"
  | .allocationFailed => "the bridge could not reserve memory for an owned result"
  | .invalidArgument message => s!"invalid scalar argument: {message}"

end BridgeError

def errorSnapshotMagic : List UInt8 := [0x4F, 0x44, 0x45, 0x31]

def errorSnapshotSchema : UInt32 := 1

def errorSnapshotHeaderLength : Nat := 24

/-- `tryReserve n` tells whether the allocator has `n` bytes. -/
def errorSnapshotBytes (tryReserve : Nat → Bool) (error : BridgeError) :
    Except BridgeError (List UInt8) :=
  let kindName := utf8Bytes error.kindName
  let message := utf8Bytes error.diagnosticMessage
  let totalLength := errorSnapshotHeaderLength + kindName.length + message.length
  if UInt32.size ≤ kindName.length then .error .bufferTooLarge
  else if UInt32.size ≤ message.length then .error .bufferTooLarge
  else if maxBufferLength < totalLength then .error .bufferTooLarge
  else if tryReserve totalLength then
    .ok (errorSnapshotMagic ++
      (encodeFields [(4, errorSnapshotSchema.toNat), (4, error.kind.toNat),
        (4, error.errorStatus.toNat), (4, kindName.length), (4, message.length)] ++
      (kindName ++ message)))
  else .error .allocationFailed

def BridgeError.snapshotSize (error : BridgeError) : Nat :=
  errorSnapshotHeaderLength + error.kindName.utf8ByteSize + error.diagnosticMessage.utf8ByteSize

/-- The size limit of a snapshot, on the two texts. -/
def BridgeError.WithinLimit (error : BridgeError) : Prop :=
  error.snapshotSize ≤ maxBufferLength

def errorSnapshotFields (error : BridgeError) : List (Nat × Nat) :=
  [(4, errorSnapshotSchema.toNat), (4, error.kind.toNat), (4, error.errorStatus.toNat),
    (4, error.kindName.utf8ByteSize), (4, error.diagnosticMessage.utf8ByteSize)]

theorem BridgeError.WithinLimit.fits {error : BridgeError} (h : error.WithinLimit) :
    ∀ f ∈ errorSnapshotFields error, Fits f := by
  have hkind := error.kind.toNat_lt
  have hstatus := error.errorStatus.toNat_lt
  unfold BridgeError.WithinLimit BridgeError.snapshotSize maxBufferLength
    errorSnapshotHeaderLength at h
  simp only [errorSnapshotFields, List.forall_mem_cons, List.not_mem_nil, Fits]
  refine ⟨by decide, by omega, by omega, by omega, by omega, ?_⟩
  intro f hf
  exact hf.elim

/-- The bytes of every error within the limit, once the memory is there. -/
theorem errorSnapshotBytes_eq_ok {tryReserve : Nat → Bool} {error : BridgeError}
    {bytes : List UInt8} (h : errorSnapshotBytes tryReserve error = .ok bytes) :
    error.WithinLimit ∧
      bytes = errorSnapshotMagic ++ (encodeFields (errorSnapshotFields error) ++
        (utf8Bytes error.kindName ++ utf8Bytes error.diagnosticMessage)) := by
  unfold errorSnapshotBytes at h
  simp only [length_utf8Bytes] at h
  split at h
  · cases h
  split at h
  · cases h
  split at h
  · cases h
  split at h
  · rename_i hlimit _
    cases h
    exact ⟨Nat.le_of_not_lt hlimit, rfl⟩
  · cases h

theorem errorSnapshotBytes_of_withinLimit {tryReserve : Nat → Bool} {error : BridgeError}
    (h : error.WithinLimit) (hreserve : tryReserve error.snapshotSize = true) :
    ∃ bytes, errorSnapshotBytes tryReserve error = .ok bytes := by
  have hlimit := h
  unfold BridgeError.snapshotSize at hreserve
  unfold BridgeError.WithinLimit BridgeError.snapshotSize at h hlimit
  unfold maxBufferLength errorSnapshotHeaderLength at h
  unfold errorSnapshotBytes
  simp only [length_utf8Bytes]
  rw [if_neg (by simp only [UInt32.size]; omega), if_neg (by simp only [UInt32.size]; omega),
    if_neg (Nat.not_lt.mpr hlimit), if_pos hreserve]
  exact ⟨_, rfl⟩

end OpendalMbt.Bridge
