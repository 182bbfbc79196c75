import OpendalMbt.Native.BufferCopy
import OpendalMbt.Stub.ResultMoves

/-!
# Taking the bytes of a buffer

`moonbit_opendal_result_take_bytes` of `src/opendal_stub.c` over `buffer_len` and `buffer_copy` of
the library, with the array of MoonBit as the destination.

* `takeBytes_short`: a buffer that an array can hold is copied and freed;
* `takeBytes_long`, `takeBytes_failed`: otherwise the result keeps the buffer;
* `buffer_copy_protocol`: both sides together.
-/

namespace OpendalMbt.Stub

open Codec Native

/-- The memory, and where `moonbit_make_bytes` places an array of a size. -/
structure Heap where
  memory : Memory
  makeBytes : Nat → Nat
  fits : ∀ size ≤ INT32_MAX, makeBytes size + size < 2 ^ 64

/-- The scalar behind a pointer of the stub. -/
def scalarAt : Pointer Nat → Nat
  | .valid value => value
  | .null | .misaligned => 0

/-- The entry points of the library on a buffer, with outputs on the stack of the stub. -/
def Heap.entries (heap : Heap) (bytes : List UInt8) : BufferEntries where
  len :=
    let answer := bufferLen (.valid bytes) (.valid 0)
    (answer.1, scalarAt answer.2)
  copy := fun destination capacity =>
    match destination with
    | none =>
      let ended := bufferCopy (.valid bytes) none (UInt64.ofNat capacity)
        { required := .valid 0, memory := heap.memory }
      { status := ended.1, required := scalarAt ended.2.required, destination := [] }
    | some contents =>
      let address := heap.makeBytes contents.length
      let ended := bufferCopy (.valid bytes) (some address) (UInt64.ofNat capacity)
        { required := .valid 0, memory := heap.memory.write address contents }
      { status := ended.1
        required := scalarAt ended.2.required
        destination := ended.2.memory.read address contents.length }

section

variable {lib : Library} {api : LoadedApi} {r : Result} {buffer : Nat} {heap : Heap}
  {bytes : List UInt8} {handles : Handles}

theorem len_entries (h : bytes.length < 2 ^ 64) :
    (heap.entries bytes).len = (.ok, bytes.length) := by
  unfold Heap.entries
  rw [bufferLen_eq h]
  rfl

theorem len_entries_mismatch (h : 2 ^ 64 ≤ bytes.length) :
    (heap.entries bytes).len = (.abiMismatch, 0) := by
  unfold Heap.entries
  rw [bufferLen_eq_mismatch h]
  rfl

theorem copy_entries_nil :
    (heap.entries []).copy none 0 = { status := .ok, required := 0, destination := [] } := rfl

/-- The array is filled with the bytes. -/
theorem copy_entries {contents : List UInt8} (hlength : contents.length = bytes.length)
    (hmax : bytes.length ≤ INT32_MAX) :
    (heap.entries bytes).copy (some contents) bytes.length =
      { status := .ok, required := bytes.length, destination := bytes } := by
  have hcapacity : (UInt64.ofNat bytes.length).toNat = bytes.length := by
    rw [UInt64.toNat_ofNat']
    apply Nat.mod_eq_of_lt
    unfold INT32_MAX at hmax
    omega
  have hfits := heap.fits contents.length (by omega)
  have hcopied : Entry.copyOut bytes (some (heap.makeBytes contents.length))
      (UInt64.ofNat bytes.length) =
        { status := .ok, required := some bytes.length, written := bytes } := by
    apply copyOut_ok
    · rw [hcapacity]
      unfold INT32_MAX at hmax
      unfold isizeMax
      omega
    · rw [hcapacity, ← hlength]
      exact hfits
    · rw [hcapacity]
  unfold Heap.entries bufferCopy
  dsimp only [Entry.borrowRequired]
  rw [hcopied]
  show CopyReply.mk .ok bytes.length _ = _
  rw [hlength, copyTo, Memory.read_write]

theorem takeBytes_short (hload : lib.loadApi false = .ok api) (hstatus : r.status = .ok)
    (hslot : r.slot .buffer = some buffer) (hmax : bytes.length ≤ INT32_MAX) :
    r.takeBytes lib (heap.entries bytes) handles =
      (some bytes, r.clear .buffer, handles.retire ⟨.buffer, buffer⟩) := by
  have hlen : (heap.entries bytes).len = (.ok, bytes.length) := by
    apply len_entries
    unfold INT32_MAX at hmax
    omega
  unfold Result.takeBytes
  rw [if_neg (not_ne_iff.mpr hstatus), hslot]
  dsimp only
  rw [hload, hlen]
  dsimp only
  rw [if_neg (by simpa using hmax)]
  by_cases hempty : bytes.length = 0
  · obtain rfl := List.eq_nil_of_length_eq_zero hempty
    rw [if_pos hempty, copy_entries_nil]
    rfl
  · rw [if_neg hempty, copy_entries (List.length_replicate) hmax]
    simp

theorem takeBytes_long (hload : lib.loadApi false = .ok api) (hstatus : r.status = .ok)
    (hslot : r.slot .buffer = some buffer) (hmax : INT32_MAX < bytes.length) :
    r.takeBytes lib (heap.entries bytes) handles =
      (none, { r with status := .abiMismatch }, handles) := by
  unfold Result.takeBytes
  rw [if_neg (not_ne_iff.mpr hstatus), hslot]
  dsimp only
  rw [hload]
  dsimp only
  by_cases hsize : bytes.length < 2 ^ 64
  · rw [len_entries hsize]
    dsimp only
    rw [if_pos (.inr hmax)]
    rfl
  · rw [len_entries_mismatch (Nat.not_lt.mp hsize)]
    rfl

/-- The copy that a take asks for does not succeed, or gives another length. -/
def BufferEntries.CopyFails (entries : BufferEntries) : Prop :=
  let copied :=
    if entries.len.2 = 0 then entries.copy none 0
    else entries.copy (some (List.replicate entries.len.2 0)) entries.len.2
  copied.status ≠ .ok ∨ copied.required ≠ entries.len.2

/-- A take that gives no bytes changes nothing but the status. -/
theorem takeBytes_of_none {entries : BufferEntries}
    (h : (r.takeBytes lib entries handles).1 = none) :
    ∃ status, status ≠ .ok ∧
      r.takeBytes lib entries handles = (none, { r with status }, handles) := by
  have houtcome := outcome_take lib r handles (.bytes entries)
  unfold Take.run at houtcome
  dsimp only at houtcome
  generalize r.takeBytes lib entries handles = answer at h houtcome ⊢
  obtain ⟨taken, r', handles'⟩ := answer
  obtain rfl : taken = none := h
  cases houtcome with
  | refused hstatus => exact ⟨_, hstatus, rfl⟩

theorem takeBytes_failed {entries : BufferEntries} (hfails : entries.CopyFails) :
    ∃ status, status ≠ .ok ∧
      r.takeBytes lib entries handles = (none, { r with status }, handles) := by
  apply takeBytes_of_none
  unfold BufferEntries.CopyFails at hfails
  unfold Result.takeBytes
  by_cases hstatus : r.status = .ok
  · rw [if_neg (not_ne_iff.mpr hstatus)]
    cases r.slot .buffer with
    | none => rfl
    | some buffer =>
      cases lib.loadApi false with
      | error status => rfl
      | ok api =>
        dsimp only at hfails ⊢
        by_cases hlen : entries.len.1 ≠ .ok ∨ INT32_MAX < entries.len.2
        · rw [if_pos hlen]
        · rw [if_neg hlen]
          by_cases hempty : entries.len.2 = 0
          · rw [if_pos hempty] at hfails ⊢
            rw [hempty] at hfails
            rw [if_pos hfails]
          · rw [if_neg hempty] at hfails ⊢
            rw [if_pos hfails]
  · rw [if_pos hstatus]

end

/-- A copy changes the destination only when it succeeds, and then writes the bytes and nothing
else; its length is exact or zero. A take gives exactly the bytes and frees the buffer, or it
gives none and the result keeps the buffer, no longer `OK`. -/
theorem buffer_copy_protocol {lib : Library} {api : LoadedApi} (hload : lib.loadApi false = .ok api)
    {r : Result} (hstatus : r.status = .ok) {buffer : Nat} (hslot : r.slot .buffer = some buffer)
    (heap : Heap) (handles : Handles) (bytes : List UInt8) :
    (∀ destination capacity given m,
      let ended := bufferCopy (.valid bytes) destination capacity
        { required := .valid given, memory := m }
      CopyContract bytes destination capacity m ended.1 ended.2) ∧
    (bytes.length ≤ INT32_MAX →
      r.takeBytes lib (heap.entries bytes) handles =
        (some bytes, r.clear .buffer, handles.retire ⟨.buffer, buffer⟩)) ∧
    (INT32_MAX < bytes.length →
      r.takeBytes lib (heap.entries bytes) handles =
        (none, { r with status := .abiMismatch }, handles)) ∧
    ∀ entries : BufferEntries, entries.CopyFails → ∃ status, status ≠ .ok ∧
      r.takeBytes lib entries handles = (none, { r with status }, handles) := by
  refine ⟨?_, takeBytes_short hload hstatus hslot, takeBytes_long hload hstatus hslot, ?_⟩
  · intro destination capacity given m
    exact copyContract_bufferCopy bytes destination capacity given m
  · intro entries hfails
    exact takeBytes_failed hfails

/-- Three bytes at an address of a page. -/
theorem buffer_copy_protocol_page :
    let r : Result := { status := .ok, slot := fun kind => if kind = .buffer then some 7 else none }
    let heap : Heap := {
      memory := fun _ => 0
      makeBytes := fun _ => 4096
      fits := by
        intro size hsize
        unfold INT32_MAX at hsize
        omega }
    r.takeBytes wholeLibrary (heap.entries [1, 2, 3]) {} =
      (some [1, 2, 3], r.clear .buffer, Transition.Ledger.retire ⟨.buffer, 7⟩ {}) := by
  intro r heap
  have hload : wholeLibrary.loadApi false = .ok wholeLibrary.table := rfl
  exact (buffer_copy_protocol hload rfl rfl heap {} [1, 2, 3]).2.1 (by decide)

end OpendalMbt.Stub
