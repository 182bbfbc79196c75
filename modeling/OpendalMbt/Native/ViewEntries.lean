import OpendalMbt.Native.AsyncEntries

/-!
# The entries that look at what was returned

The entries of `native/rust/src/lib.rs` that fill a view of the caller, and the two for buffers.
A view starts with a header that says how large it is; `prepare_view` clears the rest of it.
These entries have no `out_error`.

* `atomic_view`, `atomic_bufferLen`, `atomic_bufferCopy`: they are atomic.
-/

namespace OpendalMbt.Native.Entry

open Transition

/-! ## Views -/

inductive ViewFault where
  | null
  | misaligned
  | header
  deriving DecidableEq, Repr

/-- A view is storage when its header is that of a view of this size. -/
def viewSlot {V : Type} (size : Nat) : Pointer StructHeaderV1 → Slot ViewFault V
  | .null => .invalid .null
  | .misaligned => .invalid .misaligned
  | .valid header =>
    match prepareView size header with
    | .ok _ => .storage .stale
    | .error _ => .invalid .header

/-- An entry with a view as its only output. -/
def view {V : Type} (size : Nat) (output : Pointer StructHeaderV1)
    (body : StructHeaderV1 → Step ViewFault (fun _ : Unit => V) Status) : Invocation :=
  .single (viewSlot size output) (.invalid .null) <|
    match output with
    | .valid header => body header
    | .null | .misaligned => pure .abiMismatch

def sizeOfLibraryInfoViewV1 : Nat := 64
def sizeOfErrorViewV1 : Nat := 48
def sizeOfMetadataViewV1 : Nat := 168
def sizeOfEntryViewV1 : Nat := 48
def sizeOfOperatorInfoViewV1 : Nat := 96

structure LibraryInfoViewV1 extends StructHeaderV1 where
  reserved0 : UInt64
  bindingVersion : BytesViewV1
  opendalVersion : BytesViewV1
  serviceProfile : BytesViewV1
  deriving DecidableEq, Repr

structure ErrorViewV1 extends StructHeaderV1 where
  kind : UInt32
  status : UInt32
  kindName : BytesViewV1
  message : BytesViewV1
  deriving DecidableEq, Repr

structure EntryViewV1 extends StructHeaderV1 where
  reserved0 : UInt64
  path : BytesViewV1
  name : BytesViewV1
  deriving DecidableEq, Repr

structure OperatorInfoViewV1 extends StructHeaderV1 where
  reserved0 : UInt64
  scheme : BytesViewV1
  root : BytesViewV1
  name : BytesViewV1
  capability : UInt64
  deriving DecidableEq, Repr

/-- The compiled-in texts of the library. -/
structure LibraryTexts where
  bindingVersion : String
  opendalVersion : String
  serviceProfile : String
  deriving DecidableEq, Repr

section Views

variable (output : Pointer StructHeaderV1)

/-- No input but the view. -/
def libraryInfo (texts : LibraryTexts) : Invocation :=
  view sizeOfLibraryInfoViewV1 output fun header =>
    publish [()] (fun _ => ({
      toStructHeaderV1 := header
      reserved0 := 0
      bindingVersion := stringView texts.bindingVersion
      opendalVersion := stringView texts.opendalVersion
      serviceProfile := stringView texts.serviceProfile } : LibraryInfoViewV1)) .ok

/-- What the views of a handle share: the view is made of the borrowed object. -/
def viewOf {T V : Type} (size : Nat) (object : Pointer T)
    (make : T → StructHeaderV1 → CallResult V) : Invocation :=
  view size output fun header =>
    orFinish (closure .quiet (Work.input (borrowRequired object))) fun object =>
      orFinish (closure .quiet (Work.check (make object header))) fun value =>
        publish [()] (fun _ => value) .ok

def errorView (error : Pointer ErrorV1) : Invocation :=
  viewOf output sizeOfErrorViewV1 error fun error header =>
    .ok ({
      toStructHeaderV1 := header
      kind := error.kind
      status := error.status
      kindName := stringView error.kindName
      message := stringView error.message } : ErrorViewV1)

def metadataView (metadata : Pointer Metadata) : Invocation :=
  viewOf output sizeOfMetadataViewV1 metadata metadataOutputView

def entryView (entry : Pointer EntryV1) : Invocation :=
  viewOf output sizeOfEntryViewV1 entry fun entry header =>
    .ok ({
      toStructHeaderV1 := header
      reserved0 := 0
      path := stringView entry.path
      name := stringView entry.name } : EntryViewV1)

def entryMetadataView (entry : Pointer EntryV1) : Invocation :=
  viewOf output sizeOfMetadataViewV1 entry fun entry header =>
    metadataOutputView entry.metadata header

def operatorInfoView (info : Pointer OperatorInfoV1) : Invocation :=
  viewOf output sizeOfOperatorInfoViewV1 info fun info header =>
    .ok ({
      toStructHeaderV1 := header
      reserved0 := 0
      scheme := stringView info.scheme
      root := stringView info.root
      name := stringView info.name
      capability := info.capability } : OperatorInfoViewV1)

/-- The count of the headers is a 64-bit number. -/
def presignedRequestView (request : Pointer PresignedRequestV1) : Invocation :=
  view sizeOfPresignedRequestViewV1 output fun header =>
    orFinish (closure .quiet (Work.input (borrowRequired request))) fun request =>
      if 2 ^ 64 ≤ request.headers.length then pure .panic
      else
        publish [()] (fun _ => ({
          toStructHeaderV1 := header
          reserved0 := 0
          method := stringView request.method
          uri := stringView request.uri
          headerCount := request.headers.length } : PresignedRequestViewV1)) .ok

def presignedRequestHeaderView (request : Pointer PresignedRequestV1) (index : Nat) : Invocation :=
  view sizeOfPresignedHeaderViewV1 output fun viewHeader =>
    orFinish (closure .quiet (Work.input (borrowRequired request))) fun request =>
      match request.headers[index]? with
      | none => pure .end
      | some header =>
        publish [()] (fun _ => ({
          toStructHeaderV1 := viewHeader
          reserved0 := 0
          name := stringView header.name
          value := bytesView header.value } : PresignedHeaderViewV1)) .ok

variable {output}

theorem atomic_view {V : Type} {size : Nat}
    {body : StructHeaderV1 → Step ViewFault (fun _ : Unit => V) Status}
    (h : ∀ (given : Frame ViewFault (fun _ : Unit => V) ErrorV1) (header : StructHeaderV1),
      given.Valid → Disciplined given (body header)) : (view size output body).Atomic := by
  apply Invocation.atomic_run
  intro hvalid
  cases output with
  | null => exact disciplined_pure (.inr (.inl rfl))
  | misaligned => exact disciplined_pure (.inr (.inl rfl))
  | valid header => exact h _ header hvalid

theorem atomic_libraryInfo (texts : LibraryTexts) : (libraryInfo output texts).Atomic := by
  apply atomic_view
  intro given header hvalid
  exact disciplined_publish_single hvalid _ (.inl rfl)

theorem atomic_viewOf {T V : Type} (size : Nat) (object : Pointer T)
    (make : T → StructHeaderV1 → CallResult V) : (viewOf output size object make).Atomic := by
  apply atomic_view
  intro given header hvalid
  apply Leaves.orFinish hvalid (leaves_closure .quiet _)
  intro object
  apply Leaves.orFinish hvalid (leaves_closure .quiet _)
  intro value
  exact disciplined_publish_single hvalid value (.inl rfl)

theorem atomic_presignedRequestView (request : Pointer PresignedRequestV1) :
    (presignedRequestView output request).Atomic := by
  apply atomic_view
  intro given header hvalid
  apply Leaves.orFinish hvalid (leaves_closure .quiet _)
  intro request
  split_ifs with hcount
  · exact disciplined_pure (.inr (.inr rfl))
  · exact disciplined_publish_single hvalid _ (.inl rfl)

theorem atomic_presignedRequestHeaderView (request : Pointer PresignedRequestV1) (index : Nat) :
    (presignedRequestHeaderView output request index).Atomic := by
  apply atomic_view
  intro given header hvalid
  apply Leaves.orFinish hvalid (leaves_closure .quiet _)
  intro request
  split
  · exact disciplined_pure (.inl rfl)
  · exact disciplined_publish_single hvalid _ (.inl rfl)

end Views

/-! ## Buffers -/

section Buffers

variable (buffer : Pointer (List UInt8)) (outRequired : Slot Misplaced Nat)

/-- A length that is no 64-bit number has no entry. -/
def bufferLength (bytes : List UInt8) : CallResult Nat :=
  if 2 ^ 64 ≤ bytes.length then .error .abiMismatch else .ok bytes.length

def bufferLen : Invocation :=
  .single outRequired (.invalid .null) <|
    orFinish (closure .quiet (Work.input (borrowRequired buffer))) fun bytes =>
      orFinish (closure .quiet (Work.check (bufferLength bytes))) fun length =>
        publish [()] (fun _ => length) .ok

/-- What a copy returns: the status, the length for `out_required`, and the bytes that are written
at the start of the destination. -/
structure CopyOutcome where
  status : Status
  required : Option Nat := none
  written : List UInt8 := []
  deriving DecidableEq, Repr

/-- The copy of a buffer; the destination is an address, unless it is null. -/
def copyOut (bytes : List UInt8) (destination : Option Nat) (capacity : UInt64) : CopyOutcome :=
  match bufferLength bytes with
  | .error _ => { status := .abiMismatch }
  | .ok required =>
    match destination with
    | none =>
      if capacity ≠ 0 then { status := .abiMismatch }
      else { status := if required = 0 then .ok else .bufferTooSmall, required := some required }
    | some address =>
      match checkedLen capacity.toNat with
      | .error _ => { status := .abiMismatch }
      | .ok capacity =>
        if 2 ^ 64 ≤ address + capacity then { status := .abiMismatch }
        else if capacity < required then { status := .bufferTooSmall, required := some required }
        else { status := .ok, required := some required, written := bytes }

/-- The status and the length go to the caller; the destination is no output. -/
def bufferCopy (destination : Option Nat) (capacity : UInt64) : Invocation :=
  .single outRequired (.invalid .null) <|
    orFinish (closure .quiet (Work.input (borrowRequired buffer))) fun bytes =>
      let copied := copyOut bytes destination capacity
      match copied.required with
      | some required => publish [()] (fun _ => required) copied.status
      | none => pure copied.status

/-- The length comes with `OK` and `BUFFER_TOO_SMALL`, and with no other status. -/
theorem copyOut_cases (bytes : List UInt8) (destination : Option Nat) (capacity : UInt64) :
    let copied := copyOut bytes destination capacity
    copied.required = none ∧ copied.status = .abiMismatch ∧ copied.written = [] ∨
      copied.required = some bytes.length ∧
        (copied.status = .bufferTooSmall ∧ copied.written = [] ∨
          copied.status = .ok ∧ copied.written = bytes) := by
  by_cases hsize : 2 ^ 64 ≤ bytes.length
  · have hlength : bufferLength bytes = .error .abiMismatch := if_pos hsize
    rw [copyOut, hlength]
    exact .inl ⟨rfl, rfl, rfl⟩
  · have hlength : bufferLength bytes = .ok bytes.length := if_neg hsize
    rw [copyOut, hlength]
    cases destination with
    | none =>
      dsimp only
      split_ifs with hcapacity hempty
      · exact .inl ⟨rfl, rfl, rfl⟩
      · exact .inr ⟨rfl, .inr ⟨rfl, (List.eq_nil_of_length_eq_zero hempty).symm⟩⟩
      · exact .inr ⟨rfl, .inl ⟨rfl, rfl⟩⟩
    | some address =>
      cases checkedLen capacity.toNat with
      | error failure => exact .inl ⟨rfl, rfl, rfl⟩
      | ok length =>
        dsimp only
        split_ifs with hwraps hsmall
        · exact .inl ⟨rfl, rfl, rfl⟩
        · exact .inr ⟨rfl, .inl ⟨rfl, rfl⟩⟩
        · exact .inr ⟨rfl, .inr ⟨rfl, rfl⟩⟩

theorem atomic_bufferLen : (bufferLen buffer outRequired).Atomic := by
  apply Invocation.atomic_run
  intro hvalid
  apply Leaves.orFinish hvalid (leaves_closure .quiet _)
  intro bytes
  apply Leaves.orFinish hvalid (leaves_closure .quiet _)
  intro length
  exact disciplined_publish_single hvalid length (.inl rfl)

theorem atomic_bufferCopy (destination : Option Nat) (capacity : UInt64) :
    (bufferCopy buffer outRequired destination capacity).Atomic := by
  apply Invocation.atomic_run
  intro hvalid
  apply Leaves.orFinish hvalid (leaves_closure .quiet _)
  intro bytes
  have hcases := copyOut_cases bytes destination capacity
  dsimp only at hcases ⊢
  rcases hcases with ⟨hrequired, hstatus, -⟩ | ⟨hrequired, ⟨hstatus, -⟩ | ⟨hstatus, -⟩⟩
  · rw [hrequired, hstatus]
    exact disciplined_pure (.inr (.inl rfl))
  · rw [hrequired, hstatus]
    exact disciplined_publish_single hvalid bytes.length (.inr rfl)
  · rw [hrequired, hstatus]
    exact disciplined_publish_single hvalid bytes.length (.inl rfl)

end Buffers

end OpendalMbt.Native.Entry
