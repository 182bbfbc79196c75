import Mathlib.Algebra.BigOperators.Group.List.Basic
import OpendalMbt.Native.Options

/-!
# Presigned requests on the native target

`checked_presigned_request`, the three `operator_presign_*` entries and the two views of
`native/rust/src/lib.rs`. What OpenDAL signs is a parameter of the entries: it answers with a
request or an error, or panics.

* `checkedPresignedRequest_eq`: the requests that are accepted, and what the others get;
* `operatorPresign_signed`: what the entries publish of a signed request.
-/

namespace OpendalMbt.Native

open Codec

/-- A request of OpenDAL, with its header map in the order in which it iterates. -/
structure PresignedRequest where
  method : String
  uri : String
  header : List (String × List UInt8)
  deriving DecidableEq, Repr

structure PresignedHeaderV1 where
  name : String
  value : List UInt8
  deriving DecidableEq, Repr

structure PresignedRequestV1 where
  method : String
  uri : String
  headers : List PresignedHeaderV1
  deriving DecidableEq, Repr

/-! ## The snapshot -/

/-- `usize::checked_add`. -/
def checkedAdd (a b : Nat) : Option Nat := if a + b < 2 ^ 64 then some (a + b) else none

def presignTooLarge : CallFailure :=
  bufferTooLarge "presigned request exceeds the binding output limit"

/-- The loop over the header map. -/
def snapshotHeaders (totalLen : Nat) (headers : List PresignedHeaderV1) :
    List (String × List UInt8) → CallResult (Nat × List PresignedHeaderV1)
  | [] => .ok (totalLen, headers)
  | (name, value) :: rest =>
    match (checkedAdd totalLen name.utf8ByteSize).bind (checkedAdd · value.length) with
    | none => .error presignTooLarge
    | some totalLen => snapshotHeaders totalLen (headers ++ [{ name, value }]) rest

def checkedPresignedRequest (request : PresignedRequest) : CallResult PresignedRequestV1 :=
  match checkedAdd request.method.utf8ByteSize request.uri.utf8ByteSize with
  | none => .error presignTooLarge
  | some totalLen =>
    match snapshotHeaders totalLen [] request.header with
    | .error failure => .error failure
    | .ok (totalLen, headers) =>
      if totalLen > maxOutputBytes ∨ headers.length > maxOutputBytes then .error presignTooLarge
      else .ok { method := request.method, uri := request.uri, headers }

/-- The bytes of a list of headers. -/
def headersSize (headers : List (String × List UInt8)) : Nat :=
  (headers.map fun header => header.1.utf8ByteSize + header.2.length).sum

def PresignedRequest.size (request : PresignedRequest) : Nat :=
  request.method.utf8ByteSize + request.uri.utf8ByteSize + headersSize request.header

/-- The size and the number of headers are both limited. -/
def PresignedRequest.Within (request : PresignedRequest) : Prop :=
  request.size ≤ maxOutputBytes ∧ request.header.length ≤ maxOutputBytes

instance (request : PresignedRequest) : Decidable request.Within :=
  inferInstanceAs (Decidable (_ ∧ _))

def PresignedRequest.snapshot (request : PresignedRequest) : PresignedRequestV1 where
  method := request.method
  uri := request.uri
  headers := request.header.map fun header => { name := header.1, value := header.2 }

theorem snapshotHeaders_eq {totalLen : Nat} (headers : List PresignedHeaderV1)
    (rest : List (String × List UInt8)) (h : totalLen < 2 ^ 64) :
    snapshotHeaders totalLen headers rest =
      if totalLen + headersSize rest < 2 ^ 64 then
        .ok (totalLen + headersSize rest,
          headers ++ rest.map fun header => { name := header.1, value := header.2 })
      else .error presignTooLarge := by
  induction rest generalizing totalLen headers with
  | nil =>
    rw [if_pos (by simpa [headersSize] using h)]
    simp [snapshotHeaders, headersSize]
  | cons header rest ih =>
    obtain ⟨name, value⟩ := header
    have hsize : headersSize ((name, value) :: rest) =
        name.utf8ByteSize + value.length + headersSize rest := by
      rw [headersSize, List.map_cons, List.sum_cons]
      rfl
    rw [snapshotHeaders, hsize]
    by_cases hname : totalLen + name.utf8ByteSize + value.length < 2 ^ 64
    · have hadd : (checkedAdd totalLen name.utf8ByteSize).bind (checkedAdd · value.length) =
          some (totalLen + name.utf8ByteSize + value.length) := by
        rw [checkedAdd, if_pos (by omega), Option.bind_some, checkedAdd, if_pos hname]
      have hsum : totalLen + name.utf8ByteSize + value.length + headersSize rest =
          totalLen + (name.utf8ByteSize + value.length + headersSize rest) := by omega
      rw [hadd]
      dsimp only
      rw [ih _ hname, hsum, List.map_cons, List.append_assoc, List.singleton_append]
    · have hadd : (checkedAdd totalLen name.utf8ByteSize).bind (checkedAdd · value.length) =
          none := by
        unfold checkedAdd
        split_ifs with hfits
        · rw [Option.bind_some, if_neg hname]
        · rfl
      rw [hadd, if_neg (by omega)]

/-- Which requests are accepted, and the one failure of the others. -/
theorem checkedPresignedRequest_eq (request : PresignedRequest) :
    checkedPresignedRequest request =
      if request.Within then .ok request.snapshot else .error presignTooLarge := by
  have hsize : request.size = request.method.utf8ByteSize + request.uri.utf8ByteSize +
    headersSize request.header := rfl
  unfold checkedPresignedRequest checkedAdd
  by_cases htotal : request.size < 2 ^ 64
  · rw [if_pos (by omega)]
    dsimp only
    rw [snapshotHeaders_eq [] request.header (by omega), ← hsize, if_pos htotal]
    dsimp only
    rw [List.nil_append, List.length_map]
    by_cases hwithin : request.Within
    · have hfits : ¬ (request.size > maxOutputBytes ∨ request.header.length > maxOutputBytes) := by
        have hbytes := hwithin.1
        have hcount := hwithin.2
        omega
      rw [if_neg hfits, if_pos hwithin]
      rfl
    · have hlarge : request.size > maxOutputBytes ∨ request.header.length > maxOutputBytes := by
        by_contra hfits
        apply hwithin
        constructor
        · omega
        · omega
      rw [if_pos hlarge, if_neg hwithin]
  · have hwithin : ¬ request.Within := by
      intro h
      have hbytes := h.1
      unfold maxOutputBytes at hbytes
      omega
    rw [if_neg hwithin]
    split_ifs with hstart
    · dsimp only
      rw [snapshotHeaders_eq [] request.header hstart, ← hsize, if_neg htotal]
    · rfl

/-! ## The entries -/

def readText (pointer : Pointer BytesViewV1) (label : String) : CallResult String :=
  match pointer with
  | .null | .misaligned => .error .abiMismatch
  | .valid view => readTextValue view label

/-- The seconds of the duration. -/
def presignExpiry (seconds : UInt64) : CallResult UInt64 :=
  if seconds = 0 then
    .error (invalidArgument "presign expires_in_seconds must be greater than zero")
  else .ok seconds

/-- The status, and what the two outputs own. -/
structure PresignReply where
  status : Status
  request : Option PresignedRequestV1
  error : Option ErrorV1
  deriving DecidableEq, Repr

def PresignReply.refused (failure : CallFailure) : PresignReply where
  status := (finishFailure failure).1
  request := none
  error := (finishFailure failure).2

def PresignReply.panicked : PresignReply where
  status := .panic
  request := none
  error := none

/-- What OpenDAL signs; `none` is a panic. -/
abbrev Sign (O : Type) : Type :=
  String → UInt64 → O → Option (Except ErrorV1 PresignedRequest)

/-- What the three entries share. The options are parsed after the path. -/
def operatorPresign {O : Type} (sign : Sign O) (path : Pointer BytesViewV1)
    (options : CallResult O) (expiresInSeconds : UInt64) : PresignReply :=
  let signed : CallResult (Option (Except ErrorV1 PresignedRequest)) := do
    let path ← readText path "path"
    let options ← options
    let expiry ← presignExpiry expiresInSeconds
    .ok (sign path expiry options)
  match signed with
  | .error failure => .refused failure
  | .ok none => .panicked
  | .ok (some (.error error)) => .refused (.error error)
  | .ok (some (.ok request)) =>
    match checkedPresignedRequest request with
    | .error failure => .refused failure
    | .ok request => { status := .ok, request := some request, error := none }

def operatorPresignRead {R : Type} (api : BytesRangeApi R) (sign : Sign (ReadOptions R))
    (path : Pointer BytesViewV1) (options : Pointer ReadOptionsV1) (expiresInSeconds : UInt64) :
    PresignReply :=
  operatorPresign sign path (parseReadOptions api options) expiresInSeconds

def operatorPresignWrite (sign : Sign WriteOptions) (path : Pointer BytesViewV1)
    (options : Pointer WriteOptionsV1) (expiresInSeconds : UInt64) : PresignReply :=
  operatorPresign sign path (parseWriteOptions options) expiresInSeconds

def operatorPresignStat (sign : Sign ReadConditions) (path : Pointer BytesViewV1)
    (options : Pointer StatOptionsV1) (expiresInSeconds : UInt64) : PresignReply :=
  operatorPresign sign path (parseStatOptions options) expiresInSeconds

section Signed

variable {O : Type} {sign : Sign O} {path : Pointer BytesViewV1} {options : CallResult O}
  {expiresInSeconds : UInt64} {text : String} {parsed : O}

/-- The request that OpenDAL returns is published when it is within the limits. -/
theorem operatorPresign_signed {request : PresignedRequest} (hpath : readText path "path" = .ok text)
    (hoptions : options = .ok parsed) (hexpiry : expiresInSeconds ≠ 0)
    (hsign : sign text expiresInSeconds parsed = some (.ok request)) :
    operatorPresign sign path options expiresInSeconds =
      if request.Within then { status := .ok, request := some request.snapshot, error := none }
      else .refused presignTooLarge := by
  have hseconds : presignExpiry expiresInSeconds = .ok expiresInSeconds := if_neg hexpiry
  unfold operatorPresign
  rw [CallResult.bind_of_ok hpath, CallResult.bind_of_ok hoptions, CallResult.bind_of_ok hseconds,
    hsign]
  dsimp only
  rw [checkedPresignedRequest_eq]
  split_ifs with hwithin
  · rfl
  · rfl

end Signed

/-! ## The views -/

structure PresignedRequestViewV1 extends StructHeaderV1 where
  reserved0 : UInt64
  method : BytesViewV1
  uri : BytesViewV1
  headerCount : Nat
  deriving DecidableEq, Repr

structure PresignedHeaderViewV1 extends StructHeaderV1 where
  reserved0 : UInt64
  name : BytesViewV1
  value : BytesViewV1
  deriving DecidableEq, Repr

def sizeOfPresignedRequestViewV1 : Nat := 56
def sizeOfPresignedHeaderViewV1 : Nat := 48

/-- The header of the caller, when its view is large enough. -/
def prepareView (size : Nat) (header : StructHeaderV1) : CallResult StructHeaderV1 :=
  if header.structVersion ≠ STRUCT_VERSION ∨ header.structSize.toNat < size then
    .error .abiMismatch
  else .ok header

/-- The status, or the view that is written with status `OK`. -/
def presignedRequestView (request : PresignedRequestV1) (output : StructHeaderV1) :
    Except Status PresignedRequestViewV1 :=
  match prepareView sizeOfPresignedRequestViewV1 output with
  | .error failure => .error (finishFailure failure).1
  | .ok header => .ok {
      toStructHeaderV1 := header
      reserved0 := 0
      method := stringView request.method
      uri := stringView request.uri
      headerCount := request.headers.length }

def presignedRequestHeaderView (request : PresignedRequestV1) (index : Nat)
    (output : StructHeaderV1) : Except Status PresignedHeaderViewV1 :=
  match prepareView sizeOfPresignedHeaderViewV1 output with
  | .error failure => .error (finishFailure failure).1
  | .ok viewHeader =>
    match request.headers[index]? with
    | none => .error .end
    | some header => .ok {
        toStructHeaderV1 := viewHeader
        reserved0 := 0
        name := stringView header.name
        value := bytesView header.value }

theorem prepareView_complete {size : Nat} {header : StructHeaderV1} (h : header.Complete size) :
    prepareView size header = .ok header := by
  apply if_neg
  simp only [not_or, ne_eq, not_not, not_lt]
  exact h

end OpendalMbt.Native
