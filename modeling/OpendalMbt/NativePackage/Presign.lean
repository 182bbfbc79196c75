import OpendalMbt.NativePackage.Error
import OpendalMbt.Stub.PresignOwnership

/-!
# Presigned requests of the native package

`src/presign.mbt`, and `error_from_native_result` of `src/native_ffi.mbt`. Everything is read
before it is decoded, and a native object is released before any text of it is decoded.

* `triple_takePresignedRequest`: nothing is owned when the call ends, whichever way it does;
* `presign_settled`: the same of a whole operation, with every answer of the library.
-/

namespace OpendalMbt.NativePackage

open Codec Native Stub Transition PresignWorld

structure PresignedHeader where
  name : String
  value : List UInt8
  deriving DecidableEq, Repr

structure PresignedRequest where
  httpMethod : String
  uri : String
  headers : List PresignedHeader
  deriving DecidableEq, Repr

/-! ## Decoding -/

/-- The loop over the names, from `index`; the lengths are the same by then. -/
def decodeHeaders (headerValues : List (List UInt8)) (subject : Subject) :
    List (List UInt8) → Nat → Except OpenDalError (List PresignedHeader)
  | [], _ => .ok []
  | nameBytes :: names, index => do
    let name ← decodeAbiText nameBytes subject
    let headers ← decodeHeaders headerValues subject names (index + 1)
    .ok ({ name, value := headerValues.getD index [] } :: headers)

def presignedRequestFromParts (methodBytes uriBytes : List UInt8)
    (headerNames headerValues : List (List UInt8)) (subject : Subject) :
    Except OpenDalError PresignedRequest :=
  if headerNames.length ≠ headerValues.length then
    .error (bindingError .abiMismatch "native ABI returned mismatched presigned header arrays"
      subject)
  else do
    let httpMethod ← decodeAbiText methodBytes subject
    let uri ← decodeAbiText uriBytes subject
    let headers ← decodeHeaders headerValues subject headerNames 0
    .ok { httpMethod, uri, headers }

/-! ## Reading -/

section Library

variable (lib : PresignLibrary)

def errorFromNativeResult (subject : Subject) : PresignCall OpenDalError OpenDalError := do
  let kindCode ← resultErrorKind lib
  let statusCode ← resultErrorStatus lib
  let kindNameBytes ← resultErrorKindName lib
  let messageBytes ← resultErrorMessage lib
  Call.modify (resultRelease lib)
  let kindName ← Call.lift (decodeAbiText kindNameBytes subject)
  let message ← Call.lift (decodeAbiText messageBytes subject)
  pure {
    subject with
    kind := nativeErrorKind kindCode kindName, status := nativeErrorStatus statusCode, message }

def maxPresignedHeaderCount : Nat := 2147483647

/-- The loop over the indices, with `remaining` headers to go from `index`. -/
def readHeaders : Nat → Nat → List (List UInt8) → List (List UInt8) →
    PresignCall OpenDalError (List (List UInt8) × List (List UInt8))
  | 0, _, headerNames, headerValues => pure (headerNames, headerValues)
  | remaining + 1, index, headerNames, headerValues => do
    let name ← presignedRequestHeaderName lib index
    let value ← presignedRequestHeaderValue lib index
    readHeaders remaining (index + 1) (headerNames ++ [name]) (headerValues ++ [value])

def presignedRequestFromNative (subject : Subject) : PresignCall OpenDalError PresignedRequest := do
  let methodBytes ← presignedRequestMethod lib
  let uri ← presignedRequestUri lib
  let count ← presignedRequestHeaderCount lib
  if count > maxPresignedHeaderCount then
    Call.modify (presignedRequestRelease lib)
    Call.throw (bindingError .abiMismatch
      "native presigned header count exceeds the MoonBit collection limit" subject)
  else
    let (headerNames, headerValues) ← readHeaders lib count 0 [] []
    Call.modify (presignedRequestRelease lib)
    Call.lift (presignedRequestFromParts methodBytes uri headerNames headerValues subject)

/-- `raise error_from_native_result(...)`. -/
def raiseNativeResult {α : Type} (subject : Subject) : PresignCall OpenDalError α := do
  let error ← errorFromNativeResult lib subject
  Call.throw error

def takePresignedRequest (subject : Subject) : PresignCall OpenDalError PresignedRequest := do
  let status ← resultStatus
  if status ≠ .ok then raiseNativeResult lib subject
  else
    resultTakePresignedRequest lib
    let status ← resultStatus
    if status ≠ .ok then raiseNativeResult lib subject
    else
      Call.modify (resultRelease lib)
      presignedRequestFromNative lib subject

end Library

/-! ## The operations -/

/-- What OpenDAL signs for each operation. -/
structure Signers (R : Type) where
  read : Sign (ReadOptions R)
  write : Sign Native.WriteOptions
  stat : Sign ReadConditions

/-- An operation with the arguments of its options. -/
inductive PresignOptions where
  | read (range : RangeScalars) (conditions : ConditionArguments)
  | write (arguments : WriteArguments)
  | stat (conditions : ConditionArguments)

def convertPath (malloc : Nat → Bool) (path : MoonString) : CallResult BytesViewV1 :=
  convertOptionalUtf8 malloc ⟨1, path⟩ "path"

section Operations

variable {R : Type} (api : BytesRangeApi R) (signers : Signers R) (malloc : Nat → Bool)

/-- The carriers that the stub prepares, and the entry of the library that it calls. -/
def presignReply (path : MoonString) (expiresInSeconds : UInt64) :
    PresignOptions → CallResult PresignReply
  | .read range conditions => do
    let path ← convertPath malloc path
    let options ← prepareReadOptions malloc range conditions
    .ok (operatorPresignRead api signers.read (.valid path) (.valid options) expiresInSeconds)
  | .write arguments => do
    let path ← convertPath malloc path
    let options ← prepareWriteOptions malloc arguments
    .ok (operatorPresignWrite signers.write (.valid path) (.valid options) expiresInSeconds)
  | .stat conditions => do
    let path ← convertPath malloc path
    let options ← prepareStatOptions malloc conditions
    .ok (operatorPresignStat signers.stat (.valid path) (.valid options) expiresInSeconds)

end Operations

def PresignOptions.operation : PresignOptions → Operation
  | .read _ _ => .read
  | .write _ => .write
  | .stat _ => .stat

/-- `Operator::presign_read`, `presign_write` and `presign_stat`, after their arguments. -/
def presign (lib : PresignLibrary) (operatorOpen : Bool) (expiresInSeconds : UInt64)
    (reply : CallResult PresignReply) (subject : Subject) :
    Except OpenDalError PresignedRequest × PresignWorld :=
  if expiresInSeconds = 0 then
    (.error (bindingError .invalidArgument "expires_in_seconds must be greater than zero" subject),
      early resultNew)
  else takePresignedRequest lib subject (operatorPresign lib operatorOpen reply)

/-! ## Released on every path -/

section Released

variable {lib : PresignLibrary} {w : PresignWorld}

/-- The state after a call that has thrown. -/
abbrev Thrown (_ : OpenDalError) (w : PresignWorld) : Prop := w.Settled

theorem Pending.look {α : Type} {x : PresignCall OpenDalError α} (hx : Looks x)
    {request : Option PresignedRequestV1} :
    Call.Triple (fun w => Pending lib w ∧ w.request = request) x
      (fun _ w => Pending lib w ∧ w.request = request) Thrown := by
  apply hx.triple
  intro w n h
  exact ⟨⟨h.1.accounted, h.1.library⟩, h.2⟩

theorem triple_errorFromNativeResult (subject : Subject) :
    Call.Triple (fun w => Pending lib w ∧ w.request = none) (errorFromNativeResult lib subject)
      (fun _ => Settled) Thrown := by
  unfold errorFromNativeResult
  apply Call.Triple.bind (Pending.look (looks_errorGetter lib _ _ _))
  intro kindCode
  apply Call.Triple.bind (Pending.look (looks_errorGetter lib _ _ _))
  intro statusCode
  apply Call.Triple.bind (Pending.look (looks_errorGetter lib _ _ _))
  intro kindNameBytes
  apply Call.Triple.bind (Pending.look (looks_errorGetter lib _ _ _))
  intro messageBytes
  have hrelease : Call.Triple (fun w => Pending lib w ∧ w.request = none)
      (Call.modify (resultRelease lib) : PresignCall OpenDalError Unit) (fun _ => Settled)
      Thrown := by
    apply Call.Triple.modify
    intro w ⟨h, hnone⟩
    obtain ⟨hpending, ⟨herror, hpresigned⟩, hkept⟩ := pending_resultRelease h
    exact ⟨hpending.accounted, herror, hpresigned, hkept.trans hnone⟩
  apply Call.Triple.bind hrelease
  intro _
  apply Call.Triple.bind (Call.Triple.lift (fun _ _ h => h) fun _ _ h => h)
  intro kindName
  apply Call.Triple.bind (Call.Triple.lift (fun _ _ h => h) fun _ _ h => h)
  intro message
  exact Call.Triple.pure fun _ h => h

theorem triple_raiseNativeResult {α : Type} (subject : Subject) {Q : α → PresignWorld → Prop} :
    Call.Triple (fun w => Pending lib w ∧ w.request = none) (raiseNativeResult lib subject)
      Q Thrown := by
  apply Call.Triple.bind (triple_errorFromNativeResult subject)
  intro error
  exact Call.Triple.throw fun _ h => h

/-- While a request is read, the result is already released. -/
structure Reading (lib : PresignLibrary) (w : PresignWorld) : Prop extends Pending lib w where
  released : w.Released

theorem Reading.look {α : Type} {x : PresignCall OpenDalError α} (hx : Looks x) :
    Call.Triple (Reading lib) x (fun _ => Reading lib) Thrown := by
  apply hx.triple
  intro w n h
  exact ⟨⟨h.accounted, h.library⟩, h.released⟩

theorem triple_presignedRequestRelease :
    Call.Triple (Reading lib)
      (Call.modify (presignedRequestRelease lib) : PresignCall OpenDalError Unit)
      (fun _ => Settled) Thrown :=
  Call.Triple.modify fun _ h => settled_presignedRequestRelease h.toPending h.released

theorem looks_readHeaders (remaining index : Nat) (headerNames headerValues : List (List UInt8)) :
    Looks (readHeaders lib remaining index headerNames headerValues) := by
  induction remaining generalizing index headerNames headerValues with
  | zero => exact looks_pure _
  | succ remaining ih =>
    apply Looks.bind (looks_presignedRequestHeaderName lib _)
    intro name
    apply Looks.bind (looks_presignedRequestHeaderValue lib _)
    intro value
    exact ih (index + 1) _ _

theorem triple_presignedRequestFromNative (subject : Subject) :
    Call.Triple (Reading lib) (presignedRequestFromNative lib subject) (fun _ => Settled)
      Thrown := by
  unfold presignedRequestFromNative
  apply Call.Triple.bind (Reading.look (looks_presignedRequestMethod lib))
  intro methodBytes
  apply Call.Triple.bind (Reading.look (looks_presignedRequestUri lib))
  intro uri
  apply Call.Triple.bind (Reading.look (looks_presignedRequestHeaderCount lib))
  intro count
  apply Call.Triple.ite
  · intro _
    apply Call.Triple.bind triple_presignedRequestRelease
    intro _
    exact Call.Triple.throw fun _ h => h
  · intro _
    apply Call.Triple.bind (Reading.look (looks_readHeaders count 0 [] []))
    intro headers
    apply Call.Triple.bind triple_presignedRequestRelease
    intro _
    exact Call.Triple.lift (fun _ _ h => h) fun _ _ h => h

theorem triple_resultRelease :
    Call.Triple (Pending lib) (Call.modify (resultRelease lib) : PresignCall OpenDalError Unit)
      (fun _ => Reading lib) Thrown := by
  apply Call.Triple.modify
  intro w h
  obtain ⟨hpending, hreleased, -⟩ := pending_resultRelease h
  exact ⟨hpending, hreleased⟩

/-- A call on a result that has not been taken from owns nothing when it ends. -/
theorem triple_takePresignedRequest (subject : Subject) :
    Call.Triple (fun w => Pending lib w ∧ w.request = none) (takePresignedRequest lib subject)
      (fun _ => Settled) Thrown := by
  unfold takePresignedRequest
  apply Call.Triple.bind (Pending.look looks_resultStatus)
  intro status
  apply Call.Triple.ite
  · intro _
    exact triple_raiseNativeResult subject
  · intro _
    apply Call.Triple.bind triple_resultTakePresignedRequest
    intro _
    have hstatus : Call.Triple (Taken lib) (resultStatus : PresignCall OpenDalError Status)
        (fun status w => Taken lib w ∧ w.result.status = status) Thrown := fun w h => ⟨h, rfl⟩
    apply Call.Triple.bind hstatus
    intro status
    apply Call.Triple.ite
    · intro hrefused
      apply Call.Triple.of_imp _ (triple_raiseNativeResult subject) fun _ _ h => h
      intro w ⟨htaken, heq⟩
      rw [← heq] at hrefused
      exact ⟨htaken.toPending, htaken.refused hrefused⟩
    · intro _
      apply Call.Triple.bind (Call.Triple.of_imp (fun w h => h.1.toPending) triple_resultRelease
        fun _ _ h => h)
      intro _
      exact triple_presignedRequestFromNative subject

theorem settled_early : (early resultNew).Settled where
  accounted := accounted_early rfl rfl
  error := rfl
  presignedRequest := rfl
  request := rfl

/-- Whatever the library answers, nothing is owned when an operation is over. -/
theorem presign_settled (lib : PresignLibrary) (operatorOpen : Bool) (expiresInSeconds : UInt64)
    (reply : CallResult PresignReply) (subject : Subject) :
    (presign lib operatorOpen expiresInSeconds reply subject).2.Settled := by
  unfold presign
  split_ifs with hexpiry
  · exact settled_early
  · have htake := triple_takePresignedRequest subject (operatorPresign lib operatorOpen reply)
      ⟨pending_operatorPresign lib operatorOpen reply, request_operatorPresign operatorOpen reply⟩
    cases hran : takePresignedRequest lib subject (operatorPresign lib operatorOpen reply) with
    | mk result w =>
      rw [hran] at htake
      cases result with
      | ok request => exact htake
      | error error => exact htake

end Released

end OpendalMbt.NativePackage
