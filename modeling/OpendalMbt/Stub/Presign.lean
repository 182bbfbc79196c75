import OpendalMbt.Native.ApiTable
import OpendalMbt.Native.Presign
import OpendalMbt.Stub.Metadata
import OpendalMbt.Stub.Options
import OpendalMbt.Transition.Ledger

/-!
# Presigned requests in the C stub

The result object, the request object and their functions in `src/opendal_stub.c`. The library is
a parameter, and its views may answer differently from call to call. One call of
`operator_presign_*` makes at most one request and one error.

* `balanced_operatorPresign`: what a new result owns;
* `triple_resultTake`, `triple_release`, `triple_resultRelease`: how ownership moves.
-/

namespace OpendalMbt.Stub

open Codec Native Transition

/-! ## The library -/

/-- What `load_api` has found, with the answers of `API_HAS`. -/
structure LoadedApi where
  maxOutputBytes : UInt64
  featureBits : UInt64
  has : ApiField → Bool

structure ErrorViewV1 where
  kind : UInt32
  status : UInt32
  kindName : BytesViewV1
  message : BytesViewV1
  deriving DecidableEq, Repr

/-- `api` is what `load_api` returns; a view is there when its status is `OK`. -/
structure PresignLibrary where
  api : Except Status LoadedApi
  requestView : Nat → PresignedRequestV1 → StructHeaderV1 → Option PresignedRequestViewV1
  headerView : Nat → PresignedRequestV1 → Nat → StructHeaderV1 → Option PresignedHeaderViewV1
  errorView : Nat → ErrorV1 → Option ErrorViewV1

def OPENDAL_MBT_FEATURE_PRESIGN : UInt64 := 0x100

namespace PresignLibrary

variable (lib : PresignLibrary)

def loadPresignApi : Except Status LoadedApi :=
  match lib.api with
  | .error status => .error status
  | .ok api =>
    if api.maxOutputBytes = 0 ∨ api.featureBits &&& OPENDAL_MBT_FEATURE_PRESIGN = 0 ∨
        !api.has .operatorPresignRead ∨ !api.has .operatorPresignWrite ∨
        !api.has .operatorPresignStat ∨ !api.has .presignedRequestView ∨
        !api.has .presignedRequestHeaderView ∨ !api.has .presignedRequestFree then
      .error .abiMismatch
    else .ok api

/-- `load_presign_api(&api) == OPENDAL_MBT_STATUS_OK`. -/
def presignLoaded : Bool := lib.loadPresignApi.isOk

/-- `load_api(&api, false) == OPENDAL_MBT_STATUS_OK`. -/
def loaded : Bool := lib.api.isOk

/-- The condition under which a result frees its request. -/
def canFreeRequest : Bool :=
  match lib.api with
  | .error _ => false
  | .ok api =>
    api.featureBits &&& OPENDAL_MBT_FEATURE_PRESIGN != 0 && api.has .presignedRequestFree

variable {lib}

theorem loaded_of_presignLoaded (h : lib.presignLoaded = true) : lib.loaded = true := by
  unfold presignLoaded loadPresignApi at h
  unfold loaded
  cases hapi : lib.api with
  | error status =>
    rw [hapi] at h
    cases h
  | ok api => rfl

theorem canFreeRequest_of_presignLoaded (h : lib.presignLoaded = true) :
    lib.canFreeRequest = true := by
  unfold presignLoaded loadPresignApi at h
  unfold canFreeRequest
  cases hapi : lib.api with
  | error status =>
    rw [hapi] at h
    cases h
  | ok api =>
    rw [hapi] at h
    dsimp only at h ⊢
    split_ifs at h with hrefused
    · cases h
    · simp only [not_or, Bool.not_eq_true', Bool.not_eq_false] at hrefused
      simp [hrefused]

end PresignLibrary

/-! ## Objects -/

inductive PresignHandle where
  | request | error
  deriving DecidableEq, Repr

/-- The fields of `moonbit_opendal_result_t` that a presign operation uses. -/
structure PresignResult where
  status : Status
  localError : Option ErrorV1
  error : Option ErrorV1
  presignedRequest : Option PresignedRequestV1
  deriving DecidableEq, Repr

/-- The result, the request object, the number of views so far and the objects of the library. -/
structure PresignWorld where
  result : PresignResult
  request : Option PresignedRequestV1
  viewed : Nat
  ledger : Ledger PresignHandle

def resultNew : PresignResult where
  status := .abiMismatch
  localError := none
  error := none
  presignedRequest := none

abbrev PresignCall (ε : Type) : Type → Type := Call PresignWorld ε

namespace PresignWorld

variable (lib : PresignLibrary) {ε : Type}

/-- Every view is a call of its own. -/
def ask {V : Type} (answer : Nat → V) : PresignCall ε V := fun w =>
  (.ok (answer w.viewed), { w with viewed := w.viewed + 1 })

def setStatus (status : Status) : PresignCall ε Unit :=
  Call.modify fun w => { w with result := { w.result with status } }

/-! ### The entries -/

/-- `result` when an entry has not called the library. -/
def early (result : PresignResult) : PresignWorld where
  result
  request := none
  viewed := 0
  ledger := {}

/-- The objects that a reply hands over. -/
def replied (reply : PresignReply) : Ledger PresignHandle where
  created := (reply.error.elim [] fun _ => [.error]) ++ reply.request.elim [] fun _ => [.request]

/-- What the three entries share; `reply` prepares the carriers and calls the library. -/
def operatorPresign (operatorOpen : Bool) (reply : CallResult PresignReply) : PresignWorld :=
  match lib.loadPresignApi with
  | .error status => early { resultNew with status }
  | .ok _ =>
    if !operatorOpen then
      early { resultNew with
        status := .error
        localError := some {
          kind := ERROR_RESOURCE_CLOSED, status := ERROR_STATUS_PERMANENT,
          kindName := "ResourceClosed", message := "operator is closed" } }
    else
      match reply with
      | .error .abiMismatch => early { resultNew with status := .abiMismatch }
      | .error (.error error) => early { resultNew with status := .error, localError := some error }
      | .ok reply =>
        let status :=
          if reply.status = .ok then
            if reply.request.isNone ∨ reply.error.isSome then .abiMismatch else .ok
          else if reply.request.isSome then .abiMismatch
          else reply.status
        { result := {
            status, localError := none, error := reply.error, presignedRequest := reply.request }
          request := none
          viewed := 0
          ledger := replied reply }

/-! ### Views -/

def fillPresignedRequestView : PresignCall ε (Option PresignedRequestViewV1) := fun w =>
  match w.request with
  | none => (.ok none, w)
  | some request =>
    if !lib.presignLoaded then (.ok none, w)
    else
      ask (fun n => lib.requestView n request (structHeader sizeOfPresignedRequestViewV1)) w

def fillPresignedHeaderView (index : Nat) : PresignCall ε (Option PresignedHeaderViewV1) :=
  fun w =>
    match w.request with
    | none => (.ok none, w)
    | some request =>
      if !lib.presignLoaded then (.ok none, w)
      else
        ask (fun n => lib.headerView n request index (structHeader sizeOfPresignedHeaderViewV1)) w

/-- The conditions on the header view, after its status. -/
def validHeaderView (view : PresignedHeaderViewV1) : Bool :=
  !(decide (view.reserved0 ≠ 0 ∨ view.name.len > INT32_MAX ∨ view.value.len > INT32_MAX) ||
    !validUtf8View view.name || decide (view.value.len ≠ 0 ∧ view.value.data.isNone))

def validRequestView (view : PresignedRequestViewV1) : Bool :=
  !(decide (view.reserved0 ≠ 0 ∨ view.method.len > INT32_MAX ∨ view.uri.len > INT32_MAX ∨
      view.headerCount > INT32_MAX) ||
    !validUtf8View view.method || !validUtf8View view.uri)

/-- The loop of the validation, with `remaining` headers to go from `index`. -/
def validateHeaders (request : PresignedRequestV1) : Nat → Nat → PresignCall ε Bool
  | 0, _ => pure true
  | remaining + 1, index => do
    let view ← ask fun n =>
      lib.headerView n request index (structHeader sizeOfPresignedHeaderViewV1)
    if view.any validHeaderView then validateHeaders request remaining (index + 1)
    else pure false

def validatePresignedRequestSnapshot (request : PresignedRequestV1) : PresignCall ε Bool := do
  if !lib.presignLoaded then pure false
  else
    let view ← ask fun n => lib.requestView n request (structHeader sizeOfPresignedRequestViewV1)
    match view with
    | none => pure false
    | some view =>
      if !validRequestView view then pure false
      else validateHeaders lib request view.headerCount 0

/-! ### Ownership -/

def resultTakePresignedRequest : PresignCall ε Unit := fun w =>
  match w.result.presignedRequest with
  | none => setStatus .abiMismatch w
  | some request =>
    if w.result.status ≠ .ok then setStatus .abiMismatch w
    else
      (do
        let valid ← validatePresignedRequestSnapshot lib request
        if !valid then setStatus .abiMismatch
        else
          Call.modify fun w => {
            w with request := some request, result := { w.result with presignedRequest := none } }) w

/-- Free the pointer of the request object once, and clear it. -/
def freeRequest (w : PresignWorld) : PresignWorld :=
  match w.request with
  | none => w
  | some _ =>
    if lib.presignLoaded then { w with request := none, ledger := w.ledger.retire .request } else w

def presignedRequestRelease : PresignWorld → PresignWorld := freeRequest lib

def presignedRequestFinalize : PresignWorld → PresignWorld := freeRequest lib

def freeResultError (w : PresignWorld) : PresignWorld :=
  match w.result.error with
  | none => w
  | some _ => { w with result := { w.result with error := none }, ledger := w.ledger.retire .error }

def freeResultRequest (w : PresignWorld) : PresignWorld :=
  match w.result.presignedRequest with
  | none => w
  | some _ =>
    if lib.canFreeRequest then {
      w with
      result := { w.result with presignedRequest := none }, ledger := w.ledger.retire .request }
    else w

def releaseResultPayload (w : PresignWorld) : PresignWorld :=
  if !lib.loaded then w else freeResultRequest lib (freeResultError w)

def resultRelease : PresignWorld → PresignWorld := releaseResultPayload lib

def resultFinalize : PresignWorld → PresignWorld := releaseResultPayload lib

/-! ### Getters -/

def presignedRequestMethod : PresignCall ε (List UInt8) := do
  let view ← fillPresignedRequestView lib
  pure (view.elim [] fun view => copyBytes view.method)

def presignedRequestUri : PresignCall ε (List UInt8) := do
  let view ← fillPresignedRequestView lib
  pure (view.elim [] fun view => copyBytes view.uri)

def presignedRequestHeaderCount : PresignCall ε Nat := do
  let view ← fillPresignedRequestView lib
  pure (view.elim 0 (·.headerCount))

def presignedRequestHeaderName (index : Int) : PresignCall ε (List UInt8) := do
  if index < 0 then pure []
  else
    let view ← fillPresignedHeaderView lib index.toNat
    pure (view.elim [] fun view => copyBytes view.name)

def presignedRequestHeaderValue (index : Int) : PresignCall ε (List UInt8) := do
  if index < 0 then pure []
  else
    let view ← fillPresignedHeaderView lib index.toNat
    pure (view.elim [] fun view => copyBytes view.value)

def resultStatus : PresignCall ε Status := fun w => (.ok w.result.status, w)

def fillErrorView : PresignCall ε (Option ErrorViewV1) := fun w =>
  match w.result.error with
  | none => (.ok none, w)
  | some error => if !lib.loaded then (.ok none, w) else ask (fun n => lib.errorView n error) w

/-- What a getter takes from the error of the library, or else from the status. -/
def libraryError {α : Type} (ofView : ErrorViewV1 → α) (ofStatus : Status → α) :
    PresignCall ε α := do
  let view ← fillErrorView lib
  let status ← resultStatus
  pure (view.elim (ofStatus status) ofView)

/-- A local error comes first. -/
def errorGetter {α : Type} (ofLocal : ErrorV1 → α) (ofView : ErrorViewV1 → α)
    (ofStatus : Status → α) : PresignCall ε α := fun w =>
  match w.result.localError with
  | some error => (.ok (ofLocal error), w)
  | none => libraryError lib ofView ofStatus w

def ERROR_ABI_MISMATCH : UInt32 := 0x1004

def resultErrorKind : PresignCall ε UInt32 :=
  errorGetter lib (·.kind) (·.kind) fun status =>
    if status = .abiMismatch then ERROR_ABI_MISMATCH else ERROR_UNEXPECTED

def resultErrorStatus : PresignCall ε UInt32 :=
  errorGetter lib (·.status) (·.status) fun _ => ERROR_STATUS_PERMANENT

def resultErrorKindName : PresignCall ε (List UInt8) :=
  errorGetter lib (fun error => utf8Bytes error.kindName) (fun view => copyBytes view.kindName)
    fun status =>
      if status = .abiMismatch then utf8Bytes "AbiMismatch" else utf8Bytes "Unexpected"

def resultErrorMessage : PresignCall ε (List UInt8) :=
  errorGetter lib (fun error => utf8Bytes error.message) (fun view => copyBytes view.message)
    fun status =>
      if status = .panic then utf8Bytes "native OpenDAL bridge panicked"
      else if status = .abiMismatch then utf8Bytes "native OpenDAL ABI mismatch"
      else utf8Bytes "native OpenDAL bridge failed without error detail"

/-! ## Looking changes nothing -/

section Looks

variable {α β : Type}

/-- A call that returns, and has changed nothing but the number of views. -/
def Looks (x : PresignCall ε α) : Prop := ∀ w, ∃ a n, x w = (.ok a, { w with viewed := n })

theorem looks_ask (answer : Nat → α) : Looks (ask answer : PresignCall ε α) :=
  fun w => ⟨answer w.viewed, w.viewed + 1, rfl⟩

theorem looks_pure (a : α) : Looks (pure a : PresignCall ε α) := fun w => ⟨a, w.viewed, rfl⟩

theorem Looks.bind {x : PresignCall ε α} {f : α → PresignCall ε β} (hx : Looks x)
    (hf : ∀ a, Looks (f a)) : Looks (x >>= f) := by
  intro w
  obtain ⟨a, n, ha⟩ := hx w
  obtain ⟨b, m, hb⟩ := hf a { w with viewed := n }
  refine ⟨b, m, ?_⟩
  rw [Call.bind_apply_ok ha, hb]

/-- In each state the call is one that only looks. -/
theorem Looks.of_forall {x : PresignCall ε α} (h : ∀ w, ∃ y, Looks y ∧ x w = y w) : Looks x := by
  intro w
  obtain ⟨y, hy, hxy⟩ := h w
  rw [hxy]
  exact hy w

/-- What does not depend on the number of views still holds. -/
theorem Looks.triple {x : PresignCall ε α} (hx : Looks x) {P : PresignWorld → Prop}
    {E : ε → PresignWorld → Prop} (hP : ∀ w n, P w → P { w with viewed := n }) :
    Call.Triple P x (fun _ => P) E := by
  intro w hw
  obtain ⟨a, n, ha⟩ := hx w
  rw [ha]
  exact hP w n hw

theorem looks_fillPresignedRequestView :
    Looks (fillPresignedRequestView lib : PresignCall ε _) := by
  apply Looks.of_forall
  intro w
  unfold fillPresignedRequestView
  cases w.request with
  | none => exact ⟨pure none, looks_pure none, rfl⟩
  | some request =>
    dsimp only
    split_ifs
    · exact ⟨pure none, looks_pure none, rfl⟩
    · exact ⟨_, looks_ask _, rfl⟩

theorem looks_fillPresignedHeaderView (index : Nat) :
    Looks (fillPresignedHeaderView lib index : PresignCall ε _) := by
  apply Looks.of_forall
  intro w
  unfold fillPresignedHeaderView
  cases w.request with
  | none => exact ⟨pure none, looks_pure none, rfl⟩
  | some request =>
    dsimp only
    split_ifs
    · exact ⟨pure none, looks_pure none, rfl⟩
    · exact ⟨_, looks_ask _, rfl⟩

theorem looks_presignedRequestMethod :
    Looks (presignedRequestMethod lib : PresignCall ε _) :=
  Looks.bind (looks_fillPresignedRequestView lib) fun _ => looks_pure _

theorem looks_presignedRequestUri :
    Looks (presignedRequestUri lib : PresignCall ε _) :=
  Looks.bind (looks_fillPresignedRequestView lib) fun _ => looks_pure _

theorem looks_presignedRequestHeaderCount :
    Looks (presignedRequestHeaderCount lib : PresignCall ε _) :=
  Looks.bind (looks_fillPresignedRequestView lib) fun _ => looks_pure _

theorem looks_presignedRequestHeaderName (index : Int) :
    Looks (presignedRequestHeaderName lib index : PresignCall ε _) := by
  unfold presignedRequestHeaderName
  split_ifs
  · exact looks_pure _
  · exact Looks.bind (looks_fillPresignedHeaderView lib _) fun _ => looks_pure _

theorem looks_presignedRequestHeaderValue (index : Int) :
    Looks (presignedRequestHeaderValue lib index : PresignCall ε _) := by
  unfold presignedRequestHeaderValue
  split_ifs
  · exact looks_pure _
  · exact Looks.bind (looks_fillPresignedHeaderView lib _) fun _ => looks_pure _

theorem looks_resultStatus : Looks (resultStatus : PresignCall ε _) :=
  fun w => ⟨_, w.viewed, rfl⟩

theorem looks_fillErrorView : Looks (fillErrorView lib : PresignCall ε _) := by
  apply Looks.of_forall
  intro w
  unfold fillErrorView
  cases w.result.error with
  | none => exact ⟨pure none, looks_pure none, rfl⟩
  | some error =>
    dsimp only
    split_ifs
    · exact ⟨pure none, looks_pure none, rfl⟩
    · exact ⟨_, looks_ask _, rfl⟩

theorem looks_libraryError (ofView : ErrorViewV1 → α) (ofStatus : Status → α) :
    Looks (libraryError lib ofView ofStatus : PresignCall ε _) := by
  apply Looks.bind (looks_fillErrorView lib)
  intro view
  apply Looks.bind looks_resultStatus
  intro status
  exact looks_pure _

theorem looks_errorGetter (ofLocal : ErrorV1 → α) (ofView : ErrorViewV1 → α)
    (ofStatus : Status → α) :
    Looks (errorGetter lib ofLocal ofView ofStatus : PresignCall ε _) := by
  apply Looks.of_forall
  intro w
  unfold errorGetter
  cases w.result.localError with
  | some error => exact ⟨pure (ofLocal error), looks_pure _, rfl⟩
  | none => exact ⟨_, looks_libraryError lib ofView ofStatus, rfl⟩

theorem looks_validateHeaders (request : PresignedRequestV1) (remaining index : Nat) :
    Looks (validateHeaders lib request remaining index : PresignCall ε _) := by
  induction remaining generalizing index with
  | zero => exact looks_pure true
  | succ remaining ih =>
    apply Looks.bind (looks_ask _)
    intro view
    split_ifs
    · exact ih (index + 1)
    · exact looks_pure false

theorem looks_validatePresignedRequestSnapshot (request : PresignedRequestV1) :
    Looks (validatePresignedRequestSnapshot lib request : PresignCall ε _) := by
  unfold validatePresignedRequestSnapshot
  split_ifs
  · exact looks_pure false
  · apply Looks.bind (looks_ask _)
    intro view
    cases view with
    | none => exact looks_pure false
    | some view =>
      dsimp only
      split_ifs
      · exact looks_pure false
      · exact looks_validateHeaders lib request _ 0

end Looks

end PresignWorld

end OpendalMbt.Stub
