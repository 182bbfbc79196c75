import Mathlib.Algebra.Order.BigOperators.Group.List
import Mathlib.Algebra.Order.Group.Nat
import OpendalMbt.NativePackage.Presign
import OpendalMbt.Stub.OptionRoundTrip

/-!
# Presigned requests, there and back

The library of `native/rust/src/lib.rs` under the stub and the native package.

* `answers_validate`: the stub accepts every snapshot within the limits;
* `answers_readHeaders`: the index loop reads the list of headers;
* `takePresignedRequest_published`, `takePresignedRequest_failed`: what an operation returns;
* `presign_contract`: requests come out as they went in, or are refused, and are released once.
-/

namespace OpendalMbt.NativePackage

open Codec Native Stub Transition PresignWorld

/-! ## The native library -/

/-- `opendal_mbt_get_api` and the views, which are the same at every call. -/
def nativeLibrary (build : Build) : PresignLibrary where
  api := .ok {
    maxOutputBytes := UInt64.ofNat maxOutputBytes
    featureBits := UInt64.ofNat (featureBits build)
    has := fun field => stageApi build (fun _ => 1) field != 0 }
  requestView := fun _ request output => (presignedRequestView request output).toOption
  headerView := fun _ request index output =>
    (presignedRequestHeaderView request index output).toOption
  errorView := fun _ error => some {
    kind := error.kind
    status := error.status
    kindName := stringView error.kindName
    message := stringView error.message }

theorem presignLoaded_nativeLibrary (build : Build) :
    (nativeLibrary build).presignLoaded = true := by
  obtain ⟨b₁, b₂, b₃, b₄⟩ := build
  revert b₁ b₂ b₃ b₄
  decide

/-- What fits into the fields of the views and into a list of MoonBit. -/
structure Fits (request : PresignedRequestV1) : Prop where
  method : request.method.utf8ByteSize ≤ INT32_MAX
  uri : request.uri.utf8ByteSize ≤ INT32_MAX
  count : request.headers.length ≤ INT32_MAX
  headers : ∀ header ∈ request.headers,
    header.name.utf8ByteSize ≤ INT32_MAX ∧ header.value.length ≤ INT32_MAX

theorem size_header_le {headers : List (String × List UInt8)} {header : String × List UInt8}
    (h : header ∈ headers) : header.1.utf8ByteSize + header.2.length ≤ headersSize headers := by
  apply List.single_le_sum
  · intro size _
    exact Nat.zero_le size
  · exact List.mem_map.mpr ⟨header, h, rfl⟩

theorem fits_snapshot {request : Native.PresignedRequest} (h : request.Within) :
    Fits request.snapshot := by
  obtain ⟨hsize, hcount⟩ := h
  unfold Native.PresignedRequest.size at hsize
  unfold maxOutputBytes at hsize hcount
  refine ⟨?_, ?_, ?_, ?_⟩
  · change request.method.utf8ByteSize ≤ INT32_MAX
    unfold INT32_MAX
    omega
  · change request.uri.utf8ByteSize ≤ INT32_MAX
    unfold INT32_MAX
    omega
  · change (request.header.map _).length ≤ INT32_MAX
    rw [List.length_map]
    exact hcount
  · intro header hheader
    obtain ⟨item, hitem, rfl⟩ := List.mem_map.mp hheader
    have hitem := size_header_le hitem
    change item.1.utf8ByteSize ≤ INT32_MAX ∧ item.2.length ≤ INT32_MAX
    unfold INT32_MAX
    omega

/-! ## Answers of the library -/

def requestViewOf (request : PresignedRequestV1) : PresignedRequestViewV1 where
  toStructHeaderV1 := structHeader sizeOfPresignedRequestViewV1
  reserved0 := 0
  method := stringView request.method
  uri := stringView request.uri
  headerCount := request.headers.length

def headerViewOf (header : PresignedHeaderV1) : PresignedHeaderViewV1 where
  toStructHeaderV1 := structHeader sizeOfPresignedHeaderViewV1
  reserved0 := 0
  name := stringView header.name
  value := bytesView header.value

section Answers

variable {build : Build} {ε α β : Type} {request : PresignedRequestV1}

theorem requestView_nativeLibrary (n : Nat) (request : PresignedRequestV1) :
    (nativeLibrary build).requestView n request (structHeader sizeOfPresignedRequestViewV1) =
      some (requestViewOf request) := by
  have hheader : (structHeader sizeOfPresignedRequestViewV1).Complete
      sizeOfPresignedRequestViewV1 := structHeader_complete (by decide)
  unfold nativeLibrary
  dsimp only
  rw [presignedRequestView, prepareView_complete hheader]
  rfl

/-- A header by its index. -/
theorem headerView_nativeLibrary (n : Nat) {index : Nat} {header : PresignedHeaderV1}
    (h : request.headers[index]? = some header) :
    (nativeLibrary build).headerView n request index (structHeader sizeOfPresignedHeaderViewV1) =
      some (headerViewOf header) := by
  have hheader : (structHeader sizeOfPresignedHeaderViewV1).Complete
      sizeOfPresignedHeaderViewV1 := structHeader_complete (by decide)
  unfold nativeLibrary
  dsimp only
  rw [presignedRequestHeaderView, prepareView_complete hheader]
  dsimp only
  rw [h]
  rfl

/-- The call returns `a` and only looks, while the object holds `pointer`. -/
def Answers (pointer : Option PresignedRequestV1) (x : PresignCall ε α) (a : α) : Prop :=
  ∀ w, w.request = pointer → ∃ n, x w = (.ok a, { w with viewed := n })

variable {pointer : Option PresignedRequestV1}

theorem answers_pure (a : α) : Answers pointer (pure a : PresignCall ε α) a :=
  fun w _ => ⟨w.viewed, rfl⟩

theorem answers_ask {answer : Nat → α} {a : α} (h : ∀ n, answer n = a) :
    Answers pointer (PresignWorld.ask answer : PresignCall ε α) a := by
  intro w _
  refine ⟨w.viewed + 1, ?_⟩
  rw [← h w.viewed]
  rfl

theorem Answers.bind {x : PresignCall ε α} {f : α → PresignCall ε β} {a : α} {b : β}
    (hx : Answers pointer x a) (hf : Answers pointer (f a) b) : Answers pointer (x >>= f) b := by
  intro w hw
  obtain ⟨n, ha⟩ := hx w hw
  obtain ⟨m, hb⟩ := hf { w with viewed := n } hw
  refine ⟨m, ?_⟩
  rw [Call.bind_apply_ok ha, hb]

/-! ### The validation -/

theorem validHeaderView_headerViewOf (hfits : Fits request) {header : PresignedHeaderV1}
    (h : header ∈ request.headers) : validHeaderView (headerViewOf header) = true := by
  obtain ⟨hname, hvalue⟩ := hfits.headers header h
  have hlengths : ¬ ((headerViewOf header).reserved0 ≠ 0 ∨
      (headerViewOf header).name.len > INT32_MAX ∨ (headerViewOf header).value.len > INT32_MAX) := by
    simp only [headerViewOf, stringView_len, bytesView_len, ne_eq, not_true_eq_false, false_or]
    omega
  have htext : validUtf8View (headerViewOf header).name = true :=
    validUtf8View_stringView header.name
  have hreadable : ¬ ((headerViewOf header).value.len ≠ 0 ∧
      (headerViewOf header).value.data.isNone) := readable_bytesView header.value
  rw [validHeaderView, decide_eq_false hlengths, decide_eq_false hreadable, htext]
  rfl

theorem validRequestView_requestViewOf (hfits : Fits request) :
    validRequestView (requestViewOf request) = true := by
  have hlengths : ¬ ((requestViewOf request).reserved0 ≠ 0 ∨
      (requestViewOf request).method.len > INT32_MAX ∨
      (requestViewOf request).uri.len > INT32_MAX ∨
      (requestViewOf request).headerCount > INT32_MAX) := by
    have hmethod := hfits.method
    have huri := hfits.uri
    have hcount := hfits.count
    simp only [requestViewOf, stringView_len, ne_eq, not_true_eq_false, false_or]
    omega
  have hmethod : validUtf8View (requestViewOf request).method = true :=
    validUtf8View_stringView request.method
  have huri : validUtf8View (requestViewOf request).uri = true :=
    validUtf8View_stringView request.uri
  rw [validRequestView, decide_eq_false hlengths, hmethod, huri]
  rfl

theorem answers_validateHeaders (hfits : Fits request) (remaining index : Nat)
    (h : index + remaining = request.headers.length) :
    Answers pointer (validateHeaders (nativeLibrary build) request remaining index :
      PresignCall ε Bool) true := by
  induction remaining generalizing index with
  | zero => exact answers_pure true
  | succ remaining ih =>
    have hindex : index < request.headers.length := by omega
    have hget : request.headers[index]? = some request.headers[index] :=
      List.getElem?_eq_getElem hindex
    have hvalid := validHeaderView_headerViewOf hfits (List.getElem_mem hindex)
    apply Answers.bind (answers_ask fun n => headerView_nativeLibrary n hget)
    rw [Option.any_some, if_pos hvalid]
    apply ih
    omega

/-- The stub accepts every snapshot that fits. -/
theorem answers_validate (hfits : Fits request) :
    Answers pointer (validatePresignedRequestSnapshot (nativeLibrary build) request :
      PresignCall ε Bool) true := by
  unfold validatePresignedRequestSnapshot
  rw [presignLoaded_nativeLibrary, Bool.not_true, if_neg Bool.false_ne_true]
  apply Answers.bind (answers_ask fun n => requestView_nativeLibrary n request)
  dsimp only
  rw [validRequestView_requestViewOf hfits, Bool.not_true, if_neg Bool.false_ne_true]
  apply answers_validateHeaders hfits
  exact Nat.zero_add _

/-! ### The getters -/

theorem answers_fillPresignedRequestView :
    Answers (some request) (fillPresignedRequestView (nativeLibrary build) : PresignCall ε _)
      (some (requestViewOf request)) := by
  intro w hw
  have hask : Answers (some request) (PresignWorld.ask fun n => (nativeLibrary build).requestView n request
      (structHeader sizeOfPresignedRequestViewV1) : PresignCall ε _)
      (some (requestViewOf request)) := answers_ask fun n => requestView_nativeLibrary n request
  obtain ⟨n, hanswer⟩ := hask w hw
  refine ⟨n, ?_⟩
  rw [← hanswer]
  unfold fillPresignedRequestView
  rw [hw]
  dsimp only
  rw [presignLoaded_nativeLibrary, Bool.not_true, if_neg Bool.false_ne_true]

theorem answers_fillPresignedHeaderView {index : Nat} {header : PresignedHeaderV1}
    (h : request.headers[index]? = some header) :
    Answers (some request) (fillPresignedHeaderView (nativeLibrary build) index : PresignCall ε _)
      (some (headerViewOf header)) := by
  intro w hw
  have hask : Answers (some request) (PresignWorld.ask fun n => (nativeLibrary build).headerView n request index
      (structHeader sizeOfPresignedHeaderViewV1) : PresignCall ε _)
      (some (headerViewOf header)) := answers_ask fun n => headerView_nativeLibrary n h
  obtain ⟨n, hanswer⟩ := hask w hw
  refine ⟨n, ?_⟩
  rw [← hanswer]
  unfold fillPresignedHeaderView
  rw [hw]
  dsimp only
  rw [presignLoaded_nativeLibrary, Bool.not_true, if_neg Bool.false_ne_true]

theorem copyBytes_stringView {text : String} (h : text.utf8ByteSize ≤ INT32_MAX) :
    copyBytes (stringView text) = utf8Bytes text := by
  apply copyBytes_bytesView
  rw [length_utf8Bytes]
  exact h

theorem answers_method (hfits : Fits request) :
    Answers (some request) (presignedRequestMethod (nativeLibrary build) : PresignCall ε _)
      (utf8Bytes request.method) := by
  apply Answers.bind answers_fillPresignedRequestView
  rw [← copyBytes_stringView hfits.method]
  exact answers_pure _

theorem answers_uri (hfits : Fits request) :
    Answers (some request) (presignedRequestUri (nativeLibrary build) : PresignCall ε _)
      (utf8Bytes request.uri) := by
  apply Answers.bind answers_fillPresignedRequestView
  rw [← copyBytes_stringView hfits.uri]
  exact answers_pure _

theorem answers_headerCount :
    Answers (some request) (presignedRequestHeaderCount (nativeLibrary build) : PresignCall ε _)
      request.headers.length :=
  Answers.bind answers_fillPresignedRequestView (answers_pure _)

theorem answers_headerName {index : Nat} {header : PresignedHeaderV1}
    (h : request.headers[index]? = some header) (hname : header.name.utf8ByteSize ≤ INT32_MAX) :
    Answers (some request)
      (presignedRequestHeaderName (nativeLibrary build) index : PresignCall ε _)
      (utf8Bytes header.name) := by
  unfold presignedRequestHeaderName
  rw [if_neg (by omega)]
  apply Answers.bind (answers_fillPresignedHeaderView h)
  rw [← copyBytes_stringView hname]
  exact answers_pure _

theorem answers_headerValue {index : Nat} {header : PresignedHeaderV1}
    (h : request.headers[index]? = some header) (hvalue : header.value.length ≤ INT32_MAX) :
    Answers (some request)
      (presignedRequestHeaderValue (nativeLibrary build) index : PresignCall ε _)
      header.value := by
  unfold presignedRequestHeaderValue
  rw [if_neg (by omega)]
  apply Answers.bind (answers_fillPresignedHeaderView h)
  have hcopy : copyBytes (bytesView header.value) = header.value := copyBytes_bytesView hvalue
  rw [← hcopy]
  exact answers_pure _

def nameBytes (headers : List PresignedHeaderV1) : List (List UInt8) :=
  headers.map fun header => utf8Bytes header.name

def valueBytes (headers : List PresignedHeaderV1) : List (List UInt8) := headers.map (·.value)

/-- The loop reads the headers that are still to come. -/
theorem answers_readHeaders (hfits : Fits request) (remaining index : Nat)
    (headerNames headerValues : List (List UInt8))
    (h : index + remaining = request.headers.length) :
    Answers (some request)
      (readHeaders (nativeLibrary build) remaining index headerNames headerValues)
      (headerNames ++ nameBytes (request.headers.drop index),
        headerValues ++ valueBytes (request.headers.drop index)) := by
  induction remaining generalizing index headerNames headerValues with
  | zero =>
    have hdone : request.headers.drop index = [] := List.drop_eq_nil_of_le (by omega)
    rw [hdone]
    simp only [nameBytes, valueBytes, List.map_nil, List.append_nil]
    exact answers_pure _
  | succ remaining ih =>
    have hindex : index < request.headers.length := by omega
    have hget : request.headers[index]? = some request.headers[index] :=
      List.getElem?_eq_getElem hindex
    obtain ⟨hname, hvalue⟩ := hfits.headers _ (List.getElem_mem hindex)
    unfold readHeaders
    apply Answers.bind (answers_headerName hget hname)
    apply Answers.bind (answers_headerValue hget hvalue)
    have hrest := ih (index + 1) (headerNames ++ [utf8Bytes request.headers[index].name])
      (headerValues ++ [request.headers[index].value]) (by omega)
    rw [List.append_assoc, List.append_assoc] at hrest
    rw [List.drop_eq_getElem_cons hindex]
    exact hrest

end Answers

/-! ## Decoding -/

/-- The same request: the same headers in the same order. -/
def PresignedRequest.ofRequest (request : Native.PresignedRequest) : PresignedRequest where
  httpMethod := request.method
  uri := request.uri
  headers := request.header.map fun header => { name := header.1, value := header.2 }

def moonHeaders (headers : List PresignedHeaderV1) : List PresignedHeader :=
  headers.map fun header => { name := header.name, value := header.value }

theorem decodeHeaders_eq (subject : Subject) (all rest : List PresignedHeaderV1) (index : Nat)
    (h : all.drop index = rest) :
    decodeHeaders (valueBytes all) subject (nameBytes rest) index = .ok (moonHeaders rest) := by
  induction rest generalizing index with
  | nil => rfl
  | cons header rest ih =>
    have hget : all[index]? = some header := by
      rw [← List.head?_drop, h]
      rfl
    have hvalue : (valueBytes all).getD index [] = header.value := by
      rw [List.getD_eq_getElem?_getD, valueBytes, List.getElem?_map, hget]
      rfl
    have hrest : all.drop (index + 1) = rest := by
      rw [← List.tail_drop, h]
      rfl
    unfold nameBytes at ih ⊢
    rw [List.map_cons, decodeHeaders, decodeAbiText_utf8Bytes, ih (index + 1) hrest, hvalue]
    rfl

theorem presignedRequestFromParts_eq (request : Native.PresignedRequest) (subject : Subject) :
    presignedRequestFromParts (utf8Bytes request.method) (utf8Bytes request.uri)
      (nameBytes request.snapshot.headers) (valueBytes request.snapshot.headers) subject =
      .ok (.ofRequest request) := by
  have hlengths : ¬ (nameBytes request.snapshot.headers).length ≠
      (valueBytes request.snapshot.headers).length := by
    rw [nameBytes, valueBytes, List.length_map, List.length_map]
    exact not_not.mpr rfl
  have hheaders := decodeHeaders_eq subject request.snapshot.headers request.snapshot.headers 0 rfl
  unfold presignedRequestFromParts
  rw [if_neg hlengths, decodeAbiText_utf8Bytes, decodeAbiText_utf8Bytes, hheaders]
  unfold PresignedRequest.ofRequest moonHeaders Native.PresignedRequest.snapshot
  rw [List.map_map]
  rfl

/-! ## The operations -/

section Operations

variable {build : Build} {subject : Subject}

/-- While the object holds a request, it is read as it was. -/
theorem presignedRequestFromNative_eq {request : Native.PresignedRequest} (h : request.Within)
    {w : PresignWorld} (hw : w.request = some request.snapshot) :
    (presignedRequestFromNative (nativeLibrary build) subject w).1 = .ok (.ofRequest request) := by
  have hfits := fits_snapshot h
  have hcount : ¬ request.snapshot.headers.length > maxPresignedHeaderCount :=
    Nat.not_lt.mpr hfits.count
  obtain ⟨n₁, hmethod⟩ := answers_method hfits w hw
  obtain ⟨n₂, huri⟩ := answers_uri hfits { w with viewed := n₁ } hw
  obtain ⟨n₃, hheaderCount⟩ := answers_headerCount { w with viewed := n₂ } hw
  obtain ⟨n₄, hheaders⟩ := answers_readHeaders hfits request.snapshot.headers.length 0 [] []
    (Nat.zero_add _) { w with viewed := n₃ } hw
  unfold presignedRequestFromNative
  rw [Call.bind_apply_ok hmethod, Call.bind_apply_ok huri, Call.bind_apply_ok hheaderCount,
    if_neg hcount, Call.bind_apply_ok hheaders]
  exact presignedRequestFromParts_eq request subject

/-- The world after an entry that has published a request. -/
def published (request : PresignedRequestV1) : PresignWorld where
  result := { status := .ok, localError := none, error := none, presignedRequest := some request }
  request := none
  viewed := 0
  ledger := { created := [.request] }

/-- The world after a take. -/
def taken (request : PresignedRequestV1) (n : Nat) : PresignWorld where
  result := { status := .ok, localError := none, error := none, presignedRequest := none }
  request := some request
  viewed := n
  ledger := { created := [.request] }

/-- The world after an entry that has failed with an error, and after `n` views of it. -/
def failed (error : ErrorV1) (n : Nat) : PresignWorld where
  result := { status := .error, localError := none, error := some error, presignedRequest := none }
  request := none
  viewed := n
  ledger := { created := [.error] }

theorem loadPresignApi_nativeLibrary (build : Build) :
    ∃ api, (nativeLibrary build).loadPresignApi = .ok api := by
  have hloaded := presignLoaded_nativeLibrary build
  unfold PresignLibrary.presignLoaded at hloaded
  cases hload : (nativeLibrary build).loadPresignApi with
  | error status =>
    rw [hload] at hloaded
    cases hloaded
  | ok api => exact ⟨api, rfl⟩

theorem operatorPresign_published (request : PresignedRequestV1) :
    operatorPresign (nativeLibrary build) true
      (.ok { status := .ok, request := some request, error := none }) = published request := by
  obtain ⟨api, hload⟩ := loadPresignApi_nativeLibrary build
  unfold PresignWorld.operatorPresign
  rw [hload]
  rfl

theorem operatorPresign_failed (error : ErrorV1) :
    operatorPresign (nativeLibrary build) true (.ok (.refused (.error error))) =
      failed error 0 := by
  obtain ⟨api, hload⟩ := loadPresignApi_nativeLibrary build
  unfold PresignWorld.operatorPresign
  rw [hload]
  rfl

theorem resultTakePresignedRequest_published {ε : Type} {request : PresignedRequestV1}
    (hfits : Fits request) :
    ∃ n, (resultTakePresignedRequest (nativeLibrary build) : PresignCall ε Unit)
      (published request) = (.ok (), taken request n) := by
  have hvalid : Answers none (validatePresignedRequestSnapshot (nativeLibrary build) request :
      PresignCall ε Bool) true := answers_validate hfits
  obtain ⟨n, hvalid⟩ := hvalid (published request) rfl
  refine ⟨n, ?_⟩
  unfold resultTakePresignedRequest published at *
  dsimp only
  rw [if_neg (not_not.mpr rfl), Call.bind_apply_ok hvalid]
  rfl

theorem takePresignedRequest_published {request : Native.PresignedRequest} (h : request.Within) :
    (takePresignedRequest (nativeLibrary build) subject (published request.snapshot)).1 =
      .ok (.ofRequest request) := by
  have hstatus : (resultStatus : PresignCall OpenDalError Status) (published request.snapshot) =
      (.ok .ok, published request.snapshot) := rfl
  obtain ⟨n, htake⟩ := resultTakePresignedRequest_published (ε := OpenDalError) (fits_snapshot h)
  have hstatus' : (resultStatus : PresignCall OpenDalError Status) (taken request.snapshot n) =
      (.ok .ok, taken request.snapshot n) := rfl
  have hrelease : (Call.modify (resultRelease (nativeLibrary build)) :
      PresignCall OpenDalError Unit) (taken request.snapshot n) =
      (.ok (), taken request.snapshot n) := by
    rw [Call.modify_apply, resultRelease_released ⟨rfl, rfl⟩]
  unfold takePresignedRequest
  rw [Call.bind_apply_ok hstatus, if_neg (not_not.mpr rfl), Call.bind_apply_ok htake,
    Call.bind_apply_ok hstatus', if_neg (not_not.mpr rfl), Call.bind_apply_ok hrelease]
  exact presignedRequestFromNative_eq h rfl

/-- The error of the library as MoonBit raises it. -/
def nativeError (error : ErrorV1) (subject : Subject) : OpenDalError :=
  { subject with
    kind := nativeErrorKind error.kind error.kindName
    status := nativeErrorStatus error.status
    message := error.message }

theorem errorGetter_failed {ε α : Type} {error : ErrorV1} (ofLocal : ErrorV1 → α)
    (ofView : ErrorViewV1 → α) (ofStatus : Status → α) {w : PresignWorld}
    (hlocal : w.result.localError = none) (herror : w.result.error = some error) :
    (errorGetter (nativeLibrary build) ofLocal ofView ofStatus : PresignCall ε α) w =
      (.ok (ofView {
        kind := error.kind, status := error.status, kindName := stringView error.kindName
        message := stringView error.message }), { w with viewed := w.viewed + 1 }) := by
  have hloaded := PresignLibrary.loaded_of_presignLoaded (presignLoaded_nativeLibrary build)
  have hfill : (fillErrorView (nativeLibrary build) : PresignCall ε _) w =
      (.ok (some {
        kind := error.kind, status := error.status, kindName := stringView error.kindName
        message := stringView error.message }), { w with viewed := w.viewed + 1 }) := by
    unfold fillErrorView
    rw [herror]
    dsimp only
    rw [hloaded, Bool.not_true, if_neg Bool.false_ne_true]
    rfl
  unfold errorGetter
  rw [hlocal]
  dsimp only
  unfold libraryError
  rw [Call.bind_apply_ok hfill]
  rfl

/-- Every getter reads the error of the library. -/
theorem errorFromNativeResult_failed {error : ErrorV1}
    (hkindName : error.kindName.utf8ByteSize ≤ INT32_MAX)
    (hmessage : error.message.utf8ByteSize ≤ INT32_MAX) :
    errorFromNativeResult (nativeLibrary build) subject (failed error 0) =
      (.ok (nativeError error subject), resultRelease (nativeLibrary build) (failed error 4)) := by
  have hget : ∀ {α : Type} (ofLocal : ErrorV1 → α) (ofView : ErrorViewV1 → α)
      (ofStatus : Status → α) (n : Nat),
      (errorGetter (nativeLibrary build) ofLocal ofView ofStatus : PresignCall OpenDalError α)
        (failed error n) =
      (.ok (ofView {
        kind := error.kind, status := error.status, kindName := stringView error.kindName
        message := stringView error.message }), failed error (n + 1)) := by
    intro α ofLocal ofView ofStatus n
    exact errorGetter_failed ofLocal ofView ofStatus rfl rfl
  unfold errorFromNativeResult resultErrorKind resultErrorStatus resultErrorKindName
    resultErrorMessage
  rw [Call.bind_apply_ok (hget _ _ _ 0), Call.bind_apply_ok (hget _ _ _ 1),
    Call.bind_apply_ok (hget _ _ _ 2), Call.bind_apply_ok (hget _ _ _ 3),
    Call.bind_apply_ok (Call.modify_apply _ _), copyBytes_stringView hkindName,
    copyBytes_stringView hmessage, decodeAbiText_utf8Bytes, decodeAbiText_utf8Bytes]
  rfl

theorem takePresignedRequest_failed {error : ErrorV1}
    (hkindName : error.kindName.utf8ByteSize ≤ INT32_MAX)
    (hmessage : error.message.utf8ByteSize ≤ INT32_MAX) :
    takePresignedRequest (nativeLibrary build) subject (failed error 0) =
      (.error (nativeError error subject), resultRelease (nativeLibrary build) (failed error 4)) := by
  have hstatus : (resultStatus : PresignCall OpenDalError Status) (failed error 0) =
      (.ok .error, failed error 0) := rfl
  have hread : errorFromNativeResult (nativeLibrary build) subject (failed error 0) = _ :=
    errorFromNativeResult_failed hkindName hmessage
  unfold takePresignedRequest
  rw [Call.bind_apply_ok hstatus, if_pos (by decide)]
  unfold raiseNativeResult
  rw [Call.bind_apply_ok hread]
  rfl

/-- A release makes nothing. -/
theorem created_resultRelease (lib : PresignLibrary) (w : PresignWorld) :
    (resultRelease lib w).ledger.created = w.ledger.created := by
  have herror : (freeResultError w).ledger.created = w.ledger.created := by
    unfold freeResultError
    cases w.result.error <;> rfl
  have hrequest : ∀ w' : PresignWorld,
      (freeResultRequest lib w').ledger.created = w'.ledger.created := by
    intro w'
    unfold freeResultRequest
    cases w'.result.presignedRequest with
    | none => rfl
    | some request =>
      dsimp only
      split_ifs <;> rfl
  unfold resultRelease releaseResultPayload
  split_ifs
  · rfl
  · rw [hrequest, herror]

end Operations

/-! ## From the arguments on -/

/-- The values of the options that MoonBit is called with. -/
inductive PresignValues where
  | read (range : ByteRange) (t : ConditionTexts)
  | write (append : Bool) (t : WriteTexts)
  | stat (t : ConditionTexts)

namespace PresignValues

def options : PresignValues → PresignOptions
  | read range t => .read range.encode t.arguments
  | write append t => .write (t.arguments append)
  | stat t => .stat t.arguments

def subject (path : Text) (values : PresignValues) : Subject where
  operation := values.options.operation
  path := some path.text

/-- A range must end within 64 bits. -/
def Fits : PresignValues → Prop
  | read range _ => range.Fits
  | _ => True

/-- What OpenDAL is asked to sign. -/
def sign {R : Type} (api : BytesRangeApi R) (signers : Signers R) (path : String)
    (expiresInSeconds : UInt64) : PresignValues → Option (Except ErrorV1 Native.PresignedRequest)
  | read range t =>
    signers.read path expiresInSeconds { t.conditions with range := range.meaning api }
  | write append t => signers.write path expiresInSeconds (t.options append)
  | stat t => signers.stat path expiresInSeconds t.conditions

end PresignValues

section Arguments

variable {R : Type} {api : BytesRangeApi R} {signers : Signers R} {malloc : Nat → Bool}
  {expiresInSeconds : UInt64} {request : Native.PresignedRequest}

theorem convertPath_eq (hmemory : ∀ n, malloc n = true) (path : Text) :
    convertPath malloc path.toMoonString = .ok (stringView path.text) :=
  convertOptionalUtf8_argument hmemory (some path) "path"

theorem readText_path (path : Text) :
    readText (.valid (stringView path.text)) "path" = .ok path.text :=
  readTextValue_stringView "path" (utf8ByteSize_text_le path.formed)

/-- The reply of an entry to which OpenDAL has returned a request. -/
def signedReply (request : Native.PresignedRequest) : PresignReply :=
  if request.Within then { status := .ok, request := some request.snapshot, error := none }
  else .refused presignTooLarge

theorem presignReply_signed (hmemory : ∀ n, malloc n = true) (path : Text)
    (values : PresignValues) (hfits : values.Fits) (hexpiry : expiresInSeconds ≠ 0)
    (hsign : values.sign api signers path.text expiresInSeconds = some (.ok request)) :
    presignReply api signers malloc path.toMoonString expiresInSeconds values.options =
      .ok (signedReply request) := by
  have hpath := convertPath_eq hmemory path
  have htext := readText_path path
  cases values with
  | read range t =>
    obtain ⟨carrier, hcarrier, hparse⟩ :=
      CallResult.bind_eq_ok.mp (read_roundTrip api hmemory t "read" hfits)
    change prepareReadOptions malloc range.encode t.arguments = .ok carrier at hcarrier
    unfold presignReply PresignValues.options
    dsimp only
    rw [CallResult.bind_of_ok hpath, CallResult.bind_of_ok hcarrier]
    exact congrArg Except.ok (operatorPresign_signed htext hparse hexpiry hsign)
  | write append t =>
    obtain ⟨carrier, hcarrier, hparse⟩ :=
      CallResult.bind_eq_ok.mp (write_roundTrip hmemory t append)
    unfold presignReply PresignValues.options
    dsimp only
    rw [CallResult.bind_of_ok hpath, CallResult.bind_of_ok hcarrier]
    exact congrArg Except.ok (operatorPresign_signed htext hparse hexpiry hsign)
  | stat t =>
    obtain ⟨carrier, hcarrier, hparse⟩ := CallResult.bind_eq_ok.mp (stat_roundTrip hmemory t)
    unfold presignReply PresignValues.options
    dsimp only
    rw [CallResult.bind_of_ok hpath, CallResult.bind_of_ok hcarrier]
    exact congrArg Except.ok (operatorPresign_signed htext hparse hexpiry hsign)

end Arguments

/-! ## The contract -/

/-- Whatever was made has been freed once, and the finalizers find nothing left. -/
structure ReleasedOnce (lib : PresignLibrary) (w : PresignWorld) : Prop where
  once : ∀ handle ∈ w.ledger.created, w.ledger.gone.count handle = 1
  only : ∀ handle ∈ w.ledger.gone, handle ∈ w.ledger.created
  result : resultFinalize lib w = w
  request : presignedRequestFinalize lib w = w

theorem releasedOnce_presign (lib : PresignLibrary) (operatorOpen : Bool)
    (expiresInSeconds : UInt64) (reply : CallResult PresignReply) (subject : Subject) :
    ReleasedOnce lib (presign lib operatorOpen expiresInSeconds reply subject).2 := by
  have hsettled := presign_settled lib operatorOpen expiresInSeconds reply subject
  obtain ⟨honce, honly⟩ := hsettled.balanced.settled
  obtain ⟨hresult, hrequest⟩ := finalize_settled hsettled
  exact ⟨honce, honly, hresult, hrequest⟩

/-- The error of a request above the limit. -/
def tooLarge (subject : Subject) : OpenDalError :=
  bindingError .bufferTooLarge "presigned request exceeds the binding output limit" subject

def tooLargeError : ErrorV1 where
  kind := ERROR_BUFFER_TOO_LARGE
  status := ERROR_STATUS_PERMANENT
  kindName := "BufferTooLarge"
  message := "presigned request exceeds the binding output limit"

theorem presignTooLarge_eq : presignTooLarge = .error tooLargeError := by
  unfold presignTooLarge bufferTooLarge Native.bindingError
  rw [if_neg (by decide)]
  rfl

theorem presign_signedReply {build : Build} {expiresInSeconds : UInt64} {subject : Subject}
    (request : Native.PresignedRequest) (hexpiry : expiresInSeconds ≠ 0) :
    (presign (nativeLibrary build) true expiresInSeconds (.ok (signedReply request)) subject).1 =
      if request.Within then .ok (.ofRequest request) else .error (tooLarge subject) := by
  unfold presign signedReply
  rw [if_neg hexpiry]
  split_ifs with hwithin
  · rw [operatorPresign_published]
    exact takePresignedRequest_published hwithin
  · rw [presignTooLarge_eq, operatorPresign_failed,
      takePresignedRequest_failed (by decide) (by decide)]
    rfl

/-- A refused request is never made. -/
theorem not_created_signedReply {build : Build} {expiresInSeconds : UInt64} {subject : Subject}
    {request : Native.PresignedRequest} (hexpiry : expiresInSeconds ≠ 0)
    (h : ¬ request.Within) :
    .request ∉ (presign (nativeLibrary build) true expiresInSeconds (.ok (signedReply request))
      subject).2.ledger.created := by
  unfold presign signedReply
  rw [if_neg hexpiry, if_neg h, presignTooLarge_eq, operatorPresign_failed,
    takePresignedRequest_failed (by decide) (by decide), created_resultRelease]
  decide

/-- An operation for which OpenDAL has signed `request`, from the arguments to the value. -/
structure PresignContract (build : Build) (request : Native.PresignedRequest) : Prop where
  accepted : request.Within → checkedPresignedRequest request = .ok request.snapshot
  refused : ¬ request.Within → checkedPresignedRequest request = .error presignTooLarge
  valid : request.Within → ∀ w : PresignWorld, ∃ n,
    (validatePresignedRequestSnapshot (nativeLibrary build) request.snapshot :
      PresignCall OpenDalError Bool) w = (.ok true, { w with viewed := n })
  operation : ∀ {R : Type} (api : BytesRangeApi R) (signers : Signers R) (malloc : Nat → Bool)
    (path : Text) (expiresInSeconds : UInt64) (values : PresignValues),
    (∀ n, malloc n = true) → values.Fits → expiresInSeconds ≠ 0 →
    values.sign api signers path.text expiresInSeconds = some (.ok request) →
    let reply := presignReply api signers malloc path.toMoonString expiresInSeconds values.options
    let outcome := presign (nativeLibrary build) true expiresInSeconds reply (values.subject path)
    (request.Within → outcome.1 = .ok (.ofRequest request)) ∧
    (¬ request.Within →
      outcome.1 = .error (tooLarge (values.subject path)) ∧
      reply.map (·.request) = .ok none ∧ .request ∉ outcome.2.ledger.created)

theorem presign_contract (build : Build) (request : Native.PresignedRequest) :
    PresignContract build request ∧
      ∀ (lib : PresignLibrary) (operatorOpen : Bool) (expiresInSeconds : UInt64)
        (reply : CallResult PresignReply) (subject : Subject),
        ReleasedOnce lib (presign lib operatorOpen expiresInSeconds reply subject).2 := by
  refine ⟨⟨?_, ?_, ?_, ?_⟩, releasedOnce_presign⟩
  · intro h
    rw [checkedPresignedRequest_eq, if_pos h]
  · intro h
    rw [checkedPresignedRequest_eq, if_neg h]
  · intro h w
    exact answers_validate (fits_snapshot h) w rfl
  · intro R api signers malloc path expiresInSeconds values hmemory hfits hexpiry hsign
    have hreply := presignReply_signed hmemory path values hfits hexpiry hsign
    have hvalue : (presign (nativeLibrary build) true expiresInSeconds (.ok (signedReply request))
        (values.subject path)).1 = _ := presign_signedReply request hexpiry
    dsimp only
    rw [hreply]
    constructor
    · intro h
      rw [hvalue, if_pos h]
    · intro h
      refine ⟨?_, ?_, not_created_signedReply hexpiry h⟩
      · rw [hvalue, if_neg h]
      · rw [signedReply, if_neg h]
        rfl

/-- Two headers of one name, with bytes that are no text and with none. -/
def repeatedHeaders : Native.PresignedRequest where
  method := "GET"
  uri := "https://bucket/key?signature"
  header := [("x-amz-meta", [0xff, 0]), ("x-amz-meta", [])]

def signersOf (R : Type) (request : Native.PresignedRequest) : Signers R where
  read := fun _ _ _ => some (.ok request)
  write := fun _ _ _ => some (.ok request)
  stat := fun _ _ _ => some (.ok request)

/-- The request of a stat with a version. -/
theorem presign_contract_repeated :
    (presign (nativeLibrary ⟨true, true, true, true⟩) true 60
      (presignReply BytesRange.api (signersOf _ repeatedHeaders) (fun _ => true)
        versionText.toMoonString 60 (PresignValues.stat ⟨some versionText, none, none⟩).options)
      ((PresignValues.stat ⟨some versionText, none, none⟩).subject versionText)).1 =
      .ok (.ofRequest repeatedHeaders) :=
  ((presign_contract ⟨true, true, true, true⟩ repeatedHeaders).1.operation BytesRange.api
    (signersOf _ repeatedHeaders) (fun _ => true) versionText 60
    (.stat ⟨some versionText, none, none⟩) (fun _ => rfl) trivial (by decide) rfl).1 (by decide)

end OpendalMbt.NativePackage
