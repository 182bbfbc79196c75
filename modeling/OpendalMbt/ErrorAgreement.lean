import OpendalMbt.Bridge.Exports
import OpendalMbt.Browser.ErrorRoundTrip
import OpendalMbt.MoonBit.Error
import OpendalMbt.NativePackage.BlockingClient

/-!
# One error of OpenDAL on both targets

`opendal_error_snapshot` and `construction_error` of `native/rust/src/lib.rs`, and
`From<opendal::Error>` and `from_construction_error` of `wasm/browser-bridge/src/lib.rs`. On one
side the error goes through the C ABI, the getters of the stub and `error_from_native_result`; on
the other through ODE1, the decoder of `wasm/browser-runtime/index.mjs` and `error_from_bridge`.

* `run_failed`: what every blocking function raises when its call has failed;
* `bridgeError_decoded`: what the browser package raises;
* `errors_agree`: the two are one error, but for a byte order mark.
-/

namespace OpendalMbt.ErrorAgreement

open Codec Native NativePackage NativePackage.Blocking Stub Transition

/-! ## Errors of OpenDAL -/

/-- `opendal::ErrorKind`, to which OpenDAL may add. -/
inductive UpstreamKind where
  | unexpected | unsupported | configInvalid | notFound | permissionDenied | isADirectory
  | notADirectory | alreadyExists | rateLimited | isSameFile | conditionNotMatch
  | rangeNotSatisfied
  | added (name : String)
  deriving DecidableEq, Repr

/-- `ErrorKind::into_static` -/
def UpstreamKind.intoStatic : UpstreamKind → String
  | unexpected => "Unexpected"
  | unsupported => "Unsupported"
  | configInvalid => "ConfigInvalid"
  | notFound => "NotFound"
  | permissionDenied => "PermissionDenied"
  | isADirectory => "IsADirectory"
  | notADirectory => "NotADirectory"
  | alreadyExists => "AlreadyExists"
  | rateLimited => "RateLimited"
  | isSameFile => "IsSameFile"
  | conditionNotMatch => "ConditionNotMatch"
  | rangeNotSatisfied => "RangeNotSatisfied"
  | added name => name

inductive UpstreamStatus where
  | permanent | temporary | persistent
  deriving DecidableEq, Repr

structure UpstreamError where
  kind : UpstreamKind
  status : UpstreamStatus
  message : String
  deriving DecidableEq, Repr

/-- The `ERROR_*` constants, which are the same in both crates. -/
def kindCode : UpstreamKind → UInt32
  | .unexpected => 1
  | .unsupported => 2
  | .configInvalid => 3
  | .notFound => 4
  | .permissionDenied => 5
  | .isADirectory => 6
  | .notADirectory => 7
  | .alreadyExists => 8
  | .rateLimited => 9
  | .isSameFile => 10
  | .conditionNotMatch => 11
  | .rangeNotSatisfied => 12
  | .added _ => 1

/-- The `ERROR_STATUS_*` constants. -/
def statusCode : UpstreamStatus → UInt32
  | .permanent => 1
  | .temporary => 2
  | .persistent => 3

def opendalErrorSnapshot (error : UpstreamError) : ErrorV1 where
  kind := kindCode error.kind
  status := statusCode error.status
  kindName := error.kind.intoStatic
  message :=
    if error.message.utf8ByteSize > maxOutputBytes then
      "OpenDAL error message exceeds the binding output limit"
    else error.message

def constructionErrorSnapshot (error : UpstreamError) : ErrorV1 :=
  { opendalErrorSnapshot error with message := "operator construction failed" }

/-- `BridgeError::from` -/
def fromOpendalError (error : UpstreamError) : Bridge.BridgeError :=
  .openDal (kindCode error.kind) (statusCode error.status) error.kind.intoStatic error.message

def fromConstructionError (error : UpstreamError) : Bridge.BridgeError :=
  Bridge.constructionError (fromOpendalError error)

/-- The two crates report the error, of an operation or of a construction. -/
inductive Reported (error : UpstreamError) : ErrorV1 → Bridge.BridgeError → Prop where
  | operation : Reported error (opendalErrorSnapshot error) (fromOpendalError error)
  | construction : Reported error (constructionErrorSnapshot error) (fromConstructionError error)

/-! ## The native package -/

/-- What the getters read of an error handle, through its view. -/
def ofError (error : ErrorV1) : ErrorParts where
  kindCode := error.kind
  statusCode := error.status
  kindName := copyBytes (stringView error.kindName)
  message := copyBytes (stringView error.message)

/-- The error that a function raises for what its getters read. -/
def raised (error : ErrorV1) (subject : Subject) : NativePackage.OpenDalError :=
  { subject with
    kind := nativeErrorKind error.kind error.kindName
    status := nativeErrorStatus error.status
    message := error.message }

/-- The texts of the error can be copied. -/
structure Copyable (error : ErrorV1) : Prop where
  kindName : error.kindName.utf8ByteSize ≤ INT32_MAX
  message : error.message.utf8ByteSize ≤ INT32_MAX

theorem decodeAbiText_copied {text : String} (h : text.utf8ByteSize ≤ INT32_MAX)
    (subject : Subject) : decodeAbiText (copyBytes (stringView text)) subject = .ok text := by
  have hcopied : copyBytes (stringView text) = utf8Bytes text := by
    apply copyBytes_bytesView
    rw [length_utf8Bytes]
    exact h
  unfold decodeAbiText
  rw [hcopied, utf8Decode_utf8Bytes]

section Native

variable {lib : Library} {answers : Answers} {error : ErrorV1} {α : Type}

theorem raiseNative_eq (hcopyable : Copyable error) (hanswers : answers.error = ofError error)
    (result : Nat) (subject : Subject) (s : Session) :
    (raiseNative lib answers result subject : PackageCall α) s =
      (.error (raised error subject), act lib (.release result) s) := by
  have hname : Call.lift (decodeAbiText answers.error.kindName subject)
      (act lib (.release result) s) = (.ok error.kindName, act lib (.release result) s) := by
    rw [hanswers]
    exact congrArg (·, _) (decodeAbiText_copied hcopyable.kindName subject)
  have hmessage : Call.lift (decodeAbiText answers.error.message subject)
      (act lib (.release result) s) = (.ok error.message, act lib (.release result) s) := by
    rw [hanswers]
    exact congrArg (·, _) (decodeAbiText_copied hcopyable.message subject)
  have herror : Blocking.errorFromNativeResult lib answers result subject s =
      (.ok (raised error subject), act lib (.release result) s) := by
    unfold Blocking.errorFromNativeResult
    rw [Call.bind_apply_ok (x := nativeResultRelease lib result) rfl, Call.bind_apply_ok hname,
      Call.bind_apply_ok hmessage, hanswers]
    rfl
  unfold raiseNative
  rw [Call.bind_apply_ok herror]
  rfl

/-- Whatever a function does with a result that is `OK`, one with the status `ERROR` is raised. -/
theorem run_failed (hcopyable : Copyable error) (hanswers : answers.error = ofError error)
    {f : BlockingFunction} (hcheck : f.check = .ok ()) {s : Session}
    (hfailed : statusAt s.world.objects.length
      (nativeCall lib answers f.call f.receiver s).2 = .error) :
    ∃ t, f.run lib answers s = (.error (raised error f.subject), t) := by
  have hchecked : (Call.lift f.check : PackageCall Unit) s = (.ok (), s) := by
    rw [hcheck]
    rfl
  have hcall : nativeCall lib answers f.call f.receiver s =
      (.ok s.world.objects.length, (nativeCall lib answers f.call f.receiver s).2) := rfl
  have hstatus : nativeResultStatus s.world.objects.length
      (nativeCall lib answers f.call f.receiver s).2 =
        (.ok .error, (nativeCall lib answers f.call f.receiver s).2) := by
    unfold nativeResultStatus
    rw [hfailed]
  have hpayload : ∀ take, ∃ t,
      f.payload lib answers take s = (.error (raised error f.subject), t) := by
    intro take
    unfold BlockingFunction.payload
    rw [Call.bind_apply_ok hcall, Call.bind_apply_ok hstatus, if_pos (by decide)]
    exact ⟨_, raiseNative_eq hcopyable hanswers _ _ _⟩
  have hnext : ∀ take closes convert, ∃ t,
      f.next lib answers take closes convert s = (.error (raised error f.subject), t) := by
    intro take closes convert
    unfold BlockingFunction.next
    rw [Call.bind_apply_ok hcall, Call.bind_apply_ok hstatus, if_neg (by decide),
      if_neg (by decide), Call.bind_apply_ok (Call.modify_apply _ _)]
    exact ⟨_, raiseNative_eq hcopyable hanswers _ _ _⟩
  unfold BlockingFunction.run
  rw [Call.bind_apply_ok hchecked]
  cases f.body with
  | unit =>
    dsimp only
    unfold BlockingFunction.unit
    rw [Call.bind_apply_ok hcall, Call.bind_apply_ok hstatus, if_pos (by decide)]
    exact ⟨_, raiseNative_eq hcopyable hanswers _ _ _⟩
  | value take => exact hpayload (take answers)
  | metadata =>
    obtain ⟨t, ht⟩ := hpayload (.metadata answers.valid)
    exact ⟨t, Call.bind_apply_error ht⟩
  | next take closes => exact hnext (take answers) closes _
  | nextEntry => exact hnext (.entry answers.valid) true _

end Native

/-! ## The public errors of the packages -/

def ofNativeStatus : NativePackage.ErrorStatus → MoonBit.ErrorStatus
  | .permanent => .permanent
  | .temporary => .temporary
  | .persistent => .persistent
  | .unknownStatus code => .unknownStatus code.toNat

def ofNativeKind : NativePackage.ErrorKind → MoonBit.ErrorKind
  | .unexpected => .unexpected
  | .unsupported => .unsupported
  | .configInvalid => .configInvalid
  | .notFound => .notFound
  | .permissionDenied => .permissionDenied
  | .isADirectory => .isADirectory
  | .notADirectory => .notADirectory
  | .alreadyExists => .alreadyExists
  | .rateLimited => .rateLimited
  | .isSameFile => .isSameFile
  | .conditionNotMatch => .conditionNotMatch
  | .rangeNotSatisfied => .rangeNotSatisfied
  | .invalidArgument => .invalidArgument
  | .resourceClosed => .resourceClosed
  | .bufferTooLarge => .bufferTooLarge
  | .abiMismatch => .abiMismatch
  | .unknownKind code name => .unknownKind code.toNat (exactText name)

def ofNativeOperation : NativePackage.Operation → MoonBit.Operation
  | .newOperator => .newOperator
  | .check => .check
  | .exists => .exists
  | .createDir => .createDir
  | .read => .read
  | .write => .write
  | .stat => .stat
  | .delete => .delete
  | .list => .list
  | .copy => .copy
  | .rename => .rename

/-- The context in which the browser package raises an error about the same subject. -/
def contextOf (subject : Subject) : MoonBit.ErrorContext where
  operation := ofNativeOperation subject.operation
  path := subject.path
  destinationPath := subject.destinationPath

/-- The error of the native package, in the types of the browser package. -/
def ofNativeError (error : NativePackage.OpenDalError) : MoonBit.OpenDalError where
  kind := ofNativeKind error.kind
  status := ofNativeStatus error.status
  message := exactText error.message
  operation := ofNativeOperation error.operation
  path := error.path
  destinationPath := error.destinationPath

/-! ## Agreement -/

section Agreement

variable {error : UpstreamError} {native : ErrorV1} {bridge : Bridge.BridgeError}

theorem Reported.kind (h : Reported error native bridge) (names : JsString) (name : String) :
    MoonBit.errorKindFromBridge bridge.kind.toNat names =
      ofNativeKind (nativeErrorKind native.kind name) := by
  have hkinds : ∀ kind, MoonBit.errorKindFromBridge (kindCode kind).toNat names =
      ofNativeKind (nativeErrorKind (kindCode kind) name) := by
    intro kind
    cases kind <;> rfl
  cases h with
  | operation => exact hkinds error.kind
  | construction => exact hkinds error.kind

theorem Reported.status (h : Reported error native bridge) :
    MoonBit.errorStatusFromBridge bridge.errorStatus.toNat =
      ofNativeStatus (nativeErrorStatus native.status) := by
  have hstatuses : ∀ status, MoonBit.errorStatusFromBridge (statusCode status).toNat =
      ofNativeStatus (nativeErrorStatus (statusCode status)) := by
    intro status
    cases status <;> rfl
  cases h with
  | operation => exact hstatuses error.status
  | construction => exact hstatuses error.status

/-- What fits into a snapshot is within the limits of the native library. -/
theorem Reported.texts (h : Reported error native bridge) (hlimit : bridge.WithinLimit) :
    Copyable native ∧ native.message = bridge.diagnosticMessage := by
  cases h with
  | operation =>
    have hsize : 24 + error.kind.intoStatic.utf8ByteSize + error.message.utf8ByteSize ≤
        67108864 := hlimit
    have hshort : ¬ error.message.utf8ByteSize > maxOutputBytes := by
      unfold maxOutputBytes
      omega
    have hmessage : (opendalErrorSnapshot error).message = error.message := if_neg hshort
    refine ⟨⟨?_, ?_⟩, hmessage⟩
    · show error.kind.intoStatic.utf8ByteSize ≤ INT32_MAX
      unfold INT32_MAX
      omega
    · rw [hmessage]
      unfold INT32_MAX
      omega
  | construction =>
    have hsize : 24 + error.kind.intoStatic.utf8ByteSize +
        "operator construction failed".utf8ByteSize ≤ 67108864 := hlimit
    refine ⟨⟨?_, Nat.le_of_ble_eq_true rfl⟩, rfl⟩
    show error.kind.intoStatic.utf8ByteSize ≤ INT32_MAX
    unfold INT32_MAX
    omega

end Agreement

/-- When OpenDAL fails and the bridge can report it, every blocking function of the native package
raises, with its own operation and paths, the error that the browser package raises for the same
subject: the same kind and status in any case, and the same message unless that starts with a byte
order mark. -/
theorem errors_agree {error : UpstreamError} {native : ErrorV1} {bridge : Bridge.BridgeError}
    (hreported : Reported error native bridge) {tryReserve : Nat → Bool} {bytes : List UInt8}
    (hbytes : Bridge.errorSnapshotBytes tryReserve bridge = .ok bytes) (context : Browser.Context)
    {lib : Library} {answers : Answers} (hanswers : answers.error = ofError native)
    {f : BlockingFunction} (hcheck : f.check = .ok ()) {s : Session}
    (hfailed : statusAt s.world.objects.length
      (nativeCall lib answers f.call f.receiver s).2 = .error) :
    ∃ nativeError outcome t,
      f.run lib answers s = (.error nativeError, t) ∧
      Browser.decodeErrorSnapshot textDecode bytes context = .ok outcome ∧
      nativeError.message = bridge.diagnosticMessage ∧
      (MoonBit.bridgeError outcome (contextOf f.subject)).kind = ofNativeKind nativeError.kind ∧
      (MoonBit.bridgeError outcome (contextOf f.subject)).status =
        ofNativeStatus nativeError.status ∧
      (MoonBit.bridgeError outcome (contextOf f.subject) = ofNativeError nativeError ↔
        ¬ StartsWithMark bridge.diagnosticMessage) := by
  obtain ⟨hlimit, -⟩ := Bridge.errorSnapshotBytes_eq_ok hbytes
  obtain ⟨hcopyable, hmessage⟩ := hreported.texts hlimit
  obtain ⟨t, hrun⟩ := run_failed hcopyable hanswers hcheck hfailed
  have hdecoded := Browser.decodeErrorSnapshot_encode textDecode_utf8Bytes hbytes context
  have hkind := hreported.kind (decodedText bridge.kindName) native.kindName
  refine ⟨raised native f.subject, Browser.errorOutcome decodedText bridge context, t, hrun,
    hdecoded, hmessage, hkind, hreported.status, ?_⟩
  rw [← decodedText_eq_exactText, ← hmessage]
  constructor
  · intro h
    have htext := congrArg MoonBit.OpenDalError.message h
    rw [hmessage]
    exact htext.trans (congrArg exactText hmessage)
  · intro h
    simp only [MoonBit.bridgeError, MoonBit.errorFromBridge, ofNativeError,
      MoonBit.OpenDalError.mk.injEq]
    refine ⟨hkind, hreported.status, ?_, rfl, rfl, rfl⟩
    rw [hmessage] at h
    exact h.trans (congrArg exactText hmessage.symm)

/-- A bucket that is not there, when an operator is made. -/
def missingBucket : UpstreamError := ⟨.notFound, .permanent, "bucket gone"⟩

/-- The answers of a call that OpenDAL has failed. -/
def failedBy (error : ErrorV1) : Answers :=
  { answered .error fun kind => kind == .error with error := ofError error }

theorem errors_agree_missingBucket :
    ∃ bytes nativeError outcome t,
      Bridge.errorSnapshotBytes (fun _ => true) (fromConstructionError missingBucket) =
        .ok bytes ∧
      Operator.new.run wholeLibrary (failedBy (constructionErrorSnapshot missingBucket))
        Session.start = (.error nativeError, t) ∧
      Browser.decodeErrorSnapshot textDecode bytes ⟨"new_operator", none, none⟩ = .ok outcome ∧
      MoonBit.bridgeError outcome (contextOf Operator.new.subject) = ofNativeError nativeError := by
  have hlimit : (fromConstructionError missingBucket).WithinLimit :=
    Nat.le_of_ble_eq_true rfl
  obtain ⟨bytes, hbytes⟩ : ∃ bytes, Bridge.errorSnapshotBytes (fun _ => true)
      (fromConstructionError missingBucket) = .ok bytes :=
    Bridge.errorSnapshotBytes_of_withinLimit hlimit rfl
  have hanswers : (failedBy (constructionErrorSnapshot missingBucket)).error =
      ofError (constructionErrorSnapshot missingBucket) := rfl
  have hfailed : statusAt Session.start.world.objects.length
      (nativeCall wholeLibrary (failedBy (constructionErrorSnapshot missingBucket))
        Operator.new.call Operator.new.receiver Session.start).2 = .error := rfl
  obtain ⟨nativeError, outcome, t, hrun, hdecoded, -, -, -, hagree⟩ :=
    errors_agree .construction hbytes ⟨"new_operator", none, none⟩ hanswers rfl hfailed
  exact ⟨bytes, nativeError, outcome, t, hbytes, hrun, hdecoded, hagree.mpr (by decide)⟩

end OpendalMbt.ErrorAgreement
