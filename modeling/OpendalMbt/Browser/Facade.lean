import OpendalMbt.Bridge.Queries
import OpendalMbt.Bridge.TransferSystem
import OpendalMbt.Browser.SnapshotDecoder
import OpendalMbt.Codec.TextCoding
import OpendalMbt.Transition.Call

/-!
# Buffers and texts of the JavaScript runtime

The helpers of `class OpenDalBrowser` in `wasm/browser-runtime/index.mjs` that move bytes
and texts over the bridge. Each runs to its end without giving up control, so it is a call
on the bridge's store that returns or throws.
-/

namespace OpendalMbt.Browser

open Codec Bridge Transition

inductive Failure where
  /-- `OutcomeFailure`. -/
  | outcome (error : ErrorOutcome JsString)
  | contract (error : ContractError)
  /-- An `unreachable!` of the bridge. -/
  | trap
  /-- The JavaScript call stack is exhausted. -/
  | stackOverflow
  deriving DecidableEq, Repr

/-- What the surroundings decide: whether the allocator has `n` bytes, and how deep calls
may nest. -/
structure Host where
  tryReserve : Nat → Bool
  depth : Nat

def localError (kind : String) (kindCode : Nat) (message : String) (context : Context) :
    ErrorOutcome JsString where
  kind := exactText kind
  kindCode := kindCode
  status := "Permanent"
  statusCode := 1
  message := exactText message
  operation := context.operation
  path := context.path
  destinationPath := context.destinationPath

section Facade

variable {O S W L : Type}

/-- A facade call that returns `α`. -/
abbrev FacadeCall (O S W L α : Type) : Type := Call (Store O S W L) Failure α

def fail {α : Type} (message : String) : FacadeCall O S W L α :=
  Call.throw (.contract { message })

def clearLastError : FacadeCall O S W L Unit := Call.modify Store.lastErrorClear

/-- A bridge function whose sentinel result makes the facade throw the last error. -/
def expectValue {α : Type} (takeLastError : Context → String → FacadeCall O S W L (ErrorOutcome JsString))
    (f : Store O S W L → Except BridgeError α × Store O S W L) (context : Context)
    (fallbackMessage : String) : FacadeCall O S W L α := fun s =>
  match f s with
  | (.ok value, s) => (.ok value, s)
  | (.error _, s) =>
    (do
      let error ← takeLastError context fallbackMessage
      Call.throw (.outcome error)) s

/-- A transfer, which traps or returns a handle or 0. -/
def expectMoved (takeLastError : Context → String → FacadeCall O S W L (ErrorOutcome JsString))
    (f : Store O S W L → Option UInt32 × Store O S W L) (context : Context)
    (fallbackMessage : String) : FacadeCall O S W L UInt32 := fun s =>
  match f s with
  | (none, s) => (.error .trap, s)
  | (some handle, s) =>
    if handle = 0 then
      (do
        let error ← takeLastError context fallbackMessage
        Call.throw (.outcome error)) s
    else (.ok handle, s)

def checkContext : Context := { operation := "Check", path := none, destinationPath := none }

/-- How often a loop over the windows of `length` bytes goes round. -/
def windowCount (length : Nat) : Nat := (length + maxTransferChunk - 1) / maxTransferChunk

/-- The loop of `takeBuffer`: copy `windows` windows from `offset` on. -/
def readWindows (takeLastError : Context → String → FacadeCall O S W L (ErrorOutcome JsString))
    (handle : UInt32) (length : Nat) : Nat → Nat → FacadeCall O S W L (List UInt8)
  | 0, _ => pure []
  | windows + 1, offset => do
    let chunkLength := min maxTransferChunk (length - offset)
    clearLastError
    let part ← expectValue takeLastError (Store.bufferDataPtr handle offset chunkLength)
      checkContext "could not access a bridge buffer window"
    let rest ← readWindows takeLastError handle length windows (offset + maxTransferChunk)
    pure (part ++ rest)

def takeBufferWith (takeLastError : Context → String → FacadeCall O S W L (ErrorOutcome JsString))
    (handle : UInt32) : FacadeCall O S W L (List UInt8) :=
  Call.tryFinally
    (do
      clearLastError
      let length ← expectValue takeLastError (Store.bufferLen handle) checkContext
        "could not query a bridge buffer length"
      if length > maxBufferBytes then fail "bridge returned an oversized buffer"
      else readWindows takeLastError handle length (windowCount length) 0)
    (fun s => (Store.bufferRelease handle s).2)

/-- The handle of the last error, 0 when there is none or no room for it. -/
def lastErrorTake : FacadeCall O S W L UInt32 := fun s =>
  match s.lastErrorTake with
  | (.error _, s) => (.ok 0, s)
  | (.ok handle, s) => (.ok handle, s)

def takeLastErrorWithoutSnapshot : FacadeCall O S W L String := do
  let handle ← lastErrorTake
  if handle = 0 then pure "bridge did not publish an error"
  else do
    Call.modify (fun s => (Store.errorRelease handle s).2)
    pure "bridge rejected error snapshot ownership transfer"

def decodedError (bytes : List UInt8) (context : Context) :
    FacadeCall O S W L (ErrorOutcome JsString) :=
  match decodeErrorSnapshot textDecode bytes context with
  | .error e => Call.throw (.contract e)
  | .ok error => pure error

/-- `takeError`: the error handle is given back when it could not be exchanged. -/
def takeErrorWith (takeLastError : Context → String → FacadeCall O S W L (ErrorOutcome JsString))
    (tryReserve : Nat → Bool) (errorHandle : UInt32) (context : Context) :
    FacadeCall O S W L (ErrorOutcome JsString) := do
  clearLastError
  let snapshotHandle ← fun s =>
    match Store.errorSnapshotTake errorHandle s tryReserve with
    | (none, s) => (.error .trap, (Store.errorRelease errorHandle s).2)
    | (some handle, s) => (.ok handle, s)
  if snapshotHandle = 0 then
    Call.tryFinally
      (do
        let detail ← takeLastErrorWithoutSnapshot
        fail s!"could not materialize ODE1 error snapshot: {detail}")
      (fun s => (Store.errorRelease errorHandle s).2)
  else do
    let bytes ← takeBufferWith takeLastError snapshotHandle
    decodedError bytes context

/-- `takeLastError` and `takeError` call each other through `takeBuffer`. -/
def takeLastErrorAt (tryReserve : Nat → Bool) :
    Nat → Context → String → FacadeCall O S W L (ErrorOutcome JsString)
  | 0, _, _ => Call.throw .stackOverflow
  | depth + 1, context, fallbackMessage => do
    let errorHandle ← lastErrorTake
    if errorHandle = 0 then pure (localError "Unexpected" 1 fallbackMessage context)
    else takeErrorWith (takeLastErrorAt tryReserve depth) tryReserve errorHandle context

variable (host : Host)

def takeLastError (context : Context) (fallbackMessage : String) :
    FacadeCall O S W L (ErrorOutcome JsString) :=
  takeLastErrorAt host.tryReserve host.depth context fallbackMessage

def takeError (errorHandle : UInt32) (context : Context) :
    FacadeCall O S W L (ErrorOutcome JsString) :=
  takeErrorWith (takeLastError host) host.tryReserve errorHandle context

/-- `expectHandle`, `expectStatus` and the checks of a scalar result. -/
def expect {α : Type} (f : Store O S W L → Except BridgeError α × Store O S W L)
    (context : Context) (fallbackMessage : String) : FacadeCall O S W L α :=
  expectValue (takeLastError host) f context fallbackMessage

/-- The loop of `putBytes`: fill `windows` windows from `offset` on. -/
def writeWindows (handle : UInt32) (bytes : List UInt8) (context : Context) :
    Nat → Nat → FacadeCall O S W L Unit
  | 0, _ => pure ()
  | windows + 1, offset => do
    let length := min maxTransferChunk (bytes.length - offset)
    clearLastError
    let _ ← expect host (Store.bufferDataPtr handle offset length) context
      "could not access a bridge buffer window"
    Call.modify (Store.writeWindow handle offset ((bytes.drop offset).take length))
    writeWindows handle bytes context windows (offset + maxTransferChunk)

def putBytes (bytes : List UInt8) (context : Context) : FacadeCall O S W L UInt32 := do
  clearLastError
  let handle ← expect host (Store.bufferNewSized host.tryReserve bytes.length) context
    "could not allocate a bridge buffer"
  Call.onError
    (do
      writeWindows host handle bytes context (windowCount bytes.length) 0
      pure handle)
    (fun s => (Store.bufferRelease handle s).2)

def putText (value : JsString) (context : Context) : FacadeCall O S W L UInt32 :=
  putBytes host (textEncode value) context

def takeBuffer (handle : UInt32) : FacadeCall O S W L (List UInt8) :=
  takeBufferWith (takeLastError host) handle

/-- Every exception other than the two classes of the runtime is taken for malformed text. -/
def takeText (handle : UInt32) : FacadeCall O S W L JsString := fun s =>
  match takeBuffer host handle s with
  | (.error (.outcome e), s) => (.error (.outcome e), s)
  | (.error (.contract e), s) => (.error (.contract e), s)
  | (.error _, s) => fail "bridge returned non-UTF-8 text" s
  | (.ok bytes, s) =>
    match textDecode bytes with
    | none => fail "bridge returned non-UTF-8 text" s
    | some text => (.ok text, s)

def takeMetadata (handle : UInt32) : FacadeCall O S W L (MetadataValue JsString) := do
  let bytes ← takeBuffer host handle
  match decodeMetadataSnapshot textDecode bytes with
  | .error e => Call.throw (.contract e)
  | .ok metadata => pure metadata

/-! ## Operators -/

/-- `has(0)` to `has(15)`, in the fields of the bridge's record. -/
def capabilityOf (word0 deleteMaxSizeValue : Nat) : Capability where
  stat := word0.testBit 0
  read := word0.testBit 1
  write := word0.testBit 2
  createDir := word0.testBit 3
  delete := word0.testBit 4
  list := word0.testBit 5
  copy := word0.testBit 6
  rename := word0.testBit 7
  readWithSuffix := word0.testBit 8
  writeCanAppend := word0.testBit 9
  listWithLimit := word0.testBit 10
  listWithStartAfter := word0.testBit 11
  listWithRecursive := word0.testBit 12
  presignStat := word0.testBit 13
  presignRead := word0.testBit 14
  presignWrite := word0.testBit 15
  deleteMaxSize := if deleteMaxSizeValue = 0 then none else some deleteMaxSizeValue

variable (info : O → OperatorInfo) (handle : UInt32) (context : Context)

/-- `word` of `capability`: the value counts unless it left an error behind. -/
def capabilityWordAt (word : UInt32) : FacadeCall O S W L Nat := do
  clearLastError
  let value ← fun s =>
    (.ok (Store.operatorInfoCapabilityWord info handle word s).1,
      (Store.operatorInfoCapabilityWord info handle word s).2)
  let errorHandle ← lastErrorTake
  if errorHandle ≠ 0 then do
    let error ← takeError host errorHandle context
    Call.throw (.outcome error)
  else pure value

def capability : FacadeCall O S W L Capability := do
  let word0 ← capabilityWordAt host info handle context 0
  let deleteMaxSizeValue ← capabilityWordAt host info handle context 1
  pure (capabilityOf word0 deleteMaxSizeValue)

structure OperatorInfoValue where
  scheme : JsString
  root : JsString
  name : JsString
  capability : Capability
  deriving DecidableEq, Repr

def takeInfoText (f : Store O S W L → Except BridgeError UInt32 × Store O S W L)
    (fallback : String) : FacadeCall O S W L JsString := do
  clearLastError
  let textHandle ← expect host f context fallback
  takeText host textHandle

def operatorInfo : FacadeCall O S W L OperatorInfoValue := do
  let scheme ← takeInfoText host context (Store.operatorInfoScheme info handle)
    "could not query operator scheme"
  let root ← takeInfoText host context (Store.operatorInfoRoot info handle)
    "could not query operator root"
  let name ← takeInfoText host context (Store.operatorInfoName info handle)
    "could not query operator name"
  let capability ← capability host info handle context
  pure { scheme, root, name, capability }

/-! ## Entry lists -/

structure EntryValue where
  path : JsString
  name : JsString
  metadata : MetadataValue JsString
  deriving DecidableEq, Repr

/-- One round of the loop of `listEntries`. -/
def takeEntry (index : UInt32) : FacadeCall O S W L EntryValue := do
  let path ← takeInfoText host context (Store.entryListPath handle host.tryReserve index)
    "could not take a listed path"
  let name ← takeInfoText host context (Store.entryListName handle host.tryReserve index)
    "could not take a listed name"
  clearLastError
  let metadataHandle ← expectMoved (takeLastError host)
    (fun s => Store.entryListMetadataSnapshot handle s index) context
    "could not take listed metadata"
  let metadata ← takeMetadata host metadataHandle
  pure { path, name, metadata }

/-- The loop of `listEntries`: `left` entries from `index` on. -/
def takeEntries : Nat → Nat → FacadeCall O S W L (List EntryValue)
  | 0, _ => pure []
  | left + 1, index => do
    let entry ← takeEntry host handle context (UInt32.ofNat index)
    let rest ← takeEntries left (index + 1)
    pure (entry :: rest)

def listEntries : FacadeCall O S W L (List EntryValue) :=
  Call.tryFinally
    (do
      clearLastError
      let length ← expect host (Store.entryListLen handle) context
        "could not query a list result length"
      takeEntries host handle context length 0)
    (fun s => (Store.entryListRelease handle s).2)

end Facade

end OpendalMbt.Browser
