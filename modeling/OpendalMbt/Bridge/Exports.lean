import OpendalMbt.Bridge.Starts
import Mathlib.Data.List.Sort

/-!
# The exports of the bridge

The scalar ABI of `wasm/browser-bridge/src/lib.rs` as a whole: `Export` has one constructor
for each `opendal_mbt_wasm_*` function, with its arguments, and `Export.run` is what the
function does. Between two calls the executor may publish the outcome of a future, or poll a
future of the canary for the first time.
-/

namespace OpendalMbt.Bridge

open Codec Transition

def ABI_VERSION : UInt32 := 0x00010007

/-- The bits `FEATURE_MEMORY_SERVICE` to `FEATURE_EXPLICIT_EOF`, all of them. -/
def featureFlags : UInt32 := UInt32.ofNat (flagBits (List.replicate 16 true))

def maxConfigEntries : Nat := 1024

def maxConfigBytes : Nat := 1024 * 1024

def ERROR_NOT_FOUND : UInt32 := 4

/-- The legacy scalar code of an error. -/
def BridgeError.code : BridgeError → UInt32
  | .invalidHandle _ => 1
  | .wrongResourceType .. => 2
  | .bufferTooLarge => 3
  | .indexOutOfBounds .. => 4
  | .invalidByte _ => 5
  | .invalidUtf8 => 6
  | .openDal kind _ _ _ => if kind = ERROR_NOT_FOUND then 7 else 8
  | .asyncPending => 9
  | .handleLimit => 10
  | .lengthOverflow => 11
  | .taskNotReady _ => 12
  | .taskConsumed _ => 13
  | .tornDown => 14
  | .listTooLarge => 15
  | .allocationFailed => 16
  | .invalidArgument _ => 17
  | .resourceClosed _ => 1
  | .resourceBusy _ => 18

def CompletionKind.code : CompletionKind → UInt32
  | .write => 1
  | .read => 2
  | .stat => 3
  | .createDir => 4
  | .delete => 5
  | .list => 6
  | .copy => 7
  | .rename => 8
  | .openReader => 9
  | .readerNext => 10
  | .openWriter => 11
  | .writerWrite => 12
  | .writerFinish => 13
  | .writerAbort => 14
  | .openLister => 15
  | .listerNext => 16

/-- `ENTRY_MODE_*`. -/
def entryModeCode : EntryMode → Nat
  | .unknown => 0
  | .file => 1
  | .dir => 2

def SCALAR_ERROR : Int := -1

variable {O S W L : Type} {α : Type}

/-! ## Results -/

def recordError (e : BridgeError) (s : BridgeState O S W L) : BridgeState O S W L :=
  { s with lastError := some e }

/-- The value of a call, or `failed e` with the error recorded. -/
def valueOr (failed : BridgeError → α) (x : BridgeCall O S W L α) (s : BridgeState O S W L) :
    α × BridgeState O S W L :=
  match x s with
  | (.ok value, s) => (value, s)
  | (.error e, s) => (failed e, recordError e s)

def handleOrRecordError (x : BridgeCall O S W L UInt32) :
    BridgeState O S W L → UInt32 × BridgeState O S W L :=
  valueOr (fun _ => 0) x

def status (x : BridgeCall O S W L Unit) : BridgeState O S W L → UInt32 × BridgeState O S W L :=
  valueOr BridgeError.code (x >>= fun _ => pure 0)

def signed (x : BridgeCall O S W L Int) : BridgeState O S W L → Int × BridgeState O S W L :=
  valueOr (fun _ => SCALAR_ERROR) x

/-! ## Buffers -/

def bufferNew : BridgeCall O S W L UInt32 := onStore (Store.insertBuffer [])

def bufferPush (handle value : UInt32) : BridgeCall O S W L Unit := fun s =>
  match s.arena.buffer handle with
  | .error e => (.error e, s)
  | .ok bytes =>
    if bytes.length = maxBufferLength then (.error .bufferTooLarge, s)
    else if 256 ≤ value.toNat then (.error (.invalidByte value), s)
    else (.ok (), { s with arena := s.arena.write handle (.buffer (bytes ++ [value.toUInt8])) })

def bufferLen (handle : UInt32) : BridgeCall O S W L Int := do
  let length ← onStore (Store.bufferLen handle)
  pure length

def bufferGet (handle index : UInt32) (s : BridgeState O S W L) : Except BridgeError Int :=
  match s.arena.buffer handle with
  | .error e => .error e
  | .ok bytes =>
    match bytes[index.toNat]? with
    | none => .error (.indexOutOfBounds index bytes.length)
    | some byte => .ok byte.toNat

/-! ## Operators and their builders -/

section Operators

variable (lib : Library O)

def operatorNewMemory : BridgeCall O S W L UInt32 := do
  let operator ← ofExcept lib.newMemory
  onStore (Store.insertResource (.operator operator))

def registeredSchemes : BridgeCall O S W L UInt32 :=
  let schemes := lib.schemes.mergeSort (fun a b => !decide (b < a))
  onStore (Store.insertBuffer (utf8Bytes ("\n".intercalate schemes)))

def operatorBuilderNew (schemeHandle : UInt32) : BridgeCall O S W L UInt32 := do
  let scheme ← view (ownedUtf8Buffer lib.tryReserve schemeHandle)
  if scheme = "" then Call.throw (.invalidArgument "service scheme cannot be empty")
  else onStore (Store.insertResource (.operatorBuilder ⟨scheme, [], 0⟩))

def pushOperatorConfig (builder : OperatorBuilder) (key value : String) :
    Except BridgeError OperatorBuilder :=
  let configBytes := builder.configBytes + key.utf8ByteSize + value.utf8ByteSize
  -- `eq_ignore_ascii_case`: `toLower` changes the ASCII letters only
  if builder.config.any (fun entry => entry.1.toLower == key.toLower) then
    .error (.invalidArgument "duplicate config key")
  else if maxConfigEntries ≤ builder.config.length then
    .error (.invalidArgument s!"config exceeds the {maxConfigEntries}-entry limit")
  else if maxConfigBytes < configBytes then
    .error (.invalidArgument s!"config exceeds the {maxConfigBytes}-byte limit")
  else if lib.tryReserve 1 then
    .ok { builder with config := builder.config ++ [(key, value)], configBytes }
  else .error .allocationFailed

def operatorBuilderSet (builderHandle keyHandle valueHandle : UInt32) :
    BridgeCall O S W L Unit := do
  let key ← view (ownedUtf8Buffer lib.tryReserve keyHandle)
  let value ← view (ownedUtf8Buffer lib.tryReserve valueHandle)
  let builder ← view (·.arena.operatorBuilder builderHandle)
  let builder ← ofExcept (pushOperatorConfig lib builder key value)
  Call.modify fun s =>
    { s with arena := s.arena.write builderHandle (.operatorBuilder builder) }

def tryOwnedEntry (entry : String × String) : Except BridgeError (String × String) := do
  let key ← tryOwnedString lib.tryReserve entry.1
  let value ← tryOwnedString lib.tryReserve entry.2
  pure (key, value)

def tryCloneOperatorBuilder (builder : OperatorBuilder) : Except BridgeError OperatorBuilder :=
  if lib.tryReserve builder.config.length = false then .error .allocationFailed
  else do
    let config ← builder.config.mapM (tryOwnedEntry lib)
    let scheme ← tryOwnedString lib.tryReserve builder.scheme
    pure { builder with scheme, config }

/-- `from_construction_error` does not tell what OpenDAL says about a configuration. -/
def constructionError : BridgeError → BridgeError
  | .openDal kind status kindName _ =>
    .openDal kind status kindName "operator construction failed"
  | e => e

def buildOperator (builder : OperatorBuilder) : Except BridgeError O :=
  (lib.viaIter builder.scheme builder.config).mapError constructionError

def operatorBuilderBuild (builderHandle : UInt32) : BridgeCall O S W L UInt32 := do
  let builder ← view (·.arena.operatorBuilder builderHandle)
  let builder ← ofExcept (tryCloneOperatorBuilder lib builder)
  let operator ← ofExcept (buildOperator lib builder)
  onStore (Store.insertResource (.operator operator))

/-- `poll_once` and the conversion of its error. -/
def pollOnce (future : Option (Except BridgeError α)) : Except BridgeError α :=
  future.getD (.error .asyncPending)

def operatorWrite (operatorHandle pathHandle dataHandle : UInt32) : BridgeCall O S W L Unit := do
  let (operator, path) ← pathAndOperator lib.tryReserve operatorHandle pathHandle
  let data ← view (ownedBytes lib.tryReserve dataHandle)
  let _ ← ofExcept (pollOnce (lib.write operator path data))
  pure ()

def operatorRead (operatorHandle pathHandle : UInt32) : BridgeCall O S W L UInt32 := do
  let (operator, path) ← pathAndOperator lib.tryReserve operatorHandle pathHandle
  let buffer ← ofExcept (pollOnce (lib.read operator path))
  let bytes ← ofExcept (Store.tryOwnedBytes lib.tryReserve buffer)
  onStore (Store.insertBuffer bytes)

def operatorStat (operatorHandle pathHandle : UInt32) : BridgeCall O S W L UInt32 := do
  let (operator, path) ← pathAndOperator lib.tryReserve operatorHandle pathHandle
  let metadata ← ofExcept (pollOnce (lib.stat operator path))
  onStore (Store.insertResource (.metadata metadata))

end Operators

/-! ## Tasks and completions -/

def taskStateCode : Task (Completion S W L) → UInt32
  | .pending _ => 1
  | .ready _ _ => 2
  | .cancelled => 3
  | .consumed => 4

def taskState (handle : UInt32) (s : BridgeState O S W L) : Except BridgeError UInt32 :=
  (s.arena.ownedTask handle).map taskStateCode

def ownedTaskCancel (handle : UInt32) : BridgeCall O S W L Unit := fun s =>
  match s.arena.ownedTask handle with
  | .error e => (.error e, s)
  | .ok task =>
    let arena := terminalizeOwnedTask task s.arena
    match arena.ownedTask handle with
    | .error e => (.error e, { s with arena })
    | .ok (.pending _) | .ok (.ready _ _) =>
      (.ok (), { s with arena := arena.write handle (.task .cancelled) })
    | .ok .cancelled | .ok .consumed => (.ok (), { s with arena })

def ownedTaskRelease (handle : UInt32) : BridgeCall O S W L Unit := fun s =>
  match s.arena.ownedTask handle with
  | .error e => (.error e, s)
  | .ok task =>
    let (result, arena) := (terminalizeOwnedTask task s.arena).release handle .task
    (result, { s with arena })

def completionKind (handle : UInt32) (s : BridgeState O S W L) : Except BridgeError UInt32 :=
  (s.arena.completion handle).map fun completion => completion.kind.code

def completionStatus (handle : UInt32) (s : BridgeState O S W L) : Except BridgeError UInt32 :=
  (s.arena.completion handle).map fun completion => completion.error.elim 0 BridgeError.code

def completionIsEnd (handle : UInt32) (s : BridgeState O S W L) : Except BridgeError Int :=
  (s.completionIsEndValue handle).map fun isEnd => if isEnd then 1 else 0

/-! ## Entry lists, metadata and errors -/

def entryListValue (handle index : UInt32) (select : EntrySnapshot → α) (s : BridgeState O S W L) :
    Except BridgeError α :=
  match s.arena.entryList handle with
  | .error e => .error e
  | .ok entries =>
    match entries[index.toNat]? with
    | none => .error (.indexOutOfBounds index entries.length)
    | some entry => .ok (select entry)

def metadataContentLength (handle : UInt32) (part : UInt64 → UInt32) (s : BridgeState O S W L) :
    Except BridgeError UInt32 :=
  (s.arena.metadata handle).map fun metadata => part metadata.contentLength

def metadataIsFile (handle : UInt32) (s : BridgeState O S W L) : Except BridgeError Int :=
  (s.arena.metadata handle).map fun metadata => if metadata.mode = .file then 1 else 0

def metadataMode (handle : UInt32) (s : BridgeState O S W L) : Except BridgeError Int :=
  (s.arena.metadata handle).map fun metadata => entryModeCode metadata.mode

def lastErrorCode (s : BridgeState O S W L) : UInt32 := s.lastError.elim 0 BridgeError.code

def errorCode (handle : UInt32) (s : BridgeState O S W L) : Except BridgeError UInt32 :=
  (s.arena.error handle).map BridgeError.code

/-- The `Display` text, which tells more than a snapshot only of a service error. -/
def BridgeError.display : BridgeError → String
  | .openDal _ _ _ message => s!"OpenDAL operation failed: {message}"
  | e => e.diagnosticMessage

def errorMessage (handle : UInt32) : BridgeCall O S W L UInt32 := do
  let error ← view (·.arena.error handle)
  onStore (Store.insertBuffer (utf8Bytes error.display))

/-! ## The ABI -/

/-- A call of the scalar ABI. -/
inductive Export where
  | abiVersion
  | featureFlags
  | canaryForcedPendingPollCount
  | canarySetForcePending (enabled : UInt32)
  | liveHandleCount
  | teardown
  | canaryStaleHandleRejected
  | bufferNew
  | bufferNewSized (length : UInt32)
  | bufferPush (handle value : UInt32)
  | bufferLen (handle : UInt32)
  | bufferGet (handle index : UInt32)
  | bufferDataPtr (handle offset length : UInt32)
  | bufferRelease (handle : UInt32)
  | operatorNewMemory
  | registeredSchemes
  | operatorBuilderNew (scheme : UInt32)
  | operatorBuilderSet (builder key value : UInt32)
  | operatorBuilderBuild (builder : UInt32)
  | operatorBuilderRelease (handle : UInt32)
  | operatorInfoScheme (handle : UInt32)
  | operatorInfoRoot (handle : UInt32)
  | operatorInfoName (handle : UInt32)
  | operatorInfoCapabilityWord (handle word : UInt32)
  | operatorWrite (operator path data : UInt32)
  | operatorRead (operator path : UInt32)
  | operatorStat (operator path : UInt32)
  | operatorWriteStart (operator path data : UInt32)
  | operatorWriteOptionsStart (operator path data : UInt32) (scalars : WriteScalars)
  | operatorReadStart (operator path : UInt32)
  | operatorReadOptionsStart (operator path : UInt32) (range : RangeScalars) (texts : ReadTexts)
  | operatorStatStart (operator path : UInt32)
  | operatorStatOptionsStart (operator path : UInt32) (texts : ReadTexts)
  | operatorCreateDirStart (operator path : UInt32)
  | operatorDeleteStart (operator path version recursive : UInt32)
  | operatorListStart (operator path : UInt32) (scalars : ListScalars)
  | operatorCopyStart (operator source target : UInt32)
  | operatorRenameStart (operator source target : UInt32)
  | operatorReadStreamStart (operator path chunkSize : UInt32) (range : RangeScalars)
      (texts : ReadTexts)
  | readStreamNextStart (handle : UInt32)
  | readStreamRelease (handle : UInt32)
  | operatorWriterStart (operator path : UInt32) (scalars : WriteScalars)
  | writerWriteStart (writer data : UInt32)
  | writerFinishStart (writer : UInt32)
  | writerAbortStart (writer : UInt32)
  | writerRelease (handle : UInt32)
  | operatorListerStart (operator path : UInt32) (scalars : ListScalars)
  | listerNextStart (handle : UInt32)
  | listerRelease (handle : UInt32)
  | taskState (handle : UInt32)
  | taskTake (handle : UInt32)
  | taskCancel (handle : UInt32)
  | taskRelease (handle : UInt32)
  | completionKind (handle : UInt32)
  | completionStatus (handle : UInt32)
  | completionIsEnd (handle : UInt32)
  | completionTakeReadStream (handle : UInt32)
  | completionTakeWriter (handle : UInt32)
  | completionTakeLister (handle : UInt32)
  | completionTakeBuffer (handle : UInt32)
  | completionTakeMetadata (handle : UInt32)
  | completionTakeMetadataSnapshot (handle : UInt32)
  | completionTakeEntryList (handle : UInt32)
  | completionTakeError (handle : UInt32)
  | completionRelease (handle : UInt32)
  | entryListLen (handle : UInt32)
  | entryListPath (handle index : UInt32)
  | entryListName (handle index : UInt32)
  | entryListMode (handle index : UInt32)
  | entryListContentLength (handle index : UInt32)
  | entryListMetadataSnapshot (handle index : UInt32)
  | entryListRelease (handle : UInt32)
  | operatorRelease (handle : UInt32)
  | metadataContentLengthLow (handle : UInt32)
  | metadataContentLengthHigh (handle : UInt32)
  | metadataIsFile (handle : UInt32)
  | metadataMode (handle : UInt32)
  | metadataRelease (handle : UInt32)
  | lastErrorCode
  | lastErrorTake
  | lastErrorClear
  | errorCode (handle : UInt32)
  | errorMessage (handle : UInt32)
  | errorSnapshotTake (handle : UInt32)
  | errorRelease (handle : UInt32)

/-- What a call returns. -/
inductive Reply where
  | handle (handle : UInt32)
  /-- The bytes behind a pointer; none is the null pointer. -/
  | window (bytes : Option (List UInt8))
  /-- A status or a code. -/
  | code (code : UInt32)
  | count (count : UInt32)
  | signed (value : Int)
  | word (value : Nat)
  | trap
  deriving DecidableEq, Repr

section Run

variable (s : BridgeState O S W L)

def handleReply (x : BridgeCall O S W L UInt32) : Reply × BridgeState O S W L :=
  let (handle, s) := handleOrRecordError x s
  (.handle handle, s)

def statusReply (x : BridgeCall O S W L Unit) : Reply × BridgeState O S W L :=
  let (code, s) := status x s
  (.code code, s)

def signedReply (x : BridgeCall O S W L Int) : Reply × BridgeState O S W L :=
  let (value, s) := signed x s
  (.signed value, s)

/-- A code that is read, or `failed` of the recorded error. -/
def codeReply (failed : BridgeError → UInt32) (x : BridgeCall O S W L UInt32) :
    Reply × BridgeState O S W L :=
  let (code, s) := valueOr failed x s
  (.code code, s)

def wordReply (x : BridgeCall O S W L Nat) : Reply × BridgeState O S W L :=
  let (word, s) := valueOr (fun _ => 0) x s
  (.word word, s)

def windowReply (x : BridgeCall O S W L (List UInt8)) : Reply × BridgeState O S W L :=
  let (bytes, s) := valueOr (fun _ => none) (x >>= fun bytes => pure (some bytes)) s
  (.window bytes, s)

def releaseReply (handle : UInt32) (kind : ResourceKind) : Reply × BridgeState O S W L :=
  statusReply s (onStore (Store.releaseResource handle kind))

def transferReply (tryReserve : Nat → Bool) (t : Transfer) (handle : UInt32) :
    Reply × BridgeState O S W L :=
  match t.run tryReserve handle s.toStore with
  | (none, store) => (.trap, { s with toStore := store })
  | (some handle, store) => (.handle handle, { s with toStore := store })

def clearLastError : BridgeState O S W L := { s with lastError := none }

/-- `opendal_mbt_wasm_teardown`; what was spawned stays on the executor. -/
def teardownBridge : BridgeState O S W L := { s with toStore := s.toStore.teardown }

def setForcePending (enabled : UInt32) : BridgeCall O S W L Unit := do
  let enabled ← ofExcept (scalarBool enabled "force_pending")
  Call.modify fun s => { s with forcePendingForCanary := enabled }

def canaryStaleHandleRejected : UInt32 × BridgeState O S W L :=
  let (stale, s) := handleOrRecordError bufferNew (clearLastError s)
  if stale = 0 then (0, s)
  else
    let (released, s) := status (onStore (Store.releaseResource stale .buffer)) s
    if released ≠ 0 then (0, s)
    else
      let (current, s) := handleOrRecordError bufferNew s
      if current = 0 then (0, s)
      else
        let (staleResult, s) := signed (bufferLen stale) s
        let errorCode := lastErrorCode s
        let (released, s) :=
          status (onStore (Store.releaseResource current .buffer)) (clearLastError s)
        (if staleResult = SCALAR_ERROR ∧ errorCode = 1 ∧ current ≠ stale ∧ released = 0 then 1
          else 0, s)

def codeOnly (result : UInt32 × BridgeState O S W L) : Reply × BridgeState O S W L :=
  (.code result.1, result.2)

/-- What the exports do. -/
def Export.run (lib : Library O) : Export → Reply × BridgeState O S W L
  | .abiVersion => (.code ABI_VERSION, s)
  | .featureFlags => (.code Bridge.featureFlags, s)
  | .canaryForcedPendingPollCount => (.code s.forcedPendingPollCount, s)
  | .canarySetForcePending enabled => statusReply s (setForcePending enabled)
  | .liveHandleCount => (.count s.arena.live, s)
  | .teardown => (.code 0, teardownBridge s)
  | .canaryStaleHandleRejected => codeOnly (Bridge.canaryStaleHandleRejected s)
  | .bufferNew => handleReply s Bridge.bufferNew
  | .bufferNewSized length =>
    handleReply s (onStore (Store.bufferNewSized lib.tryReserve length.toNat))
  | .bufferPush handle value => statusReply s (Bridge.bufferPush handle value)
  | .bufferLen handle => signedReply s (Bridge.bufferLen handle)
  | .bufferGet handle index => signedReply s (view (Bridge.bufferGet handle index))
  | .bufferDataPtr handle offset length =>
    windowReply s (onStore (Store.bufferDataPtr handle offset.toNat length.toNat))
  | .bufferRelease handle => releaseReply s handle .buffer
  | .operatorNewMemory => handleReply s (Bridge.operatorNewMemory lib)
  | .registeredSchemes => handleReply s (Bridge.registeredSchemes lib)
  | .operatorBuilderNew scheme => handleReply s (Bridge.operatorBuilderNew lib scheme)
  | .operatorBuilderSet builder key value =>
    statusReply s (Bridge.operatorBuilderSet lib builder key value)
  | .operatorBuilderBuild builder => handleReply s (Bridge.operatorBuilderBuild lib builder)
  | .operatorBuilderRelease handle => releaseReply s handle .operatorBuilder
  | .operatorInfoScheme handle => handleReply s (onStore (Store.operatorInfoScheme lib.info handle))
  | .operatorInfoRoot handle => handleReply s (onStore (Store.operatorInfoRoot lib.info handle))
  | .operatorInfoName handle => handleReply s (onStore (Store.operatorInfoName lib.info handle))
  | .operatorInfoCapabilityWord handle word =>
    let (value, store) := s.operatorInfoCapabilityWord lib.info handle word
    (.word value, { s with toStore := store })
  | .operatorWrite operator path data =>
    statusReply s (Bridge.operatorWrite lib operator path data)
  | .operatorRead operator path => handleReply s (Bridge.operatorRead lib operator path)
  | .operatorStat operator path => handleReply s (Bridge.operatorStat lib operator path)
  | .operatorWriteStart operator path data =>
    handleReply s (startWriteTask lib operator path data {})
  | .operatorWriteOptionsStart operator path data scalars =>
    handleReply s do
      let options ← writeOptionsFromScalars lib.tryReserve scalars
      startWriteTask lib operator path data options
  | .operatorReadStart operator path =>
    handleReply s (startReadTask lib operator path ⟨⟨none, none, none⟩, BytesRange.api.default⟩)
  | .operatorReadOptionsStart operator path range texts =>
    handleReply s (Bridge.operatorReadOptionsStart BytesRange.api texts range
      (optionalOwnedUtf8Buffer lib.tryReserve) (startReadTask lib operator path))
  | .operatorStatStart operator path =>
    handleReply s (startStatTask lib operator path ⟨none, none, none⟩)
  | .operatorStatOptionsStart operator path texts =>
    handleReply s do
      let options ← statOptionsFromScalars lib.tryReserve texts
      startStatTask lib operator path options
  | .operatorCreateDirStart operator path =>
    handleReply s (startCreateDirTask lib operator path)
  | .operatorDeleteStart operator path version recursive =>
    handleReply s (startDeleteTask lib operator path version recursive)
  | .operatorListStart operator path scalars =>
    handleReply s (startListTask lib operator path scalars)
  | .operatorCopyStart operator source target =>
    handleReply s (startCopyTask lib operator source target)
  | .operatorRenameStart operator source target =>
    handleReply s (startRenameTask lib operator source target)
  | .operatorReadStreamStart operator path chunkSize range texts =>
    handleReply s (Bridge.operatorReadStreamStart BytesRange.api texts range
      (optionalOwnedUtf8Buffer lib.tryReserve) (startReadStream lib operator path) chunkSize)
  | .readStreamNextStart handle => handleReply s (Bridge.readStreamNextStart handle)
  | .readStreamRelease handle => releaseReply s handle .readStream
  | .operatorWriterStart operator path scalars =>
    handleReply s do
      let options ← writeOptionsFromScalars lib.tryReserve scalars
      startWriter lib operator path options
  | .writerWriteStart writer data =>
    handleReply s (Bridge.writerWriteStart lib.tryReserve writer data)
  | .writerFinishStart writer => handleReply s (Bridge.writerFinishStart writer)
  | .writerAbortStart writer => handleReply s (Bridge.writerAbortStart writer)
  | .writerRelease handle => releaseReply s handle .writer
  | .operatorListerStart operator path scalars =>
    handleReply s (startLister lib operator path scalars)
  | .listerNextStart handle => handleReply s (Bridge.listerNextStart handle)
  | .listerRelease handle => releaseReply s handle .lister
  | .taskState handle => codeReply s (fun _ => 0) (view (Bridge.taskState handle))
  | .taskTake handle => transferReply s lib.tryReserve .taskTake handle
  | .taskCancel handle => statusReply s (ownedTaskCancel handle)
  | .taskRelease handle => statusReply s (ownedTaskRelease handle)
  | .completionKind handle => codeReply s (fun _ => 0) (view (Bridge.completionKind handle))
  | .completionStatus handle =>
    codeReply s BridgeError.code (view (Bridge.completionStatus handle))
  | .completionIsEnd handle => signedReply s (view (Bridge.completionIsEnd handle))
  | .completionTakeReadStream handle =>
    transferReply s lib.tryReserve .completionTakeReadStream handle
  | .completionTakeWriter handle => transferReply s lib.tryReserve .completionTakeWriter handle
  | .completionTakeLister handle => transferReply s lib.tryReserve .completionTakeLister handle
  | .completionTakeBuffer handle => transferReply s lib.tryReserve .completionTakeBuffer handle
  | .completionTakeMetadata handle =>
    transferReply s lib.tryReserve .completionTakeMetadata handle
  | .completionTakeMetadataSnapshot handle =>
    transferReply s lib.tryReserve .completionTakeMetadataSnapshot handle
  | .completionTakeEntryList handle =>
    transferReply s lib.tryReserve .completionTakeEntryList handle
  | .completionTakeError handle => transferReply s lib.tryReserve .completionTakeError handle
  | .completionRelease handle => releaseReply s handle .completion
  | .entryListLen handle =>
    signedReply s do
      let length ← onStore (Store.entryListLen handle)
      pure length
  | .entryListPath handle index =>
    handleReply s (onStore (Store.entryListPath handle lib.tryReserve index))
  | .entryListName handle index =>
    handleReply s (onStore (Store.entryListName handle lib.tryReserve index))
  | .entryListMode handle index =>
    signedReply s (view (entryListValue handle index (fun entry => entry.mode)))
  | .entryListContentLength handle index =>
    wordReply s (view (entryListValue handle index fun entry => entry.contentLength.toNat))
  | .entryListMetadataSnapshot handle index =>
    transferReply s lib.tryReserve (.entryListMetadataSnapshot index) handle
  | .entryListRelease handle => releaseReply s handle .entryList
  | .operatorRelease handle => releaseReply s handle .operator
  | .metadataContentLengthLow handle =>
    codeReply s (fun _ => 0) (view (metadataContentLength handle UInt64.toUInt32))
  | .metadataContentLengthHigh handle =>
    codeReply s (fun _ => 0) (view (metadataContentLength handle fun n => (n >>> 32).toUInt32))
  | .metadataIsFile handle => signedReply s (view (Bridge.metadataIsFile handle))
  | .metadataMode handle => signedReply s (view (Bridge.metadataMode handle))
  | .metadataRelease handle => releaseReply s handle .metadata
  | .lastErrorCode => (.code (Bridge.lastErrorCode s), s)
  | .lastErrorTake => handleReply s (onStore Store.lastErrorTake)
  | .lastErrorClear => (.code 0, clearLastError s)
  | .errorCode handle => codeReply s (fun _ => 0) (view (Bridge.errorCode handle))
  | .errorMessage handle => handleReply s (Bridge.errorMessage handle)
  | .errorSnapshotTake handle => transferReply s lib.tryReserve .errorSnapshotTake handle
  | .errorRelease handle => releaseReply s handle .error

end Run

/-! ## Runs -/

inductive BridgeEvent (O S W L : Type) where
  | call (lib : Library O) (called : Export)
  | publishTask (task : UInt32) (completion : Completion S W L)
  | publishResourceTask (task : UInt32) (lease : ResourceLease) (update : OwnedUpdate S W L)
      (completion : Completion S W L)
  /-- `ForcePending` is polled for the first time. -/
  | forcedPendingPoll

/-- One event; only a call has a reply. -/
def stepBridge (s : BridgeState O S W L) :
    BridgeEvent O S W L → Option Reply × BridgeState O S W L
  | .call lib called =>
    let (reply, s) := called.run s lib
    (some reply, s)
  | .publishTask task completion => (none, publishOwnedTask task completion s)
  | .publishResourceTask task lease update completion =>
    (none, publishOwnedResourceTask task lease update completion s)
  | .forcedPendingPoll =>
    (none, { s with
      -- `saturating_add`
      forcedPendingPollCount :=
        if s.forcedPendingPollCount.toNat + 1 < UInt32.size then s.forcedPendingPollCount + 1
        else s.forcedPendingPollCount })

/-- The replies of a run, and the state that it ends in. -/
def runBridge (s : BridgeState O S W L) :
    List (BridgeEvent O S W L) → List Reply × BridgeState O S W L
  | [] => ([], s)
  | event :: events =>
    let (reply, s) := stepBridge s event
    let (replies, s) := runBridge s events
    (reply.toList ++ replies, s)

end OpendalMbt.Bridge
