import OpendalMbt.Browser.SettleTask

/-!
# Completions against any bridge

`settleCompletion` of `class BridgeFacade` in `wasm/browser-runtime/index.mjs`, with the
helpers that it goes through, once more, now as a client of the exported functions of the
bridge. A call says which handle it is about, and any of them may throw.

* `BridgeCalls` is what the client sees of a bridge.
* `settleCompletion_handleBridge`: against the bridge of the handle contract, which never
  throws and does not look at the handle of a query, it is the `settleCompletion` of
  `HandleCall`.
-/

namespace OpendalMbt.Browser

open Codec Bridge Transition

structure BridgeCalls (σ : Type) where
  /-- A scalar about a handle. -/
  query : BridgeHandle → Call σ Failure Int
  /-- Copy out of a window of a buffer. -/
  copy : UInt32 → Nat → Nat → Call σ Failure (List UInt8)
  /-- `opendal_mbt_wasm_last_error_take`. -/
  lastError : Call σ Failure UInt32
  /-- A function that makes a handle out of one that stays. -/
  derive : BridgeHandle → ResourceKind → Call σ Failure UInt32
  /-- A function that moves a handle into a new one. -/
  transfer : BridgeHandle → ResourceKind → Call σ Failure UInt32
  /-- A release with a status that is looked at. -/
  release : BridgeHandle → Call σ Failure Int
  /-- A release with a status that nobody looks at. -/
  discard : BridgeHandle → σ → σ
  /-- How deep the error helpers may nest. -/
  depth : σ → Nat

namespace BridgeCalls

variable {σ : Type} (bridge : BridgeCalls σ)

def fail {α : Type} (message : String) : Call σ Failure α := Call.throw (.contract { message })

/-! ## Errors and buffers -/

section Errors

variable (takeLastError : Context → String → Call σ Failure (ErrorOutcome JsString))

/-- Throw the last error. -/
def raise {α : Type} (context : Context) (fallbackMessage : String) : Call σ Failure α := do
  let error ← takeLastError context fallbackMessage
  Call.throw (.outcome error)

/-- The loop of `takeBuffer`: copy `windows` windows from `offset` on. -/
def readWindows (handle : UInt32) (length : Nat) : Nat → Nat → Call σ Failure (List UInt8)
  | 0, _ => pure []
  | windows + 1, offset => do
    let chunkLength := min maxTransferChunk (length - offset)
    let pointer ← bridge.query ⟨.buffer, handle⟩
    if pointer = 0 then raise takeLastError checkContext "could not access a bridge buffer window"
    else do
      let part ← bridge.copy handle offset chunkLength
      let rest ← readWindows handle length windows (offset + maxTransferChunk)
      pure (part ++ rest)

def takeBufferWith (handle : UInt32) : Call σ Failure (List UInt8) :=
  Call.tryFinally
    (do
      let length ← bridge.query ⟨.buffer, handle⟩
      if length < 0 then raise takeLastError checkContext "could not query a bridge buffer length"
      else if length > maxBufferBytes then fail "bridge returned an oversized buffer"
      else bridge.readWindows takeLastError handle length.toNat (windowCount length.toNat) 0)
    (bridge.discard ⟨.buffer, handle⟩)

def takeLastErrorWithoutSnapshot : Call σ Failure String := do
  let handle ← bridge.lastError
  if handle = 0 then pure "bridge did not publish an error"
  else do
    Call.modify (bridge.discard ⟨.error, handle⟩)
    pure "bridge rejected error snapshot ownership transfer"

def decodedError (bytes : List UInt8) (context : Context) :
    Call σ Failure (ErrorOutcome JsString) :=
  match decodeErrorSnapshot textDecode bytes context with
  | .error e => Call.throw (.contract e)
  | .ok error => pure error

/-- The `finally` of the source releases the error unless its snapshot was taken. -/
def takeErrorWith (errorHandle : UInt32) (context : Context) :
    Call σ Failure (ErrorOutcome JsString) := do
  let snapshotHandle ← Call.onError (bridge.transfer ⟨.error, errorHandle⟩ .buffer)
    (bridge.discard ⟨.error, errorHandle⟩)
  if snapshotHandle = 0 then
    Call.tryFinally
      (do
        let detail ← bridge.takeLastErrorWithoutSnapshot
        fail s!"could not materialize ODE1 error snapshot: {detail}")
      (bridge.discard ⟨.error, errorHandle⟩)
  else do
    let bytes ← bridge.takeBufferWith takeLastError snapshotHandle
    decodedError bytes context

end Errors

/-- `takeLastError` and `takeError` call each other through `takeBuffer`. -/
def takeLastErrorAt : Nat → Context → String → Call σ Failure (ErrorOutcome JsString)
  | 0, _, _ => Call.throw .stackOverflow
  | depth + 1, context, fallbackMessage => do
    let errorHandle ← bridge.lastError
    if errorHandle = 0 then pure (localError "Unexpected" 1 fallbackMessage context)
    else bridge.takeErrorWith (takeLastErrorAt depth) errorHandle context

def takeLastError (context : Context) (fallbackMessage : String) :
    Call σ Failure (ErrorOutcome JsString) := fun s =>
  bridge.takeLastErrorAt (bridge.depth s) context fallbackMessage s

def takeError (errorHandle : UInt32) (context : Context) :
    Call σ Failure (ErrorOutcome JsString) :=
  bridge.takeErrorWith bridge.takeLastError errorHandle context

def takeBuffer (handle : UInt32) : Call σ Failure (List UInt8) :=
  bridge.takeBufferWith bridge.takeLastError handle

def expectHandle (handle : UInt32) (context : Context) (fallbackMessage : String) :
    Call σ Failure UInt32 :=
  if handle = 0 then raise bridge.takeLastError context fallbackMessage else pure handle

def expectStatus (status : Int) (context : Context) (fallbackMessage : String) :
    Call σ Failure Unit :=
  if status ≠ 0 then raise bridge.takeLastError context fallbackMessage else pure ()

/-- Every exception other than the two classes of the runtime is taken for malformed text. -/
def takeText (handle : UInt32) : Call σ Failure JsString := fun s =>
  match bridge.takeBuffer handle s with
  | (.error (.outcome e), s) => (.error (.outcome e), s)
  | (.error (.contract e), s) => (.error (.contract e), s)
  | (.error _, s) => fail "bridge returned non-UTF-8 text" s
  | (.ok bytes, s) =>
    match textDecode bytes with
    | none => fail "bridge returned non-UTF-8 text" s
    | some text => (.ok text, s)

def takeMetadata (handle : UInt32) : Call σ Failure (MetadataValue JsString) := do
  let bytes ← bridge.takeBuffer handle
  match decodeMetadataSnapshot textDecode bytes with
  | .error e => Call.throw (.contract e)
  | .ok metadata => pure metadata

/-! ## Entry lists -/

section Entries

variable (listHandle : UInt32) (context : Context)

def takeEntry : Call σ Failure EntryValue := do
  let pathMade ← bridge.derive ⟨.entryList, listHandle⟩ .buffer
  let pathHandle ← bridge.expectHandle pathMade context "could not take a listed path"
  let path ← bridge.takeText pathHandle
  let nameMade ← bridge.derive ⟨.entryList, listHandle⟩ .buffer
  let nameHandle ← bridge.expectHandle nameMade context "could not take a listed name"
  let name ← bridge.takeText nameHandle
  let metadataMade ← bridge.derive ⟨.entryList, listHandle⟩ .buffer
  let metadataHandle ← bridge.expectHandle metadataMade context "could not take listed metadata"
  let metadata ← bridge.takeMetadata metadataHandle
  pure { path, name, metadata }

/-- The loop of `listEntries`. -/
def takeEntries : Nat → Call σ Failure (List EntryValue)
  | 0 => pure []
  | left + 1 => do
    let entry ← bridge.takeEntry listHandle context
    let rest ← takeEntries left
    pure (entry :: rest)

def listEntries : Call σ Failure (List EntryValue) :=
  Call.tryFinally
    (do
      let length ← bridge.query ⟨.entryList, listHandle⟩
      if length < 0 then
        raise bridge.takeLastError context "could not query a list result length"
      else bridge.takeEntries listHandle context length.toNat)
    (bridge.discard ⟨.entryList, listHandle⟩)

end Entries

/-! ## Completions -/

section Completion

open HandleCall (Taken)

variable (completion : UInt32) (context : Context)

def takeInto (kind : ResourceKind) (fallbackMessage : String) : Call σ Failure UInt32 := do
  let code ← bridge.transfer ⟨.completion, completion⟩ kind
  bridge.expectHandle code context fallbackMessage

def releaseCompletion (fallbackMessage : String) : Call σ Failure Unit := do
  let status ← bridge.release ⟨.completion, completion⟩
  bridge.expectStatus status context fallbackMessage

/-- A successful completion, by its kind. -/
def takeSuccess : CompletionKind → Call σ Failure Taken
  | .read | .readerNext => do
    let buffer ← bridge.takeInto completion context .buffer
      "could not take an OpenDAL read result"
    pure (.buffer buffer)
  | .write | .stat | .copy | .writerFinish => do
    let metadata ← bridge.takeInto completion context .buffer "could not take OpenDAL metadata"
    pure (.metadata metadata)
  | .list => do
    let list ← bridge.takeInto completion context .entryList
      "could not take an OpenDAL list result"
    pure (.list list)
  | .listerNext => do
    let list ← bridge.takeInto completion context .entryList
      "could not take an OpenDAL lister entry"
    pure (.entry list)
  | .openReader => do
    let resource ← bridge.takeInto completion context .readStream
      "could not take an OpenDAL streaming resource"
    pure (.resource ⟨.readStream, resource⟩)
  | .openWriter => do
    let resource ← bridge.takeInto completion context .writer
      "could not take an OpenDAL streaming resource"
    pure (.resource ⟨.writer, resource⟩)
  | .openLister => do
    let resource ← bridge.takeInto completion context .lister
      "could not take an OpenDAL streaming resource"
    pure (.resource ⟨.lister, resource⟩)
  | .createDir | .delete | .rename | .writerWrite | .writerAbort => do
    bridge.releaseCompletion completion context "could not release an OpenDAL completion"
    pure .nothing

/-- A query of the completion whose error the bridge leaves behind as its last error. -/
def askChecked : Call σ Failure Int := do
  let answer ← bridge.query ⟨.completion, completion⟩
  let errorHandle ← bridge.lastError
  if errorHandle ≠ 0 then do
    let error ← bridge.takeError errorHandle context
    Call.throw (.outcome error)
  else pure answer

/-- The test for the end that a `next` makes first. -/
def takeNext (expectedKind : CompletionKind) : Call σ Failure Taken := do
  let isEnd ← bridge.askChecked completion context
  if isEnd ≠ 0 ∧ isEnd ≠ 1 then fail s!"bridge returned non-canonical EOF scalar {isEnd}"
  else if isEnd = 1 then do
    bridge.releaseCompletion completion context "could not release an EOF completion"
    pure .nothing
  else bridge.takeSuccess completion context expectedKind

def takeCompletion (expectedKind : CompletionKind) : Call σ Failure Taken := do
  let actualKind ← bridge.query ⟨.completion, completion⟩
  if actualKind = 0 then
    raise bridge.takeLastError context "could not inspect an OpenDAL completion"
  else if actualKind ≠ completionCode expectedKind then
    fail s!"bridge returned completion kind {actualKind}, expected {completionCode expectedKind}"
  else do
    let status ← bridge.askChecked completion context
    if status ≠ 0 then do
      let errorHandle ← bridge.takeInto completion context .error
        "could not take an OpenDAL completion error"
      pure (.error errorHandle)
    else if expectedKind = .readerNext ∨ expectedKind = .listerNext then
      bridge.takeNext completion context expectedKind
    else bridge.takeSuccess completion context expectedKind

/-- The outcome of what was taken. -/
def settleTaken : Taken → Call σ Failure (Outcome Value)
  | .nothing => pure (.ok .undefined)
  | .error handle => do
    let error ← bridge.takeError handle context
    pure (.failed error)
  | .buffer handle => do
    let bytes ← bridge.takeBuffer handle
    pure (.ok (.bytes bytes))
  | .metadata handle => do
    let metadata ← bridge.takeMetadata handle
    pure (.ok (.metadata metadata))
  | .list handle => do
    let entries ← bridge.listEntries handle context
    pure (.ok (.entries entries))
  | .entry handle => do
    let entries ← bridge.listEntries handle context
    match entries with
    | [entry] => pure (.ok (.entry entry))
    | entries =>
      fail s!"bridge returned {entries.length} entries for one non-EOF lister completion"
  | .resource handle => pure (.ok (.resource handle))

/-- The `finally` of the source releases the completion unless it was given away. -/
def settleCompletion (expectedKind : CompletionKind) : Call σ Failure (Outcome Value) := do
  let taken ← Call.onError (bridge.takeCompletion completion context expectedKind)
    (bridge.discard ⟨.completion, completion⟩)
  bridge.settleTaken context taken

end Completion

end BridgeCalls

/-! ## The bridge of the handle contract -/

/-- It asks for one answer after the other, whatever the query is about. -/
def handleBridge : BridgeCalls HandleBridge where
  query _ := HandleCall.ask
  copy handle offset length := fun b =>
    (.ok ((List.range length).map fun i => b.world.memory handle (offset + i)), b)
  lastError := HandleCall.make .error
  derive _ kind := HandleCall.make kind
  transfer := HandleCall.transfer
  release := HandleCall.release
  discard := HandleCall.released
  depth b := b.world.depth

namespace HandleCall

open BridgeCalls (raise fail)

variable {α : Type} {context : Context}

theorem ask_returns (b : HandleBridge) : ∃ answer b', ask b = (.ok answer, b') := by
  unfold ask
  cases b.world.answers with
  | nil => exact ⟨_, _, rfl⟩
  | cons answer answers => exact ⟨_, _, rfl⟩

theorem transfer_returns (source : BridgeHandle) (kind : ResourceKind) (b : HandleBridge) :
    ∃ code b', transfer source kind b = (.ok code, b') := by
  obtain ⟨answer, b', hask⟩ := ask_returns b
  have htransfer : transfer source kind b = moved source kind (UInt32.ofInt answer) b' :=
    Call.bind_apply_ok hask
  rw [htransfer]
  unfold moved
  by_cases hold : UInt32.ofInt answer = 0 ∨ Issued b' (UInt32.ofInt answer) ∨
      ¬ b'.ledger.Live source
  · exact ⟨_, _, if_pos hold⟩
  · exact ⟨_, _, if_neg hold⟩

/-- A transfer has nothing to clean up. -/
theorem onError_transfer (source : BridgeHandle) (kind : ResourceKind)
    (cleanup : HandleBridge → HandleBridge) :
    Call.onError (transfer source kind) cleanup = transfer source kind := by
  funext b
  obtain ⟨code, b', htransfer⟩ := transfer_returns source kind b
  rw [htransfer]
  exact Call.onError_eq_ok.mpr htransfer

/-- It makes no difference who does not look at a status. -/
theorem discard_eq_release (handle : BridgeHandle) (x : HandleCall α) :
    (do Call.modify (released handle); x : HandleCall α) = (do let _ ← release handle; x) := by
  funext b
  have hmodify : (Call.modify (released handle) : HandleCall Unit) b = (.ok (), released handle b) :=
    rfl
  rw [Call.bind_apply_ok hmodify]
  by_cases hlive : b.ledger.Live handle
  · rw [Call.bind_apply_ok (if_pos hlive : release handle b = _)]
  · rw [Call.bind_apply_ok (if_neg hlive : release handle b = _)]

theorem takeLastErrorWithoutSnapshot_handleBridge :
    handleBridge.takeLastErrorWithoutSnapshot = takeLastErrorWithoutSnapshot := by
  unfold BridgeCalls.takeLastErrorWithoutSnapshot takeLastErrorWithoutSnapshot
  refine congrArg (make .error >>= ·) (funext fun handle => ?_)
  split
  · rfl
  · exact discard_eq_release _ _

section TakeLastError

variable (takeLastError : Context → String → HandleCall (ErrorOutcome JsString))

theorem readWindows_handleBridge (handle : UInt32) (length windows offset : Nat) :
    handleBridge.readWindows takeLastError handle length windows offset =
      readWindows takeLastError handle length windows offset := by
  induction windows generalizing offset with
  | zero => rfl
  | succ windows ih =>
    unfold BridgeCalls.readWindows readWindows
    rw [ih]
    rfl

theorem takeBufferWith_handleBridge (handle : UInt32) :
    handleBridge.takeBufferWith takeLastError handle = takeBufferWith takeLastError handle := by
  unfold BridgeCalls.takeBufferWith takeBufferWith
  simp only [readWindows_handleBridge]
  rfl

theorem takeErrorWith_handleBridge (errorHandle : UInt32) :
    handleBridge.takeErrorWith takeLastError errorHandle context =
      takeErrorWith takeLastError errorHandle context := by
  unfold BridgeCalls.takeErrorWith takeErrorWith
  rw [takeLastErrorWithoutSnapshot_handleBridge]
  simp only [takeBufferWith_handleBridge]
  exact congrArg (· >>= _) (onError_transfer _ _ _)

end TakeLastError

theorem takeLastErrorAt_handleBridge (depth : Nat) :
    handleBridge.takeLastErrorAt depth = takeLastErrorAt depth := by
  induction depth with
  | zero => rfl
  | succ depth ih =>
    funext context fallbackMessage
    unfold BridgeCalls.takeLastErrorAt takeLastErrorAt
    rw [ih]
    simp only [takeErrorWith_handleBridge]
    rfl

theorem takeLastError_handleBridge : handleBridge.takeLastError = takeLastError := by
  funext context fallbackMessage b
  unfold BridgeCalls.takeLastError takeLastError
  rw [takeLastErrorAt_handleBridge]
  rfl

theorem takeError_handleBridge (errorHandle : UInt32) (context : Context) :
    handleBridge.takeError errorHandle context = takeError errorHandle context := by
  unfold BridgeCalls.takeError takeError
  rw [takeLastError_handleBridge, takeErrorWith_handleBridge]

theorem takeBuffer_handleBridge : handleBridge.takeBuffer = takeBuffer := by
  funext handle
  unfold BridgeCalls.takeBuffer takeBuffer
  rw [takeLastError_handleBridge, takeBufferWith_handleBridge]

theorem expectHandle_handleBridge : handleBridge.expectHandle = expectHandle := by
  unfold BridgeCalls.expectHandle expectHandle
  rw [takeLastError_handleBridge]
  rfl

theorem expectStatus_handleBridge : handleBridge.expectStatus = expectStatus := by
  unfold BridgeCalls.expectStatus expectStatus
  rw [takeLastError_handleBridge]
  rfl

theorem takeText_handleBridge : handleBridge.takeText = takeText := by
  funext handle b
  unfold BridgeCalls.takeText takeText
  rw [takeBuffer_handleBridge]
  cases takeBuffer handle b with
  | mk result b' =>
    cases result with
    | error failure => cases failure <;> rfl
    | ok bytes => cases textDecode bytes <;> rfl

theorem takeMetadata_handleBridge : handleBridge.takeMetadata = takeMetadata := by
  funext handle
  unfold BridgeCalls.takeMetadata takeMetadata
  refine (congrArg (· >>= _) (congrFun takeBuffer_handleBridge handle)).trans ?_
  refine congrArg (takeBuffer handle >>= ·) (funext fun bytes => ?_)
  cases decodeMetadataSnapshot textDecode bytes <;> rfl

theorem takeEntry_handleBridge (listHandle : UInt32) :
    handleBridge.takeEntry listHandle context = takeEntry context := by
  unfold BridgeCalls.takeEntry takeEntry
  rw [expectHandle_handleBridge, takeText_handleBridge, takeMetadata_handleBridge]
  rfl

theorem takeEntries_handleBridge (listHandle : UInt32) (left : Nat) :
    handleBridge.takeEntries listHandle context left = takeEntries context left := by
  induction left with
  | zero => rfl
  | succ left ih =>
    unfold BridgeCalls.takeEntries takeEntries
    rw [takeEntry_handleBridge, ih]

theorem listEntries_handleBridge (listHandle : UInt32) :
    handleBridge.listEntries listHandle context = listEntries listHandle context := by
  unfold BridgeCalls.listEntries listEntries
  rw [takeLastError_handleBridge]
  simp only [takeEntries_handleBridge]
  rfl

section Completion

variable (completion : UInt32)

theorem takeInto_handleBridge :
    handleBridge.takeInto completion context = takeInto completion context := by
  unfold BridgeCalls.takeInto takeInto
  rw [expectHandle_handleBridge]
  rfl

theorem releaseCompletion_handleBridge :
    handleBridge.releaseCompletion completion context = releaseCompletion completion context := by
  unfold BridgeCalls.releaseCompletion releaseCompletion
  rw [expectStatus_handleBridge]
  rfl

theorem takeSuccess_handleBridge (expectedKind : CompletionKind) :
    handleBridge.takeSuccess completion context expectedKind =
      takeSuccess completion context expectedKind := by
  cases expectedKind <;> simp only [BridgeCalls.takeSuccess, takeSuccess, takeInto_handleBridge,
    releaseCompletion_handleBridge]

theorem askChecked_handleBridge :
    handleBridge.askChecked completion context = askChecked context := by
  unfold BridgeCalls.askChecked askChecked
  simp only [takeError_handleBridge]
  rfl

theorem takeNext_handleBridge (expectedKind : CompletionKind) :
    handleBridge.takeNext completion context expectedKind =
      takeNext completion context expectedKind := by
  unfold BridgeCalls.takeNext takeNext
  rw [askChecked_handleBridge, releaseCompletion_handleBridge, takeSuccess_handleBridge]
  rfl

theorem takeCompletion_handleBridge (expectedKind : CompletionKind) :
    handleBridge.takeCompletion completion context expectedKind =
      takeCompletion completion context expectedKind := by
  unfold BridgeCalls.takeCompletion takeCompletion
  rw [takeLastError_handleBridge, askChecked_handleBridge, takeInto_handleBridge,
    takeNext_handleBridge, takeSuccess_handleBridge]
  rfl

theorem settleTaken_handleBridge (taken : Taken) :
    handleBridge.settleTaken context taken = settleTaken context taken := by
  unfold BridgeCalls.settleTaken settleTaken
  simp only [takeError_handleBridge, takeBuffer_handleBridge, takeMetadata_handleBridge,
    listEntries_handleBridge]
  rfl

/-- A bridge that keeps the handle contract sees one and the same settlement. -/
theorem settleCompletion_handleBridge (expectedKind : CompletionKind) :
    handleBridge.settleCompletion completion context expectedKind =
      settleCompletion completion context expectedKind := by
  unfold BridgeCalls.settleCompletion settleCompletion
  rw [takeCompletion_handleBridge]
  exact congrArg (_ >>= ·) (funext settleTaken_handleBridge)

end Completion

end HandleCall

end OpendalMbt.Browser
