import OpendalMbt.Bridge.Exports
import OpendalMbt.Browser.SettleTask

/-!
# Completions of a store

One round of `poll` in `settleTask`, and `settleCompletion`, of `class BridgeFacade` in
`wasm/browser-runtime/index.mjs`, over the store of the bridge itself: what is asked of a handle
is answered by the resource that it names. A round runs to its end without giving up control.
-/

namespace OpendalMbt.Browser.FacadeCall

open Codec Bridge Transition

variable {O S W L : Type}

/-- What an export tells about the store, and the error that it records. -/
def asked {α : Type} (f : BridgeState O S W L → Except BridgeError α) (s : Store O S W L) :
    Except BridgeError α × Store O S W L :=
  Store.recorded (f { toStore := s }, s)

/-- The same for an export with a value that stands for failure. -/
def askedOr {α : Type} (failed : BridgeError → α) (f : BridgeState O S W L → Except BridgeError α)
    (s : Store O S W L) : α × Store O S W L :=
  match asked f s with
  | (.error e, s) => (failed e, s)
  | (.ok value, s) => (value, s)

section Completion

variable (host : Host) (completion : UInt32) (context : Context)

/-- The answer counts unless it left an error behind. -/
def askChecked {α : Type} (failed : BridgeError → α)
    (f : BridgeState O S W L → Except BridgeError α) : FacadeCall O S W L α := do
  clearLastError
  let answer ← fun s => (.ok (askedOr failed f s).1, (askedOr failed f s).2)
  let errorHandle ← lastErrorTake
  if errorHandle ≠ 0 then do
    let error ← takeError host errorHandle context
    Call.throw (.outcome error)
  else pure answer

def takeInto (f : Store O S W L → Option UInt32 × Store O S W L) (fallbackMessage : String) :
    FacadeCall O S W L UInt32 := do
  clearLastError
  expectMoved (takeLastError host) f context fallbackMessage

def releaseCompletion (fallbackMessage : String) : FacadeCall O S W L Unit :=
  expect host (Store.releaseResource completion .completion) context fallbackMessage

open HandleCall (Taken)

/-- A successful completion, by its kind. -/
def takeSuccess : CompletionKind → FacadeCall O S W L Taken
  | .read | .readerNext => do
    let buffer ← takeInto host context (Store.completionTakeBuffer completion)
      "could not take an OpenDAL read result"
    pure (.buffer buffer)
  | .write | .stat | .copy | .writerFinish => do
    let metadata ← takeInto host context
      (fun s => Store.completionTakeMetadataSnapshot completion s host.tryReserve)
      "could not take OpenDAL metadata"
    pure (.metadata metadata)
  | .list => do
    let list ← takeInto host context (Store.completionTakeEntryList completion)
      "could not take an OpenDAL list result"
    pure (.list list)
  | .listerNext => do
    let list ← takeInto host context (Store.completionTakeEntryList completion)
      "could not take an OpenDAL lister entry"
    pure (.entry list)
  | .openReader => do
    let resource ← takeInto host context (Store.completionTakeReadStream completion)
      "could not take an OpenDAL streaming resource"
    pure (.resource ⟨.readStream, resource⟩)
  | .openWriter => do
    let resource ← takeInto host context (Store.completionTakeWriter completion)
      "could not take an OpenDAL streaming resource"
    pure (.resource ⟨.writer, resource⟩)
  | .openLister => do
    let resource ← takeInto host context (Store.completionTakeLister completion)
      "could not take an OpenDAL streaming resource"
    pure (.resource ⟨.lister, resource⟩)
  | .createDir | .delete | .rename | .writerWrite | .writerAbort => do
    releaseCompletion host completion context "could not release an OpenDAL completion"
    pure .nothing

/-- The test for the end that a `next` makes first. -/
def takeNext (expectedKind : CompletionKind) : FacadeCall O S W L Taken := do
  let isEnd ← askChecked host context (fun _ => SCALAR_ERROR) (Bridge.completionIsEnd completion)
  if isEnd ≠ 0 ∧ isEnd ≠ 1 then fail s!"bridge returned non-canonical EOF scalar {isEnd}"
  else if isEnd = 1 then do
    releaseCompletion host completion context "could not release an EOF completion"
    pure .nothing
  else takeSuccess host completion context expectedKind

def takeCompletion (expectedKind : CompletionKind) : FacadeCall O S W L Taken := do
  clearLastError
  let actualKind ← expect host (asked (Bridge.completionKind completion)) context
    "could not inspect an OpenDAL completion"
  if actualKind ≠ expectedKind.code then
    fail s!"bridge returned completion kind {actualKind}, expected {expectedKind.code}"
  else do
    let status ← askChecked host context BridgeError.code (Bridge.completionStatus completion)
    if status ≠ 0 then do
      let errorHandle ← takeInto host context (Store.completionTakeError completion)
        "could not take an OpenDAL completion error"
      pure (.error errorHandle)
    else if expectedKind = .readerNext ∨ expectedKind = .listerNext then
      takeNext host completion context expectedKind
    else takeSuccess host completion context expectedKind

/-- The outcome of what was taken. -/
def settleTaken : Taken → FacadeCall O S W L (Outcome Value)
  | .nothing => pure (.ok .undefined)
  | .error handle => do
    let error ← takeError host handle context
    pure (.failed error)
  | .buffer handle => do
    let bytes ← takeBuffer host handle
    pure (.ok (.bytes bytes))
  | .metadata handle => do
    let metadata ← takeMetadata host handle
    pure (.ok (.metadata metadata))
  | .list handle => do
    let entries ← listEntries host handle context
    pure (.ok (.entries entries))
  | .entry handle => do
    let entries ← listEntries host handle context
    match entries with
    | [entry] => pure (.ok (.entry entry))
    | entries =>
      fail s!"bridge returned {entries.length} entries for one non-EOF lister completion"
  | .resource handle => pure (.ok (.resource handle))

/-- The `finally` of the source releases the completion unless it was given away. -/
def settleCompletion (expectedKind : CompletionKind) : FacadeCall O S W L (Outcome Value) := do
  let taken ← Call.onError (takeCompletion host completion context expectedKind)
    (fun s => (Store.releaseResource completion .completion s).2)
  settleTaken host context taken

end Completion

section Task

variable (host : Host) (task : UInt32) (expectedKind : CompletionKind) (context : Context)

/-- `releaseTask`; nobody looks at the status. -/
def releaseTask (s : Store O S W L) : Store O S W L :=
  (status (ownedTaskRelease task) { toStore := s }).2.toStore

/-- One round of `poll`: nothing while the task is pending. -/
def pollTask : FacadeCall O S W L (Option (Outcome Value)) := do
  clearLastError
  let state ← fun s =>
    (.ok (askedOr (fun _ => 0) (taskState task) s).1, (askedOr (fun _ => 0) (taskState task) s).2)
  if state = 1 then pure none
  else if state = 3 then do
    Call.modify (releaseTask task)
    pure (some (.failed (cancelledError context)))
  else if state = 0 then do
    let error ← Call.onError (takeLastError host context "could not poll an OpenDAL task")
      (releaseTask task)
    Call.modify (releaseTask task)
    pure (some (.failed error))
  else if state ≠ 2 then do
    Call.modify (releaseTask task)
    if state = 4 then fail "bridge exposed a consumed task to its Promise owner"
    else fail s!"bridge returned unknown task state {state}"
  else do
    let completion ← Call.onError
      (takeInto host context (Store.taskTake task) "could not take a ready OpenDAL task")
      (releaseTask task)
    Call.modify (releaseTask task)
    let outcome ← settleCompletion host completion context expectedKind
    pure (some outcome)

end Task

end OpendalMbt.Browser.FacadeCall
