import OpendalMbt.Browser.Futures
import OpendalMbt.Browser.Request
import OpendalMbt.Transition.Run

/-!
# Promises over the bridge

The operations, the openings and the calls of the opened resources of
`wasm/browser-runtime/index.mjs`, in flight together over one bridge: each `settleTask` has its
task, and the executor runs the futures in any order. Of an object of the runtime only the handle
is kept, and whether the object lets a call through is left to the order of the events.

* `ResourceCall.start`: the starts of `BrowserReadStream`, `BrowserWriter` and `BrowserLister`;
* `cancelTask`: the abort of a `settleTask`;
* `PromiseWorld.step`: one event.
-/

namespace OpendalMbt.Browser

open Codec Bridge Transition FacadeCall

/-- The calls of the resources that an operator opens. -/
inductive ResourceCall where
  /-- `BrowserReadStream.next`. -/
  | nextChunk
  | write (data : List UInt8)
  | finish
  | abort
  /-- `BrowserLister.next`. -/
  | nextEntry
  deriving DecidableEq, Repr

namespace ResourceCall

def kind : ResourceCall → ResourceKind
  | nextChunk => .readStream
  | write _ | finish | abort => .writer
  | nextEntry => .lister

def expectedKind : ResourceCall → CompletionKind
  | nextChunk => .readerNext
  | write _ => .writerWrite
  | finish => .writerFinish
  | abort => .writerAbort
  | nextEntry => .listerNext

def fallbackMessage : ResourceCall → String
  | nextChunk => "could not read the next OpenDAL stream chunk"
  | write _ => "could not write an OpenDAL writer chunk"
  | finish => "could not finish an OpenDAL writer"
  | abort => "could not abort an OpenDAL writer"
  | nextEntry => "could not read the next OpenDAL lister entry"

/-- The export that is called, with the handle of the data of a write. -/
def call (handle dataHandle : UInt32) : ResourceCall → Export
  | nextChunk => .readStreamNextStart handle
  | write _ => .writerWriteStart handle dataHandle
  | finish => .writerFinishStart handle
  | abort => .writerAbortStart handle
  | nextEntry => .listerNextStart handle

variable {O S W L : Type} (host : Host) (context : Context) (lib : Library O) (handle : UInt32)

/-- The export, for a handle. -/
def begin (called : ResourceCall) (dataHandle : UInt32) :
    Call (BridgeState O S W L) Failure UInt32 := do
  inStore clearLastError
  callHandle host context lib (called.call handle dataHandle) called.fallbackMessage

def start (called : ResourceCall) : Call (BridgeState O S W L) Failure UInt32 :=
  match called with
  | write data => do
    let dataHandle ← inStore (putBytes host data context)
    Call.tryFinally ((write data).begin host context lib handle dataHandle)
      (fun s => { s with toStore := (Store.bufferRelease dataHandle s.toStore).2 })
  | called => called.begin host context lib handle 0

/-- The futures that a call may start: one on what the resource owned, or one that repeats an
outcome. -/
def Wants : ResourceCall → Future O S W L → Prop
  | nextChunk, .readStreamNext _ => True
  | write data, .writerWrite _ data' => data' = data
  | finish, .writerFinish _ | finish, .writerFinished _ => True
  | abort, .writerAbort _ | abort, .writerAborted => True
  | nextEntry, .listerNext _ => True
  | _, _ => False

end ResourceCall

/-- What a Promise is for. -/
inductive Wanted (O : Type) where
  | operation (operator : O) (request : Request)
  | resource (handle : UInt32) (called : ResourceCall)

namespace Wanted

variable {O S W L : Type}

def expectedKind : Wanted O → CompletionKind
  | operation _ request => request.expectedKind
  | resource _ called => called.expectedKind

/-- A future that does what is wanted. -/
def Matches : Wanted O → Future O S W L → Prop
  | operation operator request, future => future = request.future operator
  | resource _ called, future => called.Wants future

end Wanted

/-- A `settleTask` that has not settled. -/
structure Pending (O : Type) where
  task : UInt32
  wanted : Wanted O
  context : Context

/-- How a `settleTask` ends. -/
inductive Ending where
  | outcome (outcome : Outcome Value)
  | failure (failure : Failure)
  | cancelled

/-- A future that has run. -/
structure Answered (O S W L : Type) where
  spawned : Spawned O S W L
  tryReserve : Nat → Bool
  answer : UpstreamAnswer S W L
  update : Option (OwnedUpdate S W L)
  completion : Completion S W L

/-- The bridge with what the runtime holds of it. What was answered and what has settled are
histories. -/
structure PromiseWorld (O S W L : Type) where
  bridge : BridgeState O S W L
  operators : List (UInt32 × O)
  resources : List BridgeHandle := []
  waiting : List (Pending O) := []
  answered : List (Answered O S W L) := []
  settled : List (Pending O × Ending) := []

inductive PromiseEvent (O S W L : Type) where
  | request (host : Host) (context : Context) (lib : Library O) (i : Nat) (request : Request)
  | call (host : Host) (context : Context) (lib : Library O) (i : Nat) (called : ResourceCall)
  /-- The executor runs a future to its end. -/
  | answer (i : Nat) (tryReserve : Nat → Bool) (answer : UpstreamAnswer S W L)
  | poll (i : Nat) (host : Host)
  | cancel (i : Nat)
  | closeOperator (i : Nat)
  | closeResource (i : Nat)

section Steps

variable {O S W L : Type}

/-- `onAbort`: the task is cancelled and released; nobody looks at the statuses. -/
def cancelTask (task : UInt32) (s : Store O S W L) : Store O S W L :=
  releaseTask task (status (ownedTaskCancel task) { toStore := s }).2.toStore

/-- A future publishes what it ends with. -/
def publish (task : UInt32) (lease : Option ResourceLease) (update : Option (OwnedUpdate S W L))
    (completion : Completion S W L) (s : BridgeState O S W L) : BridgeState O S W L :=
  match lease, update with
  | none, none => publishOwnedTask task completion s
  | some lease, some update => publishOwnedResourceTask task lease update completion s
  | _, _ => s

/-- The resource that a Promise was handed. -/
def Outcome.handed : Outcome Value → Option BridgeHandle
  | .ok (.resource handle) => some handle
  | _ => none

namespace PromiseWorld

variable (w : PromiseWorld O S W L)

def begun (wanted : Wanted O) (context : Context) :
    Except Failure UInt32 × BridgeState O S W L → PromiseWorld O S W L
  | (.ok task, s) => { w with bridge := s, waiting := w.waiting ++ [⟨task, wanted, context⟩] }
  | (.error _, s) => { w with bridge := s }

/-- The Promise has ended. -/
def ended (i : Nat) (promise : Pending O) (ending : Ending) (store : Store O S W L) :
    PromiseWorld O S W L :=
  { w with
    bridge := { w.bridge with toStore := store }
    waiting := w.waiting.eraseIdx i
    settled := w.settled ++ [(promise, ending)] }

def polled (i : Nat) (promise : Pending O) :
    Except Failure (Option (Outcome Value)) × Store O S W L → PromiseWorld O S W L
  | (.ok none, store) => { w with bridge := { w.bridge with toStore := store } }
  | (.ok (some outcome), store) =>
    { w.ended i promise (.outcome outcome) store with
      resources := w.resources ++ outcome.handed.toList }
  | (.error failure, store) => w.ended i promise (.failure failure) store

def step : PromiseEvent O S W L → Option (PromiseWorld O S W L)
  | .request host context lib i request => do
    let (handle, operator) ← w.operators[i]?
    some (w.begun (.operation operator request) context
      (request.start host context lib handle w.bridge))
  | .call host context lib i called => do
    let resource ← w.resources[i]?
    if called.kind = resource.kind then
      some (w.begun (.resource resource.code called) context
        (called.start host context lib resource.code w.bridge))
    else none
  | .answer i tryReserve answer => do
    let f ← w.bridge.spawned[i]?
    let (update, completion) ← f.future.run tryReserve answer
    some { w with
      bridge := { publish f.task f.lease update completion w.bridge with
        spawned := w.bridge.spawned.eraseIdx i }
      answered := w.answered ++ [⟨f, tryReserve, answer, update, completion⟩] }
  | .poll i host => do
    let promise ← w.waiting[i]?
    some (w.polled i promise
      (pollTask host promise.task promise.wanted.expectedKind promise.context w.bridge.toStore))
  | .cancel i => do
    let promise ← w.waiting[i]?
    some (w.ended i promise .cancelled (cancelTask promise.task w.bridge.toStore))
  | .closeOperator i => do
    let (handle, _) ← w.operators[i]?
    some { w with
      bridge := { w.bridge with
        toStore := (Store.releaseResource handle .operator w.bridge.toStore).2 }
      operators := w.operators.eraseIdx i }
  | .closeResource i => do
    let resource ← w.resources[i]?
    some { w with
      bridge := { w.bridge with
        toStore := (Store.releaseResource resource.code resource.kind w.bridge.toStore).2 }
      resources := w.resources.eraseIdx i }

end PromiseWorld

end Steps

end OpendalMbt.Browser
