import Mathlib.Data.Fintype.OfMap
import Mathlib.Logic.Function.Basic
import OpendalMbt.Stub.LoadApi

/-!
# Results and external objects of the C stub

`moonbit_opendal_result_t`, the functions of `src/opendal_stub.c` that return one, the takes that
move its payload into external objects, and the finalizers and releases. A native handle is known
by its type and by the call of the library that has made it. The library may answer anything, and
the texts of the local errors are left out.
-/

namespace OpendalMbt.Stub

open Native Transition

/-! ## Handles -/

/-- The types of native handles; a result has one slot for each. -/
inductive HandleKind where
  | error | operator | info | buffer | metadata | lister | reader | readStream | writer | copier
  | entry | presignedRequest | asyncTask | asyncReadStream | asyncWriter
  deriving DecidableEq, Repr

instance : Fintype HandleKind :=
  Fintype.ofList
    [.error, .operator, .info, .buffer, .metadata, .lister, .reader, .readStream, .writer,
      .copier, .entry, .presignedRequest, .asyncTask, .asyncReadStream, .asyncWriter]
    (by intro kind; cases kind <;> decide)

structure NativeHandle where
  kind : HandleKind
  call : Nat
  deriving DecidableEq, Repr

inductive AsyncResultKind where
  | buffer | metadata | readStream | writer | unit
  deriving DecidableEq, Repr

/-- The handles given out so far, and those given back to the entry point of their type. -/
abbrev Handles := Ledger NativeHandle

/-- `api.kind_free(handle)`, unless the handle is null. -/
def freeHandle (kind : HandleKind) (handle : Option Nat) (handles : Handles) : Handles :=
  match handle with
  | none => handles
  | some call => handles.retire ⟨kind, call⟩

/-! ## Results -/

structure Result where
  status : Status
  boolValue : UInt8 := 0
  hasBool : Bool := false
  uint64Value : UInt64 := 0
  hasUint64 : Bool := false
  slot : HandleKind → Option Nat := fun _ => none
  asyncKind : Option AsyncResultKind := none

namespace Result

/-- `result_new` -/
def new : Result where
  status := .abiMismatch

def mismatch (r : Result) : Result := { r with status := .abiMismatch }

def clear (r : Result) (kind : HandleKind) : Result :=
  { r with slot := Function.update r.slot kind none }

def put (r : Result) (kind : HandleKind) (call : Nat) : Result :=
  { r with slot := Function.update r.slot kind (some call) }

@[simp] theorem slot_mismatch (r : Result) : r.mismatch.slot = r.slot := rfl

@[simp] theorem slot_clear (r : Result) (kind : HandleKind) :
    (r.clear kind).slot = Function.update r.slot kind none := rfl

@[simp] theorem slot_put (r : Result) (kind : HandleKind) (call : Nat) :
    (r.put kind call).slot = Function.update r.slot kind (some call) := rfl

@[simp] theorem status_clear (r : Result) (kind : HandleKind) :
    (r.clear kind).status = r.status := rfl

end Result

/-! ## Release -/

/-- One slot of `release_result_payload`, which is emptied when its entry point is offered. -/
def freeSlot (kind : HandleKind) (offered : Bool) (s : Result × Handles) : Result × Handles :=
  match s.1.slot kind with
  | none => s
  | some call => if offered then (s.1.clear kind, s.2.retire ⟨kind, call⟩) else s

/-- The slots in the order in which they are freed, and whether the library offers to. -/
def payloadFrees (api : LoadedApi) : List (HandleKind × Bool) :=
  [(.error, true), (.buffer, true), (.metadata, true), (.entry, true),
    (.lister, api.has .listerFree), (.reader, api.has .readerFree),
    (.readStream, api.offers OPENDAL_MBT_FEATURE_READ_STREAM [.readStreamFree]),
    (.writer, api.has .writerFree),
    (.copier, api.offers OPENDAL_MBT_FEATURE_COPIER [.copierFree]),
    (.presignedRequest, api.offers OPENDAL_MBT_FEATURE_PRESIGN [.presignedRequestFree]),
    (.asyncTask, api.offers OPENDAL_MBT_FEATURE_ASYNC [.asyncTaskFree]),
    (.asyncReadStream, api.offers OPENDAL_MBT_FEATURE_ASYNC [.asyncReadStreamFree]),
    (.asyncWriter, api.offers OPENDAL_MBT_FEATURE_ASYNC [.asyncWriterFree]),
    (.info, true), (.operator, true)]

def releaseResultPayload (lib : Library) (s : Result × Handles) : Result × Handles :=
  match lib.loadApi false with
  | .error _ => s
  | .ok api => (payloadFrees api).foldl (fun s free => freeSlot free.1 free.2 s) s

/-! ## Functions that return a result -/

/-- What a call of the library writes, and what `validate_operator_info` finds of its info. -/
structure Reply where
  status : Status
  fills : HandleKind → Bool
  boolValue : UInt8 := 0
  uint64Value : UInt64 := 0
  infoValid : Bool := true

/-- The slots that a function passes to the library, with the check of what comes back. -/
inductive Outputs where
  | operatorNew | operator | unit | bool | uint64
  | payload (kind : HandleKind)
  | strictPayload (kind : HandleKind)
  | streamPayload (kind : HandleKind)
  deriving DecidableEq, Repr

namespace Outputs

def kinds : Outputs → List HandleKind
  | operatorNew | operator => [.operator, .info, .error]
  | unit | bool | uint64 => [.error]
  | payload kind | strictPayload kind | streamPayload kind => [kind, .error]

/-- The end of a function, after the library has answered. -/
def check (outputs : Outputs) (reply : Reply) (r : Result) : Result :=
  let validInfo := (r.slot .info).isSome && reply.infoValid
  let failed := (r.slot .error).isSome
  match outputs with
  | operatorNew => if r.status = .ok ∧ !validInfo then r.mismatch else r
  | operator =>
    if r.status = .ok ∧ (failed ∨ (r.slot .operator).isNone ∨ !validInfo) then r.mismatch else r
  | unit => if r.status = .ok ∧ failed then r.mismatch else r
  | bool =>
    if r.status = .ok then
      if (reply.boolValue ≠ 0 ∧ reply.boolValue ≠ 1) ∨ failed then r.mismatch
      else { r with boolValue := reply.boolValue, hasBool := true }
    else r
  | uint64 =>
    if r.status = .ok then
      if failed then r.mismatch
      else { r with uint64Value := reply.uint64Value, hasUint64 := true }
    else if reply.uint64Value ≠ 0 ∨ r.status = .end ∧ failed then r.mismatch
    else r
  | payload kind =>
    if r.status = .ok ∧ ((r.slot kind).isNone ∨ failed) then r.mismatch else r
  | strictPayload kind =>
    if r.status = .ok then if (r.slot kind).isNone ∨ failed then r.mismatch else r
    else if (r.slot kind).isSome then r.mismatch
    else r
  | streamPayload kind =>
    if r.status = .ok then if (r.slot kind).isNone ∨ failed then r.mismatch else r
    else if r.status = .end then if (r.slot kind).isSome ∨ failed then r.mismatch else r
    else if (r.slot kind).isSome then r.mismatch
    else r

end Outputs

/-- A function of the stub: its `load_*_api`, the handle of its receiver, what it passes to the
library, and the kind of the task that it starts. -/
structure ResultFunction where
  load : Library → Except Status LoadedApi
  receiver : Option HandleKind
  outputs : Outputs
  asyncKind : Option AsyncResultKind := none

inductive ResultCall where
  | operatorNew | operatorS3 | operatorWithTimeout | operatorWithRetry
  | operatorWithConcurrencyLimit | operatorCheck | operatorExists | operatorStat | operatorRead
  | operatorReader | readerRead | operatorReadStream | readStreamNext | operatorWrite
  | operatorPresignRead | operatorPresignWrite | operatorPresignStat | operatorWriter
  | writerWrite | writerClose | writerAbort | asyncOperatorReadStart
  | asyncOperatorReadStreamStart | asyncReadStreamNextStart | asyncOperatorWriterStart
  | asyncWriterWriteStart | asyncWriterFinishStart | asyncWriterAbortStart | operatorCopy
  | operatorRename | operatorCreateDir | operatorDelete | operatorDeleteMany | operatorCopier
  | copierNext | copierFinish | copierAbort | operatorLister | listerNext
  deriving DecidableEq, Repr

def ResultCall.function : ResultCall → ResultFunction
  | operatorNew => ⟨(Library.loadApi · false), none, .operatorNew, none⟩
  | operatorS3 => ⟨Library.loadS3Api, none, .operator, none⟩
  | operatorWithTimeout => ⟨Library.loadLayersApi, some .operator, .operator, none⟩
  | operatorWithRetry => ⟨Library.loadLayersApi, some .operator, .operator, none⟩
  | operatorWithConcurrencyLimit =>
    ⟨Library.loadConcurrencyLimitApi, some .operator, .operator, none⟩
  | operatorCheck => ⟨(Library.loadApi · true), some .operator, .unit, none⟩
  | operatorExists => ⟨(Library.loadApi · true), some .operator, .bool, none⟩
  | operatorStat => ⟨(Library.loadApi · true), some .operator, .payload .metadata, none⟩
  | operatorRead => ⟨(Library.loadApi · true), some .operator, .payload .buffer, none⟩
  | operatorReader => ⟨Library.loadReaderApi, some .operator, .payload .reader, none⟩
  | readerRead => ⟨Library.loadReaderApi, some .reader, .payload .buffer, none⟩
  | operatorReadStream =>
    ⟨Library.loadReadStreamApi, some .operator, .strictPayload .readStream, none⟩
  | readStreamNext => ⟨Library.loadReadStreamApi, some .readStream, .streamPayload .buffer, none⟩
  | operatorWrite => ⟨(Library.loadApi · true), some .operator, .payload .metadata, none⟩
  | operatorPresignRead =>
    ⟨Library.loadPresignApi, some .operator, .strictPayload .presignedRequest, none⟩
  | operatorPresignWrite =>
    ⟨Library.loadPresignApi, some .operator, .strictPayload .presignedRequest, none⟩
  | operatorPresignStat =>
    ⟨Library.loadPresignApi, some .operator, .strictPayload .presignedRequest, none⟩
  | operatorWriter => ⟨Library.loadWriterApi, some .operator, .payload .writer, none⟩
  | writerWrite => ⟨Library.loadWriterApi, some .writer, .unit, none⟩
  | writerClose => ⟨Library.loadWriterApi, some .writer, .payload .metadata, none⟩
  | writerAbort => ⟨Library.loadWriterAbortApi, some .writer, .unit, none⟩
  | asyncOperatorReadStart =>
    ⟨Library.loadAsyncApi, some .operator, .payload .asyncTask, some .buffer⟩
  | asyncOperatorReadStreamStart =>
    ⟨Library.loadAsyncApi, some .operator, .payload .asyncTask, some .readStream⟩
  | asyncReadStreamNextStart =>
    ⟨Library.loadAsyncApi, some .asyncReadStream, .payload .asyncTask, some .buffer⟩
  | asyncOperatorWriterStart =>
    ⟨Library.loadAsyncApi, some .operator, .payload .asyncTask, some .writer⟩
  | asyncWriterWriteStart =>
    ⟨Library.loadAsyncApi, some .asyncWriter, .payload .asyncTask, some .unit⟩
  | asyncWriterFinishStart =>
    ⟨Library.loadAsyncApi, some .asyncWriter, .payload .asyncTask, some .metadata⟩
  | asyncWriterAbortStart =>
    ⟨Library.loadAsyncApi, some .asyncWriter, .payload .asyncTask, some .unit⟩
  | operatorCopy => ⟨(Library.loadApi · true), some .operator, .payload .metadata, none⟩
  | operatorRename => ⟨(Library.loadApi · true), some .operator, .unit, none⟩
  | operatorCreateDir => ⟨(Library.loadApi · true), some .operator, .unit, none⟩
  | operatorDelete => ⟨(Library.loadApi · true), some .operator, .unit, none⟩
  | operatorDeleteMany => ⟨Library.loadBatchDeleteApi, some .operator, .unit, none⟩
  | operatorCopier => ⟨Library.loadCopierApi, some .operator, .strictPayload .copier, none⟩
  | copierNext => ⟨Library.loadCopierApi, some .copier, .uint64, none⟩
  | copierFinish => ⟨Library.loadCopierApi, some .copier, .strictPayload .metadata, none⟩
  | copierAbort => ⟨Library.loadCopierApi, some .copier, .unit, none⟩
  | operatorLister => ⟨Library.loadListingApi, some .operator, .strictPayload .lister, none⟩
  | listerNext => ⟨Library.loadListingApi, some .lister, .streamPayload .entry, none⟩

/-- The function that takes the result of a task, which depends on the kind of the task. A task
without a kind has no handle. -/
def asyncTaskTakeResult : Option AsyncResultKind → ResultFunction
  | some .buffer => ⟨Library.loadAsyncApi, some .asyncTask, .streamPayload .buffer, none⟩
  | some .metadata => ⟨Library.loadAsyncApi, some .asyncTask, .payload .metadata, none⟩
  | some .readStream => ⟨Library.loadAsyncApi, some .asyncTask, .payload .asyncReadStream, none⟩
  | some .writer => ⟨Library.loadAsyncApi, some .asyncTask, .payload .asyncWriter, none⟩
  | some .unit | none => ⟨Library.loadAsyncApi, some .asyncTask, .unit, none⟩

/-- Arguments that the stub does not pass on. -/
inductive Refusal where
  | flags | localError
  deriving DecidableEq, Repr

def Refusal.status : Refusal → Status
  | flags => .abiMismatch
  | localError => .error

/-- What the checks of the arguments find, before the API is loaded and after. -/
structure Arguments where
  early : Option Refusal := none
  late : Option Refusal := none

/-- The library writes a handle into a slot. -/
def fillSlot (call : Nat) (reply : Reply) (s : Result × Handles) (kind : HandleKind) :
    Result × Handles :=
  if reply.fills kind then (s.1.put kind call, s.2.create ⟨kind, call⟩) else s

namespace ResultFunction

variable (f : ResultFunction)

/-- The library is called, and writes its handles into the new result. -/
def answered (reply : Reply) (call : Nat) (handles : Handles) : Result × Handles :=
  let s := f.outputs.kinds.foldl (fillSlot call reply)
    ({ Result.new with status := reply.status }, handles)
  (f.outputs.check reply { s.1 with asyncKind := f.asyncKind }, s.2)

def run (lib : Library) (receiver : Option Nat) (arguments : Arguments) (reply : Reply)
    (call : Nat) (handles : Handles) : Result × Handles :=
  match arguments.early with
  | some refusal => ({ Result.new with status := refusal.status }, handles)
  | none =>
    match f.load lib with
    | .error status => ({ Result.new with status }, handles)
    | .ok _ =>
      if f.receiver.isSome ∧ receiver.isNone then ({ Result.new with status := .error }, handles)
      else
        match arguments.late with
        | some refusal => ({ Result.new with status := refusal.status }, handles)
        | none => f.answered reply call handles

end ResultFunction

/-! ## External objects -/

/-- An external object of MoonBit. A `wrapper` has one handle, as `moonbit_opendal_lister_t` has. -/
inductive External where
  | result (result : Result)
  | operator (operator_ info : Option Nat)
  | metadata (metadata_ entry : Option Nat)
  | asyncTask (task : Option Nat) (kind : Option AsyncResultKind)
  | wrapper (kind : HandleKind) (handle : Option Nat)
  | collected

/-- What the finalizer of a wrapper loads before it frees the handle. -/
def Library.finalizerApi (lib : Library) : HandleKind → Except Status LoadedApi
  | .lister => lib.loadListingApi
  | .reader => lib.loadReaderApi
  | .readStream => lib.loadReadStreamApi
  | .writer => lib.loadWriterApi
  | .copier => lib.loadCopierApi
  | .presignedRequest => lib.loadPresignApi
  | .asyncTask | .asyncReadStream | .asyncWriter => lib.loadAsyncApi
  | .error | .operator | .info | .buffer | .metadata | .entry => lib.loadApi false

namespace External

/-- The finalizer of the object. -/
def finalize (lib : Library) (handles : Handles) : External → External × Handles
  | result r =>
    let s := releaseResultPayload lib (r, handles)
    (result s.1, s.2)
  | operator operator_ info =>
    match lib.loadApi false with
    | .error _ => (.operator operator_ info, handles)
    | .ok _ =>
      (.operator none none, freeHandle .operator operator_ (freeHandle .info info handles))
  | metadata metadata_ entry =>
    match lib.loadApi false with
    | .error _ => (.metadata metadata_ entry, handles)
    | .ok _ =>
      (.metadata none none, freeHandle .entry entry (freeHandle .metadata metadata_ handles))
  | asyncTask task kind =>
    match lib.finalizerApi .asyncTask with
    | .error _ => (.asyncTask task kind, handles)
    | .ok _ => (.asyncTask none kind, freeHandle .asyncTask task handles)
  | wrapper kind handle =>
    match lib.finalizerApi kind with
    | .error _ => (.wrapper kind handle, handles)
    | .ok _ => (.wrapper kind none, freeHandle kind handle handles)
  | collected => (collected, handles)

/-- The objects with a release function, which does what the finalizer does. -/
def hasRelease : External → Bool
  | result _ | metadata _ _ | wrapper .entry _ | wrapper .presignedRequest _ => true
  | operator _ _ | asyncTask _ _ | wrapper _ _ | collected => false

/-- The handle that a function uses of its receiver; `none` when the type is another one. -/
def receiver (kind : HandleKind) : External → Option (Option Nat)
  | operator operator_ _ => if kind = .operator then some operator_ else none
  | wrapper kind' handle => if kind = kind' then some handle else none
  | _ => none

end External

/-! ## Takes -/

/-- What `buffer_copy` leaves in `required` and in the destination. -/
structure CopyReply where
  status : Status
  required : Nat
  destination : List UInt8
  deriving DecidableEq, Repr

/-- `buffer_len` and `buffer_copy` on one buffer. A destination is given as its bytes, unless it is
null, with a capacity. -/
structure BufferEntries where
  len : Status × Nat
  copy : Option (List UInt8) → Nat → CopyReply

/-- What a take hands over when it does not fail. -/
inductive Taken where
  | bool (value : Bool)
  | uint64 (value : UInt64)
  | bytes (bytes : List UInt8)
  | object (object : External)

namespace Result

variable (r : Result)

def takeBool : Option Bool × Result :=
  if r.status ≠ .ok ∨ !r.hasBool ∨ (r.boolValue ≠ 0 ∧ r.boolValue ≠ 1) then (none, r.mismatch)
  else (some (r.boolValue == 1), { r with boolValue := 0, hasBool := false })

def takeUint64 : Option UInt64 × Result :=
  if r.status ≠ .ok ∨ !r.hasUint64 then (none, r.mismatch)
  else (some r.uint64Value, { r with uint64Value := 0, hasUint64 := false })

def takeOperator : Option (Nat × Nat) × Result :=
  if r.status ≠ .ok then (none, r.mismatch)
  else
    match r.slot .operator, r.slot .info with
    | some operator_, some info => (some (operator_, info), (r.clear .operator).clear .info)
    | _, _ => (none, r.mismatch)

/-- What the takes of one handle share; `valid` is the answer of the validation, if it has one. -/
def takeSlot (kind : HandleKind) (valid : Bool) : Option Nat × Result :=
  if r.status ≠ .ok then (none, r.mismatch)
  else
    match r.slot kind with
    | none => (none, r.mismatch)
    | some call => if valid then (some call, r.clear kind) else (none, r.mismatch)

def takeAsyncTask : Option (Nat × AsyncResultKind) × Result :=
  if r.status ≠ .ok then (none, r.mismatch)
  else
    match r.slot .asyncTask, r.asyncKind with
    | some task, some kind => (some (task, kind), { r.clear .asyncTask with asyncKind := none })
    | _, _ => (none, r.mismatch)

/-- `none` stands for the empty bytes of a take that has failed. -/
def takeBytes (lib : Library) (entries : BufferEntries) (handles : Handles) :
    Option (List UInt8) × Result × Handles :=
  let refused (status : Status) : Option (List UInt8) × Result × Handles :=
    (none, { r with status }, handles)
  let failed (status : Status) := refused (if status = .ok then .abiMismatch else status)
  if r.status ≠ .ok then refused .abiMismatch
  else
    match r.slot .buffer with
    | none => refused .abiMismatch
    | some buffer =>
      match lib.loadApi false with
      | .error status => refused status
      | .ok _ =>
        let len := entries.len.2
        if entries.len.1 ≠ .ok ∨ INT32_MAX < len then failed entries.len.1
        else if len = 0 then
          let copied := entries.copy none 0
          if copied.status ≠ .ok ∨ copied.required ≠ 0 then refused .abiMismatch
          else (some [], r.clear .buffer, handles.retire ⟨.buffer, buffer⟩)
        else
          let copied := entries.copy (some (List.replicate len 0)) len
          if copied.status ≠ .ok ∨ copied.required ≠ len then failed copied.status
          else (some copied.destination, r.clear .buffer, handles.retire ⟨.buffer, buffer⟩)

end Result

/-- The takes, with the answers that they get: of a validation, or of the library's buffers. -/
inductive Take where
  | bool | uint64 | operator | lister | reader | readStream | writer | copier | asyncTask
  | asyncReadStream | asyncWriter
  | entry (valid : Bool)
  | metadata (valid : Bool)
  | presignedRequest (valid : Bool)
  | bytes (entries : BufferEntries)

namespace Take

/-- A take that moves one handle into a new object. -/
def moved (handles : Handles) (object : Nat → External) (taken : Option Nat × Result) :
    Option Taken × Result × Handles :=
  (taken.1.map fun call => .object (object call), taken.2, handles)

def run (lib : Library) (r : Result) (handles : Handles) : Take → Option Taken × Result × Handles
  | bool => (r.takeBool.1.map .bool, r.takeBool.2, handles)
  | uint64 => (r.takeUint64.1.map .uint64, r.takeUint64.2, handles)
  | operator =>
    (r.takeOperator.1.map fun taken => .object (.operator (some taken.1) (some taken.2)),
      r.takeOperator.2, handles)
  | lister => moved handles (fun call => .wrapper .lister (some call)) (r.takeSlot .lister true)
  | reader => moved handles (fun call => .wrapper .reader (some call)) (r.takeSlot .reader true)
  | readStream =>
    moved handles (fun call => .wrapper .readStream (some call)) (r.takeSlot .readStream true)
  | writer => moved handles (fun call => .wrapper .writer (some call)) (r.takeSlot .writer true)
  | copier => moved handles (fun call => .wrapper .copier (some call)) (r.takeSlot .copier true)
  | asyncTask =>
    (r.takeAsyncTask.1.map fun taken => .object (.asyncTask (some taken.1) (some taken.2)),
      r.takeAsyncTask.2, handles)
  | asyncReadStream =>
    moved handles (fun call => .wrapper .asyncReadStream (some call))
      (r.takeSlot .asyncReadStream true)
  | asyncWriter =>
    moved handles (fun call => .wrapper .asyncWriter (some call)) (r.takeSlot .asyncWriter true)
  | entry valid =>
    moved handles (fun call => .wrapper .entry (some call)) (r.takeSlot .entry valid)
  | metadata valid =>
    moved handles (fun call => .metadata (some call) none) (r.takeSlot .metadata valid)
  | presignedRequest valid =>
    moved handles (fun call => .wrapper .presignedRequest (some call))
      (r.takeSlot .presignedRequest valid)
  | bytes entries =>
    let taken := r.takeBytes lib entries handles
    (taken.1.map .bytes, taken.2)

/-- The object that a failing take returns. -/
def emptyObject : Take → Option External
  | bool | uint64 | bytes _ => none
  | operator => some (.operator none none)
  | lister => some (.wrapper .lister none)
  | reader => some (.wrapper .reader none)
  | readStream => some (.wrapper .readStream none)
  | writer => some (.wrapper .writer none)
  | copier => some (.wrapper .copier none)
  | asyncTask => some (.asyncTask none none)
  | asyncReadStream => some (.wrapper .asyncReadStream none)
  | asyncWriter => some (.wrapper .asyncWriter none)
  | entry _ => some (.wrapper .entry none)
  | metadata _ => some (.metadata none none)
  | presignedRequest _ => some (.wrapper .presignedRequest none)

/-- The object that a take makes. -/
def object (t : Take) : Option Taken → Option External
  | some (.object object) => some object
  | some _ => none
  | none => t.emptyObject

end Take

/-! ## The system -/

/-- The external objects in the order in which they were made, the handles of the library, and the
number of calls. -/
structure World where
  objects : List External
  handles : Handles
  calls : Nat

def World.start : World where
  objects := []
  handles := {}
  calls := 0

/-- What MoonBit does with the stub; an object is known by its number. -/
inductive Action where
  | call (call : ResultCall) (receiver : Option Nat) (arguments : Arguments) (reply : Reply)
  | asyncTaskTakeResult (task : Nat) (reply : Reply)
  | take (result : Nat) (take : Take)
  | entryTakeMetadata (entry : Nat)
  | release (number : Nat)
  | operatorClose (number : Nat)
  | finalize (number : Nat)

namespace World

variable (lib : Library) (w : World)

/-- The handle of the receiver of a call, if the call has one and its type is right. -/
def receiver : Option HandleKind → Option Nat → Option (Option Nat)
  | none, none => some none
  | some kind, some number => w.objects[number]?.bind (External.receiver kind)
  | none, some _ | some _, none => none

/-- A function has returned a new result. -/
def produce (f : ResultFunction) (receiver : Option Nat) (arguments : Arguments) (reply : Reply) :
    World :=
  let s := f.run lib receiver arguments reply w.calls w.handles
  { objects := w.objects ++ [.result s.1], handles := s.2, calls := w.calls + 1 }

/-- One object is changed, with the handles, and others may be made. -/
def change (number : Nat) (object : External) (made : List External) (handles : Handles) : World :=
  { w with objects := w.objects.set number object ++ made, handles }

def step : Action → Option World
  | .call call receiver arguments reply =>
    (w.receiver call.function.receiver receiver).map fun handle =>
      w.produce lib call.function handle arguments reply
  | .asyncTaskTakeResult task reply =>
    match w.objects[task]? with
    | some (.asyncTask handle kind) =>
      some (w.produce lib (asyncTaskTakeResult kind) (kind.bind fun _ => handle) {} reply)
    | _ => none
  | .take result take =>
    match w.objects[result]? with
    | some (.result r) =>
      let (taken, r, handles) := take.run lib r w.handles
      some (w.change result (.result r) (take.object taken).toList handles)
    | _ => none
  | .entryTakeMetadata entry =>
    match w.objects[entry]? with
    | some (.wrapper .entry handle) =>
      some (w.change entry (.wrapper .entry none) [.metadata none handle] w.handles)
    | _ => none
  | .release number =>
    match w.objects[number]? with
    | some object =>
      let s := object.finalize lib w.handles
      if object.hasRelease then some (w.change number s.1 [] s.2) else none
    | none => none
  | .operatorClose number =>
    match w.objects[number]? with
    | some (.operator operator_ info) =>
      match lib.loadApi false with
      | .error _ => some w
      | .ok _ =>
        some (w.change number (.operator none info) [] (freeHandle .operator operator_ w.handles))
    | _ => none
  | .finalize number =>
    match w.objects[number]? with
    | none | some .collected => none
    | some object => some (w.change number .collected [] (object.finalize lib w.handles).2)

end World

end OpendalMbt.Stub
