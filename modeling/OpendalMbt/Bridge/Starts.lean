import OpendalMbt.Bridge.Queries
import OpendalMbt.Bridge.TransferSystem
import OpendalMbt.RangeCodec

/-!
# Operations that the bridge starts

The exports of `wasm/browser-bridge/src/lib.rs` that copy their inputs out of handles and hand
a future to `spawn_local`: the task of the future is inserted first. The futures are kept as
data. What OpenDAL and the allocator answer is a parameter `lib`.

`reserve`, `publishResourceTask` and `terminalizeLease` are the lease protocol over resources
with their payloads.
-/

namespace OpendalMbt.Bridge

open Codec Transition

/-! ## The state of an instance -/

structure WriteOptions where
  append : Bool := false
  contentType : Option String := none
  contentDisposition : Option String := none
  contentEncoding : Option String := none
  cacheControl : Option String := none
  ifMatch : Option String := none
  ifNoneMatch : Option String := none
  deriving DecidableEq, Repr

structure DeleteOptions where
  version : Option String
  recursive : Bool
  deriving DecidableEq, Repr

structure ListOptions where
  recursive : Bool
  limit : Option Nat
  startAfter : Option String
  deriving DecidableEq, Repr

/-- What a task waits for. -/
inductive Future (O S W L : Type) where
  | write (operator : O) (path : String) (data : List UInt8) (options : WriteOptions)
  | read (operator : O) (path : String) (options : ReadOptions BytesRange)
  | stat (operator : O) (path : String) (options : ReadConditions)
  | createDir (operator : O) (path : String)
  | delete (operator : O) (path : String) (options : DeleteOptions)
  | list (operator : O) (path : String) (options : ListOptions)
  | copy (operator : O) (source target : String)
  | rename (operator : O) (source target : String)
  | openReadStream (operator : O) (path : String) (options : ReadStreamOptions BytesRange)
  | openWriter (operator : O) (path : String) (options : WriteOptions)
  | openLister (operator : O) (path : String) (options : ListOptions)
  | readStreamNext (cursor : ReadStreamCursor S)
  | writerWrite (writer : W) (data : List UInt8)
  | writerFinish (writer : W)
  | writerFinished (metadata : Metadata)
  | writerAbort (writer : W)
  | writerAborted
  | listerNext (lister : L)

/-- A future on the executor, with the task and the lease that it is published under. -/
structure Spawned (O S W L : Type) where
  task : UInt32
  lease : Option ResourceLease
  future : Future O S W L
  forcePending : Bool

structure BridgeState (O S W L : Type) extends Store O S W L where
  nextResourceOperation : UInt64 := 0
  forcedPendingPollCount : UInt32 := 0
  forcePendingForCanary : Bool := false
  /-- `spawn_local`, in order. -/
  spawned : List (Spawned O S W L) := []

/-- What one call is told by OpenDAL, where `none` is a pending future, and by the allocator. -/
structure Library (O : Type) where
  newMemory : Except BridgeError O
  schemes : List String
  viaIter : String → List (String × String) → Except BridgeError O
  info : O → OperatorInfo
  write : O → String → List UInt8 → Option (Except BridgeError Metadata)
  read : O → String → Option (Except BridgeError (List UInt8))
  stat : O → String → Option (Except BridgeError Metadata)
  tryReserve : Nat → Bool

variable {O S W L : Type} {α : Type}

abbrev BridgeCall (O S W L α : Type) := Call (BridgeState O S W L) BridgeError α

/-- A look at the state. -/
def view (f : BridgeState O S W L → Except BridgeError α) : BridgeCall O S W L α := fun s =>
  (f s, s)

def ofExcept (result : Except BridgeError α) : BridgeCall O S W L α := fun s => (result, s)

/-- A function of the arena and the last error. -/
def onStore (f : Store O S W L → Except BridgeError α × Store O S W L) :
    BridgeCall O S W L α := fun s =>
  ((f s.toStore).1, { s with toStore := (f s.toStore).2 })

/-! ## Lookups -/

namespace OwnedResource

def operatorBuilder? : OwnedResource O S W L → Option OperatorBuilder
  | .operatorBuilder value => some value
  | _ => none

def metadata? : OwnedResource O S W L → Option Metadata
  | .metadata value => some value
  | _ => none

end OwnedResource

namespace Arena

variable (a : Arena (OwnedResource O S W L)) (handle : UInt32)

def operatorBuilder : Except BridgeError OperatorBuilder :=
  a.borrow handle .operatorBuilder OwnedResource.operatorBuilder?

def metadata : Except BridgeError Metadata := a.borrow handle .metadata OwnedResource.metadata?

end Arena

/-! ## Inputs -/

section Inputs

variable (tryReserve : Nat → Bool)

def tryOwnedString (value : String) : Except BridgeError String :=
  if tryReserve value.utf8ByteSize then .ok value else .error .allocationFailed

def ownedUtf8Buffer (handle : UInt32) (s : BridgeState O S W L) : Except BridgeError String :=
  match s.arena.buffer handle with
  | .error e => .error e
  | .ok bytes =>
    match utf8Decode bytes with
    | none => .error .invalidUtf8
    | some text => tryOwnedString tryReserve text

def optionalOwnedUtf8Buffer (handle : UInt32) (s : BridgeState O S W L) :
    Except BridgeError (Option String) :=
  if handle = 0 then .ok none else (ownedUtf8Buffer tryReserve handle s).map some

def ownedBytes (handle : UInt32) (s : BridgeState O S W L) : Except BridgeError (List UInt8) :=
  match s.arena.buffer handle with
  | .error e => .error e
  | .ok bytes => Store.tryOwnedBytes tryReserve bytes

def ownedWriterChunk (handle : UInt32) (s : BridgeState O S W L) :
    Except BridgeError (List UInt8) :=
  match s.arena.buffer handle with
  | .error e => .error e
  | .ok bytes =>
    if maxTransferChunk < bytes.length then .error .bufferTooLarge
    else Store.tryOwnedBytes tryReserve bytes

def pathAndOperator (operatorHandle pathHandle : UInt32) : BridgeCall O S W L (O × String) := do
  let operator ← view (·.arena.operator operatorHandle)
  let path ← view (ownedUtf8Buffer tryReserve pathHandle)
  pure (operator, path)

def scalarBoolMessage (name : String) (value : UInt32) : String :=
  s!"{name} must be 0 or 1, found {value}"

def scalarBool (value : UInt32) (name : String) : Except BridgeError Bool :=
  if value = 0 then .ok false
  else if value = 1 then .ok true
  else .error (.invalidArgument (scalarBoolMessage name value))

def optionalListLimit (hasLimit : UInt32) (limit : UInt64) : Except BridgeError (Option Nat) :=
  match scalarBool hasLimit "has_limit" with
  | .error e => .error e
  | .ok false => .ok none
  | .ok true => if UInt32.size ≤ limit.toNat then .error .lengthOverflow else .ok (some limit.toNat)

/-- The scalars of the write options: the flag, then the handles of the texts. -/
structure WriteScalars where
  append : UInt32
  contentType : UInt32
  contentDisposition : UInt32
  contentEncoding : UInt32
  cacheControl : UInt32
  ifMatch : UInt32
  ifNoneMatch : UInt32

def writeOptionsFromScalars (scalars : WriteScalars) : BridgeCall O S W L WriteOptions := do
  let append ← ofExcept (scalarBool scalars.append "append")
  let contentType ← view (optionalOwnedUtf8Buffer tryReserve scalars.contentType)
  let contentDisposition ← view (optionalOwnedUtf8Buffer tryReserve scalars.contentDisposition)
  let contentEncoding ← view (optionalOwnedUtf8Buffer tryReserve scalars.contentEncoding)
  let cacheControl ← view (optionalOwnedUtf8Buffer tryReserve scalars.cacheControl)
  let ifMatch ← view (optionalOwnedUtf8Buffer tryReserve scalars.ifMatch)
  let ifNoneMatch ← view (optionalOwnedUtf8Buffer tryReserve scalars.ifNoneMatch)
  let options : WriteOptions :=
    { append, contentType, contentDisposition, contentEncoding, cacheControl, ifMatch, ifNoneMatch }
  pure options

def statOptionsFromScalars (texts : ReadTexts) : BridgeCall O S W L ReadConditions := do
  let version ← view (optionalOwnedUtf8Buffer tryReserve texts.version)
  let ifMatch ← view (optionalOwnedUtf8Buffer tryReserve texts.ifMatch)
  let ifNoneMatch ← view (optionalOwnedUtf8Buffer tryReserve texts.ifNoneMatch)
  let options : ReadConditions := { version, ifMatch, ifNoneMatch }
  pure options

end Inputs

def ERROR_UNSUPPORTED : UInt32 := 2

def suffixNotNative : BridgeError :=
  .openDal ERROR_UNSUPPORTED ERROR_STATUS_PERMANENT "Unsupported"
    "suffix reads require native backend range support"

def isSuffix : BytesRange → Bool
  | .suffix _ => true
  | .range _ _ => false

def ensureSuffixIsNative (info : O → OperatorInfo) (operator : O) (range : BytesRange) :
    Except BridgeError Unit :=
  if isSuffix range ∧ (info operator).capability.readWithSuffix = false then
    .error suffixNotNative
  else .ok ()

/-! ## Tasks without a lease -/

def spawnLocal (task : UInt32) (lease : Option ResourceLease) (future : Future O S W L) :
    BridgeCall O S W L Unit :=
  Call.modify fun s =>
    { s with spawned := s.spawned ++ [⟨task, lease, future, s.forcePendingForCanary⟩] }

def startTask (future : Future O S W L) : BridgeCall O S W L UInt32 := do
  let task ← onStore (Store.insertResource (.task (.pending none)))
  spawnLocal task none future
  pure task

section Starts

variable (lib : Library O) (operatorHandle pathHandle : UInt32)

def startReadTask (options : ReadOptions BytesRange) : BridgeCall O S W L UInt32 := do
  let (operator, path) ← pathAndOperator lib.tryReserve operatorHandle pathHandle
  ofExcept (ensureSuffixIsNative lib.info operator options.range)
  startTask (.read operator path options)

def startStatTask (options : ReadConditions) : BridgeCall O S W L UInt32 := do
  let (operator, path) ← pathAndOperator lib.tryReserve operatorHandle pathHandle
  startTask (.stat operator path options)

def startWriteTask (dataHandle : UInt32) (options : WriteOptions) :
    BridgeCall O S W L UInt32 := do
  let (operator, path) ← pathAndOperator lib.tryReserve operatorHandle pathHandle
  let data ← view (ownedBytes lib.tryReserve dataHandle)
  startTask (.write operator path data options)

/-- The two ends of a copy or a rename; `pathHandle` is where it comes from. -/
def endsAndOperator (toHandle : UInt32) : BridgeCall O S W L (O × String × String) := do
  let (operator, source) ← pathAndOperator lib.tryReserve operatorHandle pathHandle
  let target ← view (ownedUtf8Buffer lib.tryReserve toHandle)
  pure (operator, source, target)

def startCopyTask (toHandle : UInt32) : BridgeCall O S W L UInt32 := do
  let (operator, source, target) ← endsAndOperator lib operatorHandle pathHandle toHandle
  startTask (.copy operator source target)

def startRenameTask (toHandle : UInt32) : BridgeCall O S W L UInt32 := do
  let (operator, source, target) ← endsAndOperator lib operatorHandle pathHandle toHandle
  startTask (.rename operator source target)

def startCreateDirTask : BridgeCall O S W L UInt32 := do
  let (operator, path) ← pathAndOperator lib.tryReserve operatorHandle pathHandle
  startTask (.createDir operator path)

def startDeleteTask (versionHandle recursive : UInt32) : BridgeCall O S W L UInt32 := do
  let recursive ← ofExcept (scalarBool recursive "recursive")
  let (operator, path) ← pathAndOperator lib.tryReserve operatorHandle pathHandle
  let version ← view (optionalOwnedUtf8Buffer lib.tryReserve versionHandle)
  startTask (.delete operator path { version, recursive })

/-- The scalars of the list options. -/
structure ListScalars where
  recursive : UInt32
  hasLimit : UInt32
  limit : UInt64
  startAfter : UInt32

/-- The inputs of a list and of a lister. -/
def listInputs (scalars : ListScalars) : BridgeCall O S W L (O × String × ListOptions) := do
  let recursive ← ofExcept (scalarBool scalars.recursive "recursive")
  let limit ← ofExcept (optionalListLimit scalars.hasLimit scalars.limit)
  let (operator, path) ← pathAndOperator lib.tryReserve operatorHandle pathHandle
  let startAfter ← view (optionalOwnedUtf8Buffer lib.tryReserve scalars.startAfter)
  pure (operator, path, { recursive, limit, startAfter })

def startListTask (scalars : ListScalars) : BridgeCall O S W L UInt32 := do
  let (operator, path, options) ← listInputs lib operatorHandle pathHandle scalars
  startTask (.list operator path options)

def startLister (scalars : ListScalars) : BridgeCall O S W L UInt32 := do
  let (operator, path, options) ← listInputs lib operatorHandle pathHandle scalars
  startTask (.openLister operator path options)

def startReadStream (options : ReadStreamOptions BytesRange) : BridgeCall O S W L UInt32 := do
  let (operator, path) ← pathAndOperator lib.tryReserve operatorHandle pathHandle
  ofExcept (ensureSuffixIsNative lib.info operator options.range)
  startTask (.openReadStream operator path options)

def startWriter (options : WriteOptions) : BridgeCall O S W L UInt32 := do
  let (operator, path) ← pathAndOperator lib.tryReserve operatorHandle pathHandle
  startTask (.openWriter operator path options)

end Starts

/-- `publish_task`. -/
def publishOwnedTask (handle : UInt32) (completion : Completion S W L)
    (s : BridgeState O S W L) : BridgeState O S W L :=
  match s.arena.ownedTask handle with
  | .ok (.pending none) =>
    { s with arena := s.arena.write handle (.task (.ready completion none)) }
  | _ => s

/-! ## Tasks with a lease -/

/-- One of the three kinds of resource that lend what they own. -/
structure Lender (O S W L I T : Type) where
  kind : ResourceKind
  wrap : LeasedState I T → OwnedResource O S W L
  unwrap : OwnedResource O S W L → Option (LeasedState I T)
  failed : T

def Lender.readStream : Lender O S W L (ReadStreamCursor S) StreamOutcome where
  kind := .readStream
  wrap := .readStream
  unwrap r :=
    match r with
    | .readStream stream => some stream
    | _ => none
  failed := .failed

def Lender.writer : Lender O S W L W (WriterOutcome Metadata) where
  kind := .writer
  wrap := .writer
  unwrap r :=
    match r with
    | .writer writer => some writer
    | _ => none
  failed := .failed

def Lender.lister : Lender O S W L L StreamOutcome where
  kind := .lister
  wrap := .lister
  unwrap r :=
    match r with
    | .lister lister => some lister
    | _ => none
  failed := .failed

section Leases

variable {I T : Type} (F : Lender O S W L I T)

/-- `read_stream_mut`, `writer_mut` and `lister_mut`. -/
def Lender.lookup (a : Arena (OwnedResource O S W L)) (handle : UInt32) :
    Except BridgeError (LeasedState I T) :=
  a.borrow handle F.kind F.unwrap

/-- `reserve_read_stream_next`, `reserve_writer_call` and `reserve_lister_next`. -/
def Lender.reserve (handle : UInt32) : BridgeCall O S W L (UInt32 × ResourceLease × I) := fun s =>
  if s.tornDown then (.error .tornDown, s)
  else if s.arena.canInsert = false then (.error .handleLimit, s)
  else if UInt64.size ≤ s.nextResourceOperation.toNat + 1 then (.error .lengthOverflow, s)
  else
    let operation := s.nextResourceOperation + 1
    let s := { s with nextResourceOperation := operation }
    match F.lookup s.arena handle with
    | .error e => (.error e, s)
    | .ok (.busy _) => (.error (.resourceBusy handle), s)
    | .ok (.terminal _) => (.error (.resourceClosed handle), s)
    | .ok (.open inner previous) =>
      let arena := s.arena.write handle (F.wrap (.busy operation))
      let lease : ResourceLease := { handle, kind := F.kind, operation }
      match arena.insert (.task (.pending (some lease))) with
      | (.ok task, arena) => (.ok (task, lease, inner), { s with arena })
      | (.error e, arena) =>
        match F.lookup arena handle with
        | .error e' => (.error e', { s with arena })
        | .ok _ =>
          (.error e, { s with arena := arena.write handle (F.wrap (.open inner previous)) })

/-- Reserve the resource and spawn the future over what it owns. -/
def Lender.start (handle : UInt32) (future : I → Future O S W L) : BridgeCall O S W L UInt32 := do
  let (task, lease, inner) ← F.reserve handle
  spawnLocal task (some lease) (future inner)
  pure task

def Lender.applyUpdate (lease : ResourceLease) (update : LeasedUpdate I T)
    (a : Arena (OwnedResource O S W L)) : Arena (OwnedResource O S W L) :=
  match F.lookup a lease.handle with
  | .ok (.busy operation) =>
    if operation = lease.operation then
      a.write lease.handle (F.wrap (update.state lease.operation))
    else a
  | _ => a

def Lender.fail (lease : ResourceLease) (a : Arena (OwnedResource O S W L)) :
    Arena (OwnedResource O S W L) :=
  match F.lookup a lease.handle with
  | .ok (.open _ operation) | .ok (.busy operation) =>
    if operation = lease.operation then a.write lease.handle (F.wrap (.terminal F.failed)) else a
  | _ => a

end Leases

inductive OwnedUpdate (S W L : Type) where
  | readStream (update : ReadStreamUpdate (ReadStreamCursor S))
  | writer (update : WriterUpdate W Metadata)
  | lister (update : ListerUpdate L)

def OwnedUpdate.kind : OwnedUpdate S W L → ResourceKind
  | .readStream _ => .readStream
  | .writer _ => .writer
  | .lister _ => .lister

def OwnedUpdate.apply (lease : ResourceLease) (update : OwnedUpdate S W L)
    (a : Arena (OwnedResource O S W L)) : Arena (OwnedResource O S W L) :=
  match update with
  | .readStream update => Lender.readStream.applyUpdate lease update a
  | .writer update => Lender.writer.applyUpdate lease update a
  | .lister update => Lender.lister.applyUpdate lease update a

/-- `publish_resource_task`. -/
def publishOwnedResourceTask (taskHandle : UInt32) (lease : ResourceLease)
    (update : OwnedUpdate S W L) (completion : Completion S W L) (s : BridgeState O S W L) :
    BridgeState O S W L :=
  match s.arena.ownedTask taskHandle with
  | .ok (.pending (some current)) =>
    if current ≠ lease ∨ update.kind ≠ lease.kind then s
    else
      let arena := update.apply lease s.arena
      match arena.ownedTask taskHandle with
      | .ok (.pending (some current)) =>
        if current = lease then
          { s with arena := arena.write taskHandle (.task (.ready completion (some lease))) }
        else { s with arena }
      | _ => { s with arena }
  | _ => s

/-- `terminalize_lease` of the lease of a task, if it still has one. -/
def terminalizeOwnedTask (task : Task (Completion S W L)) (a : Arena (OwnedResource O S W L)) :
    Arena (OwnedResource O S W L) :=
  match taskLease task with
  | none => a
  | some lease =>
    match lease.kind with
    | .readStream => Lender.readStream.fail lease a
    | .writer => Lender.writer.fail lease a
    | .lister => Lender.lister.fail lease a
    | _ => a

def readStreamNextStart (handle : UInt32) : BridgeCall O S W L UInt32 :=
  Lender.readStream.start handle .readStreamNext

def writerWriteStart (tryReserve : Nat → Bool) (writerHandle dataHandle : UInt32) :
    BridgeCall O S W L UInt32 := do
  let data ← view (ownedWriterChunk tryReserve dataHandle)
  Lender.writer.start writerHandle fun writer => .writerWrite writer data

def writerFinishStart (handle : UInt32) : BridgeCall O S W L UInt32 := do
  match ← view (Lender.writer.lookup ·.arena handle) with
  | .terminal (.finished metadata) => startTask (.writerFinished metadata)
  | .open _ _ => Lender.writer.start handle .writerFinish
  | .busy _ => Call.throw (.resourceBusy handle)
  | .terminal .aborted | .terminal .failed => Call.throw (.resourceClosed handle)

def writerAbortStart (handle : UInt32) : BridgeCall O S W L UInt32 := do
  match ← view (Lender.writer.lookup ·.arena handle) with
  | .terminal .aborted => startTask .writerAborted
  | .open _ _ => Lender.writer.start handle .writerAbort
  | .busy _ => Call.throw (.resourceBusy handle)
  | .terminal (.finished _) | .terminal .failed => Call.throw (.resourceClosed handle)

def listerNextStart (handle : UInt32) : BridgeCall O S W L UInt32 :=
  Lender.lister.start handle .listerNext

end OpendalMbt.Bridge
