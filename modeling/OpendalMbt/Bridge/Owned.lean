import OpendalMbt.Bridge.Lease
import OpendalMbt.Bridge.MetadataSnapshot

/-!
# Bridge resources with their payloads

`Resource`, `Completion` and `EntrySnapshot` of `wasm/browser-bridge/src/lib.rs` with what
they own. The objects that OpenDAL owns are parameters: `O` for operators, `S`, `W` and `L`
for the inner streams, writers and listers. The leased states and the tasks are those of
the lease protocol.
-/

namespace OpendalMbt.Bridge

def maxTransferChunk : Nat := 256 * 1024

structure OperatorBuilder where
  scheme : String
  config : List (String × String)
  configBytes : Nat
  deriving DecidableEq, Repr

structure EntrySnapshot where
  path : String
  name : String
  mode : Nat
  contentLength : UInt64
  metadataSnapshot : List UInt8
  deriving DecidableEq, Repr

structure ReadStreamCursor (S : Type) where
  stream : S
  pending : Option (List UInt8)
  maxChunk : Nat
  deriving DecidableEq, Repr

inductive Completion (S W L : Type) where
  | write (result : Except BridgeError Metadata)
  | read (result : Except BridgeError (List UInt8))
  | stat (result : Except BridgeError Metadata)
  | createDir (result : Except BridgeError Unit)
  | delete (result : Except BridgeError Unit)
  | list (result : Except BridgeError (List EntrySnapshot))
  | copy (result : Except BridgeError Metadata)
  | rename (result : Except BridgeError Unit)
  | openReadStream (result : Except BridgeError (ReadStreamCursor S))
  | readStreamNext (result : Except BridgeError (Option (List UInt8)))
  | openWriter (result : Except BridgeError W)
  | writerWrite (result : Except BridgeError Unit)
  | writerFinish (result : Except BridgeError Metadata)
  | writerAbort (result : Except BridgeError Unit)
  | openLister (result : Except BridgeError L)
  | listerNext (result : Except BridgeError (Option EntrySnapshot))

/-- The `COMPLETION_*` codes. -/
inductive CompletionKind where
  | write | read | stat | createDir | delete | list | copy | rename | openReader | readerNext
  | openWriter | writerWrite | writerFinish | writerAbort | openLister | listerNext
  deriving DecidableEq, Repr

def CompletionKind.name : CompletionKind → String
  | .write => "write completion"
  | .read => "read completion"
  | .stat => "stat completion"
  | .createDir => "create-dir completion"
  | .delete => "delete completion"
  | .list => "list completion"
  | .copy => "copy completion"
  | .rename => "rename completion"
  | .openReader => "open-read-stream completion"
  | .readerNext => "read-stream-next completion"
  | .openWriter => "open-writer completion"
  | .writerWrite => "writer-write completion"
  | .writerFinish => "writer-finish completion"
  | .writerAbort => "writer-abort completion"
  | .openLister => "open-lister completion"
  | .listerNext => "lister-next completion"

variable {O S W L : Type}

def Completion.kind : Completion S W L → CompletionKind
  | .write _ => .write
  | .read _ => .read
  | .stat _ => .stat
  | .createDir _ => .createDir
  | .delete _ => .delete
  | .list _ => .list
  | .copy _ => .copy
  | .rename _ => .rename
  | .openReadStream _ => .openReader
  | .readStreamNext _ => .readerNext
  | .openWriter _ => .openWriter
  | .writerWrite _ => .writerWrite
  | .writerFinish _ => .writerFinish
  | .writerAbort _ => .writerAbort
  | .openLister _ => .openLister
  | .listerNext _ => .listerNext

/-- The error of a failed completion. -/
def Completion.error : Completion S W L → Option BridgeError
  | .write (.error e) | .read (.error e) | .stat (.error e) | .createDir (.error e)
  | .delete (.error e) | .list (.error e) | .copy (.error e) | .rename (.error e)
  | .openReadStream (.error e) | .readStreamNext (.error e) | .openWriter (.error e)
  | .writerWrite (.error e) | .writerFinish (.error e) | .writerAbort (.error e)
  | .openLister (.error e) | .listerNext (.error e) => some e
  | .write (.ok _) | .read (.ok _) | .stat (.ok _) | .createDir (.ok _) | .delete (.ok _)
  | .list (.ok _) | .copy (.ok _) | .rename (.ok _) | .openReadStream (.ok _)
  | .readStreamNext (.ok _) | .openWriter (.ok _) | .writerWrite (.ok _)
  | .writerFinish (.ok _) | .writerAbort (.ok _) | .openLister (.ok _)
  | .listerNext (.ok _) => none

inductive OwnedResource (O S W L : Type) where
  | buffer (bytes : List UInt8)
  | operatorBuilder (builder : OperatorBuilder)
  | operator (operator : O)
  | metadata (metadata : Metadata)
  | error (error : BridgeError)
  | task (task : Task (Completion S W L))
  | completion (completion : Completion S W L)
  | entryList (entries : List EntrySnapshot)
  | readStream (stream : ReadStreamState (ReadStreamCursor S))
  | writer (writer : WriterState W Metadata)
  | lister (lister : ListerState L)

def OwnedResource.kind : OwnedResource O S W L → ResourceKind
  | .buffer _ => .buffer
  | .operatorBuilder _ => .operatorBuilder
  | .operator _ => .operator
  | .metadata _ => .metadata
  | .error _ => .error
  | .task _ => .task
  | .completion _ => .completion
  | .entryList _ => .entryList
  | .readStream _ => .readStream
  | .writer _ => .writer
  | .lister _ => .lister

instance : Kinded (OwnedResource O S W L) := ⟨OwnedResource.kind⟩

structure Store (O S W L : Type) where
  arena : Arena (OwnedResource O S W L) := {}
  lastError : Option BridgeError := none
  tornDown : Bool := false

/-- `handle_or_record_error` and `status`: an exported function records its error. -/
def Store.recorded {α : Type} (out : Except BridgeError α × Store O S W L) :
    Except BridgeError α × Store O S W L :=
  match out with
  | (.error e, s) => (.error e, { s with lastError := some e })
  | (.ok value, s) => (.ok value, s)

namespace Store

def insertResource (r : OwnedResource O S W L) (s : Store O S W L) :
    Except BridgeError UInt32 × Store O S W L :=
  if s.tornDown then (.error .tornDown, s)
  else
    let (result, arena) := s.arena.insert r
    (result, { s with arena })

def insertBuffer (bytes : List UInt8) (s : Store O S W L) :
    Except BridgeError UInt32 × Store O S W L :=
  if maxBufferLength < bytes.length then (.error .bufferTooLarge, s)
  else insertResource (.buffer bytes) s

def releaseResource (handle : UInt32) (expected : ResourceKind) (s : Store O S W L) :
    Except BridgeError Unit × Store O S W L :=
  recorded <|
    let (result, arena) := s.arena.release handle expected
    (result, { s with arena })

end Store

/-! ## Lookups -/

namespace OwnedResource

def buffer? : OwnedResource O S W L → Option (List UInt8)
  | .buffer value => some value
  | _ => none

def operator? : OwnedResource O S W L → Option O
  | .operator value => some value
  | _ => none

def error? : OwnedResource O S W L → Option BridgeError
  | .error value => some value
  | _ => none

def task? : OwnedResource O S W L → Option (Task (Completion S W L))
  | .task value => some value
  | _ => none

def completion? : OwnedResource O S W L → Option (Completion S W L)
  | .completion value => some value
  | _ => none

def entryList? : OwnedResource O S W L → Option (List EntrySnapshot)
  | .entryList value => some value
  | _ => none

end OwnedResource

namespace Arena

variable (a : Arena (OwnedResource O S W L)) (handle : UInt32)

/-- The lookups of one kind of resource. -/
def borrow {α : Type} (expected : ResourceKind) (select : OwnedResource O S W L → Option α) :
    Except BridgeError α :=
  match a.resource handle with
  | .error e => .error e
  | .ok r =>
    match select r with
    | some value => .ok value
    | none => .error (wrongResourceType handle expected r)

def buffer : Except BridgeError (List UInt8) := a.borrow handle .buffer OwnedResource.buffer?

def operator : Except BridgeError O := a.borrow handle .operator OwnedResource.operator?

def error : Except BridgeError BridgeError := a.borrow handle .error OwnedResource.error?

def ownedTask : Except BridgeError (Task (Completion S W L)) :=
  a.borrow handle .task OwnedResource.task?

def completion : Except BridgeError (Completion S W L) :=
  a.borrow handle .completion OwnedResource.completion?

def entryList : Except BridgeError (List EntrySnapshot) :=
  a.borrow handle .entryList OwnedResource.entryList?

variable {a handle}

theorem borrow_eq_ok {α : Type} {expected : ResourceKind}
    {select : OwnedResource O S W L → Option α} {wrap : α → OwnedResource O S W L}
    (hselect : ∀ r value, select r = some value ↔ r = wrap value) {value : α} :
    a.borrow handle expected select = .ok value ↔ a.get? handle = some (wrap value) := by
  rw [get?_eq_some, borrow]
  cases a.resource handle with
  | error e => simp
  | ok r =>
    rw [Except.ok.injEq, ← hselect]
    cases hvalue : select r <;> simp [hvalue]

theorem buffer_eq_ok {bytes : List UInt8} :
    a.buffer handle = .ok bytes ↔ a.get? handle = some (.buffer bytes) := by
  apply borrow_eq_ok
  intro r value
  cases r <;> simp [OwnedResource.buffer?]

theorem operator_eq_ok {operator : O} :
    a.operator handle = .ok operator ↔ a.get? handle = some (.operator operator) := by
  apply borrow_eq_ok
  intro r value
  cases r <;> simp [OwnedResource.operator?]

theorem error_eq_ok {error : BridgeError} :
    a.error handle = .ok error ↔ a.get? handle = some (.error error) := by
  apply borrow_eq_ok
  intro r value
  cases r <;> simp [OwnedResource.error?]

theorem ownedTask_eq_ok {task : Task (Completion S W L)} :
    a.ownedTask handle = .ok task ↔ a.get? handle = some (.task task) := by
  apply borrow_eq_ok
  intro r value
  cases r <;> simp [OwnedResource.task?]

theorem completion_eq_ok {completion : Completion S W L} :
    a.completion handle = .ok completion ↔ a.get? handle = some (.completion completion) := by
  apply borrow_eq_ok
  intro r value
  cases r <;> simp [OwnedResource.completion?]

theorem entryList_eq_ok {entries : List EntrySnapshot} :
    a.entryList handle = .ok entries ↔ a.get? handle = some (.entryList entries) := by
  apply borrow_eq_ok
  intro r value
  cases r <;> simp [OwnedResource.entryList?]

end Arena

/-! ## Buffers -/

namespace Store

/-- `opendal_mbt_wasm_buffer_new_sized`. -/
def bufferNewSized (tryReserve : Nat → Bool) (length : Nat) (s : Store O S W L) :
    Except BridgeError UInt32 × Store O S W L :=
  recorded <|
    if maxBufferLength < length then (.error .bufferTooLarge, s)
    else if tryReserve length then insertBuffer (List.replicate length 0) s
    else (.error .allocationFailed, s)

def bufferLen (handle : UInt32) (s : Store O S W L) : Except BridgeError Nat × Store O S W L :=
  recorded <|
    match s.arena.buffer handle with
    | .error e => (.error e, s)
    | .ok bytes =>
      if 2 ^ 31 ≤ bytes.length then (.error .lengthOverflow, s) else (.ok bytes.length, s)

def checkedBufferWindow (bufferLength offset length : Nat) : Except BridgeError Unit :=
  if length = 0 ∨ length > maxTransferChunk then
    .error (.invalidArgument
      s!"transfer length must be 1..={maxTransferChunk}, found {length}")
  else if UInt32.size ≤ offset + length then .error (.indexOutOfBounds 0xFFFFFFFF bufferLength)
  else if bufferLength < offset + length then
    .error (.indexOutOfBounds (UInt32.ofNat offset) bufferLength)
  else .ok ()

/-- `opendal_mbt_wasm_buffer_data_ptr`: the bytes behind the pointer are the `length` bytes
from `offset` on, which are what is returned here. -/
def bufferDataPtr (handle : UInt32) (offset length : Nat) (s : Store O S W L) :
    Except BridgeError (List UInt8) × Store O S W L :=
  recorded <|
    match s.arena.buffer handle with
    | .error e => (.error e, s)
    | .ok bytes =>
      match checkedBufferWindow bytes.length offset length with
      | .error e => (.error e, s)
      | .ok () => (.ok ((bytes.drop offset).take length), s)

/-- A store through the pointer of a window. -/
def writeWindow (handle : UInt32) (offset : Nat) (part : List UInt8) (s : Store O S W L) :
    Store O S W L :=
  match s.arena.buffer handle with
  | .error _ => s
  | .ok bytes =>
    { s with
      arena := s.arena.write handle
        (.buffer (bytes.take offset ++ part ++ bytes.drop (offset + part.length))) }

/-- `opendal_mbt_wasm_buffer_release`. -/
def bufferRelease (handle : UInt32) (s : Store O S W L) : Except BridgeError Unit × Store O S W L :=
  releaseResource handle .buffer s

end Store

end OpendalMbt.Bridge
