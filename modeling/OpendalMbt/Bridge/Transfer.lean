import OpendalMbt.Bridge.Owned

/-!
# Ownership transfers of the bridge

The functions of `wasm/browser-bridge/src/lib.rs` that turn one handle into another:
`completion_take_*`, `error_snapshot_take`, `task_take` and
`entry_list_metadata_snapshot`. Each checks, takes the payload out and inserts it again
in separate steps; an `unreachable!` in between is an outcome of its own, so that it can
be shown never to happen.
-/

namespace OpendalMbt.Bridge

variable {O S W L : Type}

/-- Why a transfer stops before its end. -/
inductive Stop where
  | error (error : BridgeError)
  | unreachable
  deriving DecidableEq, Repr

/-- What the caller gets: a handle, 0 with the error recorded, or a trap (`none`). -/
def returned (out : Except Stop UInt32 × Store O S W L) : Option UInt32 × Store O S W L :=
  match out with
  | (.error .unreachable, s) => (none, s)
  | (.error (.error e), s) => (some 0, { s with lastError := some e })
  | (.ok handle, s) => (some handle, s)

def wrongCompletionType (handle : UInt32) (expected actual : CompletionKind) : BridgeError :=
  .wrongResourceType handle expected.name actual.name

namespace Store

variable (handle : UInt32) (s : Store O S W L)

def completionIsEndValue : Except BridgeError Bool :=
  match s.arena.completion handle with
  | .error e => .error e
  | .ok (.readStreamNext (.ok value)) => .ok value.isNone
  | .ok (.listerNext (.ok value)) => .ok value.isNone
  | .ok (.readStreamNext (.error e)) | .ok (.listerNext (.error e)) => .error e
  | .ok completion =>
    .error (.wrongResourceType handle "next completion"
      (match completion.kind with
      | .read => "read completion"
      | .list => "list completion"
      | _ => "non-next completion"))

/-- A payload that the limits of its kind exclude. -/
def oversized : Completion S W L → Bool
  | .read (.ok buffer) => maxBufferLength < buffer.length
  | .readStreamNext (.ok (some buffer)) => maxTransferChunk < buffer.length
  | _ => false

/-- Take a completion out that was checked before. -/
def takeCompletion : Except Stop (Completion S W L) × Store O S W L :=
  match s.arena.take handle .completion with
  | (.error e, arena) => (.error (.error e), { s with arena })
  | (.ok (.completion completion), arena) => (.ok completion, { s with arena })
  | (.ok _, arena) => (.error .unreachable, { s with arena })

def takeSuccessfulCompletion (expectedKind : CompletionKind) (needsReplacement : Bool) :
    Except Stop (Completion S W L) × Store O S W L :=
  match s.arena.completion handle with
  | .error e => (.error (.error e), s)
  | .ok completion =>
    if completion.kind ≠ expectedKind then
      (.error (.error (wrongCompletionType handle expectedKind completion.kind)), s)
    else
      match completion.error with
      | some e => (.error (.error e), s)
      | none =>
        if oversized completion then (.error (.error .bufferTooLarge), s)
        else if needsReplacement then
          match s.arena.ensureInsertCapacityAfterTake handle .completion with
          | .error e => (.error (.error e), s)
          | .ok () => takeCompletion handle s
        else takeCompletion handle s

/-- The inserted handle, with the error of the insertion. -/
def stopOnError (out : Except BridgeError UInt32 × Store O S W L) :
    Except Stop UInt32 × Store O S W L :=
  match out with
  | (.error e, s) => (.error (.error e), s)
  | (.ok handle, s) => (.ok handle, s)

/-- `state.arena.insert`, without the check of `insert_resource` for a teardown. -/
def arenaInsert (r : OwnedResource O S W L) (s : Store O S W L) :
    Except BridgeError UInt32 × Store O S W L :=
  let (result, arena) := s.arena.insert r
  (result, { s with arena })

/-- An insertion whose capacity was checked before. -/
def insertChecked (r : OwnedResource O S W L) (s : Store O S W L) :
    Except Stop UInt32 × Store O S W L :=
  match s.arena.insert r with
  | (.ok handle, arena) => (.ok handle, { s with arena })
  | (.error _, arena) => (.error .unreachable, { s with arena })

/-- Move the payload of a successful completion of one kind into a resource of its own. -/
def moveCompletion (kind : CompletionKind)
    (payload : Completion S W L → Option (OwnedResource O S W L))
    (insert : OwnedResource O S W L → Store O S W L → Except BridgeError UInt32 × Store O S W L) :
    Except Stop UInt32 × Store O S W L :=
  match takeSuccessfulCompletion handle s kind true with
  | (.error stop, s) => (.error stop, s)
  | (.ok completion, s) =>
    match payload completion with
    | some r => stopOnError (insert r s)
    | none => (.error .unreachable, s)

/-- Move the value of a successful next completion, or just consume the end. -/
def moveNext (kind : CompletionKind)
    (payload : Completion S W L → Option (Option (OwnedResource O S W L)))
    (insert : OwnedResource O S W L → Store O S W L → Except BridgeError UInt32 × Store O S W L) :
    Except Stop UInt32 × Store O S W L :=
  match completionIsEndValue handle s with
  | .error e => (.error (.error e), s)
  | .ok isEnd =>
    match takeSuccessfulCompletion handle s kind (!isEnd) with
    | (.error stop, s) => (.error stop, s)
    | (.ok completion, s) =>
      match payload completion with
      | some (some r) => stopOnError (insert r s)
      | some none => (.ok 0, s)
      | none => (.error .unreachable, s)

def insertBufferResource (r : OwnedResource O S W L) (s : Store O S W L) :
    Except BridgeError UInt32 × Store O S W L :=
  match r with
  | .buffer bytes => insertBuffer bytes s
  | r => insertResource r s

def completionTakeReadStream : Option UInt32 × Store O S W L :=
  returned (moveCompletion handle s .openReader
    (fun completion =>
      match completion with
      | .openReadStream (.ok cursor) => some (.readStream (.open cursor 0))
      | _ => none)
    insertResource)

def completionTakeWriter : Option UInt32 × Store O S W L :=
  returned (moveCompletion handle s .openWriter
    (fun completion =>
      match completion with
      | .openWriter (.ok writer) => some (.writer (.open writer 0))
      | _ => none)
    insertResource)

def completionTakeLister : Option UInt32 × Store O S W L :=
  returned (moveCompletion handle s .openLister
    (fun completion =>
      match completion with
      | .openLister (.ok lister) => some (.lister (.open lister 0))
      | _ => none)
    insertResource)

def completionTakeBuffer : Option UInt32 × Store O S W L :=
  returned <|
    match s.arena.completion handle with
    | .error e => (.error (.error e), s)
    | .ok completion =>
      match completion.kind with
      | .read =>
        moveCompletion handle s .read
          (fun completion =>
            match completion with
            | .read (.ok buffer) => some (.buffer buffer)
            | _ => none)
          insertBufferResource
      | .readerNext =>
        moveNext handle s .readerNext
          (fun completion =>
            match completion with
            | .readStreamNext (.ok buffer) => some (buffer.map .buffer)
            | _ => none)
          insertBufferResource
      | actual => (.error (.error (wrongCompletionType handle .read actual)), s)

def completionTakeMetadata : Option UInt32 × Store O S W L :=
  returned <|
    match s.arena.completion handle with
    | .error e => (.error (.error e), s)
    | .ok completion =>
      if completion.kind = .stat ∨ completion.kind = .copy ∨ completion.kind = .writerFinish then
        moveCompletion handle s completion.kind
          (fun completion =>
            match completion with
            | .stat (.ok metadata) | .copy (.ok metadata) | .writerFinish (.ok metadata) =>
              some (.metadata metadata)
            | _ => none)
          arenaInsert
      else (.error (.error (wrongCompletionType handle .stat completion.kind)), s)

def completionTakeEntryList : Option UInt32 × Store O S W L :=
  returned <|
    match s.arena.completion handle with
    | .error e => (.error (.error e), s)
    | .ok completion =>
      match completion.kind with
      | .list =>
        moveCompletion handle s .list
          (fun completion =>
            match completion with
            | .list (.ok entries) => some (.entryList entries)
            | _ => none)
          arenaInsert
      | .listerNext =>
        moveNext handle s .listerNext
          (fun completion =>
            match completion with
            | .listerNext (.ok entry) => some (entry.map (fun entry => .entryList [entry]))
            | _ => none)
          arenaInsert
      | actual => (.error (.error (wrongCompletionType handle .list actual)), s)

/-- The metadata of a completion that may carry one, or why there is none. -/
def completionMetadata (completion : Completion S W L) : Except BridgeError Metadata :=
  match completion with
  | .write result | .stat result | .copy result | .writerFinish result => result
  | completion =>
    .error (.wrongResourceType handle "successful metadata completion" completion.kind.name)

def completionTakeMetadataSnapshot (tryReserve : Nat → Bool) : Option UInt32 × Store O S W L :=
  returned <|
    match s.arena.completion handle with
    | .error e => (.error (.error e), s)
    | .ok completion =>
      match completionMetadata handle completion with
      | .error e => (.error (.error e), s)
      | .ok metadata =>
        match metadataSnapshotBytes tryReserve metadata with
        | .error e => (.error (.error e), s)
        | .ok snapshot =>
          match s.arena.ensureInsertCapacityAfterTake handle .completion with
          | .error e => (.error (.error e), s)
          | .ok () =>
            match takeCompletion handle s with
            | (.error stop, s) => (.error stop, s)
            | (.ok (.write (.ok _)), s) | (.ok (.stat (.ok _)), s) | (.ok (.copy (.ok _)), s)
            | (.ok (.writerFinish (.ok _)), s) => insertChecked (.buffer snapshot) s
            | (.ok _, s) => (.error .unreachable, s)

def completionTakeError : Option UInt32 × Store O S W L :=
  returned <|
    match s.arena.completion handle with
    | .error e => (.error (.error e), s)
    | .ok completion =>
      if completion.error.isNone then
        (.error (.error (.wrongResourceType handle "failed completion" "successful completion")), s)
      else
        match s.arena.ensureInsertCapacityAfterTake handle .completion with
        | .error e => (.error (.error e), s)
        | .ok () =>
          match takeCompletion handle s with
          | (.error stop, s) => (.error stop, s)
          | (.ok completion, s) =>
            match completion.error with
            | some error => stopOnError (arenaInsert (.error error) s)
            | none => (.error .unreachable, s)

def errorSnapshotTake (tryReserve : Nat → Bool) : Option UInt32 × Store O S W L :=
  returned <|
    match s.arena.error handle with
    | .error e => (.error (.error e), s)
    | .ok error =>
      match errorSnapshotBytes tryReserve error with
      | .error e => (.error (.error e), s)
      | .ok snapshot =>
        match s.arena.ensureInsertCapacityAfterTake handle .error with
        | .error e => (.error (.error e), s)
        | .ok () =>
          match s.arena.take handle .error with
          | (.error e, arena) => (.error (.error e), { s with arena })
          | (.ok (.error _), arena) => insertChecked (.buffer snapshot) { s with arena }
          | (.ok _, arena) => (.error .unreachable, { s with arena })

def taskTake : Option UInt32 × Store O S W L :=
  returned <|
    if s.arena.canInsert = false then (.error (.error .handleLimit), s)
    else
      match s.arena.ownedTask handle with
      | .error e => (.error (.error e), s)
      | .ok (.ready completion _) =>
        stopOnError (arenaInsert (.completion completion)
          { s with arena := s.arena.write handle (.task .consumed) })
      | .ok (.pending _) => (.error (.error (.taskNotReady handle)), s)
      | .ok .cancelled => (.error (.error (.taskNotReady handle)), s)
      | .ok .consumed => (.error (.error (.taskConsumed handle)), s)

def entryAlreadyTaken : BridgeError :=
  .invalidArgument "entry metadata snapshot has already been taken"

def entryListMetadataSnapshot (index : UInt32) : Option UInt32 × Store O S W L :=
  returned <|
    match s.arena.entryList handle with
    | .error e => (.error (.error e), s)
    | .ok entries =>
      match entries[index.toNat]? with
      | none => (.error (.error (.indexOutOfBounds index entries.length)), s)
      | some entry =>
        if entry.metadataSnapshot.isEmpty then (.error (.error entryAlreadyTaken), s)
        else if s.arena.canInsert = false then (.error (.error .handleLimit), s)
        else
          -- `mem::take`: the snapshot leaves an empty one behind
          insertChecked (.buffer entry.metadataSnapshot)
            { s with
              arena := s.arena.write handle
                (.entryList (entries.set index.toNat { entry with metadataSnapshot := [] })) }

end Store

end OpendalMbt.Bridge
