import OpendalMbt.Bridge.Arena

/-!
# Leases of stateful bridge resources

A read stream, a writer or a lister lends its inner object to one operation at a time. The
operation is a task with a `ResourceLease`: the handle of the resource, its kind, and an
operation token that is never used twice. `reserve_*` takes the inner object and leaves
the resource busy with the token; `publish_resource_task` stores the outcome if the task is
still pending and the resource still busy with that token; `task_cancel` and `task_release`
fail a resource whose current token is the task's.

The three kinds differ in what an operation may end with, and their functions are one
definition over `Stateful`.
-/

namespace OpendalMbt.Bridge

/-- The state of a resource that lends its inner object; `operation` is the token of the
last operation to have it. -/
inductive LeasedState (I T : Type) where
  | open (inner : I) (operation : UInt64)
  | busy (operation : UInt64)
  | terminal (outcome : T)
  deriving DecidableEq, Repr

/-- What an operation hands to its resource when it is published. -/
inductive LeasedUpdate (I T : Type) where
  | open (inner : I)
  | terminal (outcome : T)
  deriving DecidableEq, Repr

inductive StreamOutcome where
  | end | failed
  deriving DecidableEq, Repr

inductive WriterOutcome (M : Type) where
  | finished (metadata : M)
  | aborted | failed
  deriving DecidableEq, Repr

abbrev ReadStreamState (I : Type) := LeasedState I StreamOutcome
abbrev WriterState (I M : Type) := LeasedState I (WriterOutcome M)
abbrev ListerState (I : Type) := LeasedState I StreamOutcome

abbrev ReadStreamUpdate (I : Type) := LeasedUpdate I StreamOutcome
abbrev WriterUpdate (I M : Type) := LeasedUpdate I (WriterOutcome M)
abbrev ListerUpdate (I : Type) := LeasedUpdate I StreamOutcome

structure ResourceLease where
  handle : UInt32
  kind : ResourceKind
  operation : UInt64
  deriving DecidableEq, Repr

inductive Task (X : Type) where
  | pending (lease : Option ResourceLease)
  | ready (completion : X) (lease : Option ResourceLease)
  | cancelled
  | consumed
  deriving DecidableEq, Repr

/-- The kinds of resource whose content no operation here reads. -/
inductive PlainKind where
  | buffer | operatorBuilder | operator | metadata | error | entryList
  deriving DecidableEq, Repr

def PlainKind.kind : PlainKind → ResourceKind
  | .buffer => .buffer
  | .operatorBuilder => .operatorBuilder
  | .operator => .operator
  | .metadata => .metadata
  | .error => .error
  | .entryList => .entryList

/-- `I` are the inner objects (cursors, writers, listers), `M` the metadata of a finished
writer, `X` the completions. -/
inductive Resource (I M X : Type) where
  | plain (kind : PlainKind)
  | task (task : Task X)
  | completion (completion : X)
  | readStream (stream : ReadStreamState I)
  | writer (writer : WriterState I M)
  | lister (lister : ListerState I)
  deriving DecidableEq, Repr

variable {I M X T : Type}

def Resource.kind : Resource I M X → ResourceKind
  | .plain kind => kind.kind
  | .task _ => .task
  | .completion _ => .completion
  | .readStream _ => .readStream
  | .writer _ => .writer
  | .lister _ => .lister

instance : Kinded (Resource I M X) := ⟨Resource.kind⟩

inductive ResourceUpdate (I M : Type) where
  | readStream (update : ReadStreamUpdate I)
  | writer (update : WriterUpdate I M)
  | lister (update : ListerUpdate I)
  deriving DecidableEq, Repr

def ResourceUpdate.kind : ResourceUpdate I M → ResourceKind
  | .readStream _ => .readStream
  | .writer _ => .writer
  | .lister _ => .lister

/-- The inner object that an update gives back. -/
def ResourceUpdate.inner : ResourceUpdate I M → Option I
  | .readStream (.open inner) | .writer (.open inner) | .lister (.open inner) => some inner
  | .readStream (.terminal _) | .writer (.terminal _) | .lister (.terminal _) => none

structure State (I M X : Type) where
  arena : Arena (Resource I M X) := {}
  lastError : Option BridgeError := none
  nextResourceOperation : UInt64 := 0
  tornDown : Bool := false

/-- The state apart from its outcome. -/
def LeasedState.forget : LeasedState I T → LeasedState I Unit
  | .open inner operation => .open inner operation
  | .busy operation => .busy operation
  | .terminal _ => .terminal ()

/-- The current token: a terminal state has none. -/
def LeasedState.token : LeasedState I T → Option UInt64
  | .open _ operation | .busy operation => some operation
  | .terminal _ => none

@[simp] theorem LeasedState.token_forget (state : LeasedState I T) :
    state.forget.token = state.token := by
  cases state <;> rfl

def Resource.leased : Resource I M X → Option (LeasedState I Unit)
  | .readStream state => some state.forget
  | .writer state => some state.forget
  | .lister state => some state.forget
  | .plain _ | .task _ | .completion _ => none

/-- One of the three kinds of resource with a leased state; `wrap` is onto the resources of
the kind. -/
structure Stateful (I M X T : Type) where
  kind : ResourceKind
  wrap : LeasedState I T → Resource I M X
  unwrap : Resource I M X → Option (LeasedState I T)
  failed : T
  unwrap_iff : ∀ {r state}, unwrap r = some state ↔ r = wrap state
  kind_iff : ∀ {r}, r.kind = kind ↔ ∃ state, r = wrap state
  leased_wrap : ∀ state, (wrap state).leased = some state.forget

theorem PlainKind.kind_ne (kind : PlainKind) :
    kind.kind ≠ .readStream ∧ kind.kind ≠ .writer ∧ kind.kind ≠ .lister ∧ kind.kind ≠ .task := by
  cases kind <;> decide

def Stateful.readStream (I M X : Type) : Stateful I M X StreamOutcome where
  kind := .readStream
  wrap := .readStream
  unwrap r :=
    match r with
    | .readStream stream => some stream
    | _ => none
  failed := .failed
  unwrap_iff := by
    intro r state
    cases r <;> simp
  kind_iff := by
    intro r
    cases r <;> simp [Resource.kind, PlainKind.kind_ne]
  leased_wrap _ := rfl

def Stateful.writer (I M X : Type) : Stateful I M X (WriterOutcome M) where
  kind := .writer
  wrap := .writer
  unwrap r :=
    match r with
    | .writer writer => some writer
    | _ => none
  failed := .failed
  unwrap_iff := by
    intro r state
    cases r <;> simp
  kind_iff := by
    intro r
    cases r <;> simp [Resource.kind, PlainKind.kind_ne]
  leased_wrap _ := rfl

def Stateful.lister (I M X : Type) : Stateful I M X StreamOutcome where
  kind := .lister
  wrap := .lister
  unwrap r :=
    match r with
    | .lister lister => some lister
    | _ => none
  failed := .failed
  unwrap_iff := by
    intro r state
    cases r <;> simp
  kind_iff := by
    intro r
    cases r <;> simp [Resource.kind, PlainKind.kind_ne]
  leased_wrap _ := rfl

/-! ## Lookups -/

namespace Arena

variable (a : Arena (Resource I M X)) (handle : UInt32)

def task : Except BridgeError (Task X) :=
  match a.resource handle with
  | .error e => .error e
  | .ok (.task task) => .ok task
  | .ok r => .error (wrongResourceType handle .task r)

/-- `read_stream_mut`, `writer_mut` and `lister_mut`. -/
def leasedMut (F : Stateful I M X T) : Except BridgeError (LeasedState I T) :=
  match a.resource handle with
  | .error e => .error e
  | .ok r =>
    match F.unwrap r with
    | some state => .ok state
    | none => .error (wrongResourceType handle F.kind r)

end Arena

/-! ## Starting an operation -/

def allocateResourceOperation (s : State I M X) : Except BridgeError UInt64 × State I M X :=
  if s.nextResourceOperation.toNat + 1 < UInt64.size then
    let operation := s.nextResourceOperation + 1
    (.ok operation, { s with nextResourceOperation := operation })
  else (.error .lengthOverflow, s)

/-- Take the inner object out of an open resource and insert the task that will give it
back; a resource that is not open stays as it was. -/
def reserve (F : Stateful I M X T) (handle : UInt32) (s : State I M X) :
    Except BridgeError (UInt32 × ResourceLease × I) × State I M X :=
  if s.tornDown then (.error .tornDown, s)
  else if s.arena.canInsert = false then (.error .handleLimit, s)
  else
    match allocateResourceOperation s with
    | (.error e, s) => (.error e, s)
    | (.ok operation, s) =>
      match s.arena.leasedMut handle F with
      | .error e => (.error e, s)
      | .ok (.busy _) => (.error (.resourceBusy handle), s)
      | .ok (.terminal _) => (.error (.resourceClosed handle), s)
      | .ok (.open inner previous) =>
        let arena := s.arena.write handle (F.wrap (.busy operation))
        let lease : ResourceLease := { handle, kind := F.kind, operation }
        match arena.insert (.task (.pending (some lease))) with
        | (.ok task, arena) => (.ok (task, lease, inner), { s with arena })
        | (.error e, arena) =>
          match arena.leasedMut handle F with
          | .error e' => (.error e', { s with arena })
          | .ok _ =>
            (.error e, { s with arena := arena.write handle (F.wrap (.open inner previous)) })

def reserveReadStreamNext (handle : UInt32) (s : State I M X) :=
  reserve (Stateful.readStream I M X) handle s

def reserveWriterCall (handle : UInt32) (s : State I M X) :=
  reserve (Stateful.writer I M X) handle s

def reserveListerNext (handle : UInt32) (s : State I M X) :=
  reserve (Stateful.lister I M X) handle s

/-! ## Publishing an outcome -/

/-- `publish_task` of an operation without a lease. -/
def publishTask (handle : UInt32) (completion : X) (s : State I M X) : State I M X :=
  match s.arena.task handle with
  | .ok (.pending none) =>
    { s with arena := s.arena.write handle (.task (.ready completion none)) }
  | _ => s

def LeasedUpdate.state (operation : UInt64) : LeasedUpdate I T → LeasedState I T
  | .open inner => .open inner operation
  | .terminal outcome => .terminal outcome

/-- The update of a resource that is still busy with the lease's operation. -/
def applyUpdate (F : Stateful I M X T) (lease : ResourceLease) (update : LeasedUpdate I T)
    (a : Arena (Resource I M X)) : Arena (Resource I M X) :=
  match a.leasedMut lease.handle F with
  | .ok (.busy operation) =>
    if operation = lease.operation then
      a.write lease.handle (F.wrap (update.state lease.operation))
    else a
  | _ => a

def applyResourceUpdate (lease : ResourceLease) (update : ResourceUpdate I M)
    (a : Arena (Resource I M X)) : Arena (Resource I M X) :=
  match update with
  | .readStream update => applyUpdate (.readStream I M X) lease update a
  | .writer update => applyUpdate (.writer I M X) lease update a
  | .lister update => applyUpdate (.lister I M X) lease update a

def publishResourceTask (taskHandle : UInt32) (lease : ResourceLease) (update : ResourceUpdate I M)
    (completion : X) (s : State I M X) : State I M X :=
  match s.arena.task taskHandle with
  | .ok (.pending (some current)) =>
    if current ≠ lease ∨ update.kind ≠ lease.kind then s
    else
      let arena := applyResourceUpdate lease update s.arena
      match arena.task taskHandle with
      | .ok (.pending (some current)) =>
        if current = lease then
          { s with arena := arena.write taskHandle (.task (.ready completion (some lease))) }
        else { s with arena }
      | _ => { s with arena }
  | _ => s

/-! ## Cancelling, releasing and taking a task -/

def failLeased (F : Stateful I M X T) (lease : ResourceLease) (a : Arena (Resource I M X)) :
    Arena (Resource I M X) :=
  match a.leasedMut lease.handle F with
  | .ok (.open _ operation) | .ok (.busy operation) =>
    if operation = lease.operation then a.write lease.handle (F.wrap (.terminal F.failed)) else a
  | _ => a

def terminalizeLease (a : Arena (Resource I M X)) (lease : ResourceLease) :
    Arena (Resource I M X) :=
  match lease.kind with
  | .readStream => failLeased (.readStream I M X) lease a
  | .writer => failLeased (.writer I M X) lease a
  | .lister => failLeased (.lister I M X) lease a
  | _ => a

def taskLease : Task X → Option ResourceLease
  | .pending lease | .ready _ lease => lease
  | .cancelled | .consumed => none

/-- Fail the resource behind a task, if the task still has a lease. -/
def terminalizeTask (task : Task X) (a : Arena (Resource I M X)) : Arena (Resource I M X) :=
  match taskLease task with
  | some lease => terminalizeLease a lease
  | none => a

/-- `handle_or_record_error` and `status`: an exported function records its error. -/
def recorded {α : Type} (out : Except BridgeError α × State I M X) :
    Except BridgeError α × State I M X :=
  match out with
  | (.error e, s) => (.error e, { s with lastError := some e })
  | (.ok value, s) => (.ok value, s)

def taskCancel (handle : UInt32) (s : State I M X) : Except BridgeError Unit × State I M X :=
  recorded <|
    match s.arena.task handle with
    | .error e => (.error e, s)
    | .ok task =>
      let arena := terminalizeTask task s.arena
      match arena.task handle with
      | .error e => (.error e, { s with arena })
      | .ok (.pending _) | .ok (.ready _ _) =>
        (.ok (), { s with arena := arena.write handle (.task .cancelled) })
      | .ok .cancelled | .ok .consumed => (.ok (), { s with arena })

def taskRelease (handle : UInt32) (s : State I M X) : Except BridgeError Unit × State I M X :=
  recorded <|
    match s.arena.task handle with
    | .error e => (.error e, s)
    | .ok task =>
      let (result, arena) := (terminalizeTask task s.arena).release handle .task
      (result, { s with arena })

def taskTake (handle : UInt32) (s : State I M X) : Except BridgeError UInt32 × State I M X :=
  recorded <|
    if s.arena.canInsert = false then (.error .handleLimit, s)
    else
      match s.arena.task handle with
      | .error e => (.error e, s)
      | .ok (.ready completion _) =>
        let (result, arena) :=
          (s.arena.write handle (.task .consumed)).insert (.completion completion)
        (result, { s with arena })
      | .ok (.pending _) => (.error (.taskNotReady handle), s)
      | .ok .cancelled => (.error (.taskNotReady handle), s)
      | .ok .consumed => (.error (.taskConsumed handle), s)

def releaseResource (handle : UInt32) (expected : ResourceKind) (s : State I M X) :
    Except BridgeError Unit × State I M X :=
  recorded <|
    let (result, arena) := s.arena.release handle expected
    (result, { s with arena })

def insertResource (r : Resource I M X) (s : State I M X) :
    Except BridgeError UInt32 × State I M X :=
  if s.tornDown then (.error .tornDown, s)
  else
    let (result, arena) := s.arena.insert r
    (result, { s with arena })

end OpendalMbt.Bridge
