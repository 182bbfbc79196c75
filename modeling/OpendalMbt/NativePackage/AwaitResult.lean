import OpendalMbt.Native.TaskLifecycle
import OpendalMbt.Transition.Progress

/-!
# Waiting for a native task

`await_native_result` of `src/async.mbt` with everything that acts on what it holds: the pipe, the
task object of `src/opendal_stub.c`, and the supervisor and the completion signal of
`native/rust/src/lib.rs`. The caller advances by its own events; the supervisor publishes once,
and whoever carries the signal out of the task cell writes a byte and closes its descriptor. A
list of events is an interleaving of all of them.

Reading is the only place where the caller is suspended, so only there it can be cancelled. A byte
may fail to be written (`notify false`): `notify` of the bridge gives up when it cannot mask
signals, or when the pipe has no reader.

* `asyncTaskTake_ofReport`: a take of its kind returns what the operation has reported;
* `Await.step`: the events of the caller, of the task and of its signal.
-/

namespace OpendalMbt.Native

variable {V : Type}

/-! ## What an operation reports -/

/-- How the future of an operation ends. -/
inductive Report (V : Type) where
  | done (value : V)
  | ended
  | failed (failure : CallFailure)
  | panicked

def AsyncResultKind.payload : AsyncResultKind → V → AsyncPayload V
  | .buffer, value => .buffer value
  | .metadata, value => .metadata value
  | .readStream, value => .readStream value
  | .writer, value => .writer value
  | .unit, _ => .unit

/-- The outcome that the supervisor publishes. -/
def AsyncOutcome.ofReport (kind : AsyncResultKind) : Report V → AsyncOutcome V
  | .done value => .success kind (kind.payload value)
  | .ended => .end kind
  | .failed failure => .failure kind failure
  | .panicked => .panic kind

/-- What the caller of the take is told. A unit comes without a value. -/
def TakeReply.ofReport (kind : AsyncResultKind) : Report V → TakeReply V
  | .done value => { status := .ok, value := if kind = .unit then none else some value }
  | .ended => { status := .end }
  | .failed failure => .ofFailure failure
  | .panicked => { status := .panic }

/-- Only an operation that yields buffers can be at its end. -/
def Report.Fits (kind : AsyncResultKind) : Report V → Prop
  | .ended => kind = .buffer
  | _ => True

instance (kind : AsyncResultKind) (report : Report V) : Decidable (report.Fits kind) := by
  unfold Report.Fits
  cases report <;> infer_instance

@[simp] theorem AsyncOutcome.kind_ofReport (kind : AsyncResultKind) (report : Report V) :
    (ofReport kind report).kind = kind := by
  cases report with
  | failed failure => cases failure <;> rfl
  | _ => rfl

theorem asyncTaskTake_ofReport {kind : AsyncResultKind} {report : Report V}
    {inner : AsyncTaskInner V} (hfits : report.Fits kind)
    (hstate : inner.state = .completed (.ofReport kind report)) :
    asyncTaskTake kind inner = (.ofReport kind report, { inner with state := .taken }) := by
  have htake : inner.take kind = (.ok (.ofReport kind report), { inner with state := .taken }) := by
    simp [AsyncTaskInner.take, hstate]
  cases report with
  | ended =>
    cases show kind = .buffer from hfits
    simp [asyncTaskTake, asyncTaskTakeBuffer, finishAsyncPayloadTake, htake, AsyncOutcome.ofReport,
      AsyncOutcome.end, TakeReply.ofReport]
  | done value =>
    cases kind <;>
      simp [asyncTaskTake, asyncTaskTakeBuffer, asyncTaskTakeMetadata, asyncTaskTakeReadStream,
        asyncTaskTakeWriter, asyncTaskTakeUnit, finishAsyncPayloadTake, htake,
        AsyncOutcome.ofReport, AsyncOutcome.success, AsyncResultKind.payload, TakeReply.ofReport]
  | failed failure =>
    cases failure <;> cases kind <;>
      simp [asyncTaskTake, asyncTaskTakeBuffer, asyncTaskTakeMetadata, asyncTaskTakeReadStream,
        asyncTaskTakeWriter, asyncTaskTakeUnit, finishAsyncPayloadTake, htake,
        AsyncOutcome.ofReport, AsyncOutcome.failure, TakeReply.ofReport, TakeReply.ofFailure,
        finishFailure]
  | panicked =>
    cases kind <;>
      simp [asyncTaskTake, asyncTaskTakeBuffer, asyncTaskTakeMetadata, asyncTaskTakeReadStream,
        asyncTaskTakeWriter, asyncTaskTakeUnit, finishAsyncPayloadTake, htake,
        AsyncOutcome.ofReport, AsyncOutcome.panic, TakeReply.ofReport]

end OpendalMbt.Native

namespace OpendalMbt.NativePackage

open Native Transition

variable {V : Type}

/-! ## The native side -/

/-- A started task, with what is left of its signal. -/
structure Job (V : Type) where
  life : Lifecycle V
  /-- What the supervisor has published. -/
  report : Option (Report V) := none
  /-- A cancellation has failed the resource of the task. -/
  poisoned : Bool := false
  /-- Descriptors that have been used for the byte and are still open. -/
  unclosed : Nat := 0
  /-- Bytes that could not be written although the pipe had a reader. -/
  lost : Nat := 0
  freed : Bool := false

namespace Job

def spawned (abort : AbortHandle) (signal : CompletionSignal) : Job V :=
  { life := .spawned abort signal }

variable (kind : AsyncResultKind) (job : Job V)

/-- The supervisor joins the operation once. -/
def publish (report : Report V) : Option (Job V) :=
  if job.report.isNone ∧ report.Fits kind then
    (job.life.step (.publish (.ofReport kind report))).map fun life =>
      { job with life, report := some report }
  else none

/-- `moonbit_opendal_async_task_cancel` -/
def cancel : Option (Job V) :=
  (job.life.step .cancel).map fun life =>
    { job with life, poisoned := job.poisoned || job.life.task.cancel.1.poison }

/-- `moonbit_opendal_async_task_take_result` -/
def take : Option (TakeReply V × Job V) :=
  (job.life.step (.take kind)).map fun life =>
    ((asyncTaskTake kind job.life.task).1, { job with life })

/-- The finalizer of the task object. -/
def finalize : Option (Job V) :=
  if job.freed then none else job.cancel.map fun job => { job with freed := true }

/-- Whether a descriptor of the signal is open. -/
def holdsSignal : Bool := job.life.task.signal.isSome || !job.life.unsent.isEmpty || job.unclosed ≠ 0

end Job

/-! ## The caller -/

/-- The pipe of one call, which has two ends once it is opened. -/
structure Pipe where
  opened : Bool := false
  readCloses : Nat := 0
  writeCloses : Nat := 0
  unread : Nat := 0
  deriving DecidableEq, Repr

def Pipe.hasReader (pipe : Pipe) : Bool := pipe.opened && pipe.readCloses == 0

/-- How the call ends. -/
inductive Answer (V : Type) where
  | noPipe
  /-- The start has not given a task. -/
  | refused
  | channelFailed
  /-- "native async task ended without a completion signal" -/
  | unsignalled
  | cancelled
  | result (reply : TakeReply V)

/-- What `read_some` comes back with. -/
inductive Wake where
  | byte | ended | failed | cancelled
  deriving DecidableEq, Repr

inductive Phase (V : Type) where
  | entered
  /-- `wake_read.close` is deferred. -/
  | piped
  | started
  /-- `native_async_task_cancel` is deferred, too. -/
  | waiting
  | signalled
  | leaving (answer : Answer V)
  | closing (answer : Answer V)
  | returned (answer : Answer V)

def Phase.answer : Phase V → Option (Answer V)
  | .leaving answer | .closing answer | .returned answer => some answer
  | _ => none

structure Await (V : Type) where
  phase : Phase V := .entered
  pipe : Pipe := {}
  job : Option (Job V) := none

inductive AwaitEvent (V : Type) where
  | pipe (opened : Bool)
  | start (task : Option (AbortHandle × CompletionSignal))
  | closeWrite
  | wake (wake : Wake)
  | take
  | cancel
  | closeRead
  | finalize
  | publish (report : Report V)
  | notify (written : Bool)
  | closeSignal

/-- Reading fails, or the scheduler cancels the call. -/
def AwaitEvent.Interrupts : AwaitEvent V → Prop
  | .wake .failed | .wake .cancelled => True
  | _ => False

def Wake.phase : Wake → Phase V
  | .byte => .signalled
  | .ended => .leaving .unsignalled
  | .failed => .leaving .channelFailed
  | .cancelled => .leaving .cancelled

namespace Await

/-- When `read_some` may return: at the end of the pipe only without bytes and without writers. -/
def Wakes (s : Await V) : Wake → Prop
  | .byte => 0 < s.pipe.unread
  | .ended =>
    s.pipe.unread = 0 ∧ s.pipe.writeCloses ≠ 0 ∧ ∀ job ∈ s.job, job.holdsSignal = false
  | .failed | .cancelled => True

instance (s : Await V) (wake : Wake) : Decidable (s.Wakes wake) := by
  unfold Wakes
  cases wake <;> infer_instance

variable (kind : AsyncResultKind) (s : Await V)

/-- An event of the native side. -/
def native (f : Job V → Option (Job V)) : Option (Await V) :=
  s.job.bind fun job => (f job).map fun job => { s with job := some job }

/-- The byte, and then the end of the descriptor that it was written to. -/
def notify (written : Bool) : Option (Await V) :=
  if written && !s.pipe.hasReader then none
  else
    s.job.bind fun job => (job.life.step .notify).map fun life =>
      { s with
        pipe := { s.pipe with unread := s.pipe.unread + if written then 1 else 0 }
        job := some { job with
          life
          unclosed := job.unclosed + 1
          lost := job.lost + if written || !s.pipe.hasReader then 0 else 1 } }

def closeSignal (job : Job V) : Option (Job V) :=
  match job.unclosed with
  | 0 => none
  | unclosed + 1 => some { job with unclosed }

def step : AwaitEvent V → Option (Await V)
  | .pipe opened =>
    match s.phase with
    | .entered =>
      if opened then some { s with phase := .piped, pipe := { s.pipe with opened := true } }
      else some { s with phase := .returned .noPipe }
    | _ => none
  | .start task =>
    match s.phase with
    | .piped =>
      some { s with
        phase := .started
        job := task.map fun task => .spawned task.1 task.2 }
    | _ => none
  | .closeWrite =>
    match s.phase with
    | .started =>
      -- a start without a task raises only now
      some { s with
        phase := if s.job.isSome then .waiting else .closing .refused
        pipe := { s.pipe with writeCloses := s.pipe.writeCloses + 1 } }
    | _ => none
  | .wake wake =>
    match s.phase with
    | .waiting =>
      if s.Wakes wake then
        some { s with
          phase := wake.phase
          pipe := { s.pipe with unread := s.pipe.unread - if wake = .byte then 1 else 0 } }
      else none
    | _ => none
  | .take =>
    match s.phase with
    | .signalled =>
      s.job.bind fun job => (job.take kind).map fun (reply, job) =>
        { s with phase := .leaving (.result reply), job := some job }
    | _ => none
  | .cancel =>
    match s.phase with
    | .leaving answer => (s.native Job.cancel).map fun s => { s with phase := .closing answer }
    | _ => none
  | .closeRead =>
    match s.phase with
    | .closing answer =>
      some { s with
        phase := .returned answer
        pipe := { s.pipe with readCloses := s.pipe.readCloses + 1 } }
    | _ => none
  | .finalize =>
    match s.phase with
    | .returned _ => s.native Job.finalize
    | _ => none
  | .publish report => s.native (·.publish kind report)
  | .notify written => s.notify written
  | .closeSignal => s.native closeSignal

end Await

end OpendalMbt.NativePackage
