import OpendalMbt.Native.AsyncTask
import OpendalMbt.Native.ResourceEntries

/-!
# The asynchronous entries

The entries of `native/rust/src/lib.rs` that start a task or take its result. A start prepares
the completion signal and spawns inside its closure. A take finds an outcome that the constructors
of `AsyncOutcome` have made (`TaskCell`), so an error comes without a payload that could still go
out of scope.

* `TaskCell.made_of_take`: what a take finds was made by a constructor;
* `atomic_finishAsyncPayloadTake`, `atomic_asyncTaskTakeUnit`: the takes are atomic.
-/

namespace OpendalMbt.Native

/-- An outcome that a constructor has returned. -/
inductive AsyncOutcome.Made {V : Type} : AsyncOutcome V → Prop where
  | success (kind : AsyncResultKind) (payload : AsyncPayload V) : Made (.success kind payload)
  | end (kind : AsyncResultKind) : Made (.end kind)
  | failure (kind : AsyncResultKind) (failure : CallFailure) : Made (.failure kind failure)
  | panic (kind : AsyncResultKind) : Made (.panic kind)

/-- A task cell whose outcome was made by a constructor. -/
structure TaskCell (V : Type) where
  inner : AsyncTaskInner V
  made : ∀ outcome, inner.state = .completed outcome → outcome.Made

namespace TaskCell

variable {V : Type}

def spawned (abort : AbortHandle) (signal : CompletionSignal) : TaskCell V where
  inner := { state := .running abort, signal := some signal }
  made := by
    intro outcome houtcome
    cases houtcome

def publish (cell : TaskCell V) (outcome : AsyncOutcome V) (h : outcome.Made) : TaskCell V where
  inner := (cell.inner.publish outcome).2
  made := by
    intro stored hstored
    by_cases hrunning : ∃ abort, cell.inner.state = .running abort
    · obtain ⟨abort, habort⟩ := hrunning
      rw [publish_running habort] at hstored
      cases hstored
      exact h
    · rw [publish_settled fun abort habort => hrunning ⟨abort, habort⟩] at hstored
      exact cell.made stored hstored

def cancel (cell : TaskCell V) : TaskCell V where
  inner := cell.inner.cancel.2
  made := by
    intro stored hstored
    by_cases hclaimed : cell.inner.state = .taken ∨ cell.inner.state = .cancelled
    · rw [cancel_claimed hclaimed] at hstored
      exact cell.made stored hstored
    · obtain ⟨htaken, hcancelled⟩ := not_or.mp hclaimed
      rw [(cancel_unclaimed htaken hcancelled).1] at hstored
      cases hstored

def take (cell : TaskCell V) (expected : AsyncResultKind) : TaskCell V where
  inner := (cell.inner.take expected).2
  made := by
    intro stored hstored
    cases htake : (cell.inner.take expected).1 with
    | error failure =>
      rw [take_error htake] at hstored
      exact cell.made stored hstored
    | ok outcome =>
      rw [take_ok htake] at hstored
      cases hstored

theorem made_of_take {cell : TaskCell V} {expected : AsyncResultKind} {outcome : AsyncOutcome V}
    (h : (cell.inner.take expected).1 = .ok outcome) : outcome.Made :=
  cell.made outcome (take_eq_ok.mp h).1

end TaskCell

end OpendalMbt.Native

namespace OpendalMbt.Native.Entry

open Transition

/-! ## Starts -/

inductive AsyncReadStreamStart where
  | end
  | cursor
  deriving DecidableEq, Repr

section Starts

variable {T S W : Type} (locals : Destructor) (launch : CallResult Unit) (task : T)
  (outTask : Slot Misplaced T) (outError : Slot Misplaced ErrorV1)

/-- The operation and its supervisor are handed to the runtime. -/
def spawn : Work T := Work.upstream (.ok task)

/-- The abort handle goes to the resource once the operation runs. -/
def spawnWithAbort (installAbort : StepResult Unit) : Work T := do
  let task ← spawn task
  Work.step installAbort
  pure task

def asyncOperatorReadStartWork (operator : Pointer OperatorV1) (path : Pointer BytesViewV1)
    (options : Pointer ReadOptionsV1) (maxOutputLen : UInt64) : Work T := do
  let operator ← Work.input (borrowRequired operator)
  let _ ← Work.input (readText path "path")
  let options ← Work.input (parseReadOptions BytesRange.api options)
  let plan ← Work.check (wholeReadPlan options maxOutputLen)
  Work.check (ensureSuffixIsNative plan.range operator.readWithSuffix)
  Work.input launch
  spawn task

def asyncOperatorReadStart (operator : Pointer OperatorV1) (path : Pointer BytesViewV1)
    (options : Pointer ReadOptionsV1) (maxOutputLen : UInt64) : Invocation :=
  .single outTask outError <| returning locals <|
    asyncOperatorReadStartWork launch task operator path options maxOutputLen

def asyncOperatorReadStreamStartWork (defaults : ReaderOptions) (operator : Pointer OperatorV1)
    (path : Pointer BytesViewV1) (options : Pointer ReadStreamOptionsV1) : Work T := do
  let operator ← Work.input (borrowRequired operator)
  let _ ← Work.input (readText path "path")
  let parsed ← Work.input (parseReadStreamOptions BytesRange.api defaults options)
  Work.check (ensureSuffixIsNative parsed.range operator.readWithSuffix)
  Work.input launch
  spawn task

def asyncOperatorReadStreamStart (defaults : ReaderOptions) (operator : Pointer OperatorV1)
    (path : Pointer BytesViewV1) (options : Pointer ReadStreamOptionsV1) : Invocation :=
  .single outTask outError <| returning locals <|
    asyncOperatorReadStreamStartWork launch task defaults operator path options

def asyncReadStreamNextStart (stream : Pointer S) (start : CallResult AsyncReadStreamStart)
    (installAbort : StepResult Unit) : Invocation :=
  .single outTask outError <| returning locals do
    let _ ← Work.input (borrowRequired stream)
    Work.input launch
    match ← Work.check start with
    | .end => spawn task
    | .cursor => spawnWithAbort task installAbort

def asyncOperatorWriterStart (operator : Pointer OperatorV1) (path : Pointer BytesViewV1)
    (options : Pointer WriteOptionsV1) : Invocation :=
  .single outTask outError <| returning locals do
    let _ ← Work.input (borrowRequired operator)
    let _ ← Work.input (readText path "path")
    let _ ← Work.input (parseWriteOptions options)
    Work.input launch
    spawn task

/-- `expect` on the writer of a call that is no abort. -/
def expectWriter (taken : CallResult (Option Unit)) : Work Unit := do
  match ← Work.check taken with
  | some () => pure ()
  | none => Work.step .panic

def asyncWriterWriteStart (writer : Pointer W) (data : Pointer BytesViewV1)
    (taken : CallResult (Option Unit)) (installAbort : StepResult Unit) : Invocation :=
  .single outTask outError <| returning locals do
    let _ ← Work.input (borrowRequired writer)
    let _ ← Work.input (readBinary data)
    Work.input launch
    expectWriter taken
    spawnWithAbort task installAbort

def asyncWriterFinishStart (writer : Pointer W) (taken : CallResult (Option Unit))
    (installAbort : StepResult Unit) : Invocation :=
  .single outTask outError <| returning locals do
    let _ ← Work.input (borrowRequired writer)
    Work.input launch
    expectWriter taken
    spawnWithAbort task installAbort

def asyncWriterAbortStart (writer : Pointer W) (taken : CallResult (Option Unit))
    (installAbort : StepResult Unit) : Invocation :=
  .single outTask outError <| returning locals do
    let _ ← Work.input (borrowRequired writer)
    Work.input launch
    match ← Work.check taken with
    | none => spawn task
    | some () => spawnWithAbort task installAbort

end Starts

/-! ## Takes -/

section Takes

variable {H R ι : Type} {V : ι → Type}

/-- An object in a payload goes out of scope. -/
def payloadEnd (object : Destructor) : AsyncPayload H → Destructor
  | .none | .unit => .quiet
  | _ => object

/-- The error of an outcome is already in its box. -/
def takeError (error : Option ErrorV1) : Step R V Status :=
  match error with
  | some error => finishFailure (.error error)
  | none => pure .error

/-- The outcomes without a value, the same for every take. -/
def takeFailure (object : Destructor) (outcome : AsyncOutcome H) : Step R V Status :=
  leaving (payloadEnd object outcome.payload) <|
    match outcome.status with
    | .error => takeError outcome.error
    | .abiMismatch => pure .abiMismatch
    | .panic => pure .panic
    | .ok | .end | .bufferTooSmall => pure .abiMismatch

theorem disciplined_takeFailure {given : Frame R V ErrorV1} (hvalid : given.Valid)
    (object : Destructor) {outcome : AsyncOutcome H} (h : outcome.Made) :
    Disciplined given (takeFailure object outcome) := by
  cases h with
  | success kind payload => exact disciplined_leaving_pure _ (.inr (.inl rfl))
  | «end» kind => exact disciplined_leaving_pure _ (.inr (.inl rfl))
  | panic kind => exact disciplined_leaving_pure _ (.inr (.inr rfl))
  | failure kind failure =>
    cases failure with
    | abiMismatch => exact disciplined_leaving_pure _ (.inr (.inl rfl))
    | error error => exact disciplined_leaving_quiet (disciplined_finishFailure hvalid (.error error))

section Payload

variable (object : Destructor) (task : Pointer (TaskCell H)) (outValue : Slot Misplaced H)
  (outError : Slot Misplaced ErrorV1)

def finishAsyncPayloadTake (expected : AsyncResultKind) (takePayload : AsyncPayload H → Option H) :
    Invocation :=
  .single outValue outError <|
    orFinish (closure .quiet (Work.input (borrowRequired task))) fun task =>
      orFinish (closure .quiet (Work.check (task.inner.take expected).1)) fun outcome =>
        match outcome.status with
        | .ok =>
          match takePayload outcome.payload with
          | some value => publish [()] (fun _ => value) .ok
          | none => do
            drop (payloadEnd object outcome.payload)
            pure .abiMismatch
        | .end =>
          if expected = .buffer then
            match outcome.payload, outcome.error with
            | .none, none => pure .end
            | _, _ => takeFailure object outcome
          else takeFailure object outcome
        | _ => takeFailure object outcome

def asyncTaskTakeBuffer : Invocation :=
  finishAsyncPayloadTake object task outValue outError .buffer fun
    | .buffer value => some value
    | _ => none

def asyncTaskTakeMetadata : Invocation :=
  finishAsyncPayloadTake object task outValue outError .metadata fun
    | .metadata value => some value
    | _ => none

def asyncTaskTakeReadStream : Invocation :=
  finishAsyncPayloadTake object task outValue outError .readStream fun
    | .readStream value => some value
    | _ => none

def asyncTaskTakeWriter : Invocation :=
  finishAsyncPayloadTake object task outValue outError .writer fun
    | .writer value => some value
    | _ => none

def asyncTaskTakeUnit : Invocation :=
  .onlyError outError <|
    orFinish (closure .quiet (Work.input (borrowRequired task))) fun task =>
      orFinish (closure .quiet (Work.check (task.inner.take .unit).1)) fun outcome =>
        match outcome.status, outcome.payload with
        | .ok, .unit => pure .ok
        | _, _ => takeFailure object outcome

variable {object task outValue outError}

theorem disciplined_taken {given : Frame R V ErrorV1} (hvalid : given.Valid) (cell : TaskCell H)
    (expected : AsyncResultKind) {next : AsyncOutcome H → Step R V Status}
    (hnext : ∀ outcome : AsyncOutcome H, outcome.Made → Disciplined given (next outcome)) :
    Disciplined given
      (orFinish (closure .quiet (Work.check (cell.inner.take expected).1)) next) := by
  intro f hf
  cases htake : (cell.inner.take expected).1 with
  | ok outcome => exact hnext outcome (TaskCell.made_of_take htake) f hf
  | error failure => exact disciplined_finishFailure hvalid failure f hf

theorem atomic_finishAsyncPayloadTake (expected : AsyncResultKind)
    (takePayload : AsyncPayload H → Option H) :
    (finishAsyncPayloadTake object task outValue outError expected takePayload).Atomic := by
  apply Invocation.atomic_run
  intro hvalid
  apply Leaves.orFinish hvalid (leaves_closure .quiet _)
  intro cell
  apply disciplined_taken hvalid cell expected
  intro outcome hmade
  have hfailure := disciplined_takeFailure hvalid object hmade
  split
  · split
    · exact disciplined_publish_single hvalid _ (.inl rfl)
    · apply Leaves.bind (leaves_drop _)
      intro value
      exact disciplined_pure (.inr (.inl rfl))
  · split_ifs with hbuffer
    · split
      · exact disciplined_pure (.inl rfl)
      · exact hfailure
    · exact hfailure
  · exact hfailure

theorem atomic_asyncTaskTakeUnit : (asyncTaskTakeUnit object task outError).Atomic := by
  apply Invocation.atomic_run
  intro hvalid
  apply Leaves.orFinish hvalid (leaves_closure .quiet _)
  intro cell
  apply disciplined_taken hvalid cell .unit
  intro outcome hmade
  split
  · exact disciplined_ok
  · exact disciplined_takeFailure hvalid object hmade

end Payload

end Takes

end OpendalMbt.Native.Entry
