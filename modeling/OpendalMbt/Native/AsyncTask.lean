import OpendalMbt.Native.CallResult

/-!
# The async task cell

`AsyncTaskShared` of `native/rust/src/lib.rs`: the state of one task and its completion
signal behind one mutex. `publish`, `cancel` and `take` are the three critical sections;
each returns what its caller carries out of the lock. A poisoned lock is cleared and
entered anyway, so it changes none of them. The foreign take calls are one `take` on the
cell followed by a translation of the outcome (`asyncTaskTake_cell`).
-/

namespace OpendalMbt.Native

/-- The number of the operation that the handle aborts. -/
abbrev AbortHandle := Nat

structure CompletionSignal where
  fd : Int
  deriving DecidableEq, Repr

inductive AsyncResultKind where
  | buffer | metadata | readStream | writer | unit
  deriving DecidableEq, Repr

/-- `V` stands for the boxed objects. -/
inductive AsyncPayload (V : Type) where
  | none
  | buffer (value : V)
  | metadata (value : V)
  | readStream (value : V)
  | writer (value : V)
  | unit
  deriving DecidableEq, Repr

structure AsyncOutcome (V : Type) where
  kind : AsyncResultKind
  status : Status
  payload : AsyncPayload V
  error : Option ErrorV1
  deriving DecidableEq, Repr

namespace AsyncOutcome

variable {V : Type}

def success (kind : AsyncResultKind) (payload : AsyncPayload V) : AsyncOutcome V :=
  { kind, status := .ok, payload, error := none }

def «end» (kind : AsyncResultKind) : AsyncOutcome V :=
  { kind, status := .end, payload := .none, error := none }

def failure (kind : AsyncResultKind) : CallFailure → AsyncOutcome V
  | .abiMismatch => { kind, status := .abiMismatch, payload := .none, error := none }
  | .error error => { kind, status := .error, payload := .none, error := some error }

def panic (kind : AsyncResultKind) : AsyncOutcome V :=
  { kind, status := .panic, payload := .none, error := none }

end AsyncOutcome

inductive AsyncTaskState (V : Type) where
  | running (abort : AbortHandle)
  | completed (outcome : AsyncOutcome V)
  | taken
  | cancelled
  deriving DecidableEq, Repr

structure AsyncTaskInner (V : Type) where
  state : AsyncTaskState V
  signal : Option CompletionSignal
  deriving DecidableEq, Repr

def notReady : CallFailure := resourceClosed "async task result is not ready"
def alreadyTaken : CallFailure := resourceClosed "async task result was already taken"
def wasCancelled : CallFailure := resourceClosed "async task was cancelled"
def kindMismatch : CallFailure := invalidArgument "async task result kind does not match take"

namespace AsyncTaskInner

variable {V : Type}

/-- The signal is returned for the caller to write once the lock is released. -/
def publish (outcome : AsyncOutcome V) (inner : AsyncTaskInner V) :
    Option CompletionSignal × AsyncTaskInner V :=
  match inner.state with
  | .running _ => (inner.signal, { state := .completed outcome, signal := none })
  | _ => (none, inner)

/-- What `cancel` carries out of the lock. -/
structure Cancellation where
  abort : Option AbortHandle
  poison : Bool
  signal : Option CompletionSignal
  deriving DecidableEq, Repr

def cancel (inner : AsyncTaskInner V) : Cancellation × AsyncTaskInner V :=
  let previous := inner.state
  let inner := { inner with state := .cancelled }
  let (abort, poison, inner) :=
    match previous with
    | .running abort => (some abort, true, inner)
    | .completed _ => (none, true, inner)
    | .taken => (none, false, { inner with state := .taken })
    | .cancelled => (none, false, inner)
  if poison then ({ abort, poison, signal := inner.signal }, { inner with signal := none })
  else ({ abort, poison, signal := none }, inner)

def take (expected : AsyncResultKind) (inner : AsyncTaskInner V) :
    CallResult (AsyncOutcome V) × AsyncTaskInner V :=
  let previous := inner.state
  let replaced := { inner with state := .taken }
  match previous with
  | .completed outcome =>
    -- the kind is compared before anything is replaced
    if outcome.kind ≠ expected then (.error kindMismatch, inner) else (.ok outcome, replaced)
  | .running abort => (.error notReady, { replaced with state := .running abort })
  | .taken => (.error alreadyTaken, { replaced with state := .taken })
  | .cancelled => (.error wasCancelled, { replaced with state := .cancelled })

end AsyncTaskInner

/-! ## The foreign take calls -/

/-- What the caller of a take finds in its outputs. -/
structure TakeReply (V : Type) where
  status : Status
  value : Option V := none
  error : Option ErrorV1 := none
  deriving DecidableEq, Repr

section Takes

variable {V : Type}

def TakeReply.ofFailure (failure : CallFailure) : TakeReply V :=
  { status := (finishFailure failure).1, error := (finishFailure failure).2 }

def finishAsyncPayloadTake (expected : AsyncResultKind) (takePayload : AsyncPayload V → Option V)
    (task : AsyncTaskInner V) : TakeReply V × AsyncTaskInner V :=
  match task.take expected with
  | (.error failure, task) => (.ofFailure failure, task)
  | (.ok outcome, task) =>
    let reply : TakeReply V :=
      match outcome.status with
      | .ok =>
        match takePayload outcome.payload with
        | some value => { status := .ok, value := some value }
        | none => { status := .abiMismatch }
      | .end =>
        if expected = .buffer then
          match outcome.payload, outcome.error with
          | .none, none => { status := .end }
          | _, _ => { status := .abiMismatch }
        else { status := .abiMismatch }
      | .error => { status := .error, error := outcome.error }
      | .abiMismatch => { status := .abiMismatch }
      | .panic => { status := .panic }
      | .bufferTooSmall => { status := .abiMismatch }
    (reply, task)

def asyncTaskTakeBuffer : AsyncTaskInner V → TakeReply V × AsyncTaskInner V :=
  finishAsyncPayloadTake .buffer fun
    | .buffer value => some value
    | _ => none

def asyncTaskTakeMetadata : AsyncTaskInner V → TakeReply V × AsyncTaskInner V :=
  finishAsyncPayloadTake .metadata fun
    | .metadata value => some value
    | _ => none

def asyncTaskTakeReadStream : AsyncTaskInner V → TakeReply V × AsyncTaskInner V :=
  finishAsyncPayloadTake .readStream fun
    | .readStream value => some value
    | _ => none

def asyncTaskTakeWriter : AsyncTaskInner V → TakeReply V × AsyncTaskInner V :=
  finishAsyncPayloadTake .writer fun
    | .writer value => some value
    | _ => none

def asyncTaskTakeUnit (task : AsyncTaskInner V) : TakeReply V × AsyncTaskInner V :=
  match task.take .unit with
  | (.error failure, task) => (.ofFailure failure, task)
  | (.ok outcome, task) =>
    let reply : TakeReply V :=
      match outcome.status, outcome.payload with
      | .ok, .unit => { status := .ok }
      | .error, _ => { status := .error, error := outcome.error }
      | .abiMismatch, _ => { status := .abiMismatch }
      | .panic, _ => { status := .panic }
      | _, _ => { status := .abiMismatch }
    (reply, task)

/-- The take entry of each kind. -/
def asyncTaskTake : AsyncResultKind → AsyncTaskInner V → TakeReply V × AsyncTaskInner V
  | .buffer => asyncTaskTakeBuffer
  | .metadata => asyncTaskTakeMetadata
  | .readStream => asyncTaskTakeReadStream
  | .writer => asyncTaskTakeWriter
  | .unit => asyncTaskTakeUnit

end Takes

/-! ## What each critical section does -/

section Cases

variable {V : Type} {inner : AsyncTaskInner V} {abort : AbortHandle} {o : AsyncOutcome V}
  {k : AsyncResultKind}

theorem publish_running (h : inner.state = .running abort) :
    inner.publish o = (inner.signal, { state := .completed o, signal := none }) := by
  simp [AsyncTaskInner.publish, h]

theorem publish_settled (h : ∀ abort, inner.state ≠ .running abort) :
    inner.publish o = (none, inner) := by
  unfold AsyncTaskInner.publish
  split
  · rename_i abort heq
    exact absurd heq (h abort)
  · rfl

theorem cancel_unclaimed (htaken : inner.state ≠ .taken) (hcancelled : inner.state ≠ .cancelled) :
    inner.cancel.2 = { state := .cancelled, signal := none } ∧ inner.cancel.1.poison = true ∧
      inner.cancel.1.signal = inner.signal := by
  cases h : inner.state with
  | taken => exact absurd h htaken
  | cancelled => exact absurd h hcancelled
  | running abort => simp [AsyncTaskInner.cancel, h]
  | completed o => simp [AsyncTaskInner.cancel, h]

theorem cancel_claimed (h : inner.state = .taken ∨ inner.state = .cancelled) :
    inner.cancel = ({ abort := none, poison := false, signal := none }, inner) := by
  obtain ⟨state, signal⟩ := inner
  rcases h with rfl | rfl <;> rfl

theorem take_eq_ok : (inner.take k).1 = .ok o ↔ inner.state = .completed o ∧ o.kind = k := by
  obtain ⟨state, signal⟩ := inner
  cases state with
  | completed o' =>
    by_cases hk : o'.kind = k
    · simp only [AsyncTaskInner.take, hk, ne_eq, not_true_eq_false, if_false, Except.ok.injEq,
        AsyncTaskState.completed.injEq]
      exact ⟨fun h => ⟨h, h ▸ hk⟩, fun h => h.1⟩
    · simp only [AsyncTaskInner.take, ne_eq, hk, not_false_eq_true, if_true, reduceCtorEq,
        AsyncTaskState.completed.injEq, false_iff, not_and]
      intro h hk'
      exact hk (h ▸ hk')
  | _ => simp [AsyncTaskInner.take]

theorem take_ok (h : (inner.take k).1 = .ok o) :
    (inner.take k).2 = { inner with state := .taken } := by
  obtain ⟨hstate, hk⟩ := take_eq_ok.mp h
  simp [AsyncTaskInner.take, hstate, hk]

/-- A take that hands nothing out leaves the cell as it was. -/
theorem take_error {f : CallFailure} (h : (inner.take k).1 = .error f) :
    (inner.take k).2 = inner := by
  obtain ⟨state, signal⟩ := inner
  cases state with
  | completed o =>
    by_cases hk : o.kind = k
    · rw [take_eq_ok.mpr ⟨rfl, hk⟩] at h
      cases h
    · simp [AsyncTaskInner.take, hk]
  | _ => rfl

theorem take_running (h : inner.state = .running abort) :
    inner.take k = (.error notReady, inner) := by
  obtain ⟨state, signal⟩ := inner
  subst h
  rfl

theorem take_mismatch (h : inner.state = .completed o) (hk : k ≠ o.kind) :
    inner.take k = (.error kindMismatch, inner) := by
  simp [AsyncTaskInner.take, h, Ne.symm hk]

theorem take_not_ready (h : (inner.take k).1 = .error notReady) :
    ∃ abort, inner.state = .running abort := by
  obtain ⟨state, signal⟩ := inner
  cases state with
  | running abort => exact ⟨abort, rfl⟩
  | completed o =>
    by_cases hk : o.kind = k
    · rw [take_eq_ok.mpr ⟨rfl, hk⟩] at h
      cases h
    · rw [take_mismatch rfl (Ne.symm hk)] at h
      exact absurd (Except.error.inj h) (by decide)
  | taken => exact absurd (Except.error.inj h) (by decide)
  | cancelled => exact absurd (Except.error.inj h) (by decide)

theorem publish_cancelled_iff :
    (inner.publish o).2.state = .cancelled ↔ inner.state = .cancelled := by
  by_cases hrun : ∃ abort, inner.state = .running abort
  · obtain ⟨abort, hrun⟩ := hrun
    simp [publish_running hrun, hrun]
  · rw [publish_settled fun abort h => hrun ⟨abort, h⟩]

theorem take_cancelled_iff :
    (inner.take k).2.state = .cancelled ↔ inner.state = .cancelled := by
  cases hres : (inner.take k).1 with
  | ok o => simp [take_ok hres, (take_eq_ok.mp hres).1]
  | error f => rw [take_error hres]

/-- Every foreign take is one `take` on the cell, and reports its failure. -/
theorem asyncTaskTake_cell (k : AsyncResultKind) (inner : AsyncTaskInner V) :
    (asyncTaskTake k inner).2 = (inner.take k).2 ∧
      ∀ f, (inner.take k).1 = .error f → (asyncTaskTake k inner).1 = .ofFailure f := by
  rcases htake : inner.take k with ⟨_ | outcome, task⟩ <;>
    cases k <;>
    simp [asyncTaskTake, asyncTaskTakeBuffer, asyncTaskTakeMetadata, asyncTaskTakeReadStream,
      asyncTaskTakeWriter, asyncTaskTakeUnit, finishAsyncPayloadTake, htake]

end Cases

end OpendalMbt.Native
