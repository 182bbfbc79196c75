import OpendalMbt.Native.CallResult

/-!
# A resource behind a mutex and a condition variable

`WriterV1` and `CopierV1` guard their inner object in the same way: a `Mutex` around a
state, and a `Condvar` on which a call waits while another call is busy with the object.
`Monitor` is that pair, and a `SyncCell` is what the calls of one of them do with it.

The counter `changed` stands for the condition variable: it counts the calls of
`notify_all`, so a waiter that saw a smaller value has been notified.
-/

namespace OpendalMbt.Native

structure Monitor (S : Type) where
  state : S
  poisoned : Bool := false
  changed : Nat := 0
  deriving DecidableEq, Repr

namespace Monitor

variable {S : Type}

def notifyAll (m : Monitor S) : Monitor S := { m with changed := m.changed + 1 }

/-- Replace the state by `failed`, clear the poison and wake every waiter. -/
def fail (failed : S) (m : Monitor S) : Monitor S :=
  { m with state := failed, poisoned := false }.notifyAll

def lockPoisoned (message : String) : CallFailure :=
  bindingError ERROR_UNEXPECTED "Unexpected" message

/-- The failure of a call that found the lock poisoned. -/
def poisonFailure (failed : S) (message : String) (m : Monitor S) : Monitor S × CallFailure :=
  (m.fail failed, lockPoisoned message)

/-- Store the state that a call ends with; a poisoned lock stores `failed` instead. -/
def setState (failed : S) (message : String) (next : S) (m : Monitor S) :
    Monitor S × CallResult Unit :=
  if m.poisoned then (m.fail failed, .error (lockPoisoned message))
  else ({ m with state := next }.notifyAll, .ok ())

variable {m : Monitor S}

theorem setState_poisoned (failed : S) (message : String) (next : S) (h : m.poisoned = true) :
    m.setState failed message next = (m.fail failed, .error (lockPoisoned message)) :=
  if_pos h

theorem setState_clean (failed : S) (message : String) (next : S) (h : m.poisoned = false) :
    m.setState failed message next = ({ m with state := next }.notifyAll, .ok ()) :=
  if_neg (by simp [h])

end Monitor

/-- What one pass through the loop of a `take_*_for_call` comes to: the inner object, the
`None` of a call that has nothing to do, a failure, or another wait. -/
inductive TakeResult (I : Type) where
  | acquired (inner : I)
  | already
  | refused (failure : CallFailure)
  | wait
  deriving DecidableEq, Repr

/-- How the inner step of a call ends; a panic in it is contained. -/
inductive StepResult (V : Type) where
  | ok (value : V)
  | error (failure : CallFailure)
  | panic
  deriving DecidableEq, Repr

def StepResult.bind {V W : Type} (result : StepResult V) (f : V → StepResult W) : StepResult W :=
  match result with
  | .ok value => f value
  | .error failure => .error failure
  | .panic => .panic

def StepResult.map {V W : Type} (f : V → W) (result : StepResult V) : StepResult W :=
  result.bind fun value => .ok (f value)

/-- Where the inner object is, as far as the state says. -/
inductive SyncView (I : Type) where
  | stored (inner : I)
  | busy
  | over
  | failed
  deriving DecidableEq, Repr

/-- What a call leaves with its caller. -/
structure Reply (V : Type) where
  status : Status
  error : Option ErrorV1 := none
  value : Option V := none
  deriving DecidableEq, Repr

def Reply.failure {V : Type} (failure : CallFailure) : Reply V where
  status := (finishFailure failure).1
  error := (finishFailure failure).2

/-- The calls on a guarded object: what they do with the monitor, what their inner steps
return, and the state that each result is stored as. -/
structure SyncCell (I : Type) where
  State : Type
  Call : Type
  /-- The result of an operation of the inner object. -/
  Raw : Type
  Value : Type
  view : State → SyncView I
  fresh : I → State
  failed : State
  take : Call → Monitor State → Monitor State × TakeResult I
  set : State → Monitor State → Monitor State × CallResult Unit
  fail : Monitor State → Monitor State
  /-- The inner step of a call, given what the inner object returned; `none` for a result
  of another operation. -/
  stepResult : Call → Raw → Option (StepResult Value)
  next : Value → I → State
  /-- Whether the inner object is kept after this value. -/
  proceeds : Value → Bool
  reply : Value → Reply Value
  /-- The status for the `None` of `take`, in the calls for which it is reachable. -/
  already : Call → Option Status
  view_fresh : ∀ inner, view (fresh inner) = .stored inner
  view_failed : view failed = .failed
  view_next : ∀ value inner,
    view (next value inner) = if proceeds value then .stored inner else .over
  take_poisoned : ∀ call {m}, m.poisoned = true →
    (take call m).1 = m.fail failed ∧ ∃ failure, (take call m).2 = .refused failure
  take_busy : ∀ call {m}, m.poisoned = false → view m.state = .busy → take call m = (m, .wait)
  /-- A call that need not wait takes the stored object or leaves the monitor alone. -/
  take_free : ∀ call {m}, m.poisoned = false → view m.state ≠ .busy →
    (∃ inner busy, view m.state = .stored inner ∧ view busy = .busy ∧
      take call m = ({ m with state := busy }, .acquired inner)) ∨
    (take call m = (m, .already) ∧ (already call).isSome) ∨
    ∃ failure, take call m = (m, .refused failure)
  set_poisoned : ∀ next {m}, m.poisoned = true →
    (set next m).1 = m.fail failed ∧ ∃ failure, (set next m).2 = .error failure
  set_clean : ∀ next {m}, m.poisoned = false →
    set next m = ({ m with state := next }.notifyAll, .ok ())
  fail_eq : ∀ m, fail m = m.fail failed

end OpendalMbt.Native
