import OpendalMbt.Native.Monitor
import OpendalMbt.Transition.Run

/-!
# Calls on one guarded object

A `SyncSystem` is one monitor with every call ever made on it, by any number of threads.
A call enters, locks the monitor, possibly waits there, takes the inner object, runs its
inner step without the lock, stores its next state under the lock and returns; each of
these is an action of its own, so a list of events is an interleaving.

* A waiter may wake at any time: spurious wake-ups are allowed.
* `panic` is a panic outside the inner step, which the outer `catch_unwind` answers by
  failing the state (`fail`); `poison` is one while the lock is held.
* The logs record which calls took the object, which began their inner step, and what
  each inner step returned.

The arguments of a call are validated before it enters and are not part of the model.
-/

namespace OpendalMbt.Native

open Transition

inductive Phase (I V : Type) where
  | entering
  /-- Waiting on the condition variable since `changed` had this value. -/
  | parked (seen : Nat)
  | holding (inner : I)
  | running (inner : I)
  | stepped (inner : I) (result : StepResult V)
  | panicking
  | leaving (reply : Reply V)
  | returned (reply : Reply V)
  deriving DecidableEq, Repr

namespace Phase

variable {I V : Type}

/-- The reply that the caller gets or has got. -/
def reply? : Phase I V → Option (Reply V)
  | .leaving reply | .returned reply => some reply
  | _ => none

/-- The call has not got past the lock. -/
def Waiting : Phase I V → Prop
  | .entering | .parked _ => True
  | _ => False

def HasInner : Phase I V → Prop
  | .holding _ | .running _ | .stepped _ _ => True
  | _ => False

end Phase

structure SyncCall {I : Type} (cell : SyncCell I) where
  call : cell.Call
  phase : Phase I cell.Value := .entering

/-- The position of a call in the list of calls, with its kind. -/
abbrev SyncCell.Key {I : Type} (cell : SyncCell I) := Nat × cell.Call

structure SyncSystem {I : Type} (cell : SyncCell I) where
  monitor : Monitor cell.State
  calls : List (SyncCall cell) := []
  acquired : List cell.Key := []
  begun : List cell.Key := []
  ended : List (cell.Key × cell.Raw) := []

inductive CallAction {I : Type} (cell : SyncCell I) where
  | lock
  | begin
  | finish (raw : cell.Raw)
  | store
  | leave
  | panic
  | poison
  | fail

inductive SyncEvent {I : Type} (cell : SyncCell I) where
  | enter (call : cell.Call)
  | act (i : Nat) (action : CallAction cell)

variable {I : Type} {cell : SyncCell I}

/-- No panic outside an inner step, and so no poisoned lock. -/
def SyncEvent.Contained : SyncEvent cell → Prop
  | .act _ .panic | .act _ .poison => False
  | _ => True

/-- The state that a call stores after its inner step. -/
def SyncCell.storedState (cell : SyncCell I) (inner : I) : StepResult cell.Value → cell.State
  | .ok value => cell.next value inner
  | .error _ | .panic => cell.failed

/-- The reply of a call whose state has been stored. -/
def SyncCell.storeReply (cell : SyncCell I) : StepResult cell.Value → Reply cell.Value
  | .ok value => cell.reply value
  | .error failure => .failure failure
  | .panic => { status := .panic }

/-- Where a call goes from the lock; an unexpected `None` is `unreachable!`. -/
def SyncCell.afterTake (cell : SyncCell I) (call : cell.Call) (changed : Nat) :
    TakeResult I → Phase I cell.Value
  | .acquired inner => .holding inner
  | .already =>
    match cell.already call with
    | some status => .leaving { status }
    | none => .panicking
  | .refused failure => .leaving (.failure failure)
  | .wait => .parked changed

namespace SyncCall

variable (m : Monitor cell.State) (c : SyncCall cell)

def lock : Option (Monitor cell.State × Phase I cell.Value) :=
  match c.phase with
  | .entering | .parked _ =>
    let (m', result) := cell.take c.call m
    some (m', cell.afterTake c.call m'.changed result)
  | _ => none

def begin : Option (Monitor cell.State × Phase I cell.Value) :=
  match c.phase with
  | .holding inner => some (m, .running inner)
  | _ => none

def finish (raw : cell.Raw) : Option (Monitor cell.State × Phase I cell.Value) :=
  match c.phase, cell.stepResult c.call raw with
  | .running inner, some result => some (m, .stepped inner result)
  | _, _ => none

/-- Store the next state of a step; what storing a failure returns is ignored. -/
def store : Option (Monitor cell.State × Phase I cell.Value) :=
  match c.phase with
  | .stepped inner (.ok value) =>
    match cell.set (cell.next value inner) m with
    | (m', .ok ()) => some (m', .leaving (cell.storeReply (.ok value)))
    | (m', .error failure) => some (m', .leaving (.failure failure))
  | .stepped _ result => some ((cell.set cell.failed m).1, .leaving (cell.storeReply result))
  | _ => none

def leave : Option (Monitor cell.State × Phase I cell.Value) :=
  match c.phase with
  | .leaving reply => some (m, .returned reply)
  | _ => none

def panic : Option (Monitor cell.State × Phase I cell.Value) :=
  match c.phase with
  | .entering | .holding _ | .stepped _ _ | .leaving _ => some (m, .panicking)
  | _ => none

def poison : Option (Monitor cell.State × Phase I cell.Value) :=
  match c.phase with
  | .entering | .parked _ | .stepped _ _ => some ({ m with poisoned := true }, .panicking)
  | _ => none

def fail : Option (Monitor cell.State × Phase I cell.Value) :=
  match c.phase with
  | .panicking => some (cell.fail m, .returned { status := .panic })
  | _ => none

def act : CallAction cell → Option (Monitor cell.State × Phase I cell.Value)
  | .lock => c.lock m
  | .begin => c.begin m
  | .finish raw => c.finish m raw
  | .store => c.store m
  | .leave => c.leave m
  | .panic => c.panic m
  | .poison => c.poison m
  | .fail => c.fail m

end SyncCall

namespace SyncSystem

def opened (cell : SyncCell I) (inner : I) : SyncSystem cell :=
  { monitor := { state := cell.fresh inner } }

/-- Call `i` has moved to `phase` by `action`; the logs record what it did. -/
def moved (s : SyncSystem cell) (i : Nat) (c : SyncCall cell) (action : CallAction cell)
    (monitor : Monitor cell.State) (phase : Phase I cell.Value) : SyncSystem cell where
  monitor := monitor
  calls := s.calls.set i { c with phase }
  acquired := s.acquired ++
    match phase with
    | .holding _ => [(i, c.call)]
    | _ => []
  begun := s.begun ++
    match phase with
    | .running _ => [(i, c.call)]
    | _ => []
  ended := s.ended ++
    match action with
    | .finish raw => [((i, c.call), raw)]
    | _ => []

def step (s : SyncSystem cell) : SyncEvent cell → Option (SyncSystem cell)
  | .enter call => some { s with calls := s.calls ++ [{ call }] }
  | .act i action => do
    let c ← s.calls[i]?
    let (monitor, phase) ← c.act s.monitor action
    some (s.moved i c action monitor phase)

variable {s t : SyncSystem cell} {e : SyncEvent cell}

theorem getElem?_moved {i : Nat} {c : SyncCall cell} (hc : s.calls[i]? = some c)
    (a : CallAction cell) (m : Monitor cell.State) (phase : Phase I cell.Value) (j : Nat) :
    (s.moved i c a m phase).calls[j]? =
      if i = j then some { c with phase } else s.calls[j]? := by
  have hlt := (List.getElem?_eq_some_iff.mp hc).1
  simp only [moved, List.getElem?_set, hlt, if_true]

theorem step_cases (hstep : s.step e = some t) :
    (∃ call, e = .enter call ∧ t = { s with calls := s.calls ++ [{ call }] }) ∨
    ∃ i c a monitor phase, e = .act i a ∧ s.calls[i]? = some c ∧
      c.act s.monitor a = some (monitor, phase) ∧ t = s.moved i c a monitor phase := by
  cases e with
  | enter call =>
    cases hstep
    exact .inl ⟨call, rfl, rfl⟩
  | act i a =>
    simp only [step, Option.bind_eq_bind, Option.bind_eq_some_iff] at hstep
    obtain ⟨c, hc, ⟨monitor, phase⟩, hact, heq⟩ := hstep
    cases heq
    exact .inr ⟨i, c, a, monitor, phase, rfl, hc, hact, rfl⟩

theorem step_act {i : Nat} {c : SyncCall cell} {a : CallAction cell}
    {monitor : Monitor cell.State} {phase : Phase I cell.Value} (hc : s.calls[i]? = some c)
    (hact : c.act s.monitor a = some (monitor, phase)) :
    s.step (.act i a) = some (s.moved i c a monitor phase) := by
  simp only [step, hc, hact, Option.bind_eq_bind, Option.bind_some]

end SyncSystem

/-! ## What one action can do -/

namespace SyncCall

variable {m m' : Monitor cell.State} {c : SyncCall cell} {phase : Phase I cell.Value}

theorem lock_eq_some (h : c.lock m = some (m', phase)) :
    c.phase.Waiting ∧ m' = (cell.take c.call m).1 ∧
      phase = cell.afterTake c.call m'.changed (cell.take c.call m).2 := by
  unfold lock at h
  split at h
  · rename_i hphase
    cases h
    exact ⟨by rw [hphase]; trivial, rfl, rfl⟩
  · rename_i seen hphase
    cases h
    exact ⟨by rw [hphase]; trivial, rfl, rfl⟩
  · cases h

theorem lock_of_waiting (h : c.phase.Waiting) (m : Monitor cell.State) :
    c.lock m = some ((cell.take c.call m).1,
      cell.afterTake c.call (cell.take c.call m).1.changed (cell.take c.call m).2) := by
  unfold lock
  split
  · rfl
  · rfl
  · rename_i hentering hparked
    cases hphase : c.phase with
    | entering => exact absurd hphase hentering
    | parked seen => exact absurd hphase (hparked seen)
    | _ =>
      rw [hphase] at h
      exact h.elim

/-- On a clean lock a call waits for a busy object, takes a stored one, or is answered
without touching anything. -/
theorem lock_clean (h : c.lock m = some (m', phase)) (hclean : m.poisoned = false) :
    (cell.view m.state = .busy ∧ m' = m ∧ phase = .parked m.changed) ∨
    (∃ inner busy, cell.view m.state = .stored inner ∧ cell.view busy = .busy ∧
      cell.take c.call m = ({ m with state := busy }, .acquired inner) ∧
      m' = { m with state := busy } ∧ phase = .holding inner) ∨
    (cell.view m.state ≠ .busy ∧ m' = m ∧ ∃ reply, reply.value = none ∧
      phase = .leaving reply ∧ ∀ n, cell.afterTake c.call n (cell.take c.call m).2 = phase) := by
  obtain ⟨-, rfl, rfl⟩ := lock_eq_some h
  by_cases hbusy : cell.view m.state = .busy
  · refine .inl ⟨hbusy, ?_⟩
    rw [cell.take_busy c.call hclean hbusy]
    exact ⟨rfl, rfl⟩
  · rcases cell.take_free c.call hclean hbusy with ⟨inner, busy, hstored, hb, htake⟩ |
        ⟨htake, halready⟩ | ⟨failure, htake⟩
    · refine .inr (.inl ⟨inner, busy, hstored, hb, htake, ?_⟩)
      rw [htake]
      exact ⟨rfl, rfl⟩
    · obtain ⟨status, hstatus⟩ := Option.isSome_iff_exists.mp halready
      refine .inr (.inr ⟨hbusy, by rw [htake], { status }, rfl, ?_, ?_⟩)
      · simp only [htake, SyncCell.afterTake, hstatus]
      · intro n
        simp only [htake, SyncCell.afterTake]
    · refine .inr (.inr ⟨hbusy, by rw [htake], .failure failure, rfl, ?_, ?_⟩)
      · simp only [htake, SyncCell.afterTake]
      · intro n
        simp only [htake, SyncCell.afterTake]

theorem begin_eq_some (h : c.begin m = some (m', phase)) :
    ∃ inner, c.phase = .holding inner ∧ m' = m ∧ phase = .running inner := by
  unfold begin at h
  split at h <;> cases h
  exact ⟨_, ‹_›, rfl, rfl⟩

theorem finish_eq_some {raw : cell.Raw} (h : c.finish m raw = some (m', phase)) :
    ∃ inner result, c.phase = .running inner ∧ cell.stepResult c.call raw = some result ∧
      m' = m ∧ phase = .stepped inner result := by
  unfold finish at h
  split at h <;> cases h
  exact ⟨_, _, ‹_›, ‹_›, rfl, rfl⟩

/-- On a clean lock a step stores what its result asks for. -/
theorem store_clean (h : c.store m = some (m', phase)) (hclean : m.poisoned = false) :
    ∃ inner result, c.phase = .stepped inner result ∧
      phase = .leaving (cell.storeReply result) ∧
      m' = { m with state := cell.storedState inner result }.notifyAll := by
  unfold store at h
  split at h
  · rename_i inner value hphase
    rw [cell.set_clean _ hclean] at h
    cases h
    exact ⟨inner, _, hphase, rfl, rfl⟩
  · rename_i inner result hok hphase
    rw [cell.set_clean _ hclean] at h
    cases h
    refine ⟨inner, result, hphase, rfl, ?_⟩
    cases result with
    | ok value => exact absurd rfl (hok value)
    | error failure => rfl
    | panic => rfl
  · cases h

/-- On a poisoned lock every step stores the failure. -/
theorem store_poisoned (h : c.store m = some (m', phase)) (hpoisoned : m.poisoned = true) :
    m' = m.fail cell.failed ∧ ∃ reply, phase = .leaving reply := by
  unfold store at h
  split at h
  · rename_i inner value hphase
    obtain ⟨hset, failure, hfailure⟩ := cell.set_poisoned (cell.next value inner) hpoisoned
    rcases hpair : cell.set (cell.next value inner) m with ⟨n, result⟩
    rw [hpair] at h hset hfailure
    subst hset hfailure
    cases h
    exact ⟨rfl, _, rfl⟩
  · cases h
    exact ⟨(cell.set_poisoned cell.failed hpoisoned).1, _, rfl⟩
  · cases h

theorem leave_eq_some (h : c.leave m = some (m', phase)) :
    ∃ reply, c.phase = .leaving reply ∧ m' = m ∧ phase = .returned reply := by
  unfold leave at h
  split at h <;> cases h
  exact ⟨_, ‹_›, rfl, rfl⟩

theorem panic_eq_some (h : c.panic m = some (m', phase)) : m' = m ∧ phase = .panicking := by
  unfold panic at h
  split at h <;> cases h
  all_goals exact ⟨rfl, rfl⟩

theorem poison_eq_some (h : c.poison m = some (m', phase)) :
    m' = { m with poisoned := true } ∧ phase = .panicking := by
  unfold poison at h
  split at h <;> cases h
  all_goals exact ⟨rfl, rfl⟩

theorem fail_eq_some (h : c.fail m = some (m', phase)) :
    c.phase = .panicking ∧ m' = m.fail cell.failed ∧ phase = .returned { status := .panic } := by
  unfold fail at h
  split at h <;> cases h
  exact ⟨‹_›, cell.fail_eq m, rfl⟩

end SyncCall

end OpendalMbt.Native
