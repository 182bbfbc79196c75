import OpendalMbt.Native.ResourceEntries
import OpendalMbt.Transition.Run
import OpendalMbt.Transition.RwLock

/-!
# Calls on one reader

`ReaderV1` of `native/rust/src/lib.rs` with every `reader_read` and `reader_close` ever made on
it, by any number of threads. A read checks its range before it asks for the lock, and reads
under a read guard; a close replaces the state under a write guard, and drops the inner reader
without it. A read that panics gives its guard back and closes. Each of these is a step of its
own, so that a list of events is an interleaving. Outputs and handles are valid.

* `step_cases`, `moves_of_act`: all that one step does;
* `Moment`: what the inner reader sees of it.
-/

namespace OpendalMbt.Native

open Transition

inductive ReaderStateV1 where
  | open
  | closed
  deriving DecidableEq, Repr

inductive ReaderCall where
  | read (range : Pointer ByteRangeV1) (maxOutputLen : UInt64)
  | close
  deriving DecidableEq, Repr

/-- A `reader_close` has nothing to say. -/
abbrev ReaderReply : Type := Option (Reply (List UInt8))

inductive ReaderPhase where
  | entering
  | admitting (range : BytesRange)
  | guarded (range : BytesRange)
  | reading (range : BytesRange)
  /-- In `close_reader_state`, with the reply for afterwards. -/
  | closing (reply : ReaderReply)
  | exclusive (reply : ReaderReply)
  | replaced (inner : Bool) (reply : ReaderReply)
  | dropping (inner : Bool) (reply : ReaderReply)
  | returned (reply : ReaderReply)
  deriving DecidableEq, Repr

namespace ReaderPhase

def guard : ReaderPhase → Guard
  | guarded _ | reading _ => .shared
  | exclusive _ | replaced _ _ => .exclusive
  | _ => .none

/-- The call has taken the inner reader out of the state. -/
def HasInner : ReaderPhase → Prop
  | replaced true _ | dropping true _ => True
  | _ => False

end ReaderPhase

structure ReaderThread where
  call : ReaderCall
  phase : ReaderPhase := .entering
  deriving DecidableEq, Repr

/-- What happens to the inner reader, and when it is replaced. -/
inductive Moment where
  | admitted (i : Nat)
  | finished (i : Nat) (outcome : StepResult (List UInt8))
  | shut
  | dropped
  deriving DecidableEq, Repr

/-- The newest moment is the first of the log. -/
structure ReaderSystem where
  readWithSuffix : Bool
  lock : RwLock Nat := .fresh
  state : ReaderStateV1 := .open
  calls : List ReaderThread := []
  log : List Moment := []

inductive ReaderAction where
  | advance
  | finish (outcome : StepResult (List UInt8))
  deriving DecidableEq, Repr

inductive ReaderEvent where
  | enter (call : ReaderCall)
  | act (i : Nat) (action : ReaderAction)
  deriving DecidableEq, Repr

/-- What a call leaves behind when it has moved. -/
structure ReaderTurn where
  lock : RwLock Nat
  state : ReaderStateV1
  phase : ReaderPhase
  moments : List Moment := []

def panicked : ReaderReply := some { status := .panic }

def failedWith (failure : CallFailure) : ReaderReply := some (.failure failure)

/-- The reply to a read whose inner read has returned. -/
def readReply : StepResult (List UInt8) → ReaderReply
  | .ok buffer => some { status := .ok, value := some buffer }
  | .error failure => failedWith failure
  | .panic => panicked

namespace ReaderSystem

def opened (readWithSuffix : Bool) : ReaderSystem where
  readWithSuffix := readWithSuffix

variable (s : ReaderSystem) (i : Nat)

/-- Nothing but the phase changes. -/
def stay (phase : ReaderPhase) : ReaderTurn where
  lock := s.lock
  state := s.state
  phase := phase

def entered (call : ReaderCall) : ReaderSystem := { s with calls := s.calls ++ [{ call }] }

/-- The checks of a read, or the way into `close_reader_state`. -/
def enter : ReaderCall → ReaderPhase
  | .close => .closing none
  | .read range maxOutputLen =>
    match (Entry.readerRange s.readWithSuffix range maxOutputLen {}).1 with
    | .ok range => .admitting range
    | .error (.failure failure) => .returned (failedWith failure)
    | .error .panic => .closing panicked

def advance (c : ReaderThread) : Option ReaderTurn :=
  match c.phase with
  | .entering => some (s.stay (s.enter c.call))
  | .admitting range => do
    let lock ← s.lock.read i
    some { lock, state := s.state, phase := .guarded range }
  | .guarded range =>
    if s.lock.poisoned then
      some {
        lock := s.lock.releaseRead i
        state := s.state
        phase := .closing (failedWith Entry.readerLockPoisoned) }
    else
      match s.state with
      | .open =>
        some { lock := s.lock, state := .open, phase := .reading range, moments := [.admitted i] }
      | .closed =>
        some {
          lock := s.lock.releaseRead i
          state := .closed
          phase := .returned (failedWith Entry.readerClosed) }
  | .reading _ => none
  | .closing reply => do
    let lock ← s.lock.write i
    some { lock, state := s.state, phase := .exclusive reply }
  | .exclusive reply =>
    match s.state with
    | .open =>
      some {
        lock := s.lock.clearPoison
        state := .closed
        phase := .replaced true reply
        moments := [.shut] }
    | .closed =>
      some { lock := s.lock.clearPoison, state := .closed, phase := .replaced false reply }
  | .replaced inner reply =>
    some { lock := s.lock.releaseWrite false, state := s.state, phase := .dropping inner reply }
  | .dropping true reply => some { s.stay (.returned reply) with moments := [.dropped] }
  | .dropping false reply => some (s.stay (.returned reply))
  | .returned _ => none

/-- The inner read ends, and its guard is given back, also when it panics. -/
def finish (c : ReaderThread) (outcome : StepResult (List UInt8)) : Option ReaderTurn :=
  match c.phase with
  | .reading _ =>
    some {
      lock := s.lock.releaseRead i
      state := s.state
      phase :=
        match outcome with
        | .panic => .closing panicked
        | outcome => .returned (readReply outcome)
      moments := [.finished i outcome] }
  | _ => none

def act (c : ReaderThread) : ReaderAction → Option ReaderTurn
  | .advance => s.advance i c
  | .finish outcome => s.finish i c outcome

def moved (c : ReaderThread) (turn : ReaderTurn) : ReaderSystem where
  readWithSuffix := s.readWithSuffix
  lock := turn.lock
  state := turn.state
  calls := s.calls.set i { c with phase := turn.phase }
  log := turn.moments ++ s.log

def step : ReaderEvent → Option ReaderSystem
  | .enter call => some (s.entered call)
  | .act i action => do
    let c ← s.calls[i]?
    let turn ← s.act i c action
    some (s.moved i c turn)

/-- The phase of a call that was made. -/
def phase? : Option ReaderPhase := (s.calls[i]?).map ReaderThread.phase

/-- What a call should have of the lock. -/
def guardOf : Guard := (s.phase? i).elim .none ReaderPhase.guard

variable {s : ReaderSystem} {i : Nat} {t : ReaderSystem} {e : ReaderEvent}

theorem phase?_of_getElem? {c : ReaderThread} (h : s.calls[i]? = some c) :
    s.phase? i = some c.phase := by
  rw [phase?, h]
  rfl

theorem getElem?_moved {c : ReaderThread} (hc : s.calls[i]? = some c) (turn : ReaderTurn) (j : Nat) :
    (s.moved i c turn).calls[j]? =
      if j = i then some { c with phase := turn.phase } else s.calls[j]? := by
  have hlt := (List.getElem?_eq_some_iff.mp hc).1
  by_cases hj : j = i
  · subst hj
    rw [if_pos rfl]
    exact List.getElem?_set_self hlt
  · rw [if_neg hj]
    exact List.getElem?_set_ne (Ne.symm hj)

theorem phase?_moved {c : ReaderThread} (hc : s.calls[i]? = some c) (turn : ReaderTurn) :
    (s.moved i c turn).phase? = Function.update s.phase? i (some turn.phase) := by
  ext1 j
  rw [phase?, getElem?_moved hc]
  by_cases hj : j = i
  · subst hj
    rw [if_pos rfl, Function.update_self]
    rfl
  · rw [if_neg hj, Function.update_of_ne hj]
    rfl

theorem getElem?_entered (call : ReaderCall) (j : Nat) :
    (s.entered call).calls[j]? = if j = s.calls.length then some { call } else s.calls[j]? := by
  show (s.calls ++ [_])[j]? = _
  rcases Nat.lt_trichotomy j s.calls.length with hlt | heq | hgt
  · rw [List.getElem?_append_left hlt, if_neg (Nat.ne_of_lt hlt)]
  · subst heq
    rw [List.getElem?_append_right (Nat.le_refl _), Nat.sub_self, if_pos rfl]
    rfl
  · have hlast : s.calls.length + 1 ≤ j := hgt
    rw [if_neg (Nat.ne_of_gt hgt), List.getElem?_eq_none (Nat.le_of_lt hgt)]
    apply List.getElem?_eq_none
    rw [List.length_append]
    exact hlast

theorem phase?_entered (call : ReaderCall) :
    (s.entered call).phase? = Function.update s.phase? s.calls.length (some .entering) := by
  ext1 j
  rw [phase?, getElem?_entered]
  by_cases hj : j = s.calls.length
  · subst hj
    rw [if_pos rfl, Function.update_self]
    rfl
  · rw [if_neg hj, Function.update_of_ne hj]
    rfl

/-- A call that was not made has no phase. -/
theorem phase?_length : s.phase? s.calls.length = none := by
  rw [phase?, List.getElem?_eq_none (Nat.le_refl _)]
  rfl

theorem guardOf_moved {c : ReaderThread} (hc : s.calls[i]? = some c) (turn : ReaderTurn) :
    (s.moved i c turn).guardOf = Function.update s.guardOf i turn.phase.guard := by
  ext1 j
  rw [guardOf, phase?_moved hc]
  by_cases hj : j = i
  · subst hj
    rw [Function.update_self, Function.update_self]
    rfl
  · rw [Function.update_of_ne hj, Function.update_of_ne hj]
    rfl

/-- A new call enters, or one that was made has its turn. -/
theorem step_cases (h : s.step e = some t) :
    (∃ call, e = .enter call ∧ t = s.entered call) ∨
      ∃ i c action turn, e = .act i action ∧ s.calls[i]? = some c ∧
        s.act i c action = some turn ∧ t = s.moved i c turn := by
  cases e with
  | enter call =>
    cases h
    exact .inl ⟨call, rfl, rfl⟩
  | act i action =>
    simp only [step, Option.bind_eq_bind, Option.bind_eq_some_iff] at h
    obtain ⟨c, hc, turn, hturn, heq⟩ := h
    cases heq
    exact .inr ⟨i, c, action, turn, rfl, hc, hturn, rfl⟩

/-- All that the turn of a call can be. -/
inductive Moves (s : ReaderSystem) (i : Nat) (c : ReaderThread) : ReaderAction → ReaderTurn → Prop where
  | enter (hphase : c.phase = .entering) : Moves s i c .advance (s.stay (s.enter c.call))
  | lockShared {range : BytesRange} {lock : RwLock Nat} (hphase : c.phase = .admitting range)
      (hlock : s.lock.read i = some lock) :
      Moves s i c .advance { lock, state := s.state, phase := .guarded range }
  | poisoned {range : BytesRange} (hphase : c.phase = .guarded range)
      (hpoisoned : s.lock.poisoned = true) :
      Moves s i c .advance {
        lock := s.lock.releaseRead i
        state := s.state
        phase := .closing (failedWith Entry.readerLockPoisoned) }
  | enters {range : BytesRange} (hphase : c.phase = .guarded range) (hopen : s.state = .open) :
      Moves s i c .advance {
        lock := s.lock, state := .open, phase := .reading range, moments := [.admitted i] }
  | refuse {range : BytesRange} (hphase : c.phase = .guarded range) (hclosed : s.state = .closed) :
      Moves s i c .advance {
        lock := s.lock.releaseRead i
        state := .closed
        phase := .returned (failedWith Entry.readerClosed) }
  | finish {range : BytesRange} (hphase : c.phase = .reading range)
      (outcome : StepResult (List UInt8)) :
      Moves s i c (.finish outcome) {
        lock := s.lock.releaseRead i
        state := s.state
        phase := if outcome = .panic then .closing panicked else .returned (readReply outcome)
        moments := [.finished i outcome] }
  | lockExclusive {reply : ReaderReply} {lock : RwLock Nat} (hphase : c.phase = .closing reply)
      (hlock : s.lock.write i = some lock) :
      Moves s i c .advance { lock, state := s.state, phase := .exclusive reply }
  | shut {reply : ReaderReply} (hphase : c.phase = .exclusive reply) (hopen : s.state = .open) :
      Moves s i c .advance {
        lock := s.lock.clearPoison
        state := .closed
        phase := .replaced true reply
        moments := [.shut] }
  | shutAgain {reply : ReaderReply} (hphase : c.phase = .exclusive reply)
      (hclosed : s.state = .closed) :
      Moves s i c .advance {
        lock := s.lock.clearPoison, state := .closed, phase := .replaced false reply }
  | unlock {inner : Bool} {reply : ReaderReply} (hphase : c.phase = .replaced inner reply) :
      Moves s i c .advance {
        lock := s.lock.releaseWrite false, state := s.state, phase := .dropping inner reply }
  | drop {reply : ReaderReply} (hphase : c.phase = .dropping true reply) :
      Moves s i c .advance { s.stay (.returned reply) with moments := [.dropped] }
  | leave {reply : ReaderReply} (hphase : c.phase = .dropping false reply) :
      Moves s i c .advance (s.stay (.returned reply))

theorem moves_of_act {c : ReaderThread} {action : ReaderAction} {turn : ReaderTurn}
    (h : s.act i c action = some turn) : Moves s i c action turn := by
  cases action with
  | finish outcome =>
    simp only [act, finish] at h
    cases hphase : c.phase with
    | reading range =>
      rw [hphase] at h
      cases outcome <;> cases h <;> exact .finish hphase _
    | _ => simp [hphase] at h
  | advance =>
    simp only [act, advance] at h
    cases hphase : c.phase with
    | entering =>
      rw [hphase] at h
      cases h
      exact .enter hphase
    | admitting range =>
      simp only [hphase, Option.bind_eq_bind, Option.bind_eq_some_iff] at h
      obtain ⟨lock, hlock, heq⟩ := h
      cases heq
      exact .lockShared hphase hlock
    | guarded range =>
      simp only [hphase] at h
      split_ifs at h with hpoisoned
      · cases h
        exact .poisoned hphase hpoisoned
      · cases hstate : s.state with
        | «open» =>
          rw [hstate] at h
          cases h
          exact .enters hphase hstate
        | closed =>
          rw [hstate] at h
          cases h
          exact .refuse hphase hstate
    | reading range => simp [hphase] at h
    | closing reply =>
      simp only [hphase, Option.bind_eq_bind, Option.bind_eq_some_iff] at h
      obtain ⟨lock, hlock, heq⟩ := h
      cases heq
      exact .lockExclusive hphase hlock
    | exclusive reply =>
      simp only [hphase] at h
      cases hstate : s.state with
      | «open» =>
        rw [hstate] at h
        cases h
        exact .shut hphase hstate
      | closed =>
        rw [hstate] at h
        cases h
        exact .shutAgain hphase hstate
    | replaced inner reply =>
      rw [hphase] at h
      cases h
      exact .unlock hphase
    | dropping inner reply =>
      cases inner with
      | true =>
        rw [hphase] at h
        cases h
        exact .drop hphase
      | false =>
        rw [hphase] at h
        cases h
        exact .leave hphase
    | returned reply => simp [hphase] at h

end ReaderSystem

end OpendalMbt.Native
