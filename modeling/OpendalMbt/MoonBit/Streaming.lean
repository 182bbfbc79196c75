import OpendalMbt.Browser.ChildRuns
import OpendalMbt.MoonBit.Error

/-!
# Streams, writers and listers of the browser package

`src/browser/streaming.mbt`: the MoonBit objects, each around one JavaScript child. A method
checks the flags of its object, calls the child through `run_promise` and goes on when the
Promise has settled or the MoonBit task is cancelled, in a piece of its own. Any number of
tasks may call one object.

* `run_promise` belongs to the `async` package. Of it the model takes that the child is called
  at once, and that the method goes on either cancelled, at any time, or with what its Promise
  settled with.
* The child runs as in `Browser.Child`; what `close()` of the child answers is ignored.
-/

namespace OpendalMbt.MoonBit

open Codec Browser Transition

/-- How a method goes on after `run_promise`. -/
inductive Resumed (V : Type) where
  | cancelled
  | rejected
  | failed (error : ErrorOutcome JsString)
  | value (value : V)

def Resumed.ofAnswer {V : Type} : Answer V → Resumed V
  | .ok (.ok v) => .value v
  | .ok (.failed e) => .failed e
  | .error _ => .rejected

/-- What a method returns or raises; a cancelled task raises the error of the `async` package. -/
inductive Reply (V : Type) where
  | value (value : V)
  | raised (error : OpenDalError)
  | cancelled
  deriving DecidableEq, Repr

/-- The methods of a MoonBit object. -/
structure Wrapper {V : Type} (cls : ChildClass V) where
  Flags : Type
  Op : Type
  jsOp : Op → cls.Op
  /-- Up to `run_promise`: a reply at once, or the flags with which the child is called. -/
  enter : Op → (operatorClosed : Bool) → Flags → Except (Reply V) Flags
  /-- After `run_promise`: the reply, the flags, and whether the child is closed. -/
  resume : Op → Resumed V → Flags → Reply V × Flags × Bool
  /-- The flags with which `close` closes the child, if it does. -/
  close : Flags → Option Flags

/-! ## Read streams and listers -/

structure CursorFlags where
  closed : Bool := false
  ended : Bool := false
  deriving DecidableEq, Repr

section Cursor

variable {V : Type} (cursor : Cursor V) (context : ErrorContext)
  (closedMessage rejectedMessage : String)

/-- `AsyncReadStream` and `AsyncLister` differ in their texts only. -/
abbrev cursorWrapper : Wrapper cursor.childClass where
  Flags := CursorFlags
  Op := Unit
  jsOp := id
  enter _ operatorClosed flags :=
    if flags.ended then .error (.value cursor.done)
    else if flags.closed || operatorClosed then
      .error (.raised (localError .resourceClosed closedMessage context))
    else .ok flags
  resume _ resumed flags :=
    match resumed with
    | .cancelled => (.cancelled, { flags with closed := true }, true)
    | .rejected =>
      (.raised (localError .abiMismatch rejectedMessage context), { flags with closed := true },
        true)
    | .failed e => (.raised (bridgeError e context), { flags with closed := true }, true)
    | .value value =>
      if cursor.post value = .end then (.value value, { closed := true, ended := true }, true)
      else (.value value, flags, false)
  close flags := if flags.closed then none else some { flags with closed := true }

end Cursor

def asyncReadStream (path : String) (chunkSize : Nat) :
    Wrapper (readStreamCursor path chunkSize).childClass :=
  cursorWrapper (readStreamCursor path chunkSize) { operation := .read, path := some path }
    "browser read stream is closed"
    "OpenDAL browser stream Promise rejected instead of returning an outcome"

def asyncLister (path : String) : Wrapper (listerCursor path).childClass :=
  cursorWrapper (listerCursor path) { operation := .list, path := some path }
    "browser lister is closed"
    "OpenDAL browser lister Promise rejected instead of returning an outcome"

/-! ## Writers -/

inductive WriterLifecycle where
  | writerOpen | writerAborted | writerTerminal
  deriving DecidableEq, Repr

inductive WriterMethod where
  | write (chunk : List UInt8)
  | finish
  | abort
  deriving DecidableEq, Repr

def WriterMethod.jsOp : WriterMethod → WriterOp
  | .write _ => .write
  | .finish => .finish
  | .abort => .abort

section Writer

variable (path : String)

def writerContext : ErrorContext := { operation := .write, path := some path }

/-- `AsyncWriter::ensure_open`. -/
def writerEnsureOpen (operatorClosed : Bool) (lifecycle : WriterLifecycle) :
    Except (Reply (Option (MetadataValue JsString))) Unit :=
  if lifecycle ≠ .writerOpen ∨ operatorClosed = true then
    .error (.raised (localError .resourceClosed "browser writer is closed" (writerContext path)))
  else .ok ()

def writerEnter (method : WriterMethod) (operatorClosed : Bool) (lifecycle : WriterLifecycle) :
    Except (Reply (Option (MetadataValue JsString))) WriterLifecycle :=
  match method with
  | .write chunk => do
    writerEnsureOpen path operatorClosed lifecycle
    if chunk.length > 256 * 1024 then
      .error (.raised (localError .bufferTooLarge "browser writer chunk must not exceed 256 KiB"
        (writerContext path)))
    else .ok lifecycle
  | .finish => do
    writerEnsureOpen path operatorClosed lifecycle
    .ok .writerTerminal
  | .abort =>
    if lifecycle = .writerAborted then .error (.value none)
    else do
      writerEnsureOpen path operatorClosed lifecycle
      .ok .writerTerminal

def writerRejected : OpenDalError :=
  localError .abiMismatch
    "OpenDAL browser writer Promise rejected instead of returning an outcome" (writerContext path)

/-- A failed outcome closes the child after a write, but not after `finish` or `abort`. -/
def writerResume (method : WriterMethod) (resumed : Resumed (Option (MetadataValue JsString)))
    (lifecycle : WriterLifecycle) :
    Reply (Option (MetadataValue JsString)) × WriterLifecycle × Bool :=
  match method, resumed with
  | .write _, .cancelled => (.cancelled, .writerTerminal, true)
  | .write _, .rejected => (.raised (writerRejected path), .writerTerminal, true)
  | .write _, .failed e => (.raised (bridgeError e (writerContext path)), .writerTerminal, true)
  | .write _, .value _ => (.value none, lifecycle, false)
  | .finish, .cancelled | .abort, .cancelled => (.cancelled, lifecycle, true)
  | .finish, .rejected | .abort, .rejected => (.raised (writerRejected path), lifecycle, true)
  | .finish, .failed e | .abort, .failed e =>
    (.raised (bridgeError e (writerContext path)), lifecycle, false)
  | .finish, .value value => (.value value, lifecycle, false)
  | .abort, .value _ => (.value none, .writerAborted, false)

abbrev asyncWriter : Wrapper (writerClass path) where
  Flags := WriterLifecycle
  Op := WriterMethod
  jsOp := WriterMethod.jsOp
  enter := writerEnter path
  resume := writerResume path
  close lifecycle := if lifecycle = .writerOpen then some .writerTerminal else none

end Writer

/-! ## One object and its callers -/

inductive TaskPhase (V : Type) where
  | waiting
  | replied (reply : Reply V)

section System

variable {V : Type} {cls : ChildClass V} (w : Wrapper cls)

structure MoonTask where
  op : w.Op
  phase : TaskPhase V

/-- A task and the call of the child that it makes have one name. -/
structure WrapperSystem where
  js : ChildSystem cls
  flags : w.Flags
  operatorClosed : Bool := false
  tasks : Nat → Option (MoonTask w) := fun _ => none

inductive WrapperEvent where
  | call (k : Nat) (op : w.Op) (aborted : Bool) (start : Except Failure UInt32)
      (release : Except Failure Unit)
  | settle (k : Nat) (answer : Answer V)
  | resumeTask (k : Nat) (release : Except Failure Unit)
  | resumeNext (k : Nat) (release : Except Failure Unit)
  | resume (k : Nat) (cancelled : Bool) (release : Except Failure Unit)
  | close (release : Except Failure Unit)
  | operatorClose (release : Except Failure Unit)

variable {w}

namespace WrapperSystem

variable (s : WrapperSystem w)

def setTask (k : Nat) (op : w.Op) (phase : TaskPhase V) : WrapperSystem w :=
  { s with tasks := Function.update s.tasks k (some ⟨op, phase⟩) }

/-- How task `k` can go on. -/
def resumed (k : Nat) (cancelled : Bool) : Option (Resumed V) :=
  if cancelled then some .cancelled
  else
    match s.js.calls k with
    | some ⟨_, .returned answer⟩ => some (.ofAnswer answer)
    | _ => none

def closeChild (release : Except Failure Unit) : WrapperSystem w :=
  { s with js := (s.js.close release).2 }

def step : WrapperEvent w → Option (WrapperSystem w)
  | .call k op aborted start release =>
    match s.tasks k with
    | some _ => none
    | none =>
      match w.enter op s.operatorClosed s.flags with
      | .error reply => some (s.setTask k op (.replied reply))
      | .ok flags =>
        let signal := if aborted then .aborted else .live
        (s.js.step (.call k (w.jsOp op) signal start release)).map fun js =>
          { s with js, flags }.setTask k op .waiting
  | .settle k answer => (s.js.step (.settle k answer)).map fun js => { s with js }
  | .resumeTask k release => (s.js.step (.resumeTask k release)).map fun js => { s with js }
  | .resumeNext k release => (s.js.step (.resumeNext k release)).map fun js => { s with js }
  | .resume k cancelled release =>
    match s.tasks k, s.resumed k cancelled with
    | some ⟨op, .waiting⟩, some resumed =>
      let (reply, flags, closes) := w.resume op resumed s.flags
      let s := { s with flags }.setTask k op (.replied reply)
      some (if closes then s.closeChild release else s)
    | _, _ => none
  | .close release =>
    match w.close s.flags with
    | none => some s
    | some flags => some ({ s with flags }.closeChild release)
  | .operatorClose release =>
    if s.operatorClosed then some s
    else some { s with operatorClosed := true, js := s.js.operatorClose release }

/-! ## What a step does -/

variable {s} {t : WrapperSystem w} {k : Nat} {release : Except Failure Unit}

@[simp] theorem tasks_setTask_self {op : w.Op} {phase : TaskPhase V} :
    (s.setTask k op phase).tasks k = some ⟨op, phase⟩ := Function.update_self ..

theorem tasks_setTask_of_ne {op : w.Op} {phase : TaskPhase V} {j : Nat} (h : j ≠ k) :
    (s.setTask k op phase).tasks j = s.tasks j := Function.update_of_ne h ..

/-- A method replies at once, or it calls the child. -/
theorem call_cases {op : w.Op} {aborted : Bool} {start : Except Failure UInt32}
    (h : s.step (.call k op aborted start release) = some t) :
    s.tasks k = none ∧
      ((∃ reply, w.enter op s.operatorClosed s.flags = .error reply ∧
          t = s.setTask k op (.replied reply)) ∨
        ∃ flags js, w.enter op s.operatorClosed s.flags = .ok flags ∧
          s.js.step (.call k (w.jsOp op) (if aborted then .aborted else .live) start release) =
            some js ∧
          t = { s with js, flags }.setTask k op .waiting) := by
  simp only [step] at h
  cases hk : s.tasks k with
  | some task =>
    simp only [hk] at h
    cases h
  | none =>
    refine ⟨rfl, ?_⟩
    simp only [hk] at h
    cases henter : w.enter op s.operatorClosed s.flags with
    | error reply =>
      simp only [henter] at h
      cases h
      exact Or.inl ⟨reply, rfl, rfl⟩
    | ok flags =>
      simp only [henter] at h
      obtain ⟨js, hjs, ht⟩ := Option.map_eq_some_iff.mp h
      exact Or.inr ⟨flags, js, rfl, hjs, ht.symm⟩

/-- A waiting method goes on with what its call of the child has come to, or cancelled. -/
theorem resume_cases {cancelled : Bool} (h : s.step (.resume k cancelled release) = some t) :
    ∃ op resumed, s.tasks k = some ⟨op, .waiting⟩ ∧ s.resumed k cancelled = some resumed ∧
      t = (if (w.resume op resumed s.flags).2.2 then
          ({ s with flags := (w.resume op resumed s.flags).2.1 }.setTask k op
            (.replied (w.resume op resumed s.flags).1)).closeChild release
        else { s with flags := (w.resume op resumed s.flags).2.1 }.setTask k op
          (.replied (w.resume op resumed s.flags).1)) := by
  simp only [step] at h
  split at h
  · rename_i op resumed htask hresumed
    cases h
    exact ⟨op, resumed, htask, hresumed, rfl⟩
  · cases h

/-- The child takes at most one step. -/
theorem js_step {e : WrapperEvent w} (h : s.step e = some t) :
    t.js = s.js ∨ ∃ e', s.js.step e' = some t.js := by
  cases e with
  | call k op aborted start release =>
    obtain ⟨-, ⟨reply, -, rfl⟩ | ⟨flags, js, -, hjs, rfl⟩⟩ := call_cases h
    · exact Or.inl rfl
    · exact Or.inr ⟨_, hjs⟩
  | settle k answer =>
    obtain ⟨js, hjs, rfl⟩ := Option.map_eq_some_iff.mp h
    exact Or.inr ⟨_, hjs⟩
  | resumeTask k release =>
    obtain ⟨js, hjs, rfl⟩ := Option.map_eq_some_iff.mp h
    exact Or.inr ⟨_, hjs⟩
  | resumeNext k release =>
    obtain ⟨js, hjs, rfl⟩ := Option.map_eq_some_iff.mp h
    exact Or.inr ⟨_, hjs⟩
  | resume k cancelled release =>
    obtain ⟨op, resumed, -, -, rfl⟩ := resume_cases h
    split
    · exact Or.inr ⟨.close release, rfl⟩
    · exact Or.inl rfl
  | close release =>
    simp only [step] at h
    cases hclose : w.close s.flags with
    | none =>
      simp only [hclose] at h
      cases h
      exact Or.inl rfl
    | some flags =>
      simp only [hclose] at h
      cases h
      exact Or.inr ⟨.close release, rfl⟩
  | operatorClose release =>
    simp only [step] at h
    split at h
    · cases h
      exact Or.inl rfl
    · cases h
      exact Or.inr ⟨.operatorClose release, rfl⟩

theorem preserves_kept : Preserves (step (w := w)) fun s => s.js.Kept := by
  intro s e t hstep h
  rcases js_step hstep with hjs | ⟨e', hjs⟩
  · rw [hjs]
    exact h
  · exact ChildSystem.preserves_kept hjs h

/-- A call gives a name to a task, and a continuation replies to it. -/
theorem tasks_step {e : WrapperEvent w} (h : s.step e = some t) :
    t.tasks = s.tasks ∨
      (∃ k op aborted start release phase, e = .call k op aborted start release ∧
        s.tasks k = none ∧ t.tasks = Function.update s.tasks k (some ⟨op, phase⟩)) ∨
      ∃ k op reply, s.tasks k = some ⟨op, .waiting⟩ ∧
        t.tasks = Function.update s.tasks k (some ⟨op, .replied reply⟩) := by
  cases e with
  | call k op aborted start release =>
    obtain ⟨hk, ⟨reply, -, rfl⟩ | ⟨flags, js, -, -, rfl⟩⟩ := call_cases h
    · exact Or.inr (Or.inl ⟨k, op, aborted, start, release, _, rfl, hk, rfl⟩)
    · exact Or.inr (Or.inl ⟨k, op, aborted, start, release, _, rfl, hk, rfl⟩)
  | settle k answer =>
    obtain ⟨js, hjs, rfl⟩ := Option.map_eq_some_iff.mp h
    exact Or.inl rfl
  | resumeTask k release =>
    obtain ⟨js, hjs, rfl⟩ := Option.map_eq_some_iff.mp h
    exact Or.inl rfl
  | resumeNext k release =>
    obtain ⟨js, hjs, rfl⟩ := Option.map_eq_some_iff.mp h
    exact Or.inl rfl
  | resume k cancelled release =>
    obtain ⟨op, resumed, hk, -, rfl⟩ := resume_cases h
    refine Or.inr (Or.inr ⟨k, op, (w.resume op resumed s.flags).1, hk, ?_⟩)
    split
    · rfl
    · rfl
  | close release =>
    simp only [step] at h
    split at h
    · cases h
      exact Or.inl rfl
    · cases h
      exact Or.inl rfl
  | operatorClose release =>
    simp only [step] at h
    split at h
    · cases h
      exact Or.inl rfl
    · cases h
      exact Or.inl rfl

/-- A method that has replied does so for good. -/
theorem tasks_of_replied {e : WrapperEvent w} {op : w.Op} {reply : Reply V}
    (h : s.step e = some t) (hk : s.tasks k = some ⟨op, .replied reply⟩) :
    t.tasks k = some ⟨op, .replied reply⟩ := by
  have hother : ∀ j task, s.tasks j ≠ s.tasks k →
      Function.update s.tasks j task k = some ⟨op, .replied reply⟩ := by
    intro j task hne
    have hkj : k ≠ j := by
      intro heq
      rw [heq] at hne
      exact hne rfl
    rw [Function.update_of_ne hkj, hk]
  rcases tasks_step h with hsame | ⟨j, op', -, -, -, phase, -, hj, hset⟩ | ⟨j, op', reply', hj, hset⟩
  · rw [hsame, hk]
  · rw [hset]
    apply hother
    rw [hj, hk]
    exact fun heq => by cases heq
  · rw [hset]
    apply hother
    rw [hj, hk]
    exact fun heq => by cases heq

/-- A task that waits after a step was waiting before, or its method has just been called. -/
theorem tasks_of_waiting {e : WrapperEvent w} {op : w.Op} (h : s.step e = some t)
    (hk : t.tasks k = some ⟨op, .waiting⟩) :
    s.tasks k = some ⟨op, .waiting⟩ ∨
      ∃ op aborted start release, e = .call k op aborted start release := by
  rcases tasks_step h with hsame | ⟨j, op', aborted, start, release, phase, he, -, hset⟩ |
      ⟨j, op', reply, -, hset⟩
  · exact Or.inl (hsame ▸ hk)
  · by_cases hkj : k = j
    · exact Or.inr ⟨op', aborted, start, release, hkj ▸ he⟩
    · rw [hset, Function.update_of_ne hkj] at hk
      exact Or.inl hk
  · by_cases hkj : k = j
    · rw [hset, hkj, Function.update_self] at hk
      cases hk
    · rw [hset, Function.update_of_ne hkj] at hk
      exact Or.inl hk

/-- A run gives only finitely many names. -/
theorem preserves_fresh : Preserves (step (w := w)) fun s => ∃ n, ∀ k, n ≤ k → s.tasks k = none := by
  intro s e t hstep h
  obtain ⟨n, hn⟩ := h
  rcases tasks_step hstep with hsame | ⟨j, op, -, -, -, phase, -, -, hset⟩ |
      ⟨j, op, reply, hj, hset⟩
  · rw [hsame]
    exact ⟨n, hn⟩
  · refine ⟨max n (j + 1), fun k hk => ?_⟩
    rw [hset, Function.update_of_ne (by omega), hn k (by omega)]
  · refine ⟨n, fun k hk => ?_⟩
    have hkj : k ≠ j := by
      intro heq
      rw [← heq, hn k hk] at hj
      cases hj
    rw [hset, Function.update_of_ne hkj, hn k hk]

theorem resumed_value {cancelled : Bool} {v : V} (h : s.resumed k cancelled = some (.value v)) :
    ∃ op, s.js.calls k = some ⟨op, .returned (.ok (.ok v))⟩ := by
  unfold resumed at h
  cases cancelled with
  | true => cases h
  | false =>
    simp only [Bool.false_eq_true, if_false] at h
    split at h
    · rename_i op answer hcall
      cases answer with
      | error failure => cases h
      | ok outcome =>
        cases outcome with
        | failed e => cases h
        | ok value =>
          cases h
          exact ⟨op, hcall⟩
    · cases h

end WrapperSystem

end System

end OpendalMbt.MoonBit
