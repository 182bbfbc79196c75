import OpendalMbt.Native.AsyncTask

/-!
# The async stream and writer cores

`AsyncReadStreamCore` and `AsyncWriterCore` of `native/rust/src/lib.rs`: each guards one
cursor or inner writer behind a mutex and lends it to one operation at a time. The
functions here are the critical sections, written on the guarded state; an abort handle
that a section aborts is returned beside the state.

The two cores differ in their words and in a few branches only. `AsyncCell` is what they
have in common: a guarded state with its sections, seen through `CellView`, and the laws
that the sections obey. `readStreamCell` and `writerCell` are its two instances, so a
result about `AsyncCell` is one about both.
-/

namespace OpendalMbt.Native

section ReadStream

inductive AsyncReadStreamState (C : Type) where
  | open (cursor : C)
  | busy (abort : Option AbortHandle)
  | «end»
  | failed
  | closed
  deriving DecidableEq, Repr

inductive AsyncReadStreamNext where
  | chunk | «end» | failed
  deriving DecidableEq, Repr

inductive AsyncReadStreamStart (C : Type) where
  | cursor (cursor : C)
  | «end»
  deriving DecidableEq, Repr

namespace AsyncReadStreamCore

variable {C : Type}

def takeForNext :
    AsyncReadStreamState C → CallResult (AsyncReadStreamStart C) × AsyncReadStreamState C
  | .open cursor => (.ok (.cursor cursor), .busy none)
  | .end => (.ok .end, .end)
  | .busy abort =>
    (.error (resourceClosed "async read stream already has an in-flight operation"), .busy abort)
  | .failed => (.error (resourceClosed "async read stream is closed"), .failed)
  | .closed => (.error (resourceClosed "async read stream is closed"), .closed)

def installAbort (abort : AbortHandle) :
    AsyncReadStreamState C → Option AbortHandle × AsyncReadStreamState C
  | .busy none => (none, .busy (some abort))
  | .failed => (some abort, .failed)
  | .closed => (some abort, .closed)
  | state => (none, state)

def completeNext (cursor : C) (next : AsyncReadStreamNext) :
    AsyncReadStreamState C → AsyncReadStreamState C
  | .busy _ =>
    match next with
    | .chunk => .open cursor
    | .end => .end
    | .failed => .failed
  | state => state

def close : AsyncReadStreamState C → Option AbortHandle × AsyncReadStreamState C
  | .busy abort => (abort, .closed)
  | _ => (none, .closed)

def fail : AsyncReadStreamState C → Option AbortHandle × AsyncReadStreamState C
  | .busy abort => (abort, .failed)
  | _ => (none, .failed)

end AsyncReadStreamCore

/-- What the worker of a next operation found: `next` of the source, after the chunk was
split and its length checked. -/
inductive ReadStreamResult (V : Type) where
  | chunk (buffer : V)
  | oversized (failure : CallFailure)
  | «end»
  | error (failure : CallFailure)
  deriving DecidableEq, Repr

variable {V : Type}

def ReadStreamResult.next : ReadStreamResult V → AsyncReadStreamNext
  | .chunk _ => .chunk
  | .oversized _ => .failed
  | .end => .end
  | .error _ => .failed

def ReadStreamResult.outcome : ReadStreamResult V → AsyncOutcome V
  | .chunk buffer => .success .buffer (.buffer buffer)
  | .oversized failure => .failure .buffer failure
  | .end => .end .buffer
  | .error failure => .failure .buffer failure

end ReadStream

section Writer

inductive AsyncWriterState (C : Type) where
  | open (writer : C)
  | busy (abort : Option AbortHandle)
  | finished
  | aborted
  | failed
  deriving DecidableEq, Repr

inductive AsyncWriterCompletion where
  | open | finished | aborted | failed
  deriving DecidableEq, Repr

namespace AsyncWriterCore

variable {C : Type}

def takeForCall (repeatedAbortIsOk : Bool) :
    AsyncWriterState C → CallResult (Option C) × AsyncWriterState C
  | .open writer => (.ok (some writer), .busy none)
  | .aborted =>
    if repeatedAbortIsOk then (.ok none, .aborted)
    else (.error (resourceClosed "async writer is closed"), .aborted)
  | .busy abort =>
    (.error (resourceClosed "async writer already has an in-flight operation"), .busy abort)
  | .finished => (.error (resourceClosed "async writer is closed"), .finished)
  | .failed => (.error (resourceClosed "async writer is closed"), .failed)

def installAbort (abort : AbortHandle) :
    AsyncWriterState C → Option AbortHandle × AsyncWriterState C
  | .busy none => (none, .busy (some abort))
  | .failed => (some abort, .failed)
  | state => (none, state)

def complete (writer : C) (next : AsyncWriterCompletion) : AsyncWriterState C → AsyncWriterState C
  | .busy _ =>
    match next with
    | .open => .open writer
    | .finished => .finished
    | .aborted => .aborted
    | .failed => .failed
  | state => state

def fail : AsyncWriterState C → Option AbortHandle × AsyncWriterState C
  | .busy abort => (abort, .failed)
  | _ => (none, .failed)

end AsyncWriterCore

/-- `async_writer_write_start`, `async_writer_finish_start` and `async_writer_abort_start`. -/
inductive AsyncWriterCall where
  | write | finish | abort
  deriving DecidableEq, Repr

def AsyncWriterCall.kind : AsyncWriterCall → AsyncResultKind
  | .write => .unit
  | .finish => .metadata
  | .abort => .unit

/-- The flag that the start call passes to `take_for_call`. -/
def AsyncWriterCall.repeatedAbortIsOk : AsyncWriterCall → Bool
  | .write => false
  | .finish => false
  | .abort => true

variable {V : Type}

/-- What the inner writer answered; `metadata` is what `close` returned, once checked. -/
inductive WriterResult (V : Type) where
  | ok (metadata : V)
  | error (failure : CallFailure)
  deriving DecidableEq, Repr

def AsyncWriterCall.completion : AsyncWriterCall → WriterResult V → AsyncWriterCompletion
  | .write, .ok _ => .open
  | .finish, .ok _ => .finished
  | .abort, .ok _ => .aborted
  | _, .error _ => .failed

def AsyncWriterCall.outcome (call : AsyncWriterCall) : WriterResult V → AsyncOutcome V
  | .error failure => .failure call.kind failure
  | .ok metadata =>
    match call with
    | .finish => .success .metadata (.metadata metadata)
    | _ => .success .unit .unit

end Writer

/-! ## What the two cores have in common -/

/-- A guarded state: its resource is stored, lent out, or gone; `settled` is a gone resource
that ended well, `dead` one that failed or was closed. -/
inductive CellView (C : Type) where
  | stored (cursor : C)
  | busy (abort : Option AbortHandle)
  | settled
  | dead
  deriving DecidableEq, Repr

/-- Where a completion leaves the resource. -/
inductive Completion where
  | restored | settled | failed
  deriving DecidableEq, Repr

def Completion.view {C : Type} (cursor : C) : Completion → CellView C
  | .restored => .stored cursor
  | .settled => .settled
  | .failed => .dead

/-- A core as its operations see it. -/
structure AsyncCell (C V : Type) where
  State : Type
  Call : Type
  Result : Type
  view : State → CellView C
  fresh : C → State
  kind : Call → AsyncResultKind
  /-- The start section: a resource to work on, or nothing left to do. -/
  take : Call → State → CallResult (Option C) × State
  installAbort : AbortHandle → State → Option AbortHandle × State
  /-- The worker's completion section, for the result that it found. -/
  complete : Call → C → Result → State → State
  fail : State → Option AbortHandle × State
  close : State → Option AbortHandle × State
  completion : Call → Result → Completion
  outcome : Call → Result → AsyncOutcome V
  /-- The outcome of a task that had nothing left to do. -/
  repeated : Call → AsyncOutcome V
  view_fresh : ∀ c, view (fresh c) = .stored c
  take_stored : ∀ call {s c}, view s = .stored c →
    (take call s).1 = .ok (some c) ∧ view (take call s).2 = .busy none
  take_else : ∀ call {s}, (∀ c, view s ≠ .stored c) →
    (take call s).2 = s ∧ ∀ c, (take call s).1 ≠ .ok (some c)
  take_none : ∀ call {s}, (take call s).1 = .ok none → view s = .settled
  install_busy : ∀ h {s}, view s = .busy none →
    (installAbort h s).1 = none ∧ view (installAbort h s).2 = .busy (some h)
  install_else : ∀ h {s}, view s ≠ .busy none →
    (installAbort h s).2 = s ∧ (view s ≠ .dead → (installAbort h s).1 = none)
  install_aborts : ∀ h s, (installAbort h s).1 = none ∨ (installAbort h s).1 = some h
  complete_busy : ∀ call c result {s a}, view s = .busy a →
    view (complete call c result s) = (completion call result).view c
  complete_else : ∀ call c result {s}, (∀ a, view s ≠ .busy a) → complete call c result s = s
  fail_dead : ∀ s, view (fail s).2 = .dead
  fail_busy : ∀ {s a}, view s = .busy a → (fail s).1 = a
  fail_else : ∀ {s}, (∀ a, view s ≠ .busy a) → (fail s).1 = none
  close_dead : ∀ s, view (close s).2 = .dead
  close_busy : ∀ {s a}, view s = .busy a → (close s).1 = a
  close_else : ∀ {s}, (∀ a, view s ≠ .busy a) → (close s).1 = none
  repeated_kind : ∀ call {s}, (take call s).1 = .ok none → (repeated call).kind = kind call
  outcome_kind : ∀ call result, (outcome call result).kind = kind call

variable {C V : Type}

def AsyncReadStreamState.view : AsyncReadStreamState C → CellView C
  | .open cursor => .stored cursor
  | .busy abort => .busy abort
  | .end => .settled
  | .failed => .dead
  | .closed => .dead

def AsyncWriterState.view : AsyncWriterState C → CellView C
  | .open writer => .stored writer
  | .busy abort => .busy abort
  | .finished => .settled
  | .aborted => .settled
  | .failed => .dead

def AsyncReadStreamNext.completion : AsyncReadStreamNext → Completion
  | .chunk => .restored
  | .end => .settled
  | .failed => .failed

def AsyncWriterCompletion.completion : AsyncWriterCompletion → Completion
  | .open => .restored
  | .finished => .settled
  | .aborted => .settled
  | .failed => .failed

/-- The cursor that a start call works on; `none` for the end of the stream. -/
def AsyncReadStreamStart.cursor? : AsyncReadStreamStart C → Option C
  | .cursor c => some c
  | .end => none

/-- `async_read_stream_next_start` on its core; closing and freeing both run `close`. -/
def readStreamCell (C V : Type) : AsyncCell C V where
  State := AsyncReadStreamState C
  Call := Unit
  Result := ReadStreamResult V
  view := AsyncReadStreamState.view
  fresh := .open
  kind _ := .buffer
  take _ s :=
    ((AsyncReadStreamCore.takeForNext s).1.map AsyncReadStreamStart.cursor?,
      (AsyncReadStreamCore.takeForNext s).2)
  installAbort := AsyncReadStreamCore.installAbort
  complete _ cursor result := AsyncReadStreamCore.completeNext cursor result.next
  fail := AsyncReadStreamCore.fail
  close := AsyncReadStreamCore.close
  completion _ result := result.next.completion
  outcome _ result := result.outcome
  repeated _ := .end .buffer
  view_fresh _ := rfl
  take_stored := by
    rintro - (_ | _ | _ | _ | _) c h <;> cases h
    exact ⟨rfl, rfl⟩
  take_else := by
    rintro - (c | _ | _ | _ | _) h
    · exact absurd rfl (h c)
    all_goals exact ⟨rfl, fun c h => by cases h⟩
  take_none := by
    rintro - (_ | _ | _ | _ | _) h <;> cases h
    rfl
  install_busy := by
    rintro h (_ | _ | _ | _ | _) hs <;> cases hs
    exact ⟨rfl, rfl⟩
  install_else := by
    rintro h (_ | (_ | _) | _ | _ | _) hs
    · exact ⟨rfl, fun _ => rfl⟩
    · exact absurd rfl hs
    · exact ⟨rfl, fun _ => rfl⟩
    · exact ⟨rfl, fun _ => rfl⟩
    all_goals exact ⟨rfl, fun hd => absurd rfl hd⟩
  install_aborts := by
    rintro h (_ | (_ | _) | _ | _ | _)
    all_goals first | exact .inl rfl | exact .inr rfl
  complete_busy := by
    rintro - c (_ | _ | _ | _) (_ | _ | _ | _ | _) a h <;> cases h <;> rfl
  complete_else := by
    rintro - c result (_ | a | _ | _ | _) h
    · rfl
    · exact absurd rfl (h a)
    all_goals rfl
  fail_dead := by rintro (_ | _ | _ | _ | _) <;> rfl
  fail_busy := by
    rintro (_ | _ | _ | _ | _) a h <;> cases h
    rfl
  fail_else := by
    rintro (_ | a | _ | _ | _) h
    · rfl
    · exact absurd rfl (h a)
    all_goals rfl
  close_dead := by rintro (_ | _ | _ | _ | _) <;> rfl
  close_busy := by
    rintro (_ | _ | _ | _ | _) a h <;> cases h
    rfl
  close_else := by
    rintro (_ | a | _ | _ | _) h
    · rfl
    · exact absurd rfl (h a)
    all_goals rfl
  repeated_kind _ _ _ := rfl
  outcome_kind := by
    rintro - (_ | (_ | _) | _ | (_ | _)) <;> rfl

/-- The three start calls of an async writer on its core; freeing the writer runs `fail`. -/
def writerCell (C V : Type) : AsyncCell C V where
  State := AsyncWriterState C
  Call := AsyncWriterCall
  Result := WriterResult V
  view := AsyncWriterState.view
  fresh := .open
  kind := AsyncWriterCall.kind
  take call := AsyncWriterCore.takeForCall call.repeatedAbortIsOk
  installAbort := AsyncWriterCore.installAbort
  complete call writer result := AsyncWriterCore.complete writer (call.completion result)
  fail := AsyncWriterCore.fail
  close := AsyncWriterCore.fail
  completion call result := (call.completion result).completion
  outcome := AsyncWriterCall.outcome
  repeated _ := .success .unit .unit
  view_fresh _ := rfl
  take_stored := by
    rintro call (_ | _ | _ | _ | _) c h <;> cases h
    exact ⟨rfl, rfl⟩
  take_else := by
    rintro (_ | _ | _) (c | _ | _ | _ | _) h
    all_goals first | exact absurd rfl (h c) | exact ⟨rfl, fun c h => by cases h⟩
  take_none := by
    rintro (_ | _ | _) (_ | _ | _ | _ | _) h <;> cases h
    rfl
  install_busy := by
    rintro h (_ | _ | _ | _ | _) hs <;> cases hs
    exact ⟨rfl, rfl⟩
  install_else := by
    rintro h (_ | (_ | _) | _ | _ | _) hs
    · exact ⟨rfl, fun _ => rfl⟩
    · exact absurd rfl hs
    · exact ⟨rfl, fun _ => rfl⟩
    · exact ⟨rfl, fun _ => rfl⟩
    · exact ⟨rfl, fun _ => rfl⟩
    · exact ⟨rfl, fun hd => absurd rfl hd⟩
  install_aborts := by
    rintro h (_ | (_ | _) | _ | _ | _)
    all_goals first | exact .inl rfl | exact .inr rfl
  complete_busy := by
    rintro (_ | _ | _) c (_ | _) (_ | _ | _ | _ | _) a h <;> cases h <;> rfl
  complete_else := by
    rintro call c result (_ | a | _ | _ | _) h
    · rfl
    · exact absurd rfl (h a)
    all_goals rfl
  fail_dead := by rintro (_ | _ | _ | _ | _) <;> rfl
  fail_busy := by
    rintro (_ | _ | _ | _ | _) a h <;> cases h
    rfl
  fail_else := by
    rintro (_ | a | _ | _ | _) h
    · rfl
    · exact absurd rfl (h a)
    all_goals rfl
  close_dead := by rintro (_ | _ | _ | _ | _) <;> rfl
  close_busy := by
    rintro (_ | _ | _ | _ | _) a h <;> cases h
    rfl
  close_else := by
    rintro (_ | a | _ | _ | _) h
    · rfl
    · exact absurd rfl (h a)
    all_goals rfl
  repeated_kind := by
    rintro (_ | _ | _) (_ | _ | _ | _ | _) h <;> cases h
    rfl
  outcome_kind := by
    rintro (_ | _ | _) (_ | (_ | _)) <;> rfl

end OpendalMbt.Native
