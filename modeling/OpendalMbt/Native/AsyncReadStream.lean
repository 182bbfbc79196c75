import OpendalMbt.Native.AsyncCore
import OpendalMbt.Native.ReadStream

/-!
# The chunks of the async read stream

The worker of `async_read_stream_next_start` in `native/rust/src/lib.rs` on the cursor that
the core lends it, and one whole operation run to its end with nothing in between: start,
worker, publication and take.
-/

namespace OpendalMbt.Native

open Codec

structure AsyncReadStreamCursor where
  stream : Upstream CallFailure
  pending : Option (List UInt8)
  deriving DecidableEq, Repr

/-- The worker; `none` is a panic of the upstream, which the task supervisor answers. -/
def AsyncReadStreamCursor.step (usizeMax chunkSize maxOutputLen : Nat)
    (cursor : AsyncReadStreamCursor) :
    Option (ReadStreamResult (List UInt8)) × AsyncReadStreamCursor :=
  let (next, stream) :=
    match cursor.pending with
    | some buffer => (Poll.buffer buffer, cursor.stream)
    | none => cursor.stream.poll
  match next with
  | .panic => (none, { stream, pending := none })
  | .error failure => (some (.error failure), { stream, pending := none })
  | .end => (some .end, { stream, pending := none })
  | .buffer buffer =>
    match splitReadStreamBuffer usizeMax buffer chunkSize with
    | .error failure => (some (.oversized failure), { stream, pending := none })
    | .ok (chunk, pending) =>
      match checkedReadBuffer chunk (min maxOutputLen chunkSize) "async read stream chunk" with
      | .error failure => (some (.oversized failure), { stream, pending })
      | .ok buffer => (some (.chunk buffer), { stream, pending })

structure AsyncReadStream where
  state : AsyncReadStreamState AsyncReadStreamCursor
  chunkSize : Nat
  deriving DecidableEq, Repr

def AsyncReadStream.opened (upstream : Upstream CallFailure) (chunkSize : Nat) :
    AsyncReadStream where
  state := .open { stream := upstream, pending := none }
  chunkSize := chunkSize

/-- A started operation whose task is published and taken before anything else happens. -/
def takenOutcome (abort : AbortHandle) (signal : CompletionSignal)
    (outcome : AsyncOutcome (List UInt8)) : TakeReply (List UInt8) :=
  let running : AsyncTaskInner (List UInt8) := { state := .running abort, signal := some signal }
  (asyncTaskTakeBuffer (running.publish outcome).2).1

/-- One operation alone. The abort handle may be installed before or after the worker. -/
def asyncReadStreamNext (usizeMax maxOutputLen : Nat) (abort : AbortHandle)
    (signal : CompletionSignal) (s : AsyncReadStream) :
    TakeReply (List UInt8) × AsyncReadStream :=
  match AsyncReadStreamCore.takeForNext s.state with
  | (.error failure, state) => (.ofFailure failure, { s with state })
  | (.ok .end, state) => (takenOutcome abort signal (.end .buffer), { s with state })
  | (.ok (.cursor cursor), state) =>
    let state := (AsyncReadStreamCore.installAbort abort state).2
    match cursor.step usizeMax s.chunkSize maxOutputLen with
    | (none, _) =>
      (takenOutcome abort signal (.panic .buffer),
        { s with state := (AsyncReadStreamCore.fail state).2 })
    | (some result, cursor) =>
      (takenOutcome abort signal result.outcome,
        { s with state := AsyncReadStreamCore.completeNext cursor result.next state })

/-! ## One operation on an open stream -/

section Next

variable {usizeMax m : Nat} {abort : AbortHandle} {signal : CompletionSignal}
  {s : AsyncReadStream} {cursor : AsyncReadStreamCursor}

theorem takenOutcome_chunk (chunk : List UInt8) :
    takenOutcome abort signal (ReadStreamResult.chunk chunk).outcome =
      { status := .ok, value := some chunk } := rfl

theorem takenOutcome_end :
    takenOutcome abort signal (AsyncOutcome.end .buffer) = { status := .end } := rfl

/-- An open stream is busy for the time of the worker and then stores its result. -/
theorem asyncReadStreamNext_of_open (hopen : s.state = .open cursor)
    {result : ReadStreamResult (List UInt8)} {cursor' : AsyncReadStreamCursor}
    (hstep : cursor.step usizeMax s.chunkSize m = (some result, cursor')) :
    asyncReadStreamNext usizeMax m abort signal s =
      (takenOutcome abort signal result.outcome,
        { s with
          state := AsyncReadStreamCore.completeNext cursor' result.next (.busy (some abort)) }) := by
  unfold asyncReadStreamNext
  rw [hopen]
  simp only [AsyncReadStreamCore.takeForNext, AsyncReadStreamCore.installAbort, hstep]

end Next

end OpendalMbt.Native
