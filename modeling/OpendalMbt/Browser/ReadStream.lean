import OpendalMbt.Bridge.Queries
import OpendalMbt.Browser.SnapshotDecoder
import OpendalMbt.Upstream

/-!
# The chunks of the browser read stream

`copy_stream_chunk` and `read_stream_next` of `wasm/browser-bridge/src/lib.rs` on the cursor
that a lease lends, and one `BrowserReadStream.next` of `wasm/browser-runtime/index.mjs` run
to its end with nothing in between: the lease is taken and given back, the completion is
exchanged for a buffer, and the object checks what it got.
-/

namespace OpendalMbt.Browser

open Codec Bridge

/-- `try_owned_opendal_buffer`: the copy is bounded and may lack memory. -/
def tryOwnedOpendalBuffer (tryReserve : Nat → Bool) (buffer : List UInt8) :
    Except BridgeError (List UInt8) :=
  if maxBufferLength < buffer.length then .error .bufferTooLarge
  else if tryReserve buffer.length then .ok buffer
  else .error .allocationFailed

def copyStreamChunk (tryReserve : Nat → Bool) (buffer : List UInt8) (maxChunk : Nat) :
    Except BridgeError (List UInt8 × Option (List UInt8)) :=
  let length := min buffer.length maxChunk
  let chunk := buffer.take length
  let buffer := buffer.drop length
  let remainder := if buffer.isEmpty then none else some buffer
  match tryOwnedOpendalBuffer tryReserve chunk with
  | .error e => .error e
  | .ok chunk => .ok (chunk, remainder)

abbrev StreamCursor : Type := ReadStreamCursor (Upstream BridgeError)

/-- `read_stream_next`: the update of the stream and its completion; `none` is a trap. -/
def readStreamNext (tryReserve : Nat → Bool) (cursor : StreamCursor) :
    Option (ReadStreamUpdate StreamCursor × Except BridgeError (Option (List UInt8))) :=
  let (next, stream) :=
    match cursor.pending with
    | some buffer => (Poll.buffer buffer, cursor.stream)
    | none => cursor.stream.poll
  match next with
  | .panic => none
  | .buffer buffer =>
    match copyStreamChunk tryReserve buffer cursor.maxChunk with
    | .ok (chunk, remainder) =>
      some (.open { cursor with stream, pending := remainder }, .ok (some chunk))
    | .error e => some (.terminal .failed, .error e)
  | .end => some (.terminal .end, .ok none)
  | .error e => some (.terminal .failed, .error e)

/-- The size check of `completion_take_buffer` on what a next completed with. -/
def takenBuffer (result : Except BridgeError (Option (List UInt8))) :
    Except BridgeError (Option (List UInt8)) :=
  match result with
  | .error e => .error e
  | .ok none => .ok none
  | .ok (some chunk) =>
    if maxTransferChunk < chunk.length then .error .bufferTooLarge else .ok (some chunk)

inductive ObjectState where
  | open | «end» | failed | closed
  deriving DecidableEq, Repr

/-- A `BrowserReadStream` with the bridge stream behind its handle. -/
structure BrowserReadStream where
  state : ObjectState
  chunkSize : Nat
  handle : UInt32
  bridge : ReadStreamState StreamCursor

inductive BrowserOutcome where
  | chunk (chunk : List UInt8)
  | «end»
  | failed (error : BridgeError)
  | closed
  | contract (error : ContractError)
  | trap
  deriving DecidableEq, Repr

def BrowserReadStream.opened (upstream : Upstream BridgeError) (chunkSize : Nat)
    (handle : UInt32) : BrowserReadStream where
  state := .open
  chunkSize := chunkSize
  handle := handle
  bridge := .open { stream := upstream, pending := none, maxChunk := chunkSize } 0

/-- One bridge operation alone: lend the cursor under `operation`, run the next, publish. -/
def operate (tryReserve : Nat → Bool) (operation : UInt64) (handle : UInt32)
    (bridge : ReadStreamState StreamCursor) :
    Option (Except BridgeError (Option (List UInt8)) × ReadStreamState StreamCursor) :=
  match bridge with
  | .busy active => some (.error (.resourceBusy handle), .busy active)
  | .terminal outcome => some (.error (.resourceClosed handle), .terminal outcome)
  | .open cursor _ =>
    match readStreamNext tryReserve cursor with
    | none => none
    | some (update, result) => some (takenBuffer result, update.state operation)

/-- `BrowserReadStream.next` alone. -/
def BrowserReadStream.next (tryReserve : Nat → Bool) (operation : UInt64)
    (s : BrowserReadStream) : BrowserOutcome × BrowserReadStream :=
  match s.state with
  | .end => (.end, s)
  | .failed | .closed => (.closed, s)
  | .open =>
    match operate tryReserve operation s.handle s.bridge with
    | none => (.trap, s)
    | some (.error e, bridge) => (.failed e, { s with bridge, state := .failed })
    | some (.ok none, bridge) => (.end, { s with bridge, state := .end })
    | some (.ok (some chunk), bridge) =>
      if chunk.length > s.chunkSize then
        (.contract { message := "bridge returned an out-of-bounds read-stream chunk" },
          { s with bridge, state := .failed })
      else (.chunk chunk, { s with bridge })

theorem copyStreamChunk_eq_cut {tryReserve : Nat → Bool} {maxChunk : Nat}
    (hmax : maxChunk ≤ maxTransferChunk) (hreserve : ∀ n ≤ maxChunk, tryReserve n = true)
    (buffer : List UInt8) : copyStreamChunk tryReserve buffer maxChunk = .ok (cut maxChunk buffer) := by
  have hlength : (buffer.take (min buffer.length maxChunk)).length ≤ maxChunk := by
    rw [List.length_take]
    omega
  have hbound : maxTransferChunk ≤ maxBufferLength := by decide
  have howned : tryOwnedOpendalBuffer tryReserve (buffer.take (min buffer.length maxChunk)) =
      .ok (buffer.take (min buffer.length maxChunk)) := by
    unfold tryOwnedOpendalBuffer
    rw [if_neg (by omega), if_pos (hreserve _ hlength)]
  unfold copyStreamChunk
  simp only [howned]
  rfl

end OpendalMbt.Browser
