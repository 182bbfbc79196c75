import OpendalMbt.Browser.ReadStream
import OpendalMbt.Native.AsyncReadStream

/-!
# The three stream chunkers agree

The sync stream, the async stream and the browser stream, each driven to its end one
operation at a time, give out the pieces of the upstream buffers. Each of them serves
chunks in the sense of `Codec.Serves`.
-/

namespace OpendalMbt

open Codec Native Bridge Browser

/-- What the user of a stream sees of one operation. -/
inductive StreamItem where
  | chunk (chunk : List UInt8)
  | «end»
  | failed
  deriving DecidableEq, Repr

def StreamItem.ofReply (status : Status) (value : Option (List UInt8)) : StreamItem :=
  match status, value with
  | .ok, some bytes => .chunk bytes
  | .end, _ => .end
  | _, _ => .failed

def StreamItem.ofOutcome : BrowserOutcome → StreamItem
  | .chunk bytes => .chunk bytes
  | .end => .end
  | _ => .failed

def syncNext (usizeMax maxOutputLen : Nat) (s : ReadStreamV1) : StreamItem × ReadStreamV1 :=
  let outcome := Native.readStreamNext usizeMax maxOutputLen s
  (.ofReply outcome.reply.status outcome.reply.value, outcome.stream)

/-- The inputs of an async operation. -/
structure AsyncInput where
  maxOutputLen : Nat
  abort : AbortHandle
  signal : CompletionSignal

def asyncNext (usizeMax : Nat) (i : AsyncInput) (s : AsyncReadStream) :
    StreamItem × AsyncReadStream :=
  let (reply, s) := asyncReadStreamNext usizeMax i.maxOutputLen i.abort i.signal s
  (.ofReply reply.status reply.value, s)

def browserNext (tryReserve : Nat → Bool) (operation : UInt64) (s : BrowserReadStream) :
    StreamItem × BrowserReadStream :=
  let (outcome, s) := s.next tryReserve operation
  (.ofOutcome outcome, s)

section Chunkers

variable {usizeMax chunkSize : Nat}

theorem split_eq_cut (hsize : chunkSize ≤ usizeMax) (buffer : List UInt8) :
    splitReadStreamBuffer usizeMax buffer chunkSize = .ok (cut chunkSize buffer) := by
  rw [splitReadStreamBuffer_eq_cut, if_neg (by omega)]

theorem checkedReadBuffer_cut {limit : Nat} (hmax : chunkSize ≤ maxTransferChunk)
    (hlimit : chunkSize ≤ limit) (buffer : List UInt8) (subject : String) :
    checkedReadBuffer (cut chunkSize buffer).1 (min limit chunkSize) subject =
      .ok (cut chunkSize buffer).1 := by
  have hlength := length_cut_le chunkSize buffer
  have houtput : maxTransferChunk ≤ maxOutputBytes := by decide
  have hsize : maxOutputBytes < UInt64.size := by decide
  unfold checkedReadBuffer
  rw [if_neg (by omega), if_neg (by omega)]

variable (hsize : chunkSize ≤ usizeMax) (hmax : chunkSize ≤ maxTransferChunk)
include hmax

section Sync

/-- The stream is open with this rest and these buffers before the end. -/
def SyncHolds (chunkSize : Nat) (s : ReadStreamV1) (pending : Option (List UInt8))
    (buffers : List (List UInt8)) : Prop :=
  s = { state := .open { iterator := { buffers, ending := .eof }, pending }, chunkSize }

include hsize

theorem sync_serves :
    Serves chunkSize (syncNext usizeMax) (fun m => chunkSize ≤ m) (SyncHolds chunkSize)
      StreamItem.chunk .end where
  pending := by
    intro m s buffer buffers hm hs
    rw [SyncHolds] at hs
    have hchecked := checkedReadBuffer_cut hmax hm buffer "read stream chunk"
    have hnext : syncNext usizeMax m s = (.chunk (cut chunkSize buffer).1,
        { state := .open
            { iterator := { buffers, ending := .eof }, pending := (cut chunkSize buffer).2 }
          chunkSize }) := by
      simp only [hs, syncNext, Native.readStreamNext, ReadStreamCursorV1.step, split_eq_cut hsize,
        hchecked]
      rfl
    rw [hnext]
    exact ⟨rfl, rfl⟩
  buffer := by
    intro m s buffer buffers hm hs
    rw [SyncHolds] at hs
    have hchecked := checkedReadBuffer_cut hmax hm buffer "read stream chunk"
    have hnext : syncNext usizeMax m s = (.chunk (cut chunkSize buffer).1,
        { state := .open
            { iterator := { buffers, ending := .eof }, pending := (cut chunkSize buffer).2 }
          chunkSize }) := by
      simp only [hs, syncNext, Native.readStreamNext, ReadStreamCursorV1.step, Upstream.poll,
        split_eq_cut hsize, hchecked]
      rfl
    rw [hnext]
    exact ⟨rfl, rfl⟩
  done := by
    intro m s _ hs
    rw [hs]
    rfl

end Sync

section Async

def AsyncHolds (chunkSize : Nat) (s : AsyncReadStream) (pending : Option (List UInt8))
    (buffers : List (List UInt8)) : Prop :=
  s = { state := .open { stream := { buffers, ending := .eof }, pending }, chunkSize }

include hsize

theorem async_serves :
    Serves chunkSize (asyncNext usizeMax) (fun i => chunkSize ≤ i.maxOutputLen)
      (AsyncHolds chunkSize) StreamItem.chunk .end where
  pending := by
    intro i s buffer buffers hm hs
    rw [AsyncHolds] at hs
    have hchecked := checkedReadBuffer_cut hmax hm buffer "async read stream chunk"
    have hstep : AsyncReadStreamCursor.step usizeMax chunkSize i.maxOutputLen
        { stream := { buffers, ending := .eof }, pending := some buffer } =
        (some (.chunk (cut chunkSize buffer).1),
          { stream := { buffers, ending := .eof }, pending := (cut chunkSize buffer).2 }) := by
      simp only [AsyncReadStreamCursor.step, split_eq_cut hsize, hchecked]
    rw [hs, asyncNext, asyncReadStreamNext_of_open rfl hstep]
    exact ⟨rfl, rfl⟩
  buffer := by
    intro i s buffer buffers hm hs
    rw [AsyncHolds] at hs
    have hchecked := checkedReadBuffer_cut hmax hm buffer "async read stream chunk"
    have hstep : AsyncReadStreamCursor.step usizeMax chunkSize i.maxOutputLen
        { stream := { buffers := buffer :: buffers, ending := .eof }, pending := none } =
        (some (.chunk (cut chunkSize buffer).1),
          { stream := { buffers, ending := .eof }, pending := (cut chunkSize buffer).2 }) := by
      simp only [AsyncReadStreamCursor.step, Upstream.poll, split_eq_cut hsize, hchecked]
    rw [hs, asyncNext, asyncReadStreamNext_of_open rfl hstep]
    exact ⟨rfl, rfl⟩
  done := by
    intro i s _ hs
    rw [hs]
    rfl

end Async

section Browser

variable {tryReserve : Nat → Bool}

/-- The object and the bridge stream are open; any operation may have been the last. -/
def BrowserHolds (chunkSize : Nat) (s : BrowserReadStream) (pending : Option (List UInt8))
    (buffers : List (List UInt8)) : Prop :=
  s.state = .open ∧ s.chunkSize = chunkSize ∧
    ∃ operation, s.bridge =
      .open { stream := { buffers, ending := .eof }, pending, maxChunk := chunkSize } operation

/-- An operation on an open stream whose next buffer is known. -/
theorem browserNext_of_buffer {operation previous : UInt64} {s : BrowserReadStream}
    {cursor : StreamCursor} {buffer : List UInt8} {buffers : List (List UInt8)}
    (hstate : s.state = .open) (hchunk : s.chunkSize = chunkSize)
    (hbridge : s.bridge = .open cursor previous)
    (hread : Browser.readStreamNext tryReserve cursor = some
      (.open
        { stream := { buffers, ending := .eof }
          pending := (cut chunkSize buffer).2
          maxChunk := chunkSize },
        .ok (some (cut chunkSize buffer).1))) :
    (browserNext tryReserve operation s).1 = .chunk (cut chunkSize buffer).1 ∧
      BrowserHolds chunkSize (browserNext tryReserve operation s).2 (cut chunkSize buffer).2
        buffers := by
  have hlength := length_cut_le chunkSize buffer
  have htaken : takenBuffer (.ok (some (cut chunkSize buffer).1)) =
      .ok (some (cut chunkSize buffer).1) := if_neg (by omega)
  unfold browserNext BrowserReadStream.next operate
  simp only [hstate, hbridge, hread, htaken]
  rw [if_neg (by omega)]
  exact ⟨rfl, rfl, hchunk, operation, rfl⟩

theorem browser_serves (hreserve : ∀ n ≤ chunkSize, tryReserve n = true) :
    Serves chunkSize (browserNext tryReserve) (fun _ => True) (BrowserHolds chunkSize)
      StreamItem.chunk .end where
  pending := by
    intro operation s buffer buffers _ holds
    obtain ⟨hstate, hchunk, previous, hbridge⟩ := holds
    apply browserNext_of_buffer hmax hstate hchunk hbridge
    simp only [Browser.readStreamNext, copyStreamChunk_eq_cut hmax hreserve]
  buffer := by
    intro operation s buffer buffers _ holds
    obtain ⟨hstate, hchunk, previous, hbridge⟩ := holds
    apply browserNext_of_buffer hmax hstate hchunk hbridge
    simp only [Browser.readStreamNext, Upstream.poll, copyStreamChunk_eq_cut hmax hreserve]
  done := by
    intro operation s _ holds
    obtain ⟨hstate, hchunk, previous, hbridge⟩ := holds
    have hread : Browser.readStreamNext tryReserve
        { stream := { buffers := [], ending := .eof }, pending := none, maxChunk := chunkSize } =
        some (.terminal .end, .ok none) := rfl
    unfold browserNext BrowserReadStream.next operate
    simp only [hstate, hbridge, hread, takenBuffer]
    rfl

end Browser

end Chunkers

/-- All three give out the pieces of the upstream buffers, and then the end. -/
theorem stream_chunkers_agree {usizeMax chunkSize : Nat} {tryReserve : Nat → Bool}
    (hpos : 1 ≤ chunkSize) (hmax : chunkSize ≤ maxTransferChunk)
    (hplatform : maxTransferChunk ≤ usizeMax)
    (hreserve : ∀ n ≤ chunkSize, tryReserve n = true) (buffers : List (List UInt8)) :
    let reference := buffers.flatMap (pieces chunkSize)
    let expected := reference.map StreamItem.chunk ++ [.end]
    (∀ limits : List Nat, (∀ m ∈ limits, chunkSize ≤ m) →
        limits.length = reference.length + 1 →
        replies (syncNext usizeMax) (.opened { buffers, ending := .eof } chunkSize) limits =
          expected) ∧
      (∀ inputs : List AsyncInput, (∀ i ∈ inputs, chunkSize ≤ i.maxOutputLen) →
        inputs.length = reference.length + 1 →
        replies (asyncNext usizeMax) (.opened { buffers, ending := .eof } chunkSize) inputs =
          expected) ∧
      ∀ (handle : UInt32) (operations : List UInt64),
        operations.length = reference.length + 1 →
        replies (browserNext tryReserve) (.opened { buffers, ending := .eof } chunkSize handle)
          operations = expected := by
  intro reference expected
  have hsize : chunkSize ≤ usizeMax := by omega
  refine ⟨?_, ?_, ?_⟩
  · intro limits hlimits hlength
    exact (sync_serves hsize hmax).replies hpos none buffers rfl hlimits hlength
  · intro inputs hinputs hlength
    exact (async_serves hsize hmax).replies hpos none buffers rfl hinputs hlength
  · intro handle operations hlength
    exact (browser_serves hmax hreserve).replies hpos none buffers
      ⟨rfl, rfl, 0, rfl⟩ (fun _ _ => trivial) hlength

theorem stream_chunkers_agree_three :
    replies (syncNext (2 ^ 64 - 1)) (.opened { buffers := [[1, 2, 3], []], ending := .eof } 2)
        [2, 5, 2, 2] = [.chunk [1, 2], .chunk [3], .chunk [], .end] := by
  have hpieces : [[1, 2, 3], []].flatMap (pieces 2) = [[1, 2], [3], ([] : List UInt8)] := by
    simp [pieces]
  have hagree := (@stream_chunkers_agree (2 ^ 64 - 1) 2 (fun _ => true) (by decide) (by decide)
    (by decide) (fun _ _ => rfl) [[1, 2, 3], []]).1 [2, 5, 2, 2] (by decide)
    (by rw [hpieces]; rfl)
  rw [hagree, hpieces]
  rfl

end OpendalMbt
