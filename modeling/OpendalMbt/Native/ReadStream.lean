import OpendalMbt.Native.Monitor
import OpendalMbt.Upstream

/-!
# The synchronous read stream

`ReadStreamV1` of `native/rust/src/lib.rs`: a cursor over the buffers of an upstream
iterator, with the rest of the last buffer kept for the next call. The whole of a
`read_stream_next` or a close runs under the lock, so that the calls on one stream are a
sequence. An error of the upstream is the failure that `opendal_error` makes of it, and a
panic of the iterator is contained in the call that polled it.

* `next_cases`: all that one next does.
* `Owes`: what is delivered, kept and still upstream is the upstream content.
* `read_stream_contents`: the content, the limits and the terminal states over whole runs.
-/

namespace OpendalMbt.Native

open Codec

/-- The failure of `checked_read_buffer`, which is also the failure for a length that does
not fit in 64 bits. -/
def checkedReadBuffer (buffer : List UInt8) (maxOutputLen : Nat) (subject : String) :
    CallResult (List UInt8) :=
  if UInt64.size ≤ buffer.length then
    .error (bufferTooLarge s!"{subject} length is not representable")
  else if maxOutputBytes < buffer.length ∨ maxOutputLen < buffer.length then
    .error (bufferTooLarge s!"{subject} exceeds the negotiated output limit")
  else .ok buffer

/-- `split_read_stream_buffer`, on a platform whose largest `usize` is `usizeMax`. -/
def splitReadStreamBuffer (usizeMax : Nat) (buffer : List UInt8) (chunkSize : Nat) :
    CallResult (List UInt8 × Option (List UInt8)) :=
  if usizeMax < chunkSize then
    .error (bufferTooLarge "read stream chunk size is not representable")
  else
    let length := min buffer.length chunkSize
    let chunk := buffer.take length
    let buffer := buffer.drop length
    .ok (chunk, if buffer.isEmpty then none else some buffer)

theorem splitReadStreamBuffer_eq_cut (usizeMax : Nat) (buffer : List UInt8) (chunkSize : Nat) :
    splitReadStreamBuffer usizeMax buffer chunkSize =
      if usizeMax < chunkSize then
        .error (bufferTooLarge "read stream chunk size is not representable")
      else .ok (cut chunkSize buffer) := rfl

structure ReadStreamCursorV1 where
  iterator : Upstream CallFailure
  pending : Option (List UInt8)
  deriving DecidableEq, Repr

inductive ReadStreamStateV1 where
  | open (cursor : ReadStreamCursorV1)
  | «end»
  | failed
  | closed
  deriving DecidableEq, Repr

structure ReadStreamV1 where
  state : ReadStreamStateV1
  chunkSize : Nat
  deriving DecidableEq, Repr

/-- The inner step of a next, and whether it polled the iterator. -/
def ReadStreamCursorV1.step (usizeMax chunkSize : Nat) (cursor : ReadStreamCursorV1) :
    StepResult (Option (List UInt8)) × ReadStreamCursorV1 × Bool :=
  let (next, iterator, polled) :=
    match cursor.pending with
    | some buffer => (Poll.buffer buffer, cursor.iterator, false)
    | none => (cursor.iterator.poll.1, cursor.iterator.poll.2, true)
  match next with
  | .panic => (.panic, { iterator, pending := none }, polled)
  | .error failure => (.error failure, { iterator, pending := none }, polled)
  | .end => (.ok none, { iterator, pending := none }, polled)
  | .buffer buffer =>
    match splitReadStreamBuffer usizeMax buffer chunkSize with
    | .error failure => (.error failure, { iterator, pending := none }, polled)
    | .ok (chunk, pending) => (.ok (some chunk), { iterator, pending }, polled)

structure NextOutcome where
  reply : Reply (List UInt8)
  stream : ReadStreamV1
  polled : Bool
  deriving DecidableEq, Repr

def readStreamClosed : CallFailure := resourceClosed "read stream is closed"

/-- The state is `Failed` while the step runs, and stays so unless the step says more. -/
def readStreamNext (usizeMax maxOutputLen : Nat) (stream : ReadStreamV1) : NextOutcome :=
  match stream.state with
  | .end => { reply := { status := .end }, stream, polled := false }
  | .failed | .closed => { reply := .failure readStreamClosed, stream, polled := false }
  | .open cursor =>
    let failed := { stream with state := .failed }
    match cursor.step usizeMax stream.chunkSize with
    | (.ok (some buffer), cursor, polled) =>
      let limit := min maxOutputLen stream.chunkSize
      match checkedReadBuffer buffer limit "read stream chunk" with
      | .ok buffer =>
        { reply := { status := .ok, value := some buffer },
          stream := { stream with state := .open cursor }, polled }
      | .error failure => { reply := .failure failure, stream := failed, polled }
    | (.error failure, _, polled) => { reply := .failure failure, stream := failed, polled }
    | (.ok none, _, polled) =>
      { reply := { status := .end }, stream := { stream with state := .end }, polled }
    | (.panic, _, polled) => { reply := { status := .panic }, stream := failed, polled }

def closeReadStreamState (stream : ReadStreamV1) : ReadStreamV1 :=
  { stream with state := .closed }

/-- A stream as `operator_read_stream` hands it out. -/
def ReadStreamV1.opened (upstream : Upstream CallFailure) (chunkSize : Nat) : ReadStreamV1 where
  state := .open { iterator := upstream, pending := none }
  chunkSize := chunkSize

inductive StreamCall where
  | next (maxOutputLen : Nat)
  | close
  deriving DecidableEq, Repr

section Runs

variable (usizeMax : Nat)

def ReadStreamV1.call (s : ReadStreamV1) : StreamCall → ReadStreamV1
  | .next maxOutputLen => (readStreamNext usizeMax maxOutputLen s).stream
  | .close => closeReadStreamState s

/-- The chunk that came with `STATUS_OK`. -/
def Reply.chunk (reply : Reply (List UInt8)) : List UInt8 :=
  if reply.status = .ok then reply.value.getD [] else []

def ReadStreamV1.chunk (s : ReadStreamV1) : StreamCall → List UInt8
  | .next maxOutputLen => (readStreamNext usizeMax maxOutputLen s).reply.chunk
  | .close => []

/-- The stream after a sequence of calls. -/
def ReadStreamV1.after (s : ReadStreamV1) (calls : List StreamCall) : ReadStreamV1 :=
  calls.foldl (ReadStreamV1.call usizeMax) s

/-- The chunks of a sequence of calls, in order, as one list of bytes. -/
def ReadStreamV1.delivered : ReadStreamV1 → List StreamCall → List UInt8
  | _, [] => []
  | s, call :: calls => s.chunk usizeMax call ++ (s.call usizeMax call).delivered calls

end Runs

/-! ## One call -/

/-- The bytes that a cursor has not given out. -/
def ReadStreamCursorV1.bytes (cursor : ReadStreamCursorV1) : List UInt8 :=
  cursor.pending.getD [] ++ cursor.iterator.buffers.flatten

theorem checkedReadBuffer_cases (buffer : List UInt8) (maxOutputLen : Nat) (subject : String) :
    (buffer.length ≤ maxOutputLen ∧ checkedReadBuffer buffer maxOutputLen subject = .ok buffer) ∨
      ∃ error, checkedReadBuffer buffer maxOutputLen subject = .error (.error error) := by
  unfold checkedReadBuffer
  by_cases hsize : UInt64.size ≤ buffer.length
  · rw [if_pos hsize]
    exact Or.inr ⟨_, rfl⟩
  rw [if_neg hsize]
  by_cases hlimit : maxOutputBytes < buffer.length ∨ maxOutputLen < buffer.length
  · rw [if_pos hlimit]
    exact Or.inr ⟨_, rfl⟩
  · rw [if_neg hlimit]
    exact Or.inl ⟨by omega, rfl⟩

theorem failure_status {V : Type} (failure : CallFailure) :
    (Reply.failure failure : Reply V).status ≠ .ok ∧
      (Reply.failure failure : Reply V).status ≠ .end := by
  cases failure <;> simp [Reply.failure, finishFailure]

section Step

variable (usizeMax chunkSize : Nat) {cursor : ReadStreamCursorV1}

/-- A buffer is cut, or the chunk size is too large for the platform. -/
theorem step_of_buffer {buffer : List UInt8} (iterator : Upstream CallFailure)
    (hbytes : cursor.bytes = buffer ++ iterator.buffers.flatten) :
    (∃ chunk pending, splitReadStreamBuffer usizeMax buffer chunkSize = .ok (chunk, pending) ∧
        chunk ++ ({ iterator, pending } : ReadStreamCursorV1).bytes = cursor.bytes ∧
        chunk.length ≤ chunkSize ∧ pending ≠ some []) ∨
      ∃ failure, splitReadStreamBuffer usizeMax buffer chunkSize = .error failure := by
  rw [splitReadStreamBuffer_eq_cut]
  by_cases hplatform : usizeMax < chunkSize
  · rw [if_pos hplatform]
    exact Or.inr ⟨_, rfl⟩
  · rw [if_neg hplatform]
    refine Or.inl ⟨_, _, rfl, ?_, length_cut_le chunkSize buffer, ?_⟩
    · rw [hbytes]
      show (cut chunkSize buffer).1 ++
        ((cut chunkSize buffer).2.getD [] ++ iterator.buffers.flatten) = _
      rw [← List.append_assoc, append_cut]
    · intro hempty
      exact cut_rest_ne_nil hempty rfl

theorem step_cases (cursor : ReadStreamCursorV1) :
    (∃ chunk cursor', cursor.step usizeMax chunkSize =
        (.ok (some chunk), cursor', cursor.pending.isNone) ∧
        chunk ++ cursor'.bytes = cursor.bytes ∧ chunk.length ≤ chunkSize ∧
        cursor'.pending ≠ some []) ∨
      (cursor.pending = none ∧ cursor.bytes = [] ∧
        ∃ cursor', cursor.step usizeMax chunkSize = (.ok none, cursor', true)) ∨
      (∃ failure cursor', cursor.step usizeMax chunkSize =
        (.error failure, cursor', cursor.pending.isNone)) ∨
      ∃ cursor', cursor.step usizeMax chunkSize = (.panic, cursor', cursor.pending.isNone) := by
  obtain ⟨⟨buffers, ending⟩, pending⟩ := cursor
  unfold ReadStreamCursorV1.step
  cases pending with
  | some buffer =>
    have hbytes : ReadStreamCursorV1.bytes ⟨⟨buffers, ending⟩, some buffer⟩ =
        buffer ++ buffers.flatten := rfl
    rcases step_of_buffer usizeMax chunkSize ⟨buffers, ending⟩ hbytes with
      ⟨chunk, pending, hsplit, hcontent, hlength, hrest⟩ | ⟨failure, hsplit⟩
    · exact Or.inl ⟨chunk, _, by simp only [hsplit]; rfl, hcontent, hlength, hrest⟩
    · exact Or.inr (Or.inr (Or.inl ⟨failure, _, by simp only [hsplit]; rfl⟩))
  | none =>
    cases buffers with
    | cons buffer buffers =>
      have hbytes : ReadStreamCursorV1.bytes ⟨⟨buffer :: buffers, ending⟩, none⟩ =
          buffer ++ buffers.flatten := rfl
      rcases step_of_buffer usizeMax chunkSize ⟨buffers, ending⟩ hbytes with
        ⟨chunk, pending, hsplit, hcontent, hlength, hrest⟩ | ⟨failure, hsplit⟩
      · exact Or.inl ⟨chunk, _, by simp only [Upstream.poll, hsplit]; rfl, hcontent, hlength,
          hrest⟩
      · exact Or.inr (Or.inr (Or.inl ⟨failure, _, by simp only [Upstream.poll, hsplit]; rfl⟩))
    | nil =>
      cases ending with
      | eof => exact Or.inr (Or.inl ⟨rfl, rfl, _, rfl⟩)
      | error failure => exact Or.inr (Or.inr (Or.inl ⟨failure, _, rfl⟩))
      | panic => exact Or.inr (Or.inr (Or.inr ⟨_, rfl⟩))

end Step

section Next

variable {usizeMax m : Nat} {s : ReadStreamV1}

/-- All that a next on an open stream does: it gives out the first bytes, or finds the end
with nothing left, or fails. -/
theorem next_cases {cursor : ReadStreamCursorV1} (hopen : s.state = .open cursor)
    (usizeMax m : Nat) :
    (∃ chunk cursor', readStreamNext usizeMax m s =
        { reply := { status := .ok, value := some chunk }
          stream := { s with state := .open cursor' }
          polled := cursor.pending.isNone } ∧
        chunk ++ cursor'.bytes = cursor.bytes ∧ chunk.length ≤ min s.chunkSize m ∧
        cursor'.pending ≠ some []) ∨
      (cursor.pending = none ∧ cursor.bytes = [] ∧ readStreamNext usizeMax m s =
        { reply := { status := .end }, stream := { s with state := .end }, polled := true }) ∨
      ∃ reply : Reply (List UInt8), reply.status ≠ .ok ∧ reply.status ≠ .end ∧
        readStreamNext usizeMax m s =
          { reply, stream := { s with state := .failed }, polled := cursor.pending.isNone } := by
  rcases step_cases usizeMax s.chunkSize cursor with
    ⟨chunk, cursor', hstep, hcontent, hlength, hrest⟩ | ⟨hnone, hbytes, cursor', hstep⟩ |
    ⟨failure, cursor', hstep⟩ | ⟨cursor', hstep⟩
  · rcases checkedReadBuffer_cases chunk (min m s.chunkSize) "read stream chunk" with
      ⟨hlimit, hchecked⟩ | ⟨error, hchecked⟩
    · refine Or.inl ⟨chunk, cursor', ?_, hcontent, by omega, hrest⟩
      simp only [readStreamNext, hopen, hstep, hchecked]
    · obtain ⟨hok, hend⟩ := failure_status (V := List UInt8) (.error error)
      refine Or.inr (Or.inr ⟨_, hok, hend, ?_⟩)
      simp only [readStreamNext, hopen, hstep, hchecked]
  · refine Or.inr (Or.inl ⟨hnone, hbytes, ?_⟩)
    simp only [readStreamNext, hopen, hstep]
  · obtain ⟨hok, hend⟩ := failure_status (V := List UInt8) failure
    refine Or.inr (Or.inr ⟨_, hok, hend, ?_⟩)
    simp only [readStreamNext, hopen, hstep]
  · refine Or.inr (Or.inr ⟨{ status := .panic }, by decide, by decide, ?_⟩)
    simp only [readStreamNext, hopen, hstep]

theorem next_of_end (h : s.state = .end) (usizeMax m : Nat) :
    readStreamNext usizeMax m s = { reply := { status := .end }, stream := s, polled := false } := by
  simp only [readStreamNext, h]

/-- The two states in which every next is refused. -/
def ReadStreamV1.Refusing (s : ReadStreamV1) : Prop := s.state = .failed ∨ s.state = .closed

theorem next_of_refusing (h : s.Refusing) (usizeMax m : Nat) :
    readStreamNext usizeMax m s =
      { reply := .failure readStreamClosed, stream := s, polled := false } := by
  rcases h with h | h <;> simp only [readStreamNext, h]

theorem next_polled (h : (readStreamNext usizeMax m s).polled = true) :
    ∃ cursor, s.state = .open cursor ∧ cursor.pending = none := by
  cases hstate : s.state with
  | «open» cursor =>
    refine ⟨cursor, rfl, ?_⟩
    rcases next_cases hstate usizeMax m with
      ⟨chunk, cursor', hnext, -⟩ | ⟨hnone, -, -⟩ | ⟨reply, -, -, hnext⟩
    · rw [hnext] at h
      exact Option.isNone_iff_eq_none.mp h
    · exact hnone
    · rw [hnext] at h
      exact Option.isNone_iff_eq_none.mp h
  | «end» =>
    rw [next_of_end hstate] at h
    cases h
  | failed =>
    rw [next_of_refusing (Or.inl hstate)] at h
    cases h
  | closed =>
    rw [next_of_refusing (Or.inr hstate)] at h
    cases h

/-- Only chunks within both limits are returned. -/
theorem length_chunk_le {chunk : List UInt8}
    (hstatus : (readStreamNext usizeMax m s).reply.status = .ok)
    (hvalue : (readStreamNext usizeMax m s).reply.value = some chunk) :
    chunk.length ≤ min s.chunkSize m := by
  cases hstate : s.state with
  | «open» cursor =>
    rcases next_cases hstate usizeMax m with
      ⟨chunk', cursor', hnext, -, hlength, -⟩ | ⟨-, -, hnext⟩ | ⟨reply, hok, -, hnext⟩
    · rw [hnext] at hvalue
      cases hvalue
      exact hlength
    · rw [hnext] at hvalue
      cases hvalue
    · rw [hnext] at hstatus
      exact absurd hstatus hok
  | «end» =>
    rw [next_of_end hstate] at hvalue
    cases hvalue
  | failed =>
    rw [next_of_refusing (Or.inl hstate)] at hvalue
    cases hvalue
  | closed =>
    rw [next_of_refusing (Or.inr hstate)] at hvalue
    cases hvalue

end Next

/-! ## Runs -/

section Runs

variable {usizeMax : Nat} {s : ReadStreamV1} {all given : List UInt8}

@[simp] theorem after_nil : s.after usizeMax [] = s := rfl

theorem after_cons (call : StreamCall) (calls : List StreamCall) :
    s.after usizeMax (call :: calls) = (s.call usizeMax call).after usizeMax calls := rfl

theorem after_append (calls calls' : List StreamCall) :
    s.after usizeMax (calls ++ calls') = (s.after usizeMax calls).after usizeMax calls' := by
  rw [ReadStreamV1.after, List.foldl_append]
  rfl

theorem chunkSize_call (call : StreamCall) : (s.call usizeMax call).chunkSize = s.chunkSize := by
  cases call with
  | close => rfl
  | next m =>
    show (readStreamNext usizeMax m s).stream.chunkSize = s.chunkSize
    cases hstate : s.state with
    | «open» cursor =>
      rcases next_cases hstate usizeMax m with
        ⟨chunk, cursor', hnext, -⟩ | ⟨-, -, hnext⟩ | ⟨reply, -, -, hnext⟩ <;> rw [hnext]
    | «end» => rw [next_of_end hstate]
    | failed => rw [next_of_refusing (Or.inl hstate)]
    | closed => rw [next_of_refusing (Or.inr hstate)]

theorem chunkSize_after (calls : List StreamCall) :
    (s.after usizeMax calls).chunkSize = s.chunkSize := by
  induction calls generalizing s with
  | nil => rfl
  | cons call calls ih => rw [after_cons, ih, chunkSize_call]

/-- What is given out, kept and still upstream is all there was; a kept rest is not empty. -/
def ReadStreamV1.Owes (all given : List UInt8) (s : ReadStreamV1) : Prop :=
  match s.state with
  | .open cursor => given ++ cursor.bytes = all ∧ cursor.pending ≠ some []
  | .end => given = all
  | .failed | .closed => given <+: all

theorem owes_of_open {cursor : ReadStreamCursorV1} (h : s.state = .open cursor) :
    s.Owes all given ↔ given ++ cursor.bytes = all ∧ cursor.pending ≠ some [] := by
  simp only [ReadStreamV1.Owes, h]

theorem owes_of_end (h : s.state = .end) : s.Owes all given ↔ given = all := by
  simp only [ReadStreamV1.Owes, h]

theorem owes_of_refusing (h : s.Refusing) : s.Owes all given ↔ given <+: all := by
  rcases h with h | h <;> simp only [ReadStreamV1.Owes, h]

theorem ReadStreamV1.Owes.isPrefix (h : s.Owes all given) : given <+: all := by
  cases hstate : s.state with
  | «open» cursor => exact ⟨_, ((owes_of_open hstate).mp h).1⟩
  | «end» =>
    have hall : given = all := (owes_of_end hstate).mp h
    exact ⟨[], by rw [List.append_nil, hall]⟩
  | failed => exact (owes_of_refusing (Or.inl hstate)).mp h
  | closed => exact (owes_of_refusing (Or.inr hstate)).mp h

theorem chunk_of_ne_ok {reply : Reply (List UInt8)} (h : reply.status ≠ .ok) :
    reply.chunk = [] := if_neg h

/-- A call gives out the next bytes. -/
theorem ReadStreamV1.Owes.call (h : s.Owes all given) (call : StreamCall) :
    (s.call usizeMax call).Owes all (given ++ s.chunk usizeMax call) := by
  cases call with
  | close =>
    have hclosed : (closeReadStreamState s).Refusing := Or.inr rfl
    show (closeReadStreamState s).Owes all (given ++ [])
    rw [List.append_nil, owes_of_refusing hclosed]
    exact h.isPrefix
  | next m =>
    show (readStreamNext usizeMax m s).stream.Owes all
      (given ++ (readStreamNext usizeMax m s).reply.chunk)
    cases hstate : s.state with
    | «open» cursor =>
      obtain ⟨hcontent, -⟩ := (owes_of_open hstate).mp h
      rcases next_cases hstate usizeMax m with
        ⟨chunk, cursor', hnext, hchunk, -, hrest⟩ | ⟨-, hbytes, hnext⟩ | ⟨reply, hok, -, hnext⟩
      · rw [hnext, owes_of_open rfl]
        refine ⟨?_, hrest⟩
        show given ++ chunk ++ cursor'.bytes = all
        rw [List.append_assoc, hchunk, hcontent]
      · rw [hnext, owes_of_end rfl]
        show given ++ [] = all
        rw [← hcontent, hbytes]
      · rw [hnext, owes_of_refusing (Or.inl rfl), chunk_of_ne_ok hok, List.append_nil]
        exact h.isPrefix
    | «end» =>
      rw [next_of_end hstate, chunk_of_ne_ok (by simp), List.append_nil]
      exact h
    | failed =>
      rw [next_of_refusing (Or.inl hstate), chunk_of_ne_ok (failure_status _).1, List.append_nil]
      exact h
    | closed =>
      rw [next_of_refusing (Or.inr hstate), chunk_of_ne_ok (failure_status _).1, List.append_nil]
      exact h

theorem ReadStreamV1.Owes.after (h : s.Owes all given) (calls : List StreamCall) :
    (s.after usizeMax calls).Owes all (given ++ s.delivered usizeMax calls) := by
  induction calls generalizing s given with
  | nil =>
    rw [ReadStreamV1.delivered, List.append_nil]
    exact h
  | cons call calls ih =>
    rw [ReadStreamV1.delivered, ← List.append_assoc]
    exact ih (h.call call)

theorem owes_opened (upstream : Upstream CallFailure) (chunkSize : Nat) :
    (ReadStreamV1.opened upstream chunkSize).Owes upstream.buffers.flatten [] :=
  ⟨rfl, by simp⟩

/-- An ended stream stays so until it is closed. -/
theorem after_of_end (h : s.state = .end) {calls : List StreamCall}
    (hcalls : StreamCall.close ∉ calls) : (s.after usizeMax calls).state = .end := by
  induction calls generalizing s with
  | nil => exact h
  | cons call calls ih =>
    simp only [List.mem_cons, not_or] at hcalls
    apply ih _ hcalls.2
    cases call with
    | close => exact absurd rfl hcalls.1
    | next m =>
      show (readStreamNext usizeMax m s).stream.state = .end
      rw [next_of_end h]
      exact h

theorem refusing_call (h : s.Refusing) (call : StreamCall) : (s.call usizeMax call).Refusing := by
  cases call with
  | close => exact Or.inr rfl
  | next m =>
    show (readStreamNext usizeMax m s).stream.Refusing
    rw [next_of_refusing h]
    exact h

theorem after_of_refusing (h : s.Refusing) (calls : List StreamCall) :
    (s.after usizeMax calls).Refusing := by
  induction calls generalizing s with
  | nil => exact h
  | cons call calls ih => exact ih (refusing_call h call)

/-- A next that neither returns a chunk nor the end leaves a stream that refuses. -/
theorem refusing_of_failure {m : Nat} (hok : (readStreamNext usizeMax m s).reply.status ≠ .ok)
    (hend : (readStreamNext usizeMax m s).reply.status ≠ .end) :
    (readStreamNext usizeMax m s).stream.Refusing := by
  cases hstate : s.state with
  | «open» cursor =>
    rcases next_cases hstate usizeMax m with
      ⟨chunk, cursor', hnext, -⟩ | ⟨-, -, hnext⟩ | ⟨reply, -, -, hnext⟩
    · rw [hnext] at hok
      exact absurd rfl hok
    · rw [hnext] at hend
      exact absurd rfl hend
    · rw [hnext]
      exact Or.inl rfl
  | «end» =>
    rw [next_of_end hstate] at hend
    exact absurd rfl hend
  | failed =>
    rw [next_of_refusing (Or.inl hstate)]
    exact Or.inl hstate
  | closed =>
    rw [next_of_refusing (Or.inr hstate)]
    exact Or.inr hstate

theorem state_of_end {m : Nat} (h : (readStreamNext usizeMax m s).reply.status = .end) :
    (readStreamNext usizeMax m s).stream.state = .end := by
  cases hstate : s.state with
  | «open» cursor =>
    rcases next_cases hstate usizeMax m with
      ⟨chunk, cursor', hnext, -⟩ | ⟨-, -, hnext⟩ | ⟨reply, -, hend, hnext⟩
    · rw [hnext] at h
      cases h
    · rw [hnext]
    · rw [hnext] at h
      exact absurd h hend
  | «end» =>
    rw [next_of_end hstate]
    exact hstate
  | failed =>
    rw [next_of_refusing (Or.inl hstate)] at h
    exact absurd h (failure_status _).2
  | closed =>
    rw [next_of_refusing (Or.inr hstate)] at h
    exact absurd h (failure_status _).2

end Runs

/-- The contents, the limits and the terminal states of a stream, after every sequence of
calls on it. -/
theorem read_stream_contents (usizeMax chunkSize : Nat) (upstream : Upstream CallFailure)
    (calls : List StreamCall) :
    let opened := ReadStreamV1.opened upstream chunkSize
    let s := opened.after usizeMax calls
    opened.delivered usizeMax calls <+: upstream.buffers.flatten ∧
      (∀ m, (readStreamNext usizeMax m s).reply.status = .end →
        opened.delivered usizeMax calls = upstream.buffers.flatten) ∧
      (∀ m chunk, (readStreamNext usizeMax m s).reply.status = .ok →
        (readStreamNext usizeMax m s).reply.value = some chunk →
        chunk.length ≤ min chunkSize m) ∧
      (∀ m, (readStreamNext usizeMax m s).polled = true →
        ∃ cursor, s.state = .open cursor ∧ cursor.pending = none) ∧
      (∀ cursor rest, s.state = .open cursor → cursor.pending = some rest → rest ≠ []) ∧
      (∀ m m' between, (readStreamNext usizeMax m s).reply.status = .end →
        StreamCall.close ∉ between →
        (readStreamNext usizeMax m'
          (opened.after usizeMax (calls ++ .next m :: between))).reply.status = .end) ∧
      (∀ m m' between, (readStreamNext usizeMax m s).reply.status ≠ .ok →
        (readStreamNext usizeMax m s).reply.status ≠ .end →
        (readStreamNext usizeMax m'
          (opened.after usizeMax (calls ++ .next m :: between))).reply =
            .failure readStreamClosed) ∧
      ∀ m between, (readStreamNext usizeMax m
        (opened.after usizeMax (calls ++ .close :: between))).reply =
          .failure readStreamClosed := by
  intro opened s
  have howes : s.Owes upstream.buffers.flatten (opened.delivered usizeMax calls) := by
    have h : s.Owes upstream.buffers.flatten ([] ++ opened.delivered usizeMax calls) :=
      (owes_opened upstream chunkSize).after calls
    rwa [List.nil_append] at h
  have hsize : s.chunkSize = chunkSize := chunkSize_after calls
  refine ⟨howes.isPrefix, ?_, ?_, ?_, ?_, ?_, ?_, ?_⟩
  · intro m hend
    have hfinal : (s.call usizeMax (.next m)).Owes upstream.buffers.flatten
        (opened.delivered usizeMax calls ++ s.chunk usizeMax (.next m)) := howes.call (.next m)
    have hchunk : s.chunk usizeMax (.next m) = [] := by
      apply chunk_of_ne_ok
      rw [hend]
      decide
    have hstate : (s.call usizeMax (.next m)).state = .end := state_of_end hend
    rw [hchunk, List.append_nil] at hfinal
    exact (owes_of_end hstate).mp hfinal
  · intro m chunk hstatus hvalue
    rw [← hsize]
    exact length_chunk_le hstatus hvalue
  · intro m hpolled
    exact next_polled hpolled
  · intro cursor rest hopen hpending hrest
    exact ((owes_of_open hopen).mp howes).2 (hrest ▸ hpending)
  · intro m m' between hend hbetween
    rw [after_append, after_cons]
    have hstate : (s.call usizeMax (.next m)).state = .end := state_of_end hend
    rw [next_of_end (after_of_end hstate hbetween)]
  · intro m m' between hok hend
    rw [after_append, after_cons]
    have hrefusing : (s.call usizeMax (.next m)).Refusing := refusing_of_failure hok hend
    rw [next_of_refusing (after_of_refusing hrefusing between)]
  · intro m between
    rw [after_append, after_cons]
    have hrefusing : (s.call usizeMax .close).Refusing := Or.inr rfl
    rw [next_of_refusing (after_of_refusing hrefusing between)]

end OpendalMbt.Native
