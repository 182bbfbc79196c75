import OpendalMbt.Native.AsyncTask
import OpendalMbt.RangeCodec

/-!
# Bounded whole reads

`append_bounded_read_chunk`, `collect_bounded_read_chunks`, the loop of `operator_read` and
`run_async_whole_read` of `native/rust/src/lib.rs`. An upstream buffer is a list of segments.
The output keeps a log of its reservations, and a subtraction that underflows or a failed
`debug_assert_eq!` panics. A `usize` has 64 bits, and memory does not run out.

* `required_le_growthTarget`, `growthTarget_le`, `length_le_growthTarget`: the three bounds on
  the capacity that is asked for;
* `append_fits`, `append_exceeds`: one buffer;
* `appendBuffers_fits`, `appendBuffers_exceeds`: a loop over the buffers;
* `boundedWholeRead`: the three loops.
-/

namespace OpendalMbt.Native

open Transition

/-- `opendal::Buffer` by its segments. -/
abbrev Buffer : Type := List (List UInt8)

/-- How many bytes the allocator gives for a request. -/
structure Allocator where
  granted : Nat → Nat
  covers : ∀ request, request ≤ granted request

/-- One request for memory. -/
structure Reservation where
  length : Nat
  required : Nat
  additional : Nat
  deriving DecidableEq, Repr

def Reservation.request (r : Reservation) : Nat := r.length + r.additional

/-- The request covers what is needed and keeps to the limit. -/
def Reservation.Bounded (limit : Nat) (r : Reservation) : Prop :=
  r.required ≤ r.request ∧ r.request ≤ limit

/-- A `Vec<u8>`. -/
structure OutputVec where
  bytes : List UInt8
  capacity : Nat
  fits : bytes.length ≤ capacity
  reservations : List Reservation

def OutputVec.empty : OutputVec where
  bytes := []
  capacity := 0
  fits := Nat.le_refl 0
  reservations := []

inductive Halt where
  | failure (failure : CallFailure)
  | panic
  deriving DecidableEq, Repr

abbrev ReadCall (α : Type) : Type := Call OutputVec Halt α

def usizeMax : Nat := 2 ^ 64 - 1

namespace OutputVec

variable (allocator : Allocator)

theorem length_append_le {bytes segment : List UInt8} {n : Nat}
    (h : bytes.length + segment.length ≤ n) : (bytes ++ segment).length ≤ n := by
  rw [List.length_append]
  exact h

/-- `Vec::reserve_exact`, which does nothing when there is room. -/
def reserveExact (required additional : Nat) (v : OutputVec) : OutputVec where
  bytes := v.bytes
  capacity :=
    if v.bytes.length + additional ≤ v.capacity then v.capacity
    else allocator.granted (v.bytes.length + additional)
  fits := by
    have hfits := v.fits
    have hcovers := allocator.covers (v.bytes.length + additional)
    split <;> omega
  reservations := ⟨v.bytes.length, required, additional⟩ :: v.reservations

/-- `Vec::extend_from_slice`, which asks for memory when there is no room. -/
def extendFromSlice (v : OutputVec) (segment : List UInt8) : OutputVec where
  bytes := v.bytes ++ segment
  capacity :=
    if v.bytes.length + segment.length ≤ v.capacity then v.capacity
    else allocator.granted (v.bytes.length + segment.length)
  fits := by
    have hcovers := allocator.covers (v.bytes.length + segment.length)
    apply length_append_le
    split <;> omega
  reservations :=
    if v.bytes.length + segment.length ≤ v.capacity then v.reservations
    else ⟨v.bytes.length, v.bytes.length + segment.length, segment.length⟩ :: v.reservations

def extend (buffer : Buffer) (v : OutputVec) : OutputVec := buffer.foldl (extendFromSlice allocator) v

theorem bytes_extend (buffer : Buffer) (v : OutputVec) :
    (v.extend allocator buffer).bytes = v.bytes ++ buffer.flatten := by
  unfold extend
  induction buffer generalizing v with
  | nil => simp
  | cons segment buffer ih =>
    rw [List.foldl_cons, ih, List.flatten_cons, ← List.append_assoc]
    rfl

/-- With room for a whole buffer no segment asks for memory. -/
theorem extend_of_room (buffer : Buffer) (v : OutputVec)
    (h : v.bytes.length + buffer.flatten.length ≤ v.capacity) :
    (v.extend allocator buffer).reservations = v.reservations := by
  unfold extend
  induction buffer generalizing v with
  | nil => rfl
  | cons segment buffer ih =>
    rw [List.flatten_cons, List.length_append] at h
    have hroom : v.bytes.length + segment.length ≤ v.capacity := by omega
    have hcapacity : (v.extendFromSlice allocator segment).capacity = v.capacity := if_pos hroom
    have hlength : (v.extendFromSlice allocator segment).bytes.length =
        v.bytes.length + segment.length := List.length_append
    rw [List.foldl_cons, ih _ (by omega)]
    exact if_pos hroom

end OutputVec

/-! ## Growth -/

def growthTarget (capacity required limit : Nat) : Nat :=
  min (max (min (max capacity 1 * 2) usizeMax) required) limit

section Growth

variable {capacity required limit length : Nat}

theorem growthTarget_le : growthTarget capacity required limit ≤ limit := Nat.min_le_right _ _

theorem required_le_growthTarget (h : required ≤ limit) :
    required ≤ growthTarget capacity required limit := by
  unfold growthTarget
  omega

theorem length_le_growthTarget (h : required ≤ limit) (hlength : length ≤ required) :
    length ≤ growthTarget capacity required limit :=
  Nat.le_trans hlength (required_le_growthTarget h)

end Growth

/-! ## One buffer -/

def notRepresentable (subject : String) : Halt :=
  .failure (bufferTooLarge s!"{subject} length is not representable")

def exceedsLimit (subject : String) : Halt :=
  .failure (bufferTooLarge s!"{subject} exceeds the negotiated output limit")

section Append

variable (allocator : Allocator)

/-- `target - output.len()`, which panics when it underflows, and the reservation. -/
def reserveFor (required : Nat) (outputLimit : UInt64) : ReadCall Unit := fun v =>
  if v.capacity < required then
    let target := growthTarget v.capacity required outputLimit.toNat
    if target < v.bytes.length then (.error .panic, v)
    else (.ok (), v.reserveExact allocator required (target - v.bytes.length))
  else (.ok (), v)

/-- The loop over the segments, and the assertion after it. -/
def extendWith (required : Nat) (buffer : Buffer) : ReadCall Unit := fun v =>
  let extended := v.extend allocator buffer
  if extended.bytes.length = required then (.ok (), extended) else (.error .panic, extended)

def appendBoundedReadChunk (buffer : Buffer) (outputLimit : UInt64) (subject : String) :
    ReadCall Unit := fun v =>
  if UInt64.size ≤ v.bytes.length then (.error (notRepresentable subject), v)
  else if UInt64.size ≤ buffer.flatten.length then (.error (notRepresentable subject), v)
  else if UInt64.size ≤ v.bytes.length + buffer.flatten.length then
    (.error (notRepresentable subject), v)
  else if outputLimit.toNat < v.bytes.length + buffer.flatten.length then
    (.error (exceedsLimit subject), v)
  else
    (do
      reserveFor allocator (v.bytes.length + buffer.flatten.length) outputLimit
      extendWith allocator (v.bytes.length + buffer.flatten.length) buffer : ReadCall Unit) v

/-- What holds of the output between two buffers. -/
structure OutputVec.Sound (limit : UInt64) (v : OutputVec) : Prop where
  within : v.bytes.length ≤ limit.toNat
  bounded : ∀ r ∈ v.reservations, r.Bounded limit.toNat

theorem OutputVec.sound_empty (limit : UInt64) : OutputVec.empty.Sound limit where
  within := Nat.zero_le _
  bounded := fun _ hr => nomatch hr

variable (buffer : Buffer) {limit : UInt64} (subject : String) {v : OutputVec}

/-- The reservation before an extension to `required` bytes. -/
theorem reserveFor_eq {required : Nat} (h : v.Sound limit) (hlimit : required ≤ limit.toNat)
    (hlength : v.bytes.length ≤ required) :
    ∃ v', reserveFor allocator required limit v = (.ok (), v') ∧ v'.bytes = v.bytes ∧
      required ≤ v'.capacity ∧ v'.Sound limit := by
  unfold reserveFor
  by_cases hcapacity : v.capacity < required
  · have htarget : v.bytes.length ≤ growthTarget v.capacity required limit.toNat :=
      length_le_growthTarget hlimit hlength
    have hcovers : required ≤ growthTarget v.capacity required limit.toNat :=
      required_le_growthTarget hlimit
    have hbound : growthTarget v.capacity required limit.toNat ≤ limit.toNat := growthTarget_le
    rw [if_pos hcapacity]
    dsimp only
    rw [if_neg (by omega)]
    refine ⟨_, rfl, rfl, ?_, h.within, ?_⟩
    · have hgranted := allocator.covers
        (v.bytes.length + (growthTarget v.capacity required limit.toNat - v.bytes.length))
      show required ≤ if _ then _ else _
      split <;> omega
    · intro r hr
      rcases List.mem_cons.mp hr with rfl | hr
      · unfold Reservation.Bounded Reservation.request
        dsimp only
        omega
      · exact h.bounded r hr
  · rw [if_neg hcapacity]
    exact ⟨v, rfl, rfl, by omega, h⟩

theorem append_fits (h : v.Sound limit)
    (hfits : v.bytes.length + buffer.flatten.length ≤ limit.toNat) :
    ∃ v', appendBoundedReadChunk allocator buffer limit subject v = (.ok (), v') ∧
      v'.bytes = v.bytes ++ buffer.flatten ∧ v'.Sound limit := by
  have hsize := limit.toNat_lt
  obtain ⟨reserved, hreserve, hbytes, hcapacity, hsound⟩ :=
    reserveFor_eq allocator h hfits (Nat.le_add_right _ _)
  have hextended := OutputVec.bytes_extend allocator buffer reserved
  rw [hbytes] at hextended
  have hlength : (reserved.extend allocator buffer).bytes.length =
      v.bytes.length + buffer.flatten.length := by
    rw [hextended, List.length_append]
  refine ⟨reserved.extend allocator buffer, ?_, hextended, ?_, ?_⟩
  · unfold appendBoundedReadChunk UInt64.size
    rw [if_neg (by omega), if_neg (by omega), if_neg (by omega), if_neg (by omega),
      Call.bind_apply_ok hreserve]
    exact if_pos hlength
  · rw [hlength]
    exact hfits
  · rw [OutputVec.extend_of_room allocator buffer reserved (by rw [hbytes]; exact hcapacity)]
    exact hsound.bounded

/-- A buffer that does not fit leaves the output as it was. -/
theorem append_exceeds (h : limit.toNat < v.bytes.length + buffer.flatten.length) :
    ∃ message, appendBoundedReadChunk allocator buffer limit subject v =
      (.error (.failure (bufferTooLarge message)), v) := by
  unfold appendBoundedReadChunk
  split
  · exact ⟨_, rfl⟩
  split
  · exact ⟨_, rfl⟩
  split
  · exact ⟨_, rfl⟩
  · exact ⟨_, rfl⟩

end Append

/-! ## The loops -/

/-- The text of all buffers. -/
def contents (buffers : List Buffer) : List UInt8 := (buffers.map List.flatten).flatten

/-- How a whole read over `buffers` ends. -/
structure WholeRead (limit : UInt64) (buffers : List Buffer)
    (ran : Except Halt (List UInt8) × OutputVec) : Prop where
  fits : (contents buffers).length ≤ limit.toNat → ran.1 = .ok (contents buffers)
  exceeds : limit.toNat < (contents buffers).length → ∃ before buffer after message,
    buffers = before ++ buffer :: after ∧ (contents before).length ≤ limit.toNat ∧
      limit.toNat < (contents before).length + buffer.flatten.length ∧
      ran.1 = .error (.failure (bufferTooLarge message)) ∧ ran.2.bytes = contents before
  sound : ran.2.Sound limit

/-- `options::ReaderOptions` of a whole read. -/
structure ReaderOptions extends ReadConditions where
  concurrent : Nat
  chunk : Option Nat
  gap : Option Nat
  prefetch : Nat
  deriving DecidableEq, Repr

structure WholeReadPlan where
  readerOptions : ReaderOptions
  range : BytesRange
  outputLimit : UInt64
  deriving DecidableEq, Repr

def ERROR_UNSUPPORTED : UInt32 := 2

def unsupported (message : String) : CallFailure :=
  bindingError ERROR_UNSUPPORTED "Unsupported" message

def wholeReadPlan (options : ReadOptions BytesRange) (maxOutputLen : UInt64) :
    CallResult WholeReadPlan :=
  let outputLimit := min maxOutputLen (UInt64.ofNat maxOutputBytes)
  let plan : WholeReadPlan := {
    readerOptions := {
      options.toReadConditions with concurrent := 1, chunk := none, gap := none, prefetch := 0 }
    range := options.range
    outputLimit := outputLimit }
  match options.range with
  | .range _ (some size) | .suffix size =>
    if outputLimit < size then
      .error (bufferTooLarge "read result exceeds the negotiated output limit")
    else .ok plan
  | .range _ none => .ok plan

def ensureSuffixIsNative (range : BytesRange) (nativeSuffix : Bool) : CallResult Unit :=
  match range, nativeSuffix with
  | .suffix _, false => .error (unsupported "suffix reads require native backend range support")
  | _, _ => .ok ()

section Loops

variable {E : Type} (allocator : Allocator) (opendalErrorSnapshot : E → ErrorV1)

def opendalError (error : E) : Halt := .failure (.error (opendalErrorSnapshot error))

/-- The items of an upstream are taken in order, up to the first that is an error. -/
def appendBuffers (outputLimit : UInt64) (subject : String) : List (Except E Buffer) → ReadCall Unit
  | [] => pure ()
  | .error error :: _ => Call.throw (opendalError opendalErrorSnapshot error)
  | .ok buffer :: buffers => do
    appendBoundedReadChunk allocator buffer outputLimit subject
    appendBuffers outputLimit subject buffers

def output : ReadCall (List UInt8) := fun v => (.ok v.bytes, v)

def ofResult {α : Type} (result : CallResult α) : ReadCall α := fun v =>
  (result.mapError Halt.failure, v)

def ofUpstream {α : Type} (result : Except E α) : ReadCall α := fun v =>
  (result.mapError (opendalError opendalErrorSnapshot), v)

def collectBoundedReadChunks (buffers : List (Except E Buffer)) (outputLimit : UInt64)
    (subject : String) : ReadCall (List UInt8) := do
  appendBuffers allocator opendalErrorSnapshot outputLimit subject buffers
  output

variable (openReader : WholeReadPlan → Except E (List (Except E Buffer)))

/-- `openReader` is what OpenDAL makes of a plan: the reader and its buffers. -/
def operatorRead (options : CallResult (ReadOptions BytesRange)) (readWithSuffix : Bool)
    (maxOutputLen : UInt64) : ReadCall (List UInt8) := do
  let options ← ofResult options
  let plan ← ofResult (wholeReadPlan options maxOutputLen)
  ofResult (ensureSuffixIsNative plan.range readWithSuffix)
  let buffers ← ofUpstream opendalErrorSnapshot (openReader plan)
  appendBuffers allocator opendalErrorSnapshot plan.outputLimit "read result" buffers
  output

def asyncWholeRead (plan : WholeReadPlan) : ReadCall (List UInt8) := do
  let buffers ← ofUpstream opendalErrorSnapshot (openReader plan)
  appendBuffers allocator opendalErrorSnapshot plan.outputLimit "read result" buffers
  output

/-- A panic ends the operation in the task's own `catch_unwind`. -/
def wholeReadOutcome : Except Halt (List UInt8) → AsyncOutcome (List UInt8)
  | .ok bytes => .success .buffer (.buffer bytes)
  | .error (.failure failure) => .failure .buffer failure
  | .error .panic => .panic .buffer

def runAsyncWholeRead (plan : WholeReadPlan) : AsyncOutcome (List UInt8) × OutputVec :=
  let ran := asyncWholeRead allocator opendalErrorSnapshot openReader plan .empty
  (wholeReadOutcome ran.1, ran.2)

end Loops

section Runs

variable {E : Type} {allocator : Allocator} {opendalErrorSnapshot : E → ErrorV1}
  {limit : UInt64} {subject : String} {v : OutputVec}

theorem contents_cons (buffer : Buffer) (buffers : List Buffer) :
    contents (buffer :: buffers) = buffer.flatten ++ contents buffers := rfl

/-- Buffers that fit are all appended, whatever the upstream has after them. -/
theorem appendBuffers_fits (allocator : Allocator) (opendalErrorSnapshot : E → ErrorV1)
    (subject : String) (buffers : List Buffer) (rest : List (Except E Buffer))
    (h : v.Sound limit) (hfits : v.bytes.length + (contents buffers).length ≤ limit.toNat) :
    ∃ v', appendBuffers allocator opendalErrorSnapshot limit subject
        (buffers.map .ok ++ rest) v =
        appendBuffers allocator opendalErrorSnapshot limit subject rest v' ∧
      v'.bytes = v.bytes ++ contents buffers ∧ v'.Sound limit := by
  induction buffers generalizing v with
  | nil => exact ⟨v, rfl, (List.append_nil _).symm, h⟩
  | cons buffer buffers ih =>
    rw [contents_cons, List.length_append] at hfits
    obtain ⟨appended, happend, hbytes, hsound⟩ :=
      append_fits allocator buffer subject h (by omega)
    have hlength : appended.bytes.length = v.bytes.length + buffer.flatten.length := by
      rw [hbytes, List.length_append]
    obtain ⟨v', hrest, hbytes', hsound'⟩ := ih hsound (by omega)
    refine ⟨v', ?_, ?_, hsound'⟩
    · rw [← hrest]
      exact Call.bind_apply_ok happend
    · rw [hbytes', hbytes, contents_cons, List.append_assoc]

/-- The first buffer that does not fit. -/
theorem exists_first_exceeding (buffers : List Buffer) {n limit : Nat} (hn : n ≤ limit)
    (h : limit < n + (contents buffers).length) :
    ∃ before buffer after, buffers = before ++ buffer :: after ∧
      n + (contents before).length ≤ limit ∧
      limit < n + (contents before).length + buffer.flatten.length := by
  induction buffers generalizing n with
  | nil =>
    change limit < n + 0 at h
    omega
  | cons buffer buffers ih =>
    rw [contents_cons, List.length_append] at h
    by_cases hfits : n + buffer.flatten.length ≤ limit
    · obtain ⟨before, exceeding, after, hbuffers, hbefore, hexceeds⟩ := ih hfits (by omega)
      refine ⟨buffer :: before, exceeding, after, by rw [hbuffers]; rfl, ?_, ?_⟩ <;>
      · rw [contents_cons, List.length_append]
        omega
    · exact ⟨[], buffer, buffers, rfl, hn, by change limit < n + 0 + _; omega⟩

theorem wholeRead_collect (allocator : Allocator) (opendalErrorSnapshot : E → ErrorV1)
    (buffers : List Buffer) (limit : UInt64) (subject : String) :
    WholeRead limit buffers (collectBoundedReadChunks allocator opendalErrorSnapshot
      (buffers.map .ok) limit subject .empty) := by
  have hempty := OutputVec.sound_empty limit
  unfold collectBoundedReadChunks
  by_cases hfits : (contents buffers).length ≤ limit.toNat
  · obtain ⟨v, hrun, hbytes, hsound⟩ := appendBuffers_fits allocator opendalErrorSnapshot
      subject buffers [] hempty
      (by rw [← Nat.zero_add (contents buffers).length] at hfits; exact hfits)
    rw [List.append_nil] at hrun
    have hran := Call.bind_apply_ok (f := fun _ => output) hrun
    rw [hran]
    refine ⟨fun _ => congrArg Except.ok hbytes, ?_, hsound⟩
    intro hexceeds
    omega
  · have hlarge : limit.toNat < 0 + (contents buffers).length := by omega
    obtain ⟨before, buffer, after, hbuffers, hbefore, hexceeds⟩ :=
      exists_first_exceeding buffers (Nat.zero_le _) hlarge
    obtain ⟨v, hrun, hbytes, hsound⟩ := appendBuffers_fits allocator opendalErrorSnapshot
      subject before
      ((buffer :: after).map .ok) hempty hbefore
    change v.bytes = contents before at hbytes
    have hlength : v.bytes.length = (contents before).length := by rw [hbytes]
    have hbuffer : limit.toNat < v.bytes.length + buffer.flatten.length := by omega
    obtain ⟨message, happend⟩ := append_exceeds allocator buffer subject hbuffer
    have hstop : appendBuffers allocator opendalErrorSnapshot limit subject (buffers.map .ok)
        .empty = (.error (.failure (bufferTooLarge message)), v) := by
      rw [hbuffers, List.map_append, hrun]
      exact Call.bind_apply_error happend
    rw [Call.bind_apply_error hstop]
    refine ⟨fun hsmall => absurd hsmall hfits, ?_, hsound⟩
    intro _
    exact ⟨before, buffer, after, message, hbuffers, by omega, by omega, rfl, hbytes⟩

/-- The limit of a plan, which is also below what a `Vec` may hold. -/
theorem outputLimit_of_wholeReadPlan {options : ReadOptions BytesRange} {maxOutputLen : UInt64}
    {plan : WholeReadPlan} (h : wholeReadPlan options maxOutputLen = .ok plan) :
    plan.outputLimit = min maxOutputLen (UInt64.ofNat maxOutputBytes) := by
  unfold wholeReadPlan at h
  dsimp only at h
  split at h
  · split at h
    · cases h
    · cases h
      rfl
  · split at h
    · cases h
    · cases h
      rfl
  · cases h
    rfl

section Entries

variable {openReader : WholeReadPlan → Except E (List (Except E Buffer))} {plan : WholeReadPlan}
  {items : List (Except E Buffer)}

theorem asyncWholeRead_eq (h : openReader plan = .ok items) :
    asyncWholeRead allocator opendalErrorSnapshot openReader plan .empty =
      collectBoundedReadChunks allocator opendalErrorSnapshot items plan.outputLimit "read result"
        .empty := by
  have hopened : ofUpstream opendalErrorSnapshot (openReader plan) .empty = (.ok items, .empty) := by
    unfold ofUpstream
    rw [h]
    rfl
  unfold asyncWholeRead
  rw [Call.bind_apply_ok hopened]
  rfl

theorem operatorRead_eq {options : ReadOptions BytesRange} {readWithSuffix : Bool}
    {maxOutputLen : UInt64} (hplan : wholeReadPlan options maxOutputLen = .ok plan)
    (hsuffix : ensureSuffixIsNative plan.range readWithSuffix = .ok ()) :
    operatorRead allocator opendalErrorSnapshot openReader (.ok options) readWithSuffix
        maxOutputLen .empty =
      asyncWholeRead allocator opendalErrorSnapshot openReader plan .empty := by
  have hoptions : ofResult (.ok options) OutputVec.empty = (.ok options, .empty) := rfl
  have hplanned : ofResult (wholeReadPlan options maxOutputLen) .empty = (.ok plan, .empty) := by
    rw [hplan]
    rfl
  have hallowed : ofResult (ensureSuffixIsNative plan.range readWithSuffix) .empty =
      (.ok (), .empty) := by
    rw [hsuffix]
    rfl
  unfold operatorRead
  rw [Call.bind_apply_ok hoptions, Call.bind_apply_ok hplanned, Call.bind_apply_ok hallowed]
  rfl

end Entries

/-- The three loops read up to the limit. -/
theorem boundedWholeRead (allocator : Allocator) (opendalErrorSnapshot : E → ErrorV1)
    (buffers : List Buffer) :
    (∀ limit subject, WholeRead limit buffers (collectBoundedReadChunks allocator
      opendalErrorSnapshot (buffers.map .ok) limit subject .empty)) ∧
    (∀ openReader plan, openReader plan = .ok (buffers.map .ok) →
      ∃ ran, WholeRead plan.outputLimit buffers ran ∧
        runAsyncWholeRead allocator opendalErrorSnapshot openReader plan =
          (wholeReadOutcome ran.1, ran.2)) ∧
    (∀ openReader options readWithSuffix maxOutputLen plan,
      wholeReadPlan options maxOutputLen = .ok plan →
      ensureSuffixIsNative plan.range readWithSuffix = .ok () →
      openReader plan = .ok (buffers.map .ok) →
      WholeRead plan.outputLimit buffers (operatorRead allocator opendalErrorSnapshot openReader
        (.ok options) readWithSuffix maxOutputLen .empty)) := by
  refine ⟨?_, ?_, ?_⟩
  · intro limit subject
    exact wholeRead_collect allocator opendalErrorSnapshot buffers limit subject
  · intro openReader plan hopen
    refine ⟨_, ?_, rfl⟩
    rw [asyncWholeRead_eq hopen]
    exact wholeRead_collect allocator opendalErrorSnapshot buffers _ _
  · intro openReader options readWithSuffix maxOutputLen plan hplan hsuffix hopen
    rw [operatorRead_eq hplan hsuffix, asyncWholeRead_eq hopen]
    exact wholeRead_collect allocator opendalErrorSnapshot buffers _ _

end Runs

end OpendalMbt.Native
