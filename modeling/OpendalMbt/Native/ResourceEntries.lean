import OpendalMbt.Native.Copier
import OpendalMbt.Native.OperatorEntries
import OpendalMbt.Native.ReadStream
import OpendalMbt.Native.Writer

/-!
# The entries of listers, readers, streams, writers and copiers

The synchronous entries of `native/rust/src/lib.rs` that use a resource. The answers of the locks
are parameters, and so are the inner steps, so that the entries are those of every order of calls.
An inner object that a call took goes out of scope before an output is written, and under a guard
of its own; only the cursor of a read stream goes out of scope after it, and unguarded.

* `atomic_writerWrite`, `atomic_finishing`, `atomic_aborting`: the calls that take an inner object;
* `readStreamNext_atomic_iff`: when a read stream keeps to its status.
-/

namespace OpendalMbt.Native.Entry

open Transition

/-- What a call finds behind a lock. -/
structure Locked (S : Type) where
  state : S
  poisoned : Bool
  deriving DecidableEq, Repr

section Taken

variable {R ι : Type} {V : ι → Type}

/-- A status that is returned before an object goes out of scope. -/
def leaving (destructor : Destructor) (x : Step R V Status) : Step R V Status := do
  let status ← x
  drop destructor
  pure status

/-- The state that keeps the inner object, which a poisoned lock drops. -/
def keepInner (inner : Destructor) (stored : CallResult Unit) (next : Step R V Status) :
    Step R V Status :=
  match stored with
  | .ok () => next
  | .error failure => do
    drop inner
    finishFailure failure

/-- The state without the inner object, which then goes out of scope. -/
def releaseInner (inner : Destructor) (stored : CallResult Unit) (next : Step R V Status) :
    Step R V Status := do
  dropContained inner
  match stored with
  | .ok () => next
  | .error failure => finishFailure failure

def failInner (inner : Destructor) (failure : CallFailure) : Step R V Status := do
  dropContained inner
  finishFailure failure

def panicInner (inner : Destructor) : Step R V Status := do
  dropContained inner
  pure .panic

variable {given : Frame R V ErrorV1} (inner : Destructor)

theorem disciplined_keepInner (hvalid : given.Valid) (stored : CallResult Unit)
    {next : Step R V Status} (hnext : Disciplined given next) :
    Disciplined given (keepInner inner stored next) := by
  cases stored with
  | ok value => exact hnext
  | error failure =>
    apply Leaves.bind (leaves_drop inner)
    intro value
    exact disciplined_finishFailure hvalid failure

theorem disciplined_releaseInner (hvalid : given.Valid) (stored : CallResult Unit)
    {next : Step R V Status} (hnext : Disciplined given next) :
    Disciplined given (releaseInner inner stored next) := by
  apply Leaves.bind (leaves_dropContained inner)
  intro value
  cases stored with
  | ok value => exact hnext
  | error failure => exact disciplined_finishFailure hvalid failure

theorem disciplined_failInner (hvalid : given.Valid) (failure : CallFailure) :
    Disciplined given (failInner inner failure) := by
  apply Leaves.bind (leaves_dropContained inner)
  intro value
  exact disciplined_finishFailure hvalid failure

theorem disciplined_panicInner : Disciplined given (panicInner inner) := by
  apply Leaves.bind (leaves_dropContained inner)
  intro value
  exact disciplined_pure (.inr (.inr rfl))

theorem disciplined_leaving_quiet {x : Step R V Status} (h : Disciplined given x) :
    Disciplined given (leaving .quiet x) := by
  apply Call.Triple.bind h
  intro status f hf
  exact hf

theorem disciplined_leaving_pure (destructor : Destructor) {status : Status}
    (hstatus : status = .end ∨ status = .abiMismatch ∨ status = .panic) :
    Disciplined given (leaving destructor (pure status)) := by
  intro f hf
  cases destructor with
  | quiet => exact disciplined_pure hstatus f hf
  | panics => exact hf

end Taken

/-- A check inside the guarded step of a call. -/
def checkedStep {A B : Type} (check : A → CallResult B) (value : A) : StepResult B :=
  match check value with
  | .ok value => .ok value
  | .error failure => .error failure

/-! ## Listers -/

inductive ListerStateV1 (I : Type) where
  | open (inner : I)
  | exhausted
  | closed
  deriving DecidableEq, Repr

/-- An entry, with the name that OpenDAL gives it. -/
structure EntryV1 where
  path : String
  name : String
  metadata : Metadata
  deriving DecidableEq, Repr

def checkedEntry (entry : EntryV1) : CallResult EntryV1 :=
  if maxOutputBytes < entry.path.utf8ByteSize then
    .error (bufferTooLarge "entry path exceeds the binding output limit")
  else if maxOutputBytes < entry.name.utf8ByteSize then
    .error (bufferTooLarge "entry name exceeds the binding output limit")
  else do
    let metadata ← checkedMetadata entry.metadata
    .ok { entry with metadata }

def listerClosed : CallFailure := resourceClosed "lister is closed"

def listerLockPoisoned : CallFailure := Monitor.lockPoisoned "lister state lock was poisoned"

/-- The step of an open lister; an entry is checked in it. -/
def listerStep {I : Type} (next : I → StepResult (Option EntryV1)) (inner : I) :
    StepResult (Option EntryV1) :=
  (next inner).bind fun
    | some entry => (checkedStep checkedEntry entry).map some
    | none => .ok none

section Lister

variable {I : Type} (lister : Pointer (Locked (ListerStateV1 I)))
  (next : I → StepResult (Option EntryV1)) (inner : Destructor)
  (outEntry : Slot Misplaced EntryV1) (outError : Slot Misplaced ErrorV1)

def listerNext : Invocation :=
  .single outEntry outError <|
    orFinish (closure .quiet (Work.input (borrowRequired lister))) fun lister =>
      if lister.poisoned then failInner inner listerLockPoisoned
      else
        match lister.state with
        | .exhausted => pure .end
        | .closed => finishFailure listerClosed
        | .open open' =>
          match listerStep next open' with
          | .ok (some entry) => publish [()] (fun _ => entry) .ok
          | .ok none => do
            dropContained inner
            pure .end
          | .error failure => failInner inner failure
          | .panic => panicInner inner

theorem atomic_listerNext : (listerNext lister next inner outEntry outError).Atomic := by
  apply Invocation.atomic_run
  intro hvalid
  apply Leaves.orFinish hvalid (leaves_closure .quiet _)
  intro lister
  split_ifs with hpoisoned
  · exact disciplined_failInner inner hvalid _
  · split
    · exact disciplined_pure (.inl rfl)
    · exact disciplined_finishFailure hvalid _
    · split
      · exact disciplined_publish_single hvalid _ (.inl rfl)
      · apply Leaves.bind (leaves_dropContained inner)
        intro value
        exact disciplined_pure (.inl rfl)
      · exact disciplined_failInner inner hvalid _
      · exact disciplined_panicInner inner

end Lister

/-! ## Readers -/

/-- The state of a reader under its read guard. -/
inductive ReaderGuard where
  | open
  | closed
  | poisoned
  deriving DecidableEq, Repr

structure ReaderV1 where
  guard : ReaderGuard
  readWithSuffix : Bool
  deriving DecidableEq, Repr

def readerClosed : CallFailure := resourceClosed "reader is closed"

def readerLockPoisoned : CallFailure := Monitor.lockPoisoned "reader state lock was poisoned"

def negotiatedLimit (maxOutputLen : UInt64) : UInt64 := min maxOutputLen (UInt64.ofNat maxOutputBytes)

/-- A size that the range names must be within the limit. -/
def checkRangeSize (range : BytesRange) (limit : UInt64) : CallResult Unit :=
  match range with
  | .range _ (some size) | .suffix size =>
    if limit < size then
      .error (bufferTooLarge "reader range exceeds the negotiated output limit")
    else .ok ()
  | .range _ none => .ok ()

/-- What `reader_read` checks before it asks for the lock. -/
def readerRange (readWithSuffix : Bool) (range : Pointer ByteRangeV1) (maxOutputLen : UInt64) :
    Work BytesRange := do
  let range ← Work.input (readRequired range)
  let range ← Work.check (parseRange BytesRange.api range)
  Work.check (ensureSuffixIsNative range readWithSuffix)
  Work.check (checkRangeSize range (negotiatedLimit maxOutputLen))
  pure range

/-- `read` reads and checks the size of what it has read. -/
def readerReadWork (reader : ReaderV1) (range : Pointer ByteRangeV1) (maxOutputLen : UInt64)
    (read : BytesRange → UInt64 → StepResult (List UInt8)) : Work (List UInt8) := do
  let range ← readerRange reader.readWithSuffix range maxOutputLen
  match reader.guard with
  | .poisoned => Work.check (.error readerLockPoisoned)
  | .closed => Work.check (.error readerClosed)
  | .open => Work.upstream (read range (negotiatedLimit maxOutputLen))

section Reader

variable (locals : Destructor) (reader : Pointer ReaderV1) (range : Pointer ByteRangeV1)
  (maxOutputLen : UInt64) (read : BytesRange → UInt64 → StepResult (List UInt8))
  (outBuffer : Slot Misplaced (List UInt8)) (outError : Slot Misplaced ErrorV1)

def readerRead : Invocation :=
  .single outBuffer outError <|
    orFinish (closure .quiet (Work.input (borrowRequired reader))) fun reader =>
      returning locals (readerReadWork reader range maxOutputLen read)

theorem atomic_readerRead :
    (readerRead locals reader range maxOutputLen read outBuffer outError).Atomic := by
  apply Invocation.atomic_run
  intro hvalid
  apply Leaves.orFinish hvalid (leaves_closure .quiet _)
  intro reader
  exact disciplined_returning locals hvalid _

end Reader

/-! ## Read streams -/

def readStreamLockPoisoned : CallFailure :=
  Monitor.lockPoisoned "read stream state lock was poisoned"

section ReadStream

variable (usizeMax : Nat) (cursorEnd : Destructor) (stream : Pointer (Locked ReadStreamV1))
  (maxOutputLen : Nat) (outBuffer : Slot Misplaced (List UInt8))
  (outError : Slot Misplaced ErrorV1)

/-- What is behind the lock goes out of scope when `Failed` is stored. -/
def dropState (state : ReadStreamStateV1) : Step Misplaced (fun _ : Unit => List UInt8) Unit :=
  match state with
  | .open _ => drop cursorEnd
  | .end | .failed | .closed => pure ()

/-- The step of an open stream. Unless it is stored again, the cursor goes out of scope last. -/
def openStreamNext (cursor : ReadStreamCursorV1) (chunkSize : Nat) :
    Step Misplaced (fun _ : Unit => List UInt8) Status :=
  match (cursor.step usizeMax chunkSize).1 with
  | .ok (some buffer) =>
    match checkedReadBuffer buffer (min maxOutputLen chunkSize) "read stream chunk" with
    | .ok buffer => publish [()] (fun _ => buffer) .ok
    | .error failure => leaving cursorEnd (finishFailure failure)
  | .error failure => leaving cursorEnd (finishFailure failure)
  | .ok none => leaving cursorEnd (pure .end)
  | .panic => leaving cursorEnd (pure .panic)

def readStreamNext : Invocation :=
  .single outBuffer outError <|
    orFinish (closure .quiet (Work.input (borrowRequired stream))) fun stream =>
      if stream.poisoned then do
        dropState cursorEnd stream.state.state
        finishFailure readStreamLockPoisoned
      else
        match stream.state.state with
        | .end => pure .end
        | .failed | .closed => finishFailure readStreamClosed
        | .open cursor => openStreamNext usizeMax cursorEnd maxOutputLen cursor stream.state.chunkSize

/-- The next buffer of the iterator or of the cursor is an error, or a chunk over the limit. -/
def EndsInError (cursor : ReadStreamCursorV1) (chunkSize : Nat) : Prop :=
  ∃ error, (cursor.step usizeMax chunkSize).1 = .error (.error error) ∨
    ∃ buffer, (cursor.step usizeMax chunkSize).1 = .ok (some buffer) ∧
      checkedReadBuffer buffer (min maxOutputLen chunkSize) "read stream chunk" =
        .error (.error error)

/-- An error of the cursor is about to be returned, and the destructor of the cursor panics. -/
def Endangered : Prop :=
  cursorEnd = .panics ∧ outBuffer.Formed ∧ outError.Formed ∧
    ∃ s cursor, stream = .valid ⟨s, false⟩ ∧ s.state = .open cursor ∧
      EndsInError usizeMax maxOutputLen cursor s.chunkSize

variable {usizeMax cursorEnd stream maxOutputLen outBuffer outError}

theorem leaves_dropState {given : Frame Misplaced (fun _ : Unit => List UInt8) ErrorV1}
    (state : ReadStreamStateV1) : Leaves given (dropState cursorEnd state) := by
  cases state with
  | «open» cursor => exact leaves_drop cursorEnd
  | «end» => exact fun _ hf => hf
  | failed => exact fun _ hf => hf
  | closed => exact fun _ hf => hf

/-- A failure may be followed by a panic when no error is written for it. -/
theorem disciplined_leaving_failure {given : Frame Misplaced (fun _ : Unit => List UInt8) ErrorV1}
    (hvalid : given.Valid) {failure : CallFailure}
    (h : ∀ error, failure = .error error → cursorEnd = .panics → ¬ given.error.Formed) :
    Disciplined given (leaving cursorEnd (finishFailure failure)) := by
  cases hend : cursorEnd with
  | quiet => exact disciplined_leaving_quiet (disciplined_finishFailure hvalid failure)
  | panics =>
    intro f hf
    cases failure with
    | abiMismatch => exact hf
    | error error =>
      have hunwanted := h error rfl hend
      have hsame : f.writeError error = f := by
        rcases hf.error_eq hvalid with hnull | hempty
        · rw [Frame.writeError, hnull]
        · rw [Slot.Formed, ← hf.keptError, hempty] at hunwanted
          exact absurd rfl hunwanted
      show Frame.Swept given (f.writeError error)
      rw [hsame]
      exact hf

theorem disciplined_openStreamNext {given : Frame Misplaced (fun _ : Unit => List UInt8) ErrorV1}
    (hvalid : given.Valid) {cursor : ReadStreamCursorV1} {chunkSize : Nat}
    (h : EndsInError usizeMax maxOutputLen cursor chunkSize → cursorEnd = .panics →
      ¬ given.error.Formed) :
    Disciplined given (openStreamNext usizeMax cursorEnd maxOutputLen cursor chunkSize) := by
  unfold openStreamNext
  cases hstep : (cursor.step usizeMax chunkSize).1 with
  | panic => exact disciplined_leaving_pure cursorEnd (.inr (.inr rfl))
  | error failure =>
    apply disciplined_leaving_failure hvalid
    intro error herror
    exact h ⟨error, .inl (by rw [hstep, herror])⟩
  | ok chunk =>
    cases chunk with
    | none => exact disciplined_leaving_pure cursorEnd (.inl rfl)
    | some buffer =>
      dsimp only
      cases hchecked : checkedReadBuffer buffer (min maxOutputLen chunkSize) "read stream chunk" with
      | ok buffer => exact disciplined_publish_single hvalid buffer (.inl rfl)
      | error failure =>
        apply disciplined_leaving_failure hvalid
        intro error herror
        exact h ⟨error, .inr ⟨buffer, hstep, by rw [hchecked, herror]⟩⟩

theorem atomic_readStreamNext
    (h : ¬ Endangered usizeMax cursorEnd stream maxOutputLen outBuffer outError) :
    (readStreamNext usizeMax cursorEnd stream maxOutputLen outBuffer outError).Atomic := by
  apply Invocation.atomic_run
  intro hvalid
  apply disciplined_input hvalid
  intro locked hborrowed
  split_ifs with hpoisoned
  · apply Leaves.bind (leaves_dropState locked.state.state)
    intro value
    exact disciplined_finishFailure hvalid _
  · cases hstate : locked.state.state with
    | «end» => exact disciplined_pure (.inl rfl)
    | failed => exact disciplined_finishFailure hvalid _
    | closed => exact disciplined_finishFailure hvalid _
    | «open» cursor =>
      apply disciplined_openStreamNext hvalid
      intro hends hpanics herror
      apply h
      refine ⟨hpanics, hvalid.1 (), herror, locked.state, cursor, ?_, hstate, hends⟩
      obtain ⟨state, poisoned⟩ := locked
      have hclean : poisoned = false := Bool.eq_false_of_not_eq_true hpoisoned
      subst hclean
      cases stream with
      | null => cases hborrowed
      | misaligned => cases hborrowed
      | valid target =>
        cases hborrowed
        rfl

/-- The error is written, the destructor panics, and `STATUS_PANIC` comes with an error. -/
theorem openStreamNext_panics {cursor : ReadStreamCursorV1} {chunkSize : Nat}
    {f : Frame Misplaced (fun _ : Unit => List UInt8) ErrorV1} (herror : f.error = .storage .empty)
    (hends : EndsInError usizeMax maxOutputLen cursor chunkSize) :
    ∃ error, openStreamNext usizeMax .panics maxOutputLen cursor chunkSize f =
      (.error {}, { f with error := .storage (.value error) }) := by
  have hleaving : ∀ error, leaving .panics (finishFailure (.error error)) f =
      (.error {}, { f with error := .storage (.value error) }) := by
    intro error
    have hwritten : f.writeError error = { f with error := .storage (.value error) } := by
      rw [Frame.writeError, herror]
    show (Except.error Panicked.mk, f.writeError error) = _
    rw [hwritten]
  obtain ⟨error, hstep | ⟨buffer, hstep, hchecked⟩⟩ := hends
  · refine ⟨error, ?_⟩
    rw [openStreamNext, hstep]
    exact hleaving error
  · refine ⟨error, ?_⟩
    rw [openStreamNext, hstep]
    dsimp only
    rw [hchecked]
    exact hleaving error

theorem readStreamNext_atomic_iff :
    (readStreamNext usizeMax cursorEnd stream maxOutputLen outBuffer outError).Atomic ↔
      ¬ Endangered usizeMax cursorEnd stream maxOutputLen outBuffer outError := by
  refine ⟨?_, atomic_readStreamNext⟩
  intro hatomic ⟨hpanics, hbuffer, herror, s, cursor, hstream, hopen, hends⟩
  have hvalid : (readStreamNext usizeMax cursorEnd stream maxOutputLen outBuffer
      outError).given.Valid := by
    refine ⟨fun _ => hbuffer, ?_⟩
    show outError.fault ≠ _
    rw [herror]
    nofun
  rcases Invocation.run_cases
      (readStreamNext usizeMax cursorEnd stream maxOutputLen outBuffer outError) with
    ⟨swept, hswept, -, hrun⟩ | ⟨swept, -, hinvalid, -⟩
  · have hempty : swept.error = .storage .empty := by
      apply hswept.emptyError
      rw [Slot.Formed, hswept.keptError]
      exact herror
    obtain ⟨error, hpanicked⟩ := openStreamNext_panics (f := swept.inspect) hempty hends
    subst hstream hpanics
    have hbody : (readStreamNext usizeMax .panics (.valid ⟨s, false⟩) maxOutputLen outBuffer
        outError).body swept = (.error {}, { swept.inspect with error := .storage (.value error) }) := by
      obtain ⟨state, chunkSize⟩ := s
      cases hopen
      exact hpanicked
    have hstatus : (readStreamNext usizeMax .panics (.valid ⟨s, false⟩) maxOutputLen outBuffer
        outError).run = (.panic, { swept.inspect with error := .storage (.value error) }) := by
      rw [hrun, catchStatus, hbody]
    unfold Invocation.Atomic at hatomic
    rw [hstatus] at hatomic
    have hslot := hatomic.emptyError rfl
    cases hslot
  · exact hinvalid hvalid

end ReadStream

/-! ## Writers -/

section Writers

variable {R ι : Type} {V : ι → Type}

/-- What a writer call does with the inner object that it takes; `again` is for a call that finds
its work done. -/
def takingInner {A : Type} (inner : Destructor) (runtime : CallResult Unit)
    (taken : StepResult (Option Unit)) (again : Step R V Status) (step : StepResult A)
    (next : A → Step R V Status) : Step R V Status :=
  orFinish (closure .quiet (Work.check runtime)) fun () =>
    orFinish (closure .quiet (Work.step taken)) fun
      | none => again
      | some () =>
        match step with
        | .ok value => next value
        | .error failure => failInner inner failure
        | .panic => panicInner inner

theorem disciplined_takingInner {A : Type} {given : Frame R V ErrorV1} (hvalid : given.Valid)
    (inner : Destructor) (runtime : CallResult Unit) (taken : StepResult (Option Unit))
    {again : Step R V Status} (hagain : Disciplined given again) (step : StepResult A)
    {next : A → Step R V Status} (hnext : ∀ value, Disciplined given (next value)) :
    Disciplined given (takingInner inner runtime taken again step next) := by
  apply Leaves.orFinish hvalid (leaves_closure .quiet _)
  intro value
  apply Leaves.orFinish hvalid (leaves_closure .quiet _)
  intro taken
  cases taken with
  | none => exact hagain
  | some value =>
    cases step with
    | ok value => exact hnext value
    | error failure => exact disciplined_failInner inner hvalid failure
    | panic => exact disciplined_panicInner inner

end Writers

section Calls

variable {W : Type} (inner : Destructor) (runtime : CallResult Unit)
  (taken : StepResult (Option Unit)) (stored : CallResult Unit) (resource : Pointer W)
  (outError : Slot Misplaced ErrorV1)

/-- `None` for a write or a finish is unreachable, and panics. -/
def writerWrite (data : Pointer BytesViewV1) (write : List UInt8 → StepResult Unit) : Invocation :=
  .onlyError outError <|
    orFinish (closure .quiet (Work.input (borrowRequired resource))) fun _ =>
      orFinish (closure .quiet (Work.input (readBinary data))) fun data =>
        takingInner inner runtime taken panic (write data) fun () =>
          keepInner inner stored (pure .ok)

/-- What `writer_close` and `copier_finish` share. -/
def finishing (close : StepResult Metadata) (outMetadata : Slot Misplaced Metadata) : Invocation :=
  .single outMetadata outError <|
    orFinish (closure .quiet (Work.input (borrowRequired resource))) fun _ =>
      takingInner inner runtime taken panic (close.bind (checkedStep checkedMetadata)) fun metadata =>
        releaseInner inner stored (publish [()] (fun _ => metadata) .ok)

/-- What `writer_abort` and `copier_abort` share. A repeated abort has nothing to do. -/
def aborting (abort : StepResult Unit) : Invocation :=
  .onlyError outError <|
    orFinish (closure .quiet (Work.input (borrowRequired resource))) fun _ =>
      takingInner inner runtime taken (pure .ok) abort fun () =>
        releaseInner inner stored (pure .ok)

def writerClose (close : StepResult Metadata) (outMetadata : Slot Misplaced Metadata) : Invocation :=
  finishing inner runtime taken stored resource outError close outMetadata

def writerAbort (abort : StepResult Unit) : Invocation :=
  aborting inner runtime taken stored resource outError abort

/-- A copier that is at its end is at `END`, and stays there. -/
def copierNext (next : StepResult (Option UInt64)) (outBytes : Slot Misplaced UInt64) : Invocation :=
  .single outBytes outError <|
    orFinish (closure .quiet (Work.input (borrowRequired resource))) fun _ =>
      takingInner inner runtime taken (pure .end) next fun
        | some bytes => keepInner inner stored (publish [()] (fun _ => bytes) .ok)
        | none => keepInner inner stored (pure .end)

def copierFinish (close : StepResult Metadata) (outMetadata : Slot Misplaced Metadata) : Invocation :=
  finishing inner runtime taken stored resource outError close outMetadata

def copierAbort (abort : StepResult Unit) : Invocation :=
  aborting inner runtime taken stored resource outError abort

theorem atomic_writerWrite (data : Pointer BytesViewV1) (write : List UInt8 → StepResult Unit) :
    (writerWrite inner runtime taken stored resource outError data write).Atomic := by
  apply Invocation.atomic_run
  intro hvalid
  apply Leaves.orFinish hvalid (leaves_closure .quiet _)
  intro writer
  apply Leaves.orFinish hvalid (leaves_closure .quiet _)
  intro data
  apply disciplined_takingInner hvalid inner runtime taken disciplined_panic
  intro value
  exact disciplined_keepInner inner hvalid stored disciplined_ok

theorem atomic_finishing (close : StepResult Metadata) (outMetadata : Slot Misplaced Metadata) :
    (finishing inner runtime taken stored resource outError close outMetadata).Atomic := by
  apply Invocation.atomic_run
  intro hvalid
  apply Leaves.orFinish hvalid (leaves_closure .quiet _)
  intro resource
  apply disciplined_takingInner hvalid inner runtime taken disciplined_panic
  intro metadata
  apply disciplined_releaseInner inner hvalid stored
  exact disciplined_publish_single hvalid metadata (.inl rfl)

theorem atomic_aborting (abort : StepResult Unit) :
    (aborting inner runtime taken stored resource outError abort).Atomic := by
  apply Invocation.atomic_run
  intro hvalid
  apply Leaves.orFinish hvalid (leaves_closure .quiet _)
  intro resource
  apply disciplined_takingInner hvalid inner runtime taken disciplined_ok
  intro value
  exact disciplined_releaseInner inner hvalid stored disciplined_ok

theorem atomic_copierNext (next : StepResult (Option UInt64)) (outBytes : Slot Misplaced UInt64) :
    (copierNext inner runtime taken stored resource outError next outBytes).Atomic := by
  apply Invocation.atomic_run
  intro hvalid
  apply Leaves.orFinish hvalid (leaves_closure .quiet _)
  intro resource
  apply disciplined_takingInner hvalid inner runtime taken (disciplined_pure (.inl rfl))
  intro progress
  cases progress with
  | some bytes =>
    apply disciplined_keepInner inner hvalid stored
    exact disciplined_publish_single hvalid bytes (.inl rfl)
  | none =>
    apply disciplined_keepInner inner hvalid stored
    exact disciplined_pure (.inl rfl)

end Calls

end OpendalMbt.Native.Entry
