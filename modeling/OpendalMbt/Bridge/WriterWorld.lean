import OpendalMbt.Bridge.SlotFrame
import OpendalMbt.Transition.Run

/-!
# A writer of the bridge with its futures

The futures of one writer handle on the executor: a future calls the writer that it owns, and
what the writer answers is published. A call may be made and answered at any later time.

* `WriterWorld.step`: the starts, the futures, `task_take` and the release;
* `WriterStart.verdict`: what the state of the writer says to a start;
* `start_early`, `start_refused`, `start_lent`, `start_repeated`: the four ways a start ends.
-/

namespace OpendalMbt.Bridge

open Arena Transition

inductive InnerCall where
  | write (data : List UInt8)
  | close
  | abort
  deriving DecidableEq, Repr

inductive InnerAnswer where
  | write (result : Except BridgeError Unit)
  | close (result : Except BridgeError Metadata)
  | abort (result : Except BridgeError Unit)

variable {O S W L : Type}

namespace Future

/-- The call that a future makes on its writer. -/
def innerCall : Future O S W L → Option (W × InnerCall)
  | .writerWrite writer data => some (writer, .write data)
  | .writerFinish writer => some (writer, .close)
  | .writerAbort writer => some (writer, .abort)
  | _ => none

/-- What a future ends with when the writer has answered. -/
def outcome : Future O S W L → InnerAnswer → Option (WriterUpdate W Metadata × Completion S W L)
  | .writerWrite writer _, .write (.ok ()) => some (.open writer, .writerWrite (.ok ()))
  | .writerWrite _ _, .write (.error e) => some (.terminal .failed, .writerWrite (.error e))
  | .writerFinish _, .close (.ok metadata) =>
    some (.terminal (.finished metadata), .writerFinish (.ok metadata))
  | .writerFinish _, .close (.error e) => some (.terminal .failed, .writerFinish (.error e))
  | .writerAbort _, .abort (.ok ()) => some (.terminal .aborted, .writerAbort (.ok ()))
  | .writerAbort _, .abort (.error e) => some (.terminal .failed, .writerAbort (.error e))
  | _, _ => none

/-- What a future that repeats an outcome ends with. -/
def repeated : Future O S W L → Option (Completion S W L)
  | .writerFinished metadata => some (.writerFinish (.ok metadata))
  | .writerAborted => some (.writerAbort (.ok ()))
  | _ => none

end Future

/-- The futures of a writer: those with a lease that have not called the writer or wait for its
answer, and those without. The calls, the answers and the release are histories. -/
structure WriterWorld (O S W L : Type) where
  bridge : BridgeState O S W L
  waiting : List (Spawned O S W L) := []
  running : List (Spawned O S W L) := []
  repeating : List (Spawned O S W L) := []
  calls : List (W × InnerCall) := []
  answers : List InnerAnswer := []
  released : Bool := false

inductive WriterStart where
  | write (data : UInt32)
  | finish
  | abort
  deriving DecidableEq, Repr

def WriterStart.export (handle : UInt32) : WriterStart → Export
  | .write data => .writerWriteStart handle data
  | .finish => .writerFinishStart handle
  | .abort => .writerAbortStart handle

inductive WriterEvent (O : Type) where
  | start (lib : Library O) (start : WriterStart)
  /-- A future calls the writer. -/
  | call (i : Nat)
  | publish (i : Nat) (answer : InnerAnswer)
  | publishRepeated (i : Nat)
  | taskTake (lib : Library O) (task : UInt32)
  | release (lib : Library O)

namespace WriterWorld

variable (handle : UInt32) (w : WriterWorld O S W L)

def started (s : BridgeState O S W L) : WriterWorld O S W L :=
  let futures := s.spawned.drop w.bridge.spawned.length
  { w with
    bridge := s
    waiting := w.waiting ++ futures.filter (·.lease.isSome)
    repeating := w.repeating ++ futures.filter (·.lease.isNone) }

def step : WriterEvent O → Option (WriterWorld O S W L)
  | .start lib start => some (w.started ((start.export handle).run w.bridge lib).2)
  | .call i =>
    match w.waiting[i]? with
    | none => none
    | some f =>
      match f.future.innerCall with
      | none => none
      | some call =>
        some { w with
          waiting := w.waiting.eraseIdx i
          running := w.running ++ [f]
          calls := w.calls ++ [call] }
  | .publish i answer =>
    match w.running[i]? with
    | none => none
    | some f =>
      match f.lease, f.future.outcome answer with
      | some lease, some (update, completion) =>
        some { w with
          bridge := publishOwnedResourceTask f.task lease (.writer update) completion w.bridge
          running := w.running.eraseIdx i
          answers := w.answers ++ [answer] }
      | _, _ => none
  | .publishRepeated i =>
    match w.repeating[i]? with
    | none => none
    | some f =>
      match f.future.repeated with
      | none => none
      | some completion =>
        some { w with
          bridge := publishOwnedTask f.task completion w.bridge
          repeating := w.repeating.eraseIdx i }
  | .taskTake lib task => some { w with bridge := ((Export.taskTake task).run w.bridge lib).2 }
  | .release lib =>
    some { w with
      bridge := ((Export.writerRelease handle).run w.bridge lib).2
      released := true }

end WriterWorld

/-! ## Reservations -/

section Reserve

variable {I T : Type} {F : Lender O S W L I T} {s : BridgeState O S W L} {handle : UInt32}

/-- The checks before a lease, in their order. -/
def leaseRefusal (s : BridgeState O S W L) : Option BridgeError :=
  if s.tornDown then some .tornDown
  else if s.arena.canInsert = false then some .handleLimit
  else if UInt64.size ≤ s.nextResourceOperation.toNat + 1 then some .lengthOverflow
  else none

/-- The checks of `start_task`. -/
def taskRefusal (s : BridgeState O S W L) : Option BridgeError :=
  if s.tornDown then some .tornDown
  else if s.arena.canInsert = false then some .handleLimit
  else none

/-- The next token is given out. -/
def BridgeState.allocated (s : BridgeState O S W L) : BridgeState O S W L :=
  { s with nextResourceOperation := s.nextResourceOperation + 1 }

theorem leaseRefusal_eq_none : leaseRefusal s = none ↔
    s.tornDown = false ∧ s.arena.canInsert = true ∧
      s.nextResourceOperation.toNat + 1 < UInt64.size := by
  unfold leaseRefusal
  split_ifs <;> simp_all

theorem reserve_refused {e : BridgeError} (h : leaseRefusal s = some e) :
    F.reserve handle s = (.error e, s) := by
  unfold leaseRefusal at h
  unfold Lender.reserve
  split_ifs at h with htorn hfull hlimit <;> cases h
  · rw [if_pos htorn]
  · rw [if_neg htorn, if_pos hfull]
  · rw [if_neg htorn, if_neg hfull, if_pos hlimit]

/-- The refusal of a resource that is not open. -/
def leasedRefusal (handle : UInt32) : LeasedState I T → Option BridgeError
  | .open _ _ => none
  | .busy _ => some (.resourceBusy handle)
  | .terminal _ => some (.resourceClosed handle)

theorem reserve_not_open (h : leaseRefusal s = none) {state : LeasedState I T} {e : BridgeError}
    (hlookup : F.lookup s.arena handle = .ok state) (hstate : leasedRefusal handle state = some e) :
    F.reserve handle s = (.error e, s.allocated) := by
  obtain ⟨htorn, hfull, hlimit⟩ := leaseRefusal_eq_none.mp h
  unfold Lender.reserve
  rw [if_neg (by simp [htorn]), if_neg (by simp [hfull]), if_neg (by omega)]
  dsimp only
  rw [hlookup]
  cases state with
  | «open» inner previous => cases hstate
  | busy operation =>
    cases hstate
    rfl
  | terminal outcome =>
    cases hstate
    rfl

attribute [local simp] leasedRefusal

theorem reserve_missing (h : leaseRefusal s = none) {e : BridgeError}
    (hlookup : F.lookup s.arena handle = .error e) :
    F.reserve handle s = (.error e, s.allocated) := by
  obtain ⟨htorn, hfull, hlimit⟩ := leaseRefusal_eq_none.mp h
  unfold Lender.reserve
  rw [if_neg (by simp [htorn]), if_neg (by simp [hfull]), if_neg (by omega)]
  dsimp only
  rw [hlookup]
  rfl

/-- The lease that the next operation is given. -/
def nextLease (F : Lender O S W L I T) (handle : UInt32) (s : BridgeState O S W L) :
    ResourceLease :=
  ⟨handle, F.kind, s.nextResourceOperation + 1⟩

theorem reserve_open (hvalid : s.arena.Valid) (h : leaseRefusal s = none) {inner : I}
    {previous : UInt64} {r : OwnedResource O S W L} (hget : s.arena.get? handle = some r)
    (hlookup : F.lookup s.arena handle = .ok (.open inner previous)) :
    ∃ task arena,
      (s.arena.write handle (F.wrap (.busy (s.nextResourceOperation + 1)))).insert
          (.task (.pending (some (nextLease F handle s)))) = (.ok task, arena) ∧
        F.reserve handle s =
          (.ok (task, nextLease F handle s, inner), { s.allocated with arena }) := by
  obtain ⟨htorn, hfull, hlimit⟩ := leaseRefusal_eq_none.mp h
  have hcan := (canInsert_write hget (F.wrap (.busy (s.nextResourceOperation + 1)))).trans hfull
  have hwritten := hvalid.write (r := F.wrap (.busy (s.nextResourceOperation + 1)))
    (get?_eq_some.mp hget)
  obtain ⟨task, arena, hinsert⟩ := insert_of_canInsert hwritten hcan
    (.task (.pending (some (nextLease F handle s))))
  refine ⟨task, arena, hinsert, ?_⟩
  unfold nextLease at hinsert
  unfold Lender.reserve
  rw [if_neg (by simp [htorn]), if_neg (by simp [hfull]), if_neg (by omega)]
  dsimp only
  rw [hlookup]
  dsimp only
  rw [hinsert]
  rfl

end Reserve

/-! ## Starts -/

section Starts

variable {s s' : BridgeState O S W L} {handle : UInt32} {lib : Library O} {e : BridgeError}

theorem handleReply_error {x : BridgeCall O S W L UInt32} (h : x s = (.error e, s')) :
    handleReply s x = (.handle 0, recordError e s') := by
  unfold handleReply handleOrRecordError valueOr
  rw [h]

theorem handleReply_ok {x : BridgeCall O S W L UInt32} {value : UInt32}
    (h : x s = (.ok value, s')) : handleReply s x = (.handle value, s') := by
  unfold handleReply handleOrRecordError valueOr
  rw [h]

theorem writer_lookup {a : Arena (OwnedResource O S W L)} {state : WriterState W Metadata} :
    Lender.writer.lookup a handle = .ok state ↔ a.get? handle = some (.writer state) := by
  apply borrow_eq_ok
  intro r value
  cases r <;> simp [Lender.writer]

theorem writer_lookup_none {a : Arena (OwnedResource O S W L)} (h : a.get? handle = none) :
    Lender.writer.lookup a handle = .error (.invalidHandle handle) := by
  have hresource : a.resource handle = .error (.invalidHandle handle) := by
    unfold Arena.get? at h
    cases hr : a.resource handle with
    | ok r =>
      rw [hr] at h
      cases h
    | error e =>
      unfold Arena.resource at hr
      cases hdec : decodeHandle handle with
      | error e' =>
        rw [hdec] at hr
        cases hr
        unfold decodeHandle at hdec
        dsimp only at hdec
        split_ifs at hdec
        cases hdec
        rfl
      | ok p =>
        rw [hdec] at hr
        dsimp only at hr
        split at hr
        · cases hr
          rfl
        · split_ifs at hr
          · cases hr
            rfl
          · split at hr
            · cases hr
              rfl
            · cases hr
  unfold Lender.lookup Arena.borrow
  rw [hresource]

/-- A future is spawned for the task that is inserted. -/
def BridgeState.spawn (s : BridgeState O S W L) (task : UInt32) (lease : Option ResourceLease)
    (future : Future O S W L) : BridgeState O S W L :=
  { s with spawned := s.spawned ++ [⟨task, lease, future, s.forcePendingForCanary⟩] }

/-- The writer is lent to a new future. -/
def Begun (handle : UInt32) (future : Future O S W L) (s : BridgeState O S W L)
    (out : Reply × BridgeState O S W L) : Prop :=
  ∃ task arena,
    (s.arena.write handle (.writer (.busy (s.nextResourceOperation + 1)))).insert
        (.task (.pending (some ⟨handle, .writer, s.nextResourceOperation + 1⟩))) =
          (.ok task, arena) ∧
      out = (.handle task, ({ s.allocated with arena } : BridgeState O S W L).spawn task
        (some ⟨handle, .writer, s.nextResourceOperation + 1⟩) future)

theorem start_error {future : W → Future O S W L}
    (h : Lender.writer.reserve handle s = (.error e, s')) :
    Lender.writer.start handle future s = (.error e, s') := by
  unfold Lender.start
  rw [Call.bind_apply_error h]

theorem start_open (hvalid : s.arena.Valid) (h : leaseRefusal s = none) {inner : W}
    {previous : UInt64} (hget : s.arena.get? handle = some (.writer (.open inner previous)))
    (future : W → Future O S W L) :
    Begun handle (future inner) s (handleReply s (Lender.writer.start handle future)) := by
  obtain ⟨task, arena, hinsert, hreserve⟩ :=
    reserve_open hvalid h hget (writer_lookup.mpr hget)
  refine ⟨task, arena, hinsert, ?_⟩
  apply handleReply_ok
  unfold Lender.start
  rw [Call.bind_apply_ok hreserve]
  rfl

/-! ### Writes -/

/-- The checks of a write before it looks at the writer. -/
def writeRefusal (tryReserve : Nat → Bool) (data : UInt32) (s : BridgeState O S W L) :
    Option BridgeError :=
  match ownedWriterChunk tryReserve data s with
  | .error e => some e
  | .ok _ => leaseRefusal s

variable {data : UInt32}

attribute [local simp] writeRefusal

theorem view_apply {α : Type} {f : BridgeState O S W L → Except BridgeError α}
    {result : Except BridgeError α} (h : f s = result) : view f s = (result, s) :=
  Prod.ext h rfl

theorem writerWriteStart_eq {chunk : List UInt8}
    (h : ownedWriterChunk lib.tryReserve data s = .ok chunk) :
    writerWriteStart lib.tryReserve handle data s =
      Lender.writer.start handle (fun writer => .writerWrite writer chunk) s := by
  unfold writerWriteStart
  rw [Call.bind_apply_ok (view_apply h)]

theorem writeRefusal_of_chunk {chunk : List UInt8}
    (h : ownedWriterChunk lib.tryReserve data s = .ok chunk) :
    writeRefusal lib.tryReserve data s = leaseRefusal s := by
  unfold writeRefusal
  rw [h]

/-- The chunk of a write that the checks let pass. -/
theorem exists_chunk (h : writeRefusal lib.tryReserve data s = none) :
    ∃ chunk, ownedWriterChunk lib.tryReserve data s = .ok chunk ∧ leaseRefusal s = none := by
  cases hchunk : ownedWriterChunk lib.tryReserve data s with
  | error e =>
    unfold writeRefusal at h
    rw [hchunk] at h
    cases h
  | ok chunk => exact ⟨chunk, rfl, (writeRefusal_of_chunk hchunk).symm.trans h⟩

theorem write_refused (h : writeRefusal lib.tryReserve data s = some e) :
    writerWriteStart lib.tryReserve handle data s = (.error e, s) := by
  cases hchunk : ownedWriterChunk lib.tryReserve data s with
  | error e' =>
    unfold writeRefusal at h
    rw [hchunk] at h
    cases h
    exact Call.bind_apply_error (view_apply hchunk)
  | ok chunk =>
    rw [writeRefusal_of_chunk hchunk] at h
    rw [writerWriteStart_eq hchunk]
    exact start_error (reserve_refused h)

theorem write_not_open (h : writeRefusal lib.tryReserve data s = none)
    {state : WriterState W Metadata} (hget : s.arena.get? handle = some (.writer state))
    (hstate : leasedRefusal handle state = some e) :
    writerWriteStart lib.tryReserve handle data s = (.error e, s.allocated) := by
  obtain ⟨chunk, hchunk, hlease⟩ := exists_chunk h
  rw [writerWriteStart_eq hchunk]
  exact start_error (reserve_not_open hlease (writer_lookup.mpr hget) hstate)

theorem write_missing (h : writeRefusal lib.tryReserve data s = none)
    (hget : s.arena.get? handle = none) :
    writerWriteStart lib.tryReserve handle data s =
      (.error (.invalidHandle handle), s.allocated) := by
  obtain ⟨chunk, hchunk, hlease⟩ := exists_chunk h
  rw [writerWriteStart_eq hchunk]
  exact start_error (reserve_missing hlease (writer_lookup_none hget))

theorem write_begun (hvalid : s.arena.Valid) (h : writeRefusal lib.tryReserve data s = none)
    {inner : W} {previous : UInt64}
    (hget : s.arena.get? handle = some (.writer (.open inner previous))) :
    ∃ chunk, ownedWriterChunk lib.tryReserve data s = .ok chunk ∧
      Begun handle (.writerWrite inner chunk) s
        (handleReply s (writerWriteStart lib.tryReserve handle data)) := by
  obtain ⟨chunk, hchunk, hlease⟩ := exists_chunk h
  refine ⟨chunk, hchunk, ?_⟩
  unfold handleReply handleOrRecordError valueOr
  rw [writerWriteStart_eq hchunk]
  exact start_open hvalid hlease hget _

/-! ### Finishes and aborts -/

/-- The future that repeats an outcome. -/
def WriterStart.repeats : WriterStart → WriterState W Metadata → Option (Future O S W L)
  | .finish, .terminal (.finished metadata) => some (.writerFinished metadata)
  | .abort, .terminal .aborted => some .writerAborted
  | _, _ => none

/-- The future of a finish or an abort. -/
def WriterStart.ending : WriterStart → Option (W → Future O S W L)
  | .finish => some .writerFinish
  | .abort => some .writerAbort
  | .write _ => none

variable {start : WriterStart} {future : W → Future O S W L} {state : WriterState W Metadata}

attribute [local simp] WriterStart.ending

/-- A finish and an abort look at the writer first. -/
theorem ending_not_open (hstart : (start.ending : Option (W → Future O S W L)) = some future)
    (hget : s.arena.get? handle = some (.writer state))
    (hrepeats : (start.repeats state : Option (Future O S W L)) = none)
    (hstate : leasedRefusal handle state = some e) :
    (start.export handle).run s lib = (.handle 0, recordError e s) := by
  have hview := view_apply (f := fun s => Lender.writer.lookup s.arena handle)
    (writer_lookup.mpr hget)
  cases start with
  | write data => cases hstart
  | finish =>
    apply handleReply_error
    unfold writerFinishStart
    rw [Call.bind_apply_ok hview]
    cases state with
    | «open» inner previous => cases hstate
    | busy operation =>
      cases hstate
      rfl
    | terminal outcome =>
      cases hstate
      cases outcome with
      | finished metadata => cases hrepeats
      | aborted => rfl
      | failed => rfl
  | abort =>
    apply handleReply_error
    unfold writerAbortStart
    rw [Call.bind_apply_ok hview]
    cases state with
    | «open» inner previous => cases hstate
    | busy operation =>
      cases hstate
      rfl
    | terminal outcome =>
      cases hstate
      cases outcome with
      | finished metadata => rfl
      | aborted => cases hrepeats
      | failed => rfl

theorem ending_missing (hstart : (start.ending : Option (W → Future O S W L)) = some future)
    (hget : s.arena.get? handle = none) :
    (start.export handle).run s lib = (.handle 0, recordError (.invalidHandle handle) s) := by
  have hview := view_apply (f := fun s => Lender.writer.lookup s.arena handle)
    (writer_lookup_none hget)
  cases start with
  | write data => cases hstart
  | finish => exact handleReply_error (Call.bind_apply_error hview)
  | abort => exact handleReply_error (Call.bind_apply_error hview)

theorem ending_open (hstart : (start.ending : Option (W → Future O S W L)) = some future)
    {inner : W} {previous : UInt64}
    (hget : s.arena.get? handle = some (.writer (.open inner previous))) :
    (start.export handle).run s lib = handleReply s (Lender.writer.start handle future) := by
  have hview := view_apply (f := fun s => Lender.writer.lookup s.arena handle)
    (writer_lookup.mpr hget)
  cases start with
  | write data => cases hstart
  | finish =>
    cases hstart
    show handleReply s (writerFinishStart handle) = _
    unfold handleReply handleOrRecordError valueOr writerFinishStart
    rw [Call.bind_apply_ok hview]
  | abort =>
    cases hstart
    show handleReply s (writerAbortStart handle) = _
    unfold handleReply handleOrRecordError valueOr writerAbortStart
    rw [Call.bind_apply_ok hview]

theorem ending_refused (hstart : (start.ending : Option (W → Future O S W L)) = some future)
    {inner : W} {previous : UInt64}
    (hget : s.arena.get? handle = some (.writer (.open inner previous)))
    (h : leaseRefusal s = some e) :
    (start.export handle).run s lib = (.handle 0, recordError e s) := by
  rw [ending_open hstart hget]
  exact handleReply_error (start_error (reserve_refused h))

theorem ending_begun (hstart : (start.ending : Option (W → Future O S W L)) = some future)
    (hvalid : s.arena.Valid) {inner : W} {previous : UInt64}
    (hget : s.arena.get? handle = some (.writer (.open inner previous)))
    (h : leaseRefusal s = none) :
    Begun handle (future inner) s ((start.export handle).run s lib) := by
  rw [ending_open hstart hget]
  exact start_open hvalid h hget future

/-! ### Repeated outcomes -/

variable {answer : Future O S W L}

attribute [local simp] WriterStart.repeats

theorem startTask_refused (hvalid : s.arena.Valid) (h : taskRefusal s = some e) :
    startTask answer s = (.error e, s) := by
  unfold taskRefusal at h
  apply Call.bind_apply_error
  unfold onStore Store.insertResource
  split_ifs at h with htorn hfull
  · cases h
    rw [if_pos htorn]
  · cases h
    rw [if_neg htorn]
    obtain ⟨error, arena, hinsert⟩ :=
      (insert_fails_iff hvalid (.task (.pending none))).mpr hfull
    obtain ⟨rfl, rfl⟩ := insert_error hinsert
    rw [hinsert]

theorem startTask_spawned (hvalid : s.arena.Valid) (h : taskRefusal s = none) :
    ∃ task arena, s.arena.insert (.task (.pending none)) = (.ok task, arena) ∧
      startTask answer s =
        (.ok task, ({ s with arena } : BridgeState O S W L).spawn task none answer) := by
  unfold taskRefusal at h
  split_ifs at h with htorn hfull
  obtain ⟨task, arena, hinsert⟩ :=
    insert_of_canInsert hvalid (by simpa using hfull) (.task (.pending none))
  refine ⟨task, arena, hinsert, ?_⟩
  have hstore : onStore (Store.insertResource (.task (.pending none))) s =
      (.ok task, { s with arena }) := by
    unfold onStore Store.insertResource
    rw [if_neg htorn, hinsert]
  unfold startTask
  rw [Call.bind_apply_ok hstore]
  rfl

/-- A repeated finish or abort takes what it answers from the state of the writer. -/
theorem ending_repeats (hget : s.arena.get? handle = some (.writer state))
    (hrepeats : start.repeats state = some answer) :
    (start.export handle).run s lib = handleReply s (startTask answer) := by
  have hview := view_apply (f := fun s => Lender.writer.lookup s.arena handle)
    (writer_lookup.mpr hget)
  unfold WriterStart.repeats at hrepeats
  split at hrepeats
  · cases hrepeats
    show handleReply s (writerFinishStart handle) = _
    unfold handleReply handleOrRecordError valueOr writerFinishStart
    rw [Call.bind_apply_ok hview]
  · cases hrepeats
    show handleReply s (writerAbortStart handle) = _
    unfold handleReply handleOrRecordError valueOr writerAbortStart
    rw [Call.bind_apply_ok hview]
  · cases hrepeats

/-! ### The four ways a start ends -/

/-- What the state of the writer says to a start. -/
inductive Verdict (O S W L : Type) where
  | refuse (e : BridgeError)
  | lend (writer : W)
  | repeats (answer : Future O S W L)

variable (handle) in
def WriterStart.verdict : WriterStart → Option (WriterState W Metadata) → Verdict O S W L
  | _, none => .refuse (.invalidHandle handle)
  | _, some (.open inner _) => .lend inner
  | _, some (.busy _) => .refuse (.resourceBusy handle)
  | start, some (.terminal outcome) =>
    match start.repeats (.terminal outcome) with
    | some answer => .repeats answer
    | none => .refuse (.resourceClosed handle)

/-- The checks before the state of the writer decides. -/
def WriterStart.early (lib : Library O) (s : BridgeState O S W L) :
    WriterStart → Verdict O S W L → Option BridgeError
  | .write data, _ => writeRefusal lib.tryReserve data s
  | _, .refuse _ => none
  | _, .lend _ => leaseRefusal s
  | _, .repeats _ => taskRefusal s

def WriterStart.calls : WriterStart → InnerCall → Bool
  | .write _, .write _ | .finish, .close | .abort, .abort => true
  | _, _ => false

variable {inner : W} {held : Option (WriterState W Metadata)}

theorem repeats_open {previous : UInt64} :
    (start.repeats (.open inner previous) : Option (Future O S W L)) = none := by
  cases start <;> rfl

theorem repeats_busy {operation : UInt64} :
    (start.repeats (.busy operation : WriterState W Metadata) : Option (Future O S W L)) =
      none := by
  cases start <;> rfl

attribute [local simp] WriterStart.verdict

theorem verdict_refuse (h : (start.verdict handle held : Verdict O S W L) = .refuse e) :
    held = none ∧ e = .invalidHandle handle ∨
      ∃ state, held = some state ∧ (start.repeats state : Option (Future O S W L)) = none ∧
        leasedRefusal handle state = some e := by
  cases held with
  | none =>
    cases h
    exact .inl ⟨rfl, rfl⟩
  | some state =>
    refine .inr ⟨state, rfl, ?_⟩
    cases state with
    | «open» inner previous => cases h
    | busy operation =>
      cases h
      exact ⟨repeats_busy, rfl⟩
    | terminal outcome =>
      unfold WriterStart.verdict at h
      dsimp only at h
      split at h
      · cases h
      · rename_i hrepeats
        cases h
        exact ⟨hrepeats, rfl⟩

theorem verdict_lend (h : (start.verdict handle held : Verdict O S W L) = .lend inner) :
    ∃ previous, held = some (.open inner previous) := by
  cases held with
  | none => cases h
  | some state =>
    cases state with
    | «open» inner' previous =>
      cases h
      exact ⟨previous, rfl⟩
    | busy operation => cases h
    | terminal outcome =>
      unfold WriterStart.verdict at h
      dsimp only at h
      split at h <;> cases h

theorem verdict_repeats (h : start.verdict handle held = .repeats answer) :
    ∃ state, held = some state ∧ start.repeats state = some answer := by
  cases held with
  | none => cases h
  | some state =>
    refine ⟨state, rfl, ?_⟩
    cases state with
    | «open» inner previous => cases h
    | busy operation => cases h
    | terminal outcome =>
      unfold WriterStart.verdict at h
      dsimp only at h
      split at h
      · rename_i hrepeats
        cases h
        exact hrepeats
      · cases h

section Ends

variable (hget : s.arena.get? handle = held.map .writer)
include hget

theorem start_refused
    (hearly : start.early lib s (start.verdict handle held : Verdict O S W L) = none)
    (h : (start.verdict handle held : Verdict O S W L) = .refuse e) :
    ∃ s', (s' = s ∨ s' = s.allocated) ∧
      (start.export handle).run s lib = (.handle 0, recordError e s') := by
  rcases verdict_refuse h with ⟨rfl, rfl⟩ | ⟨state, rfl, hrepeats, hstate⟩
  · cases start with
    | write data => exact ⟨_, .inr rfl, handleReply_error (write_missing hearly hget)⟩
    | finish => exact ⟨s, .inl rfl, ending_missing rfl hget⟩
    | abort => exact ⟨s, .inl rfl, ending_missing rfl hget⟩
  · cases start with
    | write data =>
      exact ⟨_, .inr rfl, handleReply_error (write_not_open hearly hget hstate)⟩
    | finish => exact ⟨s, .inl rfl, ending_not_open rfl hget hrepeats hstate⟩
    | abort => exact ⟨s, .inl rfl, ending_not_open rfl hget hrepeats hstate⟩

theorem ending_early (hstart : (start.ending : Option (W → Future O S W L)) = some future)
    (hvalid : s.arena.Valid)
    (h : start.early lib s (start.verdict handle held : Verdict O S W L) = some e) :
    (start.export handle).run s lib = (.handle 0, recordError e s) := by
  have hearly : ∀ verdict : Verdict O S W L, start.early lib s verdict =
      match verdict with
      | .refuse _ => none
      | .lend _ => leaseRefusal s
      | .repeats _ => taskRefusal s := by
    intro verdict
    cases start with
    | write data => cases hstart
    | finish => cases verdict <;> rfl
    | abort => cases verdict <;> rfl
  rw [hearly] at h
  cases hverdict : (start.verdict handle held : Verdict O S W L) with
  | refuse e' =>
    rw [hverdict] at h
    cases h
  | lend inner =>
    rw [hverdict] at h
    obtain ⟨previous, rfl⟩ := verdict_lend hverdict
    exact ending_refused hstart hget h
  | repeats answer =>
    rw [hverdict] at h
    obtain ⟨state, rfl, hrepeats⟩ := verdict_repeats hverdict
    rw [ending_repeats hget hrepeats]
    exact handleReply_error (startTask_refused hvalid h)

theorem start_early (hvalid : s.arena.Valid)
    (h : start.early lib s (start.verdict handle held : Verdict O S W L) = some e) :
    (start.export handle).run s lib = (.handle 0, recordError e s) := by
  cases start with
  | write data => exact handleReply_error (write_refused h)
  | finish => exact ending_early hget rfl hvalid h
  | abort => exact ending_early hget rfl hvalid h

theorem start_lent (hvalid : s.arena.Valid)
    (hearly : start.early lib s (start.verdict handle held : Verdict O S W L) = none)
    (h : (start.verdict handle held : Verdict O S W L) = .lend inner) :
    ∃ (future : Future O S W L) (call : InnerCall),
      future.innerCall = some (inner, call) ∧ start.calls call = true ∧
        Begun handle future s ((start.export handle).run s lib) := by
  rw [h] at hearly
  obtain ⟨previous, rfl⟩ := verdict_lend h
  cases start with
  | write data =>
    obtain ⟨chunk, -, hbegun⟩ := write_begun hvalid hearly hget
    exact ⟨_, _, rfl, rfl, hbegun⟩
  | finish => exact ⟨_, _, rfl, rfl, ending_begun rfl hvalid hget hearly⟩
  | abort => exact ⟨_, _, rfl, rfl, ending_begun rfl hvalid hget hearly⟩

theorem start_repeated (hvalid : s.arena.Valid)
    (hearly : start.early lib s (start.verdict handle held : Verdict O S W L) = none)
    (h : start.verdict handle held = .repeats answer) :
    ∃ task arena, s.arena.insert (.task (.pending none)) = (.ok task, arena) ∧
      (start.export handle).run s lib =
        (.handle task, ({ s with arena } : BridgeState O S W L).spawn task none answer) := by
  rw [h] at hearly
  obtain ⟨state, rfl, hrepeats⟩ := verdict_repeats h
  have htask : taskRefusal s = none := by
    cases start with
    | write data => cases hrepeats
    | finish => exact hearly
    | abort => exact hearly
  obtain ⟨task, arena, hinsert, hstart⟩ := @startTask_spawned _ _ _ _ s answer hvalid htask
  refine ⟨task, arena, hinsert, ?_⟩
  rw [ending_repeats hget hrepeats]
  exact handleReply_ok hstart

end Ends

end Starts

end OpendalMbt.Bridge
