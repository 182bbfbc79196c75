import OpendalMbt.Bridge.Exports

/-!
# Permanent teardown

After `opendal_mbt_wasm_teardown` the arena of the bridge is empty. An insertion is refused by
the flag of the instance or, where the flag is not read, by the lookup that has to come first:
nothing is found in an empty arena.

* `Refused`: a call fails and leaves the instance torn down; `Refused.bind` and `Refused.last`
  are the two ways in which a sequence is refused.
* `quiet_run`: every export, whatever its arguments.
* `teardown_permanent`: every run after a teardown.
-/

namespace OpendalMbt.Bridge

open Transition

variable {O S W L : Type} {α β : Type}

/-- `t` is the state `s` after its teardown, up to the last error and the canary. -/
structure TornDown (s t : BridgeState O S W L) : Prop where
  tornDown : t.tornDown = true
  arena : t.arena = {}
  operation : t.nextResourceOperation = s.nextResourceOperation
  spawned : t.spawned = s.spawned

/-- No handle is given out, no pointer, and no call traps. -/
def Reply.Quiet : Reply → Prop
  | .handle value => value = 0
  | .window bytes => bytes = none
  | .count value => value = 0
  | .trap => False
  | .code _ | .signed _ | .word _ => True

section Rules

variable {s t : BridgeState O S W L} {x : BridgeCall O S W L α}
  {f : α → BridgeCall O S W L β}

theorem tornDown_teardownBridge (s : BridgeState O S W L) : TornDown s (teardownBridge s) :=
  ⟨rfl, rfl, rfl, rfl⟩

theorem TornDown.record (h : TornDown s t) (e : Option BridgeError) :
    TornDown s { t with lastError := e } :=
  ⟨h.tornDown, h.arena, h.operation, h.spawned⟩

/-- The call keeps what a teardown leaves. -/
def Harmless (s : BridgeState O S W L) (x : BridgeCall O S W L α) : Prop :=
  Call.Follows (fun t u => TornDown s t → TornDown s u) x

/-- The call fails besides. -/
def Refused (s : BridgeState O S W L) (x : BridgeCall O S W L α) : Prop :=
  ∀ t, TornDown s t → (∃ e, (x t).1 = .error e) ∧ TornDown s (x t).2

theorem Refused.harmless (h : Refused s x) : Harmless s x := fun t ht => (h t ht).2

theorem Harmless.bind (hx : Harmless s x) (hf : ∀ a, Harmless s (f a)) : Harmless s (x >>= f) :=
  Call.Follows.bind (fun _ _ _ h₁ h₂ h => h₂ (h₁ h)) hx hf

theorem harmless_pure (a : α) : Harmless s (pure a : BridgeCall O S W L α) := fun _ ht => ht

theorem harmless_view (f : BridgeState O S W L → Except BridgeError α) : Harmless s (view f) :=
  fun _ ht => ht

theorem harmless_ofExcept (result : Except BridgeError α) :
    Harmless s (ofExcept result : BridgeCall O S W L α) := fun _ ht => ht

/-- What fails first decides. -/
theorem Refused.bind (hx : Refused s x) : Refused s (x >>= f) := by
  intro t ht
  obtain ⟨⟨e, he⟩, hstate⟩ := hx t ht
  have hrun : (x >>= f) t = (.error e, (x t).2) := Call.bind_apply_error (Prod.ext he rfl)
  rw [hrun]
  exact ⟨⟨e, rfl⟩, hstate⟩

theorem Refused.last (hx : Harmless s x) (hf : ∀ a, Refused s (f a)) : Refused s (x >>= f) := by
  intro t ht
  have hstate := hx t ht
  cases hrun : x t with
  | mk result u =>
    rw [hrun] at hstate
    cases result with
    | error e =>
      rw [Call.bind_apply_error hrun]
      exact ⟨⟨e, rfl⟩, hstate⟩
    | ok a =>
      rw [Call.bind_apply_ok hrun]
      exact hf a u hstate

theorem refused_throw (e : BridgeError) : Refused s (Call.throw e : BridgeCall O S W L α) :=
  fun _ ht => ⟨⟨e, rfl⟩, ht⟩

theorem refused_view {f : BridgeState O S W L → Except BridgeError α}
    (hf : ∀ t, t.arena = {} → ∃ e, f t = .error e) : Refused s (view f) :=
  fun t ht => ⟨hf t ht.arena, ht⟩

end Rules

/-! ## Lookups -/

section Lookups

theorem resource_empty (handle : UInt32) :
    ∃ e, ({} : Arena (OwnedResource O S W L)).resource handle = .error e := by
  unfold Arena.resource
  split
  · exact ⟨_, rfl⟩
  · exact ⟨_, rfl⟩

theorem borrow_empty {a : Arena (OwnedResource O S W L)} (h : a = {}) (handle : UInt32)
    (expected : ResourceKind) (select : OwnedResource O S W L → Option α) :
    ∃ e, a.borrow handle expected select = .error e := by
  obtain ⟨e, he⟩ := resource_empty (O := O) (S := S) (W := W) (L := L) handle
  refine ⟨e, ?_⟩
  unfold Arena.borrow
  rw [h, he]

end Lookups

/-! ## The store -/

/-- The function of the store fails once the instance is torn down. -/
def Refuses (f : Store O S W L → Except BridgeError α × Store O S W L) : Prop :=
  ∀ s : Store O S W L, s.tornDown = true → s.arena = {} →
    (∃ e, (f s).1 = .error e) ∧ (f s).2.tornDown = true ∧ (f s).2.arena = {}

section Refuses

variable {s : BridgeState O S W L}
  {f : Store O S W L → Except BridgeError α × Store O S W L}

theorem Refuses.refused (hf : Refuses f) : Refused s (onStore f) := by
  intro t ht
  obtain ⟨herror, hdown, harena⟩ := hf t.toStore ht.tornDown ht.arena
  exact ⟨herror, hdown, harena, ht.operation, ht.spawned⟩

/-- The functions that fail without a change, up to the last error. -/
theorem refuses_of_recorded (hf : ∀ s : Store O S W L, s.tornDown = true → s.arena = {} →
    ∃ e, f s = (.error e, s)) : Refuses (fun s => Store.recorded (f s)) := by
  intro s hdown harena
  obtain ⟨e, he⟩ := hf s hdown harena
  simp only [he]
  exact ⟨⟨e, rfl⟩, hdown, harena⟩

theorem insertResource_tornDown {s : Store O S W L} (hdown : s.tornDown = true)
    (r : OwnedResource O S W L) : Store.insertResource r s = (.error .tornDown, s) := by
  unfold Store.insertResource
  rw [if_pos hdown]

theorem insertBuffer_tornDown {s : Store O S W L} (hdown : s.tornDown = true)
    (bytes : List UInt8) : ∃ e, Store.insertBuffer bytes s = (.error e, s) := by
  unfold Store.insertBuffer
  split
  · exact ⟨_, rfl⟩
  · exact ⟨_, insertResource_tornDown hdown _⟩

theorem refuses_insertResource (r : OwnedResource O S W L) : Refuses (Store.insertResource r) := by
  intro s hdown harena
  rw [insertResource_tornDown hdown]
  exact ⟨⟨_, rfl⟩, hdown, harena⟩

theorem refuses_insertBuffer (bytes : List UInt8) :
    Refuses (Store.insertBuffer (O := O) (S := S) (W := W) (L := L) bytes) := by
  intro s hdown harena
  obtain ⟨e, he⟩ := insertBuffer_tornDown hdown bytes
  rw [he]
  exact ⟨⟨e, rfl⟩, hdown, harena⟩

theorem refuses_bufferNewSized (tryReserve : Nat → Bool) (length : Nat) :
    Refuses (Store.bufferNewSized (O := O) (S := S) (W := W) (L := L) tryReserve length) := by
  apply refuses_of_recorded
  intro s hdown _
  split
  · exact ⟨_, rfl⟩
  split
  · exact insertBuffer_tornDown hdown _
  · exact ⟨_, rfl⟩

theorem refuses_bufferLen (handle : UInt32) :
    Refuses (Store.bufferLen (O := O) (S := S) (W := W) (L := L) handle) := by
  apply refuses_of_recorded
  intro s _ harena
  obtain ⟨e, he⟩ := borrow_empty harena handle .buffer OwnedResource.buffer?
  simp only [Arena.buffer, he]
  exact ⟨e, rfl⟩

theorem refuses_bufferDataPtr (handle : UInt32) (offset length : Nat) :
    Refuses (Store.bufferDataPtr (O := O) (S := S) (W := W) (L := L) handle offset length) := by
  apply refuses_of_recorded
  intro s _ harena
  obtain ⟨e, he⟩ := borrow_empty harena handle .buffer OwnedResource.buffer?
  simp only [Arena.buffer, he]
  exact ⟨e, rfl⟩

theorem refuses_operatorInfoBuffer (info : O → OperatorInfo) (handle : UInt32)
    (select : OperatorInfo → String) :
    Refuses (Store.operatorInfoBuffer (S := S) (W := W) (L := L) info handle select) := by
  apply refuses_of_recorded
  intro s _ harena
  obtain ⟨e, he⟩ := borrow_empty harena handle .operator OwnedResource.operator?
  simp only [Arena.operator, he]
  exact ⟨e, rfl⟩

theorem refuses_entryListLen (handle : UInt32) :
    Refuses (Store.entryListLen (O := O) (S := S) (W := W) (L := L) handle) := by
  apply refuses_of_recorded
  intro s _ harena
  obtain ⟨e, he⟩ := borrow_empty harena handle .entryList OwnedResource.entryList?
  simp only [Arena.entryList, he]
  exact ⟨e, rfl⟩

theorem refuses_entryListText (handle : UInt32) (tryReserve : Nat → Bool) (index : UInt32)
    (path : Bool) :
    Refuses (Store.entryListText (O := O) (S := S) (W := W) (L := L) handle tryReserve index
      path) := by
  apply refuses_of_recorded
  intro s _ harena
  obtain ⟨e, he⟩ := borrow_empty harena handle .entryList OwnedResource.entryList?
  simp only [Arena.entryList, he]
  exact ⟨e, rfl⟩

theorem refuses_releaseResource (handle : UInt32) (kind : ResourceKind) :
    Refuses (Store.releaseResource (O := O) (S := S) (W := W) (L := L) handle kind) := by
  apply refuses_of_recorded
  intro s _ harena
  rcases Arena.take_cases s.arena handle kind with ⟨i, g, r, -, hslot, -⟩ | ⟨e, he⟩
  · rw [harena] at hslot
    cases hslot
  · refine ⟨e, ?_⟩
    simp only [Arena.release, he]
    rfl

end Refuses

/-! ## The calls -/

section Calls

variable {s : BridgeState O S W L} (lib : Library O)

theorem refused_operator (handle : UInt32) :
    Refused s (view (·.arena.operator handle) : BridgeCall O S W L O) := by
  apply refused_view
  intro t ht
  exact borrow_empty ht handle .operator _

theorem refused_operatorBuilder (handle : UInt32) :
    Refused s (view (·.arena.operatorBuilder handle)) := by
  apply refused_view
  intro t ht
  exact borrow_empty ht handle .operatorBuilder _

theorem refused_error (handle : UInt32) : Refused s (view (·.arena.error handle)) := by
  apply refused_view
  intro t ht
  exact borrow_empty ht handle .error _

theorem refused_lender {I T : Type} (F : Lender O S W L I T) (handle : UInt32) :
    Refused s (view (F.lookup ·.arena handle)) := by
  apply refused_view
  intro t ht
  exact borrow_empty ht handle F.kind F.unwrap

theorem refused_ownedUtf8Buffer (tryReserve : Nat → Bool) (handle : UInt32) :
    Refused s (view (ownedUtf8Buffer tryReserve handle)) := by
  apply refused_view
  intro t ht
  obtain ⟨e, he⟩ := borrow_empty ht handle .buffer OwnedResource.buffer?
  refine ⟨e, ?_⟩
  simp only [ownedUtf8Buffer, Arena.buffer, he]

theorem refused_ownedWriterChunk (tryReserve : Nat → Bool) (handle : UInt32) :
    Refused s (view (ownedWriterChunk tryReserve handle)) := by
  apply refused_view
  intro t ht
  obtain ⟨e, he⟩ := borrow_empty ht handle .buffer OwnedResource.buffer?
  refine ⟨e, ?_⟩
  simp only [ownedWriterChunk, Arena.buffer, he]

theorem refused_pathAndOperator (tryReserve : Nat → Bool) (operatorHandle pathHandle : UInt32) :
    Refused s (pathAndOperator tryReserve operatorHandle pathHandle) :=
  (refused_operator operatorHandle).bind

theorem refused_endsAndOperator (operatorHandle pathHandle toHandle : UInt32) :
    Refused s (endsAndOperator lib operatorHandle pathHandle toHandle) :=
  (refused_pathAndOperator _ _ _).bind

theorem refused_startTask (future : Future O S W L) : Refused s (startTask future) :=
  (refuses_insertResource _).refused.bind

theorem harmless_writeOptionsFromScalars (tryReserve : Nat → Bool) (scalars : WriteScalars) :
    Harmless s (writeOptionsFromScalars tryReserve scalars) := by
  apply (harmless_ofExcept _).bind
  intro append
  repeat
    apply (harmless_view _).bind
    intro text
  exact harmless_pure _

theorem harmless_statOptionsFromScalars (tryReserve : Nat → Bool) (texts : ReadTexts) :
    Harmless s (statOptionsFromScalars tryReserve texts) := by
  repeat
    apply (harmless_view _).bind
    intro text
  exact harmless_pure _

theorem refused_listInputs (operatorHandle pathHandle : UInt32) (scalars : ListScalars) :
    Refused s (listInputs lib operatorHandle pathHandle scalars) := by
  apply Refused.last (harmless_ofExcept _)
  intro recursive
  apply Refused.last (harmless_ofExcept _)
  intro limit
  exact (refused_pathAndOperator _ _ _).bind

theorem refused_startReadTask (operatorHandle pathHandle : UInt32)
    (options : ReadOptions BytesRange) :
    Refused s (startReadTask lib operatorHandle pathHandle options) :=
  (refused_pathAndOperator _ _ _).bind

theorem refused_startWriteTask (operatorHandle pathHandle dataHandle : UInt32)
    (options : WriteOptions) :
    Refused s (startWriteTask lib operatorHandle pathHandle dataHandle options) :=
  (refused_pathAndOperator _ _ _).bind

theorem refused_startDeleteTask (operatorHandle pathHandle versionHandle recursive : UInt32) :
    Refused s (startDeleteTask lib operatorHandle pathHandle versionHandle recursive) := by
  apply Refused.last (harmless_ofExcept _)
  intro flag
  exact (refused_pathAndOperator _ _ _).bind

/-- The options fail by themselves or the start does. -/
theorem refused_operatorReadOptionsStart (operatorHandle pathHandle : UInt32)
    (range : RangeScalars) (texts : ReadTexts) :
    Refused s (operatorReadOptionsStart BytesRange.api texts range
      (optionalOwnedUtf8Buffer lib.tryReserve) (startReadTask lib operatorHandle pathHandle)) := by
  intro t ht
  unfold operatorReadOptionsStart
  split
  · exact ⟨⟨_, rfl⟩, ht⟩
  · exact refused_startReadTask lib operatorHandle pathHandle _ t ht

theorem refused_operatorReadStreamStart (operatorHandle pathHandle chunkSize : UInt32)
    (range : RangeScalars) (texts : ReadTexts) :
    Refused s (operatorReadStreamStart BytesRange.api texts range
      (optionalOwnedUtf8Buffer lib.tryReserve) (startReadStream lib operatorHandle pathHandle)
      chunkSize) := by
  intro t ht
  unfold operatorReadStreamStart
  split
  · exact ⟨⟨_, rfl⟩, ht⟩
  · exact (refused_pathAndOperator _ _ _).bind t ht

theorem refused_reserve {I T : Type} (F : Lender O S W L I T) (handle : UInt32) :
    Refused s (F.reserve handle) := by
  intro t ht
  unfold Lender.reserve
  rw [if_pos ht.tornDown]
  exact ⟨⟨_, rfl⟩, ht⟩

theorem refused_start {I T : Type} (F : Lender O S W L I T) (handle : UInt32)
    (future : I → Future O S W L) : Refused s (F.start handle future) :=
  (refused_reserve F handle).bind

theorem refused_operatorNewMemory : Refused s (operatorNewMemory lib) := by
  apply Refused.last (harmless_ofExcept _)
  intro operator
  exact (refuses_insertResource _).refused

/-- Nothing of a task can be changed without its task. -/
theorem refused_ownedTaskCancel (handle : UInt32) : Refused s (ownedTaskCancel handle) := by
  intro t ht
  obtain ⟨e, he⟩ := borrow_empty ht.arena handle .task OwnedResource.task?
  simp only [ownedTaskCancel, Arena.ownedTask, he]
  exact ⟨⟨e, rfl⟩, ht⟩

theorem refused_ownedTaskRelease (handle : UInt32) : Refused s (ownedTaskRelease handle) := by
  intro t ht
  obtain ⟨e, he⟩ := borrow_empty ht.arena handle .task OwnedResource.task?
  simp only [ownedTaskRelease, Arena.ownedTask, he]
  exact ⟨⟨e, rfl⟩, ht⟩

theorem refused_bufferPush (handle value : UInt32) : Refused s (bufferPush handle value) := by
  intro t ht
  obtain ⟨e, he⟩ := borrow_empty ht.arena handle .buffer OwnedResource.buffer?
  simp only [bufferPush, Arena.buffer, he]
  exact ⟨⟨e, rfl⟩, ht⟩

theorem harmless_setForcePending (enabled : UInt32) :
    Harmless s (setForcePending enabled : BridgeCall O S W L Unit) := by
  apply (harmless_ofExcept _).bind
  intro flag t ht
  exact ⟨ht.tornDown, ht.arena, ht.operation, ht.spawned⟩

end Calls

/-! ## Replies -/

/-- The reply of a call after a teardown, and what it leaves. -/
def QuietStep (s : BridgeState O S W L) (out : Reply × BridgeState O S W L) : Prop :=
  out.1.Quiet ∧ TornDown s out.2

section Replies

variable {s t : BridgeState O S W L}

theorem tornDown_valueOr {x : BridgeCall O S W L α} (failed : BridgeError → α)
    (hx : Harmless s x) (ht : TornDown s t) : TornDown s (valueOr failed x t).2 := by
  have hstate := hx t ht
  unfold valueOr
  cases hrun : x t with
  | mk result u =>
    rw [hrun] at hstate
    cases result with
    | error e => exact hstate.record (some e)
    | ok value => exact hstate

theorem valueOr_of_refused {x : BridgeCall O S W L α} (failed : BridgeError → α)
    (hx : Refused s x) (ht : TornDown s t) :
    ∃ e, valueOr failed x t = (failed e, recordError e (x t).2) := by
  obtain ⟨⟨e, he⟩, -⟩ := hx t ht
  refine ⟨e, ?_⟩
  unfold valueOr
  have hrun : x t = (.error e, (x t).2) := Prod.ext he rfl
  rw [hrun]

theorem quiet_handleReply {x : BridgeCall O S W L UInt32} (hx : Refused s x)
    (ht : TornDown s t) : QuietStep s (handleReply t x) := by
  obtain ⟨e, he⟩ := valueOr_of_refused (fun _ => 0) hx ht
  refine ⟨?_, tornDown_valueOr _ hx.harmless ht⟩
  show (valueOr (fun _ => 0) x t).1 = 0
  rw [he]

theorem quiet_windowReply {x : BridgeCall O S W L (List UInt8)} (hx : Refused s x)
    (ht : TornDown s t) : QuietStep s (windowReply t x) := by
  have hsome : Refused s (x >>= fun bytes => pure (some bytes)) := hx.bind
  obtain ⟨e, he⟩ := valueOr_of_refused (fun _ => none) hsome ht
  refine ⟨?_, tornDown_valueOr (fun _ => none) hsome.harmless ht⟩
  show (valueOr (fun _ => none) (x >>= fun bytes => pure (some bytes)) t).1 = none
  rw [he]

theorem quiet_statusReply {x : BridgeCall O S W L Unit} (hx : Harmless s x)
    (ht : TornDown s t) : QuietStep s (statusReply t x) := by
  have hcode : Harmless s (x >>= fun _ => pure (0 : UInt32)) := hx.bind fun _ => harmless_pure 0
  exact ⟨trivial, tornDown_valueOr BridgeError.code hcode ht⟩

theorem quiet_signedReply {x : BridgeCall O S W L Int} (hx : Harmless s x)
    (ht : TornDown s t) : QuietStep s (signedReply t x) :=
  ⟨trivial, tornDown_valueOr _ hx ht⟩

theorem quiet_codeReply {x : BridgeCall O S W L UInt32} (failed : BridgeError → UInt32)
    (hx : Harmless s x) (ht : TornDown s t) : QuietStep s (codeReply t failed x) :=
  ⟨trivial, tornDown_valueOr _ hx ht⟩

theorem quiet_wordReply {x : BridgeCall O S W L Nat} (hx : Harmless s x)
    (ht : TornDown s t) : QuietStep s (wordReply t x) :=
  ⟨trivial, tornDown_valueOr _ hx ht⟩

theorem quiet_releaseReply (handle : UInt32) (kind : ResourceKind) (ht : TornDown s t) :
    QuietStep s (releaseReply t handle kind) :=
  quiet_statusReply (refuses_releaseResource handle kind).refused.harmless ht

/-- A transfer moves what it finds at a handle: there is nothing to find. -/
theorem quiet_transferReply (tryReserve : Nat → Bool) (transfer : Transfer) (handle : UInt32)
    (ht : TornDown s t) : QuietStep s (transferReply t tryReserve transfer handle) := by
  have hvalid : t.toStore.Valid := by
    refine ⟨?_, fun _ => ht.arena⟩
    rw [ht.arena]
    exact Arena.valid_empty
  have hnone (r : OwnedResource O S W L) : t.toStore.arena.get? handle ≠ some r := by
    intro hget
    obtain ⟨e, he⟩ := resource_empty (O := O) (S := S) (W := W) (L := L) handle
    rw [ht.arena] at hget
    rw [Arena.get?_eq_some.mp hget] at he
    cases he
  have hatomic : Atomic (transfer.moves tryReserve) t.toStore handle
      (transfer.run tryReserve handle t.toStore) := Transfer.run_atomic hvalid transfer
  rcases hatomic with
    ⟨e, hout⟩ | ⟨r, left, payload, target, arena, hget, -⟩ | ⟨r, arena, hget, -⟩
  · unfold transferReply
    rw [hout]
    exact ⟨rfl, ht.record (some e)⟩
  · exact absurd hget (hnone r)
  · exact absurd hget (hnone r)

theorem refused_lastErrorTake (ht : TornDown s t) :
    QuietStep s (handleReply t (onStore Store.lastErrorTake)) := by
  have htaken : onStore Store.lastErrorTake t = (.ok 0, { t with lastError := none }) := by
    simp [onStore, Store.lastErrorTake, ht.tornDown, Store.recorded]
  unfold handleReply handleOrRecordError valueOr
  rw [htaken]
  exact ⟨rfl, ht.record none⟩

/-- The first buffer of the canary is refused. -/
theorem quiet_canaryStaleHandleRejected (ht : TornDown s t) :
    TornDown s (canaryStaleHandleRejected t).2 := by
  have hrefused : Refused s bufferNew := (refuses_insertBuffer []).refused
  obtain ⟨e, he⟩ := valueOr_of_refused (fun _ => 0) hrefused (ht.record none)
  have hstate := tornDown_valueOr (fun _ => 0) hrefused.harmless (ht.record none)
  rw [he] at hstate
  unfold canaryStaleHandleRejected handleOrRecordError clearLastError
  simp only [he]
  exact hstate

theorem tornDown_capabilityWord (info : O → OperatorInfo) (handle word : UInt32)
    (ht : TornDown s t) : TornDown s
      { t with toStore := (t.toStore.operatorInfoCapabilityWord info handle word).2 } := by
  obtain ⟨e, he⟩ := borrow_empty ht.arena handle .operator OwnedResource.operator?
  simp only [Store.operatorInfoCapabilityWord, Arena.operator, he]
  exact ht.record (some e)

end Replies

/-! ## Every export -/

theorem quiet_run {s t : BridgeState O S W L} (ht : TornDown s t) (lib : Library O)
    (called : Export) : QuietStep s (called.run t lib) := by
  cases called with
  | abiVersion => exact ⟨trivial, ht⟩
  | featureFlags => exact ⟨trivial, ht⟩
  | canaryForcedPendingPollCount => exact ⟨trivial, ht⟩
  | canarySetForcePending enabled => exact quiet_statusReply (harmless_setForcePending enabled) ht
  | liveHandleCount =>
    refine ⟨?_, ht⟩
    show t.arena.live = 0
    rw [ht.arena]
  | teardown => exact ⟨trivial, ⟨rfl, rfl, ht.operation, ht.spawned⟩⟩
  | canaryStaleHandleRejected => exact ⟨trivial, quiet_canaryStaleHandleRejected ht⟩
  | bufferNew => exact quiet_handleReply (refuses_insertBuffer []).refused ht
  | bufferNewSized length => exact quiet_handleReply (refuses_bufferNewSized _ _).refused ht
  | bufferPush handle value => exact quiet_statusReply (refused_bufferPush _ _).harmless ht
  | bufferLen handle =>
    exact quiet_signedReply (Refused.bind (refuses_bufferLen handle).refused).harmless ht
  | bufferGet handle index => exact quiet_signedReply (harmless_view _) ht
  | bufferDataPtr handle offset length =>
    exact quiet_windowReply (refuses_bufferDataPtr _ _ _).refused ht
  | operatorNewMemory => exact quiet_handleReply (refused_operatorNewMemory lib) ht
  | registeredSchemes => exact quiet_handleReply (refuses_insertBuffer _).refused ht
  | operatorBuilderNew scheme =>
    exact quiet_handleReply (refused_ownedUtf8Buffer _ _).bind ht
  | operatorBuilderSet builder key value =>
    exact quiet_statusReply (refused_ownedUtf8Buffer _ _).bind.harmless ht
  | operatorBuilderBuild builder => exact quiet_handleReply (refused_operatorBuilder _).bind ht
  | operatorInfoScheme handle =>
    exact quiet_handleReply (refuses_operatorInfoBuffer _ _ _).refused ht
  | operatorInfoRoot handle =>
    exact quiet_handleReply (refuses_operatorInfoBuffer _ _ _).refused ht
  | operatorInfoName handle =>
    exact quiet_handleReply (refuses_operatorInfoBuffer _ _ _).refused ht
  | operatorInfoCapabilityWord handle word =>
    exact ⟨trivial, tornDown_capabilityWord lib.info handle word ht⟩
  | operatorWrite operator path data =>
    exact quiet_statusReply (refused_pathAndOperator _ _ _).bind.harmless ht
  | operatorRead operator path => exact quiet_handleReply (refused_pathAndOperator _ _ _).bind ht
  | operatorStat operator path => exact quiet_handleReply (refused_pathAndOperator _ _ _).bind ht
  | operatorWriteStart operator path data =>
    exact quiet_handleReply (refused_startWriteTask lib _ _ _ _) ht
  | operatorWriteOptionsStart operator path data scalars =>
    refine quiet_handleReply (Refused.last (harmless_writeOptionsFromScalars _ _) ?_) ht
    intro options
    exact refused_startWriteTask lib _ _ _ _
  | operatorReadStart operator path =>
    exact quiet_handleReply (refused_startReadTask lib _ _ _) ht
  | operatorReadOptionsStart operator path range texts =>
    exact quiet_handleReply (refused_operatorReadOptionsStart lib _ _ _ _) ht
  | operatorStatStart operator path =>
    exact quiet_handleReply (refused_pathAndOperator _ _ _).bind ht
  | operatorStatOptionsStart operator path texts =>
    refine quiet_handleReply (Refused.last (harmless_statOptionsFromScalars _ _) ?_) ht
    intro options
    exact (refused_pathAndOperator _ _ _).bind
  | operatorCreateDirStart operator path =>
    exact quiet_handleReply (refused_pathAndOperator _ _ _).bind ht
  | operatorDeleteStart operator path version recursive =>
    exact quiet_handleReply (refused_startDeleteTask lib _ _ _ _) ht
  | operatorListStart operator path scalars =>
    exact quiet_handleReply (refused_listInputs lib _ _ _).bind ht
  | operatorCopyStart operator source target =>
    exact quiet_handleReply (refused_endsAndOperator lib _ _ _).bind ht
  | operatorRenameStart operator source target =>
    exact quiet_handleReply (refused_endsAndOperator lib _ _ _).bind ht
  | operatorReadStreamStart operator path chunkSize range texts =>
    exact quiet_handleReply (refused_operatorReadStreamStart lib _ _ _ _ _) ht
  | readStreamNextStart handle => exact quiet_handleReply (refused_start _ _ _) ht
  | operatorWriterStart operator path scalars =>
    refine quiet_handleReply (Refused.last (harmless_writeOptionsFromScalars _ _) ?_) ht
    intro options
    exact (refused_pathAndOperator _ _ _).bind
  | writerWriteStart writer data => exact quiet_handleReply (refused_ownedWriterChunk _ _).bind ht
  | writerFinishStart writer => exact quiet_handleReply (refused_lender _ _).bind ht
  | writerAbortStart writer => exact quiet_handleReply (refused_lender _ _).bind ht
  | operatorListerStart operator path scalars =>
    exact quiet_handleReply (refused_listInputs lib _ _ _).bind ht
  | listerNextStart handle => exact quiet_handleReply (refused_start _ _ _) ht
  | taskState handle => exact quiet_codeReply _ (harmless_view _) ht
  | taskTake handle => exact quiet_transferReply _ _ _ ht
  | taskCancel handle => exact quiet_statusReply (refused_ownedTaskCancel _).harmless ht
  | taskRelease handle => exact quiet_statusReply (refused_ownedTaskRelease _).harmless ht
  | completionKind handle => exact quiet_codeReply _ (harmless_view _) ht
  | completionStatus handle => exact quiet_codeReply _ (harmless_view _) ht
  | completionIsEnd handle => exact quiet_signedReply (harmless_view _) ht
  | completionTakeReadStream handle => exact quiet_transferReply _ _ _ ht
  | completionTakeWriter handle => exact quiet_transferReply _ _ _ ht
  | completionTakeLister handle => exact quiet_transferReply _ _ _ ht
  | completionTakeBuffer handle => exact quiet_transferReply _ _ _ ht
  | completionTakeMetadata handle => exact quiet_transferReply _ _ _ ht
  | completionTakeMetadataSnapshot handle => exact quiet_transferReply _ _ _ ht
  | completionTakeEntryList handle => exact quiet_transferReply _ _ _ ht
  | completionTakeError handle => exact quiet_transferReply _ _ _ ht
  | entryListLen handle =>
    exact quiet_signedReply (Refused.bind (refuses_entryListLen handle).refused).harmless ht
  | entryListPath handle index =>
    exact quiet_handleReply (refuses_entryListText _ _ _ _).refused ht
  | entryListName handle index =>
    exact quiet_handleReply (refuses_entryListText _ _ _ _).refused ht
  | entryListMode handle index => exact quiet_signedReply (harmless_view _) ht
  | entryListContentLength handle index => exact quiet_wordReply (harmless_view _) ht
  | entryListMetadataSnapshot handle index => exact quiet_transferReply _ _ _ ht
  | metadataContentLengthLow handle => exact quiet_codeReply _ (harmless_view _) ht
  | metadataContentLengthHigh handle => exact quiet_codeReply _ (harmless_view _) ht
  | metadataIsFile handle => exact quiet_signedReply (harmless_view _) ht
  | metadataMode handle => exact quiet_signedReply (harmless_view _) ht
  | lastErrorCode => exact ⟨trivial, ht⟩
  | lastErrorTake => exact refused_lastErrorTake ht
  | lastErrorClear => exact ⟨trivial, ht.record none⟩
  | errorCode handle => exact quiet_codeReply _ (harmless_view _) ht
  | errorMessage handle => exact quiet_handleReply (refused_error _).bind ht
  | errorSnapshotTake handle => exact quiet_transferReply _ _ _ ht
  | bufferRelease handle | operatorBuilderRelease handle | readStreamRelease handle
  | writerRelease handle | listerRelease handle | completionRelease handle
  | entryListRelease handle | operatorRelease handle | metadataRelease handle
  | errorRelease handle => exact quiet_releaseReply handle _ ht

/-! ## Runs -/

section Runs

variable {s t : BridgeState O S W L}

theorem tornDown_publishOwnedTask (ht : TornDown s t) (task : UInt32)
    (completion : Completion S W L) : TornDown s (publishOwnedTask task completion t) := by
  obtain ⟨e, he⟩ := borrow_empty ht.arena task .task OwnedResource.task?
  simp only [publishOwnedTask, Arena.ownedTask, he]
  exact ht

theorem tornDown_publishOwnedResourceTask (ht : TornDown s t) (task : UInt32)
    (lease : ResourceLease) (update : OwnedUpdate S W L) (completion : Completion S W L) :
    TornDown s (publishOwnedResourceTask task lease update completion t) := by
  obtain ⟨e, he⟩ := borrow_empty ht.arena task .task OwnedResource.task?
  simp only [publishOwnedResourceTask, Arena.ownedTask, he]
  exact ht

theorem quiet_stepBridge (ht : TornDown s t) (event : BridgeEvent O S W L) :
    (∀ reply ∈ (stepBridge t event).1, reply.Quiet) ∧ TornDown s (stepBridge t event).2 := by
  cases event with
  | call lib called =>
    obtain ⟨hreply, hstate⟩ := quiet_run ht lib called
    refine ⟨?_, hstate⟩
    intro reply hmem
    cases hmem
    exact hreply
  | publishTask task completion =>
    refine ⟨?_, tornDown_publishOwnedTask ht task completion⟩
    intro reply hmem
    cases hmem
  | publishResourceTask task lease update completion =>
    refine ⟨?_, tornDown_publishOwnedResourceTask ht task lease update completion⟩
    intro reply hmem
    cases hmem
  | forcedPendingPoll =>
    refine ⟨?_, ⟨ht.tornDown, ht.arena, ht.operation, ht.spawned⟩⟩
    intro reply hmem
    cases hmem

theorem quiet_runBridge (ht : TornDown s t) (events : List (BridgeEvent O S W L)) :
    (∀ reply ∈ (runBridge t events).1, reply.Quiet) ∧ TornDown s (runBridge t events).2 := by
  induction events generalizing t with
  | nil =>
    refine ⟨?_, ht⟩
    intro reply hmem
    cases hmem
  | cons event events ih =>
    obtain ⟨hfirst, hnext⟩ := quiet_stepBridge ht event
    obtain ⟨hrest, hlast⟩ := ih hnext
    refine ⟨?_, hlast⟩
    intro reply hmem
    rcases List.mem_append.mp hmem with hmem | hmem
    · exact hfirst reply (Option.mem_toList.mp hmem)
    · exact hrest reply hmem

end Runs

/-- Whatever the state was, and whatever is called, published or polled after the teardown:
no call gives out a handle or a pointer, none traps, and the count of live handles is 0. The
slots stay empty, no operation is numbered and no future is spawned. -/
theorem teardown_permanent (s : BridgeState O S W L) (events : List (BridgeEvent O S W L)) :
    let (replies, t) := runBridge (teardownBridge s) events
    (∀ reply ∈ replies, reply.Quiet) ∧ t.tornDown = true ∧ t.arena.live = 0 ∧
      t.arena.slots = [] ∧ t.nextResourceOperation = s.nextResourceOperation ∧
      t.spawned = s.spawned := by
  obtain ⟨hquiet, ht⟩ := quiet_runBridge (tornDown_teardownBridge s) events
  refine ⟨hquiet, ht.tornDown, ?_, ?_, ht.operation, ht.spawned⟩
  · rw [ht.arena]
  · rw [ht.arena]

end OpendalMbt.Bridge
