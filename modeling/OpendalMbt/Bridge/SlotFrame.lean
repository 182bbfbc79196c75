import OpendalMbt.Bridge.Exports
import OpendalMbt.Transition.Cell

/-!
# Calls beside the slot of the last error

No export of the bridge but those about the last error itself looks at the slot
`State::last_error`; a failing one writes its error into it and a successful one leaves it alone.
Nor does any of them leave an invalid arena behind.

* `Tame`: both facts about a call, with the rules for its parts;
* `SlotStep`: both facts about an export.
-/

namespace OpendalMbt.Bridge

open Codec Transition

variable {O S W L : Type} {α β : Type}

/-- The last error of a store. -/
def storeSlot : Cell (Store O S W L) BridgeError where
  get s := s.lastError
  put e s := { s with lastError := e }
  get_put _ _ := rfl
  put_get _ := rfl
  put_put _ _ _ := rfl

/-- The last error of an instance. -/
def errorSlot : Cell (BridgeState O S W L) BridgeError where
  get s := s.lastError
  put e s := { s with lastError := e }
  get_put _ _ := rfl
  put_get _ := rfl
  put_put _ _ _ := rfl

section Put

variable (e : Option BridgeError)

@[simp] theorem arena_put_store (s : Store O S W L) : (storeSlot.put e s).arena = s.arena := rfl

@[simp] theorem arena_put (s : BridgeState O S W L) : (errorSlot.put e s).arena = s.arena := rfl

end Put

/-! ## The store -/

structure StoreTame (f : Call (Store O S W L) BridgeError α) : Prop where
  blind : storeSlot.Blind f
  valid : ∀ s, s.Valid → (f s).2.Valid

section StoreTame

variable {f : Call (Store O S W L) BridgeError α}

theorem blind_recorded (h : storeSlot.Untouched f) :
    storeSlot.Blind fun s => Store.recorded (f s) := by
  intro s e
  have hput := h s e
  cases hrun : f s with
  | mk result t =>
    rw [hrun] at hput
    cases result with
    | error error =>
      refine ⟨some error, ?_, ?_⟩
      · simp only [hput, hrun]
        rfl
      · simp only [hrun, Store.recorded]
        exact fun v hv => by cases hv
    | ok v =>
      refine ⟨e, ?_, fun _ _ => rfl⟩
      simp only [hput, hrun]
      rfl

theorem storeTame_recorded (h : storeSlot.Untouched f) (hvalid : ∀ s, s.Valid → (f s).2.Valid) :
    StoreTame fun s => Store.recorded (f s) :=
  ⟨blind_recorded h, fun s hs => (hvalid s hs).recorded⟩

theorem untouched_insertResource (r : OwnedResource O S W L) :
    storeSlot.Untouched (Store.insertResource r) := by
  intro s e
  unfold Store.insertResource
  show (if s.tornDown = true then _ else _) = _
  split_ifs <;> rfl

theorem untouched_insertBuffer (bytes : List UInt8) :
    storeSlot.Untouched (Store.insertBuffer (O := O) (S := S) (W := W) (L := L) bytes) := by
  intro s e
  unfold Store.insertBuffer
  split_ifs
  · rfl
  · exact untouched_insertResource _ s e

theorem valid_insertBuffer {s : Store O S W L} (hs : s.Valid) (bytes : List UInt8) :
    (Store.insertBuffer bytes s).2.Valid := by
  unfold Store.insertBuffer
  split
  · exact hs
  · exact hs.insertResource _

theorem storeTame_insertResource (r : OwnedResource O S W L) :
    StoreTame (Store.insertResource r) :=
  ⟨(untouched_insertResource r).blind, fun _ hs => hs.insertResource r⟩

theorem storeTame_insertBuffer (bytes : List UInt8) :
    StoreTame (Store.insertBuffer (O := O) (S := S) (W := W) (L := L) bytes) :=
  ⟨(untouched_insertBuffer bytes).blind, fun _ hs => valid_insertBuffer hs bytes⟩

theorem storeTame_bufferNewSized (tryReserve : Nat → Bool) (length : Nat) :
    StoreTame (Store.bufferNewSized (O := O) (S := S) (W := W) (L := L) tryReserve length) := by
  apply storeTame_recorded
  · intro s e
    dsimp only
    split_ifs
    · rfl
    · exact untouched_insertBuffer _ s e
    · rfl
  · intro s hs
    split
    · exact hs
    split
    · exact valid_insertBuffer hs _
    · exact hs

theorem storeTame_bufferLen (handle : UInt32) :
    StoreTame (Store.bufferLen (O := O) (S := S) (W := W) (L := L) handle) := by
  apply storeTame_recorded
  · intro s e
    simp only [arena_put_store]
    cases s.arena.buffer handle with
    | error error => rfl
    | ok bytes =>
      dsimp only
      split_ifs <;> rfl
  · intro s hs
    split
    · exact hs
    · split <;> exact hs

theorem storeTame_bufferDataPtr (handle : UInt32) (offset length : Nat) :
    StoreTame (Store.bufferDataPtr (O := O) (S := S) (W := W) (L := L) handle offset length) := by
  apply storeTame_recorded
  · intro s e
    simp only [arena_put_store]
    cases s.arena.buffer handle with
    | error error => rfl
    | ok bytes =>
      dsimp only
      cases Store.checkedBufferWindow bytes.length offset length <;> rfl
  · intro s hs
    split
    · exact hs
    · split <;> exact hs

theorem storeTame_operatorInfoBuffer (info : O → OperatorInfo) (handle : UInt32)
    (select : OperatorInfo → String) :
    StoreTame (Store.operatorInfoBuffer (S := S) (W := W) (L := L) info handle select) := by
  apply storeTame_recorded
  · intro s e
    simp only [arena_put_store]
    cases s.arena.operator handle with
    | error error => rfl
    | ok operator => exact untouched_insertBuffer _ s e
  · intro s hs
    split
    · exact hs
    · exact valid_insertBuffer hs _

theorem storeTame_entryListLen (handle : UInt32) :
    StoreTame (Store.entryListLen (O := O) (S := S) (W := W) (L := L) handle) := by
  apply storeTame_recorded
  · intro s e
    simp only [arena_put_store]
    cases s.arena.entryList handle with
    | error error => rfl
    | ok entries =>
      dsimp only
      split_ifs <;> rfl
  · intro s hs
    split
    · exact hs
    · split <;> exact hs

theorem storeTame_entryListText (handle : UInt32) (tryReserve : Nat → Bool) (index : UInt32)
    (path : Bool) :
    StoreTame (Store.entryListText (O := O) (S := S) (W := W) (L := L) handle tryReserve index
      path) := by
  apply storeTame_recorded
  · intro s e
    simp only [arena_put_store]
    cases s.arena.entryList handle with
    | error error => rfl
    | ok entries =>
      dsimp only
      cases entries[index.toNat]? with
      | none => rfl
      | some entry =>
        dsimp only
        cases Store.tryOwnedBytes tryReserve
            (utf8Bytes (if path then entry.path else entry.name)) with
        | error error => rfl
        | ok bytes => exact untouched_insertBuffer _ s e
  · intro s hs
    split
    · exact hs
    split
    · exact hs
    split
    · exact hs
    · exact valid_insertBuffer hs _

theorem storeTame_releaseResource (handle : UInt32) (kind : ResourceKind) :
    StoreTame (Store.releaseResource (O := O) (S := S) (W := W) (L := L) handle kind) := by
  refine ⟨blind_recorded ?_, fun s hs => hs.release handle kind⟩
  intro s e
  rfl

end StoreTame

/-! ## Transfers -/

section Transfers

variable {insert : OwnedResource O S W L → Store O S W L →
  Except BridgeError UInt32 × Store O S W L}

theorem writeOnly_returned {f : Store O S W L → Except Stop UInt32 × Store O S W L}
    (h : storeSlot.Untouched f) : storeSlot.WriteOnly fun s => returned (f s) := by
  intro s
  cases hrun : f s with
  | mk result t =>
    cases result with
    | ok handle =>
      refine ⟨none, fun e => ?_⟩
      simp only [h s e, hrun]
      rfl
    | error stop =>
      cases stop with
      | unreachable =>
        refine ⟨none, fun e => ?_⟩
        simp only [h s e, hrun]
        rfl
      | error error =>
        refine ⟨some error, fun e => ?_⟩
        simp only [h s e, hrun]
        rfl

theorem untouched_takeCompletion (handle : UInt32) :
    storeSlot.Untouched (Store.takeCompletion (O := O) (S := S) (W := W) (L := L) handle) := by
  intro s e
  unfold Store.takeCompletion
  simp only [arena_put_store]
  cases s.arena.take handle .completion with
  | mk result arena =>
    cases result with
    | error error => rfl
    | ok r => cases r <;> rfl

theorem untouched_takeSuccessfulCompletion (handle : UInt32) (kind : CompletionKind)
    (needsReplacement : Bool) :
    storeSlot.Untouched fun s : Store O S W L =>
      Store.takeSuccessfulCompletion handle s kind needsReplacement := by
  intro s e
  have htake := untouched_takeCompletion handle s e
  unfold Store.takeSuccessfulCompletion
  simp only [arena_put_store]
  cases s.arena.completion handle with
  | error error => rfl
  | ok completion =>
    by_cases hkind : completion.kind ≠ kind
    · simp only [if_pos hkind]
    simp only [if_neg hkind]
    cases completion.error with
    | some error => rfl
    | none =>
      dsimp only
      split_ifs
      · rfl
      · cases s.arena.ensureInsertCapacityAfterTake handle .completion with
        | error error => rfl
        | ok capacity => exact htake
      · exact htake

theorem untouched_stopOnError {f : Store O S W L → Except BridgeError UInt32 × Store O S W L}
    (h : storeSlot.Untouched f) : storeSlot.Untouched fun s => Store.stopOnError (f s) := by
  intro s e
  simp only [h s e]
  cases f s with
  | mk result t => cases result <;> rfl

theorem untouched_moveCompletion (hinsert : ∀ r, storeSlot.Untouched (insert r)) (handle : UInt32)
    (kind : CompletionKind) (payload : Completion S W L → Option (OwnedResource O S W L)) :
    storeSlot.Untouched fun s => Store.moveCompletion handle s kind payload insert := by
  intro s e
  have htake := untouched_takeSuccessfulCompletion handle kind true s e
  unfold Store.moveCompletion
  simp only [htake]
  cases Store.takeSuccessfulCompletion handle s kind true with
  | mk result t =>
    cases result with
    | error stop => rfl
    | ok completion =>
      dsimp only
      cases payload completion with
      | none => rfl
      | some r => exact untouched_stopOnError (hinsert r) t e

theorem completionIsEndValue_put (handle : UInt32) (s : Store O S W L) (e : Option BridgeError) :
    Store.completionIsEndValue handle (storeSlot.put e s) = Store.completionIsEndValue handle s :=
  rfl

theorem untouched_moveNext (hinsert : ∀ r, storeSlot.Untouched (insert r)) (handle : UInt32)
    (kind : CompletionKind)
    (payload : Completion S W L → Option (Option (OwnedResource O S W L))) :
    storeSlot.Untouched fun s => Store.moveNext handle s kind payload insert := by
  intro s e
  unfold Store.moveNext
  simp only [completionIsEndValue_put]
  cases Store.completionIsEndValue handle s with
  | error error => rfl
  | ok isEnd =>
    have htake := untouched_takeSuccessfulCompletion handle kind (!isEnd) s e
    simp only [htake]
    cases Store.takeSuccessfulCompletion handle s kind (!isEnd) with
    | mk result t =>
      cases result with
      | error stop => rfl
      | ok completion =>
        dsimp only
        cases payload completion with
        | none => rfl
        | some next =>
          cases next with
          | none => rfl
          | some r => exact untouched_stopOnError (hinsert r) t e

theorem untouched_insertBufferResource (r : OwnedResource O S W L) :
    storeSlot.Untouched (Store.insertBufferResource r) := by
  cases r <;> first | exact untouched_insertBuffer _ | exact untouched_insertResource _

theorem untouched_arenaInsert (r : OwnedResource O S W L) :
    storeSlot.Untouched (Store.arenaInsert r) := fun _ _ => rfl

theorem untouched_insertChecked (r : OwnedResource O S W L) :
    storeSlot.Untouched (Store.insertChecked r) := by
  intro s e
  unfold Store.insertChecked
  simp only [arena_put_store]
  cases s.arena.insert r with
  | mk result arena => cases result <;> rfl

/-- The transfers of the ABI. -/
theorem Transfer.writeOnly (t : Transfer) (tryReserve : Nat → Bool) (handle : UInt32) :
    storeSlot.WriteOnly (t.run (O := O) (S := S) (W := W) (L := L) tryReserve handle) := by
  cases t with
  | completionTakeReadStream =>
    exact writeOnly_returned (untouched_moveCompletion untouched_insertResource _ _ _)
  | completionTakeWriter =>
    exact writeOnly_returned (untouched_moveCompletion untouched_insertResource _ _ _)
  | completionTakeLister =>
    exact writeOnly_returned (untouched_moveCompletion untouched_insertResource _ _ _)
  | completionTakeBuffer =>
    apply writeOnly_returned
    intro s e
    simp only [arena_put_store]
    cases s.arena.completion handle with
    | error error => rfl
    | ok completion =>
      dsimp only
      cases completion.kind with
      | read => exact untouched_moveCompletion untouched_insertBufferResource _ _ _ s e
      | readerNext => exact untouched_moveNext untouched_insertBufferResource _ _ _ s e
      | _ => rfl
  | completionTakeMetadata =>
    apply writeOnly_returned
    intro s e
    simp only [arena_put_store]
    cases s.arena.completion handle with
    | error error => rfl
    | ok completion =>
      dsimp only
      split_ifs
      · exact untouched_moveCompletion untouched_arenaInsert _ _ _ s e
      · rfl
  | completionTakeEntryList =>
    apply writeOnly_returned
    intro s e
    simp only [arena_put_store]
    cases s.arena.completion handle with
    | error error => rfl
    | ok completion =>
      dsimp only
      cases completion.kind with
      | list => exact untouched_moveCompletion untouched_arenaInsert _ _ _ s e
      | listerNext => exact untouched_moveNext untouched_arenaInsert _ _ _ s e
      | _ => rfl
  | completionTakeMetadataSnapshot =>
    apply writeOnly_returned
    intro s e
    have htake := untouched_takeCompletion handle s e
    simp only [arena_put_store, htake]
    cases s.arena.completion handle with
    | error error => rfl
    | ok completion =>
      dsimp only
      cases Store.completionMetadata handle completion with
      | error error => rfl
      | ok metadata =>
        dsimp only
        cases metadataSnapshotBytes tryReserve metadata with
        | error error => rfl
        | ok snapshot =>
          dsimp only
          cases s.arena.ensureInsertCapacityAfterTake handle .completion with
          | error error => rfl
          | ok capacity =>
            dsimp only
            cases Store.takeCompletion handle s with
            | mk result t =>
              cases result with
              | error stop => rfl
              | ok completion =>
                cases completion with
                | write result | stat result | copy result | writerFinish result =>
                  cases result with
                  | error error => rfl
                  | ok metadata => exact untouched_insertChecked _ t e
                | _ => rfl
  | completionTakeError =>
    apply writeOnly_returned
    intro s e
    have htake := untouched_takeCompletion handle s e
    simp only [arena_put_store, htake]
    cases s.arena.completion handle with
    | error error => rfl
    | ok completion =>
      dsimp only
      split_ifs
      · rfl
      cases s.arena.ensureInsertCapacityAfterTake handle .completion with
      | error error => rfl
      | ok capacity =>
        dsimp only
        cases Store.takeCompletion handle s with
        | mk result t =>
          cases result with
          | error stop => rfl
          | ok completion =>
            dsimp only
            cases completion.error with
            | none => rfl
            | some error => exact untouched_stopOnError (untouched_arenaInsert (.error error)) t e
  | errorSnapshotTake =>
    apply writeOnly_returned
    intro s e
    simp only [arena_put_store]
    cases s.arena.error handle with
    | error error => rfl
    | ok error =>
      dsimp only
      cases errorSnapshotBytes tryReserve error with
      | error error => rfl
      | ok snapshot =>
        dsimp only
        cases s.arena.ensureInsertCapacityAfterTake handle .error with
        | error error => rfl
        | ok capacity =>
          dsimp only
          cases s.arena.take handle .error with
          | mk result arena =>
            cases result with
            | error error => rfl
            | ok r => cases r <;> first | rfl | exact untouched_insertChecked _ { s with arena } e
  | taskTake =>
    apply writeOnly_returned
    intro s e
    show (if s.arena.canInsert = false then _ else _) = _
    by_cases hcan : s.arena.canInsert = false
    · simp only [if_pos hcan]
    simp only [if_neg hcan, arena_put_store]
    cases s.arena.ownedTask handle with
    | error error => rfl
    | ok task =>
      cases task with
      | ready completion lease =>
        exact untouched_stopOnError (untouched_arenaInsert (.completion completion))
          { s with arena := s.arena.write handle (.task .consumed) } e
      | _ => rfl
  | entryListMetadataSnapshot index =>
    apply writeOnly_returned
    intro s e
    simp only [arena_put_store]
    cases s.arena.entryList handle with
    | error error => rfl
    | ok entries =>
      dsimp only
      cases entries[index.toNat]? with
      | none => rfl
      | some entry =>
        by_cases hempty : entry.metadataSnapshot.isEmpty = true
        · simp only [if_pos hempty]
        simp only [if_neg hempty]
        show (if s.arena.canInsert = false then _ else _) = _
        by_cases hcan : s.arena.canInsert = false
        · simp only [if_pos hcan]
        simp only [if_neg hcan]
        exact untouched_insertChecked _ { s with arena := _ } e

end Transfers

/-! ## Calls -/

structure Tame (x : BridgeCall O S W L α) : Prop where
  blind : errorSlot.Blind x
  valid : ∀ s, s.toStore.Valid → (x s).2.toStore.Valid

section Rules

variable {x : BridgeCall O S W L α} {f : α → BridgeCall O S W L β}

theorem tame_pure (a : α) : Tame (pure a : BridgeCall O S W L α) :=
  ⟨Cell.blind_pure a, fun _ hs => hs⟩

theorem tame_throw (e : BridgeError) : Tame (Call.throw e : BridgeCall O S W L α) :=
  ⟨Cell.blind_throw e, fun _ hs => hs⟩

theorem tame_ofExcept (result : Except BridgeError α) :
    Tame (ofExcept result : BridgeCall O S W L α) :=
  ⟨Cell.Untouched.blind fun _ _ => rfl, fun _ hs => hs⟩

/-- A look at anything but the slot. -/
theorem tame_view {f : BridgeState O S W L → Except BridgeError α}
    (h : ∀ s e, f (errorSlot.put e s) = f s) : Tame (view f) := by
  refine ⟨Cell.Untouched.blind ?_, fun _ hs => hs⟩
  intro s e
  simp only [view, h]

theorem tame_modify {f : BridgeState O S W L → BridgeState O S W L}
    (h : ∀ s e, f (errorSlot.put e s) = errorSlot.put e (f s))
    (hvalid : ∀ s, s.toStore.Valid → (f s).toStore.Valid) :
    Tame (Call.modify f : BridgeCall O S W L Unit) :=
  ⟨Cell.blind_modify h, hvalid⟩

theorem tame_onStore {f : Call (Store O S W L) BridgeError α} (hf : StoreTame f) :
    Tame (onStore f : BridgeCall O S W L α) := by
  refine ⟨?_, fun s hs => hf.valid s.toStore hs⟩
  intro s e
  obtain ⟨e', hput, hkeep⟩ := hf.blind s.toStore e
  refine ⟨e', ?_, hkeep⟩
  show ((f (storeSlot.put e s.toStore)).1,
    { s with toStore := (f (storeSlot.put e s.toStore)).2 }) = _
  rw [hput]
  rfl

theorem Tame.bind (hx : Tame x) (hf : ∀ a, Tame (f a)) : Tame (x >>= f) := by
  refine ⟨hx.blind.bind fun a => (hf a).blind, ?_⟩
  intro s hs
  have hvalid := hx.valid s hs
  cases hrun : x s with
  | mk result t =>
    rw [hrun] at hvalid
    cases result with
    | error e =>
      rw [Call.bind_apply_error hrun]
      exact hvalid
    | ok a =>
      rw [Call.bind_apply_ok hrun]
      exact (hf a).valid t hvalid

end Rules

section Calls

variable (lib : Library O)

theorem resource_of_borrow {a : Arena (OwnedResource O S W L)} {handle : UInt32}
    {expected : ResourceKind} {select : OwnedResource O S W L → Option α} {value : α}
    (h : a.borrow handle expected select = .ok value) : ∃ r, a.resource handle = .ok r := by
  unfold Arena.borrow at h
  cases hr : a.resource handle with
  | error e =>
    rw [hr] at h
    cases h
  | ok r => exact ⟨r, rfl⟩

/-- An assignment through a reference that a lookup returned. -/
theorem Store.Valid.write {s : Store O S W L} (hs : s.Valid) {handle : UInt32}
    {r r₀ : OwnedResource O S W L} (h : s.arena.resource handle = .ok r₀) :
    Store.Valid { s with arena := s.arena.write handle r } := by
  apply hs.update (hs.arena.write h)
  intro htorn
  have hrunning := hs.running (Arena.get?_eq_some.mpr h)
  rw [htorn] at hrunning
  cases hrunning

theorem tame_bufferPush (handle value : UInt32) :
    Tame (bufferPush handle value : BridgeCall O S W L Unit) := by
  constructor
  · apply Cell.Untouched.blind
    intro s e
    unfold bufferPush
    simp only [arena_put]
    cases s.arena.buffer handle with
    | error error => rfl
    | ok bytes =>
      dsimp only
      split_ifs <;> rfl
  · intro s hs
    unfold bufferPush
    split
    · exact hs
    · rename_i bytes hbuffer
      obtain ⟨r, hr⟩ := resource_of_borrow hbuffer
      split_ifs
      · exact hs
      · exact hs
      · exact hs.write hr

theorem tame_bufferLen (handle : UInt32) : Tame (bufferLen handle : BridgeCall O S W L Int) :=
  (tame_onStore (storeTame_bufferLen handle)).bind fun _ => tame_pure _

theorem tame_setForcePending (enabled : UInt32) :
    Tame (setForcePending enabled : BridgeCall O S W L Unit) :=
  (tame_ofExcept _).bind fun _ => tame_modify (fun _ _ => rfl) fun _ hs => hs

theorem tame_ownedUtf8Buffer (tryReserve : Nat → Bool) (handle : UInt32) :
    Tame (view (ownedUtf8Buffer tryReserve handle) : BridgeCall O S W L String) :=
  tame_view fun _ _ => rfl

theorem tame_optionalOwnedUtf8Buffer (tryReserve : Nat → Bool) (handle : UInt32) :
    Tame (view (optionalOwnedUtf8Buffer tryReserve handle) :
      BridgeCall O S W L (Option String)) := by
  apply tame_view
  intro s e
  rfl

theorem tame_operatorNewMemory : Tame (operatorNewMemory lib : BridgeCall O S W L UInt32) :=
  (tame_ofExcept _).bind fun _ => tame_onStore (storeTame_insertResource _)

theorem tame_operatorBuilderNew (scheme : UInt32) :
    Tame (operatorBuilderNew lib scheme : BridgeCall O S W L UInt32) := by
  apply (tame_ownedUtf8Buffer _ _).bind
  intro scheme
  split_ifs
  · exact tame_throw _
  · exact tame_onStore (storeTame_insertResource _)

/-- Look a resource up, compute with it and assign the result. -/
theorem tame_update {lookup : BridgeState O S W L → Except BridgeError α} {handle : UInt32}
    {compute : α → Except BridgeError β} {wrap : β → OwnedResource O S W L}
    (hblind : ∀ s e, lookup (errorSlot.put e s) = lookup s)
    (hlookup : ∀ s value, lookup s = .ok value → ∃ r, s.arena.resource handle = .ok r) :
    Tame (do
      let value ← view lookup
      let result ← ofExcept (compute value)
      Call.modify fun s => { s with arena := s.arena.write handle (wrap result) } :
        BridgeCall O S W L Unit) := by
  constructor
  · apply (tame_view hblind).blind.bind
    intro value
    apply (tame_ofExcept _).blind.bind
    intro result
    exact Cell.blind_modify fun s e => rfl
  · intro s hs
    cases hvalue : lookup s with
    | error e =>
      have hview : (view lookup : BridgeCall O S W L α) s = (.error e, s) := by
        simp only [view, hvalue]
      rw [Call.bind_apply_error hview]
      exact hs
    | ok value =>
      have hview : (view lookup : BridgeCall O S W L α) s = (.ok value, s) := by
        simp only [view, hvalue]
      rw [Call.bind_apply_ok hview]
      obtain ⟨r, hr⟩ := hlookup s value hvalue
      cases hresult : compute value with
      | error e => exact hs
      | ok result => exact hs.write hr

theorem tame_operatorBuilderSet (builder key value : UInt32) :
    Tame (operatorBuilderSet lib builder key value : BridgeCall O S W L Unit) := by
  apply (tame_ownedUtf8Buffer _ _).bind
  intro key
  apply (tame_ownedUtf8Buffer _ _).bind
  intro value
  apply tame_update
  · intro s e
    rfl
  · intro s builder hbuilder
    exact resource_of_borrow hbuilder

theorem tame_operator (handle : UInt32) :
    Tame (view (·.arena.operator handle) : BridgeCall O S W L O) :=
  tame_view fun _ _ => rfl

theorem tame_operatorBuilderBuild (builder : UInt32) :
    Tame (operatorBuilderBuild lib builder : BridgeCall O S W L UInt32) :=
  (tame_view fun _ _ => rfl).bind fun _ =>
    (tame_ofExcept _).bind fun _ =>
      (tame_ofExcept _).bind fun _ => tame_onStore (storeTame_insertResource _)

theorem tame_pathAndOperator (tryReserve : Nat → Bool) (operator path : UInt32) :
    Tame (pathAndOperator tryReserve operator path : BridgeCall O S W L (O × String)) :=
  (tame_operator _).bind fun _ => (tame_ownedUtf8Buffer _ _).bind fun _ => tame_pure _

theorem tame_operatorWrite (operator path data : UInt32) :
    Tame (operatorWrite lib operator path data : BridgeCall O S W L Unit) :=
  (tame_pathAndOperator _ _ _).bind fun _ =>
    (tame_view fun _ _ => rfl).bind fun _ => (tame_ofExcept _).bind fun _ => tame_pure _

theorem tame_operatorRead (operator path : UInt32) :
    Tame (operatorRead lib operator path : BridgeCall O S W L UInt32) :=
  (tame_pathAndOperator _ _ _).bind fun _ =>
    (tame_ofExcept _).bind fun _ =>
      (tame_ofExcept _).bind fun _ => tame_onStore (storeTame_insertBuffer _)

theorem tame_operatorStat (operator path : UInt32) :
    Tame (operatorStat lib operator path : BridgeCall O S W L UInt32) :=
  (tame_pathAndOperator _ _ _).bind fun _ =>
    (tame_ofExcept _).bind fun _ => tame_onStore (storeTame_insertResource _)

theorem tame_errorMessage (handle : UInt32) :
    Tame (errorMessage handle : BridgeCall O S W L UInt32) :=
  (tame_view fun _ _ => rfl).bind fun _ => tame_onStore (storeTame_insertBuffer _)

/-! ### Starts -/

theorem tame_spawnLocal (task : UInt32) (lease : Option ResourceLease) (future : Future O S W L) :
    Tame (spawnLocal task lease future) :=
  tame_modify (fun _ _ => rfl) fun _ hs => hs

theorem tame_startTask (future : Future O S W L) : Tame (startTask future) :=
  (tame_onStore (storeTame_insertResource _)).bind fun _ =>
    (tame_spawnLocal _ _ _).bind fun _ => tame_pure _

theorem tame_writeOptionsFromScalars (tryReserve : Nat → Bool) (scalars : WriteScalars) :
    Tame (writeOptionsFromScalars tryReserve scalars : BridgeCall O S W L WriteOptions) := by
  apply (tame_ofExcept _).bind
  intro append
  repeat
    apply (tame_optionalOwnedUtf8Buffer _ _).bind
    intro text
  exact tame_pure _

theorem tame_statOptionsFromScalars (tryReserve : Nat → Bool) (texts : ReadTexts) :
    Tame (statOptionsFromScalars tryReserve texts : BridgeCall O S W L ReadConditions) := by
  repeat
    apply (tame_optionalOwnedUtf8Buffer _ _).bind
    intro text
  exact tame_pure _

theorem tame_startReadTask (operator path : UInt32) (options : ReadOptions BytesRange) :
    Tame (startReadTask lib operator path options : BridgeCall O S W L UInt32) :=
  (tame_pathAndOperator _ _ _).bind fun _ =>
    (tame_ofExcept _).bind fun _ => tame_startTask _

theorem tame_startStatTask (operator path : UInt32) (options : ReadConditions) :
    Tame (startStatTask lib operator path options : BridgeCall O S W L UInt32) :=
  (tame_pathAndOperator _ _ _).bind fun _ => tame_startTask _

theorem tame_startWriteTask (operator path data : UInt32) (options : WriteOptions) :
    Tame (startWriteTask lib operator path data options : BridgeCall O S W L UInt32) :=
  (tame_pathAndOperator _ _ _).bind fun _ =>
    (tame_view fun _ _ => rfl).bind fun _ => tame_startTask _

theorem tame_endsAndOperator (operator path target : UInt32) :
    Tame (endsAndOperator lib operator path target :
      BridgeCall O S W L (O × String × String)) :=
  (tame_pathAndOperator _ _ _).bind fun _ =>
    (tame_ownedUtf8Buffer _ _).bind fun _ => tame_pure _

theorem tame_startDeleteTask (operator path version recursive : UInt32) :
    Tame (startDeleteTask lib operator path version recursive : BridgeCall O S W L UInt32) :=
  (tame_ofExcept _).bind fun _ =>
    (tame_pathAndOperator _ _ _).bind fun _ =>
      (tame_optionalOwnedUtf8Buffer _ _).bind fun _ => tame_startTask _

theorem tame_listInputs (operator path : UInt32) (scalars : ListScalars) :
    Tame (listInputs lib operator path scalars :
      BridgeCall O S W L (O × String × ListOptions)) :=
  (tame_ofExcept _).bind fun _ =>
    (tame_ofExcept _).bind fun _ =>
      (tame_pathAndOperator _ _ _).bind fun _ =>
        (tame_optionalOwnedUtf8Buffer _ _).bind fun _ => tame_pure _

theorem tame_startReadStream (operator path : UInt32) (options : ReadStreamOptions BytesRange) :
    Tame (startReadStream lib operator path options : BridgeCall O S W L UInt32) :=
  (tame_pathAndOperator _ _ _).bind fun _ =>
    (tame_ofExcept _).bind fun _ => tame_startTask _

theorem tame_startWriter (operator path : UInt32) (options : WriteOptions) :
    Tame (startWriter lib operator path options : BridgeCall O S W L UInt32) :=
  (tame_pathAndOperator _ _ _).bind fun _ => tame_startTask _

theorem view_bind_apply (look : BridgeState O S W L → Except BridgeError α)
    (f : α → BridgeCall O S W L β) (s : BridgeState O S W L) :
    (view look >>= f) s =
      match look s with
      | .error e => (.error e, s)
      | .ok a => f a s := by
  cases h : look s with
  | error e =>
    have hview : view look s = (.error e, s) := by simp only [view, h]
    rw [Call.bind_apply_error hview]
  | ok a =>
    have hview : view look s = (.ok a, s) := by simp only [view, h]
    rw [Call.bind_apply_ok hview]

theorem tame_operatorReadOptionsStart (operator path : UInt32) (range : RangeScalars)
    (texts : ReadTexts) :
    Tame (operatorReadOptionsStart BytesRange.api texts range
      (optionalOwnedUtf8Buffer lib.tryReserve) (startReadTask lib operator path) :
        BridgeCall O S W L UInt32) := by
  have hview : Tame (view (readOptionsFromScalars BytesRange.api texts range
      (optionalOwnedUtf8Buffer lib.tryReserve)) :
        BridgeCall O S W L (ReadOptions BytesRange)) := tame_view fun _ _ => rfl
  have hstart := hview.bind fun options => tame_startReadTask lib operator path options
  have hsame : operatorReadOptionsStart BytesRange.api texts range
      (optionalOwnedUtf8Buffer lib.tryReserve) (startReadTask lib operator path) =
        (view (readOptionsFromScalars BytesRange.api texts range
          (optionalOwnedUtf8Buffer lib.tryReserve)) >>= fun options =>
            startReadTask lib operator path options :
          BridgeCall O S W L UInt32) := by
    funext s
    rw [view_bind_apply]
    unfold operatorReadOptionsStart
    cases readOptionsFromScalars BytesRange.api texts range
      (optionalOwnedUtf8Buffer lib.tryReserve) s <;> rfl
  rw [hsame]
  exact hstart

theorem tame_operatorReadStreamStart (operator path chunkSize : UInt32) (range : RangeScalars)
    (texts : ReadTexts) :
    Tame (operatorReadStreamStart BytesRange.api texts range
      (optionalOwnedUtf8Buffer lib.tryReserve) (startReadStream lib operator path) chunkSize :
        BridgeCall O S W L UInt32) := by
  have hview : Tame (view fun s => readStreamOptionsFromScalars BytesRange.api texts range
      (optionalOwnedUtf8Buffer lib.tryReserve) s chunkSize :
        BridgeCall O S W L (ReadStreamOptions BytesRange)) := tame_view fun _ _ => rfl
  have hstart := hview.bind fun options => tame_startReadStream lib operator path options
  have hsame : operatorReadStreamStart BytesRange.api texts range
      (optionalOwnedUtf8Buffer lib.tryReserve) (startReadStream lib operator path) chunkSize =
        (view (fun s => readStreamOptionsFromScalars BytesRange.api texts range
          (optionalOwnedUtf8Buffer lib.tryReserve) s chunkSize) >>= fun options =>
            startReadStream lib operator path options :
          BridgeCall O S W L UInt32) := by
    funext s
    rw [view_bind_apply]
    unfold operatorReadStreamStart
    cases readStreamOptionsFromScalars BytesRange.api texts range
      (optionalOwnedUtf8Buffer lib.tryReserve) s chunkSize <;> rfl
  rw [hsame]
  exact hstart

end Calls

/-! ### Leases -/

section Leases

variable {I T : Type} (F : Lender O S W L I T)

theorem untouched_reserve (handle : UInt32) : errorSlot.Untouched (F.reserve handle) := by
  intro s e
  unfold Lender.reserve
  show (if s.tornDown = true then _
    else if s.arena.canInsert = false then _
    else if UInt64.size ≤ s.nextResourceOperation.toNat + 1 then _ else _) = _
  by_cases htorn : s.tornDown = true
  · simp only [if_pos htorn]
  by_cases hcan : s.arena.canInsert = false
  · simp only [if_neg htorn, if_pos hcan]
  by_cases hlimit : UInt64.size ≤ s.nextResourceOperation.toNat + 1
  · simp only [if_neg htorn, if_neg hcan, if_pos hlimit]
  simp only [if_neg htorn, if_neg hcan, if_neg hlimit, arena_put]
  cases F.lookup s.arena handle with
  | error error => rfl
  | ok state =>
    cases state with
    | busy operation => rfl
    | terminal outcome => rfl
    | «open» inner previous =>
      dsimp only
      cases hinsert : (s.arena.write handle (F.wrap (.busy (s.nextResourceOperation + 1)))).insert
          (.task (.pending (some ⟨handle, F.kind, s.nextResourceOperation + 1⟩))) with
      | mk result arena =>
        cases result with
        | ok task =>
          simp only [show (errorSlot.put e s).nextResourceOperation = s.nextResourceOperation from
            rfl, hinsert]
          rfl
        | error error =>
          simp only [show (errorSlot.put e s).nextResourceOperation = s.nextResourceOperation from
            rfl, hinsert]
          cases F.lookup arena handle <;> rfl

theorem valid_reserve (handle : UInt32) {s : BridgeState O S W L} (hs : s.toStore.Valid) :
    (F.reserve handle s).2.toStore.Valid := by
  unfold Lender.reserve
  split_ifs with htorn hcan hlimit
  · exact hs
  · exact hs
  · exact hs
  dsimp only
  split
  · exact hs
  · exact hs
  · exact hs
  · rename_i inner previous hlookup
    obtain ⟨r, hr⟩ := resource_of_borrow hlookup
    have hwritten := hs.write (r := F.wrap (.busy (s.nextResourceOperation + 1))) hr
    split
    · rename_i task arena hinsert
      exact hs.update (hwritten.arena.insert hinsert) fun h => absurd h htorn
    · rename_i error arena hinsert
      have harena := hwritten.arena.insert hinsert
      split
      · exact hs.update harena fun h => absurd h htorn
      · rename_i state hstate
        obtain ⟨r', hr'⟩ := resource_of_borrow hstate
        exact hs.update (harena.write hr') fun h => absurd h htorn

theorem tame_start (handle : UInt32) (future : I → Future O S W L) :
    Tame (F.start handle future) :=
  Tame.bind ⟨(untouched_reserve F handle).blind, fun _ hs => valid_reserve F handle hs⟩ fun _ =>
    (tame_spawnLocal _ _ _).bind fun _ => tame_pure _

theorem valid_fail {a : Arena (OwnedResource O S W L)} (ha : a.Valid) (lease : ResourceLease) :
    (F.fail lease a).Valid := by
  unfold Lender.fail
  split
  · rename_i inner operation hlookup
    obtain ⟨r, hr⟩ := resource_of_borrow hlookup
    split_ifs
    · exact ha.write hr
    · exact ha
  · rename_i operation hlookup
    obtain ⟨r, hr⟩ := resource_of_borrow hlookup
    split_ifs
    · exact ha.write hr
    · exact ha
  · exact ha

theorem valid_applyUpdate {a : Arena (OwnedResource O S W L)} (ha : a.Valid)
    (lease : ResourceLease) (update : LeasedUpdate I T) : (F.applyUpdate lease update a).Valid := by
  unfold Lender.applyUpdate
  split
  · rename_i operation hlookup
    obtain ⟨r, hr⟩ := resource_of_borrow hlookup
    split_ifs
    · exact ha.write hr
    · exact ha
  · exact ha

end Leases

section Tasks

theorem valid_terminalizeOwnedTask {a : Arena (OwnedResource O S W L)} (ha : a.Valid)
    (task : Task (Completion S W L)) : (terminalizeOwnedTask task a).Valid := by
  unfold terminalizeOwnedTask
  split
  · exact ha
  · split <;> first | exact ha | exact valid_fail _ ha _

theorem valid_apply {a : Arena (OwnedResource O S W L)} (ha : a.Valid) (lease : ResourceLease)
    (update : OwnedUpdate S W L) : (update.apply lease a).Valid := by
  cases update <;> exact valid_applyUpdate _ ha _ _

/-- What is found in the arena is there, so the instance is not torn down. -/
theorem Store.Valid.found {s : Store O S W L} (hs : s.Valid) {handle : UInt32}
    {r : OwnedResource O S W L} (h : s.arena.resource handle = .ok r) : s.tornDown ≠ true := by
  rw [hs.running (Arena.get?_eq_some.mpr h)]
  exact Bool.false_ne_true

theorem tame_ownedTaskCancel (handle : UInt32) :
    Tame (ownedTaskCancel handle : BridgeCall O S W L Unit) := by
  constructor
  · apply Cell.Untouched.blind
    intro s e
    unfold ownedTaskCancel
    simp only [arena_put]
    cases s.arena.ownedTask handle with
    | error error => rfl
    | ok task =>
      dsimp only
      cases (terminalizeOwnedTask task s.arena).ownedTask handle with
      | error error => rfl
      | ok state => cases state <;> rfl
  · intro s hs
    unfold ownedTaskCancel
    split
    · exact hs
    rename_i task htask
    obtain ⟨r, hr⟩ := resource_of_borrow htask
    have harena := valid_terminalizeOwnedTask hs.arena task
    dsimp only
    split
    · exact hs.update harena fun h => absurd h (hs.found hr)
    · rename_i lease hstate
      obtain ⟨r', hr'⟩ := resource_of_borrow hstate
      exact hs.update (harena.write hr') fun h => absurd h (hs.found hr)
    · rename_i completion lease hstate
      obtain ⟨r', hr'⟩ := resource_of_borrow hstate
      exact hs.update (harena.write hr') fun h => absurd h (hs.found hr)
    · exact hs.update harena fun h => absurd h (hs.found hr)
    · exact hs.update harena fun h => absurd h (hs.found hr)

theorem tame_ownedTaskRelease (handle : UInt32) :
    Tame (ownedTaskRelease handle : BridgeCall O S W L Unit) := by
  constructor
  · apply Cell.Untouched.blind
    intro s e
    unfold ownedTaskRelease
    simp only [arena_put]
    cases s.arena.ownedTask handle <;> rfl
  · intro s hs
    unfold ownedTaskRelease
    split
    · exact hs
    rename_i task htask
    obtain ⟨r, hr⟩ := resource_of_borrow htask
    have harena := valid_terminalizeOwnedTask hs.arena task
    exact hs.update (harena.take rfl) fun h => absurd h (hs.found hr)

theorem tame_lookup {I T : Type} (F : Lender O S W L I T) (handle : UInt32) :
    Tame (view (F.lookup ·.arena handle) : BridgeCall O S W L (LeasedState I T)) :=
  tame_view fun _ _ => rfl

theorem tame_writerWriteStart (tryReserve : Nat → Bool) (writer data : UInt32) :
    Tame (writerWriteStart tryReserve writer data : BridgeCall O S W L UInt32) :=
  (tame_view fun _ _ => rfl).bind fun _ => tame_start _ _ _

theorem tame_writerFinishStart (handle : UInt32) :
    Tame (writerFinishStart handle : BridgeCall O S W L UInt32) := by
  apply (tame_lookup _ _).bind
  intro state
  split
  · exact tame_startTask _
  · exact tame_start _ _ _
  · exact tame_throw _
  · exact tame_throw _
  · exact tame_throw _

theorem tame_writerAbortStart (handle : UInt32) :
    Tame (writerAbortStart handle : BridgeCall O S W L UInt32) := by
  apply (tame_lookup _ _).bind
  intro state
  split
  · exact tame_startTask _
  · exact tame_start _ _ _
  · exact tame_throw _
  · exact tame_throw _
  · exact tame_throw _

end Tasks

end OpendalMbt.Bridge
