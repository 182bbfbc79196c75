import OpendalMbt.Bridge.HandleSafety
import OpendalMbt.Bridge.SlotFrame

/-!
# The last error

`opendal_mbt_wasm_last_error_take` clones the last error, inserts the clone and only then empties
the slot; but when the insertion fails, `record_error` puts `HandleLimit` over the error that was
to be taken.

* `slotStep_run`: every other export records its own failure or leaves the slot alone;
* `take_cases`: what a take does;
* `slot_law`: the slot in every reachable state, and over every run.
-/

namespace OpendalMbt.Bridge

open Codec Transition

variable {O S W L : Type} {α : Type}

/-! ## Exports -/

/-- An export that only writes the slot. -/
structure SlotStep (f : BridgeState O S W L → Reply × BridgeState O S W L) : Prop where
  writeOnly : errorSlot.WriteOnly f
  valid : ∀ s, s.toStore.Valid → (f s).2.toStore.Valid

section Replies

theorem slotStep_record {x : BridgeCall O S W L α} (hx : Tame x) (good : α → Reply)
    (failed : BridgeError → Reply) : SlotStep (errorSlot.record good failed x) := by
  refine ⟨hx.blind.record good failed, ?_⟩
  intro s hs
  have hvalid := hx.valid s hs
  unfold Cell.record
  cases hrun : x s with
  | mk result t =>
    rw [hrun] at hvalid
    cases result with
    | ok value => exact hvalid
    | error e => exact hvalid.update hvalid.arena fun _ => rfl

theorem slotStep_valueOr {x : BridgeCall O S W L α} (hx : Tame x) (wrap : α → Reply)
    (failed : BridgeError → α) :
    SlotStep fun s => (wrap (valueOr failed x s).1, (valueOr failed x s).2) := by
  have hsame : errorSlot.record wrap (fun e => wrap (failed e)) x =
      fun s => (wrap (valueOr failed x s).1, (valueOr failed x s).2) := by
    funext s
    unfold Cell.record valueOr
    cases x s with
    | mk result t => cases result <;> rfl
  rw [← hsame]
  exact slotStep_record hx _ _

theorem slotStep_handle {x : BridgeCall O S W L UInt32} (hx : Tame x) :
    SlotStep fun s => handleReply s x :=
  slotStep_valueOr hx .handle _

theorem slotStep_status {x : BridgeCall O S W L Unit} (hx : Tame x) :
    SlotStep fun s => statusReply s x :=
  slotStep_valueOr (hx.bind fun _ => tame_pure 0) .code _

theorem slotStep_signed {x : BridgeCall O S W L Int} (hx : Tame x) :
    SlotStep fun s => signedReply s x :=
  slotStep_valueOr hx .signed _

theorem slotStep_code (failed : BridgeError → UInt32) {x : BridgeCall O S W L UInt32}
    (hx : Tame x) : SlotStep fun s => codeReply s failed x :=
  slotStep_valueOr hx .code _

theorem slotStep_word {x : BridgeCall O S W L Nat} (hx : Tame x) :
    SlotStep fun s => wordReply s x :=
  slotStep_valueOr hx .word _

theorem slotStep_window {x : BridgeCall O S W L (List UInt8)} (hx : Tame x) :
    SlotStep fun s => windowReply s x :=
  slotStep_valueOr (hx.bind fun bytes => tame_pure (some bytes)) .window _

theorem slotStep_release (handle : UInt32) (kind : ResourceKind) :
    SlotStep fun s : BridgeState O S W L => releaseReply s handle kind :=
  slotStep_status (tame_onStore (storeTame_releaseResource handle kind))

/-- A function of the store, with a reply made of what it returns. -/
theorem slotStep_onStore {f : Store O S W L → α × Store O S W L} (h : storeSlot.WriteOnly f)
    (hvalid : ∀ s, s.Valid → (f s).2.Valid) (reply : α → Reply) :
    SlotStep fun s => (reply (f s.toStore).1, { s with toStore := (f s.toStore).2 }) := by
  refine ⟨?_, fun s hs => hvalid s.toStore hs⟩
  intro s
  obtain ⟨failure, hfailure⟩ := h s.toStore
  refine ⟨failure, fun e => ?_⟩
  show (reply (f (storeSlot.put e s.toStore)).1,
    { s with toStore := (f (storeSlot.put e s.toStore)).2 }) = _
  rw [hfailure e]
  rfl

theorem slotStep_transfer (tryReserve : Nat → Bool) (transfer : Transfer) (handle : UInt32) :
    SlotStep fun s : BridgeState O S W L => transferReply s tryReserve transfer handle := by
  have hstep : SlotStep fun s : BridgeState O S W L =>
      ((transfer.run tryReserve handle s.toStore).1.elim Reply.trap Reply.handle,
        { s with toStore := (transfer.run tryReserve handle s.toStore).2 }) :=
    slotStep_onStore (transfer.writeOnly tryReserve handle)
      (fun s hs => hs.transfer transfer tryReserve handle) fun out => out.elim .trap .handle
  have hsame : (fun s : BridgeState O S W L => transferReply s tryReserve transfer handle) =
      fun s => ((transfer.run tryReserve handle s.toStore).1.elim Reply.trap Reply.handle,
        { s with toStore := (transfer.run tryReserve handle s.toStore).2 }) := by
    funext s
    unfold transferReply
    cases transfer.run tryReserve handle s.toStore with
    | mk out store => cases out <;> rfl
  rw [hsame]
  exact hstep

theorem slotStep_capabilityWord (info : O → OperatorInfo) (handle word : UInt32) :
    SlotStep fun s : BridgeState O S W L =>
      (Reply.word (s.operatorInfoCapabilityWord info handle word).1,
        { s with toStore := (s.operatorInfoCapabilityWord info handle word).2 }) := by
  apply slotStep_onStore (f := Store.operatorInfoCapabilityWord info handle word)
  · intro s
    unfold Store.operatorInfoCapabilityWord
    simp only [arena_put_store]
    cases s.arena.operator handle with
    | error error => exact ⟨some error, fun e => rfl⟩
    | ok operator =>
      dsimp only
      cases capabilityWord (info operator).capability word with
      | error error => exact ⟨some error, fun e => rfl⟩
      | ok value => exact ⟨none, fun e => rfl⟩
  · intro s hs
    unfold Store.operatorInfoCapabilityWord
    split
    · exact hs.update hs.arena fun _ => rfl
    · split
      · exact hs.update hs.arena fun _ => rfl
      · exact hs

/-- A call that changes nothing. -/
theorem slotStep_const {reply : BridgeState O S W L → Reply}
    (h : ∀ s e, reply (errorSlot.put e s) = reply s) : SlotStep fun s => (reply s, s) := by
  refine ⟨Cell.Untouched.writeOnly fun s e => ?_, fun _ hs => hs⟩
  simp only [h]

end Replies

/-- The exports that are not about the last error. -/
def Export.Ordinary : Export → Prop
  | .teardown | .canaryStaleHandleRejected | .lastErrorCode | .lastErrorTake | .lastErrorClear =>
    False
  | _ => True

theorem slotStep_run (lib : Library O) {called : Export} (h : called.Ordinary) :
    SlotStep fun s : BridgeState O S W L => called.run s lib := by
  cases called with
  | teardown => exact absurd h id
  | canaryStaleHandleRejected => exact absurd h id
  | lastErrorCode => exact absurd h id
  | lastErrorTake => exact absurd h id
  | lastErrorClear => exact absurd h id
  | abiVersion => exact slotStep_const fun _ _ => rfl
  | featureFlags => exact slotStep_const fun _ _ => rfl
  | canaryForcedPendingPollCount => exact slotStep_const fun _ _ => rfl
  | canarySetForcePending enabled => exact slotStep_status (tame_setForcePending enabled)
  | liveHandleCount => exact slotStep_const fun _ _ => rfl
  | bufferNew => exact slotStep_handle (tame_onStore (storeTame_insertBuffer []))
  | bufferNewSized length => exact slotStep_handle (tame_onStore (storeTame_bufferNewSized _ _))
  | bufferPush handle value => exact slotStep_status (tame_bufferPush _ _)
  | bufferLen handle => exact slotStep_signed (tame_bufferLen _)
  | bufferGet handle index => exact slotStep_signed (tame_view fun _ _ => rfl)
  | bufferDataPtr handle offset length =>
    exact slotStep_window (tame_onStore (storeTame_bufferDataPtr _ _ _))
  | operatorNewMemory => exact slotStep_handle (tame_operatorNewMemory lib)
  | registeredSchemes => exact slotStep_handle (tame_onStore (storeTame_insertBuffer _))
  | operatorBuilderNew scheme => exact slotStep_handle (tame_operatorBuilderNew lib _)
  | operatorBuilderSet builder key value =>
    exact slotStep_status (tame_operatorBuilderSet lib _ _ _)
  | operatorBuilderBuild builder => exact slotStep_handle (tame_operatorBuilderBuild lib _)
  | operatorInfoScheme handle =>
    exact slotStep_handle (tame_onStore (storeTame_operatorInfoBuffer _ _ _))
  | operatorInfoRoot handle =>
    exact slotStep_handle (tame_onStore (storeTame_operatorInfoBuffer _ _ _))
  | operatorInfoName handle =>
    exact slotStep_handle (tame_onStore (storeTame_operatorInfoBuffer _ _ _))
  | operatorInfoCapabilityWord handle word => exact slotStep_capabilityWord lib.info handle word
  | operatorWrite operator path data => exact slotStep_status (tame_operatorWrite lib _ _ _)
  | operatorRead operator path => exact slotStep_handle (tame_operatorRead lib _ _)
  | operatorStat operator path => exact slotStep_handle (tame_operatorStat lib _ _)
  | operatorWriteStart operator path data =>
    exact slotStep_handle (tame_startWriteTask lib _ _ _ _)
  | operatorWriteOptionsStart operator path data scalars =>
    exact slotStep_handle ((tame_writeOptionsFromScalars _ _).bind fun _ =>
      tame_startWriteTask lib _ _ _ _)
  | operatorReadStart operator path => exact slotStep_handle (tame_startReadTask lib _ _ _)
  | operatorReadOptionsStart operator path range texts =>
    exact slotStep_handle (tame_operatorReadOptionsStart lib _ _ _ _)
  | operatorStatStart operator path => exact slotStep_handle (tame_startStatTask lib _ _ _)
  | operatorStatOptionsStart operator path texts =>
    exact slotStep_handle ((tame_statOptionsFromScalars _ _).bind fun _ =>
      tame_startStatTask lib _ _ _)
  | operatorCreateDirStart operator path =>
    exact slotStep_handle ((tame_pathAndOperator _ _ _).bind fun _ => tame_startTask _)
  | operatorDeleteStart operator path version recursive =>
    exact slotStep_handle (tame_startDeleteTask lib _ _ _ _)
  | operatorListStart operator path scalars =>
    exact slotStep_handle ((tame_listInputs lib _ _ _).bind fun _ => tame_startTask _)
  | operatorCopyStart operator source target =>
    exact slotStep_handle ((tame_endsAndOperator lib _ _ _).bind fun _ => tame_startTask _)
  | operatorRenameStart operator source target =>
    exact slotStep_handle ((tame_endsAndOperator lib _ _ _).bind fun _ => tame_startTask _)
  | operatorReadStreamStart operator path chunkSize range texts =>
    exact slotStep_handle (tame_operatorReadStreamStart lib _ _ _ _ _)
  | readStreamNextStart handle => exact slotStep_handle (tame_start _ _ _)
  | operatorWriterStart operator path scalars =>
    exact slotStep_handle ((tame_writeOptionsFromScalars _ _).bind fun _ =>
      tame_startWriter lib _ _ _)
  | writerWriteStart writer data => exact slotStep_handle (tame_writerWriteStart _ _ _)
  | writerFinishStart writer => exact slotStep_handle (tame_writerFinishStart _)
  | writerAbortStart writer => exact slotStep_handle (tame_writerAbortStart _)
  | operatorListerStart operator path scalars =>
    exact slotStep_handle ((tame_listInputs lib _ _ _).bind fun _ => tame_startTask _)
  | listerNextStart handle => exact slotStep_handle (tame_start _ _ _)
  | taskState handle => exact slotStep_code _ (tame_view fun _ _ => rfl)
  | taskCancel handle => exact slotStep_status (tame_ownedTaskCancel _)
  | taskRelease handle => exact slotStep_status (tame_ownedTaskRelease _)
  | completionKind handle => exact slotStep_code _ (tame_view fun _ _ => rfl)
  | completionStatus handle => exact slotStep_code _ (tame_view fun _ _ => rfl)
  | completionIsEnd handle => exact slotStep_signed (tame_view fun _ _ => rfl)
  | taskTake handle | completionTakeReadStream handle | completionTakeWriter handle
  | completionTakeLister handle | completionTakeBuffer handle | completionTakeMetadata handle
  | completionTakeMetadataSnapshot handle | completionTakeEntryList handle
  | completionTakeError handle | errorSnapshotTake handle => exact slotStep_transfer _ _ _
  | entryListMetadataSnapshot handle index => exact slotStep_transfer _ _ _
  | entryListLen handle =>
    exact slotStep_signed ((tame_onStore (storeTame_entryListLen _)).bind fun _ => tame_pure _)
  | entryListPath handle index =>
    exact slotStep_handle (tame_onStore (storeTame_entryListText _ _ _ _))
  | entryListName handle index =>
    exact slotStep_handle (tame_onStore (storeTame_entryListText _ _ _ _))
  | entryListMode handle index => exact slotStep_signed (tame_view fun _ _ => rfl)
  | entryListContentLength handle index => exact slotStep_word (tame_view fun _ _ => rfl)
  | metadataContentLengthLow handle => exact slotStep_code _ (tame_view fun _ _ => rfl)
  | metadataContentLengthHigh handle => exact slotStep_code _ (tame_view fun _ _ => rfl)
  | metadataIsFile handle => exact slotStep_signed (tame_view fun _ _ => rfl)
  | metadataMode handle => exact slotStep_signed (tame_view fun _ _ => rfl)
  | errorCode handle => exact slotStep_code _ (tame_view fun _ _ => rfl)
  | errorMessage handle => exact slotStep_handle (tame_errorMessage _)
  | bufferRelease handle | operatorBuilderRelease handle | readStreamRelease handle
  | writerRelease handle | listerRelease handle | completionRelease handle
  | entryListRelease handle | operatorRelease handle | metadataRelease handle
  | errorRelease handle => exact slotStep_release _ _

/-! ## The exports about the last error -/

/-- No resource gets the handle 0. -/
theorem insert_ne_zero {ρ : Type} {a a' : Arena ρ} {r : ρ} {handle : UInt32} (ha : a.Valid)
    (h : a.insert r = (.ok handle, a')) : handle ≠ 0 := by
  rcases Arena.insert_cases a r with ⟨i, g, hslot, -, heq⟩ | ⟨-, hlen, heq⟩ | ⟨-, -, heq⟩
  · rw [heq] at h
    cases h
    exact encodeHandle_ne_zero (ha.index_lt hslot) g
  · rw [heq] at h
    cases h
    exact encodeHandle_ne_zero (Nat.lt_of_le_of_ne ha.slots_le hlen) 1
  · rw [heq] at h
    cases h

section Special

variable {s : BridgeState O S W L} (lib : Library O)

/-- What `last_error_take` does: an instance that is torn down drops the error, an empty slot
gives nothing, and otherwise the error moves into a handle or, with no slot left for it, gives
way to the error of the insertion. -/
theorem take_cases (s : BridgeState O S W L) :
    (s.tornDown = true ∧ Export.lastErrorTake.run s lib = (.handle 0, clearLastError s)) ∨
      (s.tornDown = false ∧ s.lastError = none ∧
        Export.lastErrorTake.run s lib = (.handle 0, s)) ∨
      (∃ e handle arena, s.tornDown = false ∧ s.lastError = some e ∧
        s.arena.insert (.error e) = (.ok handle, arena) ∧
        Export.lastErrorTake.run s lib =
          (.handle handle, { s with arena := arena, lastError := none })) ∨
      ∃ e, s.tornDown = false ∧ s.lastError = some e ∧
        s.arena.insert (.error e) = (.error .handleLimit, s.arena) ∧
        Export.lastErrorTake.run s lib = (.handle 0, { s with lastError := some .handleLimit }) := by
  have hrun : ∀ result store, Store.lastErrorTake s.toStore = (result, store) →
      Export.lastErrorTake.run s lib =
        (match result with
        | .ok handle => (.handle handle, { s with toStore := store })
        | .error e => (.handle 0, recordError e { s with toStore := store })) := by
    intro result store htake
    show handleReply s (onStore Store.lastErrorTake) = _
    unfold handleReply handleOrRecordError valueOr onStore
    rw [htake]
    cases result <;> rfl
  rcases Bool.eq_false_or_eq_true s.tornDown with htorn | htorn
  · refine Or.inl ⟨htorn, ?_⟩
    exact hrun (.ok 0) { s.toStore with lastError := none }
      (by unfold Store.lastErrorTake; rw [if_pos htorn]; rfl)
  have hrunning : ¬ s.tornDown = true := by
    rw [htorn]
    exact Bool.false_ne_true
  refine Or.inr ?_
  rcases Option.eq_none_or_eq_some s.lastError with herror | ⟨e, herror⟩
  · refine Or.inl ⟨htorn, herror, ?_⟩
    refine hrun (.ok 0) s.toStore ?_
    unfold Store.lastErrorTake
    rw [if_neg hrunning]
    simp only [herror]
    rfl
  refine Or.inr ?_
  cases hinsert : s.arena.insert (.error e) with
  | mk result arena =>
    cases result with
    | ok handle =>
      refine Or.inl ⟨e, handle, arena, htorn, herror, hinsert, ?_⟩
      refine hrun (.ok handle) { s.toStore with arena := arena, lastError := none } ?_
      unfold Store.lastErrorTake
      rw [if_neg hrunning]
      simp only [herror, hinsert]
      rfl
    | error error =>
      obtain ⟨rfl, rfl⟩ := Arena.insert_error hinsert
      refine Or.inr ⟨e, htorn, herror, hinsert, ?_⟩
      refine hrun (.error .handleLimit) { s.toStore with lastError := some .handleLimit } ?_
      unfold Store.lastErrorTake
      rw [if_neg hrunning]
      simp only [herror, hinsert]
      rfl

theorem valid_valueOr {x : BridgeCall O S W L α} (hx : Tame x) (failed : BridgeError → α)
    (hs : s.toStore.Valid) : (valueOr failed x s).2.toStore.Valid :=
  (slotStep_valueOr hx (fun _ => Reply.trap) failed).valid s hs

theorem valid_canaryStaleHandleRejected (hs : s.toStore.Valid) :
    (canaryStaleHandleRejected s).2.toStore.Valid := by
  have hnew : Tame (bufferNew : BridgeCall O S W L UInt32) :=
    tame_onStore (storeTame_insertBuffer [])
  have hrelease : ∀ handle, Tame (onStore (Store.releaseResource handle .buffer) >>= fun _ =>
      pure 0 : BridgeCall O S W L UInt32) := fun handle =>
    (tame_onStore (storeTame_releaseResource handle .buffer)).bind fun _ => tame_pure 0
  have hclear : ∀ t : BridgeState O S W L, t.toStore.Valid → (clearLastError t).toStore.Valid :=
    fun t ht => ht.update ht.arena fun _ => rfl
  have hfirst := valid_valueOr hnew (fun _ => 0) (hclear s hs)
  have hreleased := valid_valueOr (hrelease (handleOrRecordError bufferNew (clearLastError s)).1)
    BridgeError.code hfirst
  have hsecond := valid_valueOr hnew (fun _ => 0) hreleased
  have hlength := valid_valueOr (tame_bufferLen
    (handleOrRecordError bufferNew (clearLastError s)).1) (fun _ => SCALAR_ERROR) hsecond
  unfold canaryStaleHandleRejected
  dsimp only
  split_ifs
  · exact hfirst
  · exact hreleased
  · exact hsecond
  · exact valid_valueOr (hrelease _) BridgeError.code (hclear _ hlength)
  · exact valid_valueOr (hrelease _) BridgeError.code (hclear _ hlength)

theorem valid_run (hs : s.toStore.Valid) (called : Export) :
    (called.run s lib).2.toStore.Valid := by
  by_cases hordinary : called.Ordinary
  · exact (slotStep_run lib hordinary).valid s hs
  cases called with
  | teardown => exact ⟨Arena.valid_empty, fun _ => rfl⟩
  | canaryStaleHandleRejected => exact valid_canaryStaleHandleRejected hs
  | lastErrorCode => exact hs
  | lastErrorTake =>
    rcases take_cases lib s with ⟨-, h⟩ | ⟨-, -, h⟩ | ⟨e, handle, arena, htorn, -, hinsert, h⟩ |
        ⟨e, -, -, -, h⟩
    · rw [h]
      exact hs.update hs.arena fun _ => rfl
    · rw [h]
      exact hs
    · rw [h]
      refine hs.update (hs.arena.insert hinsert) fun h => ?_
      rw [htorn] at h
      cases h
    · rw [h]
      exact hs.update hs.arena fun _ => rfl
  | lastErrorClear => exact hs.update hs.arena fun _ => rfl
  | _ => exact absurd trivial hordinary

end Special

/-! ## The law of the slot -/

section Law

variable (lib : Library O) (s : BridgeState O S W L)

/-- The error that a call fails with: what it leaves in an empty slot. -/
def Export.failure (called : Export) : Option BridgeError :=
  errorSlot.failure (fun s => called.run s lib) s

/-- The calls that empty the slot on purpose, with `state.last_error = None`. -/
def Export.Clears : Export → Prop
  | .lastErrorClear | .canaryStaleHandleRejected => True
  | .lastErrorTake => s.tornDown = true
  | _ => False

/-- The events at which the last error may change. -/
inductive Ends : BridgeEvent O S W L → Prop where
  | failing (lib : Library O) (called : Export) (hcalled : called ≠ .lastErrorTake)
      (hfails : called.failure lib s ≠ none) : Ends (.call lib called)
  | clear (lib : Library O) (called : Export) (hclears : called.Clears s) : Ends (.call lib called)
  | teardown (lib : Library O) : Ends (.call lib .teardown)
  | taken (lib : Library O) (handle : UInt32)
      (hreply : (Export.lastErrorTake.run s lib).1 = .handle handle) (hhandle : handle ≠ 0) :
      Ends (.call lib .lastErrorTake)

/-- How the last error is recorded, kept and handed over. -/
structure SlotLaw (event : BridgeEvent O S W L) : Prop where
  recorded : ∀ lib called e, event = .call lib called → called ≠ .lastErrorTake →
    called.failure lib s = some e → (stepBridge s event).2.lastError = some e
  stays : ¬ Ends s event → (stepBridge s event).2.lastError = s.lastError
  delivered : ∀ lib handle, event = .call lib .lastErrorTake →
    (Export.lastErrorTake.run s lib).1 = .handle handle → handle ≠ 0 →
      ∃ e, s.lastError = some e ∧ ¬ s.arena.Issued handle ∧
        (stepBridge s event).2.arena.get? handle = some (.error e)

/-- A `last_error_take` on a running instance without a slot for the error, which is another one
than the error of the insertion. -/
def Overwrites (event : BridgeEvent O S W L) : Prop :=
  ∃ lib e, event = .call lib .lastErrorTake ∧ s.tornDown = false ∧ s.arena.canInsert = false ∧
    s.lastError = some e ∧ e ≠ .handleLimit

variable {s}

theorem lastError_ordinary {called : Export} (h : called.Ordinary) :
    (called.run s lib).2.lastError = (called.failure lib s).or s.lastError :=
  (slotStep_run lib h).writeOnly.get_eq s

/-- A call that fails leaves its error. -/
theorem lastError_of_failure {called : Export} {e : BridgeError}
    (h : called.failure lib s = some e) : (called.run s lib).2.lastError = some e ∨
      called = .lastErrorTake := by
  by_cases hordinary : called.Ordinary
  · left
    rw [lastError_ordinary lib hordinary, h, Option.some_or]
  cases called with
  | lastErrorTake => exact Or.inr rfl
  | canaryStaleHandleRejected => exact Or.inl h
  | teardown => cases h
  | lastErrorCode => cases h
  | lastErrorClear => cases h
  | _ => exact absurd trivial hordinary

theorem lastError_of_stays {called : Export} (hcalled : called ≠ .lastErrorTake)
    (h : ¬ Ends s (.call lib called)) : (called.run s lib).2.lastError = s.lastError := by
  by_cases hordinary : called.Ordinary
  · have hnone : called.failure lib s = none := by
      by_contra hfails
      exact h (.failing lib called hcalled hfails)
    rw [lastError_ordinary lib hordinary, hnone, Option.none_or]
  cases called with
  | lastErrorTake => exact absurd rfl hcalled
  | canaryStaleHandleRejected => exact absurd (.clear lib _ trivial) h
  | teardown => exact absurd (.teardown lib) h
  | lastErrorCode => rfl
  | lastErrorClear => exact absurd (.clear lib _ trivial) h
  | _ => exact absurd trivial hordinary

/-- The executor has nothing to do with the last error. -/
theorem lastError_publish (event : BridgeEvent O S W L)
    (h : ∀ lib called, event ≠ .call lib called) :
    (stepBridge s event).2.lastError = s.lastError := by
  cases event with
  | call lib called => exact absurd rfl (h lib called)
  | publishTask task completion =>
    show (publishOwnedTask task completion s).lastError = s.lastError
    unfold publishOwnedTask
    split <;> rfl
  | publishResourceTask task lease update completion =>
    show (publishOwnedResourceTask task lease update completion s).lastError = s.lastError
    unfold publishOwnedResourceTask
    split
    · split_ifs
      · rfl
      · dsimp only
        split
        · split_ifs <;> rfl
        · rfl
    · rfl
  | forcedPendingPoll => rfl

/-- With an error in the slot and no slot in the arena, the error is lost. -/
theorem take_of_full (hs : s.toStore.Valid) (htorn : s.tornDown = false)
    (hfull : s.arena.canInsert = false) {e : BridgeError} (herror : s.lastError = some e) :
    Export.lastErrorTake.run s lib = (.handle 0, { s with lastError := some .handleLimit }) := by
  obtain ⟨error, arena, hinsert⟩ := (insert_fails_iff hs.arena (.error e)).mpr hfull
  rcases take_cases lib s with ⟨htorn', -⟩ | ⟨-, hnone, -⟩ |
      ⟨e', handle, arena', -, herror', hinsert', -⟩ | ⟨e', -, -, -, hrun⟩
  · rw [htorn] at htorn'
    cases htorn'
  · rw [herror] at hnone
    cases hnone
  · rw [herror] at herror'
    cases herror'
    rw [hinsert] at hinsert'
    cases hinsert'
  · exact hrun

/-- A handle that a take gives is new and owns the error that was in the slot. -/
theorem take_delivers (hs : s.toStore.Valid) {handle : UInt32}
    (hreply : (Export.lastErrorTake.run s lib).1 = .handle handle) (hhandle : handle ≠ 0) :
    ∃ e, s.lastError = some e ∧ ¬ s.arena.Issued handle ∧
      (Export.lastErrorTake.run s lib).2.arena.get? handle = some (.error e) := by
  rcases take_cases lib s with ⟨-, hrun⟩ | ⟨-, -, hrun⟩ |
      ⟨e, target, arena, -, herror, hinsert, hrun⟩ | ⟨-, -, -, -, hrun⟩
  · rw [hrun] at hreply
    cases hreply
    exact absurd rfl hhandle
  · rw [hrun] at hreply
    cases hreply
    exact absurd rfl hhandle
  · rw [hrun] at hreply ⊢
    cases hreply
    refine ⟨e, herror, (Arena.view_insert hs.arena hinsert).1, ?_⟩
    exact (hs.arena.get?_insert hinsert handle).trans (if_pos rfl)
  · rw [hrun] at hreply
    cases hreply
    exact absurd rfl hhandle

/-- A take that gives no handle leaves the slot alone, unless it clears or overwrites it. -/
theorem lastError_take_of_stays (hs : s.toStore.Valid) (h : ¬ Ends s (.call lib .lastErrorTake))
    (hnot : ¬ Overwrites s (.call lib .lastErrorTake)) :
    (Export.lastErrorTake.run s lib).2.lastError = s.lastError := by
  rcases take_cases lib s with ⟨htorn, -⟩ | ⟨-, -, hrun⟩ |
      ⟨e, handle, arena, -, -, hinsert, hrun⟩ | ⟨e, htorn, herror, hinsert, hrun⟩
  · exact absurd (.clear lib _ htorn) h
  · rw [hrun]
  · refine absurd (.taken lib handle ?_ (insert_ne_zero hs.arena hinsert)) h
    rw [hrun]
  · have hfull : s.arena.canInsert = false :=
      (insert_fails_iff hs.arena _).mp ⟨_, _, hinsert⟩
    have hlimit : e = .handleLimit := by
      by_contra hother
      exact hnot ⟨lib, e, rfl, htorn, hfull, herror, hother⟩
    rw [hrun, herror, hlimit]

/-- The law holds of every event but the take that overwrites the error. -/
theorem slotLaw_iff (hs : s.toStore.Valid) (event : BridgeEvent O S W L) :
    SlotLaw s event ↔ ¬ Overwrites s event := by
  constructor
  · intro hlaw hover
    obtain ⟨lib, e, rfl, htorn, hfull, herror, hother⟩ := hover
    have hrun := take_of_full lib hs htorn hfull herror
    have hends : ¬ Ends s (.call lib .lastErrorTake) := by
      intro hends
      cases hends with
      | failing lib called hcalled hfails => exact hcalled rfl
      | clear lib called hclears =>
        rw [show s.tornDown = true from hclears] at htorn
        cases htorn
      | taken lib handle hreply hhandle =>
        rw [hrun] at hreply
        cases hreply
        exact hhandle rfl
    have hsame : (Export.lastErrorTake.run s lib).2.lastError = s.lastError := hlaw.stays hends
    rw [hrun, herror] at hsame
    exact hother (Option.some.inj hsame).symm
  · intro hnot
    refine ⟨?_, ?_, ?_⟩
    · intro lib called e hevent hcalled hfails
      rw [hevent]
      rcases lastError_of_failure lib hfails with hleft | htake
      · exact hleft
      · exact absurd htake hcalled
    · intro hends
      cases event with
      | call lib called =>
        by_cases hcalled : called = .lastErrorTake
        · rw [hcalled] at hends hnot ⊢
          exact lastError_take_of_stays lib hs hends hnot
        · exact lastError_of_stays lib hcalled hends
      | publishTask task completion => exact lastError_publish _ fun _ _ h => by cases h
      | publishResourceTask task lease update completion =>
        exact lastError_publish _ fun _ _ h => by cases h
      | forcedPendingPoll => rfl
    · intro lib handle hevent hreply hhandle
      rw [hevent]
      exact take_delivers lib hs hreply hhandle

end Law

/-! ## Runs -/

section Runs

theorem valid_publishOwnedTask {s : BridgeState O S W L} (hs : s.toStore.Valid) (task : UInt32)
    (completion : Completion S W L) : (publishOwnedTask task completion s).toStore.Valid := by
  unfold publishOwnedTask
  split
  · rename_i htask
    obtain ⟨r, hr⟩ := resource_of_borrow htask
    exact hs.write hr
  · exact hs

theorem valid_publishOwnedResourceTask {s : BridgeState O S W L} (hs : s.toStore.Valid)
    (task : UInt32) (lease : ResourceLease) (update : OwnedUpdate S W L)
    (completion : Completion S W L) :
    (publishOwnedResourceTask task lease update completion s).toStore.Valid := by
  unfold publishOwnedResourceTask
  split
  · rename_i current htask
    obtain ⟨r, hr⟩ := resource_of_borrow htask
    have harena := valid_apply hs.arena lease update
    split_ifs
    · exact hs
    · dsimp only
      split
      · rename_i current' htask'
        obtain ⟨r', hr'⟩ := resource_of_borrow htask'
        split_ifs
        · exact hs.update (harena.write hr') fun h => absurd h (hs.found hr)
        · exact hs.update harena fun h => absurd h (hs.found hr)
      · exact hs.update harena fun h => absurd h (hs.found hr)
  · exact hs

theorem valid_stepBridge {s : BridgeState O S W L} (hs : s.toStore.Valid)
    (event : BridgeEvent O S W L) : (stepBridge s event).2.toStore.Valid := by
  cases event with
  | call lib called => exact valid_run lib hs called
  | publishTask task completion => exact valid_publishOwnedTask hs task completion
  | publishResourceTask task lease update completion =>
    exact valid_publishOwnedResourceTask hs task lease update completion
  | forcedPendingPoll => exact hs

/-- The state after a run. -/
def after (s : BridgeState O S W L) (events : List (BridgeEvent O S W L)) : BridgeState O S W L :=
  (runBridge s events).2

theorem after_cons (s : BridgeState O S W L) (event : BridgeEvent O S W L)
    (events : List (BridgeEvent O S W L)) :
    after s (event :: events) = after (stepBridge s event).2 events := rfl

theorem after_call {s t : BridgeState O S W L} {lib : Library O} {called : Export} {reply : Reply}
    (h : called.run s lib = (reply, t)) : after s [.call lib called] = t := by
  show (called.run s lib).2 = t
  rw [h]

theorem after_append (s : BridgeState O S W L) (events later : List (BridgeEvent O S W L)) :
    after s (events ++ later) = after (after s events) later := by
  induction events generalizing s with
  | nil => rfl
  | cons event events ih => exact ih _

theorem valid_after {s : BridgeState O S W L} (hs : s.toStore.Valid)
    (events : List (BridgeEvent O S W L)) : (after s events).toStore.Valid := by
  induction events generalizing s with
  | nil => exact hs
  | cons event events ih => exact ih (valid_stepBridge hs event)

/-- No event of the run ends the stay of the last error or overwrites it. -/
def Undisturbed : BridgeState O S W L → List (BridgeEvent O S W L) → Prop
  | _, [] => True
  | s, event :: events =>
    ¬ Ends s event ∧ ¬ Overwrites s event ∧ Undisturbed (stepBridge s event).2 events

theorem lastError_undisturbed {s : BridgeState O S W L} (hs : s.toStore.Valid)
    {events : List (BridgeEvent O S W L)} (h : Undisturbed s events) :
    (after s events).lastError = s.lastError := by
  induction events generalizing s with
  | nil => rfl
  | cons event events ih =>
    obtain ⟨hends, hover, hrest⟩ := h
    rw [after_cons, ih (valid_stepBridge hs event) hrest]
    exact ((slotLaw_iff hs event).mpr hover).stays hends

end Runs

section Full

/-- A library without operators. -/
def emptyLibrary : Library Empty where
  newMemory := .error .asyncPending
  schemes := []
  viaIter _ _ := .error .asyncPending
  info operator := operator.elim
  write operator := operator.elim
  read operator := operator.elim
  stat operator := operator.elim
  tryReserve _ := true

/-- An instance with `n` empty buffers. -/
def filled (n : Nat) : BridgeState Empty Empty Empty Empty :=
  { arena := { slots := List.replicate n ⟨1, some (.buffer [])⟩, live := UInt32.ofNat n } }

theorem insert_filled {n : Nat} (h : n ≠ maxSlots) :
    (filled n).arena.insert (.buffer []) = (.ok (encodeHandle n 1), (filled (n + 1)).arena) := by
  have hlength : (filled n).arena.slots.length = n := List.length_replicate
  rcases Arena.insert_cases (filled n).arena (.buffer []) with
    ⟨i, g, hslot, -, -⟩ | ⟨-, -, heq⟩ | ⟨-, hfull, -⟩
  · have hmem := List.eq_of_mem_replicate (List.mem_of_getElem? hslot)
    cases hmem
  · rw [heq, hlength]
    simp [filled, List.replicate_succ', UInt32.ofNat_add]
  · rw [hlength] at hfull
    exact absurd hfull h

theorem filled_new {n : Nat} (h : n ≠ maxSlots) :
    (Export.bufferNew.run (filled n) emptyLibrary).2 = filled (n + 1) := by
  show (handleReply (filled n) bufferNew).2 = _
  have hnew : (bufferNew : BridgeCall Empty Empty Empty Empty UInt32) (filled n) =
      (.ok (encodeHandle n 1), filled (n + 1)) := by
    unfold bufferNew onStore Store.insertBuffer Store.insertResource
    simp only [insert_filled h]
    rfl
  unfold handleReply handleOrRecordError valueOr
  rw [hnew]

theorem after_filled (m : Nat) : ∀ n, n + m ≤ maxSlots →
    after (filled n) (List.replicate m (.call emptyLibrary .bufferNew)) = filled (n + m) := by
  induction m with
  | zero =>
    intro n _
    rfl
  | succ m ih =>
    intro n h
    rw [List.replicate_succ, after_cons]
    show after (Export.bufferNew.run (filled n) emptyLibrary).2 _ = _
    rw [filled_new (by omega), ih (n + 1) (by omega)]
    congr 1
    omega

/-- Every slot of the arena holds a buffer, and the length of one that never existed is asked. -/
def exhausted : List (BridgeEvent Empty Empty Empty Empty) :=
  List.replicate maxSlots (.call emptyLibrary .bufferNew) ++ [.call emptyLibrary (.bufferLen 0)]

theorem after_exhausted :
    after {} exhausted = { filled maxSlots with lastError := some (.invalidHandle 0) } := by
  have hempty : ({} : BridgeState Empty Empty Empty Empty) = filled 0 := rfl
  unfold exhausted
  rw [after_append, hempty, after_filled maxSlots 0 (by omega), Nat.zero_add]
  rfl

theorem canInsert_exhausted : (after {} exhausted).arena.canInsert = false := by
  rw [after_exhausted]
  unfold Arena.canInsert filled
  simp [Slot.free]

end Full

end OpendalMbt.Bridge
