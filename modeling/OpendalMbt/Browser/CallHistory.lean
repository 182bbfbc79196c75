import OpendalMbt.Bridge.HandleHistory
import OpendalMbt.Browser.Completion
import OpendalMbt.Browser.Request

/-!
# No call of the runtime forgets a handle

The calls of `wasm/browser-runtime/index.mjs` leave a later arena behind, whichever way they end.

* `Aging`: such a call on the store, with its rules;
* `aging_settleCompletion`, `aging_pollTask`: the settlement of a task;
* `Lasting`: such a call on the whole state of the bridge; `older_start`: the start of a request.
-/

namespace OpendalMbt.Browser

open Codec Bridge Transition FacadeCall

variable {O S W L : Type} {α β : Type}

/-! ## Calls on the store -/

def Older (s t : Store O S W L) : Prop := s.arena.Later t.arena

theorem Older.trans (s t u : Store O S W L) (h : Older s t) (h' : Older t u) : Older s u :=
  Arena.Later.trans h h'

def Aging (x : FacadeCall O S W L α) : Prop := Call.Follows Older x

section Rules

variable {x : FacadeCall O S W L α} {f : α → FacadeCall O S W L β}

theorem aging_pure (a : α) : Aging (pure a : FacadeCall O S W L α) :=
  Call.Follows.pure (fun s => .refl s.arena) a

theorem aging_throw (e : Failure) : Aging (Call.throw e : FacadeCall O S W L α) :=
  Call.Follows.throw (fun s => .refl s.arena) e

theorem Aging.bind (hx : Aging x) (hf : ∀ a, Aging (f a)) : Aging (x >>= f) :=
  Call.Follows.bind Older.trans hx hf

theorem Aging.tryFinally (hx : Aging x) {cleanup : Store O S W L → Store O S W L}
    (hcleanup : ∀ s, Older s (cleanup s)) : Aging (Call.tryFinally x cleanup) :=
  Call.Follows.tryFinally Older.trans hx hcleanup

theorem Aging.onError (hx : Aging x) {cleanup : Store O S W L → Store O S W L}
    (hcleanup : ∀ s, Older s (cleanup s)) : Aging (Call.onError x cleanup) :=
  Call.Follows.onError Older.trans hx hcleanup

theorem aging_modify {f : Store O S W L → Store O S W L} (hf : ∀ s, Older s (f s)) :
    Aging (Call.modify f) := hf

theorem aging_fail (message : String) : Aging (fail message : FacadeCall O S W L α) :=
  aging_throw _

theorem aging_clearLastError : Aging (clearLastError : FacadeCall O S W L Unit) :=
  aging_modify fun s => .refl s.arena

end Rules

/-! ## Errors and buffers -/

section Errors

variable {report : Context → String → FacadeCall O S W L (ErrorOutcome JsString)}
variable (hreport : ∀ context message, Aging (report context message))

theorem aging_lastErrorTake : Aging (lastErrorTake : FacadeCall O S W L UInt32) := by
  intro s
  have hlater := ages_lastErrorTake s
  unfold lastErrorTake
  split <;> rename_i hran <;> rwa [hran] at hlater

include hreport in
theorem aging_expectValue {f : Store O S W L → Except BridgeError α × Store O S W L} (hf : Ages f)
    (context : Context) (fallbackMessage : String) :
    Aging (expectValue report f context fallbackMessage) := by
  intro s
  have hlater := hf s
  unfold expectValue
  split <;> rename_i hran <;> rw [hran] at hlater
  · exact hlater
  · exact hlater.trans (((hreport context fallbackMessage).bind fun e => aging_throw _) _)

include hreport in
theorem aging_expectMoved {f : Store O S W L → Option UInt32 × Store O S W L} (hf : Ages f)
    (context : Context) (fallbackMessage : String) :
    Aging (expectMoved report f context fallbackMessage) := by
  intro s
  have hlater := hf s
  unfold expectMoved
  split <;> rename_i hran <;> rw [hran] at hlater
  · exact hlater
  · split
    · exact hlater.trans (((hreport context fallbackMessage).bind fun e => aging_throw _) _)
    · exact hlater

include hreport in
theorem aging_readWindows (handle : UInt32) (length windows offset : Nat) :
    Aging (readWindows report handle length windows offset) := by
  induction windows generalizing offset with
  | zero => exact aging_pure _
  | succ windows ih =>
    unfold readWindows
    apply aging_clearLastError.bind
    intro _
    apply (aging_expectValue hreport (ages_bufferDataPtr handle offset _) _ _).bind
    intro part
    exact (ih (offset + maxTransferChunk)).bind fun rest => aging_pure _

include hreport in
theorem aging_takeBufferWith (handle : UInt32) : Aging (takeBufferWith report handle) := by
  unfold takeBufferWith
  refine Aging.tryFinally ?_ fun s => ages_releaseResource handle .buffer s
  apply aging_clearLastError.bind
  intro _
  apply (aging_expectValue hreport (ages_bufferLen handle) _ _).bind
  intro length
  split
  · exact aging_fail _
  · exact aging_readWindows hreport handle length _ 0

theorem aging_takeLastErrorWithoutSnapshot :
    Aging (takeLastErrorWithoutSnapshot : FacadeCall O S W L String) := by
  unfold takeLastErrorWithoutSnapshot
  apply aging_lastErrorTake.bind
  intro handle
  split
  · exact aging_pure _
  · exact (aging_modify fun s => ages_releaseResource handle .error s).bind fun _ => aging_pure _

theorem aging_decodedError (bytes : List UInt8) (context : Context) :
    Aging (decodedError bytes context : FacadeCall O S W L (ErrorOutcome JsString)) := by
  unfold decodedError
  split
  · exact aging_throw _
  · exact aging_pure _

include hreport in
theorem aging_takeErrorWith (tryReserve : Nat → Bool) (errorHandle : UInt32) (context : Context) :
    Aging (takeErrorWith report tryReserve errorHandle context) := by
  unfold takeErrorWith
  apply aging_clearLastError.bind
  intro _
  refine Aging.bind ?_ fun snapshotHandle => ?_
  · intro s
    have hlater := ages_errorSnapshotTake errorHandle tryReserve s
    dsimp only at hlater ⊢
    split <;> rename_i hran <;> rw [hran] at hlater
    · exact (ages_releaseResource errorHandle .error).after hlater
    · exact hlater
  · split
    · apply Aging.tryFinally
      · exact aging_takeLastErrorWithoutSnapshot.bind fun detail => aging_fail _
      · exact fun s => ages_releaseResource errorHandle .error s
    · exact (aging_takeBufferWith hreport snapshotHandle).bind fun bytes =>
        aging_decodedError bytes context

theorem aging_takeLastErrorAt (tryReserve : Nat → Bool) (depth : Nat) (context : Context)
    (fallbackMessage : String) :
    Aging (O := O) (S := S) (W := W) (L := L)
      (takeLastErrorAt tryReserve depth context fallbackMessage) := by
  induction depth generalizing context fallbackMessage with
  | zero => exact aging_throw _
  | succ depth ih =>
    unfold takeLastErrorAt
    apply aging_lastErrorTake.bind
    intro errorHandle
    split
    · exact aging_pure _
    · exact aging_takeErrorWith ih tryReserve errorHandle context

end Errors

/-! ## The helpers of the facade -/

section Facade

variable (host : Host)

theorem aging_takeLastError (context : Context) (fallbackMessage : String) :
    Aging (O := O) (S := S) (W := W) (L := L) (takeLastError host context fallbackMessage) :=
  aging_takeLastErrorAt host.tryReserve host.depth context fallbackMessage

theorem aging_takeError (errorHandle : UInt32) (context : Context) :
    Aging (O := O) (S := S) (W := W) (L := L) (takeError host errorHandle context) :=
  aging_takeErrorWith (aging_takeLastError host) host.tryReserve errorHandle context

theorem aging_expect {f : Store O S W L → Except BridgeError α × Store O S W L} (hf : Ages f)
    (context : Context) (fallbackMessage : String) :
    Aging (expect host f context fallbackMessage) :=
  aging_expectValue (aging_takeLastError host) hf context fallbackMessage

theorem aging_writeWindows (handle : UInt32) (bytes : List UInt8) (context : Context)
    (windows offset : Nat) :
    Aging (O := O) (S := S) (W := W) (L := L)
      (writeWindows host handle bytes context windows offset) := by
  induction windows generalizing offset with
  | zero => exact aging_pure _
  | succ windows ih =>
    unfold writeWindows
    apply aging_clearLastError.bind
    intro _
    apply (aging_expect host (ages_bufferDataPtr handle offset _) _ _).bind
    intro part
    exact (aging_modify fun s => later_writeWindow handle offset _ s).bind fun _ =>
      ih (offset + maxTransferChunk)

theorem aging_putBytes (bytes : List UInt8) (context : Context) :
    Aging (O := O) (S := S) (W := W) (L := L) (putBytes host bytes context) := by
  unfold putBytes
  apply aging_clearLastError.bind
  intro _
  apply (aging_expect host (ages_bufferNewSized _ _) _ _).bind
  intro handle
  refine Aging.onError ?_ fun s => ages_releaseResource handle .buffer s
  exact (aging_writeWindows host handle bytes context _ _).bind fun _ => aging_pure _

theorem aging_takeBuffer (handle : UInt32) :
    Aging (O := O) (S := S) (W := W) (L := L) (takeBuffer host handle) :=
  aging_takeBufferWith (aging_takeLastError host) handle

theorem aging_takeText (handle : UInt32) :
    Aging (O := O) (S := S) (W := W) (L := L) (takeText host handle) := by
  intro s
  have hlater := aging_takeBuffer host handle s
  unfold takeText
  split <;> rename_i hran <;> rw [hran] at hlater
  · exact hlater
  · exact hlater
  · exact hlater
  · split <;> exact hlater

theorem aging_takeMetadata (handle : UInt32) :
    Aging (O := O) (S := S) (W := W) (L := L) (takeMetadata host handle) := by
  unfold takeMetadata
  apply (aging_takeBuffer host handle).bind
  intro bytes
  split
  · exact aging_throw _
  · exact aging_pure _

theorem aging_takeInfoText (context : Context)
    {f : Store O S W L → Except BridgeError UInt32 × Store O S W L} (hf : Ages f)
    (fallback : String) : Aging (takeInfoText host context f fallback) := by
  unfold takeInfoText
  apply aging_clearLastError.bind
  intro _
  exact (aging_expect host hf context fallback).bind fun handle => aging_takeText host handle

theorem aging_takeEntry (handle : UInt32) (context : Context) (index : UInt32) :
    Aging (O := O) (S := S) (W := W) (L := L) (takeEntry host handle context index) := by
  unfold takeEntry
  apply (aging_takeInfoText host context (ages_entryListText handle _ index true) _).bind
  intro path
  apply (aging_takeInfoText host context (ages_entryListText handle _ index false) _).bind
  intro name
  apply aging_clearLastError.bind
  intro _
  apply (aging_expectMoved (aging_takeLastError host)
    (ages_entryListMetadataSnapshot handle index) _ _).bind
  intro metadataHandle
  exact (aging_takeMetadata host metadataHandle).bind fun metadata => aging_pure _

theorem aging_takeEntries (handle : UInt32) (context : Context) (left index : Nat) :
    Aging (O := O) (S := S) (W := W) (L := L) (takeEntries host handle context left index) := by
  induction left generalizing index with
  | zero => exact aging_pure _
  | succ left ih =>
    unfold takeEntries
    apply (aging_takeEntry host handle context _).bind
    intro entry
    exact (ih (index + 1)).bind fun rest => aging_pure _

theorem aging_listEntries (handle : UInt32) (context : Context) :
    Aging (O := O) (S := S) (W := W) (L := L) (listEntries host handle context) := by
  unfold listEntries
  refine Aging.tryFinally ?_ fun s => ages_releaseResource handle .entryList s
  apply aging_clearLastError.bind
  intro _
  apply (aging_expect host (ages_entryListLen handle) _ _).bind
  intro length
  exact aging_takeEntries host handle context length 0

end Facade

/-! ## The settlement of a task -/

section Settle

variable (host : Host) (context : Context)

theorem older_askedOr (failed : BridgeError → α) (f : BridgeState O S W L → Except BridgeError α)
    (s : Store O S W L) : Older s (askedOr failed f s).2 := by
  have harena : (asked f s).2.arena = s.arena := arena_recorded (f { toStore := s }, s)
  have hlater : s.arena.Later (asked f s).2.arena := by
    rw [harena]
    exact .refl s.arena
  unfold askedOr
  split <;> rename_i hran <;> rwa [hran] at hlater

theorem aging_asked (f : BridgeState O S W L → Except BridgeError α) (fallbackMessage : String) :
    Aging (expect host (asked f) context fallbackMessage) := by
  apply aging_expect
  intro s
  unfold asked
  rw [arena_recorded]
  exact .refl s.arena

theorem aging_askChecked (failed : BridgeError → α)
    (f : BridgeState O S W L → Except BridgeError α) : Aging (askChecked host context failed f) := by
  unfold askChecked
  apply aging_clearLastError.bind
  intro _
  refine Aging.bind (fun s => older_askedOr failed f s) fun answer => ?_
  apply aging_lastErrorTake.bind
  intro errorHandle
  split
  · exact (aging_takeError host errorHandle context).bind fun e => aging_throw _
  · exact aging_pure _

theorem aging_takeInto {f : Store O S W L → Option UInt32 × Store O S W L} (hf : Ages f)
    (fallbackMessage : String) : Aging (takeInto host context f fallbackMessage) := by
  unfold takeInto
  apply aging_clearLastError.bind
  intro _
  exact aging_expectMoved (aging_takeLastError host) hf context fallbackMessage

variable (completion : UInt32)

theorem aging_releaseCompletion (fallbackMessage : String) :
    Aging (O := O) (S := S) (W := W) (L := L)
      (releaseCompletion host completion context fallbackMessage) :=
  aging_expect host (ages_releaseResource completion .completion) context fallbackMessage

theorem aging_takeSuccess (expectedKind : CompletionKind) :
    Aging (O := O) (S := S) (W := W) (L := L)
      (takeSuccess host completion context expectedKind) := by
  cases expectedKind with
  | read | readerNext =>
    exact (aging_takeInto host context (ages_completionTakeBuffer completion) _).bind fun _ =>
      aging_pure _
  | write | stat | copy | writerFinish =>
    exact (aging_takeInto host context
      (ages_completionTakeMetadataSnapshot completion host.tryReserve) _).bind fun _ => aging_pure _
  | list | listerNext =>
    exact (aging_takeInto host context (ages_completionTakeEntryList completion) _).bind fun _ =>
      aging_pure _
  | openReader =>
    exact (aging_takeInto host context
      (ages_transfer .completionTakeReadStream host.tryReserve completion) _).bind fun _ =>
        aging_pure _
  | openWriter =>
    exact (aging_takeInto host context
      (ages_transfer .completionTakeWriter host.tryReserve completion) _).bind fun _ =>
        aging_pure _
  | openLister =>
    exact (aging_takeInto host context
      (ages_transfer .completionTakeLister host.tryReserve completion) _).bind fun _ =>
        aging_pure _
  | createDir | delete | rename | writerWrite | writerAbort =>
    exact (aging_releaseCompletion host context completion _).bind fun _ => aging_pure _

theorem aging_takeNext (expectedKind : CompletionKind) :
    Aging (O := O) (S := S) (W := W) (L := L)
      (takeNext host completion context expectedKind) := by
  unfold takeNext
  apply (aging_askChecked host context _ _).bind
  intro isEnd
  split
  · exact aging_fail _
  split
  · exact (aging_releaseCompletion host context completion _).bind fun _ => aging_pure _
  · exact aging_takeSuccess host context completion expectedKind

theorem aging_takeCompletion (expectedKind : CompletionKind) :
    Aging (O := O) (S := S) (W := W) (L := L)
      (takeCompletion host completion context expectedKind) := by
  unfold takeCompletion
  apply aging_clearLastError.bind
  intro _
  apply (aging_asked host context _ _).bind
  intro actualKind
  split
  · exact aging_fail _
  apply (aging_askChecked host context _ _).bind
  intro status
  split
  · exact (aging_takeInto host context (ages_completionTakeError completion) _).bind fun _ =>
      aging_pure _
  split
  · exact aging_takeNext host context completion expectedKind
  · exact aging_takeSuccess host context completion expectedKind

theorem aging_settleTaken (taken : HandleCall.Taken) :
    Aging (O := O) (S := S) (W := W) (L := L) (settleTaken host context taken) := by
  cases taken with
  | nothing => exact aging_pure _
  | error handle => exact (aging_takeError host handle context).bind fun _ => aging_pure _
  | buffer handle => exact (aging_takeBuffer host handle).bind fun _ => aging_pure _
  | metadata handle => exact (aging_takeMetadata host handle).bind fun _ => aging_pure _
  | list handle => exact (aging_listEntries host handle context).bind fun _ => aging_pure _
  | entry handle =>
    apply (aging_listEntries host handle context).bind
    intro entries
    split
    · exact aging_pure _
    · exact aging_fail _
  | resource handle => exact aging_pure _

theorem aging_settleCompletion (expectedKind : CompletionKind) :
    Aging (O := O) (S := S) (W := W) (L := L)
      (settleCompletion host completion context expectedKind) := by
  unfold settleCompletion
  apply ((aging_takeCompletion host context completion expectedKind).onError
    fun s => ages_releaseResource completion .completion s).bind
  intro taken
  exact aging_settleTaken host context taken

end Settle

section Poll

theorem arena_status {x : BridgeCall O S W L Unit} (s : BridgeState O S W L) :
    (status x s).2.arena = (x s).2.arena := by
  unfold status valueOr
  cases hran : x s with
  | mk result t =>
    cases result with
    | ok value => rw [Call.bind_apply_ok hran, Call.pure_apply]
    | error e =>
      rw [Call.bind_apply_error hran]
      rfl

theorem older_releaseTask (task : UInt32) (s : Store O S W L) : Older s (releaseTask task s) := by
  unfold Older releaseTask
  rw [arena_status]
  exact later_ownedTaskRelease task { toStore := s }

theorem aging_pollTask (host : Host) (task : UInt32) (expectedKind : CompletionKind)
    (context : Context) :
    Aging (O := O) (S := S) (W := W) (L := L) (pollTask host task expectedKind context) := by
  have hrelease : Aging (Call.modify (releaseTask task) : FacadeCall O S W L Unit) :=
    aging_modify (older_releaseTask task)
  unfold pollTask
  apply aging_clearLastError.bind
  intro _
  refine Aging.bind (fun s => older_askedOr _ _ s) fun state => ?_
  split
  · exact aging_pure _
  split
  · exact hrelease.bind fun _ => aging_pure _
  split
  · apply ((aging_takeLastError host context _).onError (older_releaseTask task)).bind
    intro error
    exact hrelease.bind fun _ => aging_pure _
  split
  · apply hrelease.bind
    intro _
    split <;> exact aging_fail _
  · apply ((aging_takeInto host context (ages_taskTake task) _).onError
      (older_releaseTask task)).bind
    intro completion
    apply hrelease.bind
    intro _
    exact (aging_settleCompletion host context completion expectedKind).bind fun _ => aging_pure _

end Poll

/-! ## Starts -/

/-- A call on the state of the bridge that leaves a later arena behind. -/
def Lasting {ε : Type} (x : Call (BridgeState O S W L) ε α) : Prop :=
  Call.Follows (fun s t => Older s.toStore t.toStore) x

section Starts

variable {ε : Type} {x : Call (BridgeState O S W L) ε α} {f : α → Call (BridgeState O S W L) ε β}

theorem lasting_pure (a : α) : Lasting (pure a : Call (BridgeState O S W L) ε α) :=
  Call.Follows.pure (fun s => .refl s.arena) a

theorem Lasting.bind (hx : Lasting x) (hf : ∀ a, Lasting (f a)) : Lasting (x >>= f) :=
  Call.Follows.bind (fun s t u => Older.trans s.toStore t.toStore u.toStore) hx hf

theorem lasting_throw (e : ε) : Lasting (Call.throw e : Call (BridgeState O S W L) ε α) :=
  Call.Follows.throw (fun s => .refl s.arena) e

theorem lasting_view (f : BridgeState O S W L → Except BridgeError α) : Lasting (view f) :=
  fun s => .refl s.arena

theorem lasting_ofExcept (result : Except BridgeError α) :
    Lasting (Bridge.ofExcept result : BridgeCall O S W L α) := fun s => .refl s.arena

theorem lasting_startTask (future : Future O S W L) : Lasting (startTask future) := by
  apply Lasting.bind (x := (Bridge.onStore (Store.insertResource (.task (.pending none))) :
    BridgeCall O S W L UInt32))
  · exact fun s => ages_insertResource _ s.toStore
  · intro task
    exact Lasting.bind (fun s => .refl s.arena) fun _ => lasting_pure task

theorem lasting_start {I T : Type} {F : Lender O S W L I T} (hF : F.Lawful) (handle : UInt32)
    (future : I → Future O S W L) : Lasting (F.start handle future) := by
  unfold Lender.start
  apply Lasting.bind (later_reserve hF handle)
  intro reserved
  obtain ⟨task, lease, inner⟩ := reserved
  exact Lasting.bind (fun s => .refl s.arena) fun _ => lasting_pure task

variable (lib : Library O) (operator path : UInt32)

theorem lasting_pathAndOperator (tryReserve : Nat → Bool) :
    Lasting (pathAndOperator tryReserve operator path : BridgeCall O S W L (O × String)) :=
  (lasting_view _).bind fun _ => (lasting_view _).bind fun _ => lasting_pure _

theorem lasting_endsAndOperator (target : UInt32) :
    Lasting (endsAndOperator lib operator path target : BridgeCall O S W L (O × String × String)) :=
  (lasting_pathAndOperator operator path _).bind fun _ =>
    (lasting_view _).bind fun _ => lasting_pure _

theorem lasting_listInputs (scalars : ListScalars) :
    Lasting (listInputs lib operator path scalars : BridgeCall O S W L _) := by
  unfold listInputs
  apply (lasting_ofExcept _).bind
  intro recursive
  apply (lasting_ofExcept _).bind
  intro limit
  apply (lasting_pathAndOperator operator path _).bind
  intro _
  exact (lasting_view _).bind fun _ => lasting_pure _

theorem lasting_writeOptionsFromScalars (tryReserve : Nat → Bool) (scalars : WriteScalars) :
    Lasting (writeOptionsFromScalars tryReserve scalars : BridgeCall O S W L _) := by
  unfold writeOptionsFromScalars
  apply (lasting_ofExcept _).bind
  intro append
  exact (lasting_view _).bind fun _ => (lasting_view _).bind fun _ => (lasting_view _).bind fun _ =>
    (lasting_view _).bind fun _ => (lasting_view _).bind fun _ => (lasting_view _).bind fun _ =>
      lasting_pure _

theorem lasting_statOptionsFromScalars (tryReserve : Nat → Bool) (texts : ReadTexts) :
    Lasting (statOptionsFromScalars tryReserve texts : BridgeCall O S W L _) := by
  unfold statOptionsFromScalars
  exact (lasting_view _).bind fun _ => (lasting_view _).bind fun _ => (lasting_view _).bind fun _ =>
    lasting_pure _

theorem lasting_startReadTask (options : OpendalMbt.ReadOptions BytesRange) :
    Lasting (startReadTask lib operator path options : BridgeCall O S W L UInt32) := by
  unfold startReadTask
  apply (lasting_pathAndOperator operator path _).bind
  intro _
  exact (lasting_ofExcept _).bind fun _ => lasting_startTask _

theorem lasting_startReadStream (options : Bridge.ReadStreamOptions BytesRange) :
    Lasting (startReadStream lib operator path options : BridgeCall O S W L UInt32) := by
  unfold startReadStream
  apply (lasting_pathAndOperator operator path _).bind
  intro _
  exact (lasting_ofExcept _).bind fun _ => lasting_startTask _

theorem lasting_operatorReadOptionsStart (range : RangeScalars) (texts : ReadTexts) :
    Lasting (Bridge.operatorReadOptionsStart BytesRange.api texts range
      (optionalOwnedUtf8Buffer lib.tryReserve) (startReadTask lib operator path) :
        BridgeCall O S W L UInt32) := by
  intro s
  unfold Bridge.operatorReadOptionsStart
  split
  · exact .refl s.arena
  · exact lasting_startReadTask lib operator path _ s

theorem lasting_operatorReadStreamStart (chunkSize : UInt32) (range : RangeScalars)
    (texts : ReadTexts) :
    Lasting (Bridge.operatorReadStreamStart BytesRange.api texts range
      (optionalOwnedUtf8Buffer lib.tryReserve) (startReadStream lib operator path) chunkSize :
        BridgeCall O S W L UInt32) := by
  intro s
  unfold Bridge.operatorReadStreamStart
  split
  · exact .refl s.arena
  · exact lasting_startReadStream lib operator path _ s

/-! ### Requests -/

theorem older_handleReply {x : BridgeCall O S W L UInt32} (hx : Lasting x)
    (s : BridgeState O S W L) : Older s.toStore (handleReply s x).2.toStore := by
  have hlater := hx s
  unfold handleReply handleOrRecordError valueOr
  cases hran : x s with
  | mk result t =>
    rw [hran] at hlater
    cases result <;> exact hlater

theorem older_request (request : Request) (handles : List UInt32) (s : BridgeState O S W L) :
    Older s.toStore ((request.call operator handles).run s lib).2.toStore := by
  cases request with
  | createDir path =>
    exact older_handleReply ((lasting_pathAndOperator operator _ _).bind fun _ =>
      lasting_startTask _) s
  | write path data options =>
    apply older_handleReply ?_ s
    apply (lasting_writeOptionsFromScalars _ _).bind
    intro options
    apply (lasting_pathAndOperator operator _ _).bind
    intro _
    exact (lasting_view _).bind fun _ => lasting_startTask _
  | read path range conditions =>
    exact older_handleReply (lasting_operatorReadOptionsStart lib operator _ _ _) s
  | stat path conditions =>
    apply older_handleReply ?_ s
    apply (lasting_statOptionsFromScalars _ _).bind
    intro options
    exact (lasting_pathAndOperator operator _ _).bind fun _ => lasting_startTask _
  | delete path options =>
    apply older_handleReply ?_ s
    apply (lasting_ofExcept _).bind
    intro recursive
    apply (lasting_pathAndOperator operator _ _).bind
    intro _
    exact (lasting_view _).bind fun _ => lasting_startTask _
  | list path recursive limit startAfter =>
    exact older_handleReply ((lasting_listInputs lib operator _ _).bind fun _ =>
      lasting_startTask _) s
  | copy source destination =>
    exact older_handleReply ((lasting_endsAndOperator lib operator _ _).bind fun _ =>
      lasting_startTask _) s
  | rename source destination =>
    exact older_handleReply ((lasting_endsAndOperator lib operator _ _).bind fun _ =>
      lasting_startTask _) s
  | openReadStream path chunkSize range conditions =>
    exact older_handleReply (lasting_operatorReadStreamStart lib operator _ _ _ _) s
  | openWriter path options =>
    apply older_handleReply ?_ s
    apply (lasting_writeOptionsFromScalars _ _).bind
    intro options
    exact (lasting_pathAndOperator operator _ _).bind fun _ => lasting_startTask _
  | openLister path recursive limit startAfter =>
    exact older_handleReply ((lasting_listInputs lib operator _ _).bind fun _ =>
      lasting_startTask _) s

variable (host : Host) (context : Context)

theorem older_callHandle {called : Export} {s : BridgeState O S W L}
    (hcalled : Older s.toStore (called.run s lib).2.toStore) (fallbackMessage : String) :
    Older s.toStore (callHandle host context lib called fallbackMessage s).2.toStore := by
  unfold callHandle
  split <;> rename_i hran <;> rw [hran] at hcalled
  · split
    · exact hcalled.trans _ _ _
        (((aging_takeLastError host context fallbackMessage).bind fun e => aging_throw _) _)
    · exact hcalled
  · exact hcalled

theorem older_putInputs (inputs : List (Option (List UInt8))) (handles : List UInt32)
    (s : Store O S W L) : Older s (putInputs host context inputs handles s).2 := by
  induction inputs generalizing handles s with
  | nil => exact .refl s.arena
  | cons input rest ih =>
    cases input with
    | none => exact ih (handles ++ [0]) s
    | some bytes =>
      have hput := aging_putBytes host bytes context s
      unfold putInputs
      split <;> rename_i hran <;> rw [hran] at hput
      · exact hput
      · exact hput.trans _ _ _ (ih _ _)

theorem older_releaseInputs (handles : List UInt32) (s : Store O S W L) :
    Older s (releaseInputs handles s) := by
  unfold releaseInputs
  induction handles.filter (· ≠ 0) generalizing s with
  | nil => exact .refl s.arena
  | cons handle rest ih =>
    have hreleased : Older s (Store.bufferRelease handle s).2 :=
      ages_releaseResource handle .buffer s
    exact hreleased.trans _ _ _ (ih _)

theorem older_start (request : Request) (s : BridgeState O S W L) :
    Older s.toStore (request.start host context lib operator s).2.toStore := by
  have hput := older_putInputs host context request.inputs [] s.toStore
  unfold Request.start
  split <;> rename_i hran <;> rw [hran] at hput
  · exact hput.trans _ _ _ (older_releaseInputs _ _)
  · rename_i handles store
    have hcalled : Older store ((do
        inStore clearLastError
        callHandle host context lib (request.call operator handles) request.fallbackMessage :
          Call (BridgeState O S W L) Failure UInt32) { s with toStore := store }).2.toStore := by
      apply older_callHandle lib host context (s := { s with toStore := store.lastErrorClear })
      exact older_request lib operator request handles _
    exact (hput.trans _ _ _ hcalled).trans _ _ _ (older_releaseInputs _ _)

end Starts

end OpendalMbt.Browser
