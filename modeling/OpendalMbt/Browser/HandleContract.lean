import OpendalMbt.Bridge.Owned
import OpendalMbt.Browser.Child
import OpendalMbt.Transition.Ledger

/-!
# The handles behind the JavaScript runtime

The helpers of `class BridgeFacade` in `wasm/browser-runtime/index.mjs` once more, against a
bridge of which only the handle contract is fixed: a function that makes a handle answers 0
or a handle never given out before, a transfer that answers 0 has changed nothing, and the
release of a live handle succeeds. Whatever else the bridge answers, the last error and the
bytes of its buffers included, is up to the `World` of the event.

* A ledger records every handle that was made and every release or transfer of one.
* Each helper comes with what it owns before and after (`Spends`), however it ends.
-/

namespace OpendalMbt.Browser

open Codec Bridge Transition

structure BridgeHandle where
  kind : ResourceKind
  code : UInt32
  deriving DecidableEq, Repr

/-- What the bridge answers while one event is handled: its scalars in order, and the bytes
behind each buffer. `depth` bounds how deep the error helpers may nest. -/
structure World where
  answers : List Int := []
  memory : UInt32 → Nat → UInt8 := fun _ _ => 0
  depth : Nat := 0

structure HandleBridge where
  ledger : Ledger BridgeHandle := {}
  world : World := {}

/-- The values of the runtime's outcomes. -/
inductive Value where
  | undefined
  | bytes (bytes : List UInt8)
  | metadata (metadata : MetadataValue JsString)
  | entries (entries : List EntryValue)
  | entry (entry : EntryValue)
  | resource (handle : BridgeHandle)
  /-- A stream, a writer or a lister of the operator. -/
  | child (id : Nat)
  deriving DecidableEq, Repr

abbrev HandleCall (α : Type) : Type := Call HandleBridge Failure α

namespace HandleCall

/-! ## The bridge -/

/-- A scalar of the bridge; a world that runs out of answers goes on with 0. -/
def ask : HandleCall Int := fun b =>
  match b.world.answers with
  | [] => (.ok 0, b)
  | answer :: answers => (.ok answer, { b with world := { b.world with answers } })

def Issued (b : HandleBridge) (code : UInt32) : Prop := ∃ h ∈ b.ledger.created, h.code = code

instance (b : HandleBridge) (code : UInt32) : Decidable (Issued b code) :=
  inferInstanceAs (Decidable (∃ h ∈ b.ledger.created, h.code = code))

def given (kind : ResourceKind) (code : UInt32) : HandleCall UInt32 := fun b =>
  if code = 0 ∨ Issued b code then (.ok 0, b)
  else (.ok code, { b with ledger := b.ledger.create ⟨kind, code⟩ })

/-- A bridge function that makes a handle. -/
def make (kind : ResourceKind) : HandleCall UInt32 := do
  let answer ← ask
  given kind (UInt32.ofInt answer)

def moved (source : BridgeHandle) (kind : ResourceKind) (code : UInt32) : HandleCall UInt32 :=
  fun b =>
    if code = 0 ∨ Issued b code ∨ ¬ b.ledger.Live source then (.ok 0, b)
    else (.ok code, { b with ledger := (b.ledger.retire source).create ⟨kind, code⟩ })

/-- A bridge function that moves `source` into a new handle. -/
def transfer (source : BridgeHandle) (kind : ResourceKind) : HandleCall UInt32 := do
  let answer ← ask
  moved source kind (UInt32.ofInt answer)

/-- Every release is logged, also one of a handle that is not live. -/
def released (handle : BridgeHandle) (b : HandleBridge) : HandleBridge :=
  { b with ledger := b.ledger.retire handle }

def release (handle : BridgeHandle) : HandleCall Int := fun b =>
  if b.ledger.Live handle then (.ok 0, released handle b) else (.ok 1, released handle b)

def fail {α : Type} (message : String) : HandleCall α := Call.throw (.contract { message })

/-! ## Errors and buffers -/

section Errors

variable (takeLastError : Context → String → HandleCall (ErrorOutcome JsString))

/-- Throw the last error. -/
def raise {α : Type} (context : Context) (fallbackMessage : String) : HandleCall α := do
  let error ← takeLastError context fallbackMessage
  Call.throw (.outcome error)

/-- The loop of `takeBuffer`: copy `windows` windows from `offset` on. -/
def readWindows (handle : UInt32) (length : Nat) : Nat → Nat → HandleCall (List UInt8)
  | 0, _ => pure []
  | windows + 1, offset => do
    let chunkLength := min maxTransferChunk (length - offset)
    let pointer ← ask
    if pointer = 0 then raise takeLastError checkContext "could not access a bridge buffer window"
    else do
      let part ← fun b =>
        (.ok ((List.range chunkLength).map fun i => b.world.memory handle (offset + i)), b)
      let rest ← readWindows handle length windows (offset + maxTransferChunk)
      pure (part ++ rest)

def takeBufferWith (handle : UInt32) : HandleCall (List UInt8) :=
  Call.tryFinally
    (do
      let length ← ask
      if length < 0 then raise takeLastError checkContext "could not query a bridge buffer length"
      else if length > maxBufferBytes then fail "bridge returned an oversized buffer"
      else readWindows takeLastError handle length.toNat (windowCount length.toNat) 0)
    (released ⟨.buffer, handle⟩)

def takeLastErrorWithoutSnapshot : HandleCall String := do
  let handle ← make .error
  if handle = 0 then pure "bridge did not publish an error"
  else do
    let _ ← release ⟨.error, handle⟩
    pure "bridge rejected error snapshot ownership transfer"

def decodedError (bytes : List UInt8) (context : Context) : HandleCall (ErrorOutcome JsString) :=
  match decodeErrorSnapshot textDecode bytes context with
  | .error e => Call.throw (.contract e)
  | .ok error => pure error

def takeErrorWith (errorHandle : UInt32) (context : Context) :
    HandleCall (ErrorOutcome JsString) := do
  let snapshotHandle ← transfer ⟨.error, errorHandle⟩ .buffer
  if snapshotHandle = 0 then
    Call.tryFinally
      (do
        let detail ← takeLastErrorWithoutSnapshot
        fail s!"could not materialize ODE1 error snapshot: {detail}")
      (released ⟨.error, errorHandle⟩)
  else do
    let bytes ← takeBufferWith takeLastError snapshotHandle
    decodedError bytes context

end Errors

/-- `takeLastError` and `takeError` call each other through `takeBuffer`. -/
def takeLastErrorAt : Nat → Context → String → HandleCall (ErrorOutcome JsString)
  | 0, _, _ => Call.throw .stackOverflow
  | depth + 1, context, fallbackMessage => do
    let errorHandle ← make .error
    if errorHandle = 0 then pure (localError "Unexpected" 1 fallbackMessage context)
    else takeErrorWith (takeLastErrorAt depth) errorHandle context

def takeLastError (context : Context) (fallbackMessage : String) :
    HandleCall (ErrorOutcome JsString) := fun b =>
  takeLastErrorAt b.world.depth context fallbackMessage b

def takeError (errorHandle : UInt32) (context : Context) : HandleCall (ErrorOutcome JsString) :=
  takeErrorWith takeLastError errorHandle context

def takeBuffer (handle : UInt32) : HandleCall (List UInt8) := takeBufferWith takeLastError handle

def expectHandle (handle : UInt32) (context : Context) (fallbackMessage : String) :
    HandleCall UInt32 :=
  if handle = 0 then raise takeLastError context fallbackMessage else pure handle

def expectStatus (status : Int) (context : Context) (fallbackMessage : String) : HandleCall Unit :=
  if status ≠ 0 then raise takeLastError context fallbackMessage else pure ()

/-- The loop of `putBytes`: fill `windows` windows. -/
def writeWindows (context : Context) : Nat → HandleCall Unit
  | 0 => pure ()
  | windows + 1 => do
    let pointer ← ask
    if pointer = 0 then raise takeLastError context "could not access a bridge buffer window"
    else writeWindows context windows

def putBytes (bytes : List UInt8) (context : Context) : HandleCall UInt32 := do
  let made ← make .buffer
  let handle ← expectHandle made context "could not allocate a bridge buffer"
  Call.onError
    (do
      writeWindows context (windowCount bytes.length)
      pure handle)
    (released ⟨.buffer, handle⟩)

/-- Every exception other than the two classes of the runtime is taken for malformed text. -/
def takeText (handle : UInt32) : HandleCall JsString := fun b =>
  match takeBuffer handle b with
  | (.error (.outcome e), b) => (.error (.outcome e), b)
  | (.error (.contract e), b) => (.error (.contract e), b)
  | (.error _, b) => fail "bridge returned non-UTF-8 text" b
  | (.ok bytes, b) =>
    match textDecode bytes with
    | none => fail "bridge returned non-UTF-8 text" b
    | some text => (.ok text, b)

def takeMetadata (handle : UInt32) : HandleCall (MetadataValue JsString) := do
  let bytes ← takeBuffer handle
  match decodeMetadataSnapshot textDecode bytes with
  | .error e => Call.throw (.contract e)
  | .ok metadata => pure metadata

/-! ## Entry lists -/

def takeEntry (context : Context) : HandleCall EntryValue := do
  let pathMade ← make .buffer
  let pathHandle ← expectHandle pathMade context "could not take a listed path"
  let path ← takeText pathHandle
  let nameMade ← make .buffer
  let nameHandle ← expectHandle nameMade context "could not take a listed name"
  let name ← takeText nameHandle
  let metadataMade ← make .buffer
  let metadataHandle ← expectHandle metadataMade context "could not take listed metadata"
  let metadata ← takeMetadata metadataHandle
  pure { path, name, metadata }

/-- The loop of `listEntries`. -/
def takeEntries (context : Context) : Nat → HandleCall (List EntryValue)
  | 0 => pure []
  | left + 1 => do
    let entry ← takeEntry context
    let rest ← takeEntries context left
    pure (entry :: rest)

def listEntries (listHandle : UInt32) (context : Context) : HandleCall (List EntryValue) :=
  Call.tryFinally
    (do
      let length ← ask
      if length < 0 then raise takeLastError context "could not query a list result length"
      else takeEntries context length.toNat)
    (released ⟨.entryList, listHandle⟩)

/-! ## What the helpers own -/

/-- `pre` is owned before the call, `post` when it returns and `err` when it throws. -/
abbrev Owns {α : Type} (pre : Multiset BridgeHandle) (x : HandleCall α)
    (post : α → Multiset BridgeHandle) (err : Multiset BridgeHandle) : Prop :=
  Spends HandleBridge.ledger pre x post err

/-- The answer of a function that makes a handle or gives 0. -/
def held (kind : ResourceKind) (code : UInt32) : Multiset BridgeHandle :=
  if code = 0 then 0 else {⟨kind, code⟩}

@[simp] theorem held_zero (kind : ResourceKind) : held kind 0 = 0 := if_pos rfl

theorem held_of_ne {kind : ResourceKind} {code : UInt32} (h : code ≠ 0) :
    held kind code = {⟨kind, code⟩} := if_neg h

section Rules

variable {α : Type} {pre err : Multiset BridgeHandle} {handle source : BridgeHandle}
  {kind : ResourceKind} {context : Context} {fallbackMessage : String}

/-- A scalar never throws and has no effect on the handles. -/
theorem owns_ask {post : α → Multiset BridgeHandle} {f : Int → HandleCall α}
    (hf : ∀ answer, Owns pre (f answer) post err) : Owns pre (ask >>= f) post err := by
  intro b frame h
  cases hanswers : b.world.answers with
  | nil =>
    have hask : ask b = (.ok 0, b) := by
      unfold ask
      rw [hanswers]
    rw [Call.bind_apply_ok hask]
    exact hf 0 b frame h
  | cons answer answers =>
    have hask : ask b = (.ok answer, { b with world := { b.world with answers } }) := by
      unfold ask
      rw [hanswers]
    rw [Call.bind_apply_ok hask]
    exact hf answer _ frame h

theorem not_mem_created {b : HandleBridge} {code : UInt32} (h : ¬ Issued b code) :
    (⟨kind, code⟩ : BridgeHandle) ∉ b.ledger.created := fun hmem => h ⟨_, hmem, rfl⟩

theorem owns_make : Owns 0 (make kind) (held kind) 0 := by
  refine owns_ask ?_
  intro answer b frame h
  generalize UInt32.ofInt answer = code
  unfold given
  by_cases hold : code = 0 ∨ Issued b code
  · rw [if_pos hold]
    show b.ledger.Balanced (held kind 0 + frame)
    rw [held_zero]
    exact h
  · rw [if_neg hold]
    obtain ⟨hzero, hissued⟩ := not_or.mp hold
    show (b.ledger.create ⟨kind, code⟩).Balanced (held kind code + frame)
    rw [held_of_ne hzero]
    rw [zero_add] at h
    exact h.create (not_mem_created hissued)

/-- What is left of a source, and what a transfer made. -/
def heldAfter (source : BridgeHandle) (kind : ResourceKind) (code : UInt32) :
    Multiset BridgeHandle :=
  if code = 0 then {source} else {⟨kind, code⟩}

theorem heldAfter_of_ne {code : UInt32} (h : code ≠ 0) :
    heldAfter source kind code = {⟨kind, code⟩} := if_neg h

theorem owns_transfer :
    Owns {source} (transfer source kind) (heldAfter source kind) err := by
  refine owns_ask ?_
  intro answer b frame h
  generalize UInt32.ofInt answer = code
  unfold moved
  by_cases hold : code = 0 ∨ Issued b code ∨ ¬ b.ledger.Live source
  · rw [if_pos hold]
    show b.ledger.Balanced (heldAfter source kind 0 + frame)
    exact h
  · rw [if_neg hold]
    obtain ⟨hzero, hrest⟩ := not_or.mp hold
    show ((b.ledger.retire source).create ⟨kind, code⟩).Balanced
      (heldAfter source kind code + frame)
    rw [heldAfter_of_ne hzero]
    exact h.retire.create (not_mem_created (not_or.mp hrest).1)

theorem balanced_released {handle : BridgeHandle} (b : HandleBridge) (frame : Multiset BridgeHandle)
    (h : b.ledger.Balanced ({handle} + frame)) : (released handle b).ledger.Balanced frame :=
  h.retire

theorem release_of_live {b : HandleBridge} (h : b.ledger.Live handle) :
    release handle b = (.ok 0, released handle b) := if_pos h

theorem owns_releaseOf (rest : Multiset BridgeHandle) :
    Owns ({handle} + rest) (release handle) (fun _ => rest) err := by
  intro b frame h
  rw [add_assoc] at h
  rw [release_of_live h.live]
  exact h.retire

theorem owns_release : Owns {handle} (release handle) (fun _ => 0) err := by
  have hrelease : Owns ({handle} + 0) (release handle) (fun _ => 0) err := owns_releaseOf 0
  rw [add_zero] at hrelease
  exact hrelease

/-- The release of a handle that is owned never fails. -/
theorem owns_expectRelease : Owns {handle}
    (do
      let status ← release handle
      expectStatus status context fallbackMessage) (fun _ => 0) err := by
  intro b frame h
  rw [Call.bind_apply_ok (release_of_live h.live)]
  show (released handle b).ledger.Balanced (0 + frame)
  rw [zero_add]
  exact h.retire

theorem neutral_throw (failure : Failure) :
    Neutral HandleBridge.ledger (Call.throw failure : HandleCall α) :=
  Spends.throw failure

theorem neutral_takeLastErrorWithoutSnapshot :
    Neutral HandleBridge.ledger takeLastErrorWithoutSnapshot := by
  refine owns_make.bind ?_
  intro code
  by_cases hzero : code = 0
  · rw [if_pos hzero, hzero, held_zero]
    exact Spends.pure _ rfl
  · rw [if_neg hzero, held_of_ne hzero]
    exact owns_release.bind fun status => Spends.pure _ rfl

/-- An error that could not be exchanged for its snapshot. -/
theorem owns_rejectedSnapshot {code : UInt32} :
    Owns {⟨.error, code⟩}
      (Call.tryFinally
        (do
          let detail ← takeLastErrorWithoutSnapshot
          fail s!"could not materialize ODE1 error snapshot: {detail}")
        (released ⟨.error, code⟩) : HandleCall α) (fun _ => 0) 0 := by
  have hbody : Neutral HandleBridge.ledger (do
      let detail ← takeLastErrorWithoutSnapshot
      fail s!"could not materialize ODE1 error snapshot: {detail}" : HandleCall α) :=
    neutral_takeLastErrorWithoutSnapshot.bind fun detail => neutral_throw _
  exact hbody.tryFinally balanced_released

theorem neutral_decodedError {bytes : List UInt8} :
    Neutral HandleBridge.ledger (decodedError bytes context) := by
  unfold decodedError
  cases decodeErrorSnapshot textDecode bytes context with
  | error e => exact neutral_throw _
  | ok error => exact Spends.pure error rfl

section TakeLastError

variable {takeLastError : Context → String → HandleCall (ErrorOutcome JsString)}
  (htake : ∀ context message, Neutral HandleBridge.ledger (takeLastError context message))

include htake

theorem neutral_raise : Neutral HandleBridge.ledger
    (raise takeLastError context fallbackMessage : HandleCall α) :=
  (htake context fallbackMessage).bind fun _ => Spends.throw _

theorem neutral_readWindows {code : UInt32} {length windows offset : Nat} :
    Neutral HandleBridge.ledger (readWindows takeLastError code length windows offset) := by
  induction windows generalizing offset with
  | zero => exact Spends.pure [] rfl
  | succ windows ih =>
    refine owns_ask ?_
    intro pointer
    by_cases hpointer : pointer = 0
    · rw [if_pos hpointer]
      exact neutral_raise htake
    · rw [if_neg hpointer]
      have hmemory : Neutral HandleBridge.ledger (fun b =>
          (.ok ((List.range (min maxTransferChunk (length - offset))).map fun i =>
            b.world.memory code (offset + i)), b) : HandleCall (List UInt8)) :=
        fun _ _ h => h
      exact hmemory.bind fun part => ih.bind fun rest => Spends.pure (part ++ rest) rfl

theorem owns_takeBufferWith {code : UInt32} :
    Owns {⟨.buffer, code⟩} (takeBufferWith takeLastError code) (fun _ => 0) 0 := by
  have hbody : Neutral HandleBridge.ledger (do
      let length ← ask
      if length < 0 then raise takeLastError checkContext "could not query a bridge buffer length"
      else if length > maxBufferBytes then fail "bridge returned an oversized buffer"
      else readWindows takeLastError code length.toNat (windowCount length.toNat) 0) := by
    refine owns_ask ?_
    intro length
    split
    · exact neutral_raise htake
    split
    · exact Spends.throw _
    · exact neutral_readWindows htake
  exact hbody.tryFinally balanced_released

theorem owns_takeErrorWith {code : UInt32} :
    Owns {⟨.error, code⟩} (takeErrorWith takeLastError code context) (fun _ => 0) 0 := by
  refine owns_transfer.bind ?_
  intro snapshot
  by_cases hzero : snapshot = 0
  · rw [if_pos hzero, hzero]
    exact owns_rejectedSnapshot
  · rw [if_neg hzero, heldAfter_of_ne hzero]
    exact (owns_takeBufferWith htake).bind fun bytes => neutral_decodedError

end TakeLastError

theorem neutral_takeLastErrorAt {depth : Nat} :
    Neutral HandleBridge.ledger (takeLastErrorAt depth context fallbackMessage) := by
  induction depth generalizing context fallbackMessage with
  | zero => exact neutral_throw _
  | succ depth ih =>
    refine owns_make.bind ?_
    intro code
    by_cases hzero : code = 0
    · rw [if_pos hzero, hzero, held_zero]
      exact Spends.pure _ rfl
    · rw [if_neg hzero, held_of_ne hzero]
      apply owns_takeErrorWith
      intro context message
      exact ih

theorem neutral_takeLastError (context : Context) (fallbackMessage : String) :
    Neutral HandleBridge.ledger (takeLastError context fallbackMessage) := by
  intro b frame h
  exact neutral_takeLastErrorAt b frame h

theorem owns_takeError {code : UInt32} :
    Owns {⟨.error, code⟩} (takeError code context) (fun _ => 0) 0 :=
  owns_takeErrorWith neutral_takeLastError

theorem owns_takeBuffer {code : UInt32} :
    Owns {⟨.buffer, code⟩} (takeBuffer code) (fun _ => 0) 0 :=
  owns_takeBufferWith neutral_takeLastError

theorem owns_expectHandle {code : UInt32} :
    Owns (held kind code) (expectHandle code context fallbackMessage)
      (fun handle => {⟨kind, handle⟩}) 0 := by
  unfold expectHandle
  by_cases hzero : code = 0
  · rw [if_pos hzero, hzero, held_zero]
    exact (neutral_takeLastError context fallbackMessage).bind fun e => Spends.throw _
  · rw [if_neg hzero, held_of_ne hzero]
    intro b frame h
    exact h

/-- A new handle, or an exception. -/
theorem owns_makeExpected (kind : ResourceKind) (context : Context) (fallbackMessage : String) :
    Owns 0
      (do
        let code ← make kind
        expectHandle code context fallbackMessage) (fun handle => {⟨kind, handle⟩}) 0 :=
  owns_make.bind fun _ => owns_expectHandle

theorem neutral_writeWindows {windows : Nat} :
    Neutral HandleBridge.ledger (writeWindows context windows) := by
  induction windows with
  | zero => exact Spends.pure () rfl
  | succ windows ih =>
    refine owns_ask ?_
    intro pointer
    by_cases hpointer : pointer = 0
    · rw [if_pos hpointer]
      exact neutral_raise neutral_takeLastError
    · rw [if_neg hpointer]
      exact ih

theorem owns_putBytes (bytes : List UInt8) (context : Context) :
    Owns 0 (putBytes bytes context) (fun handle => {⟨.buffer, handle⟩}) 0 := by
  refine owns_make.bind fun code => owns_expectHandle.bind ?_
  intro handle
  refine Spends.onError ?_ balanced_released
  refine (neutral_writeWindows.keep {⟨.buffer, handle⟩}).bind ?_
  intro _
  exact Spends.pure handle rfl

theorem owns_takeText {code : UInt32} :
    Owns {⟨.buffer, code⟩} (takeText code) (fun _ => 0) 0 := by
  intro b frame h
  have hs := owns_takeBuffer b frame h
  unfold takeText
  cases htaken : takeBuffer code b with
  | mk result b' =>
    rw [htaken] at hs
    cases result with
    | error failure => cases failure <;> exact hs
    | ok bytes =>
      simp only
      cases textDecode bytes with
      | none => exact hs
      | some text => exact hs

theorem owns_takeMetadata {code : UInt32} :
    Owns {⟨.buffer, code⟩} (takeMetadata code) (fun _ => 0) 0 := by
  refine owns_takeBuffer.bind ?_
  intro bytes
  cases decodeMetadataSnapshot textDecode bytes with
  | error e => exact neutral_throw _
  | ok metadata => exact Spends.pure metadata rfl

theorem neutral_takeEntry : Neutral HandleBridge.ledger (takeEntry context) := by
  refine owns_make.bind fun code => owns_expectHandle.bind fun handle => ?_
  refine owns_takeText.bind fun path => ?_
  refine owns_make.bind fun code => owns_expectHandle.bind fun handle => ?_
  refine owns_takeText.bind fun name => ?_
  refine owns_make.bind fun code => owns_expectHandle.bind fun handle => ?_
  exact owns_takeMetadata.bind fun metadata => Spends.pure (⟨path, name, metadata⟩ : EntryValue) rfl

theorem neutral_takeEntries {left : Nat} :
    Neutral HandleBridge.ledger (takeEntries context left) := by
  induction left with
  | zero => exact Spends.pure [] rfl
  | succ left ih =>
    exact neutral_takeEntry.bind fun entry => ih.bind fun rest => Spends.pure (entry :: rest) rfl

theorem owns_listEntries {code : UInt32} :
    Owns {⟨.entryList, code⟩} (listEntries code context) (fun _ => 0) 0 := by
  have hbody : Neutral HandleBridge.ledger (do
      let length ← ask
      if length < 0 then raise takeLastError context "could not query a list result length"
      else takeEntries context length.toNat) := by
    refine owns_ask ?_
    intro length
    by_cases hlength : length < 0
    · rw [if_pos hlength]
      exact neutral_raise neutral_takeLastError
    · rw [if_neg hlength]
      exact neutral_takeEntries
  exact hbody.tryFinally balanced_released

end Rules

end HandleCall

end OpendalMbt.Browser
