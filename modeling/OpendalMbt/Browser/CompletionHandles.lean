import OpendalMbt.Browser.BridgeCalls

/-!
# The handles of a completion

What `settleCompletion` does with the handles of the bridge. A bridge keeps an account when
each of its functions, called with a handle that is owned, says what is owned afterwards: a
function that throws or answers 0 has changed nothing, and so has a release whose status is
not 0.

* `BridgeCalls.Keeps.settleCompletion`: the account of a settlement, for every such bridge;
* `Desk`: a bridge of which every answer is free, exceptions included, with a log of the calls
  about handles that are not live;
* `settlement_handles`: each handle of a settlement is given back once, and no call is about a
  handle that was given back.
-/

namespace OpendalMbt.Browser

open Codec Bridge Transition
open HandleCall (held heldAfter held_zero held_of_ne heldAfter_of_ne Taken)

/-! ## Bridges that keep an account -/

namespace BridgeCalls

variable {σ : Type}

structure Keeps (bridge : BridgeCalls σ) (P : σ → Multiset BridgeHandle → Prop) : Prop where
  query : ∀ handle, Accounts P {handle} (bridge.query handle) (fun _ => {handle}) {handle}
  copy : ∀ code offset length, Accounts P {⟨.buffer, code⟩} (bridge.copy code offset length)
    (fun _ => {⟨.buffer, code⟩}) {⟨.buffer, code⟩}
  lastError : Accounts P 0 bridge.lastError (held .error) 0
  derive : ∀ handle kind, Accounts P {handle} (bridge.derive handle kind)
    (fun code => {handle} + held kind code) {handle}
  transfer : ∀ source kind, Accounts P {source} (bridge.transfer source kind)
    (heldAfter source kind) {source}
  release : ∀ handle, Accounts P {handle} (bridge.release handle)
    (fun status => if status = 0 then 0 else {handle}) {handle}
  discard : ∀ handle s frame, P s ({handle} + frame) → P (bridge.discard handle s) frame

namespace Keeps

variable {α : Type} {bridge : BridgeCalls σ} {P : σ → Multiset BridgeHandle → Prop}
  {context : Context} {fallbackMessage : String} {kind : ResourceKind}
  {own : Multiset BridgeHandle}

section TakeLastError

variable {takeLastError : Context → String → Call σ Failure (ErrorOutcome JsString)}
  (htake : ∀ context message, Accounts P 0 (takeLastError context message) (fun _ => 0) 0)

include htake

theorem raiseWith {post : α → Multiset BridgeHandle} :
    Accounts P own (raise takeLastError context fallbackMessage : Call σ Failure α) post own :=
  ((htake context fallbackMessage).quiet own).bind fun _ => Accounts.throw _

variable (h : bridge.Keeps P)

include h

theorem readWindows {code : UInt32} {length windows offset : Nat} :
    Accounts P {⟨.buffer, code⟩} (bridge.readWindows takeLastError code length windows offset)
      (fun _ => {⟨.buffer, code⟩}) {⟨.buffer, code⟩} := by
  induction windows generalizing offset with
  | zero => exact Accounts.pure [] rfl
  | succ windows ih =>
    refine (h.query _).bind ?_
    intro pointer
    by_cases hpointer : pointer = 0
    · rw [if_pos hpointer]
      exact raiseWith htake
    · rw [if_neg hpointer]
      exact (h.copy _ _ _).bind fun part => ih.bind fun rest => Accounts.pure (part ++ rest) rfl

theorem takeBufferWith {code : UInt32} :
    Accounts P {⟨.buffer, code⟩} (bridge.takeBufferWith takeLastError code) (fun _ => 0) 0 := by
  refine Accounts.tryFinally ?_ (h.discard _)
  simp only [add_zero]
  refine (h.query _).bind ?_
  intro length
  split
  · exact raiseWith htake
  split
  · exact Accounts.throw _
  · exact h.readWindows htake

theorem takeErrorWith (hdetail : Accounts P 0 bridge.takeLastErrorWithoutSnapshot (fun _ => 0) 0)
    {code : UInt32} :
    Accounts P {⟨.error, code⟩} (bridge.takeErrorWith takeLastError code context)
      (fun _ => 0) 0 := by
  refine ((h.transfer _ _).onError (h.discard _)).bind ?_
  intro snapshot
  by_cases hzero : snapshot = 0
  · rw [if_pos hzero, hzero]
    refine Accounts.tryFinally ?_ (h.discard _)
    exact (hdetail.quiet _).bind fun detail => Accounts.throw _
  · rw [if_neg hzero, heldAfter_of_ne hzero]
    refine (h.takeBufferWith htake).bind ?_
    intro bytes
    unfold decodedError
    cases decodeErrorSnapshot textDecode bytes context with
    | error e => exact Accounts.throw _
    | ok error => exact Accounts.pure error rfl

end TakeLastError

variable (h : bridge.Keeps P)

include h

theorem takeLastErrorWithoutSnapshot :
    Accounts P 0 bridge.takeLastErrorWithoutSnapshot (fun _ => 0) 0 := by
  refine h.lastError.bind ?_
  intro code
  by_cases hzero : code = 0
  · rw [if_pos hzero, hzero, held_zero]
    exact Accounts.pure _ rfl
  · rw [if_neg hzero, held_of_ne hzero]
    have hdiscard : Accounts P {⟨.error, code⟩}
        (Call.modify (bridge.discard ⟨.error, code⟩) : Call σ Failure Unit) (fun _ => 0) 0 := by
      intro s frame hs
      show P (bridge.discard ⟨.error, code⟩ s) (0 + frame)
      rw [zero_add]
      exact h.discard _ s frame hs
    exact hdiscard.bind fun _ => Accounts.pure _ rfl

theorem takeLastErrorAt {depth : Nat} :
    Accounts P 0 (bridge.takeLastErrorAt depth context fallbackMessage) (fun _ => 0) 0 := by
  induction depth generalizing context fallbackMessage with
  | zero => exact Accounts.throw _
  | succ depth ih =>
    refine h.lastError.bind ?_
    intro code
    by_cases hzero : code = 0
    · rw [if_pos hzero, hzero, held_zero]
      exact Accounts.pure _ rfl
    · rw [if_neg hzero, held_of_ne hzero]
      exact h.takeErrorWith (fun _ _ => ih) h.takeLastErrorWithoutSnapshot

theorem takeLastError (context : Context) (fallbackMessage : String) :
    Accounts P 0 (bridge.takeLastError context fallbackMessage) (fun _ => 0) 0 := by
  intro s frame hs
  exact h.takeLastErrorAt s frame hs

theorem raise {post : α → Multiset BridgeHandle} :
    Accounts P own (raise bridge.takeLastError context fallbackMessage : Call σ Failure α) post
      own :=
  raiseWith h.takeLastError

theorem takeError {code : UInt32} :
    Accounts P {⟨.error, code⟩} (bridge.takeError code context) (fun _ => 0) 0 :=
  h.takeErrorWith h.takeLastError h.takeLastErrorWithoutSnapshot

theorem takeBuffer {code : UInt32} :
    Accounts P {⟨.buffer, code⟩} (bridge.takeBuffer code) (fun _ => 0) 0 :=
  h.takeBufferWith h.takeLastError

theorem expectHandle {code : UInt32} :
    Accounts P (held kind code) (bridge.expectHandle code context fallbackMessage)
      (fun handle => {⟨kind, handle⟩}) 0 := by
  unfold BridgeCalls.expectHandle
  by_cases hzero : code = 0
  · rw [if_pos hzero, hzero, held_zero]
    exact h.raise
  · rw [if_neg hzero, held_of_ne hzero]
    exact Accounts.pure code rfl

theorem takeText {code : UInt32} :
    Accounts P {⟨.buffer, code⟩} (bridge.takeText code) (fun _ => 0) 0 := by
  intro s frame hs
  have htaken := h.takeBuffer s frame hs
  unfold BridgeCalls.takeText
  cases hbuffer : bridge.takeBuffer code s with
  | mk result t =>
    rw [hbuffer] at htaken
    cases result with
    | error failure => cases failure <;> exact htaken
    | ok bytes =>
      simp only
      cases textDecode bytes with
      | none => exact htaken
      | some text => exact htaken

theorem takeMetadata {code : UInt32} :
    Accounts P {⟨.buffer, code⟩} (bridge.takeMetadata code) (fun _ => 0) 0 := by
  refine h.takeBuffer.bind ?_
  intro bytes
  cases decodeMetadataSnapshot textDecode bytes with
  | error e => exact Accounts.throw _
  | ok metadata => exact Accounts.pure metadata rfl

/-! ### Entry lists -/

/-- A buffer made out of the list, which is still there afterwards. -/
theorem derivePart {handle : BridgeHandle} {f : UInt32 → Call σ Failure α}
    (hf : ∀ code, Accounts P ({handle} + {⟨.buffer, code⟩}) (f code) (fun _ => {handle}) {handle}) :
    Accounts P {handle}
      (do
        let made ← bridge.derive handle .buffer
        let code ← bridge.expectHandle made context fallbackMessage
        f code) (fun _ => {handle}) {handle} :=
  (h.derive handle .buffer).bind fun _ => (h.expectHandle.beside {handle}).bind hf

theorem takeEntry {code : UInt32} :
    Accounts P {⟨.entryList, code⟩} (bridge.takeEntry code context)
      (fun _ => {⟨.entryList, code⟩}) {⟨.entryList, code⟩} := by
  refine h.derivePart fun _ => (h.takeText.spend _).bind fun path => ?_
  refine h.derivePart fun _ => (h.takeText.spend _).bind fun name => ?_
  refine h.derivePart fun _ => (h.takeMetadata.spend _).bind fun metadata => ?_
  exact Accounts.pure (⟨path, name, metadata⟩ : EntryValue) rfl

theorem takeEntries {code : UInt32} {left : Nat} :
    Accounts P {⟨.entryList, code⟩} (bridge.takeEntries code context left)
      (fun _ => {⟨.entryList, code⟩}) {⟨.entryList, code⟩} := by
  induction left with
  | zero => exact Accounts.pure [] rfl
  | succ left ih =>
    exact h.takeEntry.bind fun entry => ih.bind fun rest => Accounts.pure (entry :: rest) rfl

theorem listEntries {code : UInt32} :
    Accounts P {⟨.entryList, code⟩} (bridge.listEntries code context) (fun _ => 0) 0 := by
  refine Accounts.tryFinally ?_ (h.discard _)
  simp only [add_zero]
  refine (h.query _).bind ?_
  intro length
  by_cases hlength : length < 0
  · rw [if_pos hlength]
    exact h.raise
  · rw [if_neg hlength]
    exact h.takeEntries

/-! ### Completions -/

variable {completion : UInt32} {expectedKind : CompletionKind}

theorem takeInto :
    Accounts P {⟨.completion, completion⟩} (bridge.takeInto completion context kind fallbackMessage)
      (fun handle => {⟨kind, handle⟩}) {⟨.completion, completion⟩} := by
  refine (h.transfer _ _).bind ?_
  intro code
  unfold BridgeCalls.expectHandle
  by_cases hzero : code = 0
  · rw [if_pos hzero, hzero]
    exact h.raise
  · rw [if_neg hzero, heldAfter_of_ne hzero]
    exact Accounts.pure code rfl

/-- With a status other than 0 the completion is still there, and an exception says so. -/
theorem releaseCompletion :
    Accounts P {⟨.completion, completion⟩}
      (bridge.releaseCompletion completion context fallbackMessage) (fun _ => 0)
      {⟨.completion, completion⟩} := by
  refine (h.release _).bind ?_
  intro status
  unfold BridgeCalls.expectStatus
  by_cases hstatus : status = 0
  · rw [if_pos hstatus, if_neg (not_not.mpr hstatus)]
    exact Accounts.pure () rfl
  · rw [if_neg hstatus, if_pos hstatus]
    exact h.raise

theorem takeSuccess :
    Accounts P {⟨.completion, completion⟩} (bridge.takeSuccess completion context expectedKind)
      Taken.owned {⟨.completion, completion⟩} := by
  cases expectedKind with
  | read | readerNext =>
    exact h.takeInto.bind fun buffer => Accounts.pure (Taken.buffer buffer) rfl
  | write | stat | copy | writerFinish =>
    exact h.takeInto.bind fun metadata => Accounts.pure (Taken.metadata metadata) rfl
  | list => exact h.takeInto.bind fun list => Accounts.pure (Taken.list list) rfl
  | listerNext => exact h.takeInto.bind fun list => Accounts.pure (Taken.entry list) rfl
  | openReader =>
    exact h.takeInto.bind fun code => Accounts.pure (Taken.resource ⟨.readStream, code⟩) rfl
  | openWriter =>
    exact h.takeInto.bind fun code => Accounts.pure (Taken.resource ⟨.writer, code⟩) rfl
  | openLister =>
    exact h.takeInto.bind fun code => Accounts.pure (Taken.resource ⟨.lister, code⟩) rfl
  | createDir | delete | rename | writerWrite | writerAbort =>
    exact h.releaseCompletion.bind fun _ => Accounts.pure Taken.nothing rfl

theorem askChecked :
    Accounts P {⟨.completion, completion⟩} (bridge.askChecked completion context)
      (fun _ => {⟨.completion, completion⟩}) {⟨.completion, completion⟩} := by
  refine (h.query _).bind fun answer => (h.lastError.keep _).bind ?_
  intro code
  by_cases hzero : code = 0
  · rw [if_neg (not_not.mpr hzero), hzero, held_zero, add_zero]
    exact Accounts.pure answer rfl
  · rw [if_pos hzero, held_of_ne hzero]
    exact (h.takeError.spend _).bind fun e => Accounts.throw _

theorem takeNext :
    Accounts P {⟨.completion, completion⟩} (bridge.takeNext completion context expectedKind)
      Taken.owned {⟨.completion, completion⟩} := by
  refine h.askChecked.bind ?_
  intro isEnd
  split
  · exact Accounts.throw _
  split
  · exact h.releaseCompletion.bind fun _ => Accounts.pure Taken.nothing rfl
  · exact h.takeSuccess

theorem takeCompletion :
    Accounts P {⟨.completion, completion⟩} (bridge.takeCompletion completion context expectedKind)
      Taken.owned {⟨.completion, completion⟩} := by
  refine (h.query _).bind ?_
  intro actualKind
  split
  · exact h.raise
  split
  · exact Accounts.throw _
  refine h.askChecked.bind ?_
  intro status
  split
  · exact h.takeInto.bind fun handle => Accounts.pure (Taken.error handle) rfl
  split
  · exact h.takeNext
  · exact h.takeSuccess

theorem settleTaken (taken : Taken) :
    Accounts P taken.owned (bridge.settleTaken context taken)
      (fun outcome => Answer.owned (.ok outcome)) 0 := by
  cases taken with
  | nothing => exact Accounts.pure (Outcome.ok Value.undefined) rfl
  | error handle => exact h.takeError.bind fun e => Accounts.pure (Outcome.failed e) rfl
  | buffer handle =>
    exact h.takeBuffer.bind fun bytes => Accounts.pure (Outcome.ok (Value.bytes bytes)) rfl
  | metadata handle =>
    exact h.takeMetadata.bind fun metadata =>
      Accounts.pure (Outcome.ok (Value.metadata metadata)) rfl
  | list handle =>
    exact h.listEntries.bind fun entries => Accounts.pure (Outcome.ok (Value.entries entries)) rfl
  | entry handle =>
    refine h.listEntries.bind ?_
    intro entries
    split
    · rename_i entry
      exact Accounts.pure (Outcome.ok (Value.entry entry)) rfl
    · exact Accounts.throw _
  | resource handle => exact Accounts.pure (Outcome.ok (Value.resource handle)) rfl

theorem settleCompletion :
    Accounts P {⟨.completion, completion⟩}
      (bridge.settleCompletion completion context expectedKind)
      (fun outcome => Answer.owned (.ok outcome)) 0 :=
  (h.takeCompletion.onError (h.discard _)).bind h.settleTaken

end Keeps

/-! ## What a settlement returns -/

section Returned

variable {bridge : BridgeCalls σ} {completion : UInt32} {context : Context}
  {expectedKind : CompletionKind}

theorem returns_takeInto {kind : ResourceKind} {fallbackMessage : String} :
    Call.Returns (fun code => code ≠ 0)
      (bridge.takeInto completion context kind fallbackMessage) := by
  refine Call.Returns.last fun code => ?_
  unfold BridgeCalls.expectHandle
  by_cases hzero : code = 0
  · rw [if_pos hzero]
    exact Call.Returns.last fun e => Call.Returns.throw _
  · rw [if_neg hzero]
    exact Call.Returns.pure hzero

theorem returns_takeSuccess :
    Call.Returns (Taken.Fits (opens expectedKind))
      (bridge.takeSuccess completion context expectedKind) := by
  cases expectedKind with
  | openReader | openWriter | openLister =>
    refine returns_takeInto.bind fun code hcode => Call.Returns.pure ?_
    intro handle hhandle
    cases hhandle
    exact ⟨rfl, hcode⟩
  | _ =>
    refine Call.Returns.last fun code => Call.Returns.pure ?_
    intro handle hhandle
    cases hhandle

theorem returns_takeNext :
    Call.Returns (Taken.Fits (opens expectedKind))
      (bridge.takeNext completion context expectedKind) := by
  refine Call.Returns.last fun isEnd => ?_
  split
  · exact Call.Returns.throw _
  split
  · refine Call.Returns.last fun _ => Call.Returns.pure ?_
    intro handle hhandle
    cases hhandle
  · exact returns_takeSuccess

theorem returns_takeCompletion :
    Call.Returns (Taken.Fits (opens expectedKind))
      (bridge.takeCompletion completion context expectedKind) := by
  refine Call.Returns.last fun actualKind => ?_
  split
  · exact Call.Returns.last fun e => Call.Returns.throw _
  split
  · exact Call.Returns.throw _
  refine Call.Returns.last fun status => ?_
  split
  · refine Call.Returns.last fun code => Call.Returns.pure ?_
    intro handle hhandle
    cases hhandle
  split
  · exact returns_takeNext
  · exact returns_takeSuccess

theorem returns_settleTaken {opened : Option ResourceKind} {taken : Taken}
    (h : taken.Fits opened) :
    Call.Returns (fun outcome => Answer.Fits opened (.ok outcome))
      (bridge.settleTaken context taken) := by
  cases taken with
  | nothing => exact Call.Returns.pure (Answer.fits_of_none rfl opened)
  | error handle | buffer handle | metadata handle | list handle =>
    exact Call.Returns.last fun _ => Call.Returns.pure (Answer.fits_of_none rfl opened)
  | entry handle =>
    refine Call.Returns.last fun entries => ?_
    split
    · exact Call.Returns.pure (Answer.fits_of_none rfl opened)
    · exact Call.Returns.throw _
  | resource handle =>
    refine Call.Returns.pure ?_
    intro handle' hhandle
    cases hhandle
    exact h handle rfl

/-- A settlement returns a handle only when something was opened. -/
theorem fits_settleCompletion (s : σ) :
    Answer.Fits (opens expectedKind)
      (bridge.settleCompletion completion context expectedKind s).1 := by
  have hreturns : Call.Returns (fun outcome => Answer.Fits (opens expectedKind) (.ok outcome))
      (bridge.settleCompletion completion context expectedKind) :=
    returns_takeCompletion.onError.bind fun _ => returns_settleTaken
  cases hrun : bridge.settleCompletion completion context expectedKind s with
  | mk answer t =>
    cases answer with
    | ok outcome => exact hreturns hrun
    | error failure => exact Answer.fits_of_none rfl _

end Returned

end BridgeCalls

/-! ## A bridge with every answer -/

/-- `none` among the answers is an exception, and a desk that runs out of answers goes on
with 0. -/
structure Desk where
  ledger : Ledger BridgeHandle := {}
  answers : List (Option Int) := []
  memory : UInt32 → Nat → UInt8 := fun _ _ => 0
  depth : Nat := 0
  /-- The handles that a call was about when they were not live. -/
  misused : List BridgeHandle := []

namespace Desk

abbrev DeskCall (α : Type) : Type := Call Desk Failure α

def answer : DeskCall Int := fun d =>
  match d.answers with
  | [] => (.ok 0, d)
  | none :: answers => (.error .trap, { d with answers })
  | some answer :: answers => (.ok answer, { d with answers })

/-- A call is about `handle`. -/
def use (handle : BridgeHandle) (d : Desk) : Desk :=
  if d.ledger.Live handle then d else { d with misused := handle :: d.misused }

def Issued (d : Desk) (code : UInt32) : Prop := ∃ h ∈ d.ledger.created, h.code = code

instance (d : Desk) (code : UInt32) : Decidable (d.Issued code) :=
  inferInstanceAs (Decidable (∃ h ∈ d.ledger.created, h.code = code))

def query (handle : BridgeHandle) : DeskCall Int := do
  Call.modify (use handle)
  answer

/-- The view of the memory may be refused. -/
def copy (code : UInt32) (offset length : Nat) : DeskCall (List UInt8) := do
  Call.modify (use ⟨.buffer, code⟩)
  let _ ← answer
  fun d => (.ok ((List.range length).map fun i => d.memory code (offset + i)), d)

def given (kind : ResourceKind) (code : UInt32) : DeskCall UInt32 := fun d =>
  if code = 0 ∨ d.Issued code then (.ok 0, d)
  else (.ok code, { d with ledger := d.ledger.create ⟨kind, code⟩ })

def make (kind : ResourceKind) : DeskCall UInt32 := do
  let code ← answer
  given kind (UInt32.ofInt code)

def derive (handle : BridgeHandle) (kind : ResourceKind) : DeskCall UInt32 := do
  Call.modify (use handle)
  make kind

def moved (source : BridgeHandle) (kind : ResourceKind) (code : UInt32) : DeskCall UInt32 :=
  fun d =>
    if code = 0 ∨ d.Issued code ∨ ¬ d.ledger.Live source then (.ok 0, d)
    else (.ok code, { d with ledger := (d.ledger.retire source).create ⟨kind, code⟩ })

def transfer (source : BridgeHandle) (kind : ResourceKind) : DeskCall UInt32 := do
  Call.modify (use source)
  let code ← answer
  moved source kind (UInt32.ofInt code)

def closed (handle : BridgeHandle) (status : Int) : DeskCall Int := fun d =>
  if ¬ d.ledger.Live handle then (.ok 1, d)
  else if status = 0 then (.ok 0, { d with ledger := d.ledger.retire handle })
  else (.ok status, d)

def release (handle : BridgeHandle) : DeskCall Int := do
  Call.modify (use handle)
  let status ← answer
  closed handle status

def discard (handle : BridgeHandle) (d : Desk) : Desk :=
  { d.use handle with ledger := d.ledger.retire handle }

end Desk

def desk : BridgeCalls Desk where
  query := Desk.query
  copy := Desk.copy
  lastError := Desk.make .error
  derive := Desk.derive
  transfer := Desk.transfer
  release := Desk.release
  discard := Desk.discard
  depth d := d.depth

namespace Desk

/-- The account of what has happened since `start`. -/
structure Since (start d : Desk) (owned : Multiset BridgeHandle) : Prop where
  balanced : d.ledger.Balanced owned
  clean : d.misused = start.misused
  created : start.ledger.created ⊆ d.ledger.created
  gone : start.ledger.gone ⊆ d.ledger.gone

section Account

variable {α : Type} {start d : Desk} {handle source : BridgeHandle} {kind : ResourceKind}
  {own err frame : Multiset BridgeHandle}

theorem since_self {owned : Multiset BridgeHandle} (h : start.ledger.Balanced owned) :
    Since start start owned where
  balanced := h
  clean := rfl
  created := List.Subset.refl _
  gone := List.Subset.refl _

/-- A live handle may be used. -/
theorem Since.use (h : Since start d ({handle} + frame)) : d.use handle = d :=
  if_pos h.balanced.live

theorem accounts_use {post : α → Multiset BridgeHandle} {x : DeskCall α}
    (hx : Accounts (Since start) {handle} x post err) :
    Accounts (Since start) {handle} (do Call.modify (use handle); x) post err := by
  intro d frame h
  have huse : (Call.modify (use handle) : DeskCall Unit) d = (.ok (), d) := by
    rw [Call.modify_apply, h.use]
  rw [Call.bind_apply_ok huse]
  exact hx d frame h

/-- An answer, or an exception, leaves the handles alone. -/
theorem accounts_answer : Accounts (Since start) own answer (fun _ => own) own := by
  intro d frame h
  unfold answer
  cases d.answers with
  | nil => exact h
  | cons answer answers =>
    cases answer with
    | none => exact ⟨h.balanced, h.clean, h.created, h.gone⟩
    | some value => exact ⟨h.balanced, h.clean, h.created, h.gone⟩

theorem not_mem_created {code : UInt32} (h : ¬ d.Issued code) :
    (⟨kind, code⟩ : BridgeHandle) ∉ d.ledger.created := fun hmem => h ⟨_, hmem, rfl⟩

theorem accounts_make : Accounts (Since start) 0 (make kind) (held kind) 0 := by
  refine accounts_answer.bind fun value d frame h => ?_
  generalize UInt32.ofInt value = code
  unfold given
  by_cases hold : code = 0 ∨ d.Issued code
  · rw [if_pos hold]
    show Since start d (held kind 0 + frame)
    rw [held_zero]
    exact h
  · rw [if_neg hold]
    obtain ⟨hzero, hissued⟩ := not_or.mp hold
    rw [zero_add] at h
    show Since start { d with ledger := d.ledger.create ⟨kind, code⟩ } (held kind code + frame)
    rw [held_of_ne hzero]
    exact ⟨h.balanced.create (not_mem_created hissued), h.clean,
      List.subset_cons_of_subset _ h.created, h.gone⟩

theorem accounts_transfer :
    Accounts (Since start) {source} (transfer source kind) (heldAfter source kind) {source} := by
  refine accounts_use (accounts_answer.bind fun value d frame h => ?_)
  generalize UInt32.ofInt value = code
  unfold moved
  by_cases hold : code = 0 ∨ d.Issued code ∨ ¬ d.ledger.Live source
  · rw [if_pos hold]
    show Since start d (heldAfter source kind 0 + frame)
    exact h
  · rw [if_neg hold]
    obtain ⟨hzero, hrest⟩ := not_or.mp hold
    have hfresh : (⟨kind, code⟩ : BridgeHandle) ∉ d.ledger.created :=
      not_mem_created (not_or.mp hrest).1
    show Since start { d with ledger := (d.ledger.retire source).create ⟨kind, code⟩ }
      (heldAfter source kind code + frame)
    rw [heldAfter_of_ne hzero]
    exact ⟨h.balanced.retire.create hfresh, h.clean, List.subset_cons_of_subset _ h.created,
      List.subset_cons_of_subset _ h.gone⟩

theorem Since.retire (h : Since start d ({handle} + frame)) :
    Since start { d with ledger := d.ledger.retire handle } frame where
  balanced := h.balanced.retire
  clean := h.clean
  created := h.created
  gone := List.subset_cons_of_subset _ h.gone

theorem accounts_release :
    Accounts (Since start) {handle} (release handle)
      (fun status => if status = 0 then 0 else {handle}) {handle} := by
  refine accounts_use (accounts_answer.bind fun status d frame h => ?_)
  unfold closed
  rw [if_neg (not_not.mpr h.balanced.live)]
  by_cases hstatus : status = 0
  · rw [if_pos hstatus]
    show Since start { d with ledger := d.ledger.retire handle } ((if (0 : Int) = 0 then 0 else
      {handle}) + frame)
    rw [if_pos rfl, zero_add]
    exact h.retire
  · rw [if_neg hstatus]
    show Since start d ((if status = 0 then 0 else {handle}) + frame)
    rw [if_neg hstatus]
    exact h

theorem since_discard (h : Since start d ({handle} + frame)) :
    Since start (discard handle d) frame := by
  unfold discard
  rw [h.use]
  exact h.retire

/-- Whatever a desk answers, it keeps the account. -/
theorem keeps_desk (start : Desk) : desk.Keeps (Since start) where
  query _ := accounts_use accounts_answer
  copy _ _ _ := accounts_use (accounts_answer.bind fun _ _ _ h => h)
  lastError := accounts_make
  derive handle _ := accounts_use (accounts_make.keep {handle})
  transfer _ _ := accounts_transfer
  release _ := accounts_release
  discard _ _ _ h := since_discard h

end Account

/-! ### Settlements -/

def Made (start d : Desk) (handle : BridgeHandle) : Prop :=
  handle ∈ d.ledger.created ∧ handle ∉ start.ledger.created

/-- What became of the handles between `start` and `d`, when a completion was settled with
`answer`. -/
structure Settled (completion : BridgeHandle) (opened : Option ResourceKind) (start : Desk)
    (answer : Answer Value) (d : Desk) : Prop where
  /-- No call was about a handle that was not live. -/
  clean : d.misused = start.misused
  /-- The completion and whatever was made were given back once, but for what is returned. -/
  once : ∀ handle, handle = completion ∨ Made start d handle →
    d.ledger.gone.count handle = if answer.resource = some handle then 0 else 1
  /-- The handles that were there before are left alone. -/
  others : ∀ handle ∈ start.ledger.created, handle ≠ completion →
    d.ledger.gone.count handle = start.ledger.gone.count handle
  /-- A handle is returned only if something was opened, and it is a new one. -/
  opened : ∀ handle, answer.resource = some handle →
    opened = some handle.kind ∧ Made start d handle

section Settled

variable {completion : BridgeHandle} {opened : Option ResourceKind} {start d : Desk}
  {answer : Answer Value} {rest : Multiset BridgeHandle} {handle : BridgeHandle}

theorem count_owned :
    answer.owned.count handle = if answer.resource = some handle then 1 else 0 := by
  unfold Answer.owned
  cases answer.resource with
  | none => simp
  | some resource => simp [Multiset.count_singleton, eq_comm]

/-- What was owned beside the completion before the settlement is neither the completion nor
given back. -/
theorem count_rest (h : start.ledger.Balanced ({completion} + rest)) :
    rest.count completion = 0 := by
  have hmem : completion ∈ start.ledger.created := h.live.1
  have hone := h.count_eq_one hmem
  rw [Multiset.count_add, Multiset.count_singleton_self] at hone
  omega

theorem Since.count_eq_one (h : Since start d (answer.owned + rest))
    (hhandle : handle ∈ d.ledger.created) :
    d.ledger.gone.count handle + (if answer.resource = some handle then 1 else 0) +
      rest.count handle = 1 := by
  have hone := h.balanced.count_eq_one hhandle
  rw [Multiset.count_add, count_owned] at hone
  omega

theorem Since.once (h : Since start d (answer.owned + rest))
    (hstart : start.ledger.Balanced ({completion} + rest))
    (hhandle : handle = completion ∨ Made start d handle) :
    d.ledger.gone.count handle = if answer.resource = some handle then 0 else 1 := by
  have hzero : rest.count handle = 0 := by
    rcases hhandle with rfl | hmade
    · exact count_rest hstart
    · refine Multiset.count_eq_zero.mpr ?_
      intro hmem
      exact hmade.2 (hstart.mem_created (Multiset.mem_add.mpr (Or.inr hmem)))
  have hcreated : handle ∈ d.ledger.created := by
    rcases hhandle with rfl | hmade
    · exact h.created hstart.live.1
    · exact hmade.1
  have hone := h.count_eq_one hcreated
  split <;> simp_all

theorem Since.others (h : Since start d (answer.owned + rest))
    (hstart : start.ledger.Balanced ({completion} + rest))
    (hhandle : handle ∈ start.ledger.created) (hne : handle ≠ completion) :
    d.ledger.gone.count handle = start.ledger.gone.count handle := by
  have hafter := h.count_eq_one (h.created hhandle)
  have hbefore := hstart.count_eq_one hhandle
  rw [Multiset.count_add, Multiset.count_singleton, if_neg hne] at hbefore
  by_cases hgone : handle ∈ start.ledger.gone
  · have hpos : 0 < start.ledger.gone.count handle := List.count_pos_iff.mpr hgone
    have hpos' : 0 < d.ledger.gone.count handle := List.count_pos_iff.mpr (h.gone hgone)
    omega
  · have hzero : start.ledger.gone.count handle = 0 := List.count_eq_zero.mpr hgone
    omega

/-- What is returned was not there before. -/
theorem Since.made (h : Since start d (answer.owned + rest))
    (hstart : start.ledger.Balanced ({completion} + rest)) (hne : handle ≠ completion)
    (hreturned : answer.resource = some handle) : Made start d handle := by
  have howned : handle ∈ answer.owned := by
    rw [← Multiset.one_le_count_iff_mem, count_owned, if_pos hreturned]
  have hcreated : handle ∈ d.ledger.created :=
    h.balanced.mem_created (Multiset.mem_add.mpr (Or.inl howned))
  refine ⟨hcreated, ?_⟩
  intro hbefore
  have hafter := h.count_eq_one hcreated
  have hsame := h.others hstart hbefore hne
  have hone := hstart.count_eq_one hbefore
  rw [Multiset.count_add, Multiset.count_singleton, if_neg hne] at hone
  rw [if_pos hreturned] at hafter
  omega

theorem Since.settled (h : Since start d (answer.owned + rest))
    (hstart : start.ledger.Balanced ({completion} + rest)) (hfits : answer.Fits opened)
    (hopened : opened ≠ some completion.kind) : Settled completion opened start answer d where
  clean := h.clean
  once _ := h.once hstart
  others _ := h.others hstart
  opened handle hreturned := by
    obtain ⟨hkind, -⟩ := hfits handle hreturned
    refine ⟨hkind, h.made hstart ?_ hreturned⟩
    rintro rfl
    exact hopened hkind

end Settled

end Desk

theorem opens_ne_completion (expectedKind : CompletionKind) :
    opens expectedKind ≠ some .completion := by
  cases expectedKind <;> decide

/-- Whatever the bridge answers and wherever it throws, a settlement gives each of its handles
back once, keeps only what it opened, and makes no call about a handle that is gone. -/
theorem settlement_handles (completion : UInt32) (context : Context)
    (expectedKind : CompletionKind) {start d : Desk} {answer : Answer Value}
    {rest : Multiset BridgeHandle}
    (hstart : start.ledger.Balanced ({⟨.completion, completion⟩} + rest))
    (hrun : desk.settleCompletion completion context expectedKind start = (answer, d)) :
    Desk.Settled ⟨.completion, completion⟩ (opens expectedKind) start answer d := by
  have hfits : Answer.Fits (opens expectedKind)
      (desk.settleCompletion completion context expectedKind start).1 :=
    BridgeCalls.fits_settleCompletion start
  have haccount : Accounts (Desk.Since start) {⟨.completion, completion⟩}
      (desk.settleCompletion completion context expectedKind)
      (fun outcome => Answer.owned (.ok outcome)) 0 :=
    (Desk.keeps_desk start).settleCompletion
  have hsince := haccount start rest (Desk.since_self hstart)
  rw [hrun] at hfits hsince
  refine Desk.Since.settled ?_ hstart hfits (opens_ne_completion expectedKind)
  cases answer with
  | ok outcome => exact hsince
  | error failure => exact hsince

/-- The path of the first entry of a list cannot be read. -/
theorem settlement_handles_refused :
    Desk.Settled ⟨.completion, 1⟩ (opens .list)
      { ledger := { created := [⟨.completion, 1⟩] }
        answers := [some 6, some 0, some 0, some 5, some 2, some 8, none] }
      (.error (.contract { message := "bridge returned non-UTF-8 text" }))
      { ledger := { created := [⟨.buffer, 8⟩, ⟨.entryList, 5⟩, ⟨.completion, 1⟩]
                    gone := [⟨.entryList, 5⟩, ⟨.buffer, 8⟩, ⟨.completion, 1⟩] } } := by
  have hstart : ({ created := [⟨.completion, 1⟩] } : Ledger BridgeHandle).Balanced
      ({⟨.completion, 1⟩} + 0) := ⟨by decide, by decide⟩
  exact settlement_handles 1 checkContext .list hstart rfl

/-- A release that is refused is made up for. -/
example : (desk.settleCompletion 1 checkContext .delete
    { ledger := { created := [⟨.completion, 1⟩] }
      answers := [some 5, some 0, some 0, some 1] }).2.ledger.gone = [⟨.completion, 1⟩] := rfl

end OpendalMbt.Browser
