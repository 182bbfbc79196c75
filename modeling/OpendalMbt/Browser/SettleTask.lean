import OpendalMbt.Browser.HandleContract

/-!
# Tasks of the bridge

How `class BridgeFacade` of `wasm/browser-runtime/index.mjs` starts a task, follows it in
`settleTask` and takes its completion apart in `settleCompletion`. A task is followed by
polling: each round runs to its end, and an abort may come between two rounds. The variables
`ownedTask` and `ownedCompletion` of the source say what is still to be released when a round
is left; here that is the part of the round that stands under `Call.onError`.

* `owns_startTask`, `owns_pollTask`, `balanced_abortTask`: what each of them owns.
-/

namespace OpendalMbt.Browser

open Codec Bridge Transition

/-- The `COMPLETION_*` constants. -/
def completionCode : CompletionKind → Int
  | .write => 1
  | .read => 2
  | .stat => 3
  | .createDir => 4
  | .delete => 5
  | .list => 6
  | .copy => 7
  | .rename => 8
  | .openReader => 9
  | .readerNext => 10
  | .openWriter => 11
  | .writerWrite => 12
  | .writerFinish => 13
  | .writerAbort => 14
  | .openLister => 15
  | .listerNext => 16

def taskPending : Int := 1
def taskReady : Int := 2
def taskCancelled : Int := 3
def taskConsumed : Int := 4

/-- The handle that an answer carries. -/
def Answer.resource : Answer Value → Option BridgeHandle
  | .ok (.ok (.resource handle)) => some handle
  | _ => none

def Answer.owned (answer : Answer Value) : Multiset BridgeHandle :=
  match answer.resource with
  | some handle => {handle}
  | none => 0

/-- The kind of resource that a completion opens. -/
def opens : CompletionKind → Option ResourceKind
  | .openReader => some .readStream
  | .openWriter => some .writer
  | .openLister => some .lister
  | _ => none

/-- An answer carries a handle only if something was opened, and then one of that kind. -/
def Answer.Fits (opened : Option ResourceKind) (answer : Answer Value) : Prop :=
  ∀ handle, answer.resource = some handle → opened = some handle.kind ∧ handle.code ≠ 0

theorem Answer.owned_of_none {answer : Answer Value} (h : answer.resource = none) :
    answer.owned = 0 := by
  unfold Answer.owned
  rw [h]

theorem Answer.resource_of_fits {answer : Answer Value} (h : answer.Fits none) :
    answer.resource = none := by
  cases hresource : answer.resource with
  | none => rfl
  | some handle => cases (h handle hresource).1

theorem Answer.fits_of_none {answer : Answer Value} (h : answer.resource = none)
    (opened : Option ResourceKind) : answer.Fits opened := by
  intro handle hhandle
  rw [h] at hhandle
  cases hhandle

namespace HandleCall

/-! ## Completions -/

/-- What `settleCompletion` has in hand once the completion is gone. -/
inductive Taken where
  | nothing
  | error (handle : UInt32)
  | buffer (handle : UInt32)
  | metadata (handle : UInt32)
  | list (handle : UInt32)
  | entry (handle : UInt32)
  | resource (handle : BridgeHandle)
  deriving DecidableEq, Repr

def Taken.owned : Taken → Multiset BridgeHandle
  | .nothing => 0
  | .error handle => {⟨.error, handle⟩}
  | .buffer handle | .metadata handle => {⟨.buffer, handle⟩}
  | .list handle | .entry handle => {⟨.entryList, handle⟩}
  | .resource handle => {handle}

section Completion

variable (completion : UInt32) (context : Context)

def takeInto (kind : ResourceKind) (fallbackMessage : String) : HandleCall UInt32 := do
  let code ← transfer ⟨.completion, completion⟩ kind
  expectHandle code context fallbackMessage

def releaseCompletion (fallbackMessage : String) : HandleCall Unit := do
  let status ← release ⟨.completion, completion⟩
  expectStatus status context fallbackMessage

/-- A successful completion, by its kind. -/
def takeSuccess : CompletionKind → HandleCall Taken
  | .read | .readerNext => do
    let buffer ← takeInto completion context .buffer "could not take an OpenDAL read result"
    pure (.buffer buffer)
  | .write | .stat | .copy | .writerFinish => do
    let metadata ← takeInto completion context .buffer "could not take OpenDAL metadata"
    pure (.metadata metadata)
  | .list => do
    let list ← takeInto completion context .entryList "could not take an OpenDAL list result"
    pure (.list list)
  | .listerNext => do
    let list ← takeInto completion context .entryList "could not take an OpenDAL lister entry"
    pure (.entry list)
  | .openReader => do
    let resource ← takeInto completion context .readStream
      "could not take an OpenDAL streaming resource"
    pure (.resource ⟨.readStream, resource⟩)
  | .openWriter => do
    let resource ← takeInto completion context .writer
      "could not take an OpenDAL streaming resource"
    pure (.resource ⟨.writer, resource⟩)
  | .openLister => do
    let resource ← takeInto completion context .lister
      "could not take an OpenDAL streaming resource"
    pure (.resource ⟨.lister, resource⟩)
  | .createDir | .delete | .rename | .writerWrite | .writerAbort => do
    releaseCompletion completion context "could not release an OpenDAL completion"
    pure .nothing

/-- A query whose error the bridge leaves behind as its last error. -/
def askChecked : HandleCall Int := do
  let answer ← ask
  let errorHandle ← make .error
  if errorHandle ≠ 0 then do
    let error ← takeError errorHandle context
    Call.throw (.outcome error)
  else pure answer

/-- The test for the end that a `next` makes first. -/
def takeNext (expectedKind : CompletionKind) : HandleCall Taken := do
  let isEnd ← askChecked context
  if isEnd ≠ 0 ∧ isEnd ≠ 1 then fail s!"bridge returned non-canonical EOF scalar {isEnd}"
  else if isEnd = 1 then do
    releaseCompletion completion context "could not release an EOF completion"
    pure .nothing
  else takeSuccess completion context expectedKind

def takeCompletion (expectedKind : CompletionKind) : HandleCall Taken := do
  let actualKind ← ask
  if actualKind = 0 then raise takeLastError context "could not inspect an OpenDAL completion"
  else if actualKind ≠ completionCode expectedKind then
    fail s!"bridge returned completion kind {actualKind}, expected {completionCode expectedKind}"
  else do
    let status ← askChecked context
    if status ≠ 0 then do
      let errorHandle ← takeInto completion context .error
        "could not take an OpenDAL completion error"
      pure (.error errorHandle)
    else if expectedKind = .readerNext ∨ expectedKind = .listerNext then
      takeNext completion context expectedKind
    else takeSuccess completion context expectedKind

/-- The outcome of what was taken. -/
def settleTaken (context : Context) : Taken → HandleCall (Outcome Value)
  | .nothing => pure (.ok .undefined)
  | .error handle => do
    let error ← takeError handle context
    pure (.failed error)
  | .buffer handle => do
    let bytes ← takeBuffer handle
    pure (.ok (.bytes bytes))
  | .metadata handle => do
    let metadata ← takeMetadata handle
    pure (.ok (.metadata metadata))
  | .list handle => do
    let entries ← listEntries handle context
    pure (.ok (.entries entries))
  | .entry handle => do
    let entries ← listEntries handle context
    match entries with
    | [entry] => pure (.ok (.entry entry))
    | entries =>
      fail s!"bridge returned {entries.length} entries for one non-EOF lister completion"
  | .resource handle => pure (.ok (.resource handle))

def settleCompletion (expectedKind : CompletionKind) : HandleCall (Outcome Value) := do
  let taken ← Call.onError (takeCompletion completion context expectedKind)
    (released ⟨.completion, completion⟩)
  settleTaken context taken

end Completion

/-! ## Tasks -/

section Task

variable (task : UInt32) (expectedKind : CompletionKind) (context : Context)

/-- One round of `poll`: nothing while the task is pending. -/
def pollTask : HandleCall (Option (Outcome Value)) := do
  let state ← ask
  if state = taskPending then pure none
  else if state = taskCancelled then do
    let _ ← release ⟨.task, task⟩
    pure (some (.failed (cancelledError context)))
  else if state = 0 then do
    let error ← Call.onError (takeLastError context "could not poll an OpenDAL task")
      (released ⟨.task, task⟩)
    let _ ← release ⟨.task, task⟩
    pure (some (.failed error))
  else if state ≠ taskReady then do
    let _ ← release ⟨.task, task⟩
    if state = taskConsumed then fail "bridge exposed a consumed task to its Promise owner"
    else fail s!"bridge returned unknown task state {state}"
  else do
    let completion ← Call.onError
      (do
        let code ← make .completion
        expectHandle code context "could not take a ready OpenDAL task")
      (released ⟨.task, task⟩)
    let _ ← release ⟨.task, task⟩
    let outcome ← settleCompletion completion context expectedKind
    pure (some outcome)

/-- What a round settles the Promise with. -/
def pollAnswer : Except Failure (Option (Outcome Value)) → Option (Answer Value)
  | .ok none => none
  | .ok (some outcome) => some (.ok outcome)
  | .error (.outcome error) => some (.ok (.failed error))
  | .error failure => some (.error failure)

/-- `onAbort` of a task that is not settled yet. -/
def abortTask (b : HandleBridge) : HandleBridge :=
  (do
    let _ ← ask
    let _ ← release ⟨.task, task⟩
    pure () : HandleCall Unit) b |>.2

end Task

/-! ## Starting a task -/

/-- The evaluation of one argument, which may throw, and the bytes of the buffer that it needs,
if it needs one. -/
abbrev Argument : Type := Except Failure (Option (List UInt8))

/-- Put the arguments into buffers, whose handles are there also when an argument throws. -/
def putArguments (context : Context) :
    List Argument → List UInt32 → HandleBridge → (Except Failure Unit × List UInt32) × HandleBridge
  | [], handles, b => ((.ok (), handles), b)
  | .error failure :: _, handles, b => ((.error failure, handles), b)
  | .ok none :: rest, handles, b => putArguments context rest handles b
  | .ok (some bytes) :: rest, handles, b =>
    match putBytes bytes context b with
    | (.error failure, b) => ((.error failure, handles), b)
    | (.ok handle, b) => putArguments context rest (handles ++ [handle]) b

def releaseBuffers (handles : List UInt32) (b : HandleBridge) : HandleBridge :=
  handles.foldl (fun b handle => released ⟨.buffer, handle⟩ b) b

/-- The `start` of an operation: its buffers are released whether or not it gets a task. -/
def startTask (arguments : List Argument) (context : Context) (fallbackMessage : String) :
    HandleCall UInt32 := fun b =>
  match putArguments context arguments [] b with
  | ((.error failure, handles), b) => (.error failure, releaseBuffers handles b)
  | ((.ok (), handles), b) =>
    let (result, b) :=
      (do
        let code ← make .task
        expectHandle code context fallbackMessage : HandleCall UInt32) b
    (result, releaseBuffers handles b)

/-! ## What they own -/

section Rules

variable {α : Type} {pre err : Multiset BridgeHandle} {completion task : UInt32}
  {context : Context} {fallbackMessage : String} {kind : ResourceKind}
  {expectedKind : CompletionKind}

theorem owns_takeInto :
    Owns {⟨.completion, completion⟩} (takeInto completion context kind fallbackMessage)
      (fun handle => {⟨kind, handle⟩}) {⟨.completion, completion⟩} := by
  refine owns_transfer.bind ?_
  intro code
  unfold expectHandle
  by_cases hzero : code = 0
  · rw [if_pos hzero, hzero]
    exact ((neutral_takeLastError context fallbackMessage).keep _).bind fun e => Spends.throw _
  · rw [if_neg hzero, heldAfter_of_ne hzero]
    intro b frame h
    exact h

theorem owns_releaseCompletion :
    Owns {⟨.completion, completion⟩} (releaseCompletion completion context fallbackMessage)
      (fun _ => 0) err :=
  owns_expectRelease

theorem owns_takeSuccess :
    Owns {⟨.completion, completion⟩} (takeSuccess completion context expectedKind) Taken.owned
      {⟨.completion, completion⟩} := by
  cases expectedKind with
  | read | readerNext =>
    exact owns_takeInto.bind fun buffer => Spends.pure (Taken.buffer buffer) rfl
  | write | stat | copy | writerFinish =>
    exact owns_takeInto.bind fun metadata => Spends.pure (Taken.metadata metadata) rfl
  | list => exact owns_takeInto.bind fun list => Spends.pure (Taken.list list) rfl
  | listerNext => exact owns_takeInto.bind fun list => Spends.pure (Taken.entry list) rfl
  | openReader =>
    exact owns_takeInto.bind fun handle => Spends.pure (Taken.resource ⟨.readStream, handle⟩) rfl
  | openWriter =>
    exact owns_takeInto.bind fun handle => Spends.pure (Taken.resource ⟨.writer, handle⟩) rfl
  | openLister =>
    exact owns_takeInto.bind fun handle => Spends.pure (Taken.resource ⟨.lister, handle⟩) rfl
  | createDir | delete | rename | writerWrite | writerAbort =>
    exact owns_releaseCompletion.bind fun _ => Spends.pure Taken.nothing rfl

theorem neutral_askChecked : Neutral HandleBridge.ledger (askChecked context) := by
  refine owns_ask fun answer => owns_make.bind ?_
  intro code
  by_cases hzero : code = 0
  · rw [if_neg (not_not.mpr hzero), hzero, held_zero]
    exact Spends.pure answer rfl
  · rw [if_pos hzero, held_of_ne hzero]
    exact owns_takeError.bind fun e => Spends.throw _

theorem owns_takeNext :
    Owns {⟨.completion, completion⟩} (takeNext completion context expectedKind) Taken.owned
      {⟨.completion, completion⟩} := by
  refine (neutral_askChecked.keep _).bind ?_
  intro isEnd
  split
  · exact Spends.throw _
  split
  · exact owns_releaseCompletion.bind fun _ => Spends.pure Taken.nothing rfl
  · exact owns_takeSuccess

theorem owns_takeCompletion :
    Owns {⟨.completion, completion⟩} (takeCompletion completion context expectedKind) Taken.owned
      {⟨.completion, completion⟩} := by
  refine owns_ask ?_
  intro actualKind
  split
  · exact ((neutral_takeLastError context _).keep _).bind fun e => Spends.throw _
  split
  · exact Spends.throw _
  refine (neutral_askChecked.keep _).bind ?_
  intro status
  split
  · exact owns_takeInto.bind fun handle => Spends.pure (Taken.error handle) rfl
  split
  · exact owns_takeNext
  · exact owns_takeSuccess

theorem owns_settleTaken (taken : Taken) :
    Owns taken.owned (settleTaken context taken) (fun outcome => Answer.owned (.ok outcome)) 0 := by
  cases taken with
  | nothing => exact Spends.pure (Outcome.ok Value.undefined) rfl
  | error handle => exact owns_takeError.bind fun e => Spends.pure (Outcome.failed e) rfl
  | buffer handle =>
    exact owns_takeBuffer.bind fun bytes => Spends.pure (Outcome.ok (Value.bytes bytes)) rfl
  | metadata handle =>
    exact owns_takeMetadata.bind fun metadata => Spends.pure (Outcome.ok (Value.metadata metadata)) rfl
  | list handle =>
    exact owns_listEntries.bind fun entries => Spends.pure (Outcome.ok (Value.entries entries)) rfl
  | entry handle =>
    refine owns_listEntries.bind ?_
    intro entries
    split
    · rename_i entry
      exact Spends.pure (Outcome.ok (Value.entry entry)) rfl
    · exact Spends.throw _
  | resource handle => exact Spends.pure (Outcome.ok (Value.resource handle)) rfl

theorem owns_settleCompletion :
    Owns {⟨.completion, completion⟩} (settleCompletion completion context expectedKind)
      (fun outcome => Answer.owned (.ok outcome)) 0 := by
  refine Spends.bind ?_ owns_settleTaken
  exact Spends.onError owns_takeCompletion balanced_released

/-- What a round of polling owns when it is over. -/
def ownedAfterPoll (task : UInt32) : Option (Outcome Value) → Multiset BridgeHandle
  | none => {⟨.task, task⟩}
  | some outcome => Answer.owned (.ok outcome)

theorem owns_pollTask (task : UInt32) (expectedKind : CompletionKind) (context : Context) :
    Owns {⟨.task, task⟩} (pollTask task expectedKind context) (ownedAfterPoll task) 0 := by
  refine owns_ask ?_
  intro state
  split
  · exact Spends.pure (none : Option (Outcome Value)) rfl
  split
  · exact owns_release.bind fun _ =>
      Spends.pure (some (Outcome.failed (cancelledError context) : Outcome Value)) rfl
  split
  · have hguarded : Owns {⟨.task, task⟩}
        (Call.onError (takeLastError context "could not poll an OpenDAL task")
          (released ⟨.task, task⟩)) (fun _ => {⟨.task, task⟩}) 0 :=
      Spends.onError ((neutral_takeLastError context _).keep _) balanced_released
    refine hguarded.bind fun e => owns_release.bind fun _ => ?_
    exact Spends.pure (some (Outcome.failed e : Outcome Value)) rfl
  split
  · refine owns_release.bind fun _ => ?_
    split
    · exact Spends.throw _
    · exact Spends.throw _
  · have hguarded : Owns {⟨.task, task⟩}
        (Call.onError
          (do
            let code ← make .completion
            expectHandle code context "could not take a ready OpenDAL task")
          (released ⟨.task, task⟩))
        (fun code => {⟨.task, task⟩} + {⟨.completion, code⟩}) 0 :=
      Spends.onError ((owns_makeExpected _ _ _).keep _) balanced_released
    refine hguarded.bind fun completion => (owns_releaseOf _).bind fun _ => ?_
    exact owns_settleCompletion.bind fun outcome => Spends.pure (some outcome) rfl

/-- What is owned once a round has settled the Promise or left it pending. -/
def ownedAfter (task : UInt32) : Option (Answer Value) → Multiset BridgeHandle
  | none => {⟨.task, task⟩}
  | some answer => answer.owned

theorem balanced_pollTask {b : HandleBridge} {frame : Multiset BridgeHandle}
    (h : b.ledger.Balanced ({⟨.task, task⟩} + frame)) :
    (pollTask task expectedKind context b).2.ledger.Balanced
      (ownedAfter task (pollAnswer (pollTask task expectedKind context b).1) + frame) := by
  have hs := owns_pollTask task expectedKind context b frame h
  cases hround : pollTask task expectedKind context b with
  | mk result b' =>
    rw [hround] at hs
    cases result with
    | ok outcome =>
      cases outcome with
      | none => exact hs
      | some outcome => exact hs
    | error failure => cases failure <;> exact hs

theorem balanced_abortTask {b : HandleBridge} {frame : Multiset BridgeHandle}
    (h : b.ledger.Balanced ({⟨.task, task⟩} + frame)) :
    (abortTask task b).ledger.Balanced frame := by
  have habort : Owns {⟨.task, task⟩} (do
      let _ ← ask
      let _ ← release ⟨.task, task⟩
      pure () : HandleCall Unit) (fun _ => 0) 0 :=
    owns_ask fun _ => owns_release.bind fun _ => Spends.pure () rfl
  have hs := habort b frame h
  unfold abortTask
  split at hs
  · rename_i b' hreturn
    rw [hreturn]
    simpa using hs
  · rename_i b' hthrow
    rw [hthrow]
    simpa using hs

/-! ### Arguments -/

def buffers (handles : List UInt32) : Multiset BridgeHandle :=
  (handles.map (BridgeHandle.mk .buffer) : List BridgeHandle)

theorem balanced_releaseBuffers {handles : List UInt32} {b : HandleBridge}
    {frame : Multiset BridgeHandle} (h : b.ledger.Balanced (buffers handles + frame)) :
    (releaseBuffers handles b).ledger.Balanced frame := by
  induction handles generalizing b with
  | nil =>
    have hnone : buffers [] + frame = frame := zero_add frame
    rw [hnone] at h
    exact h
  | cons handle handles ih =>
    apply ih
    apply balanced_released
    rw [← add_assoc]
    exact h

theorem balanced_putArguments (context : Context) (arguments : List Argument)
    (handles : List UInt32) {b : HandleBridge} {frame : Multiset BridgeHandle}
    (h : b.ledger.Balanced (buffers handles + frame)) :
    (putArguments context arguments handles b).2.ledger.Balanced
      (buffers (putArguments context arguments handles b).1.2 + frame) := by
  induction arguments generalizing handles b with
  | nil => exact h
  | cons argument rest ih =>
    match argument with
    | .error failure => exact h
    | .ok none => exact ih handles h
    | .ok (some bytes) =>
      have hs := (owns_putBytes bytes context).keep (buffers handles) b frame h
      unfold putArguments
      cases hput : putBytes bytes context b with
      | mk result b' =>
        rw [hput] at hs
        cases result with
        | error failure => exact hs
        | ok handle =>
          apply ih
          have hbuffers : buffers (handles ++ [handle]) = buffers handles + {⟨.buffer, handle⟩} := by
            unfold buffers
            rw [List.map_append, ← Multiset.coe_add]
            rfl
          rw [hbuffers]
          exact hs

theorem owns_startTask (arguments : List Argument) (context : Context) (fallbackMessage : String) :
    Owns 0 (startTask arguments context fallbackMessage) (fun task => {⟨.task, task⟩}) 0 := by
  intro b frame h
  have hput := balanced_putArguments context arguments [] h
  unfold startTask
  cases hputs : putArguments context arguments [] b with
  | mk out b' =>
    obtain ⟨result, handles⟩ := out
    rw [hputs] at hput
    cases result with
    | error failure =>
      have hreleased := balanced_releaseBuffers hput
      simpa using hreleased
    | ok value =>
      have hs := (owns_makeExpected .task context fallbackMessage).keep (buffers handles) b' frame
        hput
      simp only
      cases hmade : (do
          let code ← make .task
          expectHandle code context fallbackMessage : HandleCall UInt32) b' with
      | mk result b'' =>
        rw [hmade] at hs
        cases result with
        | error failure =>
          have hreleased := balanced_releaseBuffers hs
          simpa using hreleased
        | ok task =>
          apply balanced_releaseBuffers
          rw [← add_assoc]
          exact hs

end Rules

/-! ## What they return -/

section Returned

variable {completion task : UInt32} {context : Context} {expectedKind : CompletionKind}

def Taken.Fits (opened : Option ResourceKind) (taken : Taken) : Prop :=
  ∀ handle, taken = .resource handle → opened = some handle.kind ∧ handle.code ≠ 0

theorem returns_takeInto {kind : ResourceKind} {fallbackMessage : String} :
    Call.Returns (fun code => code ≠ 0) (takeInto completion context kind fallbackMessage) := by
  refine Call.Returns.last fun code => ?_
  unfold expectHandle
  by_cases hzero : code = 0
  · rw [if_pos hzero]
    exact Call.Returns.last fun e => Call.Returns.throw _
  · rw [if_neg hzero]
    exact Call.Returns.pure hzero

theorem returns_takeSuccess :
    Call.Returns (Taken.Fits (opens expectedKind)) (takeSuccess completion context expectedKind) := by
  cases expectedKind with
  | openReader | openWriter | openLister =>
    refine returns_takeInto.bind fun code hcode => Call.Returns.pure ?_
    intro handle hhandle
    cases hhandle
    exact ⟨rfl, hcode⟩
  | _ =>
    refine Call.Returns.last fun code => Call.Returns.pure ?_
    intro handle hhandle
    cases hhandle

theorem returns_takeNext :
    Call.Returns (Taken.Fits (opens expectedKind)) (takeNext completion context expectedKind) := by
  refine Call.Returns.last fun isEnd => ?_
  split
  · exact Call.Returns.throw _
  split
  · refine Call.Returns.last fun _ => Call.Returns.pure ?_
    intro handle hhandle
    cases hhandle
  · exact returns_takeSuccess

theorem returns_takeCompletion :
    Call.Returns (Taken.Fits (opens expectedKind))
      (takeCompletion completion context expectedKind) := by
  refine Call.Returns.last fun actualKind => ?_
  split
  · exact Call.Returns.last fun e => Call.Returns.throw _
  split
  · exact Call.Returns.throw _
  refine Call.Returns.last fun status => ?_
  split
  · refine Call.Returns.last fun code => Call.Returns.pure ?_
    intro handle hhandle
    cases hhandle
  split
  · exact returns_takeNext
  · exact returns_takeSuccess

theorem returns_settleTaken {opened : Option ResourceKind} {taken : Taken}
    (h : taken.Fits opened) :
    Call.Returns (fun outcome => Answer.Fits opened (.ok outcome)) (settleTaken context taken) := by
  cases taken with
  | nothing => exact Call.Returns.pure (Answer.fits_of_none rfl opened)
  | error handle | buffer handle | metadata handle | list handle =>
    exact Call.Returns.last fun _ => Call.Returns.pure (Answer.fits_of_none rfl opened)
  | entry handle =>
    refine Call.Returns.last fun entries => ?_
    split
    · exact Call.Returns.pure (Answer.fits_of_none rfl opened)
    · exact Call.Returns.throw _
  | resource handle =>
    refine Call.Returns.pure ?_
    intro handle' hhandle
    cases hhandle
    exact h handle rfl

theorem returns_settleCompletion :
    Call.Returns (fun outcome => Answer.Fits (opens expectedKind) (.ok outcome))
      (settleCompletion completion context expectedKind) :=
  returns_takeCompletion.onError.bind fun _ => returns_settleTaken

/-- A task settles with a handle only when it opens something. -/
theorem fits_pollAnswer {b : HandleBridge} {answer : Answer Value}
    (h : pollAnswer (pollTask task expectedKind context b).1 = some answer) :
    answer.Fits (opens expectedKind) := by
  have hreturns : Call.Returns
      (fun round => ∀ outcome, round = some outcome → Answer.Fits (opens expectedKind) (.ok outcome))
      (pollTask task expectedKind context) := by
    have hfailed : ∀ e, Answer.Fits (opens expectedKind) (.ok (.failed e)) :=
      fun e => Answer.fits_of_none rfl _
    refine Call.Returns.last fun state => ?_
    split
    · refine Call.Returns.pure ?_
      intro outcome houtcome
      cases houtcome
    split
    · refine Call.Returns.last fun _ => Call.Returns.pure ?_
      intro outcome houtcome
      cases houtcome
      exact hfailed _
    split
    · refine Call.Returns.last fun e => Call.Returns.last fun _ => Call.Returns.pure ?_
      intro outcome houtcome
      cases houtcome
      exact hfailed e
    split
    · refine Call.Returns.last fun _ => ?_
      split <;> exact Call.Returns.throw _
    · refine Call.Returns.last fun code => Call.Returns.last fun _ => ?_
      refine returns_settleCompletion.bind fun settled hsettled => Call.Returns.pure ?_
      intro outcome houtcome
      cases houtcome
      exact hsettled
  cases hround : pollTask task expectedKind context b with
  | mk result b' =>
    rw [hround] at h
    cases result with
    | ok round =>
      cases round with
      | none => cases h
      | some outcome =>
        cases h
        exact hreturns hround outcome rfl
    | error failure =>
      cases failure <;> cases h <;> exact Answer.fits_of_none rfl _

end Returned

end HandleCall

end OpendalMbt.Browser
