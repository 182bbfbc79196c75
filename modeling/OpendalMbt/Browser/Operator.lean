import OpendalMbt.Browser.ChildRuns
import OpendalMbt.Browser.Operations

/-!
# An operator with its children

`class BrowserOperator` of `wasm/browser-runtime/index.mjs` with its operations, openings and
children, over one bridge. Every piece of code between two suspensions is an event: the start
of a call, a round of polling, an abort, the continuation of `runTask`, the continuation of an
opening or of `next`, and the closes. A list of events is an interleaving, and every event
comes with the bridge's answers to it.

* The children are those of `BrowserChildResource`, with all values in one type.
* The runtime stays open: its own close tears the whole bridge down.
-/

namespace OpendalMbt.Browser

open Codec Bridge Transition HandleCall

/-! ## Children -/

inductive ChildType where
  | readStream (chunkSize : Nat)
  | writer
  | lister
  deriving DecidableEq, Repr

inductive ChildOp where
  | next | write | finish | abort
  deriving DecidableEq, Repr

namespace ChildType

def kind : ChildType → ResourceKind
  | .readStream _ => .readStream
  | .writer => .writer
  | .lister => .lister

/-- The completion of an operation that the class has. -/
def expects : ChildType → ChildOp → Option CompletionKind
  | .readStream _, .next => some .readerNext
  | .lister, .next => some .listerNext
  | .writer, .write => some .writerWrite
  | .writer, .finish => some .writerFinish
  | .writer, .abort => some .writerAbort
  | _, _ => none

def operationName : ChildType → ChildOp → String
  | .lister, _ => "ListerNext"
  | _, .next => "ReadStreamNext"
  | _, .write => "WriterWrite"
  | _, .finish => "WriterFinish"
  | _, .abort => "WriterAbort"

def closeName : ChildType → String
  | .readStream _ => "ReadStreamClose"
  | .writer => "WriterClose"
  | .lister => "ListerClose"

def fallbackMessage : ChildType → ChildOp → String
  | .lister, _ => "could not read the next OpenDAL lister entry"
  | _, .next => "could not read the next OpenDAL stream chunk"
  | _, .write => "could not write an OpenDAL writer chunk"
  | _, .finish => "could not finish an OpenDAL writer"
  | _, .abort => "could not abort an OpenDAL writer"

def post : ChildType → Option (Value → Post)
  | .readStream chunkSize => some fun value =>
    match value with
    | .undefined => .end
    | .bytes chunk => if chunk.length > chunkSize then .invalid else .keep
    | _ => .invalid
  | .lister => some fun value =>
    match value with
    | .undefined => .end
    | _ => .keep
  | .writer => none

abbrev childClass (type : ChildType) (path : Option String) : ChildClass Value where
  Op := ChildOp
  context op := { operation := type.operationName op, path, destinationPath := none }
  shortcut op state :=
    match type with
    | .writer => if op = .abort ∧ state = .aborted then some .undefined else none
    | .readStream _ | .lister => if state = .end then some .undefined else none
  successState op :=
    match op with
    | .finish => some .finished
    | .abort => some .aborted
    | .next | .write => none
  post _ := type.post

end ChildType

/-- A writer's chunk has a limit of its own. -/
def writerChunk (data : Checked (List UInt8)) (context : Context) : Argument :=
  match data with
  | .error failure => .error failure
  | .ok bytes =>
    if bytes.length > maxTransferChunk then
      .error (.outcome (localError "BufferTooLarge" 0x1003
        s!"writer chunk exceeds the {maxTransferChunk}-byte scalar limit" context))
    else .ok (some bytes)

def childArguments (data : Checked (List UInt8)) (context : Context) : ChildOp → List Argument
  | .write => [writerChunk data context]
  | .next | .finish | .abort => []

structure Child where
  type : ChildType
  path : Option String
  resource : BrowserChildResource

namespace Child

abbrev cls (child : Child) : ChildClass Value := child.type.childClass child.path

def ownedHandle (child : Child) : BridgeHandle := ⟨child.type.kind, child.resource.handle⟩

def releaseHandle (child : Child) (context : Context) : HandleCall Unit := do
  let status ← release child.ownedHandle
  expectStatus status context "could not release an OpenDAL streaming resource"

/-- A piece of a child's code asks the bridge for a release exactly when it clears the
handle; `f` is the piece, given the bridge's answer. -/
def perform {α : Type} (child : Child) (context : Context)
    (f : Except Failure Unit → α × BrowserChildResource) (b : HandleBridge) :
    (α × Child) × HandleBridge :=
  if child.resource.handle ≠ 0 ∧ (f (.ok ())).2.handle = 0 then
    let (answer, b) := child.releaseHandle context b
    (((f answer).1, { child with resource := (f answer).2 }), b)
  else (((f (.ok ())).1, { child with resource := (f (.ok ())).2 }), b)

/-- `runTask` comes to its `start`. -/
def Starts (child : Child) (operatorOpen : Bool) (signal : Signal) : Prop :=
  ¬ child.resource.Unusable operatorOpen ∧ child.resource.active = none ∧
    (signal = .none ∨ signal = .live)

instance (child : Child) (operatorOpen : Bool) (signal : Signal) :
    Decidable (child.Starts operatorOpen signal) :=
  inferInstanceAs (Decidable (_ ∧ _ ∧ _))

end Child

/-! ## Calls -/

/-- Whose call it is: an operation or an opening of the operator, or a call on a child. -/
inductive Caller where
  | operation
  | opening (type : ChildType)
  | child (id : Nat) (op : ChildOp)
  deriving DecidableEq, Repr

structure PendingCall where
  caller : Caller
  expectedKind : CompletionKind
  context : Context
  phase : Phase Value

/-- The children and the calls are numbered in the order in which they were made. -/
structure OperatorSystem where
  bridge : HandleBridge
  handle : UInt32
  children : List Child := []
  calls : List PendingCall := []
  activeTasks : List Nat := []

inductive OperatorEvent where
  | operation (operation : Operation) (signal : Signal)
  | opening (opening : Opening) (signal : Signal)
  | childCall (id : Nat) (op : ChildOp) (signal : Signal) (data : Checked (List UInt8))
  | poll (k : Nat)
  | abort (k : Nat)
  | resumeTask (k : Nat)
  | resume (k : Nat)
  | closeChild (id : Nat)
  | close

def Opening.type : Opening → ChildType
  | .readStream _ options =>
    match options.chunkSize with
    | .ok chunkSize => .readStream chunkSize
    | .error _ => .readStream 0
  | .writer _ _ => .writer
  | .lister _ _ => .lister

namespace OperatorSystem

def opened (handle : UInt32) : OperatorSystem where
  bridge := { ledger := { created := [⟨.operator, handle⟩] } }
  handle := handle

variable (s : OperatorSystem)

def isOpen : Bool := decide (s.handle ≠ 0)

def setPhase (k : Nat) (call : PendingCall) (phase : Phase Value) : OperatorSystem :=
  { s with calls := s.calls.set k { call with phase } }

/-! ### Starting -/

/-- A control is active from the start of its task on. -/
def addControl (k : Nat) : Phase Value → List Nat → List Nat
  | .settling _, active | .settled _, active => active ++ [k]
  | .returning _, active | .returned _, active => active

def request (caller : Caller) (request : TaskRequest) (signal : Signal)
    (ended : Answer Value → Phase Value) : OperatorSystem :=
  let (phase, bridge) := request.runTask s.isOpen signal ended s.bridge
  { s with
    bridge
    calls := s.calls ++ [⟨caller, request.expectedKind, request.context, phase⟩]
    activeTasks := addControl s.calls.length phase s.activeTasks }

/-- A call on a child, once the bridge has been asked for a task or need not be. -/
def runChild (id : Nat) (op : ChildOp) (signal : Signal) (child : Child)
    (expectedKind : CompletionKind) (start : Except Failure UInt32) : OperatorSystem :=
  let ran := child.perform (child.cls.context op)
    (fun release => child.cls.runTask s.isOpen op s.calls.length signal start release
      child.resource) s.bridge
  { s with
    bridge := ran.2
    children := s.children.set id ran.1.2
    calls := s.calls ++ [⟨.child id op, expectedKind, child.cls.context op, ran.1.1⟩] }

def callChild (id : Nat) (op : ChildOp) (signal : Signal) (data : Checked (List UInt8))
    (child : Child) (expectedKind : CompletionKind) : OperatorSystem :=
  let context := child.cls.context op
  match child.cls.shortcut op child.resource.state with
  | some value =>
    { s with calls := s.calls ++ [⟨.child id op, expectedKind, context, .returned (.ok (.ok value))⟩] }
  | none =>
    if child.Starts s.isOpen signal then
      let (start, bridge) := startTask (childArguments data context op) context
        (child.type.fallbackMessage op) s.bridge
      runChild { s with bridge } id op signal child expectedKind start
    else s.runChild id op signal child expectedKind (.ok 0)

/-! ### Settling -/

/-- `onAbort` of a call in `settleTask`, from its signal or from its control. -/
def cancel (k : Nat) : OperatorSystem :=
  match s.calls[k]? with
  | some ⟨caller, expectedKind, context, .settling task⟩ =>
    { s with
      bridge := abortTask task s.bridge
      calls := s.calls.set k
        ⟨caller, expectedKind, context, .settled (.ok (.failed (cancelledError context)))⟩ }
  | _ => s

def poll (k : Nat) (call : PendingCall) (task : UInt32) : OperatorSystem :=
  let (round, bridge) := pollTask task call.expectedKind call.context s.bridge
  match pollAnswer round with
  | none => { s with bridge }
  | some answer => { s with bridge }.setPhase k call (.settled answer)

/-! ### Going on -/

/-- A call on a child goes on with the piece `f`, whose result is its next phase. -/
def continueCall {α : Type} (k : Nat) (call : PendingCall) (id : Nat) (child : Child)
    (f : Except Failure Unit → α × BrowserChildResource) (phase : α → Phase Value) :
    OperatorSystem :=
  let ran := child.perform call.context f s.bridge
  { s with
    bridge := ran.2
    children := s.children.set id ran.1.2
    calls := s.calls.set k { call with phase := phase ran.1.1 } }

/-- `runTask` after its `await`. -/
def resumeTask (k : Nat) (call : PendingCall) (answer : Answer Value) : OperatorSystem :=
  match call.caller with
  | .operation =>
    { s with activeTasks := s.activeTasks.erase k }.setPhase k call (.returned answer)
  | .opening _ =>
    { s with activeTasks := s.activeTasks.erase k }.setPhase k call (.returning answer)
  | .child id op =>
    match s.children[id]? with
    | none => s
    | some child =>
      s.continueCall k call id child
        (fun release => child.cls.resumeTask s.isOpen op k answer release child.resource)
        (child.cls.returning op)

/-- An opening after its `await`: what was opened becomes a child, unless the operator has
been closed by then. -/
def resumeOpening (k : Nat) (call : PendingCall) (type : ChildType) (answer : Answer Value) :
    OperatorSystem :=
  match answer with
  | .ok (.ok (.resource handle)) =>
    if s.handle = 0 then
      { s with bridge := released ⟨type.kind, handle.code⟩ s.bridge }.setPhase k call
        (.returned (.ok (.failed (closedError call.context))))
    else
      let child : Child := ⟨type, call.context.path, { handle := handle.code }⟩
      { s with children := s.children ++ [child] }.setPhase k call
        (.returned (.ok (.ok (.child s.children.length))))
  | answer => s.setPhase k call (.returned answer)

/-- `next` after its `await`. -/
def resumeNext (k : Nat) (call : PendingCall) (id : Nat) (answer : Answer Value) :
    OperatorSystem :=
  match s.children[id]? with
  | none => s
  | some child =>
    match child.type.post with
    | none => s
    | some post =>
      s.continueCall k call id child
        (fun release => Browser.resumeNext post answer release child.resource) .returned

/-! ### Closing -/

/-- `this.active?.cancel?.()`. -/
def cancelActive : Option Nat → OperatorSystem
  | none => s
  | some k => s.cancel k

def closeChild (id : Nat) : Answer Unit × OperatorSystem :=
  match s.children[id]? with
  | none => (.ok (.ok ()), s)
  | some child =>
    let s := if child.resource.state = .closed then s else s.cancelActive child.resource.active
    let context : Context :=
      { operation := child.type.closeName, path := child.path, destinationPath := none }
    let ran := child.perform context (fun release => child.resource.closeResource release) s.bridge
    (ran.1.1, { s with bridge := ran.2, children := s.children.set id ran.1.2 })

/-- The loop over `[...this.children]`; the first failed outcome is kept, and an exception
leaves the loop. -/
def closeChildren : List Nat → Option (ErrorOutcome JsString) → OperatorSystem →
    Except Failure (Option (ErrorOutcome JsString)) × OperatorSystem
  | [], firstError, s => (.ok firstError, s)
  | id :: ids, firstError, s =>
    match s.closeChild id with
    | (.error failure, s) => (.error failure, s)
    | (.ok (.ok ()), s) => closeChildren ids firstError s
    | (.ok (.failed e), s) => closeChildren ids (some (firstError.getD e)) s

/-- The children that the operator still has. -/
def registered : List Nat :=
  (List.range s.children.length).filter fun id =>
    s.children[id]?.any fun child => child.resource.registered

def clearChildren : OperatorSystem :=
  { s with
    children := s.children.map fun child =>
      { child with resource := { child.resource with registered := false } } }

def cancelAll (ks : List Nat) (s : OperatorSystem) : OperatorSystem := ks.foldl cancel s

def releaseOperator (handle : UInt32) : HandleCall Unit := do
  let status ← release ⟨.operator, handle⟩
  expectStatus status checkContext "could not release an OpenDAL operator"

/-- The end of `close`: the outcome is the first error, that of the operator's own release
coming last. -/
def closeOperator (handle : UInt32) (firstError : Option (ErrorOutcome JsString)) :
    Answer Unit × OperatorSystem :=
  let (result, bridge) := releaseOperator handle s.bridge
  let s := { s with activeTasks := [], bridge }
  match result, firstError with
  | .ok (), none => (.ok (.ok ()), s)
  | .ok (), some e => (.ok (.failed e), s)
  | .error (.outcome e), firstError => (.ok (.failed (firstError.getD e)), s)
  | .error failure, _ => (.error failure, s)

def close : Answer Unit × OperatorSystem :=
  if s.handle = 0 then (.ok (.ok ()), s)
  else
    match closeChildren s.registered none { s with handle := 0 } with
    | (.error failure, t) => (.error failure, t)
    | (.ok firstError, t) =>
      (cancelAll t.activeTasks t.clearChildren).closeOperator s.handle firstError

/-! ### Steps -/

def handleEvent : OperatorEvent → Option OperatorSystem
  | .operation operation signal => some (s.request .operation operation.request signal .returned)
  | .opening opening signal =>
    some (s.request (.opening opening.type) opening.request signal .returning)
  | .childCall id op signal data =>
    match s.children[id]? with
    | none => none
    | some child =>
      match child.type.expects op with
      | none => none
      | some expectedKind => some (s.callChild id op signal data child expectedKind)
  | .poll k =>
    match s.calls[k]? with
    | some ⟨caller, expectedKind, context, .settling task⟩ =>
      some (s.poll k ⟨caller, expectedKind, context, .settling task⟩ task)
    | _ => none
  | .abort k => some (s.cancel k)
  | .resumeTask k =>
    match s.calls[k]? with
    | some ⟨caller, expectedKind, context, .settled answer⟩ =>
      some (s.resumeTask k ⟨caller, expectedKind, context, .settled answer⟩ answer)
    | _ => none
  | .resume k =>
    match s.calls[k]? with
    | some ⟨.opening type, expectedKind, context, .returning answer⟩ =>
      some (s.resumeOpening k ⟨.opening type, expectedKind, context, .returning answer⟩ type answer)
    | some ⟨.child id op, expectedKind, context, .returning answer⟩ =>
      some (s.resumeNext k ⟨.child id op, expectedKind, context, .returning answer⟩ id answer)
    | _ => none
  | .closeChild id => some (s.closeChild id).2
  | .close => some s.close.2

/-- An event and what the bridge answers to it. -/
def step (e : World × OperatorEvent) : Option OperatorSystem :=
  handleEvent { s with bridge := { s.bridge with world := e.1 } } e.2

/-- What an event does, with what lets it happen. -/
inductive Happens (s : OperatorSystem) : OperatorEvent → OperatorSystem → Prop
  | operation (operation : Operation) (signal : Signal) :
    Happens s (.operation operation signal)
      (s.request .operation operation.request signal .returned)
  | opening (opening : Opening) (signal : Signal) :
    Happens s (.opening opening signal)
      (s.request (.opening opening.type) opening.request signal .returning)
  | childCall {id : Nat} {op : ChildOp} {child : Child} {expectedKind : CompletionKind}
      (signal : Signal) (data : Checked (List UInt8)) (hid : s.children[id]? = some child)
      (hexpects : child.type.expects op = some expectedKind) :
    Happens s (.childCall id op signal data) (s.callChild id op signal data child expectedKind)
  | poll {k : Nat} {call : PendingCall} {task : UInt32} (hk : s.calls[k]? = some call)
      (hphase : call.phase = .settling task) :
    Happens s (.poll k) (s.poll k call task)
  | abort (k : Nat) : Happens s (.abort k) (s.cancel k)
  | resumeTask {k : Nat} {call : PendingCall} {answer : Answer Value}
      (hk : s.calls[k]? = some call) (hphase : call.phase = .settled answer) :
    Happens s (.resumeTask k) (s.resumeTask k call answer)
  | resumeOpening {k : Nat} {call : PendingCall} {type : ChildType} {answer : Answer Value}
      (hk : s.calls[k]? = some call) (hcaller : call.caller = .opening type)
      (hphase : call.phase = .returning answer) :
    Happens s (.resume k) (s.resumeOpening k call type answer)
  | resumeNext {k id : Nat} {op : ChildOp} {call : PendingCall} {answer : Answer Value}
      (hk : s.calls[k]? = some call) (hcaller : call.caller = .child id op)
      (hphase : call.phase = .returning answer) :
    Happens s (.resume k) (s.resumeNext k call id answer)
  | closeChild (id : Nat) : Happens s (.closeChild id) (s.closeChild id).2
  | close : Happens s .close s.close.2

theorem happens_of_handleEvent {s t : OperatorSystem} {e : OperatorEvent}
    (h : s.handleEvent e = some t) : s.Happens e t := by
  cases e with
  | operation operation signal =>
    cases h
    exact .operation operation signal
  | opening opening signal =>
    cases h
    exact .opening opening signal
  | childCall id op signal data =>
    simp only [handleEvent] at h
    split at h
    · cases h
    · rename_i child hid
      split at h
      · cases h
      · rename_i expectedKind hexpects
        cases h
        exact .childCall signal data hid hexpects
  | poll k =>
    simp only [handleEvent] at h
    split at h
    · rename_i hk
      cases h
      exact .poll hk rfl
    · cases h
  | abort k =>
    cases h
    exact .abort k
  | resumeTask k =>
    simp only [handleEvent] at h
    split at h
    · rename_i hk
      cases h
      exact .resumeTask hk rfl
    · cases h
  | resume k =>
    simp only [handleEvent] at h
    split at h
    · rename_i hk
      cases h
      exact .resumeOpening hk rfl rfl
    · rename_i hk
      cases h
      exact .resumeNext hk rfl rfl
    · cases h
  | closeChild id =>
    cases h
    exact .closeChild id
  | close =>
    cases h
    exact .close

/-- A step is an event that happens with the answers of its world. -/
theorem happens_of_step {s t : OperatorSystem} {e : World × OperatorEvent}
    (h : s.step e = some t) :
    Happens { s with bridge := { s.bridge with world := e.1 } } e.2 t :=
  happens_of_handleEvent h

end OperatorSystem

end OpendalMbt.Browser
