import OpendalMbt.Browser.SettleTask

/-!
# Operations of an operator

The operations and openings of `class BrowserOperator` in `wasm/browser-runtime/index.mjs`.
Each is a request to `runTask` or `runTwoPathTask`: it evaluates its arguments in order, puts
some of them into buffers of the bridge, and starts a task. Evaluating an argument may throw,
which is why its value comes as an `Except`.
-/

namespace OpendalMbt.Browser

open Codec Bridge Transition HandleCall

abbrev Checked (α : Type) : Type := Except Failure α

/-- A path: what `textValue` makes of it, and how it stands in the context of an error. -/
structure PathValue where
  text : Checked JsString
  label : Option String

def Checked.argument {α : Type} (value : Checked α) : Argument := value.map fun _ => none

def Checked.put (text : Checked JsString) : Argument := text.map fun value => some (textEncode value)

/-- Optional texts are all evaluated before the first one is put. -/
def optionalTexts (texts : List (Checked (Option JsString))) : List Argument :=
  texts.map Checked.argument ++ texts.map fun text => text.map fun value => value.map textEncode

structure TaskRequest where
  context : Context
  paths : List (Checked JsString)
  expectedKind : CompletionKind
  arguments : List Argument
  fallbackMessage : String

def onePath (operation : String) (path : PathValue) (expectedKind : CompletionKind)
    (arguments : List Argument) (fallbackMessage : String) : TaskRequest where
  context := { operation, path := path.label, destinationPath := none }
  paths := [path.text]
  expectedKind := expectedKind
  arguments := arguments
  fallbackMessage := fallbackMessage

def twoPaths (operation : String) (source destination : PathValue) (expectedKind : CompletionKind)
    (fallbackMessage : String) : TaskRequest where
  context := { operation, path := source.label, destinationPath := destination.label }
  paths := [source.text, destination.text]
  expectedKind := expectedKind
  arguments := [Checked.put source.text, Checked.put destination.text]
  fallbackMessage := fallbackMessage

/-! ## Options -/

structure WriteOptions where
  append : Checked Bool
  contentType : Checked (Option JsString)
  contentDisposition : Checked (Option JsString)
  contentEncoding : Checked (Option JsString)
  cacheControl : Checked (Option JsString)
  ifMatch : Checked (Option JsString)
  ifNoneMatch : Checked (Option JsString)

def WriteOptions.arguments (options : WriteOptions) : List Argument :=
  Checked.argument options.append :: optionalTexts
    [options.contentType, options.contentDisposition, options.contentEncoding,
      options.cacheControl, options.ifMatch, options.ifNoneMatch]

structure StatOptions where
  version : Checked (Option JsString)
  ifMatch : Checked (Option JsString)
  ifNoneMatch : Checked (Option JsString)

def StatOptions.arguments (options : StatOptions) : List Argument :=
  optionalTexts [options.version, options.ifMatch, options.ifNoneMatch]

/-- The range is what `normalizeRange` makes of it: a kind, an offset and a length. -/
structure ReadOptions extends StatOptions where
  range : Checked (Nat × Nat × Nat)

def ReadOptions.arguments (options : ReadOptions) : List Argument :=
  Checked.argument options.range :: options.toStatOptions.arguments

structure ReadStreamOptions extends ReadOptions where
  chunkSize : Checked Nat

structure DeleteOptions where
  version : Checked (Option JsString)
  recursive : Checked Bool

structure ListOptions where
  recursive : Checked Bool
  limit : Checked (Option Nat)
  startAfter : Checked (Option JsString)

def ListOptions.arguments (options : ListOptions) : List Argument :=
  Checked.argument options.recursive :: Checked.argument options.limit ::
    optionalTexts [options.startAfter]

/-! ## Requests -/

def createDir (path : PathValue) : TaskRequest :=
  onePath "CreateDir" path .createDir [Checked.put path.text] "could not start create-dir"

def write (path : PathValue) (data : Checked (List UInt8)) (options : WriteOptions) : TaskRequest :=
  onePath "Write" path .write
    (Checked.put path.text :: data.map some :: options.arguments)
    "could not start write"

def read (path : PathValue) (options : ReadOptions) : TaskRequest :=
  onePath "Read" path .read (Checked.put path.text :: options.arguments) "could not start read"

def stat (path : PathValue) (options : StatOptions) : TaskRequest :=
  onePath "Stat" path .stat (Checked.put path.text :: options.arguments) "could not start stat"

def delete (path : PathValue) (options : DeleteOptions) : TaskRequest :=
  onePath "Delete" path .delete
    (Checked.put path.text :: optionalTexts [options.version] ++ [Checked.argument options.recursive])
    "could not start delete"

def list (path : PathValue) (options : ListOptions) : TaskRequest :=
  onePath "List" path .list (Checked.put path.text :: options.arguments) "could not start list"

def copy (source destination : PathValue) : TaskRequest :=
  twoPaths "Copy" source destination .copy "could not start copy"

def rename (source destination : PathValue) : TaskRequest :=
  twoPaths "Rename" source destination .rename "could not start rename"

def openReadStream (path : PathValue) (options : ReadStreamOptions) : TaskRequest :=
  onePath "Read" path .openReader
    (Checked.argument options.chunkSize :: Checked.put path.text :: options.toReadOptions.arguments)
    "could not open an OpenDAL read stream"

def openWriter (path : PathValue) (options : WriteOptions) : TaskRequest :=
  onePath "Write" path .openWriter (Checked.put path.text :: options.arguments)
    "could not open an OpenDAL writer"

def openLister (path : PathValue) (options : ListOptions) : TaskRequest :=
  onePath "List" path .openLister (Checked.put path.text :: options.arguments)
    "could not open an OpenDAL lister"

inductive Operation where
  | createDir (path : PathValue)
  | write (path : PathValue) (data : Checked (List UInt8)) (options : WriteOptions)
  | read (path : PathValue) (options : ReadOptions)
  | stat (path : PathValue) (options : StatOptions)
  | delete (path : PathValue) (options : DeleteOptions)
  | list (path : PathValue) (options : ListOptions)
  | copy (source destination : PathValue)
  | rename (source destination : PathValue)

def Operation.request : Operation → TaskRequest
  | .createDir path => Browser.createDir path
  | .write path data options => Browser.write path data options
  | .read path options => Browser.read path options
  | .stat path options => Browser.stat path options
  | .delete path options => Browser.delete path options
  | .list path options => Browser.list path options
  | .copy source destination => Browser.copy source destination
  | .rename source destination => Browser.rename source destination

inductive Opening where
  | readStream (path : PathValue) (options : ReadStreamOptions)
  | writer (path : PathValue) (options : WriteOptions)
  | lister (path : PathValue) (options : ListOptions)

def Opening.request : Opening → TaskRequest
  | .readStream path options => openReadStream path options
  | .writer path options => openWriter path options
  | .lister path options => openLister path options

/-- An operation opens nothing. -/
theorem Operation.opens_request (operation : Operation) :
    opens operation.request.expectedKind = none := by
  cases operation <;> rfl

/-! ## The start of a request -/

def firstFailure : List (Checked JsString) → Option Failure
  | [] => none
  | .error failure :: _ => some failure
  | .ok _ :: rest => firstFailure rest

/-- `runTask` and `runTwoPathTask` up to their `await`, `settleTask` included; `ended` is the
phase of a call whose `runTask` is over. -/
def TaskRequest.runTask (request : TaskRequest) (operatorOpen : Bool) (signal : Signal)
    (ended : Answer Value → Phase Value) (b : HandleBridge) : Phase Value × HandleBridge :=
  if operatorOpen = false then (ended (.ok (.failed (closedError request.context))), b)
  else
    match firstFailure request.paths with
    | some (.outcome error) => (ended (.ok (.failed error)), b)
    | some failure => (ended (.error failure), b)
    | none =>
      if signal = .invalid then (ended (.ok (.failed (invalidSignal request.context))), b)
      else
        match startTask request.arguments request.context request.fallbackMessage b with
        | (.error (.outcome error), b) => (ended (.ok (.failed error)), b)
        | (.error failure, b) => (ended (.error failure), b)
        | (.ok task, b) =>
          if signal = .aborted then
            (.settled (.ok (.failed (cancelledError request.context))), abortTask task b)
          else (.settling task, b)

/-! ## What a request owns -/

/-- What a call holds on to between two pieces. -/
def Phase.owned : Phase Value → Multiset BridgeHandle
  | .settling task => {⟨.task, task⟩}
  | .settled answer | .returning answer => Answer.owned answer
  | .returned _ => 0

section Rules

variable (request : TaskRequest) (operatorOpen : Bool) (signal : Signal)
  {ended : Answer Value → Phase Value} {b : HandleBridge} {frame : Multiset BridgeHandle}

/-- A request ends without a value, or it has a task. -/
theorem runTask_phase (ended : Answer Value → Phase Value) (b : HandleBridge) :
    (∃ answer, (request.runTask operatorOpen signal ended b).1 = ended answer ∧
        Answer.resource answer = none) ∨
      (∃ answer, (request.runTask operatorOpen signal ended b).1 = .settled answer ∧
        Answer.resource answer = none) ∨
      ∃ task, (request.runTask operatorOpen signal ended b).1 = .settling task := by
  unfold TaskRequest.runTask
  split
  · exact Or.inl ⟨_, rfl, rfl⟩
  split
  · exact Or.inl ⟨_, rfl, rfl⟩
  · exact Or.inl ⟨_, rfl, rfl⟩
  split
  · exact Or.inl ⟨_, rfl, rfl⟩
  split
  · exact Or.inl ⟨_, rfl, rfl⟩
  · exact Or.inl ⟨_, rfl, rfl⟩
  split
  · exact Or.inr (Or.inl ⟨_, rfl, rfl⟩)
  · exact Or.inr (Or.inr ⟨_, rfl⟩)

theorem balanced_runTask (hended : ∀ answer, Answer.resource answer = none → (ended answer).owned = 0)
    (h : b.ledger.Balanced frame) :
    (request.runTask operatorOpen signal ended b).2.ledger.Balanced
      ((request.runTask operatorOpen signal ended b).1.owned + frame) := by
  have hzero : ∀ {answer : Answer Value} {b' : HandleBridge}, Answer.resource answer = none →
      b'.ledger.Balanced frame → b'.ledger.Balanced ((ended answer).owned + frame) := by
    intro answer b' hanswer hb
    rw [hended answer hanswer, zero_add]
    exact hb
  have hs := owns_startTask request.arguments request.context request.fallbackMessage b frame
    (by rw [zero_add]; exact h)
  unfold TaskRequest.runTask
  split
  · exact hzero rfl h
  split
  · exact hzero rfl h
  · exact hzero rfl h
  split
  · exact hzero rfl h
  split
  · rename_i error b' hstart
    rw [hstart] at hs
    exact hzero rfl (by simpa using hs)
  · rename_i failure b' hother hstart
    rw [hstart] at hs
    exact hzero rfl (by simpa using hs)
  · rename_i task b' hstart
    rw [hstart] at hs
    split
    · show (abortTask task b').ledger.Balanced (0 + frame)
      rw [zero_add]
      exact balanced_abortTask hs
    · exact hs

theorem runTask_operatorClosed :
    request.runTask false signal ended b =
      (ended (.ok (.failed (closedError request.context))), b) := if_pos rfl

end Rules

end OpendalMbt.Browser
