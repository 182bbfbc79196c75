import Mathlib.Logic.Function.Basic
import OpendalMbt.Browser.Facade
import OpendalMbt.Transition.Run

/-!
# Children of an operator in the JavaScript runtime

`BrowserChildResource` of `wasm/browser-runtime/index.mjs` with its calls. An `async` call
does not run in one piece: it is suspended while its task settles, then `runTask` goes on
in a microtask of its own, and for a stream or a lister `next` goes on in a later one.
Each piece reads and writes the object again, and anything may run between two pieces. A
list of events is such an interleaving.

* The bridge is not part of the model: what it answers to a start or a release, and what a
  task settles with, comes with the event.
* An abort of its signal settles a call with the cancelled error.
-/

namespace OpendalMbt.Browser

open Codec Transition

/-- The states of streams, writers and listers, by their JavaScript names. -/
inductive ChildState where
  | open | closed | failed | «end» | finished | aborted
  deriving DecidableEq, Repr

/-- `active` names the call whose control is stored; `registered` says that the operator
still has the object among its children. -/
structure BrowserChildResource where
  state : ChildState := .open
  handle : UInt32
  active : Option Nat := none
  registered : Bool := true
  deriving DecidableEq, Repr

inductive Outcome (V : Type) where
  | ok (value : V)
  | failed (error : ErrorOutcome JsString)
  deriving DecidableEq, Repr

/-- What a Promise settles with: an outcome, or a rejection. -/
abbrev Answer (V : Type) : Type := Except Failure (Outcome V)

def closedError (context : Context) : ErrorOutcome JsString :=
  localError "ResourceClosed" 0x1002 "resource is closed" context

def busyError (context : Context) : ErrorOutcome JsString :=
  localError "ResourceBusy" 0x1006 "resource already has an in-flight operation" context

def cancelledError (context : Context) : ErrorOutcome JsString :=
  localError "Cancelled" 0x1005 "operation was cancelled" context

def invalidSignal (context : Context) : ErrorOutcome JsString :=
  localError "InvalidArgument" 0x1001 "signal must be an AbortSignal" context

/-! ## The object -/

namespace BrowserChildResource

/-- `release`: the bridge is asked only while there is a handle. -/
def release (answer : Except Failure Unit) (c : BrowserChildResource) :
    Answer Unit × BrowserChildResource :=
  if c.handle = 0 then (.ok (.ok ()), { c with registered := false })
  else
    let c := { c with handle := 0, registered := false }
    match answer with
    | .ok () => (.ok (.ok ()), c)
    | .error (.outcome e) => (.ok (.failed e), c)
    | .error failure => (.error failure, c)

def finishState (state : ChildState) (answer : Except Failure Unit) (c : BrowserChildResource) :
    Answer Unit × BrowserChildResource :=
  release answer { c with state }

/-- `closeResource`, apart from the cancelling of the active call. -/
def closeResource (answer : Except Failure Unit) (c : BrowserChildResource) :
    Answer Unit × BrowserChildResource :=
  if c.state = .closed then (.ok (.ok ()), c) else release answer { c with state := .closed }

/-- Finish and go on with `result`, unless the release throws. -/
def finishThen {V : Type} (state : ChildState) (answer : Except Failure Unit) (result : Answer V)
    (c : BrowserChildResource) : Answer V × BrowserChildResource :=
  match c.finishState state answer with
  | (.error failure, c) => (.error failure, c)
  | (.ok _, c) => (result, c)

/-- `released.ok ? outcome : released`. -/
def finishWith {V : Type} (state : ChildState) (answer : Except Failure Unit) (value : V)
    (c : BrowserChildResource) : Answer V × BrowserChildResource :=
  match c.finishState state answer with
  | (.error failure, c) => (.error failure, c)
  | (.ok (.failed e), c) => (.ok (.failed e), c)
  | (.ok (.ok ()), c) => (.ok (.ok value), c)

/-- The test that `runTask` makes before and after its `await`. -/
def Unusable (operatorOpen : Bool) (c : BrowserChildResource) : Prop :=
  c.state ≠ .open ∨ c.handle = 0 ∨ operatorOpen = false

instance (operatorOpen : Bool) (c : BrowserChildResource) : Decidable (c.Unusable operatorOpen) :=
  inferInstanceAs (Decidable (_ ∨ _ ∨ _))

section Release

variable {V : Type} (state : ChildState) (answer : Except Failure Unit) (result : Answer V)
  (value : V) (c : BrowserChildResource)

/-- Whatever the bridge answers, the handle is gone. -/
theorem release_snd : (c.release answer).2 = { c with handle := 0, registered := false } := by
  unfold release
  by_cases hhandle : c.handle = 0
  · rw [if_pos hhandle]
    show { c with registered := false } = { c with handle := 0, registered := false }
    rw [← hhandle]
  · rw [if_neg hhandle]
    match answer with
    | .ok () => rfl
    | .error failure => cases failure <;> rfl

@[simp] theorem finishState_snd :
    (c.finishState state answer).2 = { c with state, handle := 0, registered := false } :=
  release_snd answer _

theorem closeResource_snd :
    (c.closeResource answer).2 =
      if c.state = .closed then c
      else { c with state := .closed, handle := 0, registered := false } := by
  unfold closeResource
  by_cases hclosed : c.state = .closed
  · rw [if_pos hclosed, if_pos hclosed]
  · rw [if_neg hclosed, if_neg hclosed, release_snd]

theorem finishThen_cases :
    (c.finishThen state answer result).2 = { c with state, handle := 0, registered := false } ∧
      ((c.finishThen state answer result).1 = result ∨
        ∃ failure, (c.finishThen state answer result).1 = .error failure) := by
  have hchild := finishState_snd state answer c
  unfold finishThen
  match h : c.finishState state answer with
  | (.error failure, c') =>
    rw [h] at hchild
    exact ⟨hchild, Or.inr ⟨failure, rfl⟩⟩
  | (.ok outcome, c') =>
    rw [h] at hchild
    exact ⟨hchild, Or.inl rfl⟩

theorem finishWith_cases :
    (c.finishWith state answer value).2 = { c with state, handle := 0, registered := false } ∧
      ((c.finishWith state answer value).1 = .ok (.ok value) ∨
        (∃ e, (c.finishWith state answer value).1 = .ok (.failed e)) ∨
        ∃ failure, (c.finishWith state answer value).1 = .error failure) := by
  have hchild := finishState_snd state answer c
  unfold finishWith
  match h : c.finishState state answer with
  | (.error failure, c') =>
    rw [h] at hchild
    exact ⟨hchild, Or.inr (Or.inr ⟨failure, rfl⟩)⟩
  | (.ok (.failed e), c') =>
    rw [h] at hchild
    exact ⟨hchild, Or.inr (Or.inl ⟨e, rfl⟩)⟩
  | (.ok (.ok ()), c') =>
    rw [h] at hchild
    exact ⟨hchild, Or.inl rfl⟩

theorem release_of_ok : (c.release (.ok ())).1 = .ok (.ok ()) := by
  unfold release
  by_cases hhandle : c.handle = 0
  · rw [if_pos hhandle]
  · rw [if_neg hhandle]

theorem finishThen_of_ok :
    c.finishThen state (.ok ()) result =
      (result, { c with state, handle := 0, registered := false }) := by
  have hfst : (c.finishState state (.ok ())).1 = .ok (.ok ()) := release_of_ok _
  have hsnd := finishState_snd state (.ok ()) c
  unfold finishThen
  rw [← Prod.mk.eta (p := c.finishState state (.ok ())), hfst, hsnd]

theorem finishWith_of_ok :
    c.finishWith state (.ok ()) value =
      (.ok (.ok value), { c with state, handle := 0, registered := false }) := by
  have hfst : (c.finishState state (.ok ())).1 = .ok (.ok ()) := release_of_ok _
  have hsnd := finishState_snd state (.ok ()) c
  unfold finishWith
  rw [← Prod.mk.eta (p := c.finishState state (.ok ())), hfst, hsnd]

end Release

end BrowserChildResource

/-! ## Classes of children -/

/-- What `next` makes of a value. -/
inductive Post where
  | keep | «end» | invalid
  deriving DecidableEq, Repr

/-- How the calls of a class of children differ. -/
structure ChildClass (V : Type) where
  Op : Type
  context : Op → Context
  /-- The value that a call returns at once in a state. -/
  shortcut : Op → ChildState → Option V
  successState : Op → Option ChildState
  /-- The call's own continuation after `runTask`, if it has one. -/
  post : Op → Option (V → Post)

/-- `next` of a stream or a lister. -/
structure Cursor (V : Type) where
  operation : String
  path : String
  post : V → Post
  done : V
  post_done : post done = .end

abbrev Cursor.childClass {V : Type} (cursor : Cursor V) : ChildClass V where
  Op := Unit
  context _ := { operation := cursor.operation, path := cursor.path, destinationPath := none }
  shortcut _ state := if state = .end then some cursor.done else none
  successState _ := none
  post _ := some cursor.post

def readStreamCursor (path : String) (chunkSize : Nat) : Cursor (Option (List UInt8)) where
  operation := "ReadStreamNext"
  path := path
  post value :=
    match value with
    | none => .end
    | some chunk => if chunk.length > chunkSize then .invalid else .keep
  done := none
  post_done := rfl

def listerCursor (path : String) : Cursor (Option EntryValue) where
  operation := "ListerNext"
  path := path
  post value :=
    match value with
    | none => .end
    | some _ => .keep
  done := none
  post_done := rfl

inductive WriterOp where
  | write | finish | abort
  deriving DecidableEq, Repr

/-- A write settles with nothing, a finish with metadata. -/
def writerClass (path : String) : ChildClass (Option (MetadataValue JsString)) where
  Op := WriterOp
  context op :=
    { operation :=
        match op with
        | .write => "WriterWrite"
        | .finish => "WriterFinish"
        | .abort => "WriterAbort"
      path := path
      destinationPath := none }
  shortcut op state := if op = .abort ∧ state = .aborted then some none else none
  successState op :=
    match op with
    | .write => none
    | .finish => some .finished
    | .abort => some .aborted
  post _ := none

/-! ## Calls -/

inductive Phase (V : Type) where
  /-- In `settleTask`, with this task of the bridge. -/
  | settling (task : UInt32)
  /-- Settled; `runTask` has not gone on yet. -/
  | settled (answer : Answer V)
  /-- `runTask` is over; `next` has not gone on yet. -/
  | returning (answer : Answer V)
  | returned (answer : Answer V)
  deriving DecidableEq, Repr

inductive Signal where
  | none | live | aborted | invalid
  deriving DecidableEq, Repr

section Calls

variable {V : Type} (cls : ChildClass V)

/-- Where a call is once `runTask` is over. -/
def ChildClass.returning (op : cls.Op) (answer : Answer V) : Phase V :=
  if (cls.post op).isSome then .returning answer else .returned answer

/-- `runTask` up to its `await`. -/
def ChildClass.runTask (operatorOpen : Bool) (op : cls.Op) (k : Nat) (signal : Signal)
    (start : Except Failure UInt32) (release : Except Failure Unit) (c : BrowserChildResource) :
    Phase V × BrowserChildResource :=
  let context := cls.context op
  if c.Unusable operatorOpen then (cls.returning op (.ok (.failed (closedError context))), c)
  else if c.active.isSome then (cls.returning op (.ok (.failed (busyError context))), c)
  else
    match signal with
    | .invalid => (cls.returning op (.ok (.failed (invalidSignal context))), c)
    | .aborted =>
      let (answer, c) := c.finishThen .failed release (.ok (.failed (cancelledError context)))
      (cls.returning op answer, c)
    | .none | .live =>
      match start with
      | .ok task => (.settling task, { c with active := some k })
      | .error (.outcome e) =>
        if e.kind = exactText "ResourceClosed" then
          let (answer, c) := c.finishThen .failed release (.ok (.failed e))
          (cls.returning op answer, c)
        else (cls.returning op (.ok (.failed e)), c)
      | .error failure => (cls.returning op (.error failure), c)

/-- `runTask` after its `await`, without its `finally`. -/
def ChildClass.settledTask (operatorOpen : Bool) (op : cls.Op) (settled : Answer V)
    (release : Except Failure Unit) (c : BrowserChildResource) : Answer V × BrowserChildResource :=
  match settled with
  | .ok (.failed e) =>
    if c.state = .open then c.finishThen .failed release (.ok (.failed e))
    else (.ok (.failed e), c)
  | .ok (.ok value) =>
    if c.Unusable operatorOpen then (.ok (.failed (closedError (cls.context op))), c)
    else
      match cls.successState op with
      | none => (.ok (.ok value), c)
      | some state => c.finishWith state release value
  | .error (.outcome e) => c.finishThen .failed release (.ok (.failed e))
  | .error failure =>
    if c.state = .open then c.finishThen .failed release (.error failure) else (.error failure, c)

def clearActive (k : Nat) (c : BrowserChildResource) : BrowserChildResource :=
  if c.active = some k then { c with active := none } else c

def ChildClass.resumeTask (operatorOpen : Bool) (op : cls.Op) (k : Nat) (settled : Answer V)
    (release : Except Failure Unit) (c : BrowserChildResource) : Answer V × BrowserChildResource :=
  let (answer, c) := cls.settledTask operatorOpen op settled release c
  (answer, clearActive k c)

/-- `next` after its `await`. -/
def resumeNext (post : V → Post) (returned : Answer V) (release : Except Failure Unit)
    (c : BrowserChildResource) : Answer V × BrowserChildResource :=
  match returned with
  | .ok (.ok value) =>
    match post value with
    | .keep => (.ok (.ok value), c)
    | .end => c.finishWith .end release value
    | .invalid =>
      c.finishThen .failed release
        (.error (.contract { message := "bridge returned an out-of-bounds read-stream chunk" }))
  | answer => (answer, c)

structure ChildCall where
  op : cls.Op
  phase : Phase V

structure ChildSystem where
  child : BrowserChildResource
  operatorOpen : Bool := true
  calls : Nat → Option (ChildCall cls) := fun _ => none

inductive ChildEvent where
  | call (k : Nat) (op : cls.Op) (signal : Signal) (start : Except Failure UInt32)
      (release : Except Failure Unit)
  | settle (k : Nat) (answer : Answer V)
  | resumeTask (k : Nat) (release : Except Failure Unit)
  | resumeNext (k : Nat) (release : Except Failure Unit)
  | close (release : Except Failure Unit)
  | operatorClose (release : Except Failure Unit)

variable {cls}

namespace ChildSystem

variable (s : ChildSystem cls)

def setCall (k : Nat) (op : cls.Op) (phase : Phase V) : ChildSystem cls :=
  { s with calls := Function.update s.calls k (some ⟨op, phase⟩) }

/-- `this.active?.cancel?.()`: only a call in `settleTask` has a `cancel`. -/
def cancelActive : ChildSystem cls :=
  match s.child.active with
  | none => s
  | some k =>
    match s.calls k with
    | some ⟨op, .settling _⟩ =>
      s.setCall k op (.settled (.ok (.failed (cancelledError (cls.context op)))))
    | _ => s

def close (release : Except Failure Unit) : Answer Unit × ChildSystem cls :=
  let s := if s.child.state = .closed then s else s.cancelActive
  let (answer, child) := s.child.closeResource release
  (answer, { s with child })

/-- The part of the operator's close that concerns this child. -/
def operatorClose (release : Except Failure Unit) : ChildSystem cls :=
  let s := { s with operatorOpen := false }
  if s.child.registered then (s.close release).2 else s

def step : ChildEvent cls → Option (ChildSystem cls)
  | .call k op signal start release =>
    match s.calls k with
    | some _ => none
    | none =>
      match cls.shortcut op s.child.state with
      | some value => some (s.setCall k op (.returned (.ok (.ok value))))
      | none =>
        let (phase, child) := cls.runTask s.operatorOpen op k signal start release s.child
        some ({ s with child }.setCall k op phase)
  | .settle k answer =>
    match s.calls k, answer with
    -- `settleTask` resolves with an `OutcomeFailure` and never rejects with one
    | _, .error (.outcome _) => none
    | some ⟨op, .settling _⟩, answer => some (s.setCall k op (.settled answer))
    | _, _ => none
  | .resumeTask k release =>
    match s.calls k with
    | some ⟨op, .settled settled⟩ =>
      let (answer, child) := cls.resumeTask s.operatorOpen op k settled release s.child
      some ({ s with child }.setCall k op (cls.returning op answer))
    | _ => none
  | .resumeNext k release =>
    match s.calls k with
    | some ⟨op, .returning returned⟩ =>
      match cls.post op with
      | none => none
      | some post =>
        let (answer, child) := Browser.resumeNext post returned release s.child
        some ({ s with child }.setCall k op (.returned answer))
    | _ => none
  | .close release => some (s.close release).2
  | .operatorClose release => some (s.operatorClose release)

end ChildSystem

attribute [local simp] ChildSystem.step

/-! ## What a call does first -/

section First

variable {operatorOpen : Bool} {op : cls.Op} {k : Nat} {signal : Signal}
  {start : Except Failure UInt32} {release : Except Failure Unit} {c : BrowserChildResource}

theorem runTask_unusable (h : c.Unusable operatorOpen) :
    cls.runTask operatorOpen op k signal start release c =
      (cls.returning op (.ok (.failed (closedError (cls.context op)))), c) := by
  unfold ChildClass.runTask
  rw [if_pos h]

theorem runTask_busy (h : ¬ c.Unusable operatorOpen) (hactive : c.active.isSome = true) :
    cls.runTask operatorOpen op k signal start release c =
      (cls.returning op (.ok (.failed (busyError (cls.context op)))), c) := by
  unfold ChildClass.runTask
  rw [if_neg h, if_pos hactive]

/-- A signal that lets the call start. -/
def Signal.Quiet (signal : Signal) : Prop := signal = .none ∨ signal = .live

theorem runTask_started (h : ¬ c.Unusable operatorOpen) (hactive : c.active = none)
    (hsignal : signal.Quiet) (task : UInt32) :
    cls.runTask operatorOpen op k signal (.ok task) release c =
      (.settling task, { c with active := some k }) := by
  unfold ChildClass.runTask
  rw [if_neg h, if_neg (by simp [hactive])]
  rcases hsignal with rfl | rfl <;> rfl

/-- A start that the bridge refuses with `ResourceClosed` fails the object. -/
theorem runTask_closed (h : ¬ c.Unusable operatorOpen) (hactive : c.active = none)
    (hsignal : signal.Quiet) {e : ErrorOutcome JsString} (he : e.kind = exactText "ResourceClosed") :
    cls.runTask operatorOpen op k signal (.error (.outcome e)) (.ok ()) c =
      (cls.returning op (.ok (.failed e)),
        { c with state := .failed, handle := 0, registered := false }) := by
  unfold ChildClass.runTask
  rw [if_neg h, if_neg (by simp [hactive])]
  rcases hsignal with rfl | rfl <;>
    simp only [if_pos he, BrowserChildResource.finishThen_of_ok]

variable {s : ChildSystem cls}

theorem step_call (hk : s.calls k = none) (hshortcut : cls.shortcut op s.child.state = none) :
    s.step (.call k op signal start release) = some
      ({ s with child := (cls.runTask s.operatorOpen op k signal start release s.child).2 }.setCall
        k op (cls.runTask s.operatorOpen op k signal start release s.child).1) := by
  simp only [ChildSystem.step, hk, hshortcut]

theorem step_call_shortcut {value : V} (hk : s.calls k = none)
    (hshortcut : cls.shortcut op s.child.state = some value) :
    s.step (.call k op signal start release) =
      some (s.setCall k op (.returned (.ok (.ok value)))) := by
  simp only [ChildSystem.step, hk, hshortcut]

theorem call_fresh {t : ChildSystem cls}
    (h : s.step (.call k op signal start release) = some t) : s.calls k = none := by
  cases hk : s.calls k with
  | none => rfl
  | some call =>
    simp only [ChildSystem.step, hk] at h
    cases h

end First

/-! ## What the other events do -/

section Later

variable {s t : ChildSystem cls} {k : Nat}

theorem settle_cases {answer : Answer V} (h : s.step (.settle k answer) = some t) :
    (∀ e, answer ≠ .error (.outcome e)) ∧ ∃ op task, s.calls k = some ⟨op, .settling task⟩ ∧
      t = s.setCall k op (.settled answer) := by
  simp only [ChildSystem.step] at h
  split at h
  · cases h
  · rename_i op task hcall hanswer
    cases h
    exact ⟨hanswer, op, task, hcall, rfl⟩
  · cases h

theorem resumeTask_cases {release : Except Failure Unit}
    (h : s.step (.resumeTask k release) = some t) :
    ∃ op settled, s.calls k = some ⟨op, .settled settled⟩ ∧
      t = { s with
        child := (cls.resumeTask s.operatorOpen op k settled release s.child).2 }.setCall k op
          (cls.returning op (cls.resumeTask s.operatorOpen op k settled release s.child).1) := by
  simp only [ChildSystem.step] at h
  split at h
  · rename_i op settled hcall
    cases h
    exact ⟨op, settled, hcall, rfl⟩
  · cases h

theorem resumeNext_cases {release : Except Failure Unit}
    (h : s.step (.resumeNext k release) = some t) :
    ∃ op returned post, s.calls k = some ⟨op, .returning returned⟩ ∧ cls.post op = some post ∧
      t = { s with child := (resumeNext post returned release s.child).2 }.setCall k op
        (.returned (resumeNext post returned release s.child).1) := by
  simp only [ChildSystem.step] at h
  split at h
  · rename_i op returned hcall
    split at h
    · cases h
    · rename_i post hpost
      cases h
      exact ⟨op, returned, post, hcall, hpost, rfl⟩
  · cases h

end Later

end Calls

/-! ## Cursors -/

section Cursors

variable {V : Type} (cursor : Cursor V)

@[simp] theorem Cursor.returning_eq (op : Unit) (answer : Answer V) :
    cursor.childClass.returning op answer = .returning answer := rfl

theorem Cursor.shortcut_of_ne {state : ChildState} (h : state ≠ .end) :
    cursor.childClass.shortcut () state = none := if_neg h

theorem Cursor.shortcut_end : cursor.childClass.shortcut () .end = some cursor.done := rfl

end Cursors

end OpendalMbt.Browser
