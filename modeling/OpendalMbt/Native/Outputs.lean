import OpendalMbt.Native.BytesView
import OpendalMbt.Native.Monitor
import OpendalMbt.Native.WholeRead
import OpendalMbt.Transition.OutParam

/-!
# The outputs of the native entries

How every entry of `native/rust/src/lib.rs` treats its outputs: it clears them, works, and
publishes a value or a failure, and a panic on the way ends in `STATUS_PANIC`. The work of a
closure is a `Work`, which has no access to the outputs; it counts the inputs that it looks at and
the calls of OpenDAL that it makes. An entry without `out_error` gives a null pointer to
`finish_failure`, so its frame has a null error slot. The writes of a success have nothing between
them.

* `swept_clearOutputs`: every slot is tried, whatever the others are;
* `triple_closure`, `triple_finishFailure`, `triple_publish`: the steps of an entry;
* `closure_cases`: how the closure of an entry ends;
* `atomic_run`: an entry whose body keeps to them leaves its outputs as its status says.
-/

namespace OpendalMbt.Native.Entry

open Transition

/-- A panic on its way to the `catch_unwind` of the entry. -/
structure Panicked

/-! ## Work -/

structure Effects where
  inputs : Nat := 0
  upstream : Nat := 0
  deriving DecidableEq, Repr

abbrev Work (α : Type) : Type := Call Effects Halt α

namespace Work

variable {α : Type}

def check (result : CallResult α) : Work α := Call.lift (result.mapError Halt.failure)

/-- An input is looked at. -/
def input (result : CallResult α) : Work α := do
  Call.modify fun effects => { effects with inputs := effects.inputs + 1 }
  check result

def answer : StepResult α → Except Halt α
  | .ok value => .ok value
  | .error failure => .error (.failure failure)
  | .panic => .error .panic

/-- OpenDAL, or the runtime, is called. -/
def upstream (result : StepResult α) : Work α := do
  Call.modify fun effects => { effects with upstream := effects.upstream + 1 }
  Call.lift (answer result)

/-- A call that is contained nowhere, such as `expect`. -/
def step (result : StepResult α) : Work α := Call.lift (answer result)

section Bind

variable {β : Type} {x : CallResult α} {f : α → Work β} {g : α → CallResult β} {effects : Effects}

theorem check_bind (h : ∀ a, (f a effects).1 = (g a).mapError Halt.failure) :
    ((check x >>= f) effects).1 = (x >>= g).mapError Halt.failure := by
  cases x with
  | error failure => rfl
  | ok a => exact h a

theorem input_bind
    (h : ∀ a, (f a { effects with inputs := effects.inputs + 1 }).1 =
      (g a).mapError Halt.failure) :
    ((input x >>= f) effects).1 = (x >>= g).mapError Halt.failure := by
  cases x with
  | error failure => rfl
  | ok a => exact h a

end Bind

end Work

def borrowRequired {T : Type} : Pointer T → CallResult T
  | .null | .misaligned => .error .abiMismatch
  | .valid target => .ok target

def readRequired {T : Type} : Pointer T → CallResult T
  | .null | .misaligned => .error .abiMismatch
  | .valid target => .ok target

/-- What the destructor of an object of OpenDAL does. -/
inductive Destructor where
  | quiet
  | panics
  deriving DecidableEq, Repr

section Steps

variable {R ι α : Type} {V : ι → Type}

abbrev Step (R : Type) (V : ι → Type) (α : Type) : Type := Call (Frame R V ErrorV1) Panicked α

/-! ## Clearing -/

def clearRequiredOutput [DecidableEq ι] (i : ι) : Step R V (CallResult Unit) := fun f =>
  match f.slots i with
  | .invalid _ => (.ok (.error .abiMismatch), f)
  | .storage _ => (.ok (.ok ()), f.clear i)

def clearErrorOutput : Step R V (CallResult Unit) := fun f =>
  match f.error with
  | .invalid .null => (.ok (.ok ()), f)
  | .invalid .misaligned => (.ok (.error .abiMismatch), f)
  | .storage _ => (.ok (.ok ()), f.clearError)

def combineOutputValidation : List (CallResult Unit) → CallResult Unit
  | [] => .ok ()
  | .ok () :: results => combineOutputValidation results
  | .error failure :: _ => .error failure

/-- The array of the clear attempts, all made before one is looked at. -/
def clearOutputs [DecidableEq ι] : List ι → Step R V (List (CallResult Unit))
  | [] => do
    let result ← clearErrorOutput
    pure [result]
  | i :: order => do
    let result ← clearRequiredOutput i
    let results ← clearOutputs order
    pure (result :: results)

/-! ## Work and results -/

/-- The error is boxed and written unless it is unwanted. -/
def finishFailure : CallFailure → Step R V Status
  | .abiMismatch => pure .abiMismatch
  | .error error => fun f => (.ok .error, f.writeError error)

def publish [DecidableEq ι] (order : List ι) (v : ∀ i, V i) (status : Status) : Step R V Status :=
  fun f => (.ok status, f.writeAll v order)

/-- The result of a closure that has no output, and the end of its locals. -/
def closure (locals : Destructor) (work : Work α) : Step R V (CallResult α) := fun f =>
  let (result, effects) := work {}
  let f := (Frame.inspect)^[effects.inputs] f
  match result, locals with
  | .ok value, .quiet => (.ok (.ok value), f)
  | .error (.failure failure), .quiet => (.ok (.error failure), f)
  | .error .panic, _ | _, .panics => (.error {}, f)

/-- Return early with a failure. -/
def orFinish (x : Step R V (CallResult α)) (next : α → Step R V Status) : Step R V Status := do
  match ← x with
  | .ok value => next value
  | .error failure => finishFailure failure

/-- An object goes out of scope. -/
def drop : Destructor → Step R V Unit
  | .quiet => pure ()
  | .panics => Call.throw {}

/-- The `drop_*_contained` helpers. -/
def dropContained (destructor : Destructor) : Step R V Unit := fun f =>
  (.ok (), (drop destructor f).2)

def panic : Step R V α := Call.throw {}

/-- The entry around its `catch_unwind`. -/
def catchStatus (x : Step R V Status) (f : Frame R V ErrorV1) : Status × Frame R V ErrorV1 :=
  match x f with
  | (.ok status, f) => (status, f)
  | (.error _, f) => (.panic, f)

theorem catchStatus_bind {x : Step R V α} {f t : Frame R V ErrorV1} {a : α} (h : x f = (.ok a, t))
    (next : α → Step R V Status) : catchStatus (x >>= next) f = catchStatus (next a) t := by
  unfold catchStatus
  rw [Call.bind_apply_ok h]

end Steps

/-! ## Entries -/

/-- An entry with its arguments, the outputs among them. -/
structure Invocation where
  Reason : Type
  Output : Type
  Value : Output → Type
  decEq : DecidableEq Output
  order : List Output
  nodup : order.Nodup
  complete : ∀ i, i ∈ order
  given : Frame Reason Value ErrorV1
  fresh : given.history = []
  body : Step Reason Value Status

attribute [instance] Invocation.decEq

namespace Invocation

variable {R V : Type}

def run (call : Invocation) : Status × Frame call.Reason call.Value ErrorV1 :=
  catchStatus (do
    let outputs ← clearOutputs call.order
    match combineOutputValidation outputs with
    | .error failure => finishFailure failure
    | .ok () => call.body) call.given

/-- An entry with one output. -/
def single (output : Slot R V) (outError : Slot Misplaced ErrorV1)
    (body : Step R (fun _ : Unit => V) Status) : Invocation where
  Reason := R
  Output := Unit
  Value := fun _ => V
  decEq := inferInstance
  order := [()]
  nodup := by decide
  complete := fun _ => List.mem_singleton.mpr rfl
  given := { slots := fun _ => output, error := outError, history := [] }
  fresh := rfl
  body := body

/-- An entry with no output but the error. -/
def onlyError (outError : Slot Misplaced ErrorV1)
    (body : Step Misplaced (fun _ : Empty => Unit) Status) : Invocation where
  Reason := Misplaced
  Output := Empty
  Value := fun _ => Unit
  decEq := inferInstance
  order := []
  nodup := List.nodup_nil
  complete := nofun
  given := { slots := nofun, error := outError, history := [] }
  fresh := rfl
  body := body

end Invocation

inductive OperatorOutput where
  | operator | info
  deriving DecidableEq, Repr

namespace OperatorOutput

def Value (O I : Type) : OperatorOutput → Type
  | operator => O
  | info => I

def all : List OperatorOutput := [operator, info]

theorem nodup_all : all.Nodup := by decide

theorem mem_all (output : OperatorOutput) : output ∈ all := by
  cases output with
  | operator => decide
  | info => decide

end OperatorOutput

/-- The entries that return an operator and its information. -/
def Invocation.operatorPair {O I : Type} (outOperator : Slot Misplaced O)
    (outInfo : Slot Misplaced I) (outError : Slot Misplaced ErrorV1)
    (body : Step Misplaced (OperatorOutput.Value O I) Status) : Invocation where
  Reason := Misplaced
  Output := OperatorOutput
  Value := OperatorOutput.Value O I
  decEq := inferInstance
  order := OperatorOutput.all
  nodup := OperatorOutput.nodup_all
  complete := OperatorOutput.mem_all
  given := {
    slots := fun
      | .operator => outOperator
      | .info => outInfo
    error := outError
    history := [] }
  fresh := rfl
  body := body

/-! ## What a status says about the outputs -/

section Rules

variable {R ι α : Type} {V : ι → Type} {given : Frame R V ErrorV1}

/-- The outputs after a status. -/
def Atomic (given : Frame R V ErrorV1) : Status → Frame R V ErrorV1 → Prop
  | .ok | .bufferTooSmall => Frame.Filled given
  | .error => Frame.Failed given
  | .end | .abiMismatch | .panic => Frame.Swept given

def Invocation.Atomic (call : Invocation) : Prop :=
  Entry.Atomic call.given call.run.1 call.run.2

/-- A step that starts with cleared outputs and keeps them until it returns a status. -/
def Disciplined (given : Frame R V ErrorV1) (x : Step R V Status) : Prop :=
  Call.Triple (Frame.Swept given) x (Atomic given) fun _ => Frame.Swept given

/-- A step that leaves the cleared outputs alone. -/
def Leaves (given : Frame R V ErrorV1) (x : Step R V α) : Prop :=
  Call.Triple (Frame.Swept given) x (fun _ => Frame.Swept given) fun _ => Frame.Swept given

theorem swept_inspected {f : Frame R V ErrorV1} (h : Frame.Swept given f) (n : Nat) :
    Frame.Swept given ((Frame.inspect)^[n] f) := by
  induction n generalizing f with
  | zero => exact h
  | succ n ih => exact ih h.inspect

theorem leaves_closure (locals : Destructor) (work : Work α) :
    Leaves given (closure locals work : Step R V (CallResult α)) := by
  intro f hf
  have hswept := swept_inspected hf (work {}).2.inputs
  unfold closure
  cases hwork : work {} with
  | mk result effects =>
    rw [hwork] at hswept
    cases result with
    | ok value => cases locals <;> exact hswept
    | error halt => cases halt <;> cases locals <;> exact hswept

theorem disciplined_finishFailure (hvalid : given.Valid) (failure : CallFailure) :
    Disciplined given (finishFailure failure) := by
  intro f hf
  cases failure with
  | abiMismatch => exact hf
  | error error => exact Frame.failed_writeError hf hvalid error

theorem disciplined_publish [DecidableEq ι] (hvalid : given.Valid) {order : List ι}
    (hnodup : order.Nodup) (hcomplete : ∀ i, i ∈ order) (v : ∀ i, V i) {status : Status}
    (hstatus : status = .ok ∨ status = .bufferTooSmall) :
    Disciplined given (publish order v status) := by
  intro f hf
  have hfilled := Frame.filled_writeAll hf hvalid v hnodup hcomplete
  rcases hstatus with rfl | rfl
  · exact hfilled
  · exact hfilled

/-- An entry that ends with nothing published. -/
theorem disciplined_pure {status : Status}
    (hstatus : status = .end ∨ status = .abiMismatch ∨ status = .panic) :
    Disciplined given (pure status) := by
  intro f hf
  rcases hstatus with rfl | rfl | rfl
  · exact hf
  · exact hf
  · exact hf

/-- Without required outputs a success publishes nothing. -/
theorem disciplined_ok {given : Frame R (fun _ : Empty => Unit) ErrorV1} :
    Disciplined given (pure .ok) := by
  intro f hf
  exact { hf.toOrderly with
    filled := nofun
    emptyError := hf.emptyError }

theorem leaves_drop (destructor : Destructor) :
    Leaves given (drop destructor : Step R V Unit) := by
  intro f hf
  cases destructor with
  | quiet => exact hf
  | panics => exact hf

theorem leaves_dropContained (destructor : Destructor) :
    Leaves given (dropContained destructor : Step R V Unit) := by
  intro f hf
  cases destructor with
  | quiet => exact hf
  | panics => exact hf

theorem disciplined_panic : Disciplined given panic := fun _ hf => hf

theorem Leaves.bind {x : Step R V α} {next : α → Step R V Status} (hx : Leaves given x)
    (hnext : ∀ a, Disciplined given (next a)) : Disciplined given (x >>= next) :=
  Call.Triple.bind hx hnext

theorem Leaves.orFinish (hvalid : given.Valid) {x : Step R V (CallResult α)}
    {next : α → Step R V Status} (hx : Leaves given x)
    (hnext : ∀ a, Disciplined given (next a)) : Disciplined given (orFinish x next) := by
  apply Leaves.bind hx
  intro result
  cases result with
  | ok value => exact hnext value
  | error failure => exact disciplined_finishFailure hvalid failure

/-- An input that is looked at outside a closure. -/
theorem disciplined_input (hvalid : given.Valid) (x : CallResult α) {next : α → Step R V Status}
    (hnext : ∀ a, x = .ok a → Disciplined given (next a)) :
    Disciplined given (orFinish (closure .quiet (Work.input x)) next) := by
  intro f hf
  cases x with
  | ok a => exact hnext a rfl f.inspect hf.inspect
  | error failure => exact disciplined_finishFailure hvalid failure f.inspect hf.inspect

end Rules

/-! ## Sweeping -/

section Sweep

variable {R ι : Type} {V : ι → Type} {given : Frame R V ErrorV1}

/-- The pointers of `order`, and of the error, are as the entries want them. -/
def ValidOutputs (given : Frame R V ErrorV1) (order : List ι) : Prop :=
  (∀ i ∈ order, (given.slots i).Formed) ∧ given.error.fault ≠ some .misaligned

/-- What the results say about the pointers. -/
def Judged (given : Frame R V ErrorV1) (order : List ι) (results : List (CallResult Unit)) : Prop :=
  match combineOutputValidation results with
  | .ok () => ValidOutputs given order
  | .error failure => failure = .abiMismatch ∧ ¬ ValidOutputs given order

theorem validOutputs_cons {i : ι} {order : List ι} (hi : (given.slots i).Formed) :
    ValidOutputs given (i :: order) ↔ ValidOutputs given order := by
  constructor
  · intro h
    exact ⟨fun j hj => h.1 j (List.mem_cons_of_mem _ hj), h.2⟩
  · intro h
    refine ⟨fun j hj => ?_, h.2⟩
    rcases List.mem_cons.mp hj with rfl | hj
    · exact hi
    · exact h.1 j hj

theorem swept_clearOutputs [DecidableEq ι] {order done : List ι} {f : Frame R V ErrorV1}
    (h : Frame.Sweeping given f done) (hall : ∀ i, i ∈ order ∨ i ∈ done) :
    ∃ results swept, clearOutputs order f = (.ok results, swept) ∧ Frame.Swept given swept ∧
      Judged given order results := by
  induction order generalizing f done with
  | nil =>
    have hdone : ∀ i, i ∈ done := fun i => (hall i).resolve_left List.not_mem_nil
    have herror := h.error
    cases hslot : f.error with
    | storage content =>
      have hclear : clearErrorOutput f = (.ok (.ok ()), f.clearError) := by
        rw [clearErrorOutput, hslot]
      refine ⟨[.ok ()], f.clearError, Call.bind_apply_ok hclear,
        h.swept_clearError hdone (by rw [hslot]; rfl), ?_, ?_⟩
      · intro j hj
        cases hj
      rw [← herror, hslot]
      intro hinvalid
      cases hinvalid
    | invalid reason =>
      have hinvalid : ¬ f.error.Formed := by
        rw [hslot]
        intro hformed
        cases hformed
      have hswept := h.swept_of_invalid hdone hinvalid
      cases reason with
      | null =>
        have hclear : clearErrorOutput f = (.ok (.ok ()), f) := by
          rw [clearErrorOutput, hslot]
        refine ⟨[.ok ()], f, Call.bind_apply_ok hclear, hswept, ?_, ?_⟩
        · intro j hj
          cases hj
        rw [← herror, hslot]
        intro hinvalid
        cases hinvalid
      | misaligned =>
        have hclear : clearErrorOutput f = (.ok (.error .abiMismatch), f) := by
          rw [clearErrorOutput, hslot]
        refine ⟨[.error .abiMismatch], f, Call.bind_apply_ok hclear, hswept, rfl, ?_⟩
        intro hvalid
        apply hvalid.2
        rw [← herror, hslot]
        rfl
  | cons i order ih =>
    have hrest : ∀ j, j ∈ order ∨ j ∈ i :: done := by
      intro j
      rcases hall j with hj | hj
      · rcases List.mem_cons.mp hj with rfl | hj
        · exact .inr List.mem_cons_self
        · exact .inl hj
      · exact .inr (List.mem_cons_of_mem _ hj)
    cases hslot : f.slots i with
    | storage content =>
      have hformed : (f.slots i).Formed := by
        rw [hslot]
        rfl
      have hclear : clearRequiredOutput i f = (.ok (.ok ()), f.clear i) := by
        rw [clearRequiredOutput, hslot]
      obtain ⟨results, swept, hrun, hswept, hjudged⟩ := ih (h.clear hformed) hrest
      refine ⟨.ok () :: results, swept, ?_, hswept, ?_⟩
      · show (clearRequiredOutput i >>= _) f = _
        rw [Call.bind_apply_ok hclear, Call.bind_apply_ok hrun]
        rfl
      · have hgiven : (given.slots i).Formed := by
          rw [Slot.Formed, ← h.kept]
          exact hformed
        unfold Judged at hjudged ⊢
        rw [validOutputs_cons hgiven]
        exact hjudged
    | invalid reason =>
      have hinvalid : ¬ (f.slots i).Formed := by
        rw [hslot]
        intro hformed
        cases hformed
      have hclear : clearRequiredOutput i f = (.ok (.error .abiMismatch), f) := by
        rw [clearRequiredOutput, hslot]
      obtain ⟨results, swept, hrun, hswept, -⟩ := ih (h.skip hinvalid) hrest
      refine ⟨.error .abiMismatch :: results, swept, ?_, hswept, rfl, ?_⟩
      · show (clearRequiredOutput i >>= _) f = _
        rw [Call.bind_apply_ok hclear, Call.bind_apply_ok hrun]
        rfl
      · intro hvalid
        apply hinvalid
        rw [Slot.Formed, h.kept]
        exact hvalid.1 i List.mem_cons_self

end Sweep

/-! ## What slots hold -/

/-- The value that a slot holds. -/
def held {R V : Type} : Slot R V → Option V
  | .storage (.value v) => some v
  | _ => none

theorem held_of_empty {R V : Type} {slot : Slot R V} (h : slot.Empty) : held slot = none := by
  cases slot with
  | invalid reason => rfl
  | storage content =>
    have hempty := h rfl
    cases hempty
    rfl

/-- How the closure of an entry ends. -/
theorem closure_cases {R ι α : Type} {V : ι → Type} (locals : Destructor) (work : Work α)
    (f : Frame R V ErrorV1) :
    ∃ n, (∃ value effects, work {} = (.ok value, effects) ∧
        closure locals work f = (.ok (.ok value), Frame.inspect^[n] f)) ∨
      (∃ failure, closure locals work f = (.ok (.error failure), Frame.inspect^[n] f)) ∨
      closure locals work f = (.error {}, Frame.inspect^[n] f) := by
  unfold closure
  cases hwork : work {} with
  | mk result effects =>
    refine ⟨effects.inputs, ?_⟩
    cases result with
    | ok value =>
      cases locals with
      | quiet => exact .inl ⟨value, effects, rfl, rfl⟩
      | panics => exact .inr (.inr rfl)
    | error halt =>
      cases halt with
      | panic => exact .inr (.inr rfl)
      | failure failure =>
        cases locals with
        | quiet => exact .inr (.inl ⟨failure, rfl⟩)
        | panics => exact .inr (.inr rfl)

namespace Invocation

/-- The outputs are valid, and the body runs from a swept frame; or nothing else happens. -/
theorem run_cases (call : Invocation) :
    (∃ swept, Frame.Swept call.given swept ∧ call.given.Valid ∧
        call.run = catchStatus call.body swept) ∨
      ∃ swept, Frame.Swept call.given swept ∧ ¬ call.given.Valid ∧
        call.run = (.abiMismatch, swept) := by
  obtain ⟨results, swept, hrun, hswept, hjudged⟩ := swept_clearOutputs
    (Frame.sweeping_given call.fresh) fun i => .inl (call.complete i)
  have hvalid : ValidOutputs call.given call.order ↔ call.given.Valid :=
    and_congr_left' ⟨fun h i => h i (call.complete i), fun h i _ => h i⟩
  have hcall : call.run = catchStatus (match combineOutputValidation results with
      | .error failure => finishFailure failure
      | .ok () => call.body) swept := catchStatus_bind hrun _
  unfold Judged at hjudged
  rw [hvalid] at hjudged
  cases hcombined : combineOutputValidation results with
  | ok value =>
    rw [hcombined] at hjudged hcall
    exact .inl ⟨swept, hswept, hjudged, hcall⟩
  | error failure =>
    rw [hcombined] at hjudged hcall
    obtain ⟨rfl, hinvalid⟩ := hjudged
    exact .inr ⟨swept, hswept, hinvalid, hcall⟩

theorem atomic_run (call : Invocation)
    (h : call.given.Valid → Disciplined call.given call.body) : call.Atomic := by
  unfold Invocation.Atomic
  rcases call.run_cases with ⟨swept, hswept, hvalid, hrun⟩ | ⟨swept, hswept, -, hrun⟩
  · rw [hrun]
    have hbody := h hvalid swept hswept
    unfold catchStatus
    cases hresult : call.body swept with
    | mk result f =>
      rw [hresult] at hbody
      cases result with
      | ok status => exact hbody
      | error panicked => exact hbody
  · rw [hrun]
    exact hswept

end Invocation

end OpendalMbt.Native.Entry
