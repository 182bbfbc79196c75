import OpendalMbt.Native.AsyncCore
import OpendalMbt.Transition.Custody
import OpendalMbt.Transition.Run

/-!
# Operations on one async core

An `AsyncSystem` is one core with every operation ever started on it; the position of an
operation in the list is its abort handle. An operation is a start call, a worker, a
supervisor, a task cell, and the caller's cancel; each of them advances by its own
actions, so a list of events is an interleaving of any number of threads.

* A start call takes the resource, then spawns, then installs its abort handle and
  returns; a call that found nothing left to do returns from `spawn`.
* A worker runs its completion section once, or unwinds, or is dropped after an abort.
* The supervisor joins the worker, fails the core if the worker panicked, and publishes.
* `cancel` locks the task and aborts it, then fails the core; freeing a task is the same.

An abort is a request: it allows the worker to be dropped and forces nothing. The arguments
of a start call are validated before the core is touched and are not part of the model.

`step_cases` is the inversion of a step. From it the core refines `Custody`
(`refines_custody`): at most one operation has the resource, none while it is stored, and
a core that was failed or closed lends nothing again.
-/

namespace OpendalMbt.Native

open Transition

inductive Starter where
  | taken | spawned | returned
  deriving DecidableEq, Repr

/-- Where the resource of an operation is and how its future ended. -/
inductive Work (C V : Type) where
  | holding (cursor : C)
  /-- The future is gone with the resource: unwound, or dropped after an abort. -/
  | abandoned (aborted : Bool)
  | returned (outcome : AsyncOutcome V)
  /-- The completion section ran, and dropping the resource afterwards panicked. -/
  | unwound
  deriving DecidableEq, Repr

inductive Supervisor where
  | joining | failed | published
  deriving DecidableEq, Repr

inductive Canceller where
  | idle | poisoning | done
  deriving DecidableEq, Repr

structure AsyncOp {C V : Type} (cell : AsyncCell C V) where
  call : cell.Call
  /-- Whether the start call was given the resource. -/
  lent : Bool
  work : Work C V
  task : AsyncTaskInner V
  starter : Starter := .taken
  abortRequested : Bool := false
  supervisor : Supervisor := .joining
  canceller : Canceller := .idle

structure AsyncSystem {C V : Type} (cell : AsyncCell C V) where
  core : cell.State
  ops : List (AsyncOp cell) := []

inductive OpAction {C V : Type} (cell : AsyncCell C V) where
  | spawn
  | install
  | complete (result : cell.Result) (unwinds : Bool)
  | unwind
  | drop
  | superviseFail
  | publish
  | cancel
  | poison
  | claim (expected : AsyncResultKind)

/-- The actions that fail the core: the end of a cancel, and a supervisor whose worker
panicked. -/
def OpAction.Fails {C V : Type} {cell : AsyncCell C V} : OpAction cell → Prop
  | .poison | .superviseFail => True
  | _ => False

inductive AsyncEvent {C V : Type} (cell : AsyncCell C V) where
  | start (call : cell.Call) (signal : CompletionSignal)
  | op (i : AbortHandle) (action : OpAction cell)
  | close

variable {C V : Type} {cell : AsyncCell C V}

/-- A started operation; `resource` is what the start section returned. -/
def AsyncOp.started (call : cell.Call) (signal : CompletionSignal) (i : AbortHandle)
    (resource : Option C) : AsyncOp cell where
  call := call
  lent := resource.isSome
  work :=
    match resource with
    | some cursor => .holding cursor
    | none => .returned (cell.repeated call)
  task := { state := .running i, signal := some signal }

/-- What an action leaves: the core, the handle that it aborts, the operation. -/
abbrev ActResult (cell : AsyncCell C V) := Option (cell.State × Option AbortHandle × AsyncOp cell)

namespace AsyncOp

variable (i : AbortHandle) (core : cell.State) (op : AsyncOp cell)

def spawn : ActResult cell :=
  match op.starter with
  | .taken => some (core, none, { op with starter := if op.lent then .spawned else .returned })
  | _ => none

def install : ActResult cell :=
  match op.starter with
  | .spawned =>
    let (aborted, core) := cell.installAbort i core
    some (core, aborted, { op with starter := .returned })
  | _ => none

/-- The completion section and the end of the worker. The worker unwinds only when it drops
the resource, that is when the core did not store it. -/
def complete (result : cell.Result) (unwinds : Bool) : ActResult cell :=
  match op.starter, op.work with
  | .taken, _ => none
  | _, .holding cursor =>
    let core' := cell.complete op.call cursor result core
    match unwinds, cell.view core' with
    | true, .stored _ => none
    | true, _ => some (core', none, { op with work := .unwound })
    | false, _ => some (core', none, { op with work := .returned (cell.outcome op.call result) })
  | _, _ => none

def unwind : ActResult cell :=
  match op.starter, op.work with
  | .taken, _ => none
  | _, .holding _ => some (core, none, { op with work := .abandoned false })
  | _, _ => none

def drop : ActResult cell :=
  match op.starter, op.work, op.abortRequested with
  | .taken, _, _ => none
  | _, .holding _, true => some (core, none, { op with work := .abandoned true })
  | _, _, _ => none

def superviseFail : ActResult cell :=
  match op.supervisor, op.work with
  | .joining, .abandoned false | .joining, .unwound =>
    some ((cell.fail core).2, (cell.fail core).1, { op with supervisor := .failed })
  | _, _ => none

/-- The outcome that the supervisor publishes, once it may. -/
def joined : Option (AsyncOutcome V) :=
  match op.supervisor, op.work with
  | .joining, .returned outcome => some outcome
  | .joining, .abandoned true =>
    some (.failure (cell.kind op.call) (resourceClosed "async operation was cancelled"))
  | .failed, .abandoned false | .failed, .unwound => some (.panic (cell.kind op.call))
  | _, _ => none

def publish : ActResult cell :=
  match op.starter with
  | .taken => none
  | _ => op.joined.map fun outcome =>
    (core, none, { op with task := (op.task.publish outcome).2, supervisor := .published })

/-- The locked part of `cancel`, with the abort that follows it. -/
def cancel : ActResult cell :=
  match op.starter with
  | .returned =>
    let (cancellation, task) := op.task.cancel
    some (core, cancellation.abort,
      { op with task, canceller := if cancellation.poison then .poisoning else op.canceller })
  | _ => none

/-- The rest of `cancel`: the resource of an unclaimed task is failed. -/
def poison : ActResult cell :=
  match op.canceller with
  | .poisoning => some ((cell.fail core).2, (cell.fail core).1, { op with canceller := .done })
  | _ => none

def claim (expected : AsyncResultKind) : ActResult cell :=
  match op.starter with
  | .returned => some (core, none, { op with task := (op.task.take expected).2 })
  | _ => none

def act : OpAction cell → ActResult cell
  | .spawn => op.spawn core
  | .install => op.install i core
  | .complete result unwinds => op.complete core result unwinds
  | .unwind => op.unwind core
  | .drop => op.drop core
  | .superviseFail => op.superviseFail core
  | .publish => op.publish core
  | .cancel => op.cancel core
  | .poison => op.poison core
  | .claim expected => op.claim core expected

end AsyncOp

def requestAbort (aborted : Option AbortHandle) (ops : List (AsyncOp cell)) : List (AsyncOp cell) :=
  match aborted with
  | none => ops
  | some h => ops.modify h fun op => { op with abortRequested := true }

namespace AsyncSystem

def opened (cell : AsyncCell C V) (cursor : C) : AsyncSystem cell :=
  { core := cell.fresh cursor }

def step (s : AsyncSystem cell) : AsyncEvent cell → Option (AsyncSystem cell)
  | .start call signal =>
    match cell.take call s.core with
    | (.error _, core) => some { s with core }
    | (.ok resource, core) =>
      some { core, ops := s.ops ++ [.started call signal s.ops.length resource] }
  | .op i action => do
    let op ← s.ops[i]?
    let (core, aborted, op) ← op.act i s.core action
    some { core, ops := requestAbort aborted (s.ops.set i op) }
  | .close =>
    let (aborted, core) := cell.close s.core
    some { core, ops := requestAbort aborted s.ops }

end AsyncSystem

/-- A completion section never leaves the core busy. -/
theorem AsyncCell.complete_not_busy (call : cell.Call) (cursor : C) (result : cell.Result)
    (core : cell.State) (a : Option AbortHandle) :
    cell.view (cell.complete call cursor result core) ≠ .busy a := by
  intro hbusy
  by_cases hold : ∃ b, cell.view core = .busy b
  · obtain ⟨b, hb⟩ := hold
    rw [cell.complete_busy call cursor result hb] at hbusy
    cases hres : cell.completion call result <;> rw [hres] at hbusy <;> cases hbusy
  · rw [cell.complete_else call cursor result fun b hb => hold ⟨b, hb⟩] at hbusy
    exact hold ⟨a, hbusy⟩

/-! ## What one action can do -/

namespace AsyncOp

variable {i : AbortHandle} {core core' : cell.State} {op op' : AsyncOp cell}
  {aborted : Option AbortHandle}

/-- The operation took the resource and has not run its completion section. A resource that
was dropped with its future is never given to another operation, so it counts as taken. -/
def HasTurn (op : AsyncOp cell) : Prop :=
  match op.work with
  | .holding _ | .abandoned _ => True
  | .returned _ | .unwound => False

theorem spawn_eq_some (h : op.spawn core = some (core', aborted, op')) :
    op.starter = .taken ∧ core' = core ∧ aborted = none ∧
      op' = { op with starter := if op.lent then .spawned else .returned } := by
  unfold spawn at h
  split at h <;> cases h
  exact ⟨‹_›, rfl, rfl, rfl⟩

theorem install_eq_some (h : op.install i core = some (core', aborted, op')) :
    op.starter = .spawned ∧ core' = (cell.installAbort i core).2 ∧
      aborted = (cell.installAbort i core).1 ∧ op' = { op with starter := .returned } := by
  unfold install at h
  split at h <;> cases h
  exact ⟨‹_›, rfl, rfl, rfl⟩

theorem complete_eq_some {result : cell.Result} {unwinds : Bool}
    (h : op.complete core result unwinds = some (core', aborted, op')) :
    ∃ cursor, op.work = .holding cursor ∧ op.starter ≠ .taken ∧
      core' = cell.complete op.call cursor result core ∧ aborted = none ∧
      (op' = { op with work := .returned (cell.outcome op.call result) } ∨
        op' = { op with work := .unwound } ∧ ∀ c, cell.view core' ≠ .stored c) := by
  unfold complete at h
  split at h
  · cases h
  · rename_i cursor hwork hstart
    refine ⟨cursor, hwork, hstart, ?_⟩
    simp only at h
    split at h <;> cases h
    · rename_i hview
      exact ⟨rfl, rfl, .inr ⟨rfl, fun c hc => hview c hc⟩⟩
    · exact ⟨rfl, rfl, .inl rfl⟩
  · cases h

theorem unwind_eq_some (h : op.unwind core = some (core', aborted, op')) :
    ∃ cursor, op.work = .holding cursor ∧ op.starter ≠ .taken ∧ core' = core ∧ aborted = none ∧
      op' = { op with work := .abandoned false } := by
  unfold unwind at h
  split at h <;> cases h
  rename_i cursor hwork hstart
  exact ⟨cursor, hwork, hstart, rfl, rfl, rfl⟩

theorem drop_eq_some (h : op.drop core = some (core', aborted, op')) :
    ∃ cursor, op.work = .holding cursor ∧ op.starter ≠ .taken ∧ core' = core ∧ aborted = none ∧
      op' = { op with work := .abandoned true } := by
  unfold drop at h
  split at h <;> cases h
  rename_i cursor hwork habort hstart
  exact ⟨cursor, hwork, hstart, rfl, rfl, rfl⟩

theorem superviseFail_eq_some (h : op.superviseFail core = some (core', aborted, op')) :
    op.supervisor = .joining ∧ (op.work = .abandoned false ∨ op.work = .unwound) ∧
      core' = (cell.fail core).2 ∧ aborted = (cell.fail core).1 ∧
      op' = { op with supervisor := .failed } := by
  unfold superviseFail at h
  split at h <;> cases h
  · exact ⟨‹_›, .inl ‹_›, rfl, rfl, rfl⟩
  · exact ⟨‹_›, .inr ‹_›, rfl, rfl, rfl⟩

theorem publish_eq_some (h : op.publish core = some (core', aborted, op')) :
    ∃ outcome, op.joined = some outcome ∧ op.starter ≠ .taken ∧ core' = core ∧ aborted = none ∧
      op' = { op with task := (op.task.publish outcome).2, supervisor := .published } := by
  unfold publish at h
  split at h
  · cases h
  · rename_i hstart
    obtain ⟨outcome, hjoined, heq⟩ := Option.map_eq_some_iff.mp h
    cases heq
    exact ⟨outcome, hjoined, hstart, rfl, rfl, rfl⟩

theorem cancel_eq_some (h : op.cancel core = some (core', aborted, op')) :
    op.starter = .returned ∧ core' = core ∧ aborted = op.task.cancel.1.abort ∧
      op' = { op with
        task := op.task.cancel.2
        canceller := if op.task.cancel.1.poison then .poisoning else op.canceller } := by
  unfold cancel at h
  split at h <;> cases h
  exact ⟨‹_›, rfl, rfl, rfl⟩

theorem poison_eq_some (h : op.poison core = some (core', aborted, op')) :
    op.canceller = .poisoning ∧ core' = (cell.fail core).2 ∧ aborted = (cell.fail core).1 ∧
      op' = { op with canceller := .done } := by
  unfold poison at h
  split at h <;> cases h
  exact ⟨‹_›, rfl, rfl, rfl⟩

theorem claim_eq_some {expected : AsyncResultKind}
    (h : op.claim core expected = some (core', aborted, op')) :
    op.starter = .returned ∧ core' = core ∧ aborted = none ∧
      op' = { op with task := (op.task.take expected).2 } := by
  unfold claim at h
  split at h <;> cases h
  exact ⟨‹_›, rfl, rfl, rfl⟩

/-- What an action does to the core: a completion that ends a turn, a failure, the
installation of an abort handle, or nothing. Only a completion ends a turn. -/
theorem act_cases {a : OpAction cell} (h : op.act i core a = some (core', aborted, op')) :
    (∃ cursor result unwinds, a = .complete result unwinds ∧ op.work = .holding cursor ∧
      core' = cell.complete op.call cursor result core ∧ ¬ op'.HasTurn) ∨
    ((a ≠ .install ∧ ¬ a.Fails ∧ core' = core ∨ a.Fails ∧ core' = (cell.fail core).2 ∨
        a = .install ∧ core' = (cell.installAbort i core).2) ∧
      (op'.HasTurn ↔ op.HasTurn)) := by
  cases a with
  | complete result unwinds =>
    obtain ⟨cursor, hwork, -, hcore, -, hop⟩ := complete_eq_some h
    refine .inl ⟨cursor, result, unwinds, rfl, hwork, hcore, ?_⟩
    rcases hop with rfl | ⟨rfl, -⟩ <;> exact id
  | spawn =>
    obtain ⟨-, rfl, -, rfl⟩ := spawn_eq_some h
    exact .inr ⟨.inl ⟨nofun, id, rfl⟩, Iff.rfl⟩
  | install =>
    obtain ⟨-, rfl, -, rfl⟩ := install_eq_some h
    exact .inr ⟨.inr (.inr ⟨rfl, rfl⟩), Iff.rfl⟩
  | unwind =>
    obtain ⟨cursor, hwork, -, rfl, -, rfl⟩ := unwind_eq_some h
    exact .inr ⟨.inl ⟨nofun, id, rfl⟩, by simp [HasTurn, hwork]⟩
  | drop =>
    obtain ⟨cursor, hwork, -, rfl, -, rfl⟩ := drop_eq_some h
    exact .inr ⟨.inl ⟨nofun, id, rfl⟩, by simp [HasTurn, hwork]⟩
  | superviseFail =>
    obtain ⟨-, -, rfl, -, rfl⟩ := superviseFail_eq_some h
    exact .inr ⟨.inr (.inl ⟨trivial, rfl⟩), Iff.rfl⟩
  | publish =>
    obtain ⟨outcome, -, -, rfl, -, rfl⟩ := publish_eq_some h
    exact .inr ⟨.inl ⟨nofun, id, rfl⟩, Iff.rfl⟩
  | cancel =>
    obtain ⟨-, rfl, -, rfl⟩ := cancel_eq_some h
    exact .inr ⟨.inl ⟨nofun, id, rfl⟩, Iff.rfl⟩
  | poison =>
    obtain ⟨-, rfl, -, rfl⟩ := poison_eq_some h
    exact .inr ⟨.inr (.inl ⟨trivial, rfl⟩), Iff.rfl⟩
  | claim expected =>
    obtain ⟨-, rfl, -, rfl⟩ := claim_eq_some h
    exact .inr ⟨.inl ⟨nofun, id, rfl⟩, Iff.rfl⟩

theorem act_fails {a : OpAction cell} (h : op.act i core a = some (core', aborted, op'))
    (hfails : a.Fails) : cell.view core' = .dead := by
  rcases act_cases h with ⟨cursor, result, unwinds, rfl, -, -, -⟩ |
      ⟨⟨-, hne, -⟩ | ⟨-, rfl⟩ | ⟨rfl, -⟩, -⟩
  · exact hfails.elim
  · exact absurd hfails hne
  · exact cell.fail_dead core
  · exact hfails.elim

/-- What no action changes; the work changes only while the worker has the resource, and
then nothing else does. -/
theorem act_work {a : OpAction cell} (h : op.act i core a = some (core', aborted, op')) :
    op'.call = op.call ∧ op'.lent = op.lent ∧
      (op'.work = op.work ∨ (∃ cursor, op.work = .holding cursor) ∧ op'.task = op.task ∧
        op'.supervisor = op.supervisor ∧ op'.canceller = op.canceller) := by
  cases a with
  | spawn =>
    obtain ⟨-, -, -, rfl⟩ := spawn_eq_some h
    exact ⟨rfl, rfl, .inl rfl⟩
  | install =>
    obtain ⟨-, -, -, rfl⟩ := install_eq_some h
    exact ⟨rfl, rfl, .inl rfl⟩
  | complete result unwinds =>
    obtain ⟨cursor, hwork, -, -, -, rfl | ⟨rfl, -⟩⟩ := complete_eq_some h
    · exact ⟨rfl, rfl, .inr ⟨⟨cursor, hwork⟩, rfl, rfl, rfl⟩⟩
    · exact ⟨rfl, rfl, .inr ⟨⟨cursor, hwork⟩, rfl, rfl, rfl⟩⟩
  | unwind =>
    obtain ⟨cursor, hwork, -, -, -, rfl⟩ := unwind_eq_some h
    exact ⟨rfl, rfl, .inr ⟨⟨cursor, hwork⟩, rfl, rfl, rfl⟩⟩
  | drop =>
    obtain ⟨cursor, hwork, -, -, -, rfl⟩ := drop_eq_some h
    exact ⟨rfl, rfl, .inr ⟨⟨cursor, hwork⟩, rfl, rfl, rfl⟩⟩
  | superviseFail =>
    obtain ⟨-, -, -, -, rfl⟩ := superviseFail_eq_some h
    exact ⟨rfl, rfl, .inl rfl⟩
  | publish =>
    obtain ⟨outcome, -, -, -, -, rfl⟩ := publish_eq_some h
    exact ⟨rfl, rfl, .inl rfl⟩
  | cancel =>
    obtain ⟨-, -, -, rfl⟩ := cancel_eq_some h
    exact ⟨rfl, rfl, .inl rfl⟩
  | poison =>
    obtain ⟨-, -, -, rfl⟩ := poison_eq_some h
    exact ⟨rfl, rfl, .inl rfl⟩
  | claim expected =>
    obtain ⟨-, -, -, rfl⟩ := claim_eq_some h
    exact ⟨rfl, rfl, .inl rfl⟩

/-- The task cell changes in one of its three critical sections only. -/
theorem act_task {a : OpAction cell} (h : op.act i core a = some (core', aborted, op')) :
    (op'.task = op.task ∧ op'.supervisor = op.supervisor ∧ op'.canceller = op.canceller) ∨
    (op'.task = op.task ∧ a.Fails ∧
      (op'.supervisor = .failed ∧ (op.work = .abandoned false ∨ op.work = .unwound) ∧
          op'.canceller = op.canceller ∨
        op'.supervisor = op.supervisor ∧ op.canceller = .poisoning ∧ op'.canceller = .done)) ∨
    (∃ outcome, op.joined = some outcome ∧ op'.task = (op.task.publish outcome).2 ∧
      op'.supervisor = .published ∧ op'.canceller = op.canceller) ∨
    (a = .cancel ∧ op'.task = op.task.cancel.2 ∧ op'.supervisor = op.supervisor ∧
      op'.canceller = if op.task.cancel.1.poison then .poisoning else op.canceller) ∨
    (∃ expected, op'.task = (op.task.take expected).2 ∧ op'.supervisor = op.supervisor ∧
      op'.canceller = op.canceller) := by
  cases a with
  | spawn =>
    obtain ⟨-, -, -, rfl⟩ := spawn_eq_some h
    exact .inl ⟨rfl, rfl, rfl⟩
  | install =>
    obtain ⟨-, -, -, rfl⟩ := install_eq_some h
    exact .inl ⟨rfl, rfl, rfl⟩
  | complete result unwinds =>
    obtain ⟨cursor, -, -, -, -, rfl | ⟨rfl, -⟩⟩ := complete_eq_some h
    · exact .inl ⟨rfl, rfl, rfl⟩
    · exact .inl ⟨rfl, rfl, rfl⟩
  | unwind =>
    obtain ⟨cursor, -, -, -, -, rfl⟩ := unwind_eq_some h
    exact .inl ⟨rfl, rfl, rfl⟩
  | drop =>
    obtain ⟨cursor, -, -, -, -, rfl⟩ := drop_eq_some h
    exact .inl ⟨rfl, rfl, rfl⟩
  | superviseFail =>
    obtain ⟨-, hwork, -, -, rfl⟩ := superviseFail_eq_some h
    exact .inr (.inl ⟨rfl, trivial, .inl ⟨rfl, hwork, rfl⟩⟩)
  | publish =>
    obtain ⟨outcome, hjoined, -, -, -, rfl⟩ := publish_eq_some h
    exact .inr (.inr (.inl ⟨outcome, hjoined, rfl, rfl, rfl⟩))
  | cancel =>
    obtain ⟨-, -, -, rfl⟩ := cancel_eq_some h
    exact .inr (.inr (.inr (.inl ⟨rfl, rfl, rfl, rfl⟩)))
  | poison =>
    obtain ⟨hpoisoning, -, -, rfl⟩ := poison_eq_some h
    exact .inr (.inl ⟨rfl, trivial, .inr ⟨rfl, hpoisoning, rfl⟩⟩)
  | claim expected =>
    obtain ⟨-, -, -, rfl⟩ := claim_eq_some h
    exact .inr (.inr (.inr (.inr ⟨expected, rfl, rfl, rfl⟩)))

/-- The state of the task after an action: as before, published, cancelled or taken. -/
theorem act_task_state {a : OpAction cell} (h : op.act i core a = some (core', aborted, op')) :
    op'.task.state = op.task.state ∨
    (∃ abort outcome, op.task.state = .running abort ∧ op.joined = some outcome ∧
      op'.task.state = .completed outcome) ∨
    (a = .cancel ∧ op.task.state ≠ .taken ∧ op.task.state ≠ .cancelled ∧
      op'.task.state = .cancelled) ∨
    (∃ outcome, op.task.state = .completed outcome ∧ op'.task.state = .taken) := by
  rcases act_task h with ⟨htask, -⟩ | ⟨htask, -⟩ | ⟨outcome, hjoined, htask, -⟩ |
      ⟨ha, htask, -⟩ | ⟨expected, htask, -⟩ <;> rw [htask]
  · exact .inl rfl
  · exact .inl rfl
  · by_cases hrun : ∃ abort, op.task.state = .running abort
    · obtain ⟨abort, hrun⟩ := hrun
      exact .inr (.inl ⟨abort, outcome, hrun, hjoined, by rw [publish_running hrun]⟩)
    · exact .inl (by rw [publish_settled fun abort h => hrun ⟨abort, h⟩])
  · by_cases hclaimed : op.task.state = .taken ∨ op.task.state = .cancelled
    · exact .inl (by rw [cancel_claimed hclaimed])
    · obtain ⟨htaken, hcancelled⟩ := not_or.mp hclaimed
      exact .inr (.inr (.inl ⟨ha, htaken, hcancelled, by
        rw [(cancel_unclaimed htaken hcancelled).1]⟩))
  · cases hres : (op.task.take expected).1 with
    | ok o => exact .inr (.inr (.inr ⟨o, (take_eq_ok.mp hres).1, by rw [take_ok hres]⟩))
    | error f => exact .inl (by rw [take_error hres])

end AsyncOp

theorem getElem?_requestAbort (aborted : Option AbortHandle) (ops : List (AsyncOp cell)) (j : Nat) :
    ∃ b : AsyncOp cell → Bool, (requestAbort aborted ops)[j]? =
      ops[j]?.map fun op => { op with abortRequested := b op } := by
  cases aborted with
  | none => exact ⟨AsyncOp.abortRequested, by simp [requestAbort]⟩
  | some h =>
    by_cases hj : h = j
    · exact ⟨fun _ => true, by simp [requestAbort, hj]⟩
    · exact ⟨AsyncOp.abortRequested, by simp [requestAbort, hj]⟩

namespace AsyncSystem

variable {s t : AsyncSystem cell} {e : AsyncEvent cell}

/-- The five kinds of step: a refused start, a start with nothing left to do, a start that
borrows the resource, an action of one operation, and closing the core. -/
theorem step_cases (hstep : s.step e = some t) :
    (t = s ∧ ∃ call signal f, e = .start call signal ∧ (cell.take call s.core).1 = .error f) ∨
    (∃ call signal, e = .start call signal ∧ (cell.take call s.core).1 = .ok none ∧
      cell.view s.core = .settled ∧
      t = { s with ops := s.ops ++ [.started call signal s.ops.length none] }) ∨
    (∃ call signal cursor core, e = .start call signal ∧ cell.view s.core = .stored cursor ∧
      cell.view core = .busy none ∧
      t = { core, ops := s.ops ++ [.started call signal s.ops.length (some cursor)] }) ∨
    (∃ i a op core aborted op', e = .op i a ∧ s.ops[i]? = some op ∧
      op.act i s.core a = some (core, aborted, op') ∧
      t = { core, ops := requestAbort aborted (s.ops.set i op') }) ∨
    (e = .close ∧
      t = { core := (cell.close s.core).2, ops := requestAbort (cell.close s.core).1 s.ops }) := by
  cases e with
  | start call signal =>
    simp only [step] at hstep
    by_cases hstored : ∃ c, cell.view s.core = .stored c
    · obtain ⟨c, hc⟩ := hstored
      obtain ⟨hres, hview⟩ := cell.take_stored call hc
      rcases htake : cell.take call s.core with ⟨result, core⟩
      rw [htake] at hres hview
      subst hres
      simp only [htake, Option.some.injEq] at hstep
      subst hstep
      exact .inr (.inr (.inl ⟨call, signal, c, core, rfl, hc, hview, rfl⟩))
    · obtain ⟨hcore, hres⟩ := cell.take_else call fun c hc => hstored ⟨c, hc⟩
      have hnone := fun h => cell.take_none call (s := s.core) h
      rcases htake : cell.take call s.core with ⟨_ | resource, core⟩ <;>
        simp only [htake, Option.some.injEq] at hstep hcore hres hnone <;> subst hstep hcore
      · exact .inl ⟨rfl, call, signal, _, rfl, by rw [htake]⟩
      · cases resource with
        | none => exact .inr (.inl ⟨call, signal, rfl, by rw [htake], hnone rfl, rfl⟩)
        | some c => exact absurd rfl (hres c)
  | op i a =>
    simp only [step, Option.bind_eq_bind, Option.bind_eq_some_iff] at hstep
    obtain ⟨op, hop, ⟨core, aborted, op'⟩, hact, heq⟩ := hstep
    cases heq
    exact .inr (.inr (.inr (.inl ⟨i, a, op, core, aborted, op', rfl, hop, hact, rfl⟩)))
  | close =>
    simp only [step, Option.some.injEq] at hstep
    exact .inr (.inr (.inr (.inr ⟨rfl, hstep.symm⟩)))

@[simp] theorem length_requestAbort (aborted : Option AbortHandle) (ops : List (AsyncOp cell)) :
    (requestAbort aborted ops).length = ops.length := by
  cases aborted with
  | none => rfl
  | some h => exact List.length_modify _ _ _

/-- An action that its operation allows is a step of the system. -/
theorem step_act {i : AbortHandle} {a : OpAction cell} {op op' : AsyncOp cell} {core : cell.State}
    {aborted : Option AbortHandle} (hop : s.ops[i]? = some op)
    (hact : op.act i s.core a = some (core, aborted, op')) :
    ∃ t b, s.step (.op i a) = some t ∧ t.core = core ∧
      t.ops[i]? = some { op' with abortRequested := b } := by
  have hlt := (List.getElem?_eq_some_iff.mp hop).1
  obtain ⟨b, hget⟩ := getElem?_requestAbort aborted (s.ops.set i op') i
  rw [List.getElem?_set_self hlt, Option.map_some] at hget
  refine ⟨{ core, ops := requestAbort aborted (s.ops.set i op') }, b op', ?_, rfl, hget⟩
  simp only [step, hop, hact, Option.bind_eq_bind, Option.bind_some]

/-- Where an operation of the state after a step comes from. -/
theorem ops_cases (hstep : s.step e = some t) {j : AbortHandle} {op' : AsyncOp cell}
    (hop' : t.ops[j]? = some op') :
    (∃ op b, s.ops[j]? = some op ∧ op' = { op with abortRequested := b }) ∨
    (∃ a op aborted acted b, e = .op j a ∧ s.ops[j]? = some op ∧
      op.act j s.core a = some (t.core, aborted, acted) ∧
      op' = { acted with abortRequested := b }) ∨
    (∃ call signal resource, e = .start call signal ∧ j = s.ops.length ∧
      (cell.take call s.core).1 = .ok resource ∧ op' = .started call signal j resource) := by
  have happ : ∀ {call : cell.Call} {signal : CompletionSignal} {resource : Option C},
      (cell.take call s.core).1 = .ok resource → e = .start call signal →
      (s.ops ++ [AsyncOp.started call signal s.ops.length resource])[j]? = some op' →
      (∃ op b, s.ops[j]? = some op ∧ op' = { op with abortRequested := b }) ∨
      (∃ call signal resource, e = .start call signal ∧ j = s.ops.length ∧
        (cell.take call s.core).1 = .ok resource ∧ op' = .started call signal j resource) := by
    intro call signal resource hres he hget
    rcases Nat.lt_or_ge j s.ops.length with hlt | hge
    · rw [List.getElem?_append_left hlt] at hget
      exact .inl ⟨op', _, hget, rfl⟩
    · rw [List.getElem?_append_right hge, List.getElem?_singleton] at hget
      split at hget <;> cases hget
      have hj : j = s.ops.length := Nat.le_antisymm (Nat.sub_eq_zero_iff_le.mp ‹_›) hge
      exact .inr ⟨call, signal, resource, he, hj, hres, by rw [hj]⟩
  rcases step_cases hstep with ⟨rfl, -⟩ | ⟨call, signal, he, hres, -, rfl⟩ |
      ⟨call, signal, cursor, core, he, hview, -, rfl⟩ |
      ⟨i, a, op, core, aborted, acted, he, hop, hact, rfl⟩ | ⟨-, rfl⟩
  · exact .inl ⟨op', _, hop', rfl⟩
  · exact (happ hres he hop').imp_right .inr
  · exact (happ (cell.take_stored call hview).1 he hop').imp_right .inr
  · obtain ⟨b, hget⟩ := getElem?_requestAbort aborted (s.ops.set i acted) j
    rw [hget, List.getElem?_set] at hop'
    split at hop'
    · rename_i hij
      subst hij
      split at hop' <;> cases hop'
      exact .inr (.inl ⟨a, op, aborted, acted, _, he, hop, hact, rfl⟩)
    · obtain ⟨op, hop, rfl⟩ := Option.map_eq_some_iff.mp hop'
      exact .inl ⟨op, _, hop, rfl⟩
  · obtain ⟨b, hget⟩ := getElem?_requestAbort (cell.close s.core).1 s.ops j
    rw [hget] at hop'
    obtain ⟨op, hop, rfl⟩ := Option.map_eq_some_iff.mp hop'
    exact .inl ⟨op, _, hop, rfl⟩

theorem take_refused (call : cell.Call) {core : cell.State}
    (hview : (∃ a, cell.view core = .busy a) ∨ cell.view core = .dead) :
    ∃ f, (cell.take call core).1 = .error f := by
  have hstored : ∀ c, cell.view core ≠ .stored c := by
    intro c hc
    rw [hc] at hview
    rcases hview with ⟨a, h⟩ | h <;> cases h
  obtain ⟨-, hres⟩ := cell.take_else call hstored
  cases htake : (cell.take call core).1 with
  | error f => exact ⟨f, rfl⟩
  | ok resource =>
    cases resource with
    | some c => exact absurd htake (hres c)
    | none =>
      have hsettled := cell.take_none call htake
      rw [hsettled] at hview
      rcases hview with ⟨a, h⟩ | h <;> cases h

/-- A refused start changes nothing. -/
theorem step_start_refused {call : cell.Call} {f : CallFailure}
    (hres : (cell.take call s.core).1 = .error f) (signal : CompletionSignal) :
    s.step (.start call signal) = some s := by
  have hstored : ∀ c, cell.view s.core ≠ .stored c := by
    intro c hc
    rw [(cell.take_stored call hc).1] at hres
    cases hres
  obtain ⟨hcore, -⟩ := cell.take_else call hstored
  rcases htake : cell.take call s.core with ⟨result, core⟩
  rw [htake] at hres hcore
  subst hres hcore
  simp [step, htake]

end AsyncSystem

end OpendalMbt.Native
