import OpendalMbt.Browser.SettleTask

/-!
# One call of `settleTask`

`settleTask` of `wasm/browser-runtime/index.mjs` with its variables `ownedTask`, `timer` and
`settled`, and with what it leaves outside of itself: the listener on the signal, the
`cancel` of the control object, the armed timeouts and the queued microtasks. Polls, aborts and
cancels may come in any order, and what the bridge answers is up to the parameter `tb`.

* `Pending` and `Settled` are the two states a call can be in between events.
* `Round` says once how a round of `poll` ends, and `poll_cases` what is left of it.
* `Pending.settled_step_iff`: the events that settle a call; `Settled.run`: nothing happens
  afterwards.
* `settlement`: every run of every call.
-/

namespace OpendalMbt.Browser

open Codec Bridge Transition

/-- What a call throws: an `OutcomeFailure`, or anything else. -/
inductive Thrown (E : Type) where
  | outcome (error : ErrorOutcome JsString)
  | other (error : E)
  deriving DecidableEq, Repr

/-- The functions of the bridge and of the facade that a call uses, over the state `B` of the
bridge. -/
structure TaskBridge (B E V : Type) where
  taskState : UInt32 → B → Int × B
  taskTake : UInt32 → B → UInt32 × B
  taskCancel : UInt32 → B → B
  taskRelease : UInt32 → B → B
  clearLastError : B → B
  takeLastError : String → Call B (Thrown E) (ErrorOutcome JsString)
  settleCompletion : UInt32 → Call B (Thrown E) (Outcome V)
  contractFailure : String → E

/-- A task handle that passed `expectHandle`. -/
structure TaskHandle where
  code : UInt32
  code_ne_zero : code ≠ 0

inductive SettleSignal (E : Type) where
  | undefined
  | abortSignal (aborted : Bool)
  /-- Not an `AbortSignal`; its `removeEventListener` may throw, as a missing one does. -/
  | invalid (removed : Except (Thrown E) Unit)

/-- The signal is one to listen on, if there is one. -/
def SettleSignal.Valid {E : Type} : SettleSignal E → Prop
  | .undefined | .abortSignal _ => True
  | .invalid _ => False

def SettleSignal.listens {E : Type} : SettleSignal E → Bool
  | .abortSignal _ => true
  | .undefined | .invalid _ => false

/-- What `control.cancel` holds. -/
inductive CancelHook where
  | undefined
  | foreign
  | onAbort
  deriving DecidableEq, Repr

inductive TaskCall where
  | state | take | cancel | release
  deriving DecidableEq, Repr

structure Settlement (B E V : Type) where
  bridge : B
  ownedTask : UInt32
  timer : Option Nat := none
  settled : Bool := false
  /-- The timeouts that are armed, and the id of the next one. -/
  timers : List Nat := []
  nextTimer : Nat := 0
  /-- How often `poll` is queued as a microtask. -/
  microtasks : Nat := 0
  /-- `onAbort` listens on the signal. -/
  listener : Bool := false
  /-- `control?.cancel`. -/
  control : Option CancelHook := none
  /-- The calls of `resolve` and `reject`. -/
  promise : List (Except (Thrown E) (Outcome V)) := []
  /-- The bridge calls on the task, in order. -/
  calls : List (TaskCall × UInt32) := []
  taken : List UInt32 := []
  /-- The completions that `settleCompletion` was called with. -/
  handed : List UInt32 := []

namespace Settlement

variable {B E V : Type}

abbrev SettlementCall (B E V : Type) := Call (Settlement B E V) (Thrown E) Unit

/-! ## The closures of a call -/

section Closures

variable (tb : TaskBridge B E V) (signal : SettleSignal E) (context : Context)

def clearTimer (s : Settlement B E V) : Settlement B E V :=
  { s with timers := s.timer.elim s.timers fun id => s.timers.erase id }

def clearCancel (s : Settlement B E V) : Settlement B E V :=
  { s with control := if s.control = some .onAbort then some .undefined else s.control }

/-- `signal?.removeEventListener("abort", onAbort)`. -/
def removeListener : SettlementCall B E V := fun s =>
  match signal with
  | .undefined => (.ok (), s)
  | .abortSignal _ => (.ok (), { s with listener := false })
  | .invalid removed => (removed, s)

def cleanup : SettlementCall B E V := fun s =>
  match removeListener signal s.clearTimer with
  | (.error e, s) => (.error e, s)
  | (.ok (), s) => (.ok (), s.clearCancel)

/-- `finish` with an outcome, `failContract` with an error. -/
def settle (answer : Except (Thrown E) (Outcome V)) : SettlementCall B E V := fun s =>
  if s.settled then (.ok (), s)
  else
    match cleanup signal { s with settled := true } with
    | (.error e, s) => (.error e, s)
    | (.ok (), s) => (.ok (), { s with promise := s.promise ++ [answer] })

def finish (outcome : Outcome V) : SettlementCall B E V := settle signal (.ok outcome)

def failContract (error : Thrown E) : SettlementCall B E V := settle signal (.error error)

def releaseTask (s : Settlement B E V) : Settlement B E V :=
  if s.ownedTask = 0 then s
  else
    { s with
      bridge := tb.taskRelease s.ownedTask s.bridge
      calls := s.calls ++ [(.release, s.ownedTask)]
      ownedTask := 0 }

def cancelTask (s : Settlement B E V) : Settlement B E V :=
  { s with
    bridge := tb.taskCancel s.ownedTask s.bridge
    calls := s.calls ++ [(.cancel, s.ownedTask)] }

def onAbort : SettlementCall B E V := fun s =>
  if s.settled then (.ok (), s)
  else
    let s := if s.ownedTask = 0 then s else releaseTask tb (cancelTask tb s)
    finish signal (.failed (cancelledError context)) s

def clearLastError (s : Settlement B E V) : Settlement B E V :=
  { s with bridge := tb.clearLastError s.bridge }

def taskState (s : Settlement B E V) : Int × Settlement B E V :=
  ((tb.taskState s.ownedTask s.bridge).1,
    { s with
      bridge := (tb.taskState s.ownedTask s.bridge).2
      calls := s.calls ++ [(.state, s.ownedTask)] })

def taskTake (s : Settlement B E V) : UInt32 × Settlement B E V :=
  let code := (tb.taskTake s.ownedTask s.bridge).1
  (code,
    { s with
      bridge := (tb.taskTake s.ownedTask s.bridge).2
      calls := s.calls ++ [(.take, s.ownedTask)]
      taken := if code = 0 then s.taken else s.taken ++ [code] })

def takeLastError (fallbackMessage : String) (s : Settlement B E V) :
    Except (Thrown E) (ErrorOutcome JsString) × Settlement B E V :=
  ((tb.takeLastError fallbackMessage s.bridge).1,
    { s with bridge := (tb.takeLastError fallbackMessage s.bridge).2 })

def settleCompletion (completion : UInt32) (s : Settlement B E V) :
    Except (Thrown E) (Outcome V) × Settlement B E V :=
  ((tb.settleCompletion completion s.bridge).1,
    { s with
      bridge := (tb.settleCompletion completion s.bridge).2
      handed := s.handed ++ [completion] })

/-- `timer = setTimeout(poll, 0)`. -/
def setTimeout (s : Settlement B E V) : Settlement B E V :=
  { s with
    timer := some s.nextTimer
    timers := s.timers ++ [s.nextTimer]
    nextTimer := s.nextTimer + 1 }

def contract {α : Type} (message : String) : Except (Thrown E) α :=
  .error (.other (tb.contractFailure message))

/-- A task that is ready. -/
def takeReady : SettlementCall B E V := fun s =>
  let (code, s) := taskTake tb (clearLastError tb s)
  if code = 0 then
    match takeLastError tb "could not take a ready OpenDAL task" s with
    | (.error e, s) => (.error e, s)
    | (.ok error, s) => (.error (.outcome error), s)
  else
    match settleCompletion tb code (releaseTask tb s) with
    | (.error e, s) => (.error e, s)
    | (.ok outcome, s) => finish signal outcome s

/-- The `try` block of `poll`. -/
def pollBody : SettlementCall B E V := fun s =>
  let (state, s) := taskState tb (clearLastError tb s)
  if state = taskPending then (.ok (), s.setTimeout)
  else if state = taskCancelled then
    finish signal (.failed (cancelledError context)) (releaseTask tb s)
  else if state = 0 then
    match takeLastError tb "could not poll an OpenDAL task" s with
    | (.error e, s) => (.error e, s)
    | (.ok error, s) => finish signal (.failed error) (releaseTask tb s)
  else if state = taskConsumed then
    (contract tb "bridge exposed a consumed task to its Promise owner", releaseTask tb s)
  else if state ≠ taskReady then
    (contract tb s!"bridge returned unknown task state {state}", releaseTask tb s)
  else takeReady tb signal s

/-- The `catch` block of `poll`. -/
def pollCatch (error : Thrown E) : SettlementCall B E V := fun s =>
  match error with
  | .outcome error => finish signal (.failed error) (releaseTask tb s)
  | .other error => failContract signal (.other error) (releaseTask tb s)

def poll : SettlementCall B E V := fun s =>
  if s.settled then (.ok (), s)
  else
    match pollBody tb signal context s with
    | (.ok (), s) => (.ok (), s)
    | (.error error, s) => pollCatch tb signal error s

/-! ## The Promise -/

/-- The executor of the Promise. -/
def executor : SettlementCall B E V := fun s =>
  match signal with
  | .invalid _ => finish signal (.failed (invalidSignal context)) (releaseTask tb s)
  | .undefined =>
    (.ok (), { s with control := s.control.map fun _ => .onAbort, microtasks := s.microtasks + 1 })
  | .abortSignal aborted =>
    let s := { s with control := s.control.map fun _ => .onAbort }
    if aborted then onAbort tb signal context s
    else (.ok (), { s with listener := true, microtasks := s.microtasks + 1 })

/-- The variables before the executor runs. `control` tells whether there is a control object,
and whether another `cancel` is on it. -/
def start (task : TaskHandle) (control : Option Bool) (b : B) : Settlement B E V :=
  { bridge := b, ownedTask := task.code
    control := control.map fun held => if held then .foreign else .undefined }

/-- `new Promise`: what the executor throws rejects it. -/
def settleTask (task : TaskHandle) (control : Option Bool) (b : B) : Settlement B E V :=
  match executor tb signal context (start task control b) with
  | (.ok (), s) => s
  | (.error e, s) => { s with promise := s.promise ++ [.error e] }

inductive Event where
  | microtask
  | timeout (id : Nat)
  /-- The abort event of the signal. -/
  | abort
  /-- `control.cancel?.()`. -/
  | cancel
  /-- `onAbort` from a reference that was kept. -/
  | late
  deriving DecidableEq, Repr

/-- An event that cannot come in a state leaves it as it is. -/
def step (s : Settlement B E V) : Event → Settlement B E V
  | .microtask =>
    if s.microtasks = 0 then s
    else (poll tb signal context { s with microtasks := s.microtasks - 1 }).2
  | .timeout id =>
    if id ∈ s.timers then (poll tb signal context { s with timers := s.timers.erase id }).2 else s
  | .abort =>
    -- `{ once: true }`
    if s.listener then (onAbort tb signal context { s with listener := false }).2 else s
  | .cancel => if s.control = some .onAbort then (onAbort tb signal context s).2 else s
  | .late => (onAbort tb signal context s).2

def runEvents (s : Settlement B E V) (events : List Event) : Settlement B E V :=
  events.foldl (step tb signal context) s

end Closures

/-! ## The states of a call -/

section States

/-- The timer is the only timeout that can be armed. -/
def Armed (s : Settlement B E V) : Prop :=
  s.timers = [] ∨ ∃ id, s.timer = some id ∧ s.timers = [id]

/-- The task was released, once and last. -/
def ReleasedLast (task : TaskHandle) (calls : List (TaskCall × UInt32)) : Prop :=
  ∃ front, calls = front ++ [(.release, task.code)] ∧
    ∀ c ∈ front, c.1 ≠ .release ∧ c.2 = task.code

/-- What is taken is handed on, and it is at most one completion. -/
def Custody (s : Settlement B E V) : Prop := s.handed = s.taken ∧ s.taken.length ≤ 1

/-- The task is still held. -/
structure Holding (signal : SettleSignal E) (task : TaskHandle) (s : Settlement B E V) : Prop where
  settled : s.settled = false
  owned : s.ownedTask = task.code
  promise : s.promise = []
  calls : ∀ c ∈ s.calls, c.1 ≠ .release ∧ c.2 = task.code
  armed : Armed s
  listener : signal.listens = false → s.listener = false

/-- Nothing was taken from it. -/
structure Held (signal : SettleSignal E) (task : TaskHandle) (s : Settlement B E V) : Prop
    extends Holding signal task s where
  taken : s.taken = []
  handed : s.handed = []

/-- The task is released and the Promise not settled yet. -/
structure Released (signal : SettleSignal E) (task : TaskHandle) (s : Settlement B E V) : Prop where
  settled : s.settled = false
  owned : s.ownedTask = 0
  promise : s.promise = []
  calls : ReleasedLast task s.calls
  armed : Armed s
  listener : signal.listens = false → s.listener = false

structure Settled (task : TaskHandle) (s : Settlement B E V) : Prop where
  settled : s.settled = true
  owned : s.ownedTask = 0
  promise : ∃ answer, s.promise = [answer]
  calls : ReleasedLast task s.calls
  custody : Custody s
  timers : s.timers = []
  listener : s.listener = false
  control : s.control ≠ some .onAbort

end States

section Proofs

variable (tb : TaskBridge B E V) {signal : SettleSignal E} (context : Context)
  {task : TaskHandle} {s t : Settlement B E V}

/-- The call waits: one poll is due. -/
structure Pending (signal : SettleSignal E) (control : Option Bool) (task : TaskHandle)
    (s : Settlement B E V) : Prop extends Held signal task s where
  valid : signal.Valid
  due : s.microtasks = 1 ∧ s.timers = [] ∨ s.microtasks = 0 ∧ ∃ id, s.timers = [id]
  listening : s.listener = signal.listens
  control : s.control = control.map fun _ => .onAbort

theorem Held.custody (h : Held signal task s) : Custody s := by
  unfold Custody
  rw [h.taken, h.handed]
  exact ⟨rfl, Nat.zero_le 1⟩

/-! ## Releasing and settling -/

theorem Holding.releaseTask (h : Holding signal task s) :
    Released signal task (releaseTask tb s) := by
  have howned : s.ownedTask ≠ 0 := by
    rw [h.owned]
    exact task.code_ne_zero
  unfold Settlement.releaseTask
  rw [if_neg howned]
  exact ⟨h.settled, rfl, h.promise, ⟨s.calls, by rw [h.owned], h.calls⟩, h.armed,
    h.listener⟩

theorem Released.releaseTask (h : Released signal task s) : Settlement.releaseTask tb s = s := by
  unfold Settlement.releaseTask
  rw [if_pos h.owned]

theorem custody_releaseTask (h : Custody s) : Custody (releaseTask tb s) := by
  unfold Settlement.releaseTask
  split
  · exact h
  · exact h

theorem Armed.clearTimer (h : Armed s) : s.clearTimer.timers = [] := by
  show s.timer.elim s.timers _ = []
  rcases h with h | ⟨id, htimer, htimers⟩
  · rw [h]
    cases s.timer <;> rfl
  · rw [htimer, htimers]
    exact List.erase_cons_head id []

theorem clearCancel_control (s : Settlement B E V) :
    s.clearCancel.control ≠ some .onAbort := by
  show (if s.control = some .onAbort then some .undefined else s.control) ≠ some .onAbort
  split
  · simp
  · assumption

/-- What settling leaves, up to the control object. -/
theorem settle_eq (hvalid : signal.Valid) (hsettled : s.settled = false)
    (answer : Except (Thrown E) (Outcome V)) :
    ∃ t, settle signal answer s = (.ok (), t) ∧ t.settled = true ∧
      t.ownedTask = s.ownedTask ∧ t.promise = s.promise ++ [answer] ∧ t.calls = s.calls ∧
      t.taken = s.taken ∧ t.handed = s.handed ∧ t.timers = s.clearTimer.timers ∧
      t.listener = (if signal.listens then false else s.listener) ∧
      t.control ≠ some .onAbort ∧ t.bridge = s.bridge := by
  have hcontrol := clearCancel_control s
  unfold settle cleanup removeListener
  rw [if_neg (by simp [hsettled])]
  cases signal with
  | undefined => exact ⟨_, rfl, rfl, rfl, rfl, rfl, rfl, rfl, rfl, rfl, hcontrol, rfl⟩
  | abortSignal aborted => exact ⟨_, rfl, rfl, rfl, rfl, rfl, rfl, rfl, rfl, rfl, hcontrol, rfl⟩
  | invalid removed => exact hvalid.elim

theorem Released.settle (h : Released signal task s) (hvalid : signal.Valid) (hcustody : Custody s)
    (answer : Except (Thrown E) (Outcome V)) :
    ∃ t, Settlement.settle signal answer s = (.ok (), t) ∧ Settled task t ∧
      t.promise = [answer] ∧ t.bridge = s.bridge := by
  obtain ⟨t, heq, hsettled, howned, hpromise, hcalls, htaken, hhanded, htimers, hlistener,
    hcontrol, hbridge⟩ := settle_eq hvalid h.settled answer
  have hpromise' : t.promise = [answer] := by rw [hpromise, h.promise, List.nil_append]
  refine ⟨t, heq, ⟨hsettled, by rw [howned, h.owned], ⟨answer, hpromise'⟩, ?_, ?_, ?_, ?_,
    hcontrol⟩, hpromise', hbridge⟩
  · rw [hcalls]
    exact h.calls
  · unfold Custody
    rw [hhanded, htaken]
    exact hcustody
  · rw [htimers]
    exact h.armed.clearTimer
  · rw [hlistener]
    split
    · rfl
    · rename_i hlistens
      exact h.listener (by simpa using hlistens)

/-! ## One round -/

theorem Holding.call (h : Holding signal task s) (call : TaskCall) (hcall : call ≠ .release) :
    ∀ c ∈ s.calls ++ [(call, s.ownedTask)], c.1 ≠ .release ∧ c.2 = task.code := by
  intro c hc
  rcases List.mem_append.mp hc with hc | hc
  · exact h.calls c hc
  · rw [List.mem_singleton.mp hc]
    exact ⟨hcall, h.owned⟩

theorem Held.bridge (h : Held signal task s) (bridge : B) : Held signal task { s with bridge } :=
  ⟨⟨h.settled, h.owned, h.promise, h.calls, h.armed, h.listener⟩, h.taken, h.handed⟩

theorem Held.taskState (h : Held signal task s) :
    Held signal task (Settlement.taskState tb s).2 :=
  ⟨⟨h.settled, h.owned, h.promise, h.call .state (by simp), h.armed, h.listener⟩, h.taken,
    h.handed⟩

theorem Holding.taskTake (h : Holding signal task s) :
    Holding signal task (Settlement.taskTake tb s).2 :=
  ⟨h.settled, h.owned, h.promise, h.call .take (by simp), h.armed, h.listener⟩

theorem Holding.cancelTask (h : Holding signal task s) :
    Holding signal task (Settlement.cancelTask tb s) :=
  ⟨h.settled, h.owned, h.promise, h.call .cancel (by simp), h.armed, h.listener⟩

/-- What a poll is told about the task. -/
def polled (tb : TaskBridge B E V) (s : Settlement B E V) : Int :=
  (tb.taskState s.ownedTask (tb.clearLastError s.bridge)).1

/-- How a round that begins in `s` ends: it waits again, it has settled, or it throws with the
task still in hand or just released. -/
inductive Round (tb : TaskBridge B E V) (signal : SettleSignal E) (task : TaskHandle)
    (s : Settlement B E V) : Except (Thrown E) Unit × Settlement B E V → Prop where
  | waits (u : Settlement B E V) (h : Held signal task u) (hstate : polled tb s = taskPending)
      (hrest : u.timers = s.timers ∧ u.microtasks = s.microtasks ∧ u.control = s.control ∧
        u.listener = s.listener) : Round tb signal task s (.ok (), u.setTimeout)
  | settled (u : Settlement B E V) (h : Settled task u) : Round tb signal task s (.ok (), u)
  | held (e : Thrown E) (u : Settlement B E V) (h : Held signal task u) :
      Round tb signal task s (.error e, u)
  | released (e : Thrown E) (u : Settlement B E V) (h : Released signal task u)
      (hcustody : Custody u) : Round tb signal task s (.error e, u)

theorem Released.settleCompletion (h : Released signal task s) (completion : UInt32) :
    Released signal task (Settlement.settleCompletion tb completion s).2 :=
  ⟨h.settled, h.owned, h.promise, h.calls, h.armed, h.listener⟩

/-- An error that is thrown, however it is come by. -/
theorem takeLastError_held (h : Held signal task s) (fallbackMessage : String) :
    Held signal task (Settlement.takeLastError tb fallbackMessage s).2 := h.bridge _

theorem Released.finish_round (h : Released signal task s) (hvalid : signal.Valid)
    (hcustody : Custody s) (outcome : Outcome V) :
    Round tb signal task t (finish signal outcome s) := by
  obtain ⟨u, hfinish, hsettled, -⟩ := h.settle hvalid hcustody (.ok outcome)
  unfold finish
  rw [hfinish]
  exact .settled u hsettled

theorem takeReady_round (h : Held signal task s) (hvalid : signal.Valid) :
    Round tb signal task t (takeReady tb signal s) := by
  have hcleared : Held signal task (Settlement.clearLastError tb s) := h.bridge _
  have htake := hcleared.toHolding.taskTake tb
  have htaken : (Settlement.taskTake tb (Settlement.clearLastError tb s)).2.taken =
      if (Settlement.taskTake tb (Settlement.clearLastError tb s)).1 = 0 then s.taken
      else s.taken ++ [(Settlement.taskTake tb (Settlement.clearLastError tb s)).1] := rfl
  have hhanded : (Settlement.taskTake tb (Settlement.clearLastError tb s)).2.handed = s.handed :=
    rfl
  unfold takeReady
  generalize Settlement.taskTake tb (Settlement.clearLastError tb s) = answer at *
  obtain ⟨code, u⟩ := answer
  rw [h.taken] at htaken
  rw [h.handed] at hhanded
  dsimp only at *
  by_cases hcode : code = 0
  · -- nothing was taken
    rw [if_pos hcode] at htaken ⊢
    have hthrown := takeLastError_held tb (⟨htake, htaken, hhanded⟩ : Held signal task u)
      "could not take a ready OpenDAL task"
    split <;> rename_i hlast <;> rw [hlast] at hthrown
    · exact .held _ _ hthrown
    · exact .held _ _ hthrown
  · rw [if_neg hcode] at htaken ⊢
    have hreleased := htake.releaseTask tb
    have hrest : (Settlement.releaseTask tb u).taken = [code] ∧
        (Settlement.releaseTask tb u).handed = [] := by
      unfold Settlement.releaseTask
      split
      · exact ⟨htaken, hhanded⟩
      · exact ⟨htaken, hhanded⟩
    have hsettling := hreleased.settleCompletion tb code
    have hcustody : Custody
        (Settlement.settleCompletion tb code (Settlement.releaseTask tb u)).2 := by
      show _ ++ [code] = (Settlement.releaseTask tb u).taken ∧
        (Settlement.releaseTask tb u).taken.length ≤ 1
      rw [hrest.1, hrest.2]
      exact ⟨rfl, Nat.le_refl 1⟩
    split <;> rename_i hresult <;> rw [hresult] at hsettling hcustody
    · exact .released _ _ hsettling hcustody
    · exact hsettling.finish_round tb hvalid hcustody _

theorem pollBody_round (h : Held signal task s) (hvalid : signal.Valid) :
    Round tb signal task s (pollBody tb signal context s) := by
  have hcleared : Held signal task (Settlement.clearLastError tb s) := h.bridge _
  have hstate := hcleared.taskState tb
  have hreleased := hstate.toHolding.releaseTask tb
  have hcustody := custody_releaseTask tb hstate.custody
  have hrest : (Settlement.taskState tb (Settlement.clearLastError tb s)).2.timers = s.timers ∧
      (Settlement.taskState tb (Settlement.clearLastError tb s)).2.microtasks = s.microtasks ∧
      (Settlement.taskState tb (Settlement.clearLastError tb s)).2.control = s.control ∧
      (Settlement.taskState tb (Settlement.clearLastError tb s)).2.listener = s.listener :=
    ⟨rfl, rfl, rfl, rfl⟩
  have hpolled : (Settlement.taskState tb (Settlement.clearLastError tb s)).1 = polled tb s := rfl
  unfold pollBody
  generalize Settlement.taskState tb (Settlement.clearLastError tb s) = answer at *
  obtain ⟨state, u⟩ := answer
  dsimp only at *
  split
  · rename_i hpending
    exact .waits u hstate (hpolled.symm.trans hpending) hrest
  split
  · exact hreleased.finish_round tb hvalid hcustody _
  split
  · -- the error is taken while the task is still held
    have hthrown := takeLastError_held tb hstate "could not poll an OpenDAL task"
    split <;> rename_i hlast <;> rw [hlast] at hthrown
    · exact .held _ _ hthrown
    · exact (hthrown.toHolding.releaseTask tb).finish_round tb hvalid
        (custody_releaseTask tb hthrown.custody) _
  split
  · exact .released _ _ hreleased hcustody
  split
  · exact .released _ _ hreleased hcustody
  · exact takeReady_round tb hstate hvalid

/-- What a round that throws settles the Promise with. -/
def caughtAnswer : Thrown E → Except (Thrown E) (Outcome V)
  | .outcome error => .ok (.failed error)
  | .other error => .error (.other error)

theorem pollCatch_eq (error : Thrown E) (s : Settlement B E V) :
    pollCatch tb signal error s = settle signal (caughtAnswer error) (releaseTask tb s) := by
  cases error with
  | outcome error => rfl
  | other error => rfl

theorem Released.pollCatch (h : Released signal task s) (hvalid : signal.Valid)
    (hcustody : Custody s) (error : Thrown E) :
    ∃ t, Settled task t ∧ Settlement.pollCatch tb signal error s = (.ok (), t) := by
  obtain ⟨t, hsettle, hsettled, -⟩ := h.settle hvalid hcustody (caughtAnswer error)
  refine ⟨t, hsettled, ?_⟩
  rw [pollCatch_eq, h.releaseTask]
  exact hsettle

theorem pollCatch_releaseTask (h : Held signal task s) (error : Thrown E) :
    pollCatch tb signal error s = pollCatch tb signal error (releaseTask tb s) := by
  rw [pollCatch_eq, pollCatch_eq, (h.toHolding.releaseTask tb).releaseTask tb]

/-- What is thrown is caught: the task is released if it was not, and the Promise settled. -/
theorem poll_cases (h : Held signal task s) (hvalid : signal.Valid) :
    (∃ u, Held signal task u ∧ polled tb s = taskPending ∧
        (u.timers = s.timers ∧ u.microtasks = s.microtasks ∧ u.control = s.control ∧
          u.listener = s.listener) ∧
        poll tb signal context s = (.ok (), u.setTimeout)) ∨
      ∃ u, Settled task u ∧ poll tb signal context s = (.ok (), u) := by
  have hround := pollBody_round tb context h hvalid
  have hunsettled : ¬ s.settled = true := by simp [h.settled]
  unfold poll
  rw [if_neg hunsettled]
  generalize pollBody tb signal context s = out at hround ⊢
  cases hround with
  | waits u hu hstate hrest => exact .inl ⟨u, hu, hstate, hrest, rfl⟩
  | settled u hu => exact .inr ⟨u, hu, rfl⟩
  | held e u hu =>
    obtain ⟨t, hsettled, hcatch⟩ := (hu.toHolding.releaseTask tb).pollCatch tb
      hvalid (custody_releaseTask tb hu.custody) e
    rw [← pollCatch_releaseTask tb hu] at hcatch
    exact .inr ⟨t, hsettled, hcatch⟩
  | released e u hu hcustody =>
    obtain ⟨t, hsettled, hcatch⟩ := hu.pollCatch tb hvalid hcustody e
    exact .inr ⟨t, hsettled, hcatch⟩

theorem Held.onAbort (h : Held signal task s) (hvalid : signal.Valid) :
    ∃ t, Settled task t ∧ Settlement.onAbort tb signal context s = (.ok (), t) ∧
      t.promise = [.ok (.failed (cancelledError context))] := by
  have howned : s.ownedTask ≠ 0 := by
    rw [h.owned]
    exact task.code_ne_zero
  have hreleased := (h.toHolding.cancelTask tb).releaseTask tb
  have hcustody : Custody (Settlement.cancelTask tb s) := h.custody
  obtain ⟨t, hsettle, hsettled, hpromise, -⟩ := hreleased.settle hvalid
    (custody_releaseTask tb hcustody) (.ok (.failed (cancelledError context)))
  refine ⟨t, hsettled, ?_, hpromise⟩
  unfold Settlement.onAbort
  rw [if_neg (by simp [h.settled]), if_neg howned]
  exact hsettle

/-! ## Events -/

/-- Between events the call waits or is over. -/
def Between (signal : SettleSignal E) (control : Option Bool) (task : TaskHandle)
    (s : Settlement B E V) : Prop :=
  Pending signal control task s ∨ Settled task s

variable {control : Option Bool}

/-- A poll that was due and has been taken off its queue. -/
theorem Pending.poll (h : Pending signal control task s) {u : Settlement B E V}
    (hu : Held signal task u) (hdue : u.microtasks = 0 ∧ u.timers = [])
    (hrest : u.control = s.control ∧ u.listener = s.listener) :
    Between signal control task (Settlement.poll tb signal context u).2 := by
  rcases poll_cases tb context hu h.valid with
    ⟨t, ht, -, ⟨htimers, hmicrotasks, hcontrol, hlistener⟩, hpoll⟩ | ⟨t, ht, hpoll⟩
  · rw [hpoll]
    refine .inl ⟨⟨⟨ht.settled, ht.owned, ht.promise, ht.calls, ?_, ht.listener⟩, ht.taken,
      ht.handed⟩, h.valid, ?_, ?_, ?_⟩
    · refine .inr ⟨t.nextTimer, rfl, ?_⟩
      show t.timers ++ [t.nextTimer] = _
      rw [htimers, hdue.2]
      rfl
    · refine .inr ⟨hmicrotasks.trans hdue.1, t.nextTimer, ?_⟩
      show t.timers ++ [t.nextTimer] = _
      rw [htimers, hdue.2]
      rfl
    · exact hlistener.trans (hrest.2.trans h.listening)
    · exact hcontrol.trans (hrest.1.trans h.control)
  · rw [hpoll]
    exact .inr ht

theorem Held.unscheduled (h : Held signal task s) (microtasks : Nat) :
    Held signal task { s with microtasks, timers := [] } :=
  ⟨⟨h.settled, h.owned, h.promise, h.calls, .inl rfl, h.listener⟩, h.taken, h.handed⟩

theorem Pending.step (h : Pending signal control task s) (event : Event) :
    Between signal control task (step tb signal context s event) := by
  cases event with
  | microtask =>
    unfold Settlement.step
    rcases h.due with ⟨hone, htimers⟩ | ⟨hzero, -⟩
    · have hpolled := h.toHeld.unscheduled 0
      rw [if_neg (by omega), hone]
      rw [← htimers] at hpolled
      exact h.poll tb context hpolled ⟨rfl, htimers⟩ ⟨rfl, rfl⟩
    · rw [if_pos hzero]
      exact .inl h
  | timeout id =>
    unfold Settlement.step
    dsimp only
    split
    · rename_i hmem
      rcases h.due with ⟨-, htimers⟩ | ⟨hzero, id', htimers⟩
      · rw [htimers] at hmem
        cases hmem
      · rw [htimers] at hmem
        have herase : s.timers.erase id = [] := by
          rw [htimers, List.mem_singleton.mp hmem]
          exact List.erase_cons_head id' []
        have hpolled := h.toHeld.unscheduled s.microtasks
        rw [herase]
        exact h.poll tb context hpolled ⟨hzero, rfl⟩ ⟨rfl, rfl⟩
    · exact .inl h
  | abort =>
    unfold Settlement.step
    dsimp only
    split
    · have hheld : Held signal task { s with listener := false } :=
        ⟨⟨h.settled, h.owned, h.promise, h.calls, h.armed, fun _ => rfl⟩, h.taken, h.handed⟩
      obtain ⟨t, ht, habort, -⟩ := hheld.onAbort tb context h.valid
      rw [habort]
      exact .inr ht
    · exact .inl h
  | cancel =>
    unfold Settlement.step
    dsimp only
    split
    · obtain ⟨t, ht, habort, -⟩ := h.toHeld.onAbort tb context h.valid
      rw [habort]
      exact .inr ht
    · exact .inl h
  | late =>
    obtain ⟨t, ht, habort, -⟩ := h.toHeld.onAbort tb context h.valid
    unfold Settlement.step
    rw [habort]
    exact .inr ht

/-- Nothing happens after the call is settled: a poll that is still queued is taken off. -/
theorem Settled.step (h : Settled task s) (signal : SettleSignal E) (event : Event) :
    ∃ microtasks, step tb signal context s event = { s with microtasks } := by
  have hpoll (u : Settlement B E V) (hu : u.settled = true) :
      poll tb signal context u = (.ok (), u) := by
    unfold poll
    rw [if_pos hu]
  have habort (u : Settlement B E V) (hu : u.settled = true) :
      onAbort tb signal context u = (.ok (), u) := by
    unfold onAbort
    rw [if_pos hu]
  cases event with
  | microtask =>
    by_cases hzero : s.microtasks = 0
    · exact ⟨s.microtasks, if_pos hzero⟩
    · refine ⟨s.microtasks - 1, ?_⟩
      unfold Settlement.step
      dsimp only
      rw [if_neg hzero, hpoll { s with microtasks := s.microtasks - 1 } h.settled]
  | timeout id =>
    have hmem : id ∉ s.timers := by
      rw [h.timers]
      exact List.not_mem_nil
    exact ⟨s.microtasks, if_neg hmem⟩
  | abort =>
    have hlistener : ¬ s.listener = true := by simp [h.listener]
    exact ⟨s.microtasks, if_neg hlistener⟩
  | cancel => exact ⟨s.microtasks, if_neg h.control⟩
  | late =>
    refine ⟨s.microtasks, ?_⟩
    unfold Settlement.step
    dsimp only
    rw [habort s h.settled]

theorem Settled.run (h : Settled task s) (signal : SettleSignal E) (events : List Event) :
    ∃ microtasks, runEvents tb signal context s events = { s with microtasks } := by
  induction events generalizing s with
  | nil => exact ⟨s.microtasks, rfl⟩
  | cons event events ih =>
    obtain ⟨microtasks, hstep⟩ := h.step tb context signal event
    have hnext : Settled task { s with microtasks } :=
      ⟨h.settled, h.owned, h.promise, h.calls, h.custody, h.timers, h.listener, h.control⟩
    obtain ⟨microtasks', hrun⟩ := ih hnext
    refine ⟨microtasks', ?_⟩
    show runEvents tb signal context (Settlement.step tb signal context s event) events = _
    rw [hstep]
    exact hrun

theorem between_run (h : Between signal control task s) (events : List Event) :
    Between signal control task (runEvents tb signal context s events) := by
  induction events generalizing s with
  | nil => exact h
  | cons event events ih =>
    apply ih
    rcases h with h | h
    · exact h.step tb context event
    · obtain ⟨microtasks, hstep⟩ := h.step tb context signal event
      rw [hstep]
      exact .inr ⟨h.settled, h.owned, h.promise, h.calls, h.custody, h.timers, h.listener,
        h.control⟩

/-- The events that settle a waiting call: an abort, or a poll of a task that is no longer
pending. -/
def Decisive (tb : TaskBridge B E V) (s : Settlement B E V) : Event → Prop
  | .microtask => s.microtasks ≠ 0 ∧ polled tb s ≠ taskPending
  | .timeout id => id ∈ s.timers ∧ polled tb s ≠ taskPending
  | .abort => s.listener = true
  | .cancel => s.control = some .onAbort
  | .late => True

theorem pollBody_of_pending (hstate : polled tb s = taskPending) :
    pollBody tb signal context s =
      (.ok (), ((taskState tb (clearLastError tb s)).2).setTimeout) :=
  if_pos hstate

theorem settled_poll_iff (h : Held signal task s) (hvalid : signal.Valid) :
    (poll tb signal context s).2.settled = true ↔ polled tb s ≠ taskPending := by
  rcases poll_cases tb context h hvalid with
    ⟨u, hu, hstate, -, hpoll⟩ | ⟨u, hu, hpoll⟩
  · rw [hpoll]
    show u.settled = true ↔ _
    simp [hu.settled, hstate]
  · rw [hpoll]
    refine ⟨?_, fun _ => hu.settled⟩
    intro _ hstate
    have hwaiting : (poll tb signal context s).2.settled = false := by
      unfold poll
      rw [if_neg (by simp [h.settled]), pollBody_of_pending tb context hstate]
      exact h.settled
    rw [hpoll, hu.settled] at hwaiting
    cases hwaiting

theorem Pending.settled_step_iff (h : Pending signal control task s) (event : Event) :
    (Settlement.step tb signal context s event).settled = true ↔ Decisive tb s event := by
  have hwaits : ¬ s.settled = true := by simp [h.settled]
  cases event with
  | microtask =>
    unfold Settlement.step Decisive
    dsimp only
    split
    · rename_i hzero
      simp [hwaits, hzero]
    · rename_i hqueued
      have hheld : Held signal task { s with microtasks := s.microtasks - 1 } :=
        ⟨⟨h.settled, h.owned, h.promise, h.calls, h.armed, h.listener⟩, h.taken, h.handed⟩
      rw [settled_poll_iff tb context hheld h.valid]
      exact ⟨fun hpolled => ⟨hqueued, hpolled⟩, fun hdecisive => hdecisive.2⟩
  | timeout id =>
    unfold Settlement.step Decisive
    dsimp only
    split
    · rename_i hmem
      have hheld : Held signal task { s with timers := s.timers.erase id } := by
        refine ⟨⟨h.settled, h.owned, h.promise, h.calls, .inl ?_, h.listener⟩, h.taken, h.handed⟩
        show s.timers.erase id = []
        rcases h.armed with hnone | ⟨id', -, hone⟩
        · rw [hnone]
          rfl
        · rw [hone] at hmem ⊢
          rw [List.mem_singleton.mp hmem]
          exact List.erase_cons_head id' []
      rw [settled_poll_iff tb context hheld h.valid]
      exact ⟨fun hpolled => ⟨hmem, hpolled⟩, fun hdecisive => hdecisive.2⟩
    · rename_i hmem
      simp [hwaits, hmem]
  | abort =>
    unfold Settlement.step Decisive
    dsimp only
    split
    · rename_i hlistener
      have hheld : Held signal task { s with listener := false } :=
        ⟨⟨h.settled, h.owned, h.promise, h.calls, h.armed, fun _ => rfl⟩, h.taken, h.handed⟩
      obtain ⟨t, ht, habort, -⟩ := hheld.onAbort tb context h.valid
      rw [habort]
      simp [ht.settled, hlistener]
    · rename_i hlistener
      simp [hwaits, hlistener]
  | cancel =>
    unfold Settlement.step Decisive
    dsimp only
    split
    · rename_i hcontrol
      obtain ⟨t, ht, habort, -⟩ := h.toHeld.onAbort tb context h.valid
      rw [habort]
      simp [ht.settled, hcontrol]
    · rename_i hcontrol
      simp [hwaits, hcontrol]
  | late =>
    unfold Settlement.step Decisive
    dsimp only
    obtain ⟨t, ht, habort, -⟩ := h.toHeld.onAbort tb context h.valid
    rw [habort]
    simp [ht.settled]

/-! ## Calls -/

theorem held_start (b : B) (hook : Option CancelHook) :
    Held signal task
      ({ start task control b with control := hook } : Settlement B E V) where
  settled := rfl
  owned := rfl
  promise := rfl
  calls := fun _ hc => absurd hc List.not_mem_nil
  armed := .inl rfl
  listener := fun _ => rfl
  taken := rfl
  handed := rfl

theorem start_control (control : Option Bool) :
    (control.map fun held => if held then CancelHook.foreign else .undefined) ≠ some .onAbort := by
  cases control with
  | none => simp
  | some held => cases held <;> simp

/-- Whatever an invalid signal does to its cleanup, the Promise is settled once. -/
theorem settled_invalid (removed : Except (Thrown E) Unit) (b : B) :
    Settled task (settleTask tb (.invalid removed) context task control b) := by
  have hreleased : ReleasedLast task [(.release, task.code)] := by
    refine ⟨[], rfl, ?_⟩
    intro c hc
    cases hc
  have hrelease : releaseTask tb (start task control b : Settlement B E V) =
      { (start task control b : Settlement B E V) with
        bridge := tb.taskRelease task.code b
        calls := [(.release, task.code)]
        ownedTask := 0 } := if_neg task.code_ne_zero
  unfold settleTask executor
  dsimp only
  rw [hrelease]
  cases removed with
  | error e =>
    exact ⟨rfl, rfl, ⟨.error e, rfl⟩, hreleased, ⟨rfl, Nat.zero_le 1⟩, rfl, rfl,
      start_control control⟩
  | ok _ =>
    exact ⟨rfl, rfl, ⟨_, rfl⟩, hreleased, ⟨rfl, Nat.zero_le 1⟩, rfl, rfl, clearCancel_control _⟩

/-- What the executor leaves: a queued poll, or a Promise that is settled already. -/
theorem between_settleTask (tb : TaskBridge B E V) (signal : SettleSignal E) (context : Context)
    (task : TaskHandle) (control : Option Bool) (b : B) :
    Between signal control task (settleTask tb signal context task control b) := by
  have hcontrol : (start task control b : Settlement B E V).control.map
      (fun _ => CancelHook.onAbort) = control.map fun _ => .onAbort := by
    cases control <;> rfl
  have hheld : Held signal task ({ start task control b with
      control := control.map fun _ => .onAbort } : Settlement B E V) := held_start b _
  cases signal with
  | invalid removed => exact .inr (settled_invalid tb context removed b)
  | undefined =>
    unfold settleTask executor
    dsimp only
    rw [hcontrol]
    exact .inl ⟨⟨⟨rfl, rfl, rfl, hheld.calls, hheld.armed, fun _ => rfl⟩, rfl, rfl⟩, trivial,
      .inl ⟨rfl, rfl⟩, rfl, rfl⟩
  | abortSignal aborted =>
    unfold settleTask executor
    dsimp only
    rw [hcontrol]
    cases aborted with
    | true =>
      obtain ⟨t, ht, habort, -⟩ := hheld.onAbort tb context trivial
      rw [if_pos rfl, habort]
      exact .inr ht
    | false =>
      rw [if_neg Bool.false_ne_true]
      exact .inl ⟨⟨⟨rfl, rfl, rfl, hheld.calls, hheld.armed, fun h => by cases h⟩, rfl, rfl⟩,
        trivial, .inl ⟨rfl, rfl⟩, rfl, rfl⟩

/-- Every run of every call: between two events the call either holds its task with a poll due, and
exactly the decisive events settle it, or it is settled, and no later event does anything. -/
theorem settlement (tb : TaskBridge B E V) (signal : SettleSignal E) (context : Context)
    (task : TaskHandle) (control : Option Bool) (b : B) (events : List Event) :
    let s := runEvents tb signal context (settleTask tb signal context task control b) events
    (Pending signal control task s ∧
        ∀ event, (step tb signal context s event).settled = true ↔ Decisive tb s event) ∨
      (Settled task s ∧ ∀ later, ∃ microtasks,
        runEvents tb signal context s later = { s with microtasks }) := by
  have hstart := between_settleTask tb signal context task control b
  rcases between_run tb context hstart events with h | h
  · exact .inl ⟨h, h.settled_step_iff tb context⟩
  · exact .inr ⟨h, h.run tb context signal⟩

end Proofs

end Settlement

end OpendalMbt.Browser
