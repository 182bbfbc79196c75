import OpendalMbt.Native.AsyncTask
import OpendalMbt.Transition.Run

/-!
# The life of an async task

A `Lifecycle` is a task cell with what the parties around it do and have done: the signals
carried out of the cell and not yet written, the number of those written, every outcome
offered to `publish`, and every outcome that `take` handed out. Any number of workers,
supervisors, cancellers and takers act on it, in any order.

`Lifecycle.Sound` couples the state, the stored outcome and the signal, and every event
keeps it. `task_lifecycle` reads the guarantees off: one completion signal, one outcome,
harmless early or mistyped takes, and final `taken` and `cancelled` states.
-/

namespace OpendalMbt.Native

open Transition

variable {V : Type}

structure Lifecycle (V : Type) where
  task : AsyncTaskInner V
  unsent : List CompletionSignal := []
  fired : Nat := 0
  published : List (AsyncOutcome V) := []
  handed : List (AsyncOutcome V) := []

/-- The cell that `spawn` creates. -/
def Lifecycle.spawned (abort : AbortHandle) (signal : CompletionSignal) : Lifecycle V :=
  { task := { state := .running abort, signal := some signal } }

inductive TaskEvent (V : Type) where
  | publish (outcome : AsyncOutcome V)
  | cancel
  | take (expected : AsyncResultKind)
  /-- A party writes the signal that it carried out of the lock. -/
  | notify

namespace Lifecycle

def step (s : Lifecycle V) : TaskEvent V → Option (Lifecycle V)
  | .publish outcome =>
    let (signal, task) := s.task.publish outcome
    some { s with
      task
      unsent := s.unsent ++ signal.toList
      published := s.published ++ [outcome] }
  | .cancel =>
    let (cancellation, task) := s.task.cancel
    some { s with task, unsent := s.unsent ++ cancellation.signal.toList }
  | .take expected =>
    let (result, task) := s.task.take expected
    some { s with task, handed := s.handed ++ result.toOption.toList }
  | .notify =>
    match s.unsent with
    | [] => none
    | _ :: rest => some { s with unsent := rest, fired := s.fired + 1 }

/-! ## Steps of a running and of a settled task -/

variable {s t : Lifecycle V} {abort : AbortHandle} {o : AsyncOutcome V} {k : AsyncResultKind}

theorem step_take_error {f : CallFailure} (h : (s.task.take k).1 = .error f) :
    s.step (.take k) = some s := by
  have hsame := take_error h
  rcases htake : s.task.take k with ⟨result, task⟩
  rw [htake] at h hsame
  subst h hsame
  simp [step, htake, Except.toOption]

theorem step_take_ok (h : (s.task.take k).1 = .ok o) :
    s.step (.take k) =
      some { s with task := { s.task with state := .taken }, handed := s.handed ++ [o] } := by
  have htaken := take_ok h
  rcases htake : s.task.take k with ⟨result, task⟩
  rw [htake] at h htaken
  subst h htaken
  simp [step, htake, Except.toOption]

/-- What an event leaves of the cell: the same, a publication, a cancellation or a take. -/
theorem step_cases {e : TaskEvent V} (h : s.step e = some t) :
    (t.task = s.task ∧ t.handed = s.handed ∧ t.fired + t.unsent.length = s.fired + s.unsent.length ∧
      (t.published = s.published ∨
        (∀ abort, s.task.state ≠ .running abort) ∧ ∃ o, t.published = s.published ++ [o])) ∨
    (∃ abort o, s.task.state = .running abort ∧
      t = { s with
        task := { state := .completed o, signal := none }
        unsent := s.unsent ++ s.task.signal.toList
        published := s.published ++ [o] }) ∨
    (s.task.state ≠ .taken ∧
      t = { s with
        task := { state := .cancelled, signal := none }
        unsent := s.unsent ++ s.task.signal.toList }) ∨
    (∃ o, s.task.state = .completed o ∧
      t = { s with task := { s.task with state := .taken }, handed := s.handed ++ [o] }) := by
  cases e with
  | publish o =>
    by_cases hrun : ∃ abort, s.task.state = .running abort
    · obtain ⟨abort, hrun⟩ := hrun
      simp only [step, publish_running hrun, Option.some.injEq] at h
      exact .inr (.inl ⟨abort, o, hrun, h.symm⟩)
    · have hsettled : ∀ abort, s.task.state ≠ .running abort := fun abort heq => hrun ⟨abort, heq⟩
      simp only [step, publish_settled hsettled, Option.some.injEq] at h
      subst h
      exact .inl ⟨rfl, rfl, by simp, .inr ⟨hsettled, o, rfl⟩⟩
  | cancel =>
    by_cases hclaimed : s.task.state = .taken ∨ s.task.state = .cancelled
    · simp only [step, cancel_claimed hclaimed, Option.some.injEq] at h
      subst h
      exact .inl ⟨rfl, rfl, by simp, .inl rfl⟩
    · obtain ⟨htaken, hcancelled⟩ := not_or.mp hclaimed
      obtain ⟨hcell, -, hsignal⟩ := cancel_unclaimed htaken hcancelled
      simp only [step, hcell, hsignal, Option.some.injEq] at h
      exact .inr (.inr (.inl ⟨htaken, h.symm⟩))
  | take k =>
    cases hres : (s.task.take k).1 with
    | error f =>
      rw [step_take_error hres, Option.some.injEq] at h
      subst h
      exact .inl ⟨rfl, rfl, rfl, .inl rfl⟩
    | ok o =>
      rw [step_take_ok hres, Option.some.injEq] at h
      exact .inr (.inr (.inr ⟨o, (take_eq_ok.mp hres).1, h.symm⟩))
  | notify =>
    simp only [step] at h
    split at h
    · cases h
    · rename_i signal rest hunsent
      cases h
      refine .inl ⟨rfl, rfl, ?_, .inl rfl⟩
      simp only [hunsent, List.length_cons]
      omega

/-! ## The invariant -/

/-- The outcome history that goes with a task state. -/
def Agrees (s : Lifecycle V) : Prop :=
  match s.task.state with
  | .running _ => s.published = [] ∧ s.handed = []
  | .completed o => s.published.head? = some o ∧ s.handed = []
  | .taken => ∃ o, s.handed = [o] ∧ s.published.head? = some o
  | .cancelled => s.handed = []

/-- One signal exists in all; it is in the cell exactly while the task is running. -/
structure Sound (s : Lifecycle V) : Prop where
  one_signal : s.fired + s.unsent.length + s.task.signal.toList.length = 1
  signal_iff : s.task.signal = none ↔ ∀ abort, s.task.state ≠ .running abort
  agrees : s.Agrees

theorem sound_spawned (abort : AbortHandle) (signal : CompletionSignal) :
    (spawned abort signal : Lifecycle V).Sound where
  one_signal := rfl
  signal_iff := by simp [spawned]
  agrees := ⟨rfl, rfl⟩

theorem sound_step : Preserves (step (V := V)) Sound := by
  intro s e t hstep hs
  obtain ⟨hone, hsig, hagr⟩ := hs
  rcases step_cases hstep with ⟨htask, hhanded, hcount, hpub⟩ | ⟨abort, o, hrun, rfl⟩ |
      ⟨htaken, rfl⟩ | ⟨o, hdone, rfl⟩
  · refine ⟨by rw [htask]; omega, by rw [htask]; exact hsig, ?_⟩
    rcases hpub with hpub | ⟨hsettled, o, hpub⟩
    · simpa only [Agrees, htask, hhanded, hpub] using hagr
    · -- a late outcome goes behind the first one
      have hhead : ∀ o', s.published.head? = some o' → t.published.head? = some o' := by
        intro o' hhead
        rw [hpub, List.head?_append, hhead, Option.some_or]
      simp only [Agrees, htask, hhanded] at hagr ⊢
      split at hagr
      · rename_i abort hrun
        exact absurd hrun (hsettled abort)
      · exact ⟨hhead _ hagr.1, hagr.2⟩
      · obtain ⟨o', hhanded, hfirst⟩ := hagr
        exact ⟨o', hhanded, hhead _ hfirst⟩
      · exact hagr
  · simp only [Agrees, hrun] at hagr
    refine ⟨?_, by simp, ?_⟩
    · simp only [List.length_append, Option.toList_none, List.length_nil]
      omega
    · simp [Agrees, hagr.1, hagr.2]
  · refine ⟨?_, by simp, ?_⟩
    · simp only [List.length_append, Option.toList_none, List.length_nil]
      omega
    · show s.handed = []
      cases hstate : s.task.state with
      | taken => exact absurd hstate htaken
      | running abort =>
        simp only [Agrees, hstate] at hagr
        exact hagr.2
      | completed o =>
        simp only [Agrees, hstate] at hagr
        exact hagr.2
      | cancelled => simpa only [Agrees, hstate] using hagr
  · simp only [Agrees, hdone] at hagr
    have hnone : s.task.signal = none := hsig.mpr (by simp [hdone])
    refine ⟨hone, by simp [hnone], ?_⟩
    exact ⟨o, by simp [hagr.2], hagr.1⟩

/-- A task that is no longer running never runs again. -/
theorem settled_step : Preserves (step (V := V)) fun s => ∀ abort, s.task.state ≠ .running abort := by
  intro s e t hstep hs abort
  rcases step_cases hstep with ⟨htask, -⟩ | ⟨abort', o, hrun, -⟩ | ⟨-, rfl⟩ | ⟨o, -, rfl⟩
  · rw [htask]
    exact hs abort
  · exact absurd hrun (hs abort')
  · simp
  · simp

/-- `taken` and `cancelled` are final. -/
theorem final_step (state : AsyncTaskState V) (hfinal : state = .taken ∨ state = .cancelled) :
    Preserves (step (V := V)) fun s => s.task.state = state := by
  intro s e t hstep hs
  rcases step_cases hstep with ⟨htask, -⟩ | ⟨abort, o, hrun, rfl⟩ | ⟨htaken, rfl⟩ | ⟨o, hdone, rfl⟩
  · exact htask ▸ hs
  · rw [hrun] at hs
    rcases hfinal with rfl | rfl <;> cases hs
  · rcases hfinal with rfl | rfl
    · exact absurd hs htaken
    · rfl
  · rw [hdone] at hs
    rcases hfinal with rfl | rfl <;> cases hs

/-! ## The guarantees -/

/-- What holds of a task cell whatever its parties have done so far. -/
structure Guarantees (s : Lifecycle V) : Prop where
  signalled_once : s.fired ≤ 1
  /-- Once the signal was written, no later event makes the task running again. -/
  signalled_settled : 0 < s.fired → ∀ es t, run step s es = some t →
    ∀ abort, t.task.state ≠ .running abort
  /-- At most one outcome is handed out, and it is the first one offered to `publish`. -/
  handed_first : s.handed = [] ∨ ∃ o, s.handed = [o] ∧ s.published.head? = some o
  early_take : ∀ abort k, s.task.state = .running abort →
    (s.task.take k).1 = .error notReady ∧ s.step (.take k) = some s
  mistyped_take : ∀ o k, s.task.state = .completed o → k ≠ o.kind →
    (s.task.take k).1 = .error kindMismatch ∧ s.step (.take k) = some s
  /-- The outcome stays available to a take of its kind. -/
  matching_take : ∀ o, s.task.state = .completed o → (s.task.take o.kind).1 = .ok o
  published_take : ∀ abort k o, s.task.state = .running abort →
    ∃ t, run step s [.take k, .publish o] = some t ∧ (t.task.take o.kind).1 = .ok o
  signalled_take : 0 < s.fired → ∀ k, (s.task.take k).1 ≠ .error notReady
  final : s.task.state = .taken ∨ s.task.state = .cancelled →
    (∀ o, s.task.publish o = (none, s.task)) ∧
      ∀ es t, run step s es = some t → t.task.state = s.task.state

/-- The guarantees hold after every order of publications, cancellations, takes and signals. -/
theorem task_lifecycle {abort : AbortHandle} {signal : CompletionSignal} {es : List (TaskEvent V)}
    {s : Lifecycle V} (hrun : run step (spawned abort signal) es = some s) : s.Guarantees := by
  obtain ⟨hone, hsig, hagr⟩ := sound_step.run (sound_spawned abort signal) hrun
  have hsettled : 0 < s.fired → ∀ abort, s.task.state ≠ .running abort := by
    intro hfired
    apply hsig.mp
    cases hsignal : s.task.signal with
    | none => rfl
    | some signal =>
      rw [hsignal, Option.toList_some, List.length_singleton] at hone
      omega
  refine {
    signalled_once := by omega, signalled_settled := ?_, handed_first := ?_, early_take := ?_,
    mistyped_take := ?_, matching_take := fun o h => take_eq_ok.mpr ⟨h, rfl⟩,
    published_take := ?_, signalled_take := ?_, final := ?_ }
  · intro hfired es t hrun'
    exact settled_step.run (hsettled hfired) hrun'
  · unfold Agrees at hagr
    split at hagr
    · exact .inl hagr.2
    · exact .inl hagr.2
    · exact .inr hagr
    · exact .inl hagr
  · intro abort k hstate
    have herr := congrArg Prod.fst (take_running (k := k) hstate)
    exact ⟨herr, step_take_error herr⟩
  · intro o k hstate hk
    have herr := congrArg Prod.fst (take_mismatch hstate hk)
    exact ⟨herr, step_take_error herr⟩
  · intro abort k o hstate
    have herr := congrArg Prod.fst (take_running (k := k) hstate)
    refine ⟨_, run_cons_eq_some.mpr ⟨s, step_take_error herr, rfl⟩, ?_⟩
    exact take_eq_ok.mpr ⟨by simp [hstate], rfl⟩
  · intro hfired k herr
    obtain ⟨abort, hstate⟩ := take_not_ready herr
    exact hsettled hfired abort hstate
  · intro hfinal
    refine ⟨fun o => publish_settled ?_, fun es t hrun' => ?_⟩
    · intro abort hstate
      rcases hfinal with h | h <;> rw [hstate] at h <;> cases h
    · exact (final_step s.task.state hfinal).run rfl hrun'

/-- A worker's outcome is published, signalled and taken after two takes that change nothing;
the supervisor's later outcome is dropped. -/
theorem task_lifecycle_claimed :
    ∃ s : Lifecycle Nat, run step (spawned 0 ⟨3⟩)
      [.take .buffer, .publish (.success .buffer (.buffer 7)), .notify, .take .unit,
        .take .buffer, .publish (.panic .buffer), .cancel] = some s ∧
      s.handed = [.success .buffer (.buffer 7)] ∧ s.fired = 1 ∧ s.Guarantees := by
  obtain ⟨s, hrun, hhanded, hfired⟩ : ∃ s : Lifecycle Nat, run step (spawned 0 ⟨3⟩)
      [.take .buffer, .publish (.success .buffer (.buffer 7)), .notify, .take .unit,
        .take .buffer, .publish (.panic .buffer), .cancel] = some s ∧
      s.handed = [.success .buffer (.buffer 7)] ∧ s.fired = 1 := ⟨_, rfl, rfl, rfl⟩
  exact ⟨s, hrun, hhanded, hfired, task_lifecycle hrun⟩

end Lifecycle

end OpendalMbt.Native
