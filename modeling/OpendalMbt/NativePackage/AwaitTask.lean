import OpendalMbt.NativePackage.AwaitResult

/-!
# Tasks that a call waits for

A task is `Pending` until the call claims it or drops it. `Job.left` counts the events that a task
is still to see.

* `Job.sound_publish`, `Job.sound_cancel`, `Job.claimed_take`: the task keeps its own laws;
* `Job.step_signals`: a signal is in the task cell, on its way, or used.
-/

namespace OpendalMbt.NativePackage

open Native Transition

variable {V : Type} {kind : AsyncResultKind}

namespace Job

variable {job job' : Job V} {reply : TakeReply V}

structure Sound (kind : AsyncResultKind) (job : Job V) : Prop where
  life : job.life.Sound
  published : job.life.published = (job.report.map (AsyncOutcome.ofReport kind)).toList
  fits : ∀ report ∈ job.report, report.Fits kind

/-- Nothing is handed out, and the resource may still be used. -/
structure Pending (job : Job V) : Prop where
  handed : job.life.handed = []
  poisoned : job.poisoned = false
  not_taken : job.life.task.state ≠ .taken
  not_cancelled : job.life.task.state ≠ .cancelled

structure Dropped (job : Job V) : Prop where
  handed : job.life.handed = []
  poisoned : job.poisoned = true
  state : job.life.task.state = .cancelled

/-- The report is handed out, and the caller has its translation. -/
structure Claimed (kind : AsyncResultKind) (job : Job V) (reply : TakeReply V) : Prop where
  report : ∃ report, job.report = some report ∧ reply = .ofReport kind report ∧
    job.life.handed = [.ofReport kind report]
  poisoned : job.poisoned = false
  state : job.life.task.state = .taken

/-! ## What the events do to a task -/

theorem of_publish {report : Report V} (h : job.publish kind report = some job') :
    job.report = none ∧ report.Fits kind ∧
      ∃ life, job.life.step (.publish (.ofReport kind report)) = some life ∧
        { job with life, report := some report } = job' := by
  unfold publish at h
  split at h
  · rename_i hguard
    exact ⟨Option.isNone_iff_eq_none.mp hguard.1, hguard.2, Option.map_eq_some_iff.mp h⟩
  · cases h

theorem of_cancel (h : job.cancel = some job') :
    ∃ life, job.life.step .cancel = some life ∧
      { job with life, poisoned := job.poisoned || job.life.task.cancel.1.poison } = job' :=
  Option.map_eq_some_iff.mp h

theorem of_finalize (h : job.finalize = some job') :
    job.freed = false ∧ ∃ cancelled, job.cancel = some cancelled ∧
      { cancelled with freed := true } = job' := by
  unfold finalize at h
  split at h
  · cases h
  · rename_i hfreed
    exact ⟨by simpa using hfreed, Option.map_eq_some_iff.mp h⟩

theorem sound_publish {report : Report V} (h : job.publish kind report = some job')
    (hs : job.Sound kind) : job'.Sound kind := by
  obtain ⟨hnone, hfits, life, hlife, rfl⟩ := of_publish h
  refine ⟨Lifecycle.sound_step hlife hs.life, ?_, ?_⟩
  · have hempty := hs.published
    simp only [Lifecycle.step, Option.some.injEq] at hlife
    subst hlife
    simp [hempty, hnone]
  · simpa using hfits

theorem sound_cancel (h : job.cancel = some job') (hs : job.Sound kind) : job'.Sound kind := by
  obtain ⟨life, hlife, rfl⟩ := of_cancel h
  refine ⟨Lifecycle.sound_step hlife hs.life, ?_, hs.fits⟩
  simp only [Lifecycle.step, Option.some.injEq] at hlife
  subst hlife
  exact hs.published

theorem pending_publish {report : Report V} (h : job.publish kind report = some job')
    (hp : job.Pending) : job'.Pending := by
  obtain ⟨-, -, life, hlife, rfl⟩ := of_publish h
  have hstate := hp.not_taken
  have hcancelled := hp.not_cancelled
  simp only [Lifecycle.step, Option.some.injEq] at hlife
  subst hlife
  by_cases hrun : ∃ abort, job.life.task.state = .running abort
  · obtain ⟨abort, hrun⟩ := hrun
    rw [publish_running hrun]
    exact ⟨hp.handed, hp.poisoned, by simp, by simp⟩
  · rw [publish_settled fun abort habort => hrun ⟨abort, habort⟩]
    exact ⟨hp.handed, hp.poisoned, hstate, hcancelled⟩

/-- A task that is taken or cancelled stays so. -/
theorem final_publish {report : Report V} (h : job.publish kind report = some job')
    (hfinal : job.life.task.state = .taken ∨ job.life.task.state = .cancelled) :
    job'.life.task = job.life.task ∧ job'.life.handed = job.life.handed ∧
      job'.poisoned = job.poisoned := by
  obtain ⟨-, -, life, hlife, rfl⟩ := of_publish h
  simp only [Lifecycle.step, Option.some.injEq] at hlife
  subst hlife
  rw [publish_settled]
  · exact ⟨rfl, rfl, rfl⟩
  · intro abort habort
    rcases hfinal with hstate | hstate <;> rw [hstate] at habort <;> cases habort

theorem final_cancel (h : job.cancel = some job')
    (hfinal : job.life.task.state = .taken ∨ job.life.task.state = .cancelled) : job' = job := by
  obtain ⟨life, hlife, rfl⟩ := of_cancel h
  have hsame := cancel_claimed hfinal
  simp only [Lifecycle.step, hsame, Option.toList_none, List.append_nil, Option.some.injEq] at hlife
  subst hlife
  simp [hsame]

theorem dropped_cancel (h : job.cancel = some job') (hp : job.Pending) : job'.Dropped := by
  obtain ⟨life, hlife, rfl⟩ := of_cancel h
  obtain ⟨hcell, hpoison, -⟩ := cancel_unclaimed hp.not_taken hp.not_cancelled
  simp only [Lifecycle.step, Option.some.injEq] at hlife
  subst hlife
  exact ⟨hp.handed, by simp [hpoison], by simp [hcell]⟩

/-- Without a signal in its cell, a pending task has its report there. -/
theorem Pending.completed (hp : job.Pending) (hs : job.Sound kind)
    (hsignal : job.life.task.signal = none) :
    ∃ report, job.report = some report ∧ report.Fits kind ∧
      job.life.task.state = .completed (.ofReport kind report) := by
  have hrun := hs.life.signal_iff.mp hsignal
  have hagrees := hs.life.agrees
  have hpublished := hs.published
  unfold Lifecycle.Agrees at hagrees
  split at hagrees
  · rename_i abort hstate
    exact absurd hstate (hrun abort)
  · rename_i outcome hstate
    cases hreport : job.report with
    | none => simp [hpublished, hreport] at hagrees
    | some report =>
      obtain ⟨hhead, -⟩ := hagrees
      simp only [hpublished, hreport, Option.map_some, Option.toList_some, List.head?_cons,
        Option.some.injEq] at hhead
      exact ⟨report, rfl, hs.fits report hreport, by rw [hstate, hhead]⟩
  · rename_i hstate
    exact absurd hstate hp.not_taken
  · rename_i hstate
    exact absurd hstate hp.not_cancelled

theorem signal_none_of_fired (hs : job.Sound kind) (h : 0 < job.life.fired) :
    job.life.task.signal = none := by
  have hone := hs.life.one_signal
  cases hsignal : job.life.task.signal with
  | none => rfl
  | some signal =>
    rw [hsignal, Option.toList_some, List.length_singleton] at hone
    omega

theorem claimed_take (h : job.take kind = some (reply, job')) (hp : job.Pending)
    (hs : job.Sound kind) (hfired : 0 < job.life.fired) :
    job'.Claimed kind reply ∧ job'.Sound kind := by
  obtain ⟨report, hreport, hfits, hstate⟩ := hp.completed hs (signal_none_of_fired hs hfired)
  obtain ⟨life, hlife, hpair⟩ := Option.map_eq_some_iff.mp h
  obtain ⟨hreply, rfl⟩ := Prod.mk.inj hpair
  have htake : (job.life.task.take kind).1 = .ok (.ofReport kind report) :=
    take_eq_ok.mpr ⟨hstate, AsyncOutcome.kind_ofReport kind report⟩
  have hsound := Lifecycle.sound_step hlife hs.life
  rw [Lifecycle.step_take_ok htake, Option.some.injEq] at hlife
  subst hlife
  refine ⟨⟨⟨report, hreport, ?_, by simp [hp.handed]⟩, hp.poisoned, rfl⟩, hsound, hs.published,
    hs.fits⟩
  rw [← hreply, asyncTaskTake_ofReport hfits hstate]

/-! ## What is left to do -/

/-- The signals that are still to be used. -/
def signals (life : Lifecycle V) : Nat := life.task.signal.toList.length + life.unsent.length

theorem step_signals {life life' : Lifecycle V} {e : TaskEvent V} (h : life.step e = some life') :
    life'.fired + signals life' = life.fired + signals life := by
  unfold signals
  rcases Lifecycle.step_cases h with ⟨htask, -, hcount, -⟩ | ⟨abort, outcome, -, rfl⟩ | ⟨-, rfl⟩ |
      ⟨outcome, -, rfl⟩
  · rw [htask]
    omega
  · simp only [Option.toList_none, List.length_nil, List.length_append]
    omega
  · simp only [Option.toList_none, List.length_nil, List.length_append]
    omega
  · rfl

/-- The events that a task is still to see. -/
def left (job : Job V) : Nat :=
  (if job.report.isSome then 0 else 1) + 2 * signals job.life + job.unclosed +
    if job.freed then 0 else 1

theorem left_publish {report : Report V} (h : job.publish kind report = some job') :
    job'.left < job.left := by
  obtain ⟨hnone, -, life, hlife, rfl⟩ := of_publish h
  have hsignals := step_signals hlife
  have hfired : life.fired = job.life.fired := by
    simp only [Lifecycle.step, Option.some.injEq] at hlife
    rw [← hlife]
  simp only [left, hnone, Option.isSome_some, Option.isSome_none, if_true, Bool.false_eq_true, if_false]
  omega

theorem left_cancel (h : job.cancel = some job') : job'.left = job.left := by
  obtain ⟨life, hlife, rfl⟩ := of_cancel h
  have hsignals := step_signals hlife
  have hfired : life.fired = job.life.fired := by
    simp only [Lifecycle.step, Option.some.injEq] at hlife
    rw [← hlife]
  simp only [left]
  omega

theorem left_take {reply : TakeReply V} (h : job.take kind = some (reply, job')) :
    job'.left = job.left := by
  obtain ⟨life, hlife, hpair⟩ := Option.map_eq_some_iff.mp h
  obtain ⟨-, rfl⟩ := Prod.mk.inj hpair
  have hsignals := step_signals hlife
  have hfired : life.fired = job.life.fired := by
    simp only [Lifecycle.step, Option.some.injEq] at hlife
    rw [← hlife]
  simp only [left]
  omega

theorem left_finalize (h : job.finalize = some job') : job'.left < job.left := by
  obtain ⟨hfreed, cancelled, hcancel, rfl⟩ := of_finalize h
  have hleft := left_cancel hcancel
  have hsame : cancelled.freed = job.freed := by
    obtain ⟨life, -, rfl⟩ := of_cancel hcancel
    rfl
  simp only [left, hsame, hfreed, Bool.false_eq_true, if_false, if_true] at hleft ⊢
  omega

end Job

end OpendalMbt.NativePackage
