import OpendalMbt.NativePackage.AwaitProtocol

/-!
# Every wait comes to an end

No event of a call and of its task happens twice, so that a run is short; and until the call has
returned and everything is given back, some event is enabled that neither fails nor cancels the
call.

* `Await.spending_step`: every event spends some of what is left;
* `Await.exists_step`: the call does not wait for nothing;
* `await_protocol`: the guarantees.
-/

namespace OpendalMbt.NativePackage

open Native Transition

variable {V : Type} {kind : AsyncResultKind}

/-- The events of the caller that are still to come; four of those of the task come after the
start. -/
def Phase.rank : Phase V → Nat
  | .entered => 11
  | .piped => 10
  | .started => 5
  | .waiting => 4
  | .signalled => 3
  | .leaving _ => 2
  | .closing _ => 1
  | .returned _ => 0

namespace Await

variable {s t : Await V}

def left (s : Await V) : Nat := s.phase.rank + (s.job.map Job.left).getD 0

theorem left_native {f : Job V → Option (Job V)} (h : s.native f = some t)
    (hf : ∀ job job', f job = some job' → job'.left < job.left) : t.left < s.left := by
  obtain ⟨job, job', hjob, hjob', rfl⟩ := of_native h
  have hless := hf job job' hjob'
  simp only [left, hjob, Option.map_some, Option.getD_some]
  omega

theorem left_notify {written : Bool} (h : s.notify written = some t) : t.left < s.left := by
  unfold notify at h
  split at h
  · cases h
  · obtain ⟨job, hjob, h⟩ := Option.bind_eq_some_iff.mp h
    obtain ⟨life, hlife, rfl⟩ := Option.map_eq_some_iff.mp h
    have hsignals := Job.step_signals hlife
    obtain ⟨signal, rest, -, rfl⟩ := of_notify_life hlife
    dsimp only at hsignals
    simp only [left, hjob, Option.map_some, Option.getD_some, Job.left]
    omega

theorem left_closeSignal {job job' : Job V} (h : closeSignal job = some job') :
    job'.left < job.left := by
  unfold closeSignal at h
  split at h
  · cases h
  · rename_i unclosed hunclosed
    cases h
    simp only [Job.left, hunclosed]
    omega

/-- Every event spends some of what is left. -/
theorem spending_step : Spending (step (V := V) kind) (Sound kind) left := by
  intro s e t hstep _
  cases e with
  | publish report => exact left_native hstep fun _ _ h => Job.left_publish h
  | notify written => exact left_notify hstep
  | closeSignal => exact left_native hstep fun _ _ h => left_closeSignal h
  | finalize =>
    simp only [step] at hstep
    split at hstep
    · exact left_native hstep fun _ _ h => Job.left_finalize h
    · cases hstep
  | pipe opened =>
    simp only [step] at hstep
    split at hstep
    · rename_i hphase
      split at hstep
      · cases hstep
        simp [left, hphase, Phase.rank]
      · cases hstep
        simp [left, hphase, Phase.rank]
    · cases hstep
  | start task =>
    simp only [step] at hstep
    split at hstep
    · rename_i hphase
      cases hstep
      cases task with
      | none =>
        simp only [left, hphase, Phase.rank, Option.map_none, Option.getD_none]
        omega
      | some task =>
        have hspawned : (Job.spawned task.1 task.2 : Job V).left = 4 := rfl
        simp only [left, hphase, Phase.rank, Option.map_some, Option.getD_some, hspawned]
        omega
    · cases hstep
  | closeWrite =>
    simp only [step] at hstep
    split at hstep
    · rename_i hphase
      cases hstep
      cases hjob : s.job <;> simp [left, hphase, Phase.rank, hjob]
    · cases hstep
  | wake wake =>
    simp only [step] at hstep
    split at hstep
    · rename_i hphase
      split at hstep
      · cases hstep
        cases wake <;> simp [left, hphase, Phase.rank, Wake.phase]
      · cases hstep
    · cases hstep
  | take =>
    simp only [step] at hstep
    split at hstep
    · rename_i hphase
      obtain ⟨job, hjob, h⟩ := Option.bind_eq_some_iff.mp hstep
      obtain ⟨⟨reply, job'⟩, htake, rfl⟩ := Option.map_eq_some_iff.mp h
      simp [left, hphase, hjob, Phase.rank, Job.left_take htake]
    · cases hstep
  | cancel =>
    simp only [step] at hstep
    split at hstep
    · rename_i answer hphase
      obtain ⟨u, hu, rfl⟩ := Option.map_eq_some_iff.mp hstep
      obtain ⟨job, job', hjob, hcancel, rfl⟩ := of_native hu
      simp [left, hphase, hjob, Phase.rank, Job.left_cancel hcancel]
    · cases hstep
  | closeRead =>
    simp only [step] at hstep
    split at hstep
    · rename_i answer hphase
      cases hstep
      simp [left, hphase, Phase.rank]
    · cases hstep

/-- The call is over, every descriptor is closed, and the task is done and freed. -/
structure Quiet (s : Await V) : Prop where
  returned : ∃ answer, s.phase = .returned answer
  reported : ∀ job, s.job = some job → job.report ≠ none
  signals : ∀ job, s.job = some job → job.holdsSignal = false
  freed : ∀ job, s.job = some job → job.freed = true

/-- What the native side may do once nobody interrupts it. -/
theorem exists_native {job : Job V} (hs : job.Sound kind) (hjob : s.job = some job)
    (hopen : job.report = none ∨ job.holdsSignal = true) :
    ∃ e, ¬ e.Interrupts ∧ (s.step kind e).isSome = true := by
  cases hreport : job.report with
  | none =>
    refine ⟨.publish .panicked, id, ?_⟩
    simp [step, native, hjob, Job.publish, hreport, Report.Fits, Lifecycle.step]
  | some report =>
    have hholds : job.holdsSignal = true := by
      rcases hopen with hnone | hholds
      · rw [hreport] at hnone
        cases hnone
      · exact hholds
    have hsignal : job.life.task.signal = none := by
      apply hs.life.signal_iff.mpr
      intro abort hstate
      have hagrees := hs.life.agrees
      simp [Lifecycle.Agrees, hstate, hs.published, hreport] at hagrees
    cases hunsent : job.life.unsent with
    | cons signal rest =>
      refine ⟨.notify s.pipe.hasReader, id, ?_⟩
      simp [step, notify, hjob, Lifecycle.step, hunsent]
    | nil =>
      have hunclosed : job.unclosed ≠ 0 := by
        simpa [Job.holdsSignal, hsignal, hunsent] using hholds
      obtain ⟨unclosed, hunclosed⟩ := Nat.exists_eq_succ_of_ne_zero hunclosed
      refine ⟨.closeSignal, id, ?_⟩
      simp [step, native, hjob, closeSignal, hunclosed]

theorem Sound.exists_job (hs : s.Sound kind) (h : ¬ s.phase.Idle) : ∃ job, s.job = some job := by
  cases hjob : s.job with
  | none => exact absurd (hs.idle hjob).1 h
  | some job => exact ⟨job, rfl⟩

/-- Until everything is done, some event may happen that is no interruption. -/
theorem exists_step (hs : s.Sound kind) (h : ¬ s.Quiet) :
    ∃ e, ¬ e.Interrupts ∧ (s.step kind e).isSome = true := by
  cases hphase : s.phase with
  | entered => exact ⟨.pipe true, id, by simp [step, hphase]⟩
  | piped => exact ⟨.start none, id, by simp [step, hphase]⟩
  | started => exact ⟨.closeWrite, id, by simp [step, hphase]⟩
  | closing answer => exact ⟨.closeRead, id, by simp [step, hphase]⟩
  | signalled =>
    obtain ⟨job, hjob⟩ := hs.exists_job (by simp [hphase, Phase.Idle])
    exact ⟨.take, id, by simp [step, hphase, hjob, Job.take, Lifecycle.step]⟩
  | leaving answer =>
    obtain ⟨job, hjob⟩ := hs.exists_job (by simp [hphase, Phase.Idle])
    exact ⟨.cancel, id, by simp [step, hphase, native, hjob, Job.cancel, Lifecycle.step]⟩
  | waiting =>
    obtain ⟨job, hjob⟩ := hs.exists_job (by simp [hphase, Phase.Idle])
    by_cases hopen : job.report = none ∨ job.holdsSignal = true
    · exact exists_native (hs.jobs job hjob).1 hjob hopen
    · have hends := hs.ends
      rw [hphase] at hends
      simp only [Phase.ends, Prod.mk.injEq] at hends
      obtain ⟨-, hholds⟩ := not_or.mp hopen
      by_cases hunread : 0 < s.pipe.unread
      · exact ⟨.wake .byte, id, by simp [step, hphase, Wakes, hunread]⟩
      · have hwakes : s.Wakes .ended := by
          refine ⟨by omega, by simp [hends], ?_⟩
          intro job' hjob'
          cases hjob.symm.trans hjob'
          simpa using hholds
        exact ⟨.wake .ended, id, by simp [step, hphase, hwakes]⟩
  | returned answer =>
    cases hjob : s.job with
    | none => exact absurd ⟨⟨answer, hphase⟩, by simp [hjob], by simp [hjob], by simp [hjob]⟩ h
    | some job =>
      by_cases hopen : job.report = none ∨ job.holdsSignal = true
      · exact exists_native (hs.jobs job hjob).1 hjob hopen
      · cases hfreed : job.freed with
        | false =>
          refine ⟨.finalize, id, ?_⟩
          simp [step, hphase, native, hjob, Job.finalize, hfreed, Job.cancel, Lifecycle.step]
        | true =>
          obtain ⟨hreport, hholds⟩ := not_or.mp hopen
          refine absurd ⟨⟨answer, hphase⟩, ?_, ?_, ?_⟩ h
          · simpa [hjob] using hreport
          · simpa [hjob] using hholds
          · simpa [hjob] using hfreed

/-! ## The guarantees -/

/-- What holds of a call whatever has happened so far. -/
structure Guarantees (kind : AsyncResultKind) (s : Await V) : Prop where
  /-- A result is what the operation has reported, and it is handed out once. -/
  result : ∀ reply, s.phase.answer = some (.result reply) → ∃ job report, s.job = some job ∧
    job.report = some report ∧ reply = .ofReport kind report ∧
    job.life.handed = [.ofReport kind report]
  withheld : ∀ answer, s.phase.answer = some answer → (∀ reply, answer ≠ .result reply) →
    ∀ job, s.job = some job → job.life.handed = []
  /-- The pipe ends without a byte only if the byte could not be written. -/
  unsignalled : s.phase.answer = some .unsignalled → ∃ job, s.job = some job ∧ 0 < job.lost
  closed : ∀ answer, s.phase = .returned answer →
    answer = .noPipe ∧ s.pipe.opened = false ∨ s.pipe.readCloses = 1 ∧ s.pipe.writeCloses = 1
  claimed : ∀ reply job, s.phase = .returned (.result reply) → s.job = some job →
    job.life.task.state = .taken ∧ job.poisoned = false
  dropped : ∀ answer job, s.phase = .returned answer → (∀ reply, answer ≠ .result reply) →
    s.job = some job → job.life.task.state = .cancelled ∧ job.poisoned = true
  signalled_once : ∀ job, s.job = some job → job.life.fired ≤ 1
  /-- The call never waits for nothing. -/
  progress : ¬ s.Quiet → ∃ e, ¬ e.Interrupts ∧ (s.step kind e).isSome = true

theorem Sound.has_answer {answer : Answer V} {job : Job V} (hs : s.Sound kind)
    (hanswer : s.phase.answer = some answer) (hjob : s.job = some job) :
    answer.Has kind (job.life.handed = []) job := by
  have hallows := (hs.jobs job hjob).2
  cases hphase : s.phase with
  | leaving answer' =>
    rw [hphase] at hanswer hallows
    cases hanswer
    exact hallows.2.mono (fun _ h => h) Job.Pending.handed (Nat.le_refl _)
  | closing answer' =>
    rw [hphase] at hanswer hallows
    cases hanswer
    exact hallows.2.mono (fun _ h => h) Job.Dropped.handed (Nat.le_refl _)
  | returned answer' =>
    rw [hphase] at hanswer hallows
    cases hanswer
    exact hallows.2.mono (fun _ h => h) Job.Dropped.handed (Nat.le_refl _)
  | entered => simp [hphase, Phase.answer] at hanswer
  | piped => simp [hphase, Phase.answer] at hanswer
  | started => simp [hphase, Phase.answer] at hanswer
  | waiting => simp [hphase, Phase.answer] at hanswer
  | signalled => simp [hphase, Phase.answer] at hanswer

theorem Sound.exists_job_of_answer {answer : Answer V} (hs : s.Sound kind)
    (hanswer : s.phase.answer = some answer) (htask : answer.hasTask = true) :
    ∃ job, s.job = some job := by
  apply hs.exists_job
  intro hidle
  cases hphase : s.phase with
  | leaving answer' =>
    rw [hphase] at hidle
    exact hidle
  | closing answer' =>
    rw [hphase] at hanswer hidle
    cases hanswer
    rw [show answer = .refused from hidle] at htask
    cases htask
  | returned answer' =>
    rw [hphase] at hanswer hidle
    cases hanswer
    rw [show answer.hasTask = false from hidle] at htask
    cases htask
  | _ => simp [hphase, Phase.answer] at hanswer

theorem Sound.guarantees (hs : s.Sound kind) : s.Guarantees kind where
  result := by
    intro reply hanswer
    obtain ⟨job, hjob⟩ := hs.exists_job_of_answer hanswer rfl
    obtain ⟨report, hreport, hreply, hhanded⟩ := (hs.has_answer hanswer hjob).report
    exact ⟨job, report, hjob, hreport, hreply, hhanded⟩
  withheld := by
    intro answer hanswer hne job hjob
    exact (hs.has_answer hanswer hjob).of_ne hne
  unsignalled := by
    intro hanswer
    obtain ⟨job, hjob⟩ := hs.exists_job_of_answer hanswer rfl
    exact ⟨job, hjob, (hs.has_answer hanswer hjob).2⟩
  closed := by
    intro answer hphase
    have hends := hs.ends
    rw [hphase] at hends
    cases answer with
    | noPipe =>
      simp only [Phase.ends, Prod.mk.injEq] at hends
      exact .inl ⟨rfl, hends.1⟩
    | _ =>
      simp only [Phase.ends, Prod.mk.injEq] at hends
      exact .inr hends.2
  claimed := by
    intro reply job hphase hjob
    have hallows := (hs.jobs job hjob).2
    rw [hphase] at hallows
    exact ⟨hallows.2.state, hallows.2.poisoned⟩
  dropped := by
    intro answer job hphase hne hjob
    have hallows := (hs.jobs job hjob).2
    rw [hphase] at hallows
    have hdropped := hallows.2.of_ne hne
    exact ⟨hdropped.state, hdropped.poisoned⟩
  signalled_once := by
    intro job hjob
    have hone := (hs.jobs job hjob).1.life.one_signal
    omega
  progress := exists_step hs

end Await

/-- Whatever the order of the events, a call ends after at most eleven of them, hands out nothing
but what its operation has reported, and leaves neither a descriptor nor a task behind. -/
theorem await_protocol (kind : AsyncResultKind) {events : List (AwaitEvent V)} {s : Await V}
    (hrun : run (Await.step kind) {} events = some s) :
    s.Guarantees kind ∧ events.length ≤ 11 ∧ (Stuck (Await.step kind) s → s.Quiet) ∧
      ∃ rest t, run (Await.step kind) s rest = some t ∧ t.Quiet := by
  have hsound := Await.sound_step.run Await.sound_entered hrun
  have hlength := Await.spending_step.length_le Await.sound_step Await.sound_entered hrun
  have hquiet : ∀ t : Await V, t.Sound kind → Stuck (Await.step kind) t → t.Quiet := by
    intro t ht hstuck
    by_contra h
    obtain ⟨e, -, henabled⟩ := Await.exists_step ht h
    rw [hstuck e] at henabled
    cases henabled
  have hstart : ({} : Await V).left = 11 := rfl
  obtain ⟨rest, t, hrest, hstuck⟩ := Await.spending_step.exists_stuck Await.sound_step hsound
  refine ⟨hsound.guarantees, by omega, hquiet s hsound, rest, t, hrest, ?_⟩
  exact hquiet t (Await.sound_step.run hsound hrest) hstuck

/-- The supervisor publishes while the call still closes its end, and the reader is cancelled when
the byte is already there. -/
theorem await_protocol_cancelled :
    ∃ s : Await Nat, run (Await.step .buffer) {}
      [.pipe true, .start (some (0, ⟨4⟩)), .publish (.done 7), .closeWrite, .notify true,
        .wake .cancelled, .cancel, .closeRead] = some s ∧ s.Guarantees .buffer := by
  obtain ⟨s, hrun⟩ : ∃ s : Await Nat, run (Await.step .buffer) {}
      [.pipe true, .start (some (0, ⟨4⟩)), .publish (.done 7), .closeWrite, .notify true,
        .wake .cancelled, .cancel, .closeRead] = some s := ⟨_, rfl⟩
  exact ⟨s, hrun, (await_protocol .buffer hrun).1⟩

end OpendalMbt.NativePackage
