import OpendalMbt.NativePackage.AwaitTask

/-!
# The protocol of waiting

What holds of a call of `await_native_result` and of its task after any interleaving of the
caller, the supervisor, the signal and the collector. `Await.Sound` says which task goes with
which phase of the call, and how many bytes the pipe has.

* `Await.Sound.carry`: an event of the native side leaves the task as the call has it;
* `Await.sound_step`: every event keeps the invariant.
-/

namespace OpendalMbt.NativePackage

open Native Transition

variable {V : Type} {kind : AsyncResultKind}

/-! ## The invariant of a call -/

def Answer.hasTask : Answer V → Bool
  | .noPipe | .refused => false
  | _ => true

/-- The task that goes with an answer; `P` is what holds of one that is not handed out. -/
def Answer.Has (kind : AsyncResultKind) (P : Prop) (job : Job V) : Answer V → Prop
  | .result reply => job.Claimed kind reply
  | .unsignalled => P ∧ 0 < job.lost
  | _ => P

theorem Answer.Has.mono {P Q : Prop} {job job' : Job V} {answer : Answer V}
    (h : answer.Has kind P job) (hclaimed : ∀ reply, job.Claimed kind reply → job'.Claimed kind reply)
    (hP : P → Q) (hlost : job.lost ≤ job'.lost) : answer.Has kind Q job' := by
  cases answer with
  | result reply => exact hclaimed reply h
  | unsignalled => exact ⟨hP h.1, Nat.lt_of_lt_of_le h.2 hlost⟩
  | noPipe => exact hP h
  | refused => exact hP h
  | channelFailed => exact hP h
  | cancelled => exact hP h

theorem Answer.Has.of_ne {P : Prop} {job : Job V} {answer : Answer V} (h : answer.Has kind P job)
    (hne : ∀ reply, answer ≠ .result reply) : P := by
  cases answer with
  | result reply => exact absurd rfl (hne reply)
  | unsignalled => exact h.1
  | noPipe => exact h
  | refused => exact h
  | channelFailed => exact h
  | cancelled => exact h

namespace Phase

/-- Whether the pipe is open, and how often its reading and its writing end have been closed. -/
def ends : Phase V → Bool × Nat × Nat
  | .entered | .returned .noPipe => (false, 0, 0)
  | .piped | .started => (true, 0, 0)
  | .waiting | .signalled | .leaving _ | .closing _ => (true, 0, 1)
  | .returned _ => (true, 1, 1)

/-- The phases without a task. -/
def Idle : Phase V → Prop
  | .entered | .piped | .started => True
  | .waiting | .signalled | .leaving _ => False
  | .closing answer => answer = .refused
  | .returned answer => answer.hasTask = false

/-- What goes with a task, and with the bytes in the pipe. -/
def Allows (kind : AsyncResultKind) (unread : Nat) (job : Job V) : Phase V → Prop
  | .entered | .piped => False
  | .started | .waiting => job.Pending ∧ unread + job.lost = job.life.fired
  | .signalled => job.Pending ∧ 0 < job.life.fired
  | .leaving answer => answer.hasTask = true ∧ answer.Has kind job.Pending job
  | .closing answer | .returned answer => answer.hasTask = true ∧ answer.Has kind job.Dropped job

end Phase

namespace Await

variable {s t : Await V}

structure Sound (kind : AsyncResultKind) (s : Await V) : Prop where
  ends : (s.pipe.opened, s.pipe.readCloses, s.pipe.writeCloses) = s.phase.ends
  idle : s.job = none → s.phase.Idle ∧ s.pipe.unread = 0
  jobs : ∀ job, s.job = some job → job.Sound kind ∧ s.phase.Allows kind s.pipe.unread job

theorem sound_entered : ({} : Await V).Sound kind where
  ends := rfl
  idle := fun _ => ⟨trivial, rfl⟩
  jobs := by
    intro job hjob
    cases hjob

/-! ## The native side -/

/-- An event of the native side leaves the task as the call has it. -/
structure Carries (kind : AsyncResultKind) (pipe : Pipe) (job : Job V) (unread : Nat) (job' : Job V) :
    Prop where
  sound : job.Sound kind → job'.Sound kind
  pending : job.Pending → job'.Pending
  dropped : job.Dropped → job'.Dropped
  claimed : ∀ reply, job.Claimed kind reply → job'.Claimed kind reply
  lost : job.lost ≤ job'.lost
  fired : job.life.fired ≤ job'.life.fired
  balance : pipe.hasReader = true → pipe.unread + job.lost = job.life.fired →
    unread + job'.lost = job'.life.fired

theorem carries_publish {pipe : Pipe} {job job' : Job V} {report : Report V}
    (h : job.publish kind report = some job') : Carries kind pipe job pipe.unread job' := by
  obtain ⟨hnone, -, life, hlife, heq⟩ := Job.of_publish h
  have hfired : life.fired = job.life.fired := by
    simp only [Lifecycle.step, Option.some.injEq] at hlife
    rw [← hlife]
  refine ⟨Job.sound_publish h, Job.pending_publish h, ?_, ?_, ?_, ?_, ?_⟩
  · intro hd
    obtain ⟨htask, hhanded, hpoisoned⟩ := Job.final_publish h (.inr hd.state)
    exact ⟨hhanded.trans hd.handed, hpoisoned.trans hd.poisoned, htask ▸ hd.state⟩
  · intro reply hc
    obtain ⟨report, hreport, -⟩ := hc.report
    rw [hnone] at hreport
    cases hreport
  · rw [← heq]
  · rw [← heq, hfired]
  · intro _ hbalance
    rw [← heq, hfired]
    exact hbalance

theorem of_notify_life {l l' : Lifecycle V} (h : l.step .notify = some l') :
    ∃ signal rest, l.unsent = signal :: rest ∧
      { l with unsent := rest, fired := l.fired + 1 } = l' := by
  simp only [Lifecycle.step] at h
  split at h
  · cases h
  · rename_i signal rest hunsent
    exact ⟨signal, rest, hunsent, Option.some.inj h⟩

theorem carries_notify {pipe : Pipe} {job : Job V} {life : Lifecycle V} {written : Bool}
    (h : job.life.step .notify = some life) :
    Carries kind pipe job (pipe.unread + if written then 1 else 0)
      { job with
        life
        unclosed := job.unclosed + 1
        lost := job.lost + if written || !pipe.hasReader then 0 else 1 } := by
  obtain ⟨signal, rest, hunsent, rfl⟩ := of_notify_life h
  refine ⟨fun hs => ⟨Lifecycle.sound_step h hs.life, hs.published, hs.fits⟩, ?_, ?_, ?_,
    Nat.le_add_right _ _, Nat.le_succ _, ?_⟩
  · intro hp
    exact ⟨hp.handed, hp.poisoned, hp.not_taken, hp.not_cancelled⟩
  · intro hd
    exact ⟨hd.handed, hd.poisoned, hd.state⟩
  · intro reply hc
    exact ⟨hc.report, hc.poisoned, hc.state⟩
  · intro hreader hbalance
    cases written <;> simp only [hreader, Bool.not_true, Bool.or_false, Bool.false_eq_true, if_true,
      if_false] <;> omega

/-- Only the descriptors of the task change, or whether it is freed. -/
theorem carries_of_same {pipe : Pipe} {job job' : Job V} (hlife : job'.life = job.life)
    (hreport : job'.report = job.report) (hpoisoned : job'.poisoned = job.poisoned)
    (hlost : job'.lost = job.lost) : Carries kind pipe job pipe.unread job' where
  sound hs := ⟨hlife ▸ hs.life, by rw [hlife, hreport]; exact hs.published, hreport ▸ hs.fits⟩
  pending hp := ⟨hlife ▸ hp.handed, hpoisoned.trans hp.poisoned, hlife ▸ hp.not_taken,
    hlife ▸ hp.not_cancelled⟩
  dropped hd := ⟨hlife ▸ hd.handed, hpoisoned.trans hd.poisoned, hlife ▸ hd.state⟩
  claimed reply hc := ⟨by rw [hlife, hreport]; exact hc.report, hpoisoned.trans hc.poisoned,
    hlife ▸ hc.state⟩
  lost := Nat.le_of_eq hlost.symm
  fired := Nat.le_of_eq (congrArg Lifecycle.fired hlife.symm)
  balance _ hbalance := by rw [hlost, hlife, hbalance]

theorem carries_closeSignal {pipe : Pipe} {job job' : Job V} (h : closeSignal job = some job') :
    Carries kind pipe job pipe.unread job' := by
  unfold closeSignal at h
  split at h
  · cases h
  · cases h
    exact carries_of_same rfl rfl rfl rfl

theorem Sound.carry {job job' : Job V} {unread : Nat} (hs : s.Sound kind) (hjob : s.job = some job)
    (h : Carries kind s.pipe job unread job') :
    ({ s with pipe := { s.pipe with unread }, job := some job' } : Await V).Sound kind := by
  obtain ⟨hsound, hallows⟩ := hs.jobs job hjob
  refine ⟨hs.ends, by simp, ?_⟩
  intro job'' heq
  cases heq
  refine ⟨h.sound hsound, ?_⟩
  have hends := hs.ends
  cases hphase : s.phase with
  | entered => simp [hphase, Phase.Allows] at hallows
  | piped => simp [hphase, Phase.Allows] at hallows
  | started =>
    simp only [hphase, Phase.Allows, Phase.ends, Prod.mk.injEq] at hallows hends ⊢
    exact ⟨h.pending hallows.1, h.balance (by simp [Pipe.hasReader, hends]) hallows.2⟩
  | waiting =>
    simp only [hphase, Phase.Allows, Phase.ends, Prod.mk.injEq] at hallows hends ⊢
    exact ⟨h.pending hallows.1, h.balance (by simp [Pipe.hasReader, hends]) hallows.2⟩
  | signalled =>
    simp only [hphase, Phase.Allows] at hallows ⊢
    exact ⟨h.pending hallows.1, Nat.lt_of_lt_of_le hallows.2 h.fired⟩
  | leaving answer =>
    simp only [hphase, Phase.Allows] at hallows ⊢
    exact ⟨hallows.1, hallows.2.mono h.claimed h.pending h.lost⟩
  | closing answer =>
    simp only [hphase, Phase.Allows] at hallows ⊢
    exact ⟨hallows.1, hallows.2.mono h.claimed h.dropped h.lost⟩
  | returned answer =>
    simp only [hphase, Phase.Allows] at hallows ⊢
    exact ⟨hallows.1, hallows.2.mono h.claimed h.dropped h.lost⟩

theorem of_native {f : Job V → Option (Job V)} (h : s.native f = some t) :
    ∃ job job', s.job = some job ∧ f job = some job' ∧ t = { s with job := some job' } := by
  obtain ⟨job, hjob, h⟩ := Option.bind_eq_some_iff.mp h
  obtain ⟨job', hf, rfl⟩ := Option.map_eq_some_iff.mp h
  exact ⟨job, job', hjob, hf, rfl⟩

theorem Sound.native {f : Job V → Option (Job V)} (h : s.native f = some t) (hs : s.Sound kind)
    (hf : ∀ job job', f job = some job' → Carries kind s.pipe job s.pipe.unread job') :
    t.Sound kind := by
  obtain ⟨job, job', hjob, hjob', rfl⟩ := of_native h
  exact hs.carry hjob (hf job job' hjob')

theorem sound_notify {written : Bool} (h : s.notify written = some t) (hs : s.Sound kind) :
    t.Sound kind := by
  unfold notify at h
  split at h
  · cases h
  · obtain ⟨job, hjob, h⟩ := Option.bind_eq_some_iff.mp h
    obtain ⟨life, hlife, rfl⟩ := Option.map_eq_some_iff.mp h
    exact hs.carry hjob (carries_notify hlife)

/-! ## The caller -/

theorem sound_wake {wake : Wake} (hs : s.Sound kind) (hphase : s.phase = .waiting)
    (hwakes : s.Wakes wake) :
    ({ s with
      phase := wake.phase
      pipe := { s.pipe with unread := s.pipe.unread - if wake = .byte then 1 else 0 } } :
      Await V).Sound kind := by
  have hends := hs.ends
  rw [hphase] at hends
  refine ⟨?_, ?_, ?_⟩
  · cases wake <;> exact hends
  · intro hnone
    have hidle := (hs.idle hnone).1
    rw [hphase] at hidle
    cases hidle
  · intro job hjob
    obtain ⟨hsound, hallows⟩ := hs.jobs job hjob
    rw [hphase] at hallows
    obtain ⟨hpending, hbalance⟩ := hallows
    refine ⟨hsound, ?_⟩
    cases wake with
    | byte =>
      refine ⟨hpending, ?_⟩
      have hunread : 0 < s.pipe.unread := hwakes
      omega
    | ended =>
      -- every descriptor is closed, so that the signal was used and its byte was lost
      obtain ⟨hunread, -, hclosed⟩ := hwakes
      have hsignal := hclosed job hjob
      simp only [Job.holdsSignal, Bool.or_eq_false_iff, Option.isSome_eq_false_iff,
        Option.isNone_iff_eq_none, Bool.not_eq_false', List.isEmpty_iff] at hsignal
      have hone := hsound.life.one_signal
      rw [hsignal.1.1, hsignal.1.2] at hone
      simp only [List.length_nil, Option.toList_none] at hone
      exact ⟨rfl, hpending, by omega⟩
    | failed => exact ⟨rfl, hpending⟩
    | cancelled => exact ⟨rfl, hpending⟩

theorem sound_take (h : s.step kind .take = some t) (hs : s.Sound kind) : t.Sound kind := by
  simp only [step] at h
  split at h
  · rename_i hphase
    obtain ⟨job, hjob, h⟩ := Option.bind_eq_some_iff.mp h
    obtain ⟨⟨reply, job'⟩, htake, rfl⟩ := Option.map_eq_some_iff.mp h
    obtain ⟨hsound, hallows⟩ := hs.jobs job hjob
    have hends := hs.ends
    rw [hphase] at hallows hends
    obtain ⟨hclaimed, hsound'⟩ := Job.claimed_take htake hallows.1 hsound hallows.2
    refine ⟨hends, by simp, ?_⟩
    intro job'' heq
    cases heq
    exact ⟨hsound', rfl, hclaimed⟩
  · cases h

theorem dropped_cancel {job job' : Job V} {answer : Answer V} (h : job.cancel = some job')
    (hk : answer.Has kind job.Pending job) : answer.Has kind job'.Dropped job' := by
  have hlost : job'.lost = job.lost := by
    obtain ⟨life, -, rfl⟩ := Job.of_cancel h
    rfl
  refine hk.mono ?_ (Job.dropped_cancel h) (Nat.le_of_eq hlost.symm)
  intro reply hclaimed
  exact Job.final_cancel h (.inl hclaimed.state) ▸ hclaimed

theorem sound_cancel (h : s.step kind .cancel = some t) (hs : s.Sound kind) : t.Sound kind := by
  simp only [step] at h
  split at h
  · rename_i answer hphase
    obtain ⟨u, hu, rfl⟩ := Option.map_eq_some_iff.mp h
    obtain ⟨job, job', hjob, hcancel, rfl⟩ := of_native hu
    obtain ⟨hsound, hallows⟩ := hs.jobs job hjob
    have hends := hs.ends
    rw [hphase] at hallows hends
    refine ⟨hends, by simp, ?_⟩
    intro job'' heq
    cases heq
    exact ⟨Job.sound_cancel hcancel hsound, hallows.1, dropped_cancel hcancel hallows.2⟩
  · cases h

theorem sound_finalize (h : s.step kind .finalize = some t) (hs : s.Sound kind) :
    t.Sound kind := by
  simp only [step] at h
  split at h
  · rename_i answer hphase
    obtain ⟨job, job', hjob, hfinalize, rfl⟩ := of_native h
    obtain ⟨-, cancelled, hcancel, rfl⟩ := Job.of_finalize hfinalize
    obtain ⟨hsound, hallows⟩ := hs.jobs job hjob
    rw [hphase] at hallows
    -- the call has settled the task, so that the finalizer finds nothing to cancel
    have hfinal : job.life.task.state = .taken ∨ job.life.task.state = .cancelled := by
      obtain ⟨-, hsettled⟩ := hallows
      cases answer with
      | result reply => exact .inl hsettled.state
      | unsignalled => exact .inr hsettled.1.state
      | noPipe => exact .inr hsettled.state
      | refused => exact .inr hsettled.state
      | channelFailed => exact .inr hsettled.state
      | cancelled => exact .inr hsettled.state
    rw [Job.final_cancel hcancel hfinal]
    exact hs.carry hjob (carries_of_same rfl rfl rfl rfl)
  · cases h

theorem job_eq_none (hs : s.Sound kind) (h : ∀ unread (job : Job V), ¬ s.phase.Allows kind unread job) :
    s.job = none := by
  cases hjob : s.job with
  | none => rfl
  | some job => exact absurd (hs.jobs job hjob).2 (h _ job)

theorem sound_pipe {opened : Bool} (h : s.step kind (.pipe opened) = some t) (hs : s.Sound kind) :
    t.Sound kind := by
  simp only [step] at h
  split at h
  · rename_i hphase
    have hends := hs.ends
    have hnone := job_eq_none hs (by simp [hphase, Phase.Allows])
    have hunread := (hs.idle hnone).2
    rw [hphase] at hends
    split at h
    · cases h
      refine ⟨?_, fun _ => ⟨trivial, hunread⟩, by simp [hnone]⟩
      simp only [Phase.ends, Prod.mk.injEq] at hends ⊢
      exact ⟨trivial, hends.2⟩
    · cases h
      exact ⟨hends, fun _ => ⟨rfl, hunread⟩, by simp [hnone]⟩
  · cases h

theorem sound_start {task : Option (AbortHandle × CompletionSignal)}
    (h : s.step kind (.start task) = some t) (hs : s.Sound kind) : t.Sound kind := by
  simp only [step] at h
  split at h
  · rename_i hphase
    have hends := hs.ends
    have hunread := (hs.idle (job_eq_none hs (by simp [hphase, Phase.Allows]))).2
    rw [hphase] at hends
    cases h
    refine ⟨hends, fun _ => ⟨trivial, hunread⟩, ?_⟩
    intro job hjob
    obtain ⟨⟨abort, signal⟩, -, rfl⟩ := Option.map_eq_some_iff.mp hjob
    refine ⟨⟨Lifecycle.sound_spawned abort signal, rfl, by simp [Job.spawned]⟩, ?_, ?_⟩
    · exact ⟨rfl, rfl, by simp [Job.spawned, Lifecycle.spawned],
        by simp [Job.spawned, Lifecycle.spawned]⟩
    · simp [hunread, Job.spawned, Lifecycle.spawned]
  · cases h

theorem sound_closeWrite (h : s.step kind .closeWrite = some t) (hs : s.Sound kind) :
    t.Sound kind := by
  simp only [step] at h
  split at h
  · rename_i hphase
    have hends := hs.ends
    rw [hphase] at hends
    simp only [Phase.ends, Prod.mk.injEq] at hends
    cases h
    cases hjob : s.job with
    | none =>
      refine ⟨by simp [Phase.ends, hends], fun _ => ⟨rfl, (hs.idle hjob).2⟩, by simp⟩
    | some job =>
      obtain ⟨hsound, hallows⟩ := hs.jobs job hjob
      rw [hphase] at hallows
      refine ⟨by simp [Phase.ends, hends], by simp, ?_⟩
      intro job' hjob'
      cases hjob'
      exact ⟨hsound, hallows⟩
  · cases h

theorem sound_closeRead (h : s.step kind .closeRead = some t) (hs : s.Sound kind) :
    t.Sound kind := by
  simp only [step] at h
  split at h
  · rename_i answer hphase
    have hends := hs.ends
    have hidle := hs.idle
    have hjobs := hs.jobs
    rw [hphase] at hends hidle hjobs
    simp only [Phase.ends, Prod.mk.injEq] at hends
    cases h
    have hpiped : answer ≠ .noPipe := by
      rintro rfl
      cases hjob : s.job with
      | none => cases (hidle hjob).1
      | some job => cases (hjobs job hjob).2.1
    refine ⟨?_, ?_, hjobs⟩
    · cases answer with
      | noPipe => exact absurd rfl hpiped
      | _ => simp [Phase.ends, hends]
    · intro hnone
      obtain ⟨hanswer, hunread⟩ := hidle hnone
      cases show answer = .refused from hanswer
      exact ⟨rfl, hunread⟩
  · cases h

theorem sound_step : Preserves (step (V := V) kind) (Sound kind) := by
  intro s e t hstep hs
  cases e with
  | pipe opened => exact sound_pipe hstep hs
  | start task => exact sound_start hstep hs
  | closeWrite => exact sound_closeWrite hstep hs
  | wake wake =>
    simp only [step] at hstep
    split at hstep
    · rename_i hphase
      split at hstep
      · rename_i hwakes
        cases hstep
        exact sound_wake hs hphase hwakes
      · cases hstep
    · cases hstep
  | take => exact sound_take hstep hs
  | cancel => exact sound_cancel hstep hs
  | closeRead => exact sound_closeRead hstep hs
  | finalize => exact sound_finalize hstep hs
  | publish report => exact hs.native hstep fun _ _ h => carries_publish h
  | notify written => exact sound_notify hstep hs
  | closeSignal => exact hs.native hstep fun _ _ h => carries_closeSignal h

end Await

end OpendalMbt.NativePackage
