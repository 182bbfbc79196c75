import OpendalMbt.Native.Poisoning

/-!
# Gaps in an async read stream

A next operation gives the cursor back before its task is claimed, so a second operation
may have produced the following chunk when the first task is cancelled; the second task
still hands its chunk out, and the first chunk is lost.

`no_gap` says when this does not happen. Along every run that cancels an unclaimed task
only when no later operation can still hand out a chunk, and starts nothing on the cursor
while such a cancel is between its two halves, a chunk is handed out only if every earlier
chunk was handed out or can still be taken.
-/

namespace OpendalMbt.Native

open Transition

variable {C V : Type}

section Tasks

variable {cell : AsyncCell C V}

/-- The future is gone without an outcome. -/
def Work.Gone : Work C V → Prop
  | .abandoned _ | .unwound => True
  | .holding _ | .returned _ => False

/-- A completed task carries the outcome of its worker, or a failure of its supervisor. -/
structure TaskSound (op : AsyncOp cell) : Prop where
  completed : ∀ o, op.task.state = .completed o →
    op.work = .returned o ∨ op.work.Gone ∧ o.status ≠ .ok
  failed : op.supervisor = .failed → op.work.Gone
  published : op.supervisor = .published → ∀ abort, op.task.state ≠ .running abort
  holding : ∀ cursor, op.work = .holding cursor → op.supervisor = .joining

theorem AsyncOp.joined_outcome {op : AsyncOp cell} {o : AsyncOutcome V} (h : op.joined = some o) :
    op.work = .returned o ∨ op.work.Gone ∧ o.status ≠ .ok := by
  unfold AsyncOp.joined at h
  split at h <;> cases h
  · exact .inl ‹_›
  · rename_i hwork
    exact .inr ⟨by rw [hwork]; trivial, by simp [AsyncOutcome.failure, resourceClosed, bindingError]⟩
  · rename_i hwork
    exact .inr ⟨by rw [hwork]; trivial, by simp [AsyncOutcome.panic]⟩
  · rename_i hwork
    exact .inr ⟨by rw [hwork]; trivial, by simp [AsyncOutcome.panic]⟩

theorem TaskSound.act {i : AbortHandle} {core core' : cell.State} {op op' : AsyncOp cell}
    {a : OpAction cell} {aborted : Option AbortHandle} (hs : TaskSound op)
    (hact : op.act i core a = some (core', aborted, op')) : TaskSound op' := by
  obtain ⟨hcompleted, hfailed, hpublished, hholding⟩ := hs
  obtain ⟨-, -, hwork | ⟨⟨cursor, hwork⟩, htask, hsup, -⟩⟩ := AsyncOp.act_work hact
  · have hkeep : (∀ o, op'.task.state = .completed o → op.task.state = .completed o) →
        (∀ abort, op'.task.state = .running abort → op.task.state = .running abort) →
        op'.supervisor = op.supervisor → TaskSound op' := by
      intro hdone hrun hsup
      refine ⟨fun o ho => ?_, ?_, fun hpub abort h => ?_, ?_⟩
      · rw [hwork]
        exact hcompleted o (hdone o ho)
      · rwa [hwork, hsup]
      · exact hpublished (hsup ▸ hpub) abort (hrun abort h)
      · rwa [hwork, hsup]
    rcases AsyncOp.act_task hact with ⟨htask, hsup, -⟩ |
        ⟨htask, -, ⟨hsup, hgone, -⟩ | ⟨hsup, -, -⟩⟩ | ⟨outcome, hjoined, htask, hsup, -⟩ |
        ⟨-, htask, hsup, -⟩ | ⟨expected, htask, hsup, -⟩
    · exact hkeep (by simp [htask]) (by simp [htask]) hsup
    · have hgone' : op'.work.Gone := by
        rw [hwork]
        rcases hgone with h | h <;> rw [h] <;> trivial
      refine ⟨?_, fun _ => hgone', by simp [hsup], fun cursor h => ?_⟩
      · rwa [htask, hwork]
      · rw [h] at hgone'
        exact hgone'.elim
    · exact hkeep (by simp [htask]) (by simp [htask]) hsup
    · have hfinished := AsyncOp.joined_outcome hjoined
      have hholding' : ∀ cursor, op'.work ≠ .holding cursor := by
        intro cursor h
        rw [hwork] at h
        rcases hfinished with h' | ⟨h', -⟩ <;> rw [h] at h' <;> cases h'
      by_cases hrun : ∃ abort, op.task.state = .running abort
      · obtain ⟨abort, hrun⟩ := hrun
        rw [publish_running hrun] at htask
        refine ⟨fun o ho => ?_, by simp [hsup], by simp [htask],
          fun cursor h => absurd h (hholding' cursor)⟩
        rw [htask] at ho
        cases ho
        rwa [hwork]
      · rw [publish_settled fun abort h => hrun ⟨abort, h⟩] at htask
        refine ⟨?_, by simp [hsup], fun _ abort h => hrun ⟨abort, by rwa [htask] at h⟩,
          fun cursor h => absurd h (hholding' cursor)⟩
        rwa [htask, hwork]
    · by_cases hclaimed : op.task.state = .taken ∨ op.task.state = .cancelled
      · rw [cancel_claimed hclaimed] at htask
        exact hkeep (by simp [htask]) (by simp [htask]) hsup
      · obtain ⟨htaken, hcancelled⟩ := not_or.mp hclaimed
        rw [(cancel_unclaimed htaken hcancelled).1] at htask
        exact hkeep (by simp [htask]) (by simp [htask]) hsup
    · cases hres : (op.task.take expected).1 with
      | ok o =>
        rw [take_ok hres] at htask
        exact hkeep (by simp [htask]) (by simp [htask]) hsup
      | error f =>
        rw [take_error hres] at htask
        exact hkeep (by simp [htask]) (by simp [htask]) hsup
  · refine ⟨fun o ho => ?_, fun hf => ?_, ?_, fun _ _ => hsup.trans (hholding cursor hwork)⟩
    · rw [htask] at ho
      rcases hcompleted o ho with h | ⟨h, -⟩ <;> rw [hwork] at h <;> cases h
    · have hgone := hfailed (hsup ▸ hf)
      rw [hwork] at hgone
      exact hgone.elim
    · rwa [htask, hsup]

theorem taskSound_step : Preserves (@AsyncSystem.step C V cell)
    fun s => ∀ (i : AbortHandle) op, s.ops[i]? = some op → TaskSound op := by
  intro s e t hstep hs j op' hop'
  rcases AsyncSystem.ops_cases hstep hop' with ⟨op, b, hop, rfl⟩ |
      ⟨a, op, aborted, acted, b, -, hop, hact, rfl⟩ | ⟨call, signal, resource, -, -, -, rfl⟩
  · obtain ⟨hcompleted, hfailed, hpublished, hholding⟩ := hs j op hop
    exact ⟨hcompleted, hfailed, hpublished, hholding⟩
  · obtain ⟨hcompleted, hfailed, hpublished, hholding⟩ := (hs j op hop).act hact
    exact ⟨hcompleted, hfailed, hpublished, hholding⟩
  · exact ⟨by simp [AsyncOp.started], by simp [AsyncOp.started], by simp [AsyncOp.started],
      fun _ _ => rfl⟩

/-! ## Chunks -/

def chunkOutcome (buffer : V) : AsyncOutcome V := .success .buffer (.buffer buffer)

/-- The worker of the operation produced a chunk. -/
def AsyncOp.Produced (op : AsyncOp cell) : Prop :=
  ∃ buffer, op.work = .returned (chunkOutcome buffer)

def AsyncOp.HandedOut (op : AsyncOp cell) : Prop := op.task.state = .taken

/-- The chunk is in the task, or its supervisor has yet to publish it there. -/
def AsyncOp.Claimable (op : AsyncOp cell) : Prop :=
  ∃ buffer, op.work = .returned (chunkOutcome buffer) ∧
    (op.task.state = .completed (chunkOutcome buffer) ∨
      (∃ abort, op.task.state = .running abort) ∧ op.supervisor = .joining)

/-- The task may still hand out a chunk: it is unclaimed, and its worker has produced one or
still has the cursor. -/
def AsyncOp.Deliverable (op : AsyncOp cell) : Prop :=
  op.task.state ≠ .taken ∧ op.task.state ≠ .cancelled ∧
    ((∃ cursor, op.work = .holding cursor) ∨ op.Produced)

/-- An operation that can hand out a chunk could before. -/
theorem AsyncOp.Deliverable.of_act {i : AbortHandle} {core core' : cell.State}
    {op op' : AsyncOp cell} {a : OpAction cell} {aborted : Option AbortHandle}
    (hact : op.act i core a = some (core', aborted, op')) (h : op'.Deliverable) :
    op.Deliverable := by
  obtain ⟨htaken, hcancelled, hwork'⟩ := h
  have hold : (∃ cursor, op.work = .holding cursor) ∨ op.Produced := by
    obtain ⟨-, -, hwork | ⟨hwork, -⟩⟩ := act_work hact
    · rwa [Produced, hwork] at hwork'
    · exact .inl hwork
  rcases act_task_state hact with hstate | ⟨abort, outcome, hrun, -, -⟩ |
      ⟨-, htaken', hcancelled', -⟩ | ⟨outcome, -, hstate⟩
  · rw [hstate] at htaken hcancelled
    exact ⟨htaken, hcancelled, hold⟩
  · exact ⟨by simp [hrun], by simp [hrun], hold⟩
  · exact ⟨htaken', hcancelled', hold⟩
  · exact absurd hstate htaken

/-- A task that hands out a chunk was deliverable. -/
theorem AsyncOp.Deliverable.of_take {op : AsyncOp cell} {k : AsyncResultKind} {buffer : V}
    (hs : TaskSound op) (h : (op.task.take k).1 = .ok (chunkOutcome buffer)) : op.Deliverable := by
  have hstate := (take_eq_ok.mp h).1
  refine ⟨by simp [hstate], by simp [hstate], .inr ⟨buffer, ?_⟩⟩
  rcases hs.completed _ hstate with hwork | ⟨-, hne⟩
  · exact hwork
  · exact absurd rfl hne

/-- A produced chunk is handed out, can still be taken, or was cancelled. -/
theorem TaskSound.produced {op : AsyncOp cell} (hs : TaskSound op) (h : op.Produced) :
    op.HandedOut ∨ op.Claimable ∨ op.task.state = .cancelled := by
  obtain ⟨buffer, hwork⟩ := h
  cases hstate : op.task.state with
  | taken => exact .inl hstate
  | cancelled => exact .inr (.inr rfl)
  | completed o =>
    refine .inr (.inl ⟨buffer, hwork, .inl ?_⟩)
    rcases hs.completed o hstate with h | ⟨h, -⟩ <;> rw [hwork] at h <;> cases h
    exact hstate
  | running abort =>
    refine .inr (.inl ⟨buffer, hwork, .inr ⟨⟨abort, hstate⟩, ?_⟩⟩)
    cases hsup : op.supervisor with
    | joining => rfl
    | published => exact absurd hstate (hs.published hsup abort)
    | failed =>
      have hgone := hs.failed hsup
      rw [hwork] at hgone
      cases hgone

end Tasks

/-! ## Runs -/

namespace AsyncSystem

variable {s t : AsyncSystem (readStreamCell C V)} {e : AsyncEvent (readStreamCell C V)}

/-- Every chunk produced before operation `i` was handed out or can still be taken. -/
def NoGap (s : AsyncSystem (readStreamCell C V)) (i : AbortHandle) : Prop :=
  ∀ (j : AbortHandle) (op : AsyncOp (readStreamCell C V)), j < i → s.ops[j]? = some op →
    op.Produced → op.HandedOut ∨ op.Claimable

/-- No take that hands out a chunk leaves a gap before it. -/
def GapFree (s : AsyncSystem (readStreamCell C V)) : Prop :=
  ∀ (i : AbortHandle) (op : AsyncOp (readStreamCell C V)) k buffer, s.ops[i]? = some op →
    op.starter = .returned → (op.task.take k).1 = .ok (chunkOutcome buffer) → s.NoGap i

/-- An unclaimed task is cancelled only when no later operation can hand out a chunk, and the
cursor is not lent while a cancel has still to fail the core. -/
def CancelsLast (s : AsyncSystem (readStreamCell C V)) : AsyncEvent (readStreamCell C V) → Prop
  | .op i .cancel => ∀ op, s.ops[i]? = some op →
    op.task.state ≠ .taken → op.task.state ≠ .cancelled →
    ∀ (j : AbortHandle) (op' : AsyncOp (readStreamCell C V)), i < j → s.ops[j]? = some op' →
      ¬ op'.Deliverable
  | .start _ _ => (∃ cursor, (readStreamCell C V).view s.core = .stored cursor) →
    ∀ (i : AbortHandle) (op : AsyncOp (readStreamCell C V)), s.ops[i]? = some op →
      op.canceller ≠ .poisoning
  | _ => True

/-- Behind a cancelled task no operation can hand out a chunk. -/
structure LossSound (s : AsyncSystem (readStreamCell C V)) : Prop where
  tasks : ∀ (i : AbortHandle) op, s.ops[i]? = some op → TaskSound op
  cancels : ∀ (i : AbortHandle) op, s.ops[i]? = some op → CancelSound s.core op
  last : ∀ (i j : AbortHandle) (op op' : AsyncOp (readStreamCell C V)), i < j →
    s.ops[i]? = some op → op.task.state = .cancelled → s.ops[j]? = some op' → ¬ op'.Deliverable

theorem lossSound_opened (cursor : C) : (opened (readStreamCell C V) cursor).LossSound where
  tasks := by simp [opened]
  cancels := by simp [opened]
  last := by simp [opened]

/-- An operation that can hand out a chunk could before, or has just been lent the cursor. -/
theorem deliverable_step (hstep : s.step e = some t) {j : AbortHandle}
    {op' : AsyncOp (readStreamCell C V)} (hop' : t.ops[j]? = some op') (hdel : op'.Deliverable) :
    (∃ op, s.ops[j]? = some op ∧ op.Deliverable) ∨
    (∃ call signal, e = .start call signal) ∧ j = s.ops.length ∧
      ∃ cursor, (readStreamCell C V).view s.core = .stored cursor := by
  rcases ops_cases hstep hop' with ⟨op, b, hop, rfl⟩ | ⟨a, op, aborted, acted, b, -, hop, hact, rfl⟩ |
      ⟨call, signal, resource, he, hj, hres, rfl⟩
  · exact .inl ⟨op, hop, hdel⟩
  · exact .inl ⟨op, hop, AsyncOp.Deliverable.of_act hact hdel⟩
  · refine .inr ⟨⟨call, signal, he⟩, hj, ?_⟩
    cases resource with
    | none =>
      obtain ⟨-, -, ⟨cursor, h⟩ | ⟨buffer, h⟩⟩ := hdel
      · cases h
      · cases h
    | some cursor =>
      by_contra hstored
      exact ((readStreamCell C V).take_else call fun c hc => hstored ⟨c, hc⟩).2 cursor hres

theorem lossSound_step (hstep : s.step e = some t) (hC : s.CancelsLast e) (hs : s.LossSound) :
    t.LossSound := by
  refine ⟨taskSound_step hstep hs.tasks, cancelSound_step hstep hs.cancels, ?_⟩
  intro i j op₁ op₂ hij hi hcancelled hj hdel
  have hold : ∀ op, s.ops[i]? = some op → op.task.state ≠ .cancelled →
      ∃ a acted aborted b, e = .op i a ∧ op.act i s.core a = some (t.core, aborted, acted) ∧
        op₁ = { acted with abortRequested := b } := by
    intro op hop hne
    rcases ops_cases hstep hi with ⟨op', b, hop', rfl⟩ |
        ⟨a, op', aborted, acted, b, he, hop', hact, rfl⟩ | ⟨call, signal, resource, -, hlen, -, -⟩
    · rw [hop] at hop'
      cases hop'
      exact absurd hcancelled hne
    · rw [hop] at hop'
      cases hop'
      exact ⟨a, acted, aborted, b, he, hact, rfl⟩
    · have hlt := (List.getElem?_eq_some_iff.mp hop).1
      exact absurd hlen (Nat.ne_of_lt hlt)
  rcases deliverable_step hstep hj hdel with ⟨op', hop', hdel'⟩ |
      ⟨⟨call, signal, rfl⟩, hlen, hstored⟩
  · have hlt : i < s.ops.length := Nat.lt_trans hij (List.getElem?_eq_some_iff.mp hop').1
    have hop : s.ops[i]? = some s.ops[i] := List.getElem?_eq_getElem hlt
    by_cases hc : s.ops[i].task.state = .cancelled
    · exact hs.last i j _ _ hij hop hc hop' hdel'
    · obtain ⟨a, acted, aborted, b, rfl, hact, rfl⟩ := hold _ hop hc
      rcases AsyncOp.act_task_state hact with hstate | ⟨abort, outcome, -, -, hstate⟩ |
          ⟨rfl, htaken, -, -⟩ | ⟨outcome, -, hstate⟩
      · exact hc (hstate ▸ hcancelled)
      · rw [show acted.task.state = _ from hstate] at hcancelled
        cases hcancelled
      · exact hC _ hop htaken hc j op' hij hop' hdel'
      · rw [show acted.task.state = _ from hstate] at hcancelled
        cases hcancelled
  · -- the new operation was lent the cursor, so no cancel is between its halves
    have hlt : i < s.ops.length := hlen ▸ hij
    have hop : s.ops[i]? = some s.ops[i] := List.getElem?_eq_getElem hlt
    by_cases hc : s.ops[i].task.state = .cancelled
    · have hpoisoning := hC hstored i _ hop
      obtain ⟨hiff, hdone⟩ := hs.cancels i _ hop
      cases hcanceller : s.ops[i].canceller with
      | idle => exact hiff.mp hc hcanceller
      | poisoning => exact hpoisoning hcanceller
      | done =>
        obtain ⟨cursor, hstored⟩ := hstored
        rw [hdone hcanceller] at hstored
        cases hstored
    · obtain ⟨a, acted, aborted, b, he, -⟩ := hold _ hop hc
      cases he

theorem LossSound.gapFree (hs : s.LossSound) : s.GapFree := by
  intro i op k buffer hop _ htake j op' hji hop' hproduced
  have hdel := AsyncOp.Deliverable.of_take (hs.tasks i op hop) htake
  rcases (hs.tasks j op' hop').produced hproduced with h | h | hcancelled
  · exact .inl h
  · exact .inr h
  · exact absurd hdel (hs.last j i op' op hji hop' hcancelled hop)

end AsyncSystem

open AsyncSystem

/-- Along a run that cancels in order there is never a gap, and no chunk of an operation
started after a cancelled one is handed out. -/
theorem no_gap {cursor : C} {es : List (AsyncEvent (readStreamCell C V))}
    {s : AsyncSystem (readStreamCell C V)}
    (hrun : run step (opened (readStreamCell C V) cursor) es = some s)
    (hC : Along step CancelsLast (opened (readStreamCell C V) cursor) es) :
    Always step GapFree (opened (readStreamCell C V) cursor) es ∧
      ∀ (i j : AbortHandle) (op op' : AsyncOp (readStreamCell C V)) k buffer, i < j →
        s.ops[i]? = some op → op.task.state = .cancelled → s.ops[j]? = some op' →
        (op'.task.take k).1 ≠ .ok (chunkOutcome buffer) := by
  have hsound : ∀ {es s}, run step (opened (readStreamCell C V) cursor) es = some s →
      Along step CancelsLast (opened (readStreamCell C V) cursor) es → s.LossSound :=
    fun hrun hC => hC.invariant (fun _ _ _ hstep hC hs => lossSound_step hstep hC hs)
      (lossSound_opened cursor) hrun
  constructor
  · intro es₁ es₂ m heq hm
    rw [heq] at hC
    exact (hsound hm (along_append.mp hC).1).gapFree
  · intro i j op op' k buffer hij hop hcancelled hop' htake
    have hs := hsound hrun hC
    exact hs.last i j op op' hij hop hcancelled hop'
      (AsyncOp.Deliverable.of_take (hs.tasks j op' hop') htake)

end OpendalMbt.Native
