import OpendalMbt.Native.AsyncCustody

/-!
# Poisoning of an async core

Cancelling an unclaimed task fails the core behind it, and closing does the same. A dead
core stays dead over every later run (`dead_run`): starts are refused, no operation is
added, and a worker that completes late restores nothing. `CancelSound` links a cancelled
task to the poisoning that its cancel call still owes or has done.
-/

namespace OpendalMbt.Native

open Transition

variable {C V : Type} {cell : AsyncCell C V}

namespace AsyncSystem

variable {s t : AsyncSystem cell} {e : AsyncEvent cell}

theorem dead_step (hstep : s.step e = some t) (hdead : cell.view s.core = .dead) :
    cell.view t.core = .dead ∧ t.ops.length = s.ops.length := by
  rcases step_cases hstep with ⟨rfl, -⟩ | ⟨call, signal, -, -, hview, rfl⟩ |
      ⟨call, signal, cursor, core, -, hview, -, rfl⟩ |
      ⟨i, a, op, core, aborted, op', -, hop, hact, rfl⟩ | ⟨-, rfl⟩
  · exact ⟨hdead, rfl⟩
  · rw [hdead] at hview
    cases hview
  · rw [hdead] at hview
    cases hview
  · refine ⟨?_, by simp⟩
    rcases AsyncOp.act_cases hact with ⟨cursor, result, -, -, -, rfl, -⟩ | ⟨⟨-, -, rfl⟩ | ⟨-, rfl⟩ | ⟨-, rfl⟩, -⟩
    · rwa [cell.complete_else _ _ _ (by simp [hdead])]
    · exact hdead
    · exact cell.fail_dead _
    · rwa [(cell.install_else i (by simp [hdead])).1]
  · exact ⟨cell.close_dead _, by simp⟩

theorem dead_run {es : List (AsyncEvent cell)} (hrun : run step s es = some t)
    (hdead : cell.view s.core = .dead) :
    cell.view t.core = .dead ∧ t.ops.length = s.ops.length := by
  have hkeep : Preserves (@step C V cell)
      fun m => cell.view m.core = .dead ∧ m.ops.length = s.ops.length := by
    intro m e m' hstep hm
    obtain ⟨hdead', hlen⟩ := dead_step hstep hm.1
    exact ⟨hdead', hlen.trans hm.2⟩
  exact hkeep.run ⟨hdead, rfl⟩ hrun

/-- Exactly the cancelled tasks have been or are being poisoned, and a poisoned one leaves a
dead core. -/
structure CancelSound (core : cell.State) (op : AsyncOp cell) : Prop where
  cancelled_iff : op.task.state = .cancelled ↔ op.canceller ≠ .idle
  done : op.canceller = .done → cell.view core = .dead

theorem CancelSound.act {core core' : cell.State} {op op' : AsyncOp cell} {i : AbortHandle}
    {a : OpAction cell} {aborted : Option AbortHandle} (hs : CancelSound core op)
    (hact : op.act i core a = some (core', aborted, op'))
    (hdead : cell.view core = .dead → cell.view core' = .dead) : CancelSound core' op' := by
  obtain ⟨hiff, hdone⟩ := hs
  have hkeep : (op'.task.state = .cancelled ↔ op.task.state = .cancelled) →
      op'.canceller = op.canceller → CancelSound core' op' := by
    intro hstate hcanceller
    exact ⟨by rw [hstate, hcanceller]; exact hiff, by rw [hcanceller]; exact fun h => hdead (hdone h)⟩
  rcases AsyncOp.act_task hact with ⟨htask, -, hcanceller⟩ |
      ⟨htask, hfails, ⟨-, -, hcanceller⟩ | ⟨-, hpoisoning, hcanceller⟩⟩ |
      ⟨outcome, -, htask, -, hcanceller⟩ | ⟨-, htask, -, hcanceller⟩ |
      ⟨expected, htask, -, hcanceller⟩
  · exact hkeep (by rw [htask]) hcanceller
  · exact hkeep (by rw [htask]) hcanceller
  · have hcancelled : op.task.state = .cancelled := hiff.mpr (by simp [hpoisoning])
    exact ⟨by simp [htask, hcanceller, hcancelled], fun _ => AsyncOp.act_fails hact hfails⟩
  · exact hkeep (by rw [htask]; exact publish_cancelled_iff) hcanceller
  · by_cases hclaimed : op.task.state = .taken ∨ op.task.state = .cancelled
    · rw [cancel_claimed hclaimed] at htask hcanceller
      exact hkeep (by rw [htask]) (by simpa using hcanceller)
    · obtain ⟨htaken, hcancelled⟩ := not_or.mp hclaimed
      obtain ⟨hcell, hpoison, -⟩ := cancel_unclaimed htaken hcancelled
      rw [hpoison, if_pos rfl] at hcanceller
      rw [hcell] at htask
      exact ⟨by simp [htask, hcanceller], by simp [hcanceller]⟩
  · exact hkeep (by rw [htask]; exact take_cancelled_iff) hcanceller

theorem cancelSound_step : Preserves (@step C V cell)
    fun s => ∀ (i : AbortHandle) op, s.ops[i]? = some op → CancelSound s.core op := by
  intro s e t hstep hs j op' hop'
  have hdead : cell.view s.core = .dead → cell.view t.core = .dead := fun h =>
    (dead_step hstep h).1
  rcases ops_cases hstep hop' with ⟨op, b, hop, rfl⟩ | ⟨a, op, aborted, acted, b, -, hop, hact, rfl⟩ |
      ⟨call, signal, resource, -, -, -, rfl⟩
  · obtain ⟨hiff, hdone⟩ := hs j op hop
    exact ⟨hiff, fun h => hdead (hdone h)⟩
  · obtain ⟨hiff, hdone⟩ := (hs j op hop).act hact hdead
    exact ⟨hiff, hdone⟩
  · exact ⟨by simp [AsyncOp.started], by simp [AsyncOp.started]⟩

/-- The guarantees about ownership and poisoning in one reached state. -/
structure Poisoning (s : AsyncSystem cell) : Prop where
  one_owner : ∀ i j, s.TurnAt i → s.TurnAt j → i = j
  stored_unowned : ∀ cursor, cell.view s.core = .stored cursor → ∀ i, ¬ s.TurnAt i
  overlapping_start : ∀ a, cell.view s.core = .busy a → ∀ call signal,
    (∃ f, (cell.take call s.core).1 = .error f) ∧ s.step (.start call signal) = some s
  /-- Cancelling an unclaimed task goes on to poison the core. -/
  cancel_unclaimed : ∀ (i : AbortHandle) (op : AsyncOp cell), s.ops[i]? = some op → op.starter = .returned →
    op.task.state ≠ .taken → op.task.state ≠ .cancelled →
    ∃ t, ∃ op' : AsyncOp cell, s.step (.op i .cancel) = some t ∧ t.ops[i]? = some op' ∧
      op'.task.state = .cancelled ∧ op'.canceller = .poisoning
  /-- Once the cancel call of an unclaimed task has returned, the core is dead. -/
  cancelled_dead : ∀ (i : AbortHandle) (op : AsyncOp cell), s.ops[i]? = some op →
    op.task.state = .cancelled → op.canceller ≠ .poisoning → cell.view s.core = .dead
  poisoned_dead : ∀ i t, s.step (.op i .poison) = some t → cell.view t.core = .dead
  closed_dead : ∀ t, s.step .close = some t → cell.view t.core = .dead
  /-- A dead core lends nothing and is never restored. -/
  dead_forever : cell.view s.core = .dead → ∀ es t, run step s es = some t →
    cell.view t.core = .dead ∧ t.ops.length = s.ops.length ∧
      ∀ call, ∃ f, (cell.take call t.core).1 = .error f

theorem poisoning {cursor : C} {es : List (AsyncEvent cell)}
    (hrun : run step (opened cell cursor) es = some s) : s.Poisoning := by
  obtain ⟨c, hR⟩ := refines_custody hrun
  have hsound : ∀ (i : AbortHandle) op, s.ops[i]? = some op → CancelSound s.core op :=
    cancelSound_step.run (by simp [opened]) hrun
  refine {
    one_owner := fun i j => hR.one_turn, stored_unowned := fun c hc i => hR.stored hc,
    overlapping_start := ?_, cancel_unclaimed := ?_, cancelled_dead := ?_, poisoned_dead := ?_,
    closed_dead := ?_, dead_forever := ?_ }
  · intro a ha call signal
    obtain ⟨f, hf⟩ := take_refused call (.inl ⟨a, ha⟩)
    exact ⟨⟨f, hf⟩, step_start_refused hf signal⟩
  · intro i op hop hret htaken hcancelled
    obtain ⟨htask, hpoison, -⟩ := Native.cancel_unclaimed htaken hcancelled
    have hact : op.act i s.core .cancel = some (s.core, op.task.cancel.1.abort,
        { op with task := { state := .cancelled, signal := none }, canceller := .poisoning }) := by
      simp only [AsyncOp.act, AsyncOp.cancel, hret, hpoison, htask, if_true]
    obtain ⟨t, b, hstep, -, hget⟩ := step_act hop hact
    exact ⟨t, _, hstep, hget, rfl, rfl⟩
  · intro i op hop hcancelled hpoisoning
    obtain ⟨hiff, hdone⟩ := hsound i op hop
    apply hdone
    cases hcanceller : op.canceller with
    | idle => exact absurd hcanceller (hiff.mp hcancelled)
    | poisoning => exact absurd hcanceller hpoisoning
    | done => rfl
  · intro i t hstep
    simp only [step, Option.bind_eq_bind, Option.bind_eq_some_iff] at hstep
    obtain ⟨op, -, ⟨core, aborted, op'⟩, hact, heq⟩ := hstep
    cases heq
    obtain ⟨-, rfl, -⟩ := AsyncOp.poison_eq_some hact
    exact cell.fail_dead _
  · intro t hstep
    cases hstep
    exact cell.close_dead _
  · intro hdead es t hrun'
    obtain ⟨hdead', hlen⟩ := dead_run hrun' hdead
    exact ⟨hdead', hlen, fun call => take_refused call (.inr hdead')⟩

end AsyncSystem

open AsyncSystem

/-- Both cores are poisoned for good, whatever their operations do. -/
theorem async_poisoning {C V : Type} (cursor : C) :
    (∀ es s, run step (opened (readStreamCell C V) cursor) es = some s → s.Poisoning) ∧
      ∀ es s, run step (opened (writerCell C V) cursor) es = some s → s.Poisoning :=
  ⟨fun _ _ hrun => poisoning hrun, fun _ _ hrun => poisoning hrun⟩

end OpendalMbt.Native
