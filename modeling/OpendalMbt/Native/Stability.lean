import OpendalMbt.Native.Poisoning

/-!
# How long the end of a stream and an abort are stable

A start call on a stream at its end, or a repeated abort, spawns a task that has nothing to
do; the task carries the poison hook of every other task. `end_and_abort_stability` says
what follows. The state stays exactly as long as no step fails the core, and until then
every later call is accepted and its task answers the same. A task so started never hands
out anything else. Cancelling or freeing any of them while unclaimed fails the core, and
then every later call is refused.
-/

namespace OpendalMbt.Native

open Transition

variable {C V : Type} {cell : AsyncCell C V}

/-- The events after which the core has failed or was closed. -/
def AsyncEvent.Fails : AsyncEvent cell → Prop
  | .start _ _ => False
  | .op _ action => action.Fails
  | .close => True

/-- A task without a resource has its outcome from the start. -/
def AsyncOp.RepeatedSound (op : AsyncOp cell) : Prop :=
  op.lent = false → op.work = .returned (cell.repeated op.call) ∧
    ∀ o, op.task.state = .completed o → o = cell.repeated op.call

theorem AsyncOp.RepeatedSound.act {i : AbortHandle} {core core' : cell.State}
    {op op' : AsyncOp cell} {a : OpAction cell} {aborted : Option AbortHandle}
    (hs : op.RepeatedSound) (hact : op.act i core a = some (core', aborted, op')) :
    op'.RepeatedSound := by
  intro hlent'
  obtain ⟨hcall, hlent, hwork⟩ := act_work hact
  obtain ⟨hreturned, hdone⟩ := hs (hlent ▸ hlent')
  rw [hcall]
  refine ⟨?_, fun o ho => ?_⟩
  · rcases hwork with hwork | ⟨⟨cursor, hwork⟩, -⟩
    · exact hwork.trans hreturned
    · rw [hreturned] at hwork
      cases hwork
  · rcases act_task_state hact with hstate | ⟨abort, outcome, -, hjoined, hstate⟩ |
        ⟨-, -, -, hstate⟩ | ⟨outcome, -, hstate⟩ <;> rw [hstate] at ho
    · exact hdone o ho
    · -- the supervisor joined the outcome that was there from the start
      cases ho
      unfold joined at hjoined
      rw [hreturned] at hjoined
      split at hjoined <;> cases hjoined
      · rename_i hwork
        cases hwork
        rfl
      all_goals (rename_i hwork; cases hwork)
    · cases ho
    · cases ho

namespace AsyncSystem

variable {s t : AsyncSystem cell} {e : AsyncEvent cell}

theorem repeatedSound_step : Preserves (@step C V cell)
    fun s => ∀ (i : AbortHandle) op, s.ops[i]? = some op → op.RepeatedSound := by
  intro s e t hstep hs j op' hop'
  rcases ops_cases hstep hop' with ⟨op, b, hop, rfl⟩ | ⟨a, op, aborted, acted, b, -, hop, hact, rfl⟩ |
      ⟨call, signal, resource, -, -, -, rfl⟩
  · exact hs j op hop
  · have hrep := (hs j op hop).act hact
    exact hrep
  · intro hlent
    cases resource with
    | none => exact ⟨rfl, by simp [AsyncOp.started]⟩
    | some cursor => cases hlent

/-- A settled core changes only by failing. -/
theorem settled_step (hstep : s.step e = some t) (hview : cell.view s.core = .settled) :
    e.Fails ∧ cell.view t.core = .dead ∨ ¬ e.Fails ∧ t.core = s.core := by
  rcases step_cases hstep with ⟨rfl, call, signal, f, rfl, -⟩ | ⟨call, signal, rfl, -, -, rfl⟩ |
      ⟨call, signal, cursor, core, rfl, hstored, -, rfl⟩ |
      ⟨i, a, op, core, aborted, op', rfl, hop, hact, rfl⟩ | ⟨rfl, rfl⟩
  · exact .inr ⟨id, rfl⟩
  · exact .inr ⟨id, rfl⟩
  · rw [hview] at hstored
    cases hstored
  · rcases AsyncOp.act_cases hact with ⟨cursor, result, unwinds, rfl, -, rfl, -⟩ |
        ⟨⟨-, hfails, rfl⟩ | ⟨hfails, rfl⟩ | ⟨rfl, rfl⟩, -⟩
    · exact .inr ⟨id, cell.complete_else _ _ _ (by simp [hview])⟩
    · exact .inr ⟨hfails, rfl⟩
    · exact .inl ⟨hfails, cell.fail_dead _⟩
    · exact .inr ⟨id, (cell.install_else i (by simp [hview])).1⟩
  · exact .inl ⟨trivial, cell.close_dead _⟩

/-- The core gives its resource to nobody any more. -/
def Over (s : AsyncSystem cell) : Prop :=
  cell.view s.core = .settled ∨ cell.view s.core = .dead

theorem over_step (hstep : s.step e = some t) (hs : s.Over) : t.Over := by
  rcases hs with hview | hdead
  · rcases settled_step hstep hview with ⟨-, hdead⟩ | ⟨-, hcore⟩
    · exact .inr hdead
    · exact .inl (hcore ▸ hview)
  · exact .inr (dead_step hstep hdead).1

/-- Every task started on a core that is over has nothing to do. -/
theorem over_run {es : List (AsyncEvent cell)} (hrun : run step s es = some t)
    (hsound : ∀ (i : AbortHandle) op, s.ops[i]? = some op → op.RepeatedSound) (hs : s.Over)
    {i : AbortHandle} {op : AsyncOp cell} (hop : t.ops[i]? = some op)
    (hi : s.ops.length ≤ i) : op.lent = false ∧ op.RepeatedSound := by
  have hkeep : Preserves (@step C V cell) fun m => m.Over ∧
      (∀ (i : AbortHandle) op, m.ops[i]? = some op → op.RepeatedSound) ∧
      ∀ (i : AbortHandle) op, m.ops[i]? = some op → s.ops.length ≤ i → op.lent = false := by
    intro m e m' hstep hm
    obtain ⟨hover, hrep, hlent⟩ := hm
    refine ⟨over_step hstep hover, repeatedSound_step hstep hrep, fun j op' hop' hj => ?_⟩
    rcases ops_cases hstep hop' with ⟨op, b, hop, rfl⟩ |
        ⟨a, op, aborted, acted, b, -, hop, hact, rfl⟩ | ⟨call, signal, resource, -, -, hres, rfl⟩
    · exact hlent j op hop hj
    · exact (AsyncOp.act_work hact).2.1.trans (hlent j op hop hj)
    · cases resource with
      | none => rfl
      | some cursor =>
        obtain ⟨-, hnone⟩ := cell.take_else (s := m.core) call (by
          rcases hover with h | h <;> simp [h])
        exact absurd hres (hnone cursor)
  obtain ⟨-, hrep, hlent⟩ := hkeep.run ⟨hs, hsound, fun j op hop hj =>
    absurd (List.getElem?_eq_some_iff.mp hop).1 (Nat.not_lt.mpr hj)⟩ hrun
  exact ⟨hlent i op hop hi, hrep i op hop⟩

/-- A call with nothing left to do is answered by the task that it starts. -/
theorem repeated_answer {call : cell.Call} (hres : (cell.take call s.core).1 = .ok none)
    (signal : CompletionSignal) :
    ∃ t op, run step s [.start call signal, .op s.ops.length .spawn, .op s.ops.length .publish] =
      some t ∧ t.ops[s.ops.length]? = some op ∧
      (op.task.take (cell.kind call)).1 = .ok (cell.repeated call) := by
  have hview := cell.take_none call hres
  have hcore := (cell.take_else call (s := s.core) (by simp [hview])).1
  have hstart : s.step (.start call signal) =
      some { s with ops := s.ops ++ [.started call signal s.ops.length none] } := by
    rcases htake : cell.take call s.core with ⟨result, core⟩
    rw [htake] at hres hcore
    subst hres hcore
    simp [step, htake]
  have hop : (s.ops ++ [AsyncOp.started call signal s.ops.length none])[s.ops.length]? =
      some (.started call signal s.ops.length none) := by simp
  obtain ⟨m, b, hspawn, -, hm⟩ := step_act
    (s := { s with ops := s.ops ++ [.started call signal s.ops.length none] }) (a := .spawn) hop rfl
  obtain ⟨t, b', hpublish, -, ht⟩ := step_act (a := .publish) hm rfl
  refine ⟨t, _, run_cons_eq_some.mpr ⟨_, hstart, run_cons_eq_some.mpr ⟨m, hspawn,
    run_cons_eq_some.mpr ⟨t, hpublish, rfl⟩⟩⟩, ht, ?_⟩
  exact take_eq_ok.mpr ⟨rfl, cell.repeated_kind call hres⟩

/-- What a settled state in which `call` is answered promises about every later run. -/
structure Stability (s : AsyncSystem cell) (call : cell.Call) : Prop where
  stays_iff : ∀ es t, run step s es = some t →
    (Always step (fun m => m.core = s.core) s es ↔ ∀ e ∈ es, ¬ e.Fails)
  answered : ∀ es t, run step s es = some t → (∀ e ∈ es, ¬ e.Fails) → ∀ signal,
    ∃ u op, run step t [.start call signal, .op t.ops.length .spawn, .op t.ops.length .publish] =
      some u ∧ u.ops[t.ops.length]? = some op ∧
      (op.task.take (cell.kind call)).1 = .ok (cell.repeated call)
  /-- A task started later never hands out anything but the repeated outcome. -/
  repeated_only : ∀ es t, run step s es = some t → ∀ (i : AbortHandle) (op : AsyncOp cell) k o,
    s.ops.length ≤ i → t.ops[i]? = some op → (op.task.take k).1 = .ok o → o = cell.repeated op.call
  failed : ∀ es t, run step s es = some t → (∃ e ∈ es, e.Fails) →
    ∀ call, ∃ f, (cell.take call t.core).1 = .error f

theorem mem_fails_dead {es : List (AsyncEvent cell)} (hrun : run step s es = some t)
    (hs : s.Over) (he : e ∈ es) (hfails : e.Fails) : cell.view t.core = .dead := by
  obtain ⟨es₁, es₂, rfl⟩ := List.append_of_mem he
  obtain ⟨m, hm, hrest⟩ := run_append_eq_some.mp hrun
  obtain ⟨m', hm', hrest⟩ := run_cons_eq_some.mp hrest
  have hover : m.Over := Preserves.run (fun _ _ _ => over_step) hs hm
  have hdead : cell.view m'.core = .dead := by
    rcases hover with hview | hdead
    · exact ((settled_step hm' hview).resolve_right fun h => h.1 hfails).2
    · exact (dead_step hm' hdead).1
  exact (dead_run hrest hdead).1

theorem stability {cursor : C} {es : List (AsyncEvent cell)} {call : cell.Call}
    (hrun : run step (opened cell cursor) es = some s)
    (hres : (cell.take call s.core).1 = .ok none) : s.Stability call := by
  have hview := cell.take_none call hres
  have hsound : ∀ (i : AbortHandle) op, s.ops[i]? = some op → op.RepeatedSound :=
    repeatedSound_step.run (by simp [opened]) hrun
  have hstays : ∀ {es t}, run step s es = some t →
      (Always step (fun m => m.core = s.core) s es ↔ ∀ e ∈ es, ¬ e.Fails) := by
    intro es t hrun'
    constructor
    · intro halways e he hfails
      have hdead := mem_fails_dead hrun' (.inl hview) he hfails
      rw [halways.last hrun', hview] at hdead
      cases hdead
    · intro hfails es₁ es₂ m heq hm
      subst heq
      refine Along.invariant (C := fun _ e => ¬ e.Fails) (I := fun m => m.core = s.core) ?_
        (along_of_events fun e he => hfails e (List.mem_append_left _ he)) rfl hm
      intro m e m' hstep hne hcore
      have hcore' := (settled_step hstep (hcore ▸ hview)).resolve_left fun h => hne h.1
      exact hcore'.2.trans hcore
  refine ⟨fun es t hrun' => hstays hrun', fun es t hrun' hfails signal => ?_,
    fun es t hrun' i op k o hi hop ho => ?_, fun es t hrun' hfails call => ?_⟩
  · have hcore := ((hstays hrun').mpr hfails).last hrun'
    exact repeated_answer (by rw [hcore]; exact hres) signal
  · obtain ⟨hlent, hrep⟩ := over_run hrun' hsound (.inl hview) hop hi
    exact (hrep hlent).2 o (take_eq_ok.mp ho).1
  · obtain ⟨e, he, hfails⟩ := hfails
    exact take_refused call (.inr (mem_fails_dead hrun' (.inl hview) he hfails))

end AsyncSystem

open AsyncSystem

end OpendalMbt.Native
