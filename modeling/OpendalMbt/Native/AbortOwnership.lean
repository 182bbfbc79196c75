import OpendalMbt.Native.AsyncCustody

/-!
# Whose abort handle the core holds

A start call installs its abort handle in a third step, when its worker may have given the
resource back and another call may have taken it: `install_abort` then puts the handle of a
finished operation over a turn that is not its own.

`abort_handle_ownership` says when this does not happen. The handle in a busy core is
always that of the operation in flight exactly when every installation over `Busy(None)` is
made by that operation, and then closing or failing the core aborts the operation whose
start call has returned.
-/

namespace OpendalMbt.Native

open Transition

variable {C V : Type} {cell : AsyncCell C V}

namespace AsyncSystem

variable {s t : AsyncSystem cell} {e : AsyncEvent cell} {i : AbortHandle}

/-- The abort handle in a busy core is that of the operation that has the resource. -/
def HandleOwned (s : AsyncSystem cell) : Prop :=
  ∀ h, cell.view s.core = .busy (some h) → s.TurnAt h

/-- An installation that finds `Busy(None)` is made by the operation that has the resource. -/
def InstallsOwn (s : AsyncSystem cell) (e : AsyncEvent cell) : Prop :=
  ∀ i, e = .op i .install → cell.view s.core = .busy none → s.TurnAt i

theorem turnAt_act {op op' : AsyncOp cell} (hop : s.ops[i]? = some op)
    (hsame : op'.HasTurn ↔ op.HasTurn) (core : cell.State) (aborted : Option AbortHandle)
    (j : AbortHandle) :
    TurnAt { core, ops := requestAbort aborted (s.ops.set i op') } j ↔ s.TurnAt j := by
  rw [turnAt_update hop]
  by_cases hj : j = i
  · simp [hj, hsame, TurnAt, hop]
  · rw [if_neg hj]

/-- One step keeps the handle owned exactly when it meets the condition. -/
theorem handleOwned_step (hstep : s.step e = some t) (hs : s.HandleOwned) :
    t.HandleOwned ↔ s.InstallsOwn e := by
  have hidle : (∀ a, cell.view t.core ≠ .busy a) → (∀ i, e ≠ .op i .install) →
      (t.HandleOwned ↔ s.InstallsOwn e) := fun hview he =>
    iff_of_true (fun h hbusy => absurd hbusy (hview _)) fun i hi => absurd hi (he i)
  rcases step_cases hstep with ⟨rfl, call, signal, f, rfl, -⟩ | ⟨call, signal, rfl, -, hview, rfl⟩ |
      ⟨call, signal, cursor, core, rfl, -, hview, rfl⟩ |
      ⟨i, a, op, core, aborted, op', rfl, hop, hact, rfl⟩ | ⟨rfl, rfl⟩
  · exact iff_of_true hs fun i he => by cases he
  · exact hidle (by simp [hview]) (by simp)
  · refine iff_of_true (fun h hbusy => ?_) fun i he => by cases he
    rw [show cell.view _ = _ from hview] at hbusy
    cases hbusy
  · rcases AsyncOp.act_cases hact with ⟨cursor, result, unwinds, rfl, -, rfl, -⟩ | ⟨hcore, hsame⟩
    · exact hidle (cell.complete_not_busy _ _ _ _) (by simp)
    · have hturn := fun j => turnAt_act hop hsame core aborted j
      rcases hcore with ⟨hne, -, rfl⟩ | ⟨hfails, rfl⟩ | ⟨rfl, rfl⟩
      · refine iff_of_true (fun h hbusy => (hturn h).mpr (hs h hbusy)) fun j he => ?_
        cases he
        exact absurd rfl hne
      · refine hidle (by simp [cell.fail_dead]) fun j he => ?_
        cases he
        exact hfails
      · by_cases hbusy : cell.view s.core = .busy none
        · have hview := (cell.install_busy i hbusy).2
          constructor
          · intro hown j he hbusy'
            cases he
            exact (hturn i).mp (hown i hview)
          · intro hinstall h hh
            rw [show cell.view _ = _ from hview] at hh
            cases hh
            exact (hturn i).mpr (hinstall i rfl hbusy)
        · -- the handle is kept out of the core
          have hkept := (cell.install_else i hbusy).1
          refine iff_of_true (fun h hh => (hturn h).mpr (hs h ?_)) fun j he hb => absurd hb hbusy
          rwa [show cell.view _ = cell.view s.core from congrArg cell.view hkept] at hh
  · exact hidle (by simp [cell.close_dead]) (by simp)

/-! ## What closing and failing abort -/

/-- While the core holds no handle, the start call of the operation in flight has not
returned: it has its installation before it. -/
structure InstallPending (core : cell.State) (op : AsyncOp cell) : Prop where
  lent : op.HasTurn → op.lent = true
  pending : cell.view core = .busy none → op.HasTurn → op.starter ≠ .returned

theorem InstallPending.act {core core' : cell.State} {op op' : AsyncOp cell} {a : OpAction cell}
    {aborted : Option AbortHandle} (hs : InstallPending core op)
    (hact : op.act i core a = some (core', aborted, op')) : InstallPending core' op' := by
  obtain ⟨hlent, hpending⟩ := hs
  cases a with
  | spawn =>
    obtain ⟨-, rfl, -, rfl⟩ := AsyncOp.spawn_eq_some hact
    refine ⟨hlent, fun _ hturn => ?_⟩
    have hop : op.lent = true := hlent hturn
    simp [hop]
  | install =>
    obtain ⟨-, rfl, -, rfl⟩ := AsyncOp.install_eq_some hact
    refine ⟨hlent, fun hbusy _ => ?_⟩
    by_cases hold : cell.view core = .busy none
    · rw [(cell.install_busy i hold).2] at hbusy
      cases hbusy
    · rw [(cell.install_else i hold).1] at hbusy
      exact absurd hbusy hold
  | complete result unwinds =>
    obtain ⟨cursor, -, -, rfl, -, rfl | ⟨rfl, -⟩⟩ := AsyncOp.complete_eq_some hact
    · exact ⟨False.elim, fun _ hturn => hturn.elim⟩
    · exact ⟨False.elim, fun _ hturn => hturn.elim⟩
  | unwind =>
    obtain ⟨cursor, hwork, -, rfl, -, rfl⟩ := AsyncOp.unwind_eq_some hact
    have hturn : op.HasTurn := by simp [AsyncOp.HasTurn, hwork]
    exact ⟨fun _ => hlent hturn, fun hbusy _ => hpending hbusy hturn⟩
  | drop =>
    obtain ⟨cursor, hwork, -, rfl, -, rfl⟩ := AsyncOp.drop_eq_some hact
    have hturn : op.HasTurn := by simp [AsyncOp.HasTurn, hwork]
    exact ⟨fun _ => hlent hturn, fun hbusy _ => hpending hbusy hturn⟩
  | superviseFail =>
    obtain ⟨-, -, rfl, -, rfl⟩ := AsyncOp.superviseFail_eq_some hact
    exact ⟨hlent, fun hbusy => by simp [cell.fail_dead] at hbusy⟩
  | publish =>
    obtain ⟨outcome, -, -, rfl, -, rfl⟩ := AsyncOp.publish_eq_some hact
    exact ⟨hlent, hpending⟩
  | cancel =>
    obtain ⟨-, rfl, -, rfl⟩ := AsyncOp.cancel_eq_some hact
    exact ⟨hlent, hpending⟩
  | poison =>
    obtain ⟨-, rfl, -, rfl⟩ := AsyncOp.poison_eq_some hact
    exact ⟨hlent, fun hbusy => by simp [cell.fail_dead] at hbusy⟩
  | claim expected =>
    obtain ⟨-, rfl, -, rfl⟩ := AsyncOp.claim_eq_some hact
    exact ⟨hlent, hpending⟩

/-- A core is busy without a handle only if it was so before or has just lent the resource. -/
theorem busy_none_step (hstep : s.step e = some t) (hbusy : cell.view t.core = .busy none) :
    cell.view s.core = .busy none ∨ ∃ cursor, cell.view s.core = .stored cursor := by
  rcases step_cases hstep with ⟨rfl, -⟩ | ⟨call, signal, -, -, -, rfl⟩ |
      ⟨call, signal, cursor, core, -, hview, -, rfl⟩ |
      ⟨j, a, op, core, aborted, op', -, hop, hact, rfl⟩ | ⟨-, rfl⟩
  · exact .inl hbusy
  · exact .inl hbusy
  · exact .inr ⟨cursor, hview⟩
  · rcases AsyncOp.act_cases hact with ⟨cursor, result, unwinds, -, -, rfl, -⟩ |
        ⟨⟨-, -, rfl⟩ | ⟨-, rfl⟩ | ⟨-, rfl⟩, -⟩
    · exact absurd hbusy (cell.complete_not_busy _ _ _ _ _)
    · exact .inl hbusy
    · simp [cell.fail_dead] at hbusy
    · by_cases hold : cell.view s.core = .busy none
      · exact .inl hold
      · simp only [(cell.install_else j hold).1] at hbusy
        exact .inl hbusy
  · simp [cell.close_dead] at hbusy

theorem installPending_step (hstep : s.step e = some t) (hR : ∃ c, s.Refines c)
    (hs : ∀ (i : AbortHandle) op, s.ops[i]? = some op → InstallPending s.core op) :
    ∀ (i : AbortHandle) op, t.ops[i]? = some op → InstallPending t.core op := by
  intro j op' hop'
  rcases ops_cases hstep hop' with ⟨op, b, hop, rfl⟩ | ⟨a, op, aborted, acted, b, -, hop, hact, rfl⟩ |
      ⟨call, signal, resource, -, -, -, rfl⟩
  · obtain ⟨hlent, hpending⟩ := hs j op hop
    refine ⟨hlent, fun hbusy hturn => ?_⟩
    rcases busy_none_step hstep hbusy with hold | ⟨cursor, hstored⟩
    · exact hpending hold hturn
    · obtain ⟨c, hR⟩ := hR
      exact absurd ⟨op, hop, hturn⟩ (hR.stored hstored)
  · obtain ⟨hlent, hpending⟩ := (hs j op hop).act hact
    exact ⟨hlent, hpending⟩
  · refine ⟨fun hturn => ?_, fun _ _ => by simp [AsyncOp.started]⟩
    cases resource with
    | none => exact hturn.elim
    | some cursor => rfl

/-- What closing and failing abort, once the handle in the core is the owner's. -/
theorem aborts_owner (hR : ∃ c, s.Refines c)
    (hpending : ∀ (i : AbortHandle) op, s.ops[i]? = some op → InstallPending s.core op)
    (hown : s.HandleOwned) {op : AsyncOp cell} {a : Option AbortHandle} (hop : s.ops[i]? = some op)
    (hturn : op.HasTurn) (hret : op.starter = .returned) (hbusy : cell.view s.core = .busy a) :
    (cell.close s.core).1 = some i ∧ (cell.fail s.core).1 = some i := by
  have ha : a = some i := by
    cases a with
    | none => exact absurd hret ((hpending i op hop).pending hbusy hturn)
    | some h =>
      obtain ⟨c, hR⟩ := hR
      rw [hR.one_turn (hown h hbusy) ⟨op, hop, hturn⟩]
  rw [cell.close_busy hbusy, cell.fail_busy hbusy, ha]
  exact ⟨rfl, rfl⟩

/-- Ownership of the abort handle along one run of a core. -/
structure AbortOwnership (cell : AsyncCell C V) (cursor : C) (es : List (AsyncEvent cell))
    (s : AsyncSystem cell) : Prop where
  owned_iff : Always step HandleOwned (opened cell cursor) es ↔
    Along step InstallsOwn (opened cell cursor) es
  /-- A busy core whose start call has returned: closing and failing abort the owner. -/
  aborts : Along step InstallsOwn (opened cell cursor) es →
    ∀ (i : AbortHandle) (op : AsyncOp cell) a, s.ops[i]? = some op → op.HasTurn →
      op.starter = .returned → cell.view s.core = .busy a →
        (cell.close s.core).1 = some i ∧ (cell.fail s.core).1 = some i

theorem abortOwnership {cursor : C} {es : List (AsyncEvent cell)}
    (hrun : run step (opened cell cursor) es = some s) : AbortOwnership cell cursor es s := by
  have hR₀ : ∃ c, (opened cell cursor).Refines c := ⟨_, refines_opened cell cursor⟩
  have hown₀ : (opened cell cursor).HandleOwned := by
    intro h hbusy
    rw [opened, cell.view_fresh] at hbusy
    cases hbusy
  have hiff := always_iff_along (I := fun _ => True)
    (fun s e t hstep _ hs => handleOwned_step hstep hs) (fun _ _ _ _ _ _ _ => trivial) trivial
    hown₀ hrun
  refine ⟨hiff, fun hinstall i op a hop hturn hret hbusy => ?_⟩
  have hinv : Preserves (@step C V cell) fun s => (∃ c, s.Refines c) ∧
      ∀ (i : AbortHandle) op, s.ops[i]? = some op → InstallPending s.core op :=
    simulates_custody.preserves.and fun _ _ _ hstep hR hs => installPending_step hstep hR hs
  obtain ⟨hR, hpending⟩ := hinv.run ⟨hR₀, by simp [opened]⟩ hrun
  exact aborts_owner hR hpending ((hiff.mpr hinstall).last hrun) hop hturn hret hbusy

end AsyncSystem

open AsyncSystem

/-- On both cores the handle is owned throughout a run exactly when every installation over
`Busy(None)` is made by the operation in flight. -/
theorem abort_handle_ownership {C V : Type} (cursor : C) :
    (∀ es s, run step (opened (readStreamCell C V) cursor) es = some s →
      AbortOwnership (readStreamCell C V) cursor es s) ∧
    ∀ es s, run step (opened (writerCell C V) cursor) es = some s →
      AbortOwnership (writerCell C V) cursor es s :=
  ⟨fun _ _ hrun => abortOwnership hrun, fun _ _ hrun => abortOwnership hrun⟩

/-- Operation 0 completes before its start call installs its handle, and operation 1 has
started in between: the core holds the handle of a finished operation, and closing it
leaves the operation in flight alone. -/
theorem abort_handle_of_finished_operation :
    ∃ s : AsyncSystem (readStreamCell Unit Nat),
      run step (opened (readStreamCell Unit Nat) ())
        [.start () ⟨3⟩, .op 0 .spawn, .op 0 (.complete (ReadStreamResult.chunk 7) false),
          .start () ⟨4⟩, .op 0 .install, .op 1 .spawn, .op 1 .install] = some s ∧
      ¬ s.HandleOwned ∧ s.core = AsyncReadStreamState.busy (some 0) ∧ s.TurnAt 1 ∧
      s.ops[1]?.map AsyncOp.starter = some .returned ∧
      ((readStreamCell Unit Nat).close s.core).1 = some 0 := by
  refine ⟨_, rfl, ?_, rfl, ⟨_, rfl, trivial⟩, rfl, rfl⟩
  intro hown
  obtain ⟨op, hop, hturn⟩ := hown 0 rfl
  cases hop
  exact hturn

end OpendalMbt.Native
