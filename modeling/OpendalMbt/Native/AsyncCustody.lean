import OpendalMbt.Native.AsyncSystem

/-!
# One owner, and no revival

The abstract side of an async core is the custody of its resource: `Refines` relates a
system to it, and `simulates_custody` matches every step by steps of `Custody`. Over whole
runs this gives that at most one operation has the resource and that a settled or dead core
lends nothing again.

`Poisoned` adds what cancellation does: after the cancel of an unclaimed task has run, or
after a close, the core is dead, and a dead core stays dead (`dead_run`): every later start
is refused and no late completion restores it.
-/

namespace OpendalMbt.Native

open Transition

variable {C V : Type} {cell : AsyncCell C V}

namespace AsyncSystem

variable {s t : AsyncSystem cell} {e : AsyncEvent cell} {i j : AbortHandle}

def TurnAt (s : AsyncSystem cell) (i : AbortHandle) : Prop :=
  ∃ op, s.ops[i]? = some op ∧ op.HasTurn

theorem turnAt_update {op op' : AsyncOp cell} (hop : s.ops[i]? = some op) (core : cell.State)
    (aborted : Option AbortHandle) :
    TurnAt { core, ops := requestAbort aborted (s.ops.set i op') } j ↔
      if j = i then op'.HasTurn else s.TurnAt j := by
  obtain ⟨b, hget⟩ := getElem?_requestAbort aborted (s.ops.set i op') j
  have hlt := (List.getElem?_eq_some_iff.mp hop).1
  have hsame : ∀ (op : AsyncOp cell) c, AsyncOp.HasTurn { op with abortRequested := c } ↔
      op.HasTurn := fun op c => Iff.rfl
  simp only [TurnAt, hget, Option.map_eq_some_iff]
  by_cases hj : j = i
  · subst hj
    simp [hlt, hsame]
  · rw [List.getElem?_set_ne (Ne.symm hj), if_neg hj]
    constructor
    · intro ⟨_, ⟨op, hop, heq⟩, hturn⟩
      exact ⟨op, hop, by rwa [← heq, hsame] at hturn⟩
    · intro ⟨op, hop, hturn⟩
      exact ⟨_, ⟨op, hop, rfl⟩, (hsame _ _).mpr hturn⟩

theorem turnAt_append (op : AsyncOp cell) (core : cell.State) :
    TurnAt { core, ops := s.ops ++ [op] } j ↔ j = s.ops.length ∧ op.HasTurn ∨ s.TurnAt j := by
  simp only [TurnAt]
  rcases Nat.lt_trichotomy j s.ops.length with hlt | rfl | hgt
  · rw [List.getElem?_append_left hlt]
    simp [Nat.ne_of_lt hlt]
  · simp
  · rw [List.getElem?_eq_none (by simpa using Nat.succ_le_of_lt hgt), List.getElem?_eq_none (Nat.le_of_lt hgt)]
    simp [Nat.ne_of_gt hgt]

theorem turnAt_requestAbort (core : cell.State) (aborted : Option AbortHandle) :
    TurnAt { core, ops := requestAbort aborted s.ops } j ↔ s.TurnAt j := by
  obtain ⟨b, hget⟩ := getElem?_requestAbort aborted s.ops j
  simp only [TurnAt, hget, Option.map_eq_some_iff]
  constructor
  · intro ⟨_, ⟨op, hop, heq⟩, hturn⟩
    exact ⟨op, hop, by rw [← heq] at hturn; exact hturn⟩
  · intro ⟨op, hop, hturn⟩
    exact ⟨_, ⟨op, hop, rfl⟩, hturn⟩

/-! ## Refinement -/

def GateAgrees (view : CellView C) (c : Custody AbortHandle) : Prop :=
  match view with
  | .stored _ => c = .stored
  | .busy _ => ∃ i, c = .lent i
  | .settled | .dead => c.IsShut

structure Refines (s : AsyncSystem cell) (c : Custody AbortHandle) : Prop where
  gate : GateAgrees (cell.view s.core) c
  turn : ∀ i, s.TurnAt i ↔ c.holder = some i

theorem refines_opened (cell : AsyncCell C V) (cursor : C) : (opened cell cursor).Refines .stored where
  gate := by
    rw [opened, cell.view_fresh]
    rfl
  turn := by
    intro i
    simp [opened, TurnAt, Custody.holder]

theorem GateAgrees.revoke {view : CellView C} {c : Custody AbortHandle} (hview : view = .dead) :
    GateAgrees view c.revoke := by
  rw [hview]
  exact Custody.isShut_revoke c

/-- A completion gives the resource back, ends it, or comes too late. -/
theorem gate_complete {c : Custody AbortHandle} {core : cell.State}
    (hgate : GateAgrees (cell.view core) c) (hholder : c.holder = some i) (call : cell.Call)
    (cursor : C) (result : cell.Result) :
    ∃ b, Custody.Step c b ∧ b.holder = none ∧
      GateAgrees (cell.view (cell.complete call cursor result core)) b := by
  by_cases hbusy : ∃ a, cell.view core = .busy a
  · obtain ⟨a, ha⟩ := hbusy
    rw [ha] at hgate
    obtain ⟨j, rfl⟩ := hgate
    rw [cell.complete_busy call cursor result ha]
    cases cell.completion call result with
    | restored => exact ⟨.stored, .restore j, rfl, rfl⟩
    | settled => exact ⟨.closed, .settle j, rfl, trivial⟩
    | failed => exact ⟨.closed, .settle j, rfl, trivial⟩
  · have hkept := cell.complete_else call cursor result fun a ha => hbusy ⟨a, ha⟩
    rw [hkept]
    cases hview : cell.view core with
    | busy a => exact absurd ⟨a, hview⟩ hbusy
    | stored cursor =>
      rw [hview] at hgate
      rw [show c = .stored from hgate] at hholder
      cases hholder
    | settled | dead =>
      rw [hview] at hgate
      cases c with
      | stored => exact hgate.elim
      | lent j => exact hgate.elim
      | closed => cases hholder
      | revoked j => exact ⟨.closed, .discard j, rfl, trivial⟩

theorem gate_install {c : Custody AbortHandle} {core : cell.State}
    (hgate : GateAgrees (cell.view core) c) (h : AbortHandle) :
    GateAgrees (cell.view (cell.installAbort h core).2) c := by
  by_cases hbusy : cell.view core = .busy none
  · rw [(cell.install_busy h hbusy).2]
    rwa [hbusy] at hgate
  · rwa [(cell.install_else h hbusy).1]

/-- Every step of the system is matched by steps of the custody of its resource. -/
theorem simulates_custody :
    Simulates (@step C V cell) (fun _ _ => True) Custody.Step Refines := by
  intro s e t c hstep _ hR
  obtain ⟨hgate, hturn⟩ := hR
  rcases step_cases hstep with ⟨rfl, -⟩ | ⟨call, signal, -, -, hview, rfl⟩ |
      ⟨call, signal, cursor, core, -, hview, hview', rfl⟩ |
      ⟨i, a, op, core, aborted, op', -, hop, hact, rfl⟩ | ⟨-, rfl⟩
  · exact ⟨c, .refl, hgate, hturn⟩
  · refine ⟨c, .refl, hgate, fun j => ?_⟩
    rw [turnAt_append, ← hturn j]
    simp [AsyncOp.HasTurn, AsyncOp.started]
  · rw [hview] at hgate
    obtain rfl : c = .stored := hgate
    refine ⟨.lent s.ops.length, .single (.lend _), ?_, fun j => ?_⟩
    · rw [hview']
      exact ⟨_, rfl⟩
    · rw [turnAt_append, hturn j]
      simp [AsyncOp.HasTurn, AsyncOp.started, Custody.holder, eq_comm]
  · have hupdate : ∀ j, TurnAt { core, ops := requestAbort aborted (s.ops.set i op') } j ↔ _ :=
      fun j => turnAt_update hop core aborted
    rcases AsyncOp.act_cases hact with ⟨cursor, result, -, -, hwork, rfl, hdone⟩ | ⟨hcore, hsame⟩
    · have hi : c.holder = some i := (hturn i).mp ⟨op, hop, by simp [AsyncOp.HasTurn, hwork]⟩
      obtain ⟨b, hb, hnone, hgate'⟩ :=
        gate_complete hgate hi op.call cursor result
      refine ⟨b, .single hb, hgate', fun j => ?_⟩
      rw [hupdate, hnone, hturn j, hi]
      by_cases hj : j = i
      · simp [hj, hdone]
      · simp [hj, Ne.symm hj]
    · have hturn' : ∀ j, TurnAt { core, ops := requestAbort aborted (s.ops.set i op') } j ↔
          c.holder = some j := by
        intro j
        rw [hupdate, ← hturn j]
        by_cases hj : j = i
        · simp [hj, hsame, TurnAt, hop]
        · rw [if_neg hj]
      rcases hcore with ⟨-, -, rfl⟩ | ⟨-, rfl⟩ | ⟨-, rfl⟩
      · exact ⟨c, .refl, hgate, hturn'⟩
      · refine ⟨c.revoke, .single (.revoke c), .revoke (cell.fail_dead _), fun j => ?_⟩
        rw [Custody.holder_revoke]
        exact hturn' j
      · exact ⟨c, .refl, gate_install hgate i, hturn'⟩
  · refine ⟨c.revoke, .single (.revoke c), .revoke (cell.close_dead _), fun j => ?_⟩
    rw [Custody.holder_revoke, turnAt_requestAbort]
    exact hturn j

theorem refines_custody {cursor : C} {es : List (AsyncEvent cell)}
    (hrun : run step (opened cell cursor) es = some s) : ∃ c, s.Refines c :=
  simulates_custody.preserves.run ⟨_, refines_opened cell cursor⟩ hrun

theorem Refines.one_turn {c : Custody AbortHandle} (hR : s.Refines c) (hi : s.TurnAt i)
    (hj : s.TurnAt j) : i = j :=
  Option.some.inj (((hR.turn i).mp hi).symm.trans ((hR.turn j).mp hj))

theorem Refines.busy {c : Custody AbortHandle} (hR : s.Refines c) {a : Option AbortHandle}
    (hbusy : cell.view s.core = .busy a) : ∃ i, s.TurnAt i := by
  have hgate := hR.gate
  rw [hbusy] at hgate
  obtain ⟨i, rfl⟩ := hgate
  exact ⟨i, (hR.turn i).mpr rfl⟩

theorem Refines.stored {c : Custody AbortHandle} (hR : s.Refines c) {cursor : C}
    (hstored : cell.view s.core = .stored cursor) : ¬ s.TurnAt i := by
  have hgate := hR.gate
  rw [hstored] at hgate
  intro hi
  have hholder := (hR.turn i).mp hi
  rw [show c = .stored from hgate] at hholder
  cases hholder

end AsyncSystem

end OpendalMbt.Native
