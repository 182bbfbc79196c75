import OpendalMbt.Native.Copier
import OpendalMbt.Native.Writer

/-!
# A failed writer or copier

A call that panics outside its inner step, or that finds the lock poisoned, fails the state
while another call may be busy with the inner object. That call stores its own next state
afterwards without looking at the present one. So `Failed` is final exactly as long as no
successful result is stored over it (`failed_step`), and over whole runs exactly when no
step of the run does so (`failed_absorbing`).
-/

namespace OpendalMbt.Native

open Transition

variable {I : Type} {cell : SyncCell I}

namespace SyncSystem

variable {s t : SyncSystem cell} {e : SyncEvent cell}

/-- A call stores the result of a successful inner step on a clean lock. -/
def StoresSuccess (s : SyncSystem cell) (e : SyncEvent cell) : Prop :=
  s.monitor.poisoned = false ∧ ∃ i c inner value, e = .act i .store ∧ s.calls[i]? = some c ∧
    c.phase = .stepped inner (.ok value)

def Failed (s : SyncSystem cell) : Prop := s.monitor.state = cell.failed

theorem Failed.view (h : s.Failed) : cell.view s.monitor.state = .failed := by
  rw [h]
  exact cell.view_failed

theorem moved_acquired {i : Nat} {c : SyncCall cell} {a : CallAction cell}
    {m : Monitor cell.State} {phase : Phase I cell.Value}
    (h : ∀ inner, phase ≠ .holding inner) : (s.moved i c a m phase).acquired = s.acquired := by
  cases phase with
  | holding inner => exact absurd rfl (h inner)
  | _ => exact List.append_nil _

/-- One step out of a failed state keeps it and lends nothing, unless it stores a success. -/
theorem failed_step (hstep : s.step e = some t) (hfailed : s.Failed) :
    t.Failed ∧ t.acquired = s.acquired ↔ ¬ s.StoresSuccess e := by
  rcases step_cases hstep with ⟨call, rfl, rfl⟩ | ⟨i, c, action, m, phase, rfl, hc, hact, rfl⟩
  · refine iff_of_true ⟨hfailed, rfl⟩ ?_
    intro h
    obtain ⟨-, i, c, inner, value, he, -⟩ := h
    cases he
  · have hfail : m = s.monitor.fail cell.failed → m.state = cell.failed := by
      intro hm
      rw [hm]
      rfl
    have hother : action ≠ .store → ¬ s.StoresSuccess (.act i action) := by
      intro haction h
      obtain ⟨-, j, d, inner, value, he, -⟩ := h
      cases he
      exact haction rfl
    have hkept : action ≠ .store → m.state = cell.failed →
        (∀ inner, phase ≠ .holding inner) →
        ((s.moved i c action m phase).Failed ∧ (s.moved i c action m phase).acquired = s.acquired ↔
          ¬ s.StoresSuccess (.act i action)) := fun haction hm hphase =>
      iff_of_true ⟨hm, moved_acquired hphase⟩ (hother haction)
    cases action with
    | lock =>
      cases hpoisoned : s.monitor.poisoned with
      | true =>
        obtain ⟨-, hm, hphase⟩ := SyncCall.lock_eq_some hact
        obtain ⟨htake, failure, hrefused⟩ := cell.take_poisoned c.call hpoisoned
        rw [hrefused] at hphase
        refine hkept nofun (hfail (hm.trans htake)) fun inner h => ?_
        rw [hphase] at h
        cases h
      | false =>
        rcases SyncCall.lock_clean hact hpoisoned with ⟨hbusy, -⟩ | ⟨inner, busy, hstored, -⟩ |
            ⟨-, rfl, reply, -, rfl, -⟩
        · exact absurd (hfailed.view.symm.trans hbusy) nofun
        · exact absurd (hfailed.view.symm.trans hstored) nofun
        · exact hkept nofun hfailed nofun
    | begin =>
      obtain ⟨inner, -, rfl, rfl⟩ := SyncCall.begin_eq_some hact
      exact hkept nofun hfailed nofun
    | finish raw =>
      obtain ⟨inner, result, -, -, rfl, rfl⟩ := SyncCall.finish_eq_some hact
      exact hkept nofun hfailed nofun
    | leave =>
      obtain ⟨reply, -, rfl, rfl⟩ := SyncCall.leave_eq_some hact
      exact hkept nofun hfailed nofun
    | panic =>
      obtain ⟨rfl, rfl⟩ := SyncCall.panic_eq_some hact
      exact hkept nofun hfailed nofun
    | poison =>
      obtain ⟨rfl, rfl⟩ := SyncCall.poison_eq_some hact
      exact hkept nofun hfailed nofun
    | fail =>
      obtain ⟨-, hm, rfl⟩ := SyncCall.fail_eq_some hact
      exact hkept nofun (hfail hm) nofun
    | store =>
      cases hpoisoned : s.monitor.poisoned with
      | true =>
        obtain ⟨hm, reply, rfl⟩ := SyncCall.store_poisoned hact hpoisoned
        refine iff_of_true ⟨hfail hm, moved_acquired nofun⟩ ?_
        intro h
        exact absurd (hpoisoned.symm.trans h.1) nofun
      | false =>
        obtain ⟨inner, result, hstepped, rfl, rfl⟩ := SyncCall.store_clean hact hpoisoned
        cases result with
        | ok value =>
          refine iff_of_false ?_ (not_not_intro ⟨hpoisoned, i, c, inner, value, rfl, hc, hstepped⟩)
          intro h
          have hnext : cell.view (cell.next value inner) = .failed := Failed.view h.1
          rw [cell.view_next] at hnext
          split at hnext <;> cases hnext
        | error failure =>
          refine iff_of_true ⟨rfl, moved_acquired nofun⟩ ?_
          intro h
          obtain ⟨-, j, d, inner', value, he, hd, hphase⟩ := h
          cases he
          rw [hc] at hd
          cases hd
          rw [hstepped] at hphase
          cases hphase
        | panic =>
          refine iff_of_true ⟨rfl, moved_acquired nofun⟩ ?_
          intro h
          obtain ⟨-, j, d, inner', value, he, hd, hphase⟩ := h
          cases he
          rw [hc] at hd
          cases hd
          rw [hstepped] at hphase
          cases hphase

/-- From each failed state on, the state stays failed and no further call takes the inner
object. -/
def FailedAbsorbing (s : SyncSystem cell) (es : List (SyncEvent cell)) : Prop :=
  Stays step Failed (fun s t => t.acquired = s.acquired) s es

/-- In the run no success is stored over a failed state. -/
def NoLateSuccess (s : SyncSystem cell) (es : List (SyncEvent cell)) : Prop :=
  Along step (fun s e => s.Failed → ¬ s.StoresSuccess e) s es

theorem failedAbsorbing_iff {es : List (SyncEvent cell)} (hrun : run step s es = some t) :
    s.FailedAbsorbing es ↔ s.NoLateSuccess es :=
  stays_iff_along (fun _ => rfl) (fun hab hbc => hbc.trans hab)
    (fun _ _ _ hstep hfailed => failed_step hstep hfailed) hrun

end SyncSystem

open SyncSystem

/-- A writer, and a copier, stays failed in a run exactly when no call stores a success over
the failure. -/
theorem failed_absorbing {I M : Type} (inner : I) :
    (∀ es s, run step (opened (syncWriterCell I M) inner) es = some s →
      ((opened (syncWriterCell I M) inner).FailedAbsorbing es ↔
        (opened (syncWriterCell I M) inner).NoLateSuccess es)) ∧
    ∀ es s, run step (opened (copierCell I M) inner) es = some s →
      ((opened (copierCell I M) inner).FailedAbsorbing es ↔
        (opened (copierCell I M) inner).NoLateSuccess es) :=
  ⟨fun _ _ hrun => failedAbsorbing_iff hrun, fun _ _ hrun => failedAbsorbing_iff hrun⟩

/-- Call 0 is busy with its inner step when call 1 panics and fails the state; then call 0
stores its success, and call 2 takes the inner object. -/
theorem failed_reopened :
    (∃ s t u : SyncSystem (syncWriterCell Unit Nat),
      run step (opened (syncWriterCell Unit Nat) ())
        [.enter .write, .enter .write, .enter .write, .act 0 .lock, .act 0 .begin,
          .act 1 .panic, .act 1 .fail] = some s ∧
      s.monitor.state = WriterStateV1.failed ∧
      run step s [.act 0 (.finish (WriterRaw.write (.ok ()))), .act 0 .store] = some t ∧
      t.monitor.state = WriterStateV1.open () ∧
      t.step (.act 2 .lock) = some u ∧ u.acquired = s.acquired ++ [(2, WriterCall.write)]) ∧
    ∃ s t u : SyncSystem (copierCell Unit Nat),
      run step (opened (copierCell Unit Nat) ())
        [.enter .next, .enter .next, .enter .next, .act 0 .lock, .act 0 .begin,
          .act 1 .panic, .act 1 .fail] = some s ∧
      s.monitor.state = CopierStateV1.failed ∧
      run step s [.act 0 (.finish (CopierRaw.next (.ok (some 7)))), .act 0 .store] = some t ∧
      t.monitor.state = CopierStateV1.open () ∧
      t.step (.act 2 .lock) = some u ∧ u.acquired = s.acquired ++ [(2, CopierCall.next)] :=
  ⟨⟨_, _, _, rfl, rfl, rfl, rfl, rfl, rfl⟩, ⟨_, _, _, rfl, rfl, rfl, rfl, rfl, rfl⟩⟩

end OpendalMbt.Native
