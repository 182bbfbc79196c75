import OpendalMbt.Transition.Run

/-!
# Machines that come to an end

A machine whose steps spend a bounded resource runs out of steps. `Spending` says that every step
spends some of the measure `μ`; a state is `Stuck` when no event is enabled in it.

* `Spending.length_le`: a run is no longer than what there is to spend;
* `Spending.exists_stuck`: every run can be continued until the machine is stuck.
-/

namespace OpendalMbt.Transition

variable {σ ε : Type*} {step : σ → ε → Option σ} {I : σ → Prop} {μ : σ → Nat} {s t : σ}
  {es : List ε}

/-- Where the invariant holds, every enabled step spends some of `μ`. -/
def Spending (step : σ → ε → Option σ) (I : σ → Prop) (μ : σ → Nat) : Prop :=
  ∀ ⦃s e t⦄, step s e = some t → I s → μ t < μ s

def Stuck (step : σ → ε → Option σ) (s : σ) : Prop := ∀ e, step s e = none

theorem not_stuck_iff : ¬ Stuck step s ↔ ∃ e t, step s e = some t := by
  simp [Stuck, Option.ne_none_iff_exists']

theorem Spending.length_le (hμ : Spending step I μ) (hI : Preserves step I) (hs : I s)
    (hrun : run step s es = some t) : es.length + μ t ≤ μ s := by
  induction es generalizing s with
  | nil =>
    cases hrun
    simp
  | cons e es ih =>
    obtain ⟨m, hm, hrest⟩ := run_cons_eq_some.mp hrun
    have hspent := hμ hm hs
    have hlength := ih (hI hm hs) hrest
    rw [List.length_cons]
    omega

theorem Spending.exists_stuck (hμ : Spending step I μ) (hI : Preserves step I) (hs : I s) :
    ∃ es t, run step s es = some t ∧ Stuck step t := by
  induction hn : μ s using Nat.strongRecOn generalizing s with
  | ind n ih =>
    by_cases hstuck : Stuck step s
    · exact ⟨[], s, rfl, hstuck⟩
    · obtain ⟨e, m, hm⟩ := not_stuck_iff.mp hstuck
      have hspent := hμ hm hs
      obtain ⟨es, t, hrun, ht⟩ := ih (μ m) (by omega) (hI hm hs) rfl
      exact ⟨e :: es, t, run_cons_eq_some.mpr ⟨m, hm, hrun⟩, ht⟩

end OpendalMbt.Transition
