import Mathlib.Data.List.Basic
import Mathlib.Logic.Relation
import Mathlib.Tactic.Common

/-!
# Runs of a labelled machine

A machine is a partial step function `step : σ → ε → Option σ`: `step s e` is `none`
when the event `e` is not enabled in the state `s`. A run is a finite list of events,
so a statement about every interleaving is a statement about every list.

* `run` executes a list, and `run_append` splits it;
* `Preserves.run` is the induction for an invariant, `Along.invariant` the one for an
  invariant that only survives the steps meeting a condition;
* `always_iff_along` and `stays_iff_along` read a property of all states, or of all later
  states, as a condition on all steps;
* `Simulates.run` carries a forward simulation along a run.
-/

namespace OpendalMbt.Transition

variable {σ ε : Type*}

/-- Execute the events in order; `none` when one of them is not enabled. -/
def run (step : σ → ε → Option σ) : σ → List ε → Option σ
  | s, [] => some s
  | s, e :: es => (step s e).bind fun t => run step t es

variable {step : σ → ε → Option σ} {s t u : σ} {e : ε} {es fs : List ε}

@[simp] theorem run_nil : run step s [] = some s := rfl

theorem run_cons : run step s (e :: es) = (step s e).bind fun t => run step t es := rfl

theorem run_cons_eq_some :
    run step s (e :: es) = some u ↔ ∃ t, step s e = some t ∧ run step t es = some u := by
  rw [run_cons]
  exact Option.bind_eq_some_iff

theorem run_append : run step s (es ++ fs) = (run step s es).bind fun t => run step t fs := by
  induction es generalizing s with
  | nil => rfl
  | cons e es ih =>
    simp only [List.cons_append, run_cons]
    cases step s e with
    | none => rfl
    | some t => exact ih

theorem run_append_eq_some :
    run step s (es ++ fs) = some u ↔ ∃ t, run step s es = some t ∧ run step t fs = some u := by
  rw [run_append]
  exact Option.bind_eq_some_iff

theorem run_append_of (h₁ : run step s es = some t) (h₂ : run step t fs = some u) :
    run step s (es ++ fs) = some u :=
  run_append_eq_some.mpr ⟨t, h₁, h₂⟩

theorem run_concat (h₁ : run step s es = some t) (h₂ : step t e = some u) :
    run step s (es ++ [e]) = some u :=
  run_append_of h₁ (run_cons_eq_some.mpr ⟨u, h₂, rfl⟩)

/-! ## Invariants -/

/-- `I` is kept by every enabled step. -/
def Preserves (step : σ → ε → Option σ) (I : σ → Prop) : Prop :=
  ∀ ⦃s e t⦄, step s e = some t → I s → I t

theorem Preserves.run {I : σ → Prop} (hI : Preserves step I) (hs : I s)
    (hrun : run step s es = some t) : I t := by
  induction es generalizing s with
  | nil =>
    cases hrun
    exact hs
  | cons e es ih =>
    obtain ⟨m, hm, hrest⟩ := run_cons_eq_some.mp hrun
    exact ih (hI hm hs) hrest

/-- An invariant may use another one that is already known. -/
theorem Preserves.and {I J : σ → Prop} (hI : Preserves step I)
    (hJ : ∀ ⦃s e t⦄, step s e = some t → I s → J s → J t) :
    Preserves step (fun s => I s ∧ J s) := fun _ _ _ hstep hs =>
  ⟨hI hstep hs.1, hJ hstep hs.1 hs.2⟩

/-- Every step of the run meets `C`, read in the state before the step. -/
def Along (step : σ → ε → Option σ) (C : σ → ε → Prop) : σ → List ε → Prop
  | _, [] => True
  | s, e :: es => C s e ∧ ∀ t, step s e = some t → Along step C t es

theorem Along.mono {C D : σ → ε → Prop} (hCD : ∀ s e, C s e → D s e)
    (h : Along step C s es) : Along step D s es := by
  induction es generalizing s with
  | nil => trivial
  | cons e es ih => exact ⟨hCD _ _ h.1, fun t ht => ih (h.2 t ht)⟩

theorem along_append {C : σ → ε → Prop} :
    Along step C s (es ++ fs) ↔
      Along step C s es ∧ ∀ t, run step s es = some t → Along step C t fs := by
  induction es generalizing s with
  | nil => simp [Along]
  | cons e es ih =>
    simp only [List.cons_append, Along, run_cons_eq_some]
    constructor
    · rintro ⟨hC, hrest⟩
      refine ⟨⟨hC, fun t ht => (ih.mp (hrest t ht)).1⟩, ?_⟩
      rintro u ⟨t, ht, hu⟩
      exact (ih.mp (hrest t ht)).2 u hu
    · rintro ⟨⟨hC, hes⟩, hfs⟩
      exact ⟨hC, fun t ht => ih.mpr ⟨hes t ht, fun u hu => hfs u ⟨t, ht, hu⟩⟩⟩

/-- The condition at the step that follows a prefix of the run. -/
theorem Along.at {C : σ → ε → Prop} (h : Along step C s (es ++ e :: fs))
    (hrun : run step s es = some t) : C t e :=
  ((along_append.mp h).2 t hrun).1

theorem along_of_forall {C : σ → ε → Prop}
    (h : ∀ es₁ e es₂ m, es = es₁ ++ e :: es₂ → run step s es₁ = some m → C m e) :
    Along step C s es := by
  induction es generalizing s with
  | nil => trivial
  | cons e es ih =>
    refine ⟨h [] e es s rfl rfl, fun t ht => ih fun es₁ f es₂ m heq hm => ?_⟩
    exact h (e :: es₁) f es₂ m (by rw [heq, List.cons_append])
      (run_cons_eq_some.mpr ⟨t, ht, hm⟩)

theorem Along.invariant {C : σ → ε → Prop} {I : σ → Prop}
    (hI : ∀ ⦃s e t⦄, step s e = some t → C s e → I s → I t)
    (hC : Along step C s es) (hs : I s) (hrun : run step s es = some t) : I t := by
  induction es generalizing s with
  | nil =>
    cases hrun
    exact hs
  | cons e es ih =>
    obtain ⟨m, hm, hrest⟩ := run_cons_eq_some.mp hrun
    exact ih (hC.2 m hm) (hI hm hC.1 hs) hrest

/-- A condition that implies another one wherever an invariant of its steps holds. -/
theorem Along.of_invariant {C D : σ → ε → Prop} {I : σ → Prop}
    (hI : ∀ ⦃s e t⦄, step s e = some t → C s e → I s → I t) (hCD : ∀ s e, I s → C s e → D s e)
    (hs : I s) (h : Along step C s es) : Along step D s es := by
  induction es generalizing s with
  | nil => trivial
  | cons e es ih => exact ⟨hCD s e hs h.1, fun t ht => ih (hI ht h.1 hs) (h.2 t ht)⟩

/-- A condition on the events alone holds along every run of such events. -/
theorem along_of_events {P : ε → Prop} (h : ∀ e ∈ es, P e) :
    Along step (fun _ e => P e) s es := by
  induction es generalizing s with
  | nil => trivial
  | cons e es ih =>
    exact ⟨h e List.mem_cons_self, fun t _ => ih fun f hf => h f (List.mem_cons_of_mem _ hf)⟩

/-- An invariant of the steps by such events is one of every run of them. -/
theorem run_of_events {P : ε → Prop} {I : σ → Prop}
    (hI : ∀ ⦃s e t⦄, step s e = some t → P e → I s → I t) (h : ∀ e ∈ es, P e) (hs : I s)
    (hrun : run step s es = some t) : I t :=
  (along_of_events h).invariant hI hs hrun

/-- From each state with `P` on, `P` stays and `R` leads to every later state. -/
def Stays (step : σ → ε → Option σ) (P : σ → Prop) (R : σ → σ → Prop) (s : σ) (es : List ε) :
    Prop :=
  ∀ es₁ es₂ es₃ m t, es = es₁ ++ (es₂ ++ es₃) → run step s es₁ = some m → P m →
    run step m es₂ = some t → P t ∧ R m t

/-- Where one step out of `P` keeps `P` and `R` exactly when it meets `C`, a run does so
exactly when all its steps out of `P` meet `C`. -/
theorem stays_iff_along {P : σ → Prop} {R : σ → σ → Prop} {C : σ → ε → Prop}
    (hrefl : ∀ s, R s s) (htrans : ∀ {a b c}, R a b → R b c → R a c)
    (hkeep : ∀ ⦃s e t⦄, step s e = some t → P s → (P t ∧ R s t ↔ C s e))
    (hrun : run step s es = some u) :
    Stays step P R s es ↔ Along step (fun s e => P s → C s e) s es := by
  constructor
  · intro h
    apply along_of_forall
    intro es₁ e es₂ m heq hm hP
    rw [heq] at hrun
    obtain ⟨m', hm', hrest⟩ := run_append_eq_some.mp hrun
    rw [hm] at hm'
    cases hm'
    obtain ⟨t, ht, -⟩ := run_cons_eq_some.mp hrest
    refine (hkeep ht hP).mp (h es₁ [e] es₂ m t heq hm hP ?_)
    exact run_cons_eq_some.mpr ⟨t, ht, rfl⟩
  · intro h es₁ es₂ es₃ m t heq hm hP ht
    rw [heq] at h
    have hafter := (along_append.mp ((along_append.mp h).2 m hm)).1
    refine hafter.invariant (I := fun x => P x ∧ R m x) ?_ ⟨hP, hrefl m⟩ ht
    intro x e y hstep hC hx
    obtain ⟨hPy, hxy⟩ := (hkeep hstep hx.1).mpr (hC hx.1)
    exact ⟨hPy, htrans hx.2 hxy⟩

/-! ## Properties of every state of a run -/

/-- `P` holds in the initial state, in the last one and in every state between. -/
def Always (step : σ → ε → Option σ) (P : σ → Prop) (s : σ) (es : List ε) : Prop :=
  ∀ es₁ es₂ m, es = es₁ ++ es₂ → run step s es₁ = some m → P m

theorem Always.head {P : σ → Prop} (h : Always step P s es) : P s :=
  h [] es s rfl rfl

theorem Always.last {P : σ → Prop} (h : Always step P s es) (hrun : run step s es = some t) : P t :=
  h es [] t (List.append_nil es).symm hrun

theorem Always.tail {P : σ → Prop} (h : Always step P s (e :: es)) (hstep : step s e = some t) :
    Always step P t es := by
  intro es₁ es₂ m heq hrun
  exact h (e :: es₁) es₂ m (by rw [heq, List.cons_append])
    (run_cons_eq_some.mpr ⟨t, hstep, hrun⟩)

theorem always_cons {P : σ → Prop} (hs : P s) (hstep : step s e = some t)
    (h : Always step P t es) : Always step P s (e :: es) := by
  intro es₁ es₂ m heq hrun
  cases es₁ with
  | nil =>
    cases hrun
    exact hs
  | cons f es₁ =>
    obtain ⟨rfl, rfl⟩ := List.cons_eq_cons.mp heq
    obtain ⟨t', hstep', hrun'⟩ := run_cons_eq_some.mp hrun
    rw [hstep] at hstep'
    cases hstep'
    exact h es₁ es₂ m rfl hrun'

/-- Where a step keeps `P` exactly when it meets `C`, a run keeps `P` throughout exactly when
all its steps meet `C`. The invariant `I` may rely on `P`. -/
theorem always_iff_along {I P : σ → Prop} {C : σ → ε → Prop}
    (hkeep : ∀ ⦃s e t⦄, step s e = some t → I s → P s → (P t ↔ C s e))
    (hI : ∀ ⦃s e t⦄, step s e = some t → I s → P s → P t → I t)
    (hIs : I s) (hPs : P s) (hrun : run step s es = some u) :
    Always step P s es ↔ Along step C s es := by
  induction es generalizing s with
  | nil =>
    refine iff_of_true ?_ trivial
    intro es₁ es₂ m heq hm
    obtain ⟨rfl, -⟩ := List.nil_eq_append_iff.mp heq
    cases hm
    exact hPs
  | cons e es ih =>
    obtain ⟨t, hstep, hrest⟩ := run_cons_eq_some.mp hrun
    constructor
    · intro h
      have hPt := (h.tail hstep).head
      refine ⟨(hkeep hstep hIs hPs).mp hPt, fun t' ht' => ?_⟩
      rw [hstep] at ht'
      cases ht'
      exact (ih (hI hstep hIs hPs hPt) hPt hrest).mp (h.tail hstep)
    · intro h
      have hPt := (hkeep hstep hIs hPs).mpr h.1
      exact always_cons hPs hstep ((ih (hI hstep hIs hPs hPt) hPt hrest).mpr (h.2 t hstep))

/-! ## Simulation -/

/-- Every step that meets `C` is matched by abstract steps, keeping the relation `R`. -/
def Simulates {α : Type*} (step : σ → ε → Option σ) (C : σ → ε → Prop) (A : α → α → Prop)
    (R : σ → α → Prop) : Prop :=
  ∀ ⦃s e t a⦄, step s e = some t → C s e → R s a → ∃ b, Relation.ReflTransGen A a b ∧ R t b

/-- A state that has an abstract counterpart keeps having one. -/
theorem Simulates.preserves {α : Type*} {A : α → α → Prop} {R : σ → α → Prop}
    (hsim : Simulates step (fun _ _ => True) A R) : Preserves step fun s => ∃ a, R s a := by
  intro s e t hstep hs
  obtain ⟨a, hR⟩ := hs
  obtain ⟨b, -, hR'⟩ := hsim hstep trivial hR
  exact ⟨b, hR'⟩

theorem Simulates.run {α : Type*} {C : σ → ε → Prop} {A : α → α → Prop} {R : σ → α → Prop}
    (hsim : Simulates step C A R) (hC : Along step C s es) (hrun : run step s es = some t)
    {a : α} (hR : R s a) : ∃ b, Relation.ReflTransGen A a b ∧ R t b := by
  refine hC.invariant (I := fun s => ∃ b, Relation.ReflTransGen A a b ∧ R s b) ?_
    ⟨a, .refl, hR⟩ hrun
  intro s e t hstep hCe hs
  obtain ⟨b, hab, hRb⟩ := hs
  obtain ⟨c, hbc, hRc⟩ := hsim hstep hCe hRb
  exact ⟨c, hab.trans hbc, hRc⟩

/-! ## Erasing events -/

/-- Where the relation `R` survives both the steps that are kept, taken on both sides, and the
steps that are dropped, a run has a counterpart without the dropped events. -/
theorem run_filter {C : σ → ε → Prop} {R : σ → σ → Prop} {keep : ε → Bool} {r : σ}
    (hkeep : ∀ ⦃s e t r⦄, step s e = some t → C s e → keep e = true → R s r →
      ∃ r', step r e = some r' ∧ R t r')
    (hdrop : ∀ ⦃s e t r⦄, step s e = some t → C s e → keep e = false → R s r → R t r)
    (hC : Along step C s es) (hrun : run step s es = some t) (hR : R s r) :
    ∃ r', run step r (es.filter keep) = some r' ∧ R t r' := by
  induction es generalizing s r with
  | nil =>
    cases hrun
    exact ⟨r, rfl, hR⟩
  | cons e es ih =>
    obtain ⟨m, hm, hrest⟩ := run_cons_eq_some.mp hrun
    cases hkept : keep e with
    | true =>
      obtain ⟨r', hr', hR'⟩ := hkeep hm hC.1 hkept hR
      obtain ⟨u, hu, hRu⟩ := ih (hC.2 m hm) hrest hR'
      rw [List.filter_cons_of_pos hkept]
      exact ⟨u, run_cons_eq_some.mpr ⟨r', hr', hu⟩, hRu⟩
    | false =>
      rw [List.filter_cons_of_neg (by rw [hkept]; exact Bool.false_ne_true)]
      exact ih (hC.2 m hm) hrest (hdrop hm hC.1 hkept hR)

end OpendalMbt.Transition
