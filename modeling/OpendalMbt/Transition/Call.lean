import Mathlib.Tactic.Common

/-!
# Computations that may throw

A call reads and changes a state and either returns or throws; the state it leaves behind is
there in both cases. `tryFinally` runs a cleanup whichever way a call ends.

* `bind_eq_ok`: a sequence returns when both parts return;
* `tryFinally_eq_ok`: a call returns through its cleanup;
* `Returns`: what holds of the value of a call, whenever it has one;
* `Follows`: how the state may change, whichever way a call ends;
* `Triple`: what holds afterwards, of a return and of a throw.
-/

namespace OpendalMbt.Transition

def Call (σ ε α : Type) : Type := σ → Except ε α × σ

namespace Call

variable {σ ε α β : Type}

instance : Monad (Call σ ε) where
  pure value := fun s => (.ok value, s)
  bind x f := fun s =>
    match x s with
    | (.error e, s) => (.error e, s)
    | (.ok value, s) => f value s

/-- Fail without touching the state. -/
def throw (e : ε) : Call σ ε α := fun s => (.error e, s)

def modify (f : σ → σ) : Call σ ε Unit := fun s => (.ok (), f s)

/-- A result that does not depend on the state. -/
def lift (x : Except ε α) : Call σ ε α := fun s => (x, s)

def tryFinally (x : Call σ ε α) (cleanup : σ → σ) : Call σ ε α := fun s =>
  ((x s).1, cleanup (x s).2)

/-- Run a cleanup only when the call throws. -/
def onError (x : Call σ ε α) (cleanup : σ → σ) : Call σ ε α := fun s =>
  match x s with
  | (.error e, s) => (.error e, cleanup s)
  | (.ok value, s) => (.ok value, s)

variable {s s' : σ} {value : β}

@[simp] theorem pure_apply (a : α) (s : σ) : (pure a : Call σ ε α) s = (.ok a, s) := rfl

@[simp] theorem modify_apply (f : σ → σ) (s : σ) :
    (modify f : Call σ ε Unit) s = (.ok (), f s) := rfl

@[simp] theorem throw_apply (e : ε) (s : σ) : (throw e : Call σ ε α) s = (.error e, s) := rfl

theorem bind_apply_ok {x : Call σ ε α} {f : α → Call σ ε β} {a : α} {t : σ}
    (hx : x s = (.ok a, t)) : (x >>= f) s = f a t := by
  show (match x s with
    | (.error e, s) => (.error e, s)
    | (.ok value, s) => f value s) = f a t
  rw [hx]

theorem bind_apply_error {x : Call σ ε α} {f : α → Call σ ε β} {e : ε} {t : σ}
    (hx : x s = (.error e, t)) : (x >>= f) s = (.error e, t) := by
  show (match x s with
    | (.error e, s) => (.error e, s)
    | (.ok value, s) => f value s) = (.error e, t)
  rw [hx]

theorem bind_assoc {γ : Type} (x : Call σ ε α) (f : α → Call σ ε β) (g : β → Call σ ε γ) :
    x >>= f >>= g = x >>= fun a => f a >>= g := by
  funext s
  cases hx : x s with
  | mk result t =>
    cases result with
    | error e => rw [bind_apply_error hx, bind_apply_error (bind_apply_error hx)]
    | ok a =>
      rw [bind_apply_ok hx]
      show (match (x >>= f) s with
        | (.error e, s) => (.error e, s)
        | (.ok value, s) => g value s) = (f a >>= g) t
      rw [bind_apply_ok hx]
      rfl

theorem bind_eq_ok {x : Call σ ε α} {f : α → Call σ ε β} :
    (x >>= f) s = (.ok value, s') ↔
      ∃ a t, x s = (.ok a, t) ∧ f a t = (.ok value, s') := by
  cases hx : x s with
  | mk result t =>
    cases result with
    | error e =>
      rw [bind_apply_error hx]
      simp
    | ok a =>
      rw [bind_apply_ok hx]
      constructor
      · intro h
        exact ⟨a, t, rfl, h⟩
      · intro ⟨a', t', hsame, h⟩
        cases hsame
        exact h

theorem tryFinally_eq_ok {x : Call σ ε β} {cleanup : σ → σ} :
    tryFinally x cleanup s = (.ok value, s') ↔
      ∃ t, x s = (.ok value, t) ∧ s' = cleanup t := by
  unfold tryFinally
  cases hx : x s with
  | mk result t =>
    simp only [Prod.mk.injEq]
    constructor
    · intro ⟨hresult, hs⟩
      exact ⟨t, ⟨hresult, rfl⟩, hs.symm⟩
    · intro ⟨u, ⟨hresult, ht⟩, hs⟩
      exact ⟨hresult, by rw [hs, ht]⟩

theorem onError_eq_ok {x : Call σ ε β} {cleanup : σ → σ} :
    onError x cleanup s = (.ok value, s') ↔ x s = (.ok value, s') := by
  unfold onError
  cases hx : x s with
  | mk result t => cases result <;> simp

/-! ## Returned values -/

def Returns (P : α → Prop) (x : Call σ ε α) : Prop :=
  ∀ ⦃s value t⦄, x s = (.ok value, t) → P value

section Returns

variable {P : α → Prop} {Q : β → Prop}

theorem Returns.pure {a : α} (h : P a) : Returns P (pure a : Call σ ε α) := by
  intro s value t hreturn
  cases hreturn
  exact h

theorem Returns.throw (e : ε) : Returns P (throw e : Call σ ε α) := by
  intro s value t hreturn
  cases hreturn

theorem Returns.bind {x : Call σ ε α} {f : α → Call σ ε β} (hx : Returns P x)
    (hf : ∀ a, P a → Returns Q (f a)) : Returns Q (x >>= f) := by
  intro s value t hreturn
  obtain ⟨a, u, ha, hvalue⟩ := bind_eq_ok.mp hreturn
  exact hf a (hx ha) hvalue

/-- The last part of a sequence decides. -/
theorem Returns.last {x : Call σ ε α} {f : α → Call σ ε β} (hf : ∀ a, Returns Q (f a)) :
    Returns Q (x >>= f) := by
  intro s value t hreturn
  obtain ⟨a, u, -, hvalue⟩ := bind_eq_ok.mp hreturn
  exact hf a hvalue

theorem Returns.onError {x : Call σ ε α} {cleanup : σ → σ} (hx : Returns P x) :
    Returns P (onError x cleanup) := fun _ _ _ hreturn => hx (onError_eq_ok.mp hreturn)

end Returns

/-! ## Changes of the state -/

def Follows (R : σ → σ → Prop) (x : Call σ ε α) : Prop := ∀ s, R s (x s).2

section Follows

variable {R : σ → σ → Prop}

theorem Follows.pure (hrefl : ∀ s, R s s) (a : α) : Follows R (pure a : Call σ ε α) := hrefl

theorem Follows.throw (hrefl : ∀ s, R s s) (e : ε) : Follows R (throw e : Call σ ε α) := hrefl

theorem Follows.bind (htrans : ∀ s t u, R s t → R t u → R s u) {x : Call σ ε α}
    {f : α → Call σ ε β} (hx : Follows R x) (hf : ∀ a, Follows R (f a)) :
    Follows R (x >>= f) := by
  intro s
  have hs := hx s
  cases hran : x s with
  | mk result t =>
    rw [hran] at hs
    cases result with
    | error e =>
      rw [bind_apply_error hran]
      exact hs
    | ok a =>
      rw [bind_apply_ok hran]
      exact htrans s t _ hs (hf a t)

theorem Follows.tryFinally (htrans : ∀ s t u, R s t → R t u → R s u) {x : Call σ ε α}
    {cleanup : σ → σ} (hx : Follows R x) (hcleanup : ∀ s, R s (cleanup s)) :
    Follows R (tryFinally x cleanup) := fun s => htrans s _ _ (hx s) (hcleanup _)

theorem Follows.onError (htrans : ∀ s t u, R s t → R t u → R s u) {x : Call σ ε α}
    {cleanup : σ → σ} (hx : Follows R x) (hcleanup : ∀ s, R s (cleanup s)) :
    Follows R (onError x cleanup) := by
  intro s
  have hs := hx s
  unfold Call.onError
  cases hran : x s with
  | mk result t =>
    rw [hran] at hs
    cases result with
    | error e => exact htrans s t _ hs (hcleanup t)
    | ok a => exact hs

end Follows

/-! ## Triples -/

/-- From a state of `P` the call ends in a state of `Q` when it returns, of `E` when it throws. -/
def Triple (P : σ → Prop) (x : Call σ ε α) (Q : α → σ → Prop) (E : ε → σ → Prop) : Prop :=
  ∀ s, P s →
    match x s with
    | (.ok a, t) => Q a t
    | (.error e, t) => E e t

section Triple

variable {P P' : σ → Prop} {Q Q' : α → σ → Prop} {R : β → σ → Prop} {E : ε → σ → Prop}

theorem Triple.pure {a : α} (h : ∀ s, P s → Q a s) : Triple P (pure a : Call σ ε α) Q E := h

theorem Triple.throw {e : ε} (h : ∀ s, P s → E e s) :
    Triple P (Call.throw e : Call σ ε α) Q E := h

theorem Triple.modify {f : σ → σ} {Q : Unit → σ → Prop} (h : ∀ s, P s → Q () (f s)) :
    Triple P (Call.modify f : Call σ ε Unit) Q E := h

theorem Triple.lift {x : Except ε α} (hQ : ∀ a s, P s → Q a s) (hE : ∀ e s, P s → E e s) :
    Triple P (Call.lift x) Q E := by
  intro s hs
  cases x with
  | ok a => exact hQ a s hs
  | error e => exact hE e s hs

/-- What every change of the state keeps holds afterwards, whichever way the call ends. -/
theorem Triple.of_follows {R : σ → σ → Prop} {x : Call σ ε α} (hx : Follows R x)
    (hP : ∀ s t, R s t → P s → P t) : Triple P x (fun _ => P) (fun _ => P) := by
  intro s hs
  have hran := hP s _ (hx s) hs
  cases hxs : x s with
  | mk result t =>
    rw [hxs] at hran
    cases result with
    | ok a => exact hran
    | error e => exact hran

theorem Triple.bind {x : Call σ ε α} {f : α → Call σ ε β} (hx : Triple P x Q E)
    (hf : ∀ a, Triple (Q a) (f a) R E) : Triple P (x >>= f) R E := by
  intro s hs
  have hran := hx s hs
  cases hxs : x s with
  | mk result t =>
    rw [hxs] at hran
    cases result with
    | ok a =>
      rw [bind_apply_ok hxs]
      exact hf a t hran
    | error e =>
      rw [bind_apply_error hxs]
      exact hran

theorem Triple.of_imp {x : Call σ ε α} (hP : ∀ s, P' s → P s) (hx : Triple P x Q E)
    (hQ : ∀ a s, Q a s → Q' a s) : Triple P' x Q' E := by
  intro s hs
  have hran := hx s (hP s hs)
  cases hxs : x s with
  | mk result t =>
    rw [hxs] at hran
    cases result with
    | ok a => exact hQ a t hran
    | error e => exact hran

/-- A call that depends on the state only from the outside. -/
theorem Triple.ite {c : Prop} [Decidable c] {x y : Call σ ε α} (hx : c → Triple P x Q E)
    (hy : ¬ c → Triple P y Q E) : Triple P (if c then x else y) Q E := by
  split_ifs with hc
  · exact hx hc
  · exact hy hc

end Triple

end Call

end OpendalMbt.Transition
