import OpendalMbt.Transition.Call

/-!
# Loops and handlers

A `while` loop over a value, with fuel for its turns, and a handler for what a call throws.

* `Triple.whileDo`: an invariant of the turns that makes a variant smaller with each of them; with
  fuel for the variant the loop comes to its end;
* `Triple.tryCatch`: a handler starts from what a throw leaves;
* `Triple.tryFinally`, `Triple.onError`: a cleanup takes what is left to what is promised.
-/

namespace OpendalMbt.Transition.Call

variable {σ ε ε' α β : Type}

/-- Turns while the condition holds; `none` when there is no fuel for the next one. -/
def whileDo (condition : α → Bool) (body : α → Call σ ε α) : Nat → α → Call σ ε (Option α)
  | 0, _ => pure none
  | fuel + 1, a =>
    if condition a then do
      let b ← body a
      whileDo condition body fuel b
    else pure (some a)

def tryCatch (x : Call σ ε α) (handler : ε → Call σ ε' α) : Call σ ε' α := fun s =>
  match x s with
  | (.ok value, s) => (.ok value, s)
  | (.error e, s) => handler e s

theorem Triple.whileDo {I : α → σ → Prop} {E : ε → σ → Prop} {condition : α → Bool}
    {body : α → Call σ ε α} (variant : α → Nat)
    (hbody : ∀ a, condition a = true →
      Triple (I a) (body a) (fun b s => I b s ∧ variant b < variant a) E)
    {fuel : Nat} {a : α} (hfuel : variant a < fuel) :
    Triple (I a) (Call.whileDo condition body fuel a)
      (fun r s => ∃ b, r = some b ∧ condition b = false ∧ I b s) E := by
  induction fuel generalizing a with
  | zero => omega
  | succ fuel ih =>
    unfold Call.whileDo
    cases hcondition : condition a with
    | false =>
      apply Triple.pure
      intro s hs
      exact ⟨a, rfl, hcondition, hs⟩
    | true =>
      apply (hbody a hcondition).bind
      intro b s hs
      have hnext : variant b < fuel := by omega
      exact ih hnext s hs.1

theorem Triple.of_imp_error {P : σ → Prop} {x : Call σ ε α} {Q : α → σ → Prop}
    {E E' : ε → σ → Prop} (hx : Triple P x Q E) (hE : ∀ e s, E e s → E' e s) :
    Triple P x Q E' := by
  intro s hs
  have hran := hx s hs
  cases hxs : x s with
  | mk result t =>
    rw [hxs] at hran
    cases result with
    | ok a => exact hran
    | error e => exact hE e t hran

/-- What a triple says of one run. -/
theorem Triple.run {P : σ → Prop} {x : Call σ ε α} {Q : α → σ → Prop} {E : ε → σ → Prop}
    {R : Except ε α × σ → Prop} (hx : Triple P x Q E) (hok : ∀ a t, Q a t → R (.ok a, t))
    (herror : ∀ e t, E e t → R (.error e, t)) {s : σ} (hs : P s) : R (x s) := by
  have hran := hx s hs
  cases hxs : x s with
  | mk result t =>
    rw [hxs] at hran
    cases result with
    | ok a => exact hok a t hran
    | error e => exact herror e t hran

theorem Triple.tryCatch {P : σ → Prop} {x : Call σ ε α} {handler : ε → Call σ ε' α}
    {Q : α → σ → Prop} {E : ε → σ → Prop} {E' : ε' → σ → Prop} (hx : Triple P x Q E)
    (hhandler : ∀ e, Triple (E e) (handler e) Q E') : Triple P (Call.tryCatch x handler) Q E' := by
  intro s hs
  have hran := hx s hs
  unfold Call.tryCatch
  cases hxs : x s with
  | mk result t =>
    rw [hxs] at hran
    cases result with
    | ok a => exact hran
    | error e => exact hhandler e t hran

theorem Triple.tryFinally {P : σ → Prop} {x : Call σ ε α} {cleanup : σ → σ}
    {Q Q' : α → σ → Prop} {E E' : ε → σ → Prop} (hx : Triple P x Q E)
    (hQ : ∀ a s, Q a s → Q' a (cleanup s)) (hE : ∀ e s, E e s → E' e (cleanup s)) :
    Triple P (Call.tryFinally x cleanup) Q' E' := by
  intro s hs
  have hran := hx s hs
  unfold Call.tryFinally
  cases hxs : x s with
  | mk result t =>
    rw [hxs] at hran
    cases result with
    | ok a => exact hQ a t hran
    | error e => exact hE e t hran

theorem Triple.onError {P : σ → Prop} {x : Call σ ε α} {cleanup : σ → σ} {Q : α → σ → Prop}
    {E E' : ε → σ → Prop} (hx : Triple P x Q E) (hE : ∀ e s, E e s → E' e (cleanup s)) :
    Triple P (Call.onError x cleanup) Q E' := by
  intro s hs
  have hran := hx s hs
  unfold Call.onError
  cases hxs : x s with
  | mk result t =>
    rw [hxs] at hran
    cases result with
    | ok a => exact hran
    | error e => exact hE e t hran

end OpendalMbt.Transition.Call
