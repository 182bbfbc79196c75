import OpendalMbt.Transition.Call

/-!
# An error cell beside a state

Part of the state is a cell for the last error. Most operations only ever write it: what they
return, and what they do to the rest, does not depend on what the cell holds.

* `Untouched`: an operation that neither reads nor writes the cell;
* `Blind`: a call that does not read the cell, and leaves it alone when it returns;
* `WriteOnly`: an operation that leaves its own failure in the cell, or leaves the cell alone;
* `WriteOnly.get_eq`: the failure is what the operation leaves in an empty cell.
-/

namespace OpendalMbt.Transition

/-- A cell of `σ` for an error of type `ε`. -/
structure Cell (σ ε : Type) where
  get : σ → Option ε
  put : Option ε → σ → σ
  get_put : ∀ e s, get (put e s) = e
  put_get : ∀ s, put (get s) s = s
  put_put : ∀ e e' s, put e (put e' s) = put e s

namespace Cell

variable {σ ε α β : Type} (c : Cell σ ε)

def Untouched (f : σ → β × σ) : Prop := ∀ s e, f (c.put e s) = ((f s).1, c.put e (f s).2)

def Blind (x : Call σ ε α) : Prop :=
  ∀ s e, ∃ e', x (c.put e s) = ((x s).1, c.put e' (x s).2) ∧ ∀ v, (x s).1 = .ok v → e' = e

def WriteOnly (f : σ → β × σ) : Prop :=
  ∀ s, ∃ failure : Option ε, ∀ e, f (c.put e s) = ((f s).1, c.put (failure.or e) (f s).2)

/-- What the operation leaves in an empty cell. -/
def failure (f : σ → β × σ) (s : σ) : Option ε := c.get (f (c.put none s)).2

variable {c}

/-! ## Calls -/

theorem Untouched.blind {x : Call σ ε α} (h : c.Untouched x) : c.Blind x :=
  fun s e => ⟨e, h s e, fun _ _ => rfl⟩

theorem blind_pure (a : α) : c.Blind (pure a : Call σ ε α) :=
  Untouched.blind fun _ _ => rfl

theorem blind_throw (e : ε) : c.Blind (Call.throw e : Call σ ε α) :=
  Untouched.blind fun _ _ => rfl

theorem blind_modify {f : σ → σ} (h : ∀ s e, f (c.put e s) = c.put e (f s)) :
    c.Blind (Call.modify f : Call σ ε Unit) := by
  apply Untouched.blind
  intro s e
  rw [Call.modify_apply, Call.modify_apply, h]

theorem Blind.bind {x : Call σ ε α} {f : α → Call σ ε β} (hx : c.Blind x)
    (hf : ∀ a, c.Blind (f a)) : c.Blind (x >>= f) := by
  intro s e
  obtain ⟨e₁, hput, hkeep⟩ := hx s e
  cases hrun : x s with
  | mk result t =>
    rw [hrun] at hput hkeep
    cases result with
    | error error =>
      refine ⟨e₁, ?_, ?_⟩
      · rw [Call.bind_apply_error hput, Call.bind_apply_error hrun]
      · rw [Call.bind_apply_error hrun]
        intro v hv
        cases hv
    | ok a =>
      obtain ⟨e₂, hput₂, hkeep₂⟩ := hf a t e₁
      rw [Call.bind_apply_ok hput, Call.bind_apply_ok hrun]
      refine ⟨e₂, hput₂, ?_⟩
      intro v hv
      rw [hkeep₂ v hv, hkeep a rfl]

/-- The value of a call, or what becomes of its error, which is put into the cell. -/
def record (c : Cell σ ε) (good : α → β) (failed : ε → β) (x : Call σ ε α) (s : σ) : β × σ :=
  match x s with
  | (.ok value, s) => (good value, s)
  | (.error e, s) => (failed e, c.put (some e) s)

theorem Blind.record {x : Call σ ε α} (hx : c.Blind x) (good : α → β) (failed : ε → β) :
    c.WriteOnly (c.record good failed x) := by
  intro s
  cases hrun : x s with
  | mk result t =>
    cases result with
    | error error =>
      refine ⟨some error, fun e => ?_⟩
      obtain ⟨e', hput, -⟩ := hx s e
      rw [hrun] at hput
      simp only [Cell.record, hput, hrun, Option.some_or, c.put_put]
    | ok a =>
      refine ⟨none, fun e => ?_⟩
      obtain ⟨e', hput, hkeep⟩ := hx s e
      rw [hrun] at hput hkeep
      simp only [Cell.record, hput, hrun, Option.none_or, hkeep a rfl]

/-! ## What the cell holds afterwards -/

theorem Untouched.writeOnly {f : σ → β × σ} (h : c.Untouched f) : c.WriteOnly f :=
  fun s => ⟨none, fun e => h s e⟩

section WriteOnly

variable {f : σ → β × σ} (h : c.WriteOnly f) (s : σ)

include h

theorem WriteOnly.put_eq (e : Option ε) :
    f (c.put e s) = ((f s).1, c.put ((c.failure f s).or e) (f s).2) := by
  obtain ⟨failure, hfailure⟩ := h s
  have hnone : c.failure f s = failure := by
    unfold Cell.failure
    rw [hfailure none, c.get_put, Option.or_none]
  rw [hfailure e, hnone]

/-- The failure of the operation, or what the cell held. -/
theorem WriteOnly.get_eq : c.get (f s).2 = (c.failure f s).or (c.get s) := by
  have hput := h.put_eq s (c.get s)
  rw [c.put_get] at hput
  rw [hput, c.get_put]

end WriteOnly

end Cell

end OpendalMbt.Transition
