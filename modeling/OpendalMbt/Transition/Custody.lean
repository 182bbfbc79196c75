import Mathlib.Logic.Relation
import Mathlib.Tactic.Common

/-!
# Custody of one resource

A cell guards one resource and lends it to one operation at a time. `Custody` says where
the resource is: in the cell, with the operation it was lent to, with an operation that
may no longer give it back, or nowhere. The four states have at most one holder by
construction, and none while the resource is in the cell.

`Step` are the moves that a correct cell makes. Once the cell has been shut no step opens
it again (`Step.shut`), and nobody borrows from it again (`shut_holder`).
-/

namespace OpendalMbt.Transition

inductive Custody (ι : Type*) where
  | stored
  | lent (i : ι)
  | revoked (i : ι)
  | closed

namespace Custody

variable {ι : Type*} {c c' : Custody ι} {i j : ι}

/-- The operation that has the resource, or had it last and never gave it back. -/
def holder : Custody ι → Option ι
  | .stored | .closed => none
  | .lent i | .revoked i => some i

def IsShut : Custody ι → Prop
  | .stored | .lent _ => False
  | .revoked _ | .closed => True

/-- Forbid the holder, if there is one, to give the resource back. -/
def revoke : Custody ι → Custody ι
  | .stored | .closed => .closed
  | .lent i | .revoked i => .revoked i

inductive Step : Custody ι → Custody ι → Prop where
  | lend (i : ι) : Step .stored (.lent i)
  | restore (i : ι) : Step (.lent i) .stored
  | settle (i : ι) : Step (.lent i) .closed
  | discard (i : ι) : Step (.revoked i) .closed
  | revoke (c : Custody ι) : Step c c.revoke

@[simp] theorem isShut_revoke (c : Custody ι) : c.revoke.IsShut := by
  cases c <;> trivial

@[simp] theorem holder_revoke (c : Custody ι) : c.revoke.holder = c.holder := by
  cases c <;> rfl

theorem stored_of_not_shut (hshut : ¬ c.IsShut) (hholder : c.holder = none) : c = .stored := by
  cases c with
  | stored => rfl
  | lent i => cases hholder
  | revoked i => exact absurd trivial hshut
  | closed => exact absurd trivial hshut

theorem lent_of_not_shut (hshut : ¬ c.IsShut) (hholder : c.holder = some i) : c = .lent i := by
  cases c with
  | lent j =>
    cases hholder
    rfl
  | stored => cases hholder
  | revoked j => exact absurd trivial hshut
  | closed => exact absurd trivial hshut

theorem Step.shut (h : Step c c') (hshut : c.IsShut) : c'.IsShut := by
  cases h with
  | lend i => exact hshut.elim
  | restore i => exact hshut.elim
  | settle i => trivial
  | discard i => trivial
  | revoke => exact isShut_revoke c

theorem shut_of_steps (h : Relation.ReflTransGen Step c c') (hshut : c.IsShut) : c'.IsShut := by
  induction h with
  | refl => exact hshut
  | tail _ hstep ih => exact hstep.shut ih

/-- Out of a shut cell nothing is lent: a later holder was the holder already. -/
theorem shut_holder (h : Relation.ReflTransGen Step c c') (hshut : c.IsShut)
    (hholder : c'.holder = some i) : c.holder = some i := by
  induction h with
  | refl => exact hholder
  | tail hsteps hstep ih =>
    have hb := shut_of_steps hsteps hshut
    apply ih
    cases hstep with
    | lend j => exact hb.elim
    | restore j => exact hb.elim
    | settle j => cases hholder
    | discard j => cases hholder
    | revoke => rwa [holder_revoke] at hholder

end Custody

end OpendalMbt.Transition
