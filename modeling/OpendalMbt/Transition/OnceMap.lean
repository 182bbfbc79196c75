import Mathlib.Data.Set.Insert
import Mathlib.Logic.Function.Basic

/-!
# Maps whose keys are used once

A `OnceMap` is a partial map together with the set of keys it has ever handed out. A key
enters the map only while it is unused and never leaves the used set, so a key that was
erased stays absent whatever happens to the map later (`Step.retired`). This is the
abstract form of a generation-checked handle table.
-/

namespace OpendalMbt.Transition

/-- A partial map and the keys it has used; every present key is a used one. -/
@[ext]
structure OnceMap (κ ρ : Type*) where
  get : κ → Option ρ
  used : Set κ
  used_of_get : ∀ {k r}, get k = some r → k ∈ used

namespace OnceMap

variable {κ ρ : Type*} [DecidableEq κ]

/-- Put a resource under a key, which becomes used. -/
def insert (m : OnceMap κ ρ) (k : κ) (r : ρ) : OnceMap κ ρ where
  get := Function.update m.get k (some r)
  used := Insert.insert k m.used
  used_of_get := by
    intro k' r' h
    by_cases hk : k' = k
    · exact hk ▸ Set.mem_insert _ _
    · rw [Function.update_of_ne hk] at h
      exact Set.mem_insert_of_mem _ (m.used_of_get h)

/-- Remove a key; it stays used. -/
def erase (m : OnceMap κ ρ) (k : κ) : OnceMap κ ρ where
  get := Function.update m.get k none
  used := m.used
  used_of_get := by
    intro k' r' h
    by_cases hk : k' = k
    · rw [hk, Function.update_self] at h
      cases h
    · rw [Function.update_of_ne hk] at h
      exact m.used_of_get h

/-- Replace the resource under a present key. -/
def assign (m : OnceMap κ ρ) (k : κ) (r : ρ) (hk : ∃ r₀, m.get k = some r₀) : OnceMap κ ρ where
  get := Function.update m.get k (some r)
  used := m.used
  used_of_get := by
    intro k' r' h
    by_cases hkk : k' = k
    · obtain ⟨r₀, h₀⟩ := hk
      exact hkk ▸ m.used_of_get h₀
    · rw [Function.update_of_ne hkk] at h
      exact m.used_of_get h

/-- One change of the map: nothing, a fresh insertion, a removal or an assignment. -/
inductive Step : OnceMap κ ρ → OnceMap κ ρ → Prop where
  | refl (m) : Step m m
  | insert (m) (k : κ) (r : ρ) (fresh : k ∉ m.used) : Step m (m.insert k r)
  | erase (m) (k : κ) : Step m (m.erase k)
  | assign (m) (k : κ) (r : ρ) (hk : ∃ r₀, m.get k = some r₀) : Step m (m.assign k r hk)

theorem Step.used_subset {m m' : OnceMap κ ρ} (h : Step m m') : m.used ⊆ m'.used := by
  cases h with
  | insert k r fresh => exact Set.subset_insert _ _
  | _ => exact Set.Subset.rfl

/-- A used key that is absent stays absent. -/
theorem Step.retired {m m' : OnceMap κ ρ} (h : Step m m') {k : κ} (hused : k ∈ m.used)
    (hnone : m.get k = none) : m'.get k = none := by
  cases h with
  | refl => exact hnone
  | insert k' r fresh =>
    have hne : k ≠ k' := fun he => fresh (he ▸ hused)
    exact (Function.update_of_ne hne _ _).trans hnone
  | erase k' =>
    by_cases hk : k = k'
    · exact hk ▸ Function.update_self _ _ _
    · exact (Function.update_of_ne hk _ _).trans hnone
  | assign k' r hk' =>
    have hne : k ≠ k' := by
      rintro rfl
      obtain ⟨r₀, h₀⟩ := hk'
      rw [hnone] at h₀
      cases h₀
    exact (Function.update_of_ne hne _ _).trans hnone

end OnceMap

end OpendalMbt.Transition
