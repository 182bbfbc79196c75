import Mathlib.Data.List.Nodup
import Mathlib.Data.List.Perm.Basic
import Mathlib.Logic.Function.Basic
import Mathlib.Tactic.Common

/-!
# Tables and their entries

A table `f : κ → Option β` is told by a list of entries when the list has each key once and holds
exactly what the table says.

* `Tells.add`, `Tells.remove`, `Tells.perm`: one entry more, one less, another order;
* `perm_cons_eraseIdx`: one item of a list, and the rest.
-/

namespace OpendalMbt.Transition

open Function

variable {κ β : Type*} {f g : κ → Option β} {entries entries' : List (κ × β)} {k : κ} {v : β}

/-- The entries of the table `f`, each key once. -/
structure Tells (f : κ → Option β) (entries : List (κ × β)) : Prop where
  nodup : (entries.map Prod.fst).Nodup
  mem_iff : ∀ k v, f k = some v ↔ (k, v) ∈ entries

theorem Tells.congr (h : Tells f entries) (hfg : ∀ k, g k = f k) : Tells g entries where
  nodup := h.nodup
  mem_iff := by
    intro k v
    rw [hfg, h.mem_iff]

theorem Tells.perm (h : Tells f entries) (hperm : entries.Perm entries') : Tells f entries' where
  nodup := (hperm.map Prod.fst).nodup_iff.mp h.nodup
  mem_iff := by
    intro k v
    rw [h.mem_iff, hperm.mem_iff]

theorem Tells.apply (h : Tells f entries) (hmem : (k, v) ∈ entries) : f k = some v :=
  (h.mem_iff k v).mpr hmem

theorem Tells.not_mem (h : Tells f entries) (hk : f k = none) : k ∉ entries.map Prod.fst := by
  intro hmem
  obtain ⟨⟨k', v⟩, hentry, rfl⟩ := List.mem_map.mp hmem
  rw [h.apply hentry] at hk
  cases hk

variable [DecidableEq κ]

theorem Tells.add (h : Tells f entries) (hk : f k = none) :
    Tells (update f k (some v)) ((k, v) :: entries) where
  nodup := List.nodup_cons.mpr ⟨h.not_mem hk, h.nodup⟩
  mem_iff := by
    intro k' v'
    by_cases hk' : k' = k
    · subst hk'
      have hnot : (k', v') ∉ entries := fun hmem =>
        h.not_mem hk (List.mem_map.mpr ⟨(k', v'), hmem, rfl⟩)
      simp [hnot, eq_comm]
    · simp [hk', h.mem_iff]

theorem Tells.remove (h : Tells f ((k, v) :: entries)) : Tells (update f k none) entries where
  nodup := (List.nodup_cons.mp h.nodup).2
  mem_iff := by
    intro k' v'
    by_cases hk' : k' = k
    · subst hk'
      have hnot : (k', v') ∉ entries := fun hmem =>
        (List.nodup_cons.mp h.nodup).1 (List.mem_map.mpr ⟨(k', v'), hmem, rfl⟩)
      simp [hnot]
    · rw [update_of_ne hk', h.mem_iff, List.mem_cons]
      simp [hk']

/-! ## One item of a list -/

theorem perm_cons_eraseIdx {α : Type*} {l : List α} {i : Nat} {x : α} (h : l[i]? = some x) :
    l.Perm (x :: l.eraseIdx i) := by
  obtain ⟨hi, rfl⟩ := List.getElem?_eq_some_iff.mp h
  exact (List.getElem_cons_eraseIdx_perm hi).symm

end OpendalMbt.Transition
