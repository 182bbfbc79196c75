import OpendalMbt.Bridge.HandleSafety

/-!
# Replacing one resource by another

The two moves behind every ownership transfer of an arena: take a resource and insert its
successor, or leave a rest at the handle and insert what was split off. `Replaced` says
what either does to the lookups and to the count of live handles.
-/

namespace OpendalMbt.Bridge.Arena

open Transition

variable {ρ : Type} {a a' : Arena ρ} {handle : UInt32} {r : ρ}

theorem handle_ne_zero {code : UInt32} (h : a.get? code = some r) : code ≠ 0 := by
  obtain ⟨index, generation, hdec, -⟩ := resource_eq_ok.mp (get?_eq_some.mp h)
  intro hzero
  rw [hzero] at hdec
  cases hdec

theorem insert_of_canInsert (ha : a.Valid) (h : a.canInsert = true) (r : ρ) :
    ∃ code a', a.insert r = (.ok code, a') := by
  cases hinsert : a.insert r with
  | mk result a' =>
    cases result with
    | ok code => exact ⟨code, a', rfl⟩
    | error e =>
      have hfull := (insert_fails_iff ha r).mp ⟨e, a', hinsert⟩
      rw [h] at hfull
      cases hfull

theorem take_of_get? [Kinded ρ] {expected : ResourceKind} (hget : a.get? handle = some r)
    (hkind : kind r = expected) : ∃ a', a.take handle expected = (.ok r, a') := by
  obtain ⟨index, generation, hdec, hslot⟩ := resource_eq_ok.mp (get?_eq_some.mp hget)
  refine ⟨{ slots := a.slots.set index ⟨nextGeneration generation, none⟩, live := a.live - 1 }, ?_⟩
  unfold take
  simp only [hdec, hslot, hkind, ne_eq, not_true, if_false]

/-- A write leaves the free slots as they were. -/
theorem canInsert_write {r₀ : ρ} (hget : a.get? handle = some r₀) (r : ρ) :
    (a.write handle r).canInsert = a.canInsert := by
  obtain ⟨index, generation, hdec, hslot⟩ := resource_eq_ok.mp (get?_eq_some.mp hget)
  have hany : (a.slots.set index ⟨generation, some r⟩).any Slot.free = a.slots.any Slot.free := by
    apply Bool.eq_iff_iff.mpr
    simp only [List.any_eq_true, List.mem_iff_getElem?]
    constructor
    · intro ⟨slot, ⟨j, hj⟩, hfree⟩
      by_cases hji : j = index
      · rw [hji, getElem?_set_same hslot] at hj
        cases hj
        cases hfree
      · rw [getElem?_set_other hji] at hj
        exact ⟨slot, ⟨j, hj⟩, hfree⟩
    · intro ⟨slot, ⟨j, hj⟩, hfree⟩
      by_cases hji : j = index
      · rw [hji, hslot] at hj
        cases hj
        cases hfree
      · exact ⟨slot, ⟨j, (getElem?_set_other hji).trans hj⟩, hfree⟩
  simp only [write, hdec, canInsert, hany, List.length_set]

/-- `a'` is `a` with `out` under the new handle `code`, and with `left` in the place of what
`handle` named: nothing, or what a split left behind. -/
structure Replaced (a a' : Arena ρ) (handle code : UInt32) (left : Option ρ) (out : ρ) : Prop where
  valid : a'.Valid
  fresh : ¬ a.Issued code
  nonzero : code ≠ 0
  published : a'.get? code = some out
  source : a'.get? handle = left
  used : a'.Issued handle
  others : ∀ k, k ≠ handle → k ≠ code → a'.get? k = a.get? k
  live : a'.live.toNat = a.live.toNat + if left.isSome then 1 else 0

theorem replaced_of_take [Kinded ρ] {expected : ResourceKind} (ha : a.Valid)
    (hensure : a.ensureInsertCapacityAfterTake handle expected = .ok ())
    (htake : a.take handle expected = (.ok r, a')) (out : ρ) :
    ∃ code a₂, a'.insert out = (.ok code, a₂) ∧ Replaced a a₂ handle code none out := by
  have ha' := ha.take htake
  have hget := (view_take ha htake).1
  obtain ⟨code, a₂, hinsert⟩ := insert_of_canInsert ha' (insert_after_take ha hensure htake) out
  obtain ⟨hpublished, hlive⟩ := insert_handle ha' hinsert
  have htaken := take_live ha htake
  have hissued : a.Issued handle := ha.issued_of_get? hget
  have hfresh : ¬ a.Issued code := by
    rw [← ha.issued_take htake code]
    exact (view_insert ha' hinsert).1
  have hne : handle ≠ code := by
    intro heq
    exact hfresh (heq ▸ hissued)
  refine ⟨code, a₂, hinsert, ha'.insert hinsert, hfresh,
    handle_ne_zero hpublished, hpublished, ?_, ?_, ?_, ?_⟩
  · rw [ha'.get?_insert hinsert, if_neg hne, ha.get?_take htake, if_pos rfl]
  · rw [ha'.issued_insert hinsert, ha.issued_take htake]
    exact Or.inr hissued
  · intro k hk hcode
    rw [ha'.get?_insert hinsert, if_neg hcode, ha.get?_take htake, if_neg hk]
  · simp only [Option.isSome_none, Bool.false_eq_true, if_false]
    omega

theorem replaced_of_write {r₀ : ρ} (ha : a.Valid) (hget : a.get? handle = some r₀)
    (hcan : a.canInsert = true) (left out : ρ) :
    ∃ code a₂, (a.write handle left).insert out = (.ok code, a₂) ∧
      Replaced a a₂ handle code (some left) out := by
  have hres := get?_eq_some.mp hget
  have ha' := ha.write (r := left) hres
  have hcan' : (a.write handle left).canInsert = true := (canInsert_write hget left).trans hcan
  obtain ⟨code, a₂, hinsert⟩ := insert_of_canInsert ha' hcan' out
  obtain ⟨hpublished, hlive⟩ := insert_handle ha' hinsert
  have hissued : a.Issued handle := ha.issued_of_get? hget
  have hfresh : ¬ a.Issued code := by
    rw [← ha.issued_write hres left code]
    exact (view_insert ha' hinsert).1
  have hne : handle ≠ code := by
    intro heq
    exact hfresh (heq ▸ hissued)
  have hsame : (a.write handle left).live = a.live := by
    obtain ⟨index, generation, hdec, -⟩ := resource_eq_ok.mp hres
    simp only [write, hdec]
  refine ⟨code, a₂, hinsert, ha'.insert hinsert, hfresh,
    handle_ne_zero hpublished, hpublished, ?_, ?_, ?_, ?_⟩
  · rw [ha'.get?_insert hinsert, if_neg hne, ha.get?_write hres, if_pos rfl]
  · rw [ha'.issued_insert hinsert, ha.issued_write hres]
    exact Or.inr hissued
  · intro k hk hcode
    rw [ha'.get?_insert hinsert, if_neg hcode, ha.get?_write hres, if_neg hk]
  · simp only [Option.isSome_some, if_true]
    rw [hlive, hsame]

/-- `a'` is `a` without what `handle` named. -/
structure Erased (a a' : Arena ρ) (handle : UInt32) : Prop where
  valid : a'.Valid
  source : a'.get? handle = none
  used : a'.Issued handle
  others : ∀ k, k ≠ handle → a'.get? k = a.get? k
  live : a'.live.toNat + 1 = a.live.toNat

theorem erased_of_take [Kinded ρ] {expected : ResourceKind} (ha : a.Valid)
    (htake : a.take handle expected = (.ok r, a')) : Erased a a' handle where
  valid := ha.take htake
  source := by rw [ha.get?_take htake, if_pos rfl]
  used := by
    rw [ha.issued_take htake]
    exact ha.issued_of_get? (view_take ha htake).1
  others := by
    intro k hk
    rw [ha.get?_take htake, if_neg hk]
  live := take_live ha htake

/-- `a'` is `a` with `r` under the new handle `code`. -/
structure Added (a a' : Arena ρ) (code : UInt32) (r : ρ) : Prop where
  valid : a'.Valid
  fresh : a.get? code = none
  published : a'.get? code = some r
  others : ∀ k, k ≠ code → a'.get? k = a.get? k

theorem added_of_insert {code : UInt32} (ha : a.Valid) (hinsert : a.insert r = (.ok code, a')) :
    Added a a' code r where
  valid := ha.insert hinsert
  fresh := by
    have hfresh := (view_insert ha hinsert).1
    cases hget : a.get? code with
    | none => rfl
    | some r₀ => exact absurd (ha.issued_of_get? hget) hfresh
  published := (insert_handle ha hinsert).1
  others := by
    intro k hk
    rw [ha.get?_insert hinsert, if_neg hk]

/-- The same resources under the same handles. -/
structure Unchanged (a a' : Arena ρ) : Prop where
  valid : a'.Valid
  same : ∀ k, a'.get? k = a.get? k

theorem Unchanged.trans {a₂ : Arena ρ} (h : Unchanged a a') (h₂ : Unchanged a' a₂) :
    Unchanged a a₂ where
  valid := h₂.valid
  same := by
    intro k
    rw [h₂.same, h.same]

/-- What was added and erased again is gone without a trace. -/
theorem Added.erase {code : UInt32} {a₂ : Arena ρ} (h : Added a a' code r)
    (herase : Erased a' a₂ code) : Unchanged a a₂ where
  valid := herase.valid
  same := by
    intro k
    by_cases hk : k = code
    · rw [hk, herase.source, h.fresh]
    · rw [herase.others k hk, h.others k hk]

end OpendalMbt.Bridge.Arena
