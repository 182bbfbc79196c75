import OpendalMbt.Bridge.Arena
import OpendalMbt.Transition.Run

/-!
# Handle safety over whole histories

A history is an arena together with every handle it has issued and every handle that was
taken or released. `ArenaEvent` lists the calls that reach the arena between two clears:
`insert`, `take`, `release`, and a lookup, which may assign through `resource_mut`.

`History.Sound` is what survives every call, and `HandleSafety` is what it gives: no
handle value is issued twice, a removed one never resolves again, a failed call changes
nothing, `live` counts the occupied slots, a retired slot stays retired, and `insert`
fails exactly when every slot is occupied or retired.
-/

namespace OpendalMbt.Bridge

open Transition Arena

variable {ρ : Type}

structure History (ρ : Type) where
  arena : Arena ρ := {}
  issued : List UInt32 := []
  removed : List UInt32 := []

inductive ArenaEvent (ρ : Type) where
  | insert (r : ρ)
  | take (handle : UInt32) (expected : ResourceKind)
  | release (handle : UInt32) (expected : ResourceKind)
  /-- `resource_mut`, and an assignment of `r` when the caller makes one. -/
  | lookup (handle : UInt32) (expected : ResourceKind) (r : Option ρ)

section Calls

variable [Kinded ρ]

/-- The typed accessors (`task_mut`, `writer_mut`, ...) check the kind after the lookup. -/
def Arena.lookup (a : Arena ρ) (handle : UInt32) (expected : ResourceKind) :
    Except BridgeError ρ :=
  match a.resource handle with
  | .error e => .error e
  | .ok r => if kind r = expected then .ok r else .error (wrongResourceType handle expected r)

def History.step (h : History ρ) : ArenaEvent ρ → Option (History ρ)
  | .insert r =>
    match h.arena.insert r with
    | (.ok handle, a) => some { h with arena := a, issued := h.issued ++ [handle] }
    | (.error _, a) => some { h with arena := a }
  | .take handle expected =>
    match h.arena.take handle expected with
    | (.ok _, a) => some { h with arena := a, removed := h.removed ++ [handle] }
    | (.error _, a) => some { h with arena := a }
  | .release handle expected =>
    match h.arena.release handle expected with
    | (.ok _, a) => some { h with arena := a, removed := h.removed ++ [handle] }
    | (.error _, a) => some { h with arena := a }
  | .lookup handle expected new =>
    match h.arena.lookup handle expected, new with
    | .ok _, some r =>
      if kind r = expected then some { h with arena := h.arena.write handle r } else none
    | _, _ => some h

/-- What one call does to a history. -/
theorem History.step_cases {h h' : History ρ} {e : ArenaEvent ρ} (hstep : h.step e = some h') :
    (h' = h) ∨
    (∃ r handle a, h.arena.insert r = (.ok handle, a) ∧
      h' = { h with arena := a, issued := h.issued ++ [handle] }) ∨
    (∃ r handle expected a, h.arena.take handle expected = (.ok r, a) ∧
      h' = { h with arena := a, removed := h.removed ++ [handle] }) ∨
    (∃ r₀ r handle, h.arena.resource handle = .ok r₀ ∧
      h' = { h with arena := h.arena.write handle r }) := by
  cases e with
  | insert r =>
    simp only [step] at hstep
    split at hstep <;> rename_i heq <;> cases hstep
    · exact .inr (.inl ⟨r, _, _, heq, rfl⟩)
    · obtain ⟨rfl, -⟩ := insert_error heq
      exact .inl rfl
  | take handle expected =>
    simp only [step] at hstep
    split at hstep <;> rename_i heq <;> cases hstep
    · exact .inr (.inr (.inl ⟨_, handle, expected, _, heq, rfl⟩))
    · obtain rfl := take_error heq
      exact .inl rfl
  | release handle expected =>
    simp only [step, release] at hstep
    rcases htake : h.arena.take handle expected with ⟨_ | r, a⟩ <;>
      rw [htake] at hstep <;> cases hstep
    · obtain rfl := take_error htake
      exact .inl rfl
    · exact .inr (.inr (.inl ⟨r, handle, expected, a, htake, rfl⟩))
  | lookup handle expected new =>
    simp only [step] at hstep
    split at hstep
    · rename_i r₀ r hlook
      split at hstep <;> cases hstep
      refine .inr (.inr (.inr ⟨r₀, r, handle, ?_, rfl⟩))
      unfold Arena.lookup at hlook
      split at hlook
      · cases hlook
      · rename_i hres
        split at hlook <;> cases hlook
        exact hres
    · cases hstep
      exact .inl rfl

end Calls

/-! ## The invariant -/

/-- The arena is well formed, the issued list has no repetition and lists exactly the
handles the arena has used, and the removed ones no longer resolve. -/
structure History.Sound (h : History ρ) : Prop where
  valid : h.arena.Valid
  nodup : h.issued.Nodup
  issued_iff : ∀ x, x ∈ h.issued ↔ h.arena.Issued x
  removed_issued : ∀ x ∈ h.removed, h.arena.Issued x
  removed_get? : ∀ x ∈ h.removed, h.arena.get? x = none

theorem History.sound_empty : History.Sound ({} : History ρ) where
  valid := valid_empty
  nodup := List.nodup_nil
  issued_iff := by
    intro x
    simp [Issued]
  removed_issued := by simp
  removed_get? := by simp

theorem History.Sound.insert {h : History ρ} (hs : h.Sound) {r : ρ} {handle : UInt32}
    {a : Arena ρ} (heq : h.arena.insert r = (.ok handle, a)) :
    History.Sound { h with arena := a, issued := h.issued ++ [handle] } := by
  obtain ⟨hfresh, hview⟩ := view_insert hs.valid heq
  have hstep := hs.valid.insert_step heq
  have hissued : ∀ x, a.Issued x ↔ x = handle ∨ h.arena.Issued x := fun x =>
    Set.ext_iff.mp (congrArg OnceMap.used hview) x
  refine ⟨hs.valid.insert heq, ?_, ?_, ?_, ?_⟩
  · refine List.nodup_append.mpr ⟨hs.nodup, List.nodup_cons.mpr ⟨List.not_mem_nil, List.nodup_nil⟩, ?_⟩
    intro x hx y hy hxy
    rw [List.mem_singleton.mp hy] at hxy
    exact hfresh ((hs.issued_iff _).mp (hxy ▸ hx))
  · intro x
    rw [List.mem_append, List.mem_singleton, hs.issued_iff, hissued, or_comm]
  · exact fun x hx => hstep.used_subset (hs.removed_issued x hx)
  · exact fun x hx => hstep.retired (hs.removed_issued x hx) (hs.removed_get? x hx)

theorem History.Sound.take [Kinded ρ] {h : History ρ} (hs : h.Sound) {r : ρ} {handle : UInt32}
    {expected : ResourceKind} {a : Arena ρ}
    (heq : h.arena.take handle expected = (.ok r, a)) :
    History.Sound { h with arena := a, removed := h.removed ++ [handle] } := by
  obtain ⟨hget, -, hview⟩ := view_take hs.valid heq
  have hstep := hs.valid.take_step heq
  have hissued : ∀ x, a.Issued x ↔ h.arena.Issued x := fun x =>
    Set.ext_iff.mp (congrArg OnceMap.used hview) x
  have hgone : a.get? handle = none :=
    (congrFun (congrArg OnceMap.get hview) handle).trans (Function.update_self _ _ _)
  refine ⟨hs.valid.take heq, hs.nodup, ?_, ?_, ?_⟩
  · intro x
    rw [hs.issued_iff, hissued]
  · intro x hx
    rcases List.mem_append.mp hx with hx | hx
    · exact (hissued x).mpr (hs.removed_issued x hx)
    · rw [List.mem_singleton.mp hx]
      exact (hissued _).mpr (hs.valid.issued_of_get? hget)
  · intro x hx
    rcases List.mem_append.mp hx with hx | hx
    · exact hstep.retired (hs.removed_issued x hx) (hs.removed_get? x hx)
    · rw [List.mem_singleton.mp hx]
      exact hgone

theorem History.Sound.write {h : History ρ} (hs : h.Sound) {r₀ r : ρ} {handle : UInt32}
    (hres : h.arena.resource handle = .ok r₀) :
    History.Sound { h with arena := h.arena.write handle r } := by
  have hview := view_write (r := r) hs.valid hres
  have hstep := hs.valid.write_step (r := r) hres
  have hissued : ∀ x, (h.arena.write handle r).Issued x ↔ h.arena.Issued x := fun x =>
    Set.ext_iff.mp (congrArg OnceMap.used hview) x
  refine ⟨hs.valid.write hres, hs.nodup, ?_, ?_, ?_⟩
  · intro x
    rw [hs.issued_iff, hissued]
  · exact fun x hx => (hissued x).mpr (hs.removed_issued x hx)
  · exact fun x hx => hstep.retired (hs.removed_issued x hx) (hs.removed_get? x hx)

/-- An issued handle that no longer resolves is not revived by a call. -/
theorem History.Sound.removed_step [Kinded ρ] {h h' : History ρ} (hs : h.Sound)
    {e : ArenaEvent ρ} (hstep : h.step e = some h') {x : UInt32} (hissued : h.arena.Issued x)
    (hnone : h.arena.get? x = none) : h'.arena.Issued x ∧ h'.arena.get? x = none := by
  rcases step_cases hstep with rfl | ⟨r, y, a, heq, rfl⟩ | ⟨r, y, k, a, heq, rfl⟩ |
      ⟨r₀, r, y, hres, rfl⟩
  · exact ⟨hissued, hnone⟩
  · have hmap := hs.valid.insert_step heq
    exact ⟨hmap.used_subset hissued, hmap.retired hissued hnone⟩
  · have hmap := hs.valid.take_step heq
    exact ⟨hmap.used_subset hissued, hmap.retired hissued hnone⟩
  · have hmap := hs.valid.write_step (r := r) hres
    exact ⟨hmap.used_subset hissued, hmap.retired hissued hnone⟩

theorem History.sound_step [Kinded ρ] : Preserves (@History.step ρ _) History.Sound := by
  intro h e h' hstep hs
  rcases step_cases hstep with rfl | ⟨r, x, a, heq, rfl⟩ | ⟨r, x, k, a, heq, rfl⟩ |
      ⟨r₀, r, x, hres, rfl⟩
  · exact hs
  · exact hs.insert heq
  · exact hs.take heq
  · exact hs.write hres

/-! ## Slots -/

/-- A retired slot is left alone by every call. -/
theorem retired_step [Kinded ρ] {h h' : History ρ} {e : ArenaEvent ρ} (hs : h.Sound)
    (hstep : h.step e = some h') {index : Nat} (hslot : h.arena.slots[index]? = some ⟨0, none⟩) :
    h'.arena.slots[index]? = some ⟨0, none⟩ := by
  have hset : ∀ {i : Nat} {g : UInt16} {old : Option ρ} {new : Slot ρ}, g ≠ 0 →
      h.arena.slots[i]? = some ⟨g, old⟩ →
      (h.arena.slots.set i new)[index]? = some ⟨0, none⟩ := by
    intro i g old new hg hold
    have hne : index ≠ i := by
      rintro rfl
      rw [hslot] at hold
      cases hold
      exact hg rfl
    exact (getElem?_set_other hne).trans hslot
  rcases History.step_cases hstep with rfl | ⟨r, x, a, heq, rfl⟩ | ⟨r, x, k, a, heq, rfl⟩ |
      ⟨r₀, r, x, hres, rfl⟩
  · exact hslot
  · rcases insert_cases h.arena r with ⟨i, g, hold, hg, heq'⟩ | ⟨-, -, heq'⟩ | ⟨-, -, heq'⟩ <;>
      rw [heq'] at heq <;> cases heq
    · exact hset hg hold
    · exact (List.getElem?_append_left (List.getElem?_eq_some_iff.mp hslot).1).trans hslot
  · rcases take_cases h.arena x k with ⟨i, g, r', -, hold, -, heq'⟩ | ⟨e, heq'⟩ <;>
      rw [heq'] at heq <;> cases heq
    exact hset (hs.valid.generation_ne_zero hold) hold
  · obtain ⟨i, g, hdec, hold⟩ := resource_eq_ok.mp hres
    simp only [Arena.write, hdec]
    exact hset (hs.valid.generation_ne_zero hold) hold

/-- `canInsert` is false exactly on the arenas whose 65535 slots are occupied or retired. -/
theorem canInsert_eq_false {a : Arena ρ} (ha : a.Valid) :
    a.canInsert = false ↔ a.slots.length = maxSlots ∧
      ∀ slot ∈ a.slots, slot.resource.isSome ∨ slot.generation = 0 := by
  have hfree : ∀ slot : Slot ρ, slot.free = false ↔
      slot.resource.isSome ∨ slot.generation = 0 := by
    intro slot
    cases hres : slot.resource <;> simp [Slot.free, hres]
  simp only [canInsert, Bool.or_eq_false_iff, List.any_eq_false, Bool.not_eq_true, hfree,
    decide_eq_false_iff_not, Nat.not_lt]
  constructor
  · rintro ⟨hall, hlen⟩
    exact ⟨Nat.le_antisymm ha.slots_le hlen, hall⟩
  · rintro ⟨hlen, hall⟩
    exact ⟨hall, hlen.ge⟩

theorem insert_fails_iff {a : Arena ρ} (ha : a.Valid) (r : ρ) :
    (∃ e a', a.insert r = (.error e, a')) ↔ a.canInsert = false := by
  have hcan := canInsert_eq_false ha
  rcases insert_cases a r with ⟨i, g, hslot, hg, heq⟩ | ⟨hnone, hlen, heq⟩ | ⟨hnone, hlen, heq⟩
  · refine iff_of_false (by simp [heq]) fun hfalse => ?_
    rcases (hcan.mp hfalse).2 _ (List.mem_of_getElem? hslot) with hsome | h0
    · cases hsome
    · exact hg h0
  · exact iff_of_false (by simp [heq]) fun hfalse => hlen (hcan.mp hfalse).1
  · refine iff_of_true ⟨_, _, heq⟩ ?_
    simpa [canInsert, hlen] using hnone

/-- A slot whose last generation was taken is left retired. -/
theorem take_retires [Kinded ρ] {a a' : Arena ρ} {handle : UInt32} {expected : ResourceKind}
    {r : ρ} {index : Nat} (hdec : decodeHandle handle = .ok (index, maxGeneration))
    (heq : a.take handle expected = (.ok r, a')) : a'.slots[index]? = some ⟨0, none⟩ := by
  rcases take_cases a handle expected with ⟨i, g, r', hdec', hold, -, heq'⟩ | ⟨e, heq'⟩ <;>
    rw [heq'] at heq <;> cases heq
  rw [hdec] at hdec'
  cases hdec'
  exact getElem?_set_same hold _

theorem retired_run [Kinded ρ] {h h' : History ρ} {es : List (ArenaEvent ρ)} (hs : h.Sound)
    (hrun : run History.step h es = some h') {index : Nat}
    (hslot : h.arena.slots[index]? = some ⟨0, none⟩) :
    h'.arena.slots[index]? = some ⟨0, none⟩ := by
  have hkeep : Preserves (@History.step ρ _)
      fun h => h.Sound ∧ h.arena.slots[index]? = some ⟨0, none⟩ :=
    History.sound_step.and fun _ _ _ hstep hs hslot => retired_step hs hstep hslot
  exact (hkeep.run ⟨hs, hslot⟩ hrun).2

/-! ## What an insertion returns and what a removal leaves behind -/

theorem insert_handle {a a' : Arena ρ} (ha : a.Valid) {r : ρ} {handle : UInt32}
    (heq : a.insert r = (.ok handle, a')) :
    a'.get? handle = some r ∧ a'.live.toNat = a.live.toNat + 1 := by
  have hget : a'.get? handle = some r :=
    (congrFun (congrArg OnceMap.get (view_insert ha heq).2) handle).trans
      (Function.update_self _ _ _)
  refine ⟨hget, ?_⟩
  have hpos := (ha.insert heq).live_pos (get?_eq_some.mp hget)
  have hlive : a'.live = a.live + 1 := by
    rcases insert_cases a r with ⟨i, g, -, -, heq'⟩ | ⟨-, -, heq'⟩ | ⟨-, -, heq'⟩ <;>
      rw [heq'] at heq <;> cases heq <;> rfl
  rw [hlive, UInt32.toNat_add, UInt32.toNat_one] at hpos ⊢
  have hlt := a.live.toNat_lt
  omega

theorem take_live [Kinded ρ] {a a' : Arena ρ} (ha : a.Valid) {r : ρ} {handle : UInt32}
    {expected : ResourceKind} (heq : a.take handle expected = (.ok r, a')) :
    a'.live.toNat + 1 = a.live.toNat := by
  have hpos := ha.live_pos (get?_eq_some.mp (view_take ha heq).1)
  have hlive : a'.live = a.live - 1 := by
    rcases take_cases a handle expected with ⟨i, g, r', -, -, -, heq'⟩ | ⟨e, heq'⟩ <;>
      rw [heq'] at heq <;> cases heq
    rfl
  have hle : (1 : UInt32) ≤ a.live := UInt32.le_iff_toNat_le.mpr hpos
  rw [hlive, UInt32.toNat_sub_of_le _ _ hle, UInt32.toNat_one]
  omega

/-- `ensure_insert_capacity_after_take` is what `take` followed by `insert` needs. -/
theorem insert_after_take [Kinded ρ] {a a' : Arena ρ} (ha : a.Valid) {handle : UInt32}
    {expected : ResourceKind} {r : ρ}
    (hensure : a.ensureInsertCapacityAfterTake handle expected = .ok ())
    (heq : a.take handle expected = (.ok r, a')) : a'.canInsert = true := by
  rcases take_cases a handle expected with ⟨i, g, r', hdec, hold, hkind, heq'⟩ | ⟨e, heq'⟩ <;>
    rw [heq'] at heq <;> cases heq
  have hres := resource_eq_ok.mpr ⟨i, g, hdec, hold⟩
  have hlt := (List.getElem?_eq_some_iff.mp hold).1
  by_cases hmax : g = maxGeneration
  · -- the slot is retired, so the check found room elsewhere
    have hcan : a.canInsert = true := by
      simpa [ensureInsertCapacityAfterTake, hdec, hres, hkind, hmax] using hensure
    rw [canInsert, Bool.or_eq_true, List.any_eq_true, decide_eq_true_iff] at hcan ⊢
    rcases hcan with ⟨slot, hmem, hfree⟩ | hlen
    · obtain ⟨j, hj⟩ := List.mem_iff_getElem?.mp hmem
      have hne : j ≠ i := by
        rintro rfl
        rw [hold] at hj
        cases hj
        cases hfree
      exact .inl ⟨slot, List.mem_of_getElem? ((getElem?_set_other hne).trans hj), hfree⟩
    · exact .inr (by simpa using hlen)
  · have hle : g ≤ maxGeneration := ha.generation_at hold
    have hnext : nextGeneration g ≠ 0 := by
      intro h0
      have := (lt_nextGeneration_iff hle (k := maxGeneration) (UInt16.le_refl _)).mp (.inl h0)
      exact hmax (UInt16.le_antisymm hle this)
    rw [canInsert, Bool.or_eq_true, List.any_eq_true]
    exact .inl ⟨_, List.mem_of_getElem? (getElem?_set_same hold _), free_eq_true.mpr ⟨rfl, hnext⟩⟩

/-! ## Handle safety -/

/-- The guarantees of the handle table in one reached history. -/
structure History.HandleSafety [Kinded ρ] (h : History ρ) : Prop where
  /-- Every issued handle is a positive `i32` that decodes to a slot and its generation. -/
  encoded : ∀ x ∈ h.issued, x ≠ 0 ∧ x.toNat ≤ 0x7FFFFFFF ∧
    ∃ index generation, index < h.arena.slots.length ∧ generation ≠ 0 ∧
      decodeHandle x = .ok (index, generation) ∧ encodeHandle index generation = x
  /-- The handle that `insert` returns decodes to the slot and the generation it filled. -/
  inserted : ∀ r x a, h.arena.insert r = (.ok x, a) →
    ∃ index generation, decodeHandle x = .ok (index, generation) ∧
      a.slots[index]? = some ⟨generation, some r⟩
  issued_once : h.issued.Nodup
  /-- Whatever is called afterwards, a removed handle does not resolve. -/
  removed_dead : ∀ x ∈ h.removed, ∀ es h', run History.step h es = some h' →
    ∃ e, h'.arena.resource x = .error e
  failed_take : ∀ x expected e a, h.arena.take x expected = (.error e, a) → a = h.arena
  failed_release : ∀ x expected e a, h.arena.release x expected = (.error e, a) → a = h.arena
  failed_lookup : ∀ x expected e new, h.arena.lookup x expected = .error e →
    h.step (.lookup x expected new) = some h
  live_eq : h.arena.live.toNat = h.arena.occupied
  live_insert : ∀ r x a, h.arena.insert r = (.ok x, a) →
    a.live.toNat = h.arena.live.toNat + 1
  live_take : ∀ x expected r a, h.arena.take x expected = (.ok r, a) →
    a.live.toNat + 1 = h.arena.live.toNat
  /-- Taking or releasing the last generation of a slot retires it. -/
  retires : ∀ (x : UInt32) (expected : ResourceKind) (index : Nat) (r : ρ) (a : Arena ρ),
    decodeHandle x = .ok (index, maxGeneration) →
    h.arena.take x expected = (.ok r, a) →
    a.slots[index]? = some ⟨0, none⟩ ∧ (h.arena.release x expected).2 = a
  retired : ∀ index : Nat, h.arena.slots[index]? = some ⟨0, none⟩ →
    ∀ es h', run History.step h es = some h' → h'.arena.slots[index]? = some ⟨0, none⟩
  insert_fails : ∀ r, (∃ e a, h.arena.insert r = (.error e, a)) ↔ h.arena.canInsert = false
  full : h.arena.canInsert = false ↔ h.arena.slots.length = maxSlots ∧
    ∀ slot ∈ h.arena.slots, slot.resource.isSome ∨ slot.generation = 0

/-- After every sequence of calls between two clears, the handle table is safe. -/
theorem arena_handle_safety [Kinded ρ] {es : List (ArenaEvent ρ)} {h : History ρ}
    (hrun : run History.step {} es = some h) : h.HandleSafety := by
  have hs : h.Sound := History.sound_step.run History.sound_empty hrun
  have hv := hs.valid
  refine {
    encoded := ?_, inserted := ?_, issued_once := hs.nodup, removed_dead := ?_,
    failed_take := fun x k e a heq => take_error heq, failed_release := ?_, failed_lookup := ?_,
    live_eq := hv.live_eq, live_insert := fun r x a heq => (insert_handle hv heq).2,
    live_take := fun x k r a heq => take_live hv heq, retires := ?_,
    retired := fun i hslot es h' hrun' => retired_run hs hrun' hslot,
    insert_fails := insert_fails_iff hv, full := canInsert_eq_false hv }
  · intro x hx
    obtain ⟨i, g, slot, hdec, hle, hslot, -⟩ := (hs.issued_iff x).mp hx
    obtain ⟨hi, hg, rfl⟩ := decodeHandle_eq_ok.mp hdec
    exact ⟨encodeHandle_ne_zero hi g, encodeHandle_le hi hle, i, g,
      (List.getElem?_eq_some_iff.mp hslot).1, hg, hdec, rfl⟩
  · intro r x a heq
    exact get?_eq_some_iff_slot.mp (insert_handle hv heq).1
  · intro x hx es h' hrun'
    have hdead : h'.Sound ∧ h'.arena.Issued x ∧ h'.arena.get? x = none := by
      have hkeep : Preserves (@History.step ρ _)
          fun h => h.Sound ∧ h.arena.Issued x ∧ h.arena.get? x = none :=
        History.sound_step.and fun _ _ _ hstep hs hx => hs.removed_step hstep hx.1 hx.2
      exact hkeep.run ⟨hs, hs.removed_issued x hx, hs.removed_get? x hx⟩ hrun'
    cases hres : h'.arena.resource x with
    | error e => exact ⟨e, rfl⟩
    | ok r =>
      have hnone := hdead.2.2
      rw [get?_eq_some.mpr hres] at hnone
      cases hnone
  · intro x k e a heq
    unfold release at heq
    rcases htake : h.arena.take x k with ⟨_ | r, a'⟩ <;> rw [htake] at heq <;> cases heq
    exact take_error htake
  · intro x k e new hlook
    simp only [History.step, hlook]
  · intro x k i r a hdec heq
    exact ⟨take_retires hdec heq, by simp [release, heq]⟩

/-- A slot is filled, released and filled again: the second handle has the next generation. -/
theorem arena_handle_safety_reuse :
    (run (@History.step ResourceKind ⟨id⟩) {}
      [.insert .writer, .release 0x10001 .writer, .insert .lister]).map History.issued =
        some [0x10001, 0x20001] ∧
    ∃ h, run (@History.step ResourceKind ⟨id⟩) {}
      [.insert .writer, .release 0x10001 .writer, .insert .lister] = some h ∧
        @History.HandleSafety _ ⟨id⟩ h := by
  refine ⟨by decide, ?_⟩
  obtain ⟨h, hrun⟩ : ∃ h, run (@History.step ResourceKind ⟨id⟩) {}
      [.insert .writer, .release 0x10001 .writer, .insert .lister] = some h := ⟨_, rfl⟩
  exact ⟨h, hrun, @arena_handle_safety _ ⟨id⟩ _ _ hrun⟩

end OpendalMbt.Bridge
