import OpendalMbt.Bridge.Handle
import OpendalMbt.Transition.OnceMap
import Mathlib.Data.List.Count

/-!
# The handle arena

`Arena` of `wasm/browser-bridge/src/lib.rs`: a vector of slots, each with a generation and
an optional resource. `insert` reuses the first free slot or grows the vector, `take`
removes a resource and moves its slot to the next generation, and generation 0 retires a
slot. A function taking `&mut self` returns the arena it leaves behind beside its result.

`insert_cases` and `take_cases` say once what the two mutations can do. From them,
`Valid` is kept, and on valid arenas the operations are those of a `OnceMap` from handles
to resources (`view_insert`, `view_take`, `view_write`): an arena never issues a handle
twice.
-/

namespace OpendalMbt.Bridge

open Transition

/-- A resource type with the source's `Resource::kind`. -/
class Kinded (ρ : Type) where
  kind : ρ → ResourceKind

export Kinded (kind)

structure Slot (ρ : Type) where
  generation : UInt16
  resource : Option ρ
  deriving DecidableEq, Repr

/-- The slots that `insert` may reuse. -/
def Slot.free {ρ : Type} (slot : Slot ρ) : Bool :=
  slot.resource.isNone && slot.generation != 0

structure Arena (ρ : Type) where
  slots : List (Slot ρ) := []
  live : UInt32 := 0
  deriving DecidableEq, Repr

def wrongResourceType {ρ : Type} [Kinded ρ] (handle : UInt32) (expected : ResourceKind)
    (actual : ρ) : BridgeError :=
  .wrongResourceType handle expected.name (kind actual).name

/-- The slot has been through `generation`: it is retired, past it, or occupied in it. -/
def Slot.IssuedBy {ρ : Type} (slot : Slot ρ) (generation : UInt16) : Prop :=
  slot.generation = 0 ∨ generation < slot.generation ∨
    generation = slot.generation ∧ slot.resource.isSome

namespace Arena

variable {ρ : Type}

def canInsert (a : Arena ρ) : Bool :=
  a.slots.any Slot.free || a.slots.length < maxSlots

def insert (a : Arena ρ) (resource : ρ) : Except BridgeError UInt32 × Arena ρ :=
  match a.slots.findIdx? Slot.free with
  | some index =>
    let generation := ((a.slots[index]?).map Slot.generation).getD 0
    (.ok (encodeHandle index generation),
      { slots := a.slots.set index ⟨generation, some resource⟩, live := a.live + 1 })
  | none =>
    if a.slots.length = maxSlots then (.error .handleLimit, a)
    else
      (.ok (encodeHandle a.slots.length 1),
        { slots := a.slots ++ [⟨1, some resource⟩], live := a.live + 1 })

/-- The lookup behind `resource` and `resource_mut`. -/
def resource (a : Arena ρ) (handle : UInt32) : Except BridgeError ρ :=
  match decodeHandle handle with
  | .error e => .error e
  | .ok (index, generation) =>
    match a.slots[index]? with
    | none => .error (.invalidHandle handle)
    | some slot =>
      if slot.generation ≠ generation then .error (.invalidHandle handle)
      else
        match slot.resource with
        | none => .error (.invalidHandle handle)
        | some r => .ok r

/-- Assignment through the reference that `resource_mut` returned for `handle`. -/
def write (a : Arena ρ) (handle : UInt32) (r : ρ) : Arena ρ :=
  match decodeHandle handle with
  | .error _ => a
  | .ok (index, generation) => { a with slots := a.slots.set index ⟨generation, some r⟩ }

section Kinds

variable [Kinded ρ]

def ensureInsertCapacityAfterTake (a : Arena ρ) (handle : UInt32) (expected : ResourceKind) :
    Except BridgeError Unit :=
  match decodeHandle handle with
  | .error e => .error e
  | .ok (_, generation) =>
    match a.resource handle with
    | .error _ => .error (.invalidHandle handle)
    | .ok r =>
      if kind r ≠ expected then .error (wrongResourceType handle expected r)
      else if generation = maxGeneration ∧ a.canInsert = false then .error .handleLimit
      else .ok ()

def take (a : Arena ρ) (handle : UInt32) (expected : ResourceKind) :
    Except BridgeError ρ × Arena ρ :=
  match decodeHandle handle with
  | .error e => (.error e, a)
  | .ok (index, generation) =>
    match a.slots[index]? with
    | none => (.error (.invalidHandle handle), a)
    | some slot =>
      if slot.generation ≠ generation then (.error (.invalidHandle handle), a)
      else
        match slot.resource with
        | none => (.error (.invalidHandle handle), a)
        | some r =>
          if kind r ≠ expected then (.error (wrongResourceType handle expected r), a)
          else
            (.ok r,
              { slots := a.slots.set index ⟨nextGeneration slot.generation, none⟩
                live := a.live - 1 })

def release (a : Arena ρ) (handle : UInt32) (expected : ResourceKind) :
    Except BridgeError Unit × Arena ρ :=
  let (result, a') := a.take handle expected
  (result.map fun _ => (), a')

end Kinds

def clear (_ : Arena ρ) : Arena ρ := {}

/-! ## What an operation can do -/

theorem resource_eq_ok {a : Arena ρ} {handle : UInt32} {r : ρ} :
    a.resource handle = .ok r ↔
      ∃ index generation, decodeHandle handle = .ok (index, generation) ∧
        a.slots[index]? = some ⟨generation, some r⟩ := by
  unfold resource
  constructor
  · intro h
    split at h
    · cases h
    · rename_i index generation hdec
      refine ⟨index, generation, hdec, ?_⟩
      split at h
      · cases h
      · rename_i slot hslot
        obtain ⟨g, res⟩ := slot
        split at h
        · cases h
        · rename_i hgen
          obtain rfl := not_not.mp hgen
          cases res with
          | none => cases h
          | some r' =>
            cases h
            exact hslot
  · rintro ⟨index, generation, hdec, hslot⟩
    simp [hdec, hslot]

theorem free_eq_true {slot : Slot ρ} :
    slot.free = true ↔ slot.resource = none ∧ slot.generation ≠ 0 := by
  simp [Slot.free]

theorem insert_cases (a : Arena ρ) (r : ρ) :
    (∃ index generation, a.slots[index]? = some ⟨generation, none⟩ ∧ generation ≠ 0 ∧
      a.insert r = (.ok (encodeHandle index generation),
        { slots := a.slots.set index ⟨generation, some r⟩, live := a.live + 1 })) ∨
    ((∀ slot ∈ a.slots, slot.free = false) ∧ a.slots.length ≠ maxSlots ∧
      a.insert r = (.ok (encodeHandle a.slots.length 1),
        { slots := a.slots ++ [⟨1, some r⟩], live := a.live + 1 })) ∨
    ((∀ slot ∈ a.slots, slot.free = false) ∧ a.slots.length = maxSlots ∧
      a.insert r = (.error .handleLimit, a)) := by
  unfold insert
  cases hfind : a.slots.findIdx? Slot.free with
  | some index =>
    obtain ⟨hlt, hfree, -⟩ := List.findIdx?_eq_some_iff_getElem.mp hfind
    obtain ⟨hres, hgen⟩ := free_eq_true.mp hfree
    have hget : a.slots[index]? = some ⟨a.slots[index].generation, none⟩ := by
      rw [List.getElem?_eq_getElem hlt, ← hres]
    exact .inl ⟨index, _, hget, hgen, by simp [hget]⟩
  | none =>
    have hnone := List.findIdx?_eq_none_iff.mp hfind
    by_cases hlen : a.slots.length = maxSlots
    · exact .inr (.inr ⟨hnone, hlen, by simp [hlen]⟩)
    · exact .inr (.inl ⟨hnone, hlen, by simp [hlen]⟩)

theorem take_cases [Kinded ρ] (a : Arena ρ) (handle : UInt32) (expected : ResourceKind) :
    (∃ index generation r, decodeHandle handle = .ok (index, generation) ∧
      a.slots[index]? = some ⟨generation, some r⟩ ∧ kind r = expected ∧
      a.take handle expected = (.ok r,
        { slots := a.slots.set index ⟨nextGeneration generation, none⟩, live := a.live - 1 })) ∨
    ∃ e, a.take handle expected = (.error e, a) := by
  unfold take
  split
  · exact .inr ⟨_, rfl⟩
  · rename_i index generation hdec
    split
    · exact .inr ⟨_, rfl⟩
    · rename_i slot hslot
      obtain ⟨g, res⟩ := slot
      split
      · exact .inr ⟨_, rfl⟩
      · rename_i hgen
        obtain rfl := not_not.mp hgen
        cases res with
        | none => exact .inr ⟨_, rfl⟩
        | some r =>
          by_cases hkind : kind r = expected
          · exact .inl ⟨index, _, r, hdec, hslot, hkind, by simp [hkind]⟩
          · exact .inr ⟨_, by simp [hkind]; rfl⟩

theorem insert_error {a a' : Arena ρ} {r : ρ} {e : BridgeError}
    (h : a.insert r = (.error e, a')) : a' = a ∧ e = .handleLimit := by
  rcases insert_cases a r with ⟨i, g, -, -, heq⟩ | ⟨-, -, heq⟩ | ⟨-, -, heq⟩ <;>
    rw [heq] at h <;> cases h
  exact ⟨rfl, rfl⟩

theorem take_error [Kinded ρ] {a a' : Arena ρ} {handle : UInt32} {expected : ResourceKind} {e : BridgeError}
    (h : a.take handle expected = (.error e, a')) : a' = a := by
  rcases take_cases a handle expected with ⟨i, g, r, -, -, -, heq⟩ | ⟨e', heq⟩ <;>
    rw [heq] at h <;> cases h
  rfl

/-! ## Well-formed arenas -/

def occupied (a : Arena ρ) : Nat := a.slots.countP fun slot => slot.resource.isSome

/-- What every operation keeps: at most 65535 slots, generations of 15 bits, a retired slot
is empty, and `live` counts the occupied slots. -/
structure Valid (a : Arena ρ) : Prop where
  slots_le : a.slots.length ≤ maxSlots
  generation_le : ∀ slot ∈ a.slots, slot.generation ≤ maxGeneration
  retired_empty : ∀ slot ∈ a.slots, slot.generation = 0 → slot.resource = none
  live_eq : a.live.toNat = a.occupied

theorem valid_empty : Valid ({} : Arena ρ) := by
  constructor <;> simp [occupied]

theorem Valid.generation_at {a : Arena ρ} (ha : a.Valid) {index : Nat} {generation : UInt16}
    {r : Option ρ} (h : a.slots[index]? = some ⟨generation, r⟩) : generation ≤ maxGeneration :=
  ha.generation_le _ (List.mem_of_getElem? h)

theorem Valid.index_lt {a : Arena ρ} (ha : a.Valid) {index : Nat} {slot : Slot ρ}
    (h : a.slots[index]? = some slot) : index < maxSlots :=
  (List.getElem?_eq_some_iff.mp h).1.trans_le ha.slots_le

theorem Valid.generation_ne_zero {a : Arena ρ} (ha : a.Valid) {index : Nat} {generation : UInt16}
    {r : ρ} (h : a.slots[index]? = some ⟨generation, some r⟩) : generation ≠ 0 := by
  intro h0
  have := ha.retired_empty _ (List.mem_of_getElem? h) h0
  cases this

theorem occupied_le (a : Arena ρ) : a.occupied ≤ a.slots.length := List.countP_le_length

/-- Replacing one slot moves the count by that slot alone. -/
theorem occupied_set {a : Arena ρ} {index : Nat} {old : Slot ρ}
    (h : a.slots[index]? = some old) (new : Slot ρ) (live : UInt32) :
    occupied ⟨a.slots.set index new, live⟩ + (if old.resource.isSome then 1 else 0) =
      a.occupied + (if new.resource.isSome then 1 else 0) := by
  obtain ⟨hlt, hold⟩ := List.getElem?_eq_some_iff.mp h
  have hpos : old.resource.isSome → 0 < a.occupied := fun hs =>
    List.countP_pos_iff.mpr ⟨old, List.mem_of_getElem? h, hs⟩
  unfold occupied at hpos ⊢
  rw [List.countP_set hlt, hold]
  by_cases hs : old.resource.isSome = true
  · have := hpos hs
    simp only [hs, if_true]
    omega
  · simp only [hs, Bool.false_eq_true, if_false]
    omega

theorem mem_set_slots {slots : List (Slot ρ)} {index : Nat} {new slot : Slot ρ}
    (h : slot ∈ slots.set index new) : slot ∈ slots ∨ slot = new :=
  List.mem_or_eq_of_mem_set h

theorem Valid.insert {a a' : Arena ρ} {r : ρ} {result : Except BridgeError UInt32}
    (ha : a.Valid) (h : a.insert r = (result, a')) : a'.Valid := by
  have hlive := ha.live_eq
  rcases insert_cases a r with ⟨i, g, hslot, hg, heq⟩ | ⟨-, hlen, heq⟩ | ⟨-, -, heq⟩ <;>
    rw [heq] at h <;> cases h
  · have hcount := occupied_set hslot ⟨g, some r⟩ (a.live + 1)
    have hle := occupied_le ⟨a.slots.set i ⟨g, some r⟩, a.live + 1⟩
    rw [List.length_set] at hle
    have hmax := ha.slots_le
    unfold maxSlots at hmax
    refine ⟨by simpa using ha.slots_le, ?_, ?_, ?_⟩
    · intro slot hmem
      rcases mem_set_slots hmem with hmem | rfl
      · exact ha.generation_le slot hmem
      · exact ha.generation_at hslot
    · intro slot hmem h0
      rcases mem_set_slots hmem with hmem | rfl
      · exact ha.retired_empty slot hmem h0
      · exact absurd h0 hg
    · simp only [Option.isSome_none, Bool.false_eq_true, if_false, Option.isSome_some,
        if_true] at hcount
      simp only [UInt32.toNat_add, UInt32.toNat_one]
      omega
  · have hle := (occupied_le a).trans ha.slots_le
    have hlt := lt_of_le_of_ne ha.slots_le hlen
    unfold maxSlots at hle
    refine ⟨by simpa using Nat.succ_le_of_lt hlt, ?_, ?_, ?_⟩
    · intro slot hmem
      rcases List.mem_append.mp hmem with hmem | hmem
      · exact ha.generation_le slot hmem
      · rw [List.mem_singleton.mp hmem]
        exact UInt16.le_iff_toNat_le.mpr (by simp [maxGeneration])
    · intro slot hmem h0
      rcases List.mem_append.mp hmem with hmem | hmem
      · exact ha.retired_empty slot hmem h0
      · rw [List.mem_singleton.mp hmem] at h0
        cases h0
    · simp only [occupied, List.countP_append, UInt32.toNat_add, UInt32.toNat_one] at hle hlive ⊢
      simp
      omega
  · exact ha

theorem Valid.take [Kinded ρ] {a a' : Arena ρ} {handle : UInt32} {expected : ResourceKind}
    {result : Except BridgeError ρ} (ha : a.Valid) (h : a.take handle expected = (result, a')) :
    a'.Valid := by
  rcases take_cases a handle expected with ⟨i, g, r, -, hslot, -, heq⟩ | ⟨e, heq⟩ <;>
    rw [heq] at h <;> cases h
  · have hcount := occupied_set hslot ⟨nextGeneration g, none⟩ (a.live - 1)
    have hlive := ha.live_eq
    have hlt := a.live.toNat_lt
    refine ⟨by simpa using ha.slots_le, ?_, ?_, ?_⟩
    · intro slot hmem
      rcases mem_set_slots hmem with hmem | rfl
      · exact ha.generation_le slot hmem
      · exact nextGeneration_le (ha.generation_at hslot)
    · intro slot hmem h0
      rcases mem_set_slots hmem with hmem | rfl
      · exact ha.retired_empty slot hmem h0
      · rfl
    · simp only [Option.isSome_none, Bool.false_eq_true, if_false, Option.isSome_some,
        if_true] at hcount
      simp only [UInt32.toNat_sub, UInt32.toNat_one]
      omega
  · exact ha

theorem Valid.write {a : Arena ρ} {handle : UInt32} {r₀ r : ρ} (ha : a.Valid)
    (h : a.resource handle = .ok r₀) : (a.write handle r).Valid := by
  obtain ⟨i, g, hdec, hslot⟩ := resource_eq_ok.mp h
  have hcount := occupied_set hslot ⟨g, some r⟩ a.live
  have hlive := ha.live_eq
  simp only [Arena.write, hdec]
  refine ⟨by simpa using ha.slots_le, ?_, ?_, ?_⟩
  · intro slot hmem
    rcases mem_set_slots hmem with hmem | rfl
    · exact ha.generation_le slot hmem
    · exact ha.generation_at hslot
  · intro slot hmem h0
    rcases mem_set_slots hmem with hmem | rfl
    · exact ha.retired_empty slot hmem h0
    · exact absurd h0 (ha.generation_ne_zero hslot)
  · simp only [Option.isSome_some, if_true, Nat.add_right_cancel_iff] at hcount
    exact hlive.trans hcount.symm

/-- Taking a resource never underflows `live`. -/
theorem Valid.live_pos {a : Arena ρ} (ha : a.Valid) {handle : UInt32} {r : ρ}
    (h : a.resource handle = .ok r) : 0 < a.live.toNat := by
  obtain ⟨i, g, -, hslot⟩ := resource_eq_ok.mp h
  rw [ha.live_eq]
  exact List.countP_pos_iff.mpr ⟨_, List.mem_of_getElem? hslot, rfl⟩

/-! ## The arena as a map whose keys are used once -/

/-- The resource a handle resolves to. -/
def get? (a : Arena ρ) (handle : UInt32) : Option ρ := (a.resource handle).toOption

theorem get?_eq_some {a : Arena ρ} {handle : UInt32} {r : ρ} :
    a.get? handle = some r ↔ a.resource handle = .ok r := by
  unfold get?
  cases a.resource handle <;> simp [Except.toOption]

theorem get?_eq_some_iff_slot {a : Arena ρ} {handle : UInt32} {r : ρ} :
    a.get? handle = some r ↔
      ∃ index generation, decodeHandle handle = .ok (index, generation) ∧
        a.slots[index]? = some ⟨generation, some r⟩ :=
  get?_eq_some.trans resource_eq_ok

/-- `handle` has been returned by an earlier `insert`, read off the slots alone. -/
def Issued (a : Arena ρ) (handle : UInt32) : Prop :=
  ∃ index generation slot, decodeHandle handle = .ok (index, generation) ∧
    generation ≤ maxGeneration ∧ a.slots[index]? = some slot ∧ slot.IssuedBy generation

theorem Valid.issued_of_get? {a : Arena ρ} (ha : a.Valid) {handle : UInt32} {r : ρ}
    (h : a.get? handle = some r) : a.Issued handle := by
  obtain ⟨i, g, hdec, hslot⟩ := get?_eq_some_iff_slot.mp h
  exact ⟨i, g, _, hdec, ha.generation_at hslot, hslot, .inr (.inr ⟨rfl, rfl⟩)⟩

/-- The abstract view of a well-formed arena. -/
def view (a : Arena ρ) (ha : a.Valid) : OnceMap UInt32 ρ where
  get := a.get?
  used := {handle | a.Issued handle}
  used_of_get := ha.issued_of_get?

theorem get?_encodeHandle {a : Arena ρ} {index : Nat} {generation : UInt16}
    (hindex : index < maxSlots) (hgen : generation ≠ 0) :
    a.get? (encodeHandle index generation) =
      (a.slots[index]?).bind fun slot =>
        if slot.generation = generation then slot.resource else none := by
  unfold get? resource
  rw [decodeHandle_encodeHandle hindex hgen]
  cases hslot : a.slots[index]? with
  | none => simp only [hslot, Except.toOption, Option.bind_none]
  | some slot =>
    obtain ⟨g, res⟩ := slot
    by_cases hg : g = generation
    · cases res <;> simp [hslot, hg, Except.toOption]
    · simp [hslot, hg, Except.toOption]

theorem issued_encodeHandle {a : Arena ρ} {index : Nat} {generation : UInt16}
    (hindex : index < maxSlots) (hgen : generation ≠ 0) :
    a.Issued (encodeHandle index generation) ↔
      generation ≤ maxGeneration ∧
        ∃ slot, a.slots[index]? = some slot ∧ slot.IssuedBy generation := by
  unfold Issued
  rw [decodeHandle_encodeHandle hindex hgen]
  constructor
  · rintro ⟨i, g, slot, hdec, hle, hslot, hby⟩
    cases hdec
    exact ⟨hle, slot, hslot, hby⟩
  · rintro ⟨hle, slot, hslot, hby⟩
    exact ⟨index, generation, slot, rfl, hle, hslot, hby⟩

/-- A handle names the given slot, or no change confined to that slot is seen by it. -/
theorem handle_cases (index : Nat) (handle : UInt32) :
    (∃ generation, generation ≠ 0 ∧ handle = encodeHandle index generation) ∨
    ∀ a a' : Arena ρ, (∀ j, j ≠ index → a'.slots[j]? = a.slots[j]?) →
      a'.get? handle = a.get? handle ∧ (a'.Issued handle ↔ a.Issued handle) := by
  cases hdec : decodeHandle handle with
  | error e =>
    refine .inr fun a a' _ => ?_
    simp [get?, resource, Issued, hdec]
  | ok p =>
    obtain ⟨j, k⟩ := p
    obtain ⟨hj, hk, rfl⟩ := decodeHandle_eq_ok.mp hdec
    by_cases heq : j = index
    · exact .inl ⟨k, hk, by rw [heq]⟩
    · refine .inr fun a a' hsame => ?_
      rw [get?_encodeHandle hj hk, get?_encodeHandle hj hk, issued_encodeHandle hj hk,
        issued_encodeHandle hj hk, hsame j heq]
      exact ⟨rfl, Iff.rfl⟩

theorem getElem?_set_other {slots : List (Slot ρ)} {index : Nat} {slot : Slot ρ} {j : Nat}
    (hj : j ≠ index) : (slots.set index slot)[j]? = slots[j]? :=
  List.getElem?_set_ne (Ne.symm hj)

theorem getElem?_set_same {slots : List (Slot ρ)} {index : Nat} {old : Slot ρ}
    (h : slots[index]? = some old) (slot : Slot ρ) : (slots.set index slot)[index]? = some slot :=
  List.getElem?_set_self (List.getElem?_eq_some_iff.mp h).1

theorem encodeHandle_eq_iff {index : Nat} (hindex : index < maxSlots) {g k : UInt16} :
    encodeHandle index g = encodeHandle index k ↔ g = k :=
  ⟨fun h => (encodeHandle_inj hindex hindex h).2, fun h => h ▸ rfl⟩

/-- A change of one slot that only one of its handles can see: it is enough to compare the
arena with the map at that handle. -/
theorem view_eq (a : Arena ρ) {a' : Arena ρ} (ha' : a'.Valid) {m : OnceMap UInt32 ρ} (index : Nat)
    (generation : UInt16)
    (hother : ∀ j, j ≠ index → a'.slots[j]? = a.slots[j]?)
    (hm : ∀ handle, handle ≠ encodeHandle index generation →
      m.get handle = a.get? handle ∧ (handle ∈ m.used ↔ a.Issued handle))
    (hslot : ∀ k, k ≠ 0 → k ≠ generation →
      a'.get? (encodeHandle index k) = a.get? (encodeHandle index k) ∧
        (a'.Issued (encodeHandle index k) ↔ a.Issued (encodeHandle index k)))
    (hget : a'.get? (encodeHandle index generation) = m.get (encodeHandle index generation))
    (hused : a'.Issued (encodeHandle index generation) ↔
      encodeHandle index generation ∈ m.used) :
    a'.view ha' = m := by
  have hall : ∀ handle, a'.get? handle = m.get handle ∧ (a'.Issued handle ↔ handle ∈ m.used) := by
    intro handle
    by_cases heq : handle = encodeHandle index generation
    · exact heq ▸ ⟨hget, hused⟩
    · have hsame : a'.get? handle = a.get? handle ∧ (a'.Issued handle ↔ a.Issued handle) := by
        rcases @handle_cases ρ index handle with ⟨k, hk, rfl⟩ | hsame
        · exact hslot k hk fun hkg => heq (hkg ▸ rfl)
        · exact hsame a a' hother
      obtain ⟨hmget, hmused⟩ := hm handle heq
      exact ⟨hsame.1.trans hmget.symm, hsame.2.trans hmused.symm⟩
  exact OnceMap.ext (funext fun handle => (hall handle).1) (Set.ext fun handle => (hall handle).2)

/-- A successful `insert` returns a handle that was never issued, and only adds it. -/
theorem view_insert {a a' : Arena ρ} {r : ρ} {handle : UInt32} (ha : a.Valid)
    (h : a.insert r = (.ok handle, a')) :
    ¬ a.Issued handle ∧ a'.view (ha.insert h) = (a.view ha).insert handle r := by
  have ha' := ha.insert h
  rcases insert_cases a r with ⟨i, g, hslot, hg, heq⟩ | ⟨-, hlen, heq⟩ | ⟨-, -, heq⟩ <;>
    rw [heq] at h <;> cases h
  · have hi := ha.index_lt hslot
    have hmax := ha.generation_at hslot
    have hnew := getElem?_set_same hslot ⟨g, some r⟩
    refine ⟨?_, view_eq a ha' i g (fun j hj => getElem?_set_other hj) ?_ ?_ ?_ ?_⟩
    · simp [issued_encodeHandle hi hg, hslot, Slot.IssuedBy, hg]
    · intro x hx
      exact ⟨Function.update_of_ne hx _ _, by simp [OnceMap.insert, view, hx]⟩
    · intro k hk hkg
      simp [get?_encodeHandle hi hk, issued_encodeHandle hi hk, hslot, hnew, Slot.IssuedBy, hkg,
        Ne.symm hkg]
    · simp [get?_encodeHandle hi hg, hnew, OnceMap.insert]
    · simp [issued_encodeHandle hi hg, hnew, Slot.IssuedBy, hmax, OnceMap.insert]
  · have hi : a.slots.length < maxSlots := lt_of_le_of_ne ha.slots_le hlen
    have hg : (1 : UInt16) ≠ 0 := by decide
    have hmax : (1 : UInt16) ≤ maxGeneration := by decide
    have hold : a.slots[a.slots.length]? = none := List.getElem?_eq_none (Nat.le_refl _)
    have hnew : (a.slots ++ [(⟨1, some r⟩ : Slot ρ)])[a.slots.length]? = some ⟨1, some r⟩ := by
      simp
    refine ⟨?_, view_eq a ha' a.slots.length 1 (fun j hj => ?_) ?_ ?_ ?_ ?_⟩
    · simp [issued_encodeHandle hi hg]
    · rcases Nat.lt_or_gt_of_ne hj with hlt | hgt
      · exact List.getElem?_append_left hlt
      · rw [List.getElem?_eq_none (by simpa using Nat.succ_le_of_lt hgt), List.getElem?_eq_none hgt.le]
    · intro x hx
      exact ⟨Function.update_of_ne hx _ _, by simp [OnceMap.insert, view, hx]⟩
    · intro k hk hkg
      have hlt : ¬ k < 1 := fun h => hk (UInt16.lt_one_iff.mp h)
      simp [get?_encodeHandle hi hk, issued_encodeHandle hi hk, Slot.IssuedBy, hkg,
        Ne.symm hkg, hlt]
    · simp [get?_encodeHandle hi hg, OnceMap.insert]
    · simp [issued_encodeHandle hi hg, Slot.IssuedBy, hmax, OnceMap.insert]

/-- A successful `take` returns what the handle resolved to, and only removes it. -/
theorem view_take [Kinded ρ] {a a' : Arena ρ} {handle : UInt32} {expected : ResourceKind} {r : ρ}
    (ha : a.Valid) (h : a.take handle expected = (.ok r, a')) :
    a.get? handle = some r ∧ kind r = expected ∧
      a'.view (ha.take h) = (a.view ha).erase handle := by
  have ha' := ha.take h
  rcases take_cases a handle expected with ⟨i, g, r', hdec, hslot, hkind, heq⟩ | ⟨e, heq⟩ <;>
    rw [heq] at h <;> cases h
  obtain ⟨hi, hg, rfl⟩ := decodeHandle_eq_ok.mp hdec
  have hmax := ha.generation_at hslot
  have hnew := getElem?_set_same hslot ⟨nextGeneration g, none⟩
  have hissued : ∀ k, k ≠ 0 →
      (Issued ⟨a.slots.set i ⟨nextGeneration g, none⟩, a.live - 1⟩ (encodeHandle i k) ↔
        a.Issued (encodeHandle i k)) := by
    intro k hk
    simp only [issued_encodeHandle hi hk, hslot, hnew, Option.some.injEq, exists_eq_left',
      Slot.IssuedBy, Option.isSome_none, Option.isSome_some, Bool.false_eq_true, and_false,
      or_false, and_true, hg, false_or]
    refine and_congr_right fun hkmax => (lt_nextGeneration_iff hmax hkmax).trans ?_
    exact UInt16.le_iff_lt_or_eq
  refine ⟨get?_eq_some_iff_slot.mpr ⟨i, g, hdec, hslot⟩, hkind,
    view_eq a ha' i g (fun j hj => getElem?_set_other hj) ?_ ?_ ?_ ?_⟩
  · intro x hx
    exact ⟨Function.update_of_ne hx _ _, by simp [OnceMap.erase, view]⟩
  · intro k hk hkg
    refine ⟨?_, hissued k hk⟩
    simp [get?_encodeHandle hi hk, hslot, hnew, Ne.symm hkg]
  · simp [get?_encodeHandle hi hg, hnew, OnceMap.erase]
  · exact hissued g hg

/-- Assignment through a resolved handle changes the resource under it and nothing else. -/
theorem view_write {a : Arena ρ} {handle : UInt32} {r₀ r : ρ} (ha : a.Valid)
    (h : a.resource handle = .ok r₀) :
    (a.write handle r).view (ha.write h) =
      (a.view ha).assign handle r ⟨r₀, get?_eq_some.mpr h⟩ := by
  have ha' : (a.write handle r).Valid := ha.write h
  obtain ⟨i, g, hdec, hslot⟩ := resource_eq_ok.mp h
  obtain ⟨hi, hg, rfl⟩ := decodeHandle_eq_ok.mp hdec
  have hnew := getElem?_set_same hslot ⟨g, some r⟩
  have heq : a.write (encodeHandle i g) r = ⟨a.slots.set i ⟨g, some r⟩, a.live⟩ := by
    simp [Arena.write, hdec]
  have hissued : ∀ k, k ≠ 0 →
      ((a.write (encodeHandle i g) r).Issued (encodeHandle i k) ↔
        a.Issued (encodeHandle i k)) := by
    intro k hk
    simp [heq, issued_encodeHandle hi hk, hslot, hnew, Slot.IssuedBy]
  refine view_eq a ha' i g (fun j hj => by rw [heq]; exact getElem?_set_other hj) ?_ ?_ ?_ ?_
  · intro x hx
    exact ⟨Function.update_of_ne hx _ _, by simp [OnceMap.assign, view]⟩
  · intro k hk hkg
    refine ⟨?_, hissued k hk⟩
    simp [heq, get?_encodeHandle hi hk, hslot, hnew, Ne.symm hkg]
  · simp [heq, get?_encodeHandle hi hg, hnew, OnceMap.assign]
  · exact hissued g hg

/-! Each mutation is one step of the map. -/

theorem Valid.insert_step {a a' : Arena ρ} {r : ρ} {handle : UInt32} (ha : a.Valid)
    (h : a.insert r = (.ok handle, a')) :
    OnceMap.Step (a.view ha) (a'.view (ha.insert h)) := by
  obtain ⟨hfresh, hview⟩ := view_insert ha h
  exact hview ▸ .insert _ handle r hfresh

theorem Valid.take_step [Kinded ρ] {a a' : Arena ρ} {handle : UInt32} {expected : ResourceKind}
    {r : ρ} (ha : a.Valid) (h : a.take handle expected = (.ok r, a')) :
    OnceMap.Step (a.view ha) (a'.view (ha.take h)) :=
  (view_take ha h).2.2 ▸ .erase _ handle

theorem Valid.write_step {a : Arena ρ} {handle : UInt32} {r₀ r : ρ} (ha : a.Valid)
    (h : a.resource handle = .ok r₀) :
    OnceMap.Step (a.view ha) ((a.write handle r).view (ha.write h)) :=
  view_write ha h ▸ .assign _ handle r _

/-! The lookups after each mutation, handle by handle. -/

theorem Valid.get?_write {a : Arena ρ} {handle : UInt32} {r₀ : ρ} (ha : a.Valid)
    (h : a.resource handle = .ok r₀) (r : ρ) (k : UInt32) :
    (a.write handle r).get? k = if k = handle then some r else a.get? k := by
  have hview := congrArg (fun m => m.get k) (view_write (r := r) ha h)
  exact hview.trans (by simp only [OnceMap.assign, Function.update_apply]; rfl)

theorem Valid.issued_write {a : Arena ρ} {handle : UInt32} {r₀ : ρ} (ha : a.Valid)
    (h : a.resource handle = .ok r₀) (r : ρ) (k : UInt32) :
    (a.write handle r).Issued k ↔ a.Issued k :=
  Set.ext_iff.mp (congrArg OnceMap.used (view_write (r := r) ha h)) k

theorem Valid.get?_insert {a a' : Arena ρ} {r : ρ} {handle : UInt32} (ha : a.Valid)
    (h : a.insert r = (.ok handle, a')) (k : UInt32) :
    a'.get? k = if k = handle then some r else a.get? k := by
  have hview := congrArg (fun m => m.get k) (view_insert ha h).2
  exact hview.trans (by simp only [OnceMap.insert, Function.update_apply]; rfl)

theorem Valid.issued_insert {a a' : Arena ρ} {r : ρ} {handle : UInt32} (ha : a.Valid)
    (h : a.insert r = (.ok handle, a')) (k : UInt32) :
    a'.Issued k ↔ k = handle ∨ a.Issued k :=
  Set.ext_iff.mp (congrArg OnceMap.used (view_insert ha h).2) k

theorem Valid.get?_take [Kinded ρ] {a a' : Arena ρ} {handle : UInt32} {expected : ResourceKind}
    {r : ρ} (ha : a.Valid) (h : a.take handle expected = (.ok r, a')) (k : UInt32) :
    a'.get? k = if k = handle then none else a.get? k := by
  have hview := congrArg (fun m => m.get k) (view_take ha h).2.2
  exact hview.trans (by simp only [OnceMap.erase, Function.update_apply]; rfl)

theorem Valid.issued_take [Kinded ρ] {a a' : Arena ρ} {handle : UInt32} {expected : ResourceKind}
    {r : ρ} (ha : a.Valid) (h : a.take handle expected = (.ok r, a')) (k : UInt32) :
    a'.Issued k ↔ a.Issued k :=
  Set.ext_iff.mp (congrArg OnceMap.used (view_take ha h).2.2) k

end Arena

end OpendalMbt.Bridge
