import Mathlib.Data.List.GetD
import Mathlib.Tactic.Common
import OpendalMbt.Codec.Fields

/-!
# Structures in memory

A structure is a row of members, each at the first multiple of its size after the member
before it. `copyMembers` copies members into memory as far as a limit covers them.

* `pairwise_place`: members do not overlap, and stand in their order;
* `stop_le_sizeOfLayout`: a structure covers its members;
* `copyMembers_outside`: what the copy leaves alone;
* `read_copyMembers`: a covered member is there in full.
-/

namespace OpendalMbt.Codec

/-- A byte for every address. -/
abbrev Memory : Type := Nat → UInt8

namespace Memory

variable {m : Memory} {start stop address : Nat} {bytes : List UInt8}

def read (m : Memory) (start size : Nat) : List UInt8 :=
  (List.range size).map fun i => m (start + i)

def clear (start stop : Nat) (m : Memory) : Memory := fun address =>
  if start ≤ address ∧ address < stop then 0 else m address

def write (start : Nat) (bytes : List UInt8) (m : Memory) : Memory := fun address =>
  if start ≤ address then bytes.getD (address - start) (m address) else m address

theorem clear_inside (hstart : start ≤ address) (hstop : address < stop) :
    m.clear start stop address = 0 := if_pos ⟨hstart, hstop⟩

theorem clear_outside (h : address < start ∨ stop ≤ address) :
    m.clear start stop address = m address := if_neg (by omega)

theorem write_outside (h : address < start ∨ start + bytes.length ≤ address) :
    m.write start bytes address = m address := by
  unfold write
  split
  · rw [List.getD_eq_default]
    omega
  · rfl

theorem read_write : (m.write start bytes).read start bytes.length = bytes := by
  unfold read
  apply List.ext_getElem
  · rw [List.length_map, List.length_range]
  · intro i hi hbytes
    rw [List.getElem_map, List.getElem_range]
    unfold write
    rw [if_pos (Nat.le_add_right start i), Nat.add_sub_cancel_left]
    exact List.getD_eq_getElem _ _ hbytes

theorem read_congr {m' : Memory} {size : Nat} (h : ∀ i < size, m (start + i) = m' (start + i)) :
    m.read start size = m'.read start size := by
  apply List.map_congr_left
  intro i hi
  exact h i (List.mem_range.mp hi)

end Memory

/-! ## Layout -/

/-- A member of a structure. -/
structure Slot (ι : Type) where
  field : ι
  offset : Nat
  size : Nat
  deriving DecidableEq, Repr

variable {ι : Type}

def Slot.stop (slot : Slot ι) : Nat := slot.offset + slot.size

def roundUp (n align : Nat) : Nat := n + (align - n % align) % align

/-- The members from an offset on, each aligned to its size. -/
def place (size : ι → Nat) : Nat → List ι → List (Slot ι)
  | _, [] => []
  | offset, field :: fields =>
    ⟨field, roundUp offset (size field), size field⟩ ::
      place size (roundUp offset (size field) + size field) fields

/-- A structure is as long as its last member, up to its alignment. -/
def sizeOfLayout (align : Nat) (slots : List (Slot ι)) : Nat :=
  roundUp ((slots.getLast?.map Slot.stop).getD 0) align

theorem le_offset_of_mem_place {size : ι → Nat} {fields : List ι} {offset : Nat} {slot : Slot ι}
    (h : slot ∈ place size offset fields) : offset ≤ slot.offset := by
  induction fields generalizing offset with
  | nil => cases h
  | cons field fields ih =>
    have hround : offset ≤ roundUp offset (size field) := Nat.le_add_right _ _
    rcases List.mem_cons.mp h with rfl | h
    · exact hround
    · have hrest := ih h
      omega

theorem pairwise_place (size : ι → Nat) (offset : Nat) (fields : List ι) :
    (place size offset fields).Pairwise (fun a b => a.stop ≤ b.offset) := by
  induction fields generalizing offset with
  | nil => exact List.Pairwise.nil
  | cons field fields ih =>
    apply List.Pairwise.cons
    · intro slot hslot
      exact le_offset_of_mem_place hslot
    · exact ih _

theorem size_of_mem_place {size : ι → Nat} {fields : List ι} {offset : Nat} {slot : Slot ι}
    (h : slot ∈ place size offset fields) : slot.size = size slot.field := by
  induction fields generalizing offset with
  | nil => cases h
  | cons field fields ih =>
    rcases List.mem_cons.mp h with rfl | h
    · rfl
    · exact ih h

/-- Two members are the same or do not overlap. -/
theorem separate_of_mem {slots : List (Slot ι)}
    (h : slots.Pairwise fun a b => a.stop ≤ b.offset) {a b : Slot ι} (ha : a ∈ slots)
    (hb : b ∈ slots) : a = b ∨ a.stop ≤ b.offset ∨ b.stop ≤ a.offset := by
  induction slots with
  | nil => cases ha
  | cons first slots ih =>
    obtain ⟨hafter, hpairwise⟩ := List.pairwise_cons.mp h
    rcases List.mem_cons.mp ha with rfl | hamem
    · rcases List.mem_cons.mp hb with rfl | hbmem
      · exact Or.inl rfl
      · exact Or.inr (Or.inl (hafter b hbmem))
    · rcases List.mem_cons.mp hb with rfl | hbmem
      · exact Or.inr (Or.inr (hafter a hamem))
      · exact ih hpairwise hamem hbmem

theorem stop_le_last {slots : List (Slot ι)} (h : slots.Pairwise fun a b => a.stop ≤ b.offset)
    {slot : Slot ι} (hslot : slot ∈ slots) :
    slot.stop ≤ (slots.getLast?.map Slot.stop).getD 0 := by
  induction slots generalizing slot with
  | nil => cases hslot
  | cons first slots ih =>
    obtain ⟨hafter, hpairwise⟩ := List.pairwise_cons.mp h
    cases slots with
    | nil =>
      rcases List.mem_cons.mp hslot with rfl | hmem
      · exact Nat.le_refl _
      · cases hmem
    | cons second slots =>
      rw [List.getLast?_cons_cons]
      rcases List.mem_cons.mp hslot with rfl | hmem
      · have hsecond := ih hpairwise List.mem_cons_self
        have hnext := hafter second List.mem_cons_self
        unfold Slot.stop at hsecond hnext ⊢
        omega
      · exact ih hpairwise hmem

theorem stop_le_sizeOfLayout {align : Nat} {slots : List (Slot ι)}
    (h : slots.Pairwise fun a b => a.stop ≤ b.offset) {slot : Slot ι} (hslot : slot ∈ slots) :
    slot.stop ≤ sizeOfLayout align slots :=
  Nat.le_trans (stop_le_last h hslot) (Nat.le_add_right _ _)

/-! ## Copies -/

section Copy

variable (base limit : Nat) (value : ι → List UInt8)

/-- A member is copied in full, or not at all. -/
def copyMember (m : Memory) (slot : Slot ι) : Memory :=
  if slot.stop ≤ limit then m.write (base + slot.offset) (value slot.field) else m

def copyMembers (slots : List (Slot ι)) (m : Memory) : Memory :=
  slots.foldl (copyMember base limit value) m

variable {base limit value} {slots : List (Slot ι)} {m : Memory} {address : Nat}

theorem copyMember_outside {slot : Slot ι} (hsize : (value slot.field).length = slot.size)
    (h : slot.stop ≤ limit → address < base + slot.offset ∨ base + slot.stop ≤ address) :
    copyMember base limit value m slot address = m address := by
  unfold copyMember
  split
  · rename_i hcovered
    have houtside := h hcovered
    apply Memory.write_outside
    unfold Slot.stop at houtside
    omega
  · rfl

theorem copyMembers_outside (hsize : ∀ slot ∈ slots, (value slot.field).length = slot.size)
    (h : ∀ slot ∈ slots, slot.stop ≤ limit →
      address < base + slot.offset ∨ base + slot.stop ≤ address) :
    copyMembers base limit value slots m address = m address := by
  unfold copyMembers
  induction slots generalizing m with
  | nil => rfl
  | cons slot slots ih =>
    rw [List.foldl_cons, ih (fun slot hslot => hsize slot (List.mem_cons_of_mem _ hslot))
      (fun slot hslot => h slot (List.mem_cons_of_mem _ hslot))]
    exact copyMember_outside (hsize slot List.mem_cons_self) (h slot List.mem_cons_self)

theorem read_copyMembers (hsize : ∀ slot ∈ slots, (value slot.field).length = slot.size)
    (hseparate : slots.Pairwise fun a b => a.stop ≤ b.offset) {slot : Slot ι}
    (hslot : slot ∈ slots) (hcovered : slot.stop ≤ limit) :
    (copyMembers base limit value slots m).read (base + slot.offset) slot.size =
      value slot.field := by
  unfold copyMembers
  induction slots generalizing m with
  | nil => cases hslot
  | cons first slots ih =>
    have hrest := fun slot hslot => hsize slot (List.mem_cons_of_mem first hslot)
    obtain ⟨hafter, hpairwise⟩ := List.pairwise_cons.mp hseparate
    rw [List.foldl_cons]
    rcases List.mem_cons.mp hslot with rfl | hmem
    · -- No later member reaches back into the first one.
      have hkept : (slots.foldl (copyMember base limit value)
          (copyMember base limit value m slot)).read (base + slot.offset) slot.size =
          (copyMember base limit value m slot).read (base + slot.offset) slot.size := by
        apply Memory.read_congr
        intro i hi
        apply copyMembers_outside hrest
        intro later hlater _
        have hbefore := hafter later hlater
        unfold Slot.stop at hbefore
        omega
      rw [hkept, copyMember, if_pos hcovered, ← hsize slot List.mem_cons_self]
      exact Memory.read_write
    · exact ih hrest hpairwise hmem

end Copy

end OpendalMbt.Codec
