import Mathlib.Data.Nat.Bitwise
import Mathlib.Tactic.Common

/-!
# Resource handles of the browser bridge

A handle packs a 15-bit generation above a 16-bit one-based slot number:
`encodeHandle` and `decodeHandle` of `wasm/browser-bridge/src/lib.rs`. The two are
inverse to each other on the slot indices an arena can have (`decodeHandle_eq_ok`),
so a handle names one generation of one slot.
-/

namespace OpendalMbt.Bridge

/-- `MAX_SLOTS` is `u16::MAX`: the slot number 0 is never used. -/
def maxSlots : Nat := 65535

/-- `MAX_GENERATION` is `i16::MAX`. -/
def maxGeneration : UInt16 := 32767

inductive ResourceKind where
  | buffer | operatorBuilder | operator | metadata | error | task | completion
  | entryList | readStream | writer | lister
  deriving DecidableEq, Repr

def ResourceKind.name : ResourceKind → String
  | .buffer => "buffer"
  | .operatorBuilder => "operator builder"
  | .operator => "operator"
  | .metadata => "metadata"
  | .error => "error"
  | .task => "task"
  | .completion => "completion"
  | .entryList => "entry list"
  | .readStream => "read stream"
  | .writer => "writer"
  | .lister => "lister"

inductive BridgeError where
  | invalidHandle (handle : UInt32)
  | wrongResourceType (handle : UInt32) (expected actual : String)
  | bufferTooLarge
  | indexOutOfBounds (index : UInt32) (length : Nat)
  | invalidByte (value : UInt32)
  | invalidUtf8
  | openDal (kind status : UInt32) (kindName message : String)
  | asyncPending
  | handleLimit
  | lengthOverflow
  | taskNotReady (handle : UInt32)
  | taskConsumed (handle : UInt32)
  | tornDown
  | resourceClosed (handle : UInt32)
  | resourceBusy (handle : UInt32)
  | listTooLarge
  | allocationFailed
  | invalidArgument (message : String)
  deriving DecidableEq, Repr

def encodeHandle (index : Nat) (generation : UInt16) : UInt32 :=
  (generation.toUInt32 <<< 16) ||| (UInt32.ofNat index + 1)

def decodeHandle (handle : UInt32) : Except BridgeError (Nat × UInt16) :=
  let slot := (handle &&& 0xFFFF).toUInt16
  let generation := (handle >>> 16).toUInt16
  if slot = 0 ∨ generation = 0 then .error (.invalidHandle handle)
  else .ok ((slot - 1).toNat, generation)

def nextGeneration (generation : UInt16) : UInt16 :=
  if generation = maxGeneration then
    -- 0 retires the slot, so that no old handle becomes valid again
    0
  else generation + 1

/-! ## The packing as arithmetic -/

theorem encodeHandle_toNat {index : Nat} (hindex : index < maxSlots) (generation : UInt16) :
    (encodeHandle index generation).toNat = generation.toNat * 65536 + (index + 1) := by
  have hgen := generation.toNat_lt
  unfold maxSlots at hindex
  have hslot : (UInt32.ofNat index + 1).toNat = index + 1 := by
    simp only [UInt32.toNat_add, UInt32.toNat_ofNat', UInt32.reduceToNat]
    omega
  have hshift : (generation.toUInt32 <<< 16).toNat = generation.toNat <<< 16 := by
    rw [UInt32.toNat_shiftLeft]
    simp only [UInt16.toNat_toUInt32, UInt32.reduceToNat, Nat.reduceMod, Nat.shiftLeft_eq]
    omega
  rw [encodeHandle, UInt32.toNat_or, hslot, hshift,
    ← Nat.shiftLeft_add_eq_or_of_lt (by omega), Nat.shiftLeft_eq]

theorem slotNumber_toNat (handle : UInt32) :
    (handle &&& 0xFFFF).toUInt16.toNat = handle.toNat % 65536 := by
  have hmask := Nat.and_two_pow_sub_one_eq_mod handle.toNat 16
  simp only [Nat.reducePow, Nat.reduceSub] at hmask
  simp only [UInt32.toNat_toUInt16, UInt32.toNat_and, UInt32.reduceToNat, hmask]
  omega

theorem generation_toNat (handle : UInt32) :
    (handle >>> 16).toUInt16.toNat = handle.toNat / 65536 := by
  have hlt := handle.toNat_lt
  simp only [UInt32.toNat_toUInt16, UInt32.toNat_shiftRight, UInt32.reduceToNat, Nat.reduceMod,
    Nat.shiftRight_eq_div_pow]
  omega

/-- A handle decodes exactly to the slot and the generation it was encoded from. -/
theorem decodeHandle_eq_ok {handle : UInt32} {index : Nat} {generation : UInt16} :
    decodeHandle handle = .ok (index, generation) ↔
      index < maxSlots ∧ generation ≠ 0 ∧ handle = encodeHandle index generation := by
  have hslot := slotNumber_toNat handle
  have hgen := generation_toNat handle
  unfold decodeHandle
  constructor
  · intro h
    simp only at h
    split at h
    · cases h
    · rename_i hne
      obtain ⟨hs0, hg0⟩ := not_or.mp hne
      obtain ⟨rfl, rfl⟩ := Prod.mk.inj (Except.ok.inj h)
      have hpos : (handle &&& 0xFFFF).toUInt16.toNat ≠ 0 := fun h0 =>
        hs0 (UInt16.toNat_inj.mp h0)
      have hsub : ((handle &&& 0xFFFF).toUInt16 - 1).toNat = handle.toNat % 65536 - 1 := by
        rw [UInt16.toNat_sub_of_le _ _ (UInt16.le_iff_toNat_le.mpr (by
          rw [UInt16.toNat_one]; omega)), hslot, UInt16.toNat_one]
      have hidx : handle.toNat % 65536 - 1 < maxSlots := by unfold maxSlots; omega
      refine ⟨hsub ▸ hidx, hg0, ?_⟩
      apply UInt32.toNat_inj.mp
      rw [hsub, encodeHandle_toNat hidx, hgen]
      omega
  · rintro ⟨hidx, hg0, rfl⟩
    rw [encodeHandle_toNat hidx] at hslot hgen
    unfold maxSlots at hidx
    have hglt := generation.toNat_lt
    have hs : (encodeHandle index generation &&& 0xFFFF).toUInt16.toNat = index + 1 := by omega
    have hg : (encodeHandle index generation >>> 16).toUInt16 = generation :=
      UInt16.toNat_inj.mp (by omega)
    have hs0 : (encodeHandle index generation &&& 0xFFFF).toUInt16 ≠ 0 := by
      intro h0
      rw [h0] at hs
      simp at hs
    have hsub : ((encodeHandle index generation &&& 0xFFFF).toUInt16 - 1).toNat = index := by
      rw [UInt16.toNat_sub_of_le _ _ (UInt16.le_iff_toNat_le.mpr (by
        rw [hs, UInt16.toNat_one]; omega)), hs, UInt16.toNat_one]
      omega
    simp only [hg, hs0, hg0, or_self, if_false, hsub]

theorem decodeHandle_encodeHandle {index : Nat} {generation : UInt16} (hindex : index < maxSlots)
    (hgen : generation ≠ 0) : decodeHandle (encodeHandle index generation) = .ok (index, generation) :=
  decodeHandle_eq_ok.mpr ⟨hindex, hgen, rfl⟩

theorem encodeHandle_inj {i j : Nat} {g k : UInt16} (hi : i < maxSlots) (hj : j < maxSlots)
    (h : encodeHandle i g = encodeHandle j k) : i = j ∧ g = k := by
  have hnat := congrArg UInt32.toNat h
  rw [encodeHandle_toNat hi, encodeHandle_toNat hj] at hnat
  unfold maxSlots at hi hj
  exact ⟨by omega, UInt16.toNat_inj.mp (by omega)⟩

theorem encodeHandle_ne_zero {index : Nat} (hindex : index < maxSlots) (generation : UInt16) :
    encodeHandle index generation ≠ 0 := by
  intro h
  have hnat := congrArg UInt32.toNat h
  rw [encodeHandle_toNat hindex, UInt32.toNat_zero] at hnat
  omega

/-- The sign bit of a handle is never set, so it is also a valid `i32`. -/
theorem encodeHandle_le {index : Nat} {generation : UInt16} (hindex : index < maxSlots)
    (hgen : generation ≤ maxGeneration) : (encodeHandle index generation).toNat ≤ 0x7FFFFFFF := by
  have hle : generation.toNat ≤ 32767 := UInt16.le_iff_toNat_le.mp hgen
  rw [encodeHandle_toNat hindex]
  unfold maxSlots at hindex
  omega

/-! ## Generations -/

theorem nextGeneration_le {generation : UInt16} (h : generation ≤ maxGeneration) :
    nextGeneration generation ≤ maxGeneration := by
  have hle : generation.toNat ≤ 32767 := UInt16.le_iff_toNat_le.mp h
  unfold nextGeneration
  split
  · exact UInt16.le_iff_toNat_le.mpr (by simp [maxGeneration])
  · rename_i hne
    have hlt : generation.toNat ≠ 32767 := fun h0 => hne (UInt16.toNat_inj.mp h0)
    refine UInt16.le_iff_toNat_le.mpr ?_
    rw [UInt16.toNat_add, UInt16.toNat_one]
    simp only [maxGeneration, UInt16.reduceToNat]
    omega

/-- A slot moves past its generation and no further: the generations up to the old one are
behind it, and all of them are when it is retired. -/
theorem lt_nextGeneration_iff {generation k : UInt16} (h : generation ≤ maxGeneration)
    (hk : k ≤ maxGeneration) :
    (nextGeneration generation = 0 ∨ k < nextGeneration generation) ↔ k ≤ generation := by
  have hle : generation.toNat ≤ 32767 := UInt16.le_iff_toNat_le.mp h
  by_cases hmax : generation = maxGeneration
  · rw [hmax, nextGeneration, if_pos rfl]
    simp [hk]
  · have hlt : generation.toNat ≠ 32767 := fun h0 => hmax (UInt16.toNat_inj.mp h0)
    have hnext : (generation + 1).toNat = generation.toNat + 1 := by
      rw [UInt16.toNat_add, UInt16.toNat_one]
      omega
    have hne : generation + 1 ≠ 0 := fun h0 => by
      rw [h0, UInt16.toNat_zero] at hnext
      omega
    rw [nextGeneration, if_neg hmax, UInt16.lt_iff_toNat_lt, hnext, UInt16.le_iff_toNat_le]
    simp only [hne, false_or]
    exact Nat.lt_succ_iff

theorem nextGeneration_maxGeneration : nextGeneration maxGeneration = 0 := rfl

end OpendalMbt.Bridge
