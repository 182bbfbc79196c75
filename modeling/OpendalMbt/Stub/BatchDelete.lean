import OpendalMbt.Native.BatchDelete
import OpendalMbt.Stub.Utf16ToUtf8

/-!
# The array of a batch delete

How `moonbit_opendal_operator_delete_many` of `src/opendal_stub.c` packs its paths. The results of
`malloc` and `calloc` are parameters, and so is `SIZE_MAX`.

* `convertPaths_eq`: the paths are converted one by one, in order;
* `packPaths_eq_ok`: an array that is packed has the size of its paths;
* `batch_delete_input`: what the backend gets, and that no size overflows.
-/

namespace OpendalMbt.Stub

open Codec Native Transition

/-- An array of MoonBit, whose length is an `Int`. -/
structure MoonPaths where
  paths : List MoonString
  fits : paths.length ≤ INT32_MAX
  deriving DecidableEq, Repr

/-- What `result_set_local_error` stores. -/
structure LocalError where
  kind : UInt32
  kindName : String
  message : String
  deriving DecidableEq, Repr

def invalidDeletePaths : LocalError where
  kind := ERROR_INVALID_ARGUMENT
  kindName := "InvalidArgument"
  message := "batch delete paths are invalid"

def deleteManyTooLarge : LocalError where
  kind := ERROR_UNEXPECTED
  kindName := "Unexpected"
  message := "batch delete input is too large"

def deleteManyNoMemory : LocalError where
  kind := ERROR_UNEXPECTED
  kindName := "Unexpected"
  message := "unable to allocate batch delete conversion"

def deletePathFailure : Utf16Failure → LocalError
  | .invalid => {
      kind := ERROR_INVALID_ARGUMENT
      kindName := "InvalidArgument"
      message := "batch delete path contains invalid UTF-16" }
  | .noMemory => {
      kind := ERROR_UNEXPECTED
      kindName := "Unexpected"
      message := "unable to allocate UTF-8 batch delete path" }

/-- `sizeof(owned_utf8_t)`. -/
def sizeOfOwnedUtf8 : Nat := 16

/-- The loop over the paths, which ends with the first that is not converted. -/
def convertPaths (malloc : Nat → Bool) : List MoonString → Except LocalError (List BytesViewV1)
  | [] => .ok []
  | path :: paths =>
    match utf16ToUtf8 malloc path with
    | .error failure => .error (deletePathFailure failure)
    | .ok view => do
      let views ← convertPaths malloc paths
      .ok (view :: views)

/-- The array and the length that are handed over; without a path there is no array. -/
def packPaths (sizeMax : Nat) (malloc : Nat → Bool) (calloc : Nat → Nat → Bool) :
    Option MoonPaths → Except LocalError (Pointer (List BytesViewV1) × UInt64)
  | none => .error invalidDeletePaths
  | some given =>
    let pathCount := UInt32.ofNat given.paths.length
    if pathCount ≠ 0 then
      let count := pathCount.toNat
      if sizeMax / sizeOfOwnedUtf8 < count ∨ sizeMax / Entry.sizeOfBytesViewV1 < count then
        .error deleteManyTooLarge
      else if !calloc count sizeOfOwnedUtf8 || !calloc count Entry.sizeOfBytesViewV1 then
        .error deleteManyNoMemory
      else do
        let views ← convertPaths malloc given.paths
        .ok (.valid views, pathCount.toUInt64)
    else .ok (.null, pathCount.toUInt64)

section Pack

variable {malloc : Nat → Bool} {calloc : Nat → Nat → Bool} {sizeMax : Nat}

/-- A conversion that succeeds is that of a text. -/
theorem utf16ToUtf8_eq_ok {input : MoonString} {view : BytesViewV1}
    (h : utf16ToUtf8 malloc input = .ok view) :
    wellFormed input.units = true ∧ view = stringView input.text := by
  have hfits := input.fits
  have hcapacity : ¬ SIZE_MAX < input.units.length * 3 := by
    unfold SIZE_MAX INT32_MAX at *
    omega
  have hmemory : utf16ToUtf8 (fun _ => true) input = .ok view := by
    unfold utf16ToUtf8 at h ⊢
    dsimp only at h ⊢
    rw [if_neg hcapacity] at h ⊢
    split at h
    · cases h
    · rw [if_neg (by simp)]
      exact h
  rw [utf16ToUtf8_eq fun _ => rfl] at hmemory
  split_ifs at hmemory with hformed
  cases hmemory
  exact ⟨hformed, rfl⟩

theorem convertPaths_eq_ok {paths : List MoonString} {views : List BytesViewV1}
    (h : convertPaths malloc paths = .ok views) :
    (∀ path ∈ paths, wellFormed path.units = true) ∧
      views = paths.map fun path => stringView path.text := by
  induction paths generalizing views with
  | nil =>
    cases h
    exact ⟨nofun, rfl⟩
  | cons path paths ih =>
    rw [convertPaths] at h
    split at h
    · cases h
    · rename_i view hview
      obtain ⟨rest, hrest, hpure⟩ := CallResult.bind_eq_ok.mp h
      cases hpure
      obtain ⟨hformed, rfl⟩ := utf16ToUtf8_eq_ok hview
      obtain ⟨hall, rfl⟩ := ih hrest
      exact ⟨List.forall_mem_cons.mpr ⟨hformed, hall⟩, rfl⟩

theorem toNat_pathCount (given : MoonPaths) :
    (UInt32.ofNat given.paths.length).toNat = given.paths.length := by
  have hfits := given.fits
  have hsize : INT32_MAX < UInt32.size := by decide
  exact UInt32.toNat_ofNat_of_lt' (lt_of_le_of_lt hfits hsize)

/-- An array that is packed holds the texts of the paths, in order. -/
theorem packPaths_eq_ok {given : MoonPaths} {array : Pointer (List BytesViewV1)} {count : UInt64}
    (h : packPaths sizeMax malloc calloc (some given) = .ok (array, count)) :
    count.toNat = given.paths.length ∧
      (∀ path ∈ given.paths, wellFormed path.units = true) ∧
      (given.paths ≠ [] → array = .valid (given.paths.map fun path => stringView path.text)) ∧
      given.paths.length * sizeOfOwnedUtf8 ≤ sizeMax ∧
      given.paths.length * Entry.sizeOfBytesViewV1 ≤ sizeMax := by
  have hcount := toNat_pathCount given
  unfold packPaths at h
  dsimp only at h
  split at h
  · rename_i hsome
    split at h
    · cases h
    · rename_i hroom
      split at h
      · cases h
      · obtain ⟨views, hviews, hpure⟩ := CallResult.bind_eq_ok.mp h
        cases hpure
        obtain ⟨hall, rfl⟩ := convertPaths_eq_ok hviews
        obtain ⟨howned, hview⟩ := not_or.mp hroom
        rw [hcount] at howned hview
        refine ⟨by rw [UInt32.toNat_toUInt64, hcount], hall, fun _ => rfl, ?_, ?_⟩
        · exact (Nat.le_div_iff_mul_le (by decide)).mp (Nat.not_lt.mp howned)
        · exact (Nat.le_div_iff_mul_le (by decide)).mp (Nat.not_lt.mp hview)
  · rename_i hzero
    cases h
    have hlength : given.paths.length = 0 := by
      rw [← hcount, not_not.mp hzero]
      rfl
    have hempty := List.length_eq_zero_iff.mp hlength
    refine ⟨by rw [UInt32.toNat_toUInt64, hcount], ?_, fun hne => absurd hempty hne, ?_, ?_⟩
    · rw [hempty]
      nofun
    · rw [hlength]
      omega
    · rw [hlength]
      omega

end Pack

/-! ## From the paths to the backend -/

section Whole

open BatchDelete

variable {address : UInt64} {carriers : List CarrierV1} {given : MoonPaths}

theorem payload_packed {paths : List MoonString}
    (h : List.Forall₂ Carries carriers (paths.map fun path => stringView path.text)) :
    payload carriers = (paths.map fun path => path.text.utf8ByteSize).sum := by
  induction paths generalizing carriers with
  | nil =>
    cases h
    rfl
  | cons path paths ih =>
    cases h with
    | cons hvalue hrest =>
      rw [payload_cons, ih hrest, hvalue.len, stringView_len]
      rfl

theorem regions_packed {paths : List MoonString}
    (h : List.Forall₂ Carries carriers (paths.map fun path => stringView path.text))
    (hle : ∀ value ∈ carriers, value.len.toNat ≤ isizeMax) :
    (∀ value ∈ carriers, RegionValid value) ∧
      List.Forall₂ (fun value text => utf8Bytes text = value.content) carriers
        (paths.map MoonString.text) := by
  induction paths generalizing carriers with
  | nil =>
    cases h
    exact ⟨nofun, .nil⟩
  | cons path paths ih =>
    cases h with
    | cons hvalue hrest =>
      rw [List.forall_mem_cons] at hle
      obtain ⟨hregions, hcontents⟩ := ih hrest hle.2
      exact ⟨List.forall_mem_cons.mpr ⟨hvalue.regionValid hle.1, hregions⟩,
        .cons hvalue.content_eq hcontents⟩

/-- Of what is packed the binding looks at the size alone. -/
theorem admitted_packed {paths : List MoonString} (harray : ArrayValid address carriers)
    (h : List.Forall₂ Carries carriers (paths.map fun path => stringView path.text)) :
    Admitted address carriers (paths.map MoonString.text) ↔
      16 * paths.length + (paths.map fun path => path.text.utf8ByteSize).sum ≤ maxOutputBytes := by
  have hlength : carriers.length = paths.length := by
    rw [h.length_eq, List.length_map]
  have hpayload := payload_packed h
  constructor
  · intro hadmitted
    have htotal := hadmitted.total
    omega
  · intro htotal
    have hmax : maxOutputBytes ≤ isizeMax := by decide
    obtain ⟨hregions, hcontents⟩ := regions_packed h fun value hvalue => by
      have hle := len_le_payload hvalue
      omega
    exact ⟨harray, hregions, hcontents, by omega⟩

/-- What the backend gets, and that no size overflows on the way. -/
theorem batch_delete_input :
    -- the parser and the entry
    (∀ (operator : Entry.OperatorV1) address carriers pathsLen, carriers.length = pathsLen.toNat →
      (∀ texts, Admitted address carriers texts → ∀ deleteIter,
        deleteManyWork (.valid operator) address carriers pathsLen deleteIter {} =
          (Entry.Work.answer (deleteIter texts), { inputs := 2, upstream := 1 })) ∧
      ((∀ texts, ¬ Admitted address carriers texts) → ∃ failure, ∀ deleteIter,
        deleteManyWork (.valid operator) address carriers pathsLen deleteIter {} =
          (.error (.failure failure), { inputs := 2, upstream := 0 }))) ∧
    -- its sizes
    (∀ pathsLen bytes, checkedMul pathsLen sizeOfCarrier = some bytes →
      bytes.toNat = 16 * pathsLen.toNat) ∧
    (∀ label bytes carriers sum rest, bytes.toNat ≤ maxOutputBytes →
      Turn label bytes carriers sum rest →
        sum.toNat + payload rest = bytes.toNat + payload carriers ∧ sum.toNat ≤ maxOutputBytes ∧
          ∀ value ∈ rest.head?, RegionValid value →
            sum.toNat + value.len.toNat < UInt64.size) ∧
    -- the stub and its sizes
    (∀ sizeMax malloc calloc given array count,
      packPaths sizeMax malloc calloc (some given) = .ok (array, count) →
        count.toNat = given.paths.length ∧
        (given.paths ≠ [] → array = .valid (given.paths.map fun path => stringView path.text)) ∧
        given.paths.length * sizeOfOwnedUtf8 ≤ sizeMax ∧
        given.paths.length * Entry.sizeOfBytesViewV1 ≤ sizeMax) ∧
    (∀ path : MoonString, path.units.length * 3 < UInt64.size) ∧
    -- what is packed is read back
    (∀ (given : MoonPaths) address carriers, ArrayValid address carriers →
      List.Forall₂ Carries carriers (given.paths.map fun path => stringView path.text) →
      (Admitted address carriers (given.paths.map MoonString.text) ↔
        16 * given.paths.length + (given.paths.map fun path => path.text.utf8ByteSize).sum ≤
          maxOutputBytes)) := by
  refine ⟨?_, ?_, fun _ _ _ _ _ hlimit hturn => hturn.exact hlimit, ?_, ?_,
    fun _ _ _ harray hviews => admitted_packed harray hviews⟩
  · intro operator address carriers pathsLen hlen
    exact ⟨fun texts h => deleteManyWork_admitted hlen h, deleteManyWork_refused hlen⟩
  · intro pathsLen bytes h
    rw [(checkedMul_eq_some.mp h).2]
    exact Nat.mul_comm _ _
  · intro sizeMax malloc calloc given array count h
    obtain ⟨hcount, -, harray, howned, hviews⟩ := packPaths_eq_ok h
    exact ⟨hcount, harray, howned, hviews⟩
  · intro path
    have hfits := path.fits
    have hsize : INT32_MAX * 3 < UInt64.size := by decide
    omega

end Whole

end OpendalMbt.Stub
