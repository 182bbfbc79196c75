import OpendalMbt.Native.OperatorEntries

/-!
# The carriers of a batch delete

`read_text_array` and `operator_delete_many` of `native/rust/src/lib.rs` with their addresses and
their arithmetic, in 64 bits. What memory holds behind a carrier is part of the carrier.

* `readTextValue_eq_ok`: the texts of single carriers;
* `Turn`: the running sum is exact between the turns of the loop;
* `readTextArray_eq_ok`: the arrays that are read;
* `readTextArray_views`: on regions that exist it is the parser of the entry;
* `deleteManyWork_admitted`, `deleteManyWork_refused`: what the backend gets.
-/

namespace OpendalMbt.Native.BatchDelete

open Codec Entry Transition

/-- A `BytesViewV1` with its address, and what can be read there. -/
structure CarrierV1 where
  data : UInt64
  len : UInt64
  content : List UInt8
  readable : content.length = len.toNat
  deriving DecidableEq, Repr

/-- `checked_mul`. -/
def checkedMul (a b : UInt64) : Option UInt64 :=
  if a.toNat * b.toNat < UInt64.size then some (a * b) else none

/-- `checked_add`. -/
def checkedAdd (a b : UInt64) : Option UInt64 :=
  if a.toNat + b.toNat < UInt64.size then some (a + b) else none

def checkedLen (length : UInt64) : CallResult UInt64 :=
  if isizeMax < length.toNat then .error .abiMismatch else .ok length

def checkedRegion (pointer length : UInt64) : CallResult Unit :=
  if length = 0 then .ok ()
  else if pointer = 0 ∨ (checkedAdd pointer length).isNone then .error .abiMismatch
  else .ok ()

def borrowedBytes (view : CarrierV1) : CallResult (List UInt8) := do
  let length ← checkedLen view.len
  if length = 0 then .ok []
  else do
    checkedRegion view.data length
    .ok view.content

def decoded (label : String) (bytes : List UInt8) : CallResult String :=
  match utf8Decode bytes with
  | some text => .ok text
  | none => .error (invalidArgument s!"{label} must be valid UTF-8")

def readTextValue (view : CarrierV1) (label : String) : CallResult String := do
  let bytes ← borrowedBytes view
  decoded label bytes

def alignOfBytesViewV1 : UInt64 := 8
def sizeOfCarrier : UInt64 := 16

/-- The first loop: every region and every payload, and the running sum. -/
def validateTextArray (label : String) (totalBytes : UInt64) : List CarrierV1 → CallResult Unit
  | [] => .ok ()
  | value :: values => do
    let bytes ← borrowedBytes value
    let _ ← decoded label bytes
    match (checkedAdd totalBytes value.len).filter (·.toNat ≤ maxOutputBytes) with
    | none => .error (bufferTooLarge "batch delete paths exceed the negotiated byte limit")
    | some totalBytes => validateTextArray label totalBytes values

/-- The carriers are what can be read at the address of the array. -/
def readTextArray (address : UInt64) (carriers : List CarrierV1) (valuesLen : UInt64)
    (label : String) : CallResult (List String) := do
  let length ← checkedLen valuesLen
  match (checkedMul length sizeOfCarrier).filter (·.toNat ≤ isizeMax) with
  | none => .error .abiMismatch
  | some bytes =>
    if length = 0 then .ok []
    else if address = 0 ∨ address % alignOfBytesViewV1 ≠ 0 ∨ (checkedAdd address bytes).isNone then
      .error .abiMismatch
    else if maxOutputBytes < bytes.toNat then
      .error (bufferTooLarge "batch delete path carriers exceed the negotiated byte limit")
    else do
      validateTextArray label bytes carriers
      carriers.mapM fun value => readTextValue value label

/-! ## Single carriers -/

/-- A region that can exist. -/
def RegionValid (view : CarrierV1) : Prop :=
  view.len = 0 ∨
    view.data ≠ 0 ∧ view.data.toNat + view.len.toNat < UInt64.size ∧ view.len.toNat ≤ isizeMax

section Single

variable {view : CarrierV1} {a b c length : UInt64} {label : String} {bytes : List UInt8}
  {text : String}

theorem checkedAdd_eq_some :
    checkedAdd a b = some c ↔ a.toNat + b.toNat < UInt64.size ∧ c.toNat = a.toNat + b.toNat := by
  unfold checkedAdd
  split_ifs with hlt
  · have hexact : (a + b).toNat = a.toNat + b.toNat := by
      rw [UInt64.toNat_add]
      exact Nat.mod_eq_of_lt hlt
    constructor
    · intro h
      cases h
      exact ⟨hlt, hexact⟩
    · intro h
      rw [Option.some.injEq]
      apply UInt64.toNat_inj.mp
      rw [hexact, h.2]
  · simp [hlt]

theorem checkedMul_eq_some :
    checkedMul a b = some c ↔ a.toNat * b.toNat < UInt64.size ∧ c.toNat = a.toNat * b.toNat := by
  unfold checkedMul
  split_ifs with hlt
  · have hexact : (a * b).toNat = a.toNat * b.toNat := by
      rw [UInt64.toNat_mul]
      exact Nat.mod_eq_of_lt hlt
    constructor
    · intro h
      cases h
      exact ⟨hlt, hexact⟩
    · intro h
      rw [Option.some.injEq]
      apply UInt64.toNat_inj.mp
      rw [hexact, h.2]
  · simp [hlt]

theorem checkedAdd_isNone : (checkedAdd a b).isNone = true ↔ UInt64.size ≤ a.toNat + b.toNat := by
  unfold checkedAdd
  split_ifs with hlt
  · simp [hlt]
  · simpa using hlt

theorem checkedLen_eq_ok : checkedLen a = .ok length ↔ a.toNat ≤ isizeMax ∧ length = a := by
  unfold checkedLen
  split_ifs with hlarge
  · simp [hlarge]
  · simp [eq_comm, Nat.not_lt.mp hlarge]

theorem borrowedBytes_eq_ok :
    borrowedBytes view = .ok bytes ↔ RegionValid view ∧ bytes = view.content := by
  unfold borrowedBytes RegionValid
  rw [CallResult.bind_eq_ok]
  constructor
  · rintro ⟨length, hlength, h⟩
    obtain ⟨hle, rfl⟩ := checkedLen_eq_ok.mp hlength
    split_ifs at h with hzero
    · cases h
      have hempty := view.readable
      rw [hzero] at hempty
      exact ⟨.inl hzero, (List.length_eq_zero_iff.mp hempty).symm⟩
    · obtain ⟨_, hregion, hcontent⟩ := CallResult.bind_eq_ok.mp h
      cases hcontent
      unfold checkedRegion at hregion
      rw [if_neg hzero] at hregion
      split_ifs at hregion with hbad
      obtain ⟨hnull, hwrap⟩ := not_or.mp hbad
      rw [checkedAdd_isNone] at hwrap
      exact ⟨.inr ⟨hnull, by omega, hle⟩, rfl⟩
  · rintro ⟨hvalid, rfl⟩
    rcases hvalid with hzero | ⟨hnull, hwrap, hle⟩
    · have hempty := view.readable
      rw [hzero] at hempty
      refine ⟨view.len, checkedLen_eq_ok.mpr ⟨?_, rfl⟩, ?_⟩
      · rw [hzero]
        decide
      · rw [if_pos hzero, List.length_eq_zero_iff.mp hempty]
    · refine ⟨view.len, checkedLen_eq_ok.mpr ⟨hle, rfl⟩, ?_⟩
      by_cases hzero : view.len = 0
      · have hempty := view.readable
        rw [hzero] at hempty
        rw [if_pos hzero, List.length_eq_zero_iff.mp hempty]
      · rw [if_neg hzero]
        apply CallResult.bind_eq_ok.mpr
        refine ⟨(), ?_, rfl⟩
        unfold checkedRegion
        rw [if_neg hzero, if_neg]
        rw [checkedAdd_isNone]
        rintro (hdata | hlarge)
        · exact hnull hdata
        · omega

theorem decoded_eq_ok : decoded label bytes = .ok text ↔ utf8Bytes text = bytes := by
  unfold decoded
  rw [← utf8Decode_eq_some]
  cases utf8Decode bytes with
  | none => simp
  | some text => simp

theorem readTextValue_eq_ok :
    readTextValue view label = .ok text ↔ RegionValid view ∧ utf8Bytes text = view.content := by
  unfold readTextValue
  rw [CallResult.bind_eq_ok]
  constructor
  · rintro ⟨bytes, hbytes, htext⟩
    obtain ⟨hvalid, rfl⟩ := borrowedBytes_eq_ok.mp hbytes
    exact ⟨hvalid, decoded_eq_ok.mp htext⟩
  · rintro ⟨hvalid, htext⟩
    exact ⟨view.content, borrowedBytes_eq_ok.mpr ⟨hvalid, rfl⟩, decoded_eq_ok.mpr htext⟩

end Single

/-! ## The running sum -/

/-- The lengths of the carriers. -/
def payload (carriers : List CarrierV1) : Nat := (carriers.map fun value => value.len.toNat).sum

@[simp] theorem payload_cons (value : CarrierV1) (values : List CarrierV1) :
    payload (value :: values) = value.len.toNat + payload values := rfl

section Sum

variable {label : String} {totalBytes : UInt64} {value : CarrierV1} {values : List CarrierV1}

/-- A sum that is within the limit takes any region. -/
theorem checkedAdd_of_valid (htotal : totalBytes.toNat ≤ maxOutputBytes)
    (hvalid : RegionValid value) :
    ∃ sum, checkedAdd totalBytes value.len = some sum ∧
      sum.toNat = totalBytes.toNat + value.len.toNat := by
  have hlen : value.len.toNat ≤ isizeMax := by
    rcases hvalid with hzero | ⟨-, -, hle⟩
    · rw [hzero]
      decide
    · exact hle
  have hlt : totalBytes.toNat + value.len.toNat < UInt64.size := by
    have hsize : maxOutputBytes + isizeMax < UInt64.size := by decide
    omega
  have hexact : (totalBytes + value.len).toNat = totalBytes.toNat + value.len.toNat := by
    rw [UInt64.toNat_add]
    exact Nat.mod_eq_of_lt hlt
  exact ⟨_, checkedAdd_eq_some.mpr ⟨hlt, hexact⟩, hexact⟩

theorem filter_eq_some {sum : Option UInt64} {limit : Nat} {c : UInt64} :
    sum.filter (·.toNat ≤ limit) = some c ↔ sum = some c ∧ c.toNat ≤ limit := by
  rw [Option.filter_eq_some_iff, decide_eq_true_iff]

/-- One turn of the first loop. -/
theorem validateTextArray_cons (htotal : totalBytes.toNat ≤ maxOutputBytes) :
    validateTextArray label totalBytes (value :: values) = .ok () ↔
      RegionValid value ∧ (∃ text, utf8Bytes text = value.content) ∧
        ∃ sum : UInt64, sum.toNat = totalBytes.toNat + value.len.toNat ∧
          sum.toNat ≤ maxOutputBytes ∧ validateTextArray label sum values = .ok () := by
  rw [validateTextArray, CallResult.bind_eq_ok]
  constructor
  · rintro ⟨bytes, hbytes, h⟩
    obtain ⟨hvalid, rfl⟩ := borrowedBytes_eq_ok.mp hbytes
    obtain ⟨text, htext, h⟩ := CallResult.bind_eq_ok.mp h
    split at h
    · cases h
    · rename_i sum hsum
      obtain ⟨hadd, hlimit⟩ := filter_eq_some.mp hsum
      exact ⟨hvalid, ⟨text, decoded_eq_ok.mp htext⟩, sum, (checkedAdd_eq_some.mp hadd).2, hlimit, h⟩
  · rintro ⟨hvalid, ⟨text, htext⟩, sum, hexact, hlimit, h⟩
    refine ⟨value.content, borrowedBytes_eq_ok.mpr ⟨hvalid, rfl⟩, ?_⟩
    apply CallResult.bind_eq_ok.mpr
    refine ⟨text, decoded_eq_ok.mpr htext, ?_⟩
    obtain ⟨sum', hadd, hexact'⟩ := checkedAdd_of_valid htotal hvalid
    have hsame : sum' = sum := UInt64.toNat_inj.mp (hexact'.trans hexact.symm)
    rw [hsame] at hadd
    rw [filter_eq_some.mpr ⟨hadd, hlimit⟩]
    exact h

theorem validateTextArray_eq_ok (htotal : totalBytes.toNat ≤ maxOutputBytes) :
    validateTextArray label totalBytes values = .ok () ↔
      (∀ value ∈ values, RegionValid value ∧ ∃ text, utf8Bytes text = value.content) ∧
        totalBytes.toNat + payload values ≤ maxOutputBytes := by
  induction values generalizing totalBytes with
  | nil =>
    rw [validateTextArray]
    constructor
    · intro _
      exact ⟨nofun, htotal⟩
    · intro _
      rfl
  | cons value values ih =>
    rw [validateTextArray_cons htotal, List.forall_mem_cons, payload_cons]
    constructor
    · rintro ⟨hvalid, htext, sum, hexact, hlimit, h⟩
      obtain ⟨hall, hsum⟩ := (ih hlimit).mp h
      exact ⟨⟨⟨hvalid, htext⟩, hall⟩, by omega⟩
    · rintro ⟨⟨⟨hvalid, htext⟩, hall⟩, hsum⟩
      obtain ⟨sum, -, hexact⟩ := checkedAdd_of_valid htotal hvalid
      have hlimit : sum.toNat ≤ maxOutputBytes := by omega
      exact ⟨hvalid, htext, sum, hexact, hlimit, (ih hlimit).mpr ⟨hall, by omega⟩⟩

/-- The sum and the carriers that are left, between the turns of the first loop. -/
inductive Turn (label : String) (totalBytes : UInt64) (values : List CarrierV1) :
    UInt64 → List CarrierV1 → Prop
  | start : Turn label totalBytes values totalBytes values
  | next {sum sum' : UInt64} {value : CarrierV1} {rest : List CarrierV1} :
      Turn label totalBytes values sum (value :: rest) →
      (∃ bytes text, borrowedBytes value = .ok bytes ∧ decoded label bytes = .ok text) →
      (checkedAdd sum value.len).filter (·.toNat ≤ maxOutputBytes) = some sum' →
      Turn label totalBytes values sum' rest

/-- The sum is exact between the turns, and the next addition does not overflow. -/
theorem Turn.exact {sum : UInt64} {rest : List CarrierV1}
    (h : Turn label totalBytes values sum rest) (htotal : totalBytes.toNat ≤ maxOutputBytes) :
    sum.toNat + payload rest = totalBytes.toNat + payload values ∧ sum.toNat ≤ maxOutputBytes ∧
      ∀ value ∈ rest.head?, RegionValid value →
        sum.toNat + value.len.toNat < UInt64.size := by
  have hsum : sum.toNat + payload rest = totalBytes.toNat + payload values ∧
      sum.toNat ≤ maxOutputBytes := by
    induction h with
    | start => exact ⟨rfl, htotal⟩
    | next _ _ hadd ih =>
      obtain ⟨hadd, hlimit⟩ := filter_eq_some.mp hadd
      have hexact := (checkedAdd_eq_some.mp hadd).2
      rw [payload_cons] at ih
      exact ⟨by omega, hlimit⟩
  refine ⟨hsum.1, hsum.2, ?_⟩
  intro value _ hvalid
  obtain ⟨next, hadd, -⟩ := checkedAdd_of_valid hsum.2 hvalid
  exact (checkedAdd_eq_some.mp hadd).1

end Sum

/-! ## Arrays -/

/-- An array of carriers that can exist at its address. -/
def ArrayValid (address : UInt64) (carriers : List CarrierV1) : Prop :=
  carriers = [] ∨
    address ≠ 0 ∧ address % alignOfBytesViewV1 = 0 ∧
      address.toNat + 16 * carriers.length < UInt64.size

/-- Carriers of these texts that are within the limit. -/
structure Admitted (address : UInt64) (carriers : List CarrierV1) (texts : List String) :
    Prop where
  array : ArrayValid address carriers
  regions : ∀ value ∈ carriers, RegionValid value
  payloads : List.Forall₂ (fun value text => utf8Bytes text = value.content) carriers texts
  total : 16 * carriers.length + payload carriers ≤ maxOutputBytes

section Array

variable {address valuesLen : UInt64} {carriers : List CarrierV1} {label : String}
  {texts : List String}

theorem mapM_readTextValue_eq_ok :
    (carriers.mapM fun value => readTextValue value label) = .ok texts ↔
      (∀ value ∈ carriers, RegionValid value) ∧
        List.Forall₂ (fun value text => utf8Bytes text = value.content) carriers texts := by
  induction carriers generalizing texts with
  | nil =>
    constructor
    · intro h
      cases h
      exact ⟨nofun, .nil⟩
    · rintro ⟨-, h⟩
      cases h
      rfl
  | cons value values ih =>
    rw [List.mapM_cons, CallResult.bind_eq_ok, List.forall_mem_cons]
    constructor
    · rintro ⟨text, htext, h⟩
      obtain ⟨rest, hrest, hpure⟩ := CallResult.bind_eq_ok.mp h
      cases hpure
      obtain ⟨hvalid, hcontent⟩ := readTextValue_eq_ok.mp htext
      obtain ⟨hall, hforall⟩ := ih.mp hrest
      exact ⟨⟨hvalid, hall⟩, .cons hcontent hforall⟩
    · rintro ⟨⟨hvalid, hall⟩, hforall⟩
      cases hforall with
      | cons hcontent hforall =>
        refine ⟨_, readTextValue_eq_ok.mpr ⟨hvalid, hcontent⟩, ?_⟩
        apply CallResult.bind_eq_ok.mpr
        exact ⟨_, ih.mpr ⟨hall, hforall⟩, rfl⟩

theorem exists_text {value : CarrierV1}
    (h : List.Forall₂ (fun value text => utf8Bytes text = value.content) carriers texts)
    (hvalue : value ∈ carriers) : ∃ text, utf8Bytes text = value.content := by
  induction h with
  | nil => cases hvalue
  | cons hcontent _ ih =>
    rcases List.mem_cons.mp hvalue with rfl | hvalue
    · exact ⟨_, hcontent⟩
    · exact ih hvalue

theorem arrayValid_iff {bytes : UInt64} (hbytes : bytes.toNat = 16 * carriers.length)
    (hne : carriers ≠ []) :
    ¬ (address = 0 ∨ address % alignOfBytesViewV1 ≠ 0 ∨ (checkedAdd address bytes).isNone) ↔
      ArrayValid address carriers := by
  rw [checkedAdd_isNone, hbytes]
  unfold ArrayValid
  constructor
  · intro h
    obtain ⟨hnull, h⟩ := not_or.mp h
    obtain ⟨halign, hwrap⟩ := not_or.mp h
    exact .inr ⟨hnull, not_not.mp halign, by omega⟩
  · rintro (hempty | ⟨hnull, halign, hwrap⟩)
    · exact absurd hempty hne
    · rintro (h | h | h)
      · exact hnull h
      · exact h halign
      · omega

/-- The array is read as the texts that its carriers hold. -/
theorem readTextArray_eq_ok (hlen : carriers.length = valuesLen.toNat) :
    readTextArray address carriers valuesLen label = .ok texts ↔
      Admitted address carriers texts := by
  have hsize : sizeOfCarrier.toNat = 16 := rfl
  unfold readTextArray
  rw [CallResult.bind_eq_ok]
  constructor
  · rintro ⟨length, hlength, h⟩
    obtain ⟨-, rfl⟩ := checkedLen_eq_ok.mp hlength
    split at h
    · cases h
    · rename_i bytes hmul
      obtain ⟨hmul, -⟩ := filter_eq_some.mp hmul
      have hbytes : bytes.toNat = 16 * carriers.length := by
        rw [(checkedMul_eq_some.mp hmul).2, hsize, hlen]
        omega
      by_cases hzero : length = 0
      · rw [if_pos hzero] at h
        cases h
        have hempty : carriers = [] := by
          apply List.length_eq_zero_iff.mp
          rw [hlen, hzero]
          rfl
        subst hempty
        exact ⟨.inl rfl, nofun, .nil, Nat.zero_le _⟩
      · have hne : carriers ≠ [] := by
          rintro rfl
          apply hzero
          exact UInt64.toNat_inj.mp hlen.symm
        rw [if_neg hzero] at h
        split_ifs at h with harray hlimit
        obtain ⟨_, hvalidate, hmapM⟩ := CallResult.bind_eq_ok.mp h
        obtain ⟨hall, hsum⟩ := (validateTextArray_eq_ok (Nat.not_lt.mp hlimit)).mp hvalidate
        obtain ⟨hregions, hpayloads⟩ := mapM_readTextValue_eq_ok.mp hmapM
        exact ⟨(arrayValid_iff hbytes hne).mp harray, hregions, hpayloads, by omega⟩
  · rintro ⟨harray, hregions, hpayloads, htotal⟩
    have hmax : maxOutputBytes ≤ isizeMax := by decide
    refine ⟨valuesLen, checkedLen_eq_ok.mpr ⟨by omega, rfl⟩, ?_⟩
    have hproduct : valuesLen.toNat * sizeOfCarrier.toNat < UInt64.size := by
      have hbound : maxOutputBytes < UInt64.size := by decide
      rw [hsize]
      omega
    have hexact : (valuesLen * sizeOfCarrier).toNat = valuesLen.toNat * sizeOfCarrier.toNat := by
      rw [UInt64.toNat_mul]
      exact Nat.mod_eq_of_lt hproduct
    have hbytes : (valuesLen * sizeOfCarrier).toNat = 16 * carriers.length := by
      rw [hexact, hsize]
      omega
    rw [filter_eq_some.mpr ⟨checkedMul_eq_some.mpr ⟨hproduct, hexact⟩, by omega⟩]
    dsimp only
    by_cases hzero : valuesLen = 0
    · rw [if_pos hzero]
      have hempty : carriers = [] := by
        apply List.length_eq_zero_iff.mp
        rw [hlen, hzero]
        rfl
      subst hempty
      cases hpayloads
      rfl
    · have hne : carriers ≠ [] := by
        rintro rfl
        apply hzero
        exact UInt64.toNat_inj.mp hlen.symm
      rw [if_neg hzero, if_neg ((arrayValid_iff hbytes hne).mpr harray), if_neg (by omega)]
      apply CallResult.bind_eq_ok.mpr
      refine ⟨(), (validateTextArray_eq_ok (by omega)).mpr ⟨?_, by omega⟩,
        mapM_readTextValue_eq_ok.mpr ⟨hregions, hpayloads⟩⟩
      intro value hvalue
      exact ⟨hregions value hvalue, exists_text hpayloads hvalue⟩

end Array

/-! ## The entry -/

section Entry

variable {operator : OperatorV1} {address pathsLen : UInt64} {carriers : List CarrierV1}
  {texts : List String} {label : String}

/-- The closure of `operator_delete_many`. -/
def deleteManyWork (operator : Pointer OperatorV1) (address : UInt64) (carriers : List CarrierV1)
    (pathsLen : UInt64) (deleteIter : List String → StepResult Unit) : Work Unit := do
  let _ ← Work.input (borrowRequired operator)
  let paths ← Work.input (readTextArray address carriers pathsLen "batch delete path")
  Work.upstream (deleteIter paths)

/-- The texts are passed on, once. -/
theorem deleteManyWork_admitted (hlen : carriers.length = pathsLen.toNat)
    (h : Admitted address carriers texts) (deleteIter : List String → StepResult Unit) :
    deleteManyWork (.valid operator) address carriers pathsLen deleteIter {} =
      (Work.answer (deleteIter texts), { inputs := 2, upstream := 1 }) := by
  unfold deleteManyWork
  rw [(readTextArray_eq_ok hlen).mpr h]
  rfl

/-- Whatever else is given is refused before the backend is called. -/
theorem deleteManyWork_refused (hlen : carriers.length = pathsLen.toNat)
    (h : ∀ texts, ¬ Admitted address carriers texts) :
    ∃ failure, ∀ deleteIter,
      deleteManyWork (.valid operator) address carriers pathsLen deleteIter {} =
        (.error (.failure failure), { inputs := 2, upstream := 0 }) := by
  cases hread : readTextArray address carriers pathsLen "batch delete path" with
  | ok texts => exact absurd ((readTextArray_eq_ok hlen).mp hread) (h texts)
  | error failure =>
    refine ⟨failure, ?_⟩
    intro deleteIter
    unfold deleteManyWork
    rw [hread]
    rfl

/-- A carrier at its address is this view. -/
structure Carries (value : CarrierV1) (view : BytesViewV1) : Prop where
  len : value.len.toNat = view.len
  absent : view.data = none → value.data = 0
  present : ∀ bytes, view.data = some bytes → value.data ≠ 0 ∧ value.content = bytes ∧
    value.data.toNat + value.len.toNat < UInt64.size

theorem Carries.borrowedBytes_eq {value : CarrierV1} {view : BytesViewV1}
    (h : Carries value view) : borrowedBytes value = Native.borrowedBytes view := by
  have hlen := h.len
  unfold borrowedBytes Native.borrowedBytes checkedLen Native.checkedLen checkedRegion
  rw [← hlen]
  split_ifs with hlarge
  · rfl
  · dsimp only [bind, Except.bind]
    by_cases hzero : value.len = 0
    · rw [if_pos hzero, if_pos (by rw [hzero]; rfl)]
    · have hpos : value.len.toNat ≠ 0 := by
        intro heq
        exact hzero (UInt64.toNat_inj.mp heq)
      rw [if_neg hzero, if_neg hpos]
      cases hdata : view.data with
      | none => rw [if_pos (.inl (h.absent hdata))]
      | some bytes =>
        obtain ⟨hnull, hcontent, hwrap⟩ := h.present bytes hdata
        rw [if_neg, hcontent]
        rw [checkedAdd_isNone]
        rintro (hnull' | hlarge)
        · exact hnull hnull'
        · omega

theorem Carries.content_eq {value : CarrierV1} {text : String} (h : Carries value (stringView text)) :
    utf8Bytes text = value.content := by
  have hlen := h.len
  rw [stringView, bytesView_len] at hlen
  by_cases hempty : utf8Bytes text = []
  · have hcontent := value.readable
    rw [hlen, hempty] at hcontent
    rw [hempty]
    exact (List.length_eq_zero_iff.mp hcontent).symm
  · have hdata : (stringView text).data = some (utf8Bytes text) := by
      rw [stringView, bytesView_data, if_neg hempty]
    exact (h.present _ hdata).2.1.symm

theorem Carries.regionValid {value : CarrierV1} {text : String}
    (h : Carries value (stringView text)) (hle : value.len.toNat ≤ isizeMax) : RegionValid value := by
  have hlen := h.len
  rw [stringView, bytesView_len] at hlen
  by_cases hempty : utf8Bytes text = []
  · left
    apply UInt64.toNat_inj.mp
    rw [hlen, hempty]
    rfl
  · have hdata : (stringView text).data = some (utf8Bytes text) := by
      rw [stringView, bytesView_data, if_neg hempty]
    obtain ⟨hnull, -, hwrap⟩ := h.present _ hdata
    exact .inr ⟨hnull, hwrap, hle⟩

theorem len_le_payload {value : CarrierV1} {values : List CarrierV1} (h : value ∈ values) :
    value.len.toNat ≤ payload values := by
  induction values with
  | nil => cases h
  | cons first values ih =>
    rw [payload_cons]
    rcases List.mem_cons.mp h with rfl | h
    · omega
    · have hle := ih h
      omega

theorem Carries.readTextValue_eq {value : CarrierV1} {view : BytesViewV1}
    (h : Carries value view) : readTextValue value label = Native.readTextValue view label := by
  unfold readTextValue Native.readTextValue
  rw [h.borrowedBytes_eq]
  cases Native.borrowedBytes view with
  | error failure => rfl
  | ok bytes => rfl

theorem mapM_views {views : List BytesViewV1} (h : List.Forall₂ Carries carriers views) :
    (carriers.mapM fun value => readTextValue value label) =
      views.mapM fun view => Native.readTextValue view label := by
  induction h with
  | nil => rfl
  | cons hvalue _ ih => rw [List.mapM_cons, List.mapM_cons, hvalue.readTextValue_eq, ih]

theorem validateTextArray_views {views : List BytesViewV1}
    (h : List.Forall₂ Carries carriers views) (totalBytes : UInt64) :
    validateTextArray label totalBytes carriers =
      Entry.validateTextArray label totalBytes.toNat views := by
  induction h generalizing totalBytes with
  | nil => rfl
  | @cons value view carriers views hvalue _ ih =>
    rw [validateTextArray, Entry.validateTextArray, ← hvalue.readTextValue_eq, ← hvalue.len]
    unfold readTextValue
    cases borrowedBytes value with
    | error failure => rfl
    | ok bytes =>
      dsimp only [bind, Except.bind]
      cases decoded label bytes with
      | error failure => rfl
      | ok text =>
        dsimp only
        split_ifs with hlimit
        · have hnone : (checkedAdd totalBytes value.len).filter (·.toNat ≤ maxOutputBytes) =
              none := by
            rw [Option.filter_eq_none_iff]
            intro sum hsum
            have hexact := (checkedAdd_eq_some.mp hsum).2
            simp only [decide_eq_true_iff]
            omega
          rw [hnone]
        · have hsize : maxOutputBytes < UInt64.size := by decide
          have hexact : (totalBytes + value.len).toNat =
              totalBytes.toNat + value.len.toNat := by
            rw [UInt64.toNat_add]
            exact Nat.mod_eq_of_lt (show totalBytes.toNat + value.len.toNat < UInt64.size by omega)
          have hsome : checkedAdd totalBytes value.len = some (totalBytes + value.len) :=
            checkedAdd_eq_some.mpr ⟨by omega, hexact⟩
          rw [filter_eq_some.mpr ⟨hsome, by omega⟩]
          dsimp only
          rw [ih, hexact]

/-- On regions that exist this is the parser of the entry. -/
theorem readTextArray_views {views : List BytesViewV1}
    (h : List.Forall₂ Carries carriers views) (hlen : carriers.length = pathsLen.toNat)
    (harray : ArrayValid address carriers) :
    readTextArray address carriers pathsLen label =
      Entry.readTextArray (.valid views) pathsLen.toNat label := by
  have hviews : views.length = pathsLen.toNat := h.length_eq.symm.trans hlen
  have hsize : sizeOfCarrier.toNat = 16 := rfl
  unfold readTextArray Entry.readTextArray readArray checkedLen Native.checkedLen
  by_cases hlarge : isizeMax < pathsLen.toNat
  · rw [if_pos hlarge, if_pos hlarge]
    rfl
  · rw [if_neg hlarge, if_neg hlarge]
    dsimp only [bind, Except.bind]
    by_cases hproduct : isizeMax < pathsLen.toNat * sizeOfBytesViewV1
    · rw [if_pos hproduct]
      have hnone : (checkedMul pathsLen sizeOfCarrier).filter (·.toNat ≤ isizeMax) = none := by
        rw [Option.filter_eq_none_iff]
        intro bytes hbytes
        have hexact := (checkedMul_eq_some.mp hbytes).2
        simp only [decide_eq_true_iff]
        rw [hexact, hsize]
        exact Nat.not_le.mpr hproduct
      rw [hnone]
    · rw [if_neg hproduct]
      have hlt : pathsLen.toNat * sizeOfCarrier.toNat < UInt64.size := by
        have hbound : isizeMax < UInt64.size := by decide
        exact lt_of_le_of_lt (Nat.not_lt.mp hproduct) hbound
      have hexact : (pathsLen * sizeOfCarrier).toNat = pathsLen.toNat * sizeOfBytesViewV1 := by
        rw [UInt64.toNat_mul]
        exact Nat.mod_eq_of_lt hlt
      have hsome : (checkedMul pathsLen sizeOfCarrier).filter (·.toNat ≤ isizeMax) =
          some (pathsLen * sizeOfCarrier) :=
        filter_eq_some.mpr ⟨checkedMul_eq_some.mpr ⟨hlt, hexact⟩, by omega⟩
      rw [hsome]
      dsimp only
      by_cases hzero : pathsLen = 0
      · have hempty : views = [] := by
          apply List.length_eq_zero_iff.mp
          rw [hviews, hzero]
          rfl
        subst hempty
        rw [if_pos hzero, hzero]
        rfl
      · have hne : carriers ≠ [] := by
          rintro rfl
          exact hzero (UInt64.toNat_inj.mp hlen.symm)
        have hpos : pathsLen.toNat ≠ 0 := fun heq => hzero (UInt64.toNat_inj.mp heq)
        have hbytes : (pathsLen * sizeOfCarrier).toNat = 16 * carriers.length := by
          rw [hexact, hlen]
          exact Nat.mul_comm _ _
        rw [if_neg hzero, if_neg hpos, if_neg ((arrayValid_iff hbytes hne).mpr harray)]
        dsimp only
        rw [← hviews, List.take_length, hviews, ← hexact]
        split_ifs with hlimit
        · rfl
        · rw [validateTextArray_views h, mapM_views h]

end Entry

end OpendalMbt.Native.BatchDelete
