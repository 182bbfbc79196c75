import OpendalMbt.Codec.Layout
import OpendalMbt.Native.ViewEntries

/-!
# Copying a buffer into the memory of the caller

`buffer_len` and `buffer_copy` of `native/rust/src/lib.rs` with the memory that they write to. The
status and the length come from the same `copyOut` as in `Entry.bufferCopy`.

* `run_bufferCopy`: the two agree about the status and `out_required`;
* `copyOut_ok`: when a copy succeeds;
* `bufferCopy_frame`: what is written, and that nothing else is.
-/

namespace OpendalMbt.Native

open Codec Transition Entry

/-- The `u64` output, unless its pointer is bad, and the memory. -/
structure CopyState where
  required : Pointer Nat
  memory : Memory

/-- `ptr::copy_nonoverlapping` to the start of the destination, which is not null when bytes are
copied. -/
def copyTo (destination : Option Nat) (bytes : List UInt8) (m : Memory) : Memory :=
  match destination with
  | none => m
  | some address => m.write address bytes

def bufferLen (buffer : Pointer (List UInt8)) (output : Pointer Nat) : Status × Pointer Nat :=
  match output with
  | .null | .misaligned => (.abiMismatch, output)
  | .valid _ =>
    match borrowRequired buffer with
    | .error _ => (.abiMismatch, .valid 0)
    | .ok bytes =>
      match bufferLength bytes with
      | .error _ => (.abiMismatch, .valid 0)
      | .ok length => (.ok, .valid length)

def bufferCopy (buffer : Pointer (List UInt8)) (destination : Option Nat) (capacity : UInt64)
    (s : CopyState) : Status × CopyState :=
  match s.required with
  | .null | .misaligned => (.abiMismatch, s)
  | .valid _ =>
    match borrowRequired buffer with
    | .error _ => (.abiMismatch, { s with required := .valid 0 })
    | .ok bytes =>
      let copied := copyOut bytes destination capacity
      (copied.status,
        { required := .valid (copied.required.getD 0)
          memory := copyTo destination copied.written s.memory })

/-! ## The entry with its outputs -/

/-- A scalar output; cleared it is zero. -/
def scalar (given : Nat) : Content Nat → Nat
  | .stale => given
  | .empty => 0
  | .value value => value

theorem run_single {V : Type} (content : Content V)
    (body : Step Misplaced (fun _ : Unit => V) Status) :
    (Invocation.single (.storage content) (.invalid .null) body).run =
      catchStatus body
        (Frame.clear ()
          { slots := fun _ => .storage content, error := .invalid .null, history := [] }) := rfl

theorem orFinish_apply {R ι α : Type} {V : ι → Type} {x : Step R V (CallResult α)} {a : α}
    {f t : Frame R V ErrorV1} (next : α → Step R V Status) (h : x f = (.ok (.ok a), t)) :
    orFinish x next f = next a t := by
  unfold orFinish
  rw [Call.bind_apply_ok h]

/-- The entry of `Entry.bufferCopy` returns the same status, and leaves the same length. -/
theorem run_bufferCopy (buffer : Pointer (List UInt8)) (destination : Option Nat)
    (capacity : UInt64) (given : Nat) (m : Memory) :
    let ended := (Entry.bufferCopy buffer (.storage .stale) destination capacity).run
    let s := bufferCopy buffer destination capacity { required := .valid given, memory := m }
    ended.1 = s.1 ∧ ∃ content, ended.2.slots () = .storage content ∧
      s.2.required = .valid (scalar given content) := by
  cases buffer with
  | null => exact ⟨rfl, .empty, rfl, rfl⟩
  | misaligned => exact ⟨rfl, .empty, rfl, rfl⟩
  | valid bytes =>
    have hclosure : ∀ f : Frame Misplaced (fun _ : Unit => Nat) ErrorV1,
        closure .quiet (Work.input (borrowRequired (.valid bytes))) f =
          (.ok (.ok bytes), f.inspect) := fun f => rfl
    unfold Entry.bufferCopy bufferCopy
    rw [run_single]
    unfold catchStatus
    rw [orFinish_apply _ (hclosure _)]
    dsimp only [borrowRequired]
    generalize copyOut bytes destination capacity = copied
    obtain ⟨status, required, written⟩ := copied
    cases required with
    | none => exact ⟨rfl, .empty, rfl, rfl⟩
    | some required => exact ⟨rfl, .value required, rfl, rfl⟩

/-! ## Copies -/

variable {bytes : List UInt8} {destination : Option Nat} {capacity : UInt64} {s : CopyState}

theorem bufferLength_eq (h : bytes.length < 2 ^ 64) : bufferLength bytes = .ok bytes.length :=
  if_neg (Nat.not_le.mpr h)

theorem bufferLen_eq {given : Nat} (h : bytes.length < 2 ^ 64) :
    bufferLen (.valid bytes) (.valid given) = (.ok, .valid bytes.length) := by
  unfold bufferLen
  dsimp only [borrowRequired]
  rw [bufferLength_eq h]

theorem bufferLen_eq_mismatch {given : Nat} (h : 2 ^ 64 ≤ bytes.length) :
    bufferLen (.valid bytes) (.valid given) = (.abiMismatch, .valid 0) := by
  have hlength : bufferLength bytes = .error .abiMismatch := if_pos h
  unfold bufferLen
  dsimp only [borrowRequired]
  rw [hlength]

/-- A copy that succeeds writes within the capacity. -/
theorem length_le_of_ok {address : Nat}
    (h : (copyOut bytes (some address) capacity).status = .ok) :
    bytes.length ≤ capacity.toNat := by
  by_cases hsize : bytes.length < 2 ^ 64
  · unfold copyOut checkedLen at h
    rw [bufferLength_eq hsize] at h
    dsimp only at h
    by_cases hlen : isizeMax < capacity.toNat
    · rw [if_pos hlen] at h
      cases h
    · rw [if_neg hlen] at h
      dsimp only at h
      split_ifs at h
      omega
  · unfold copyOut bufferLength at h
    rw [if_pos (Nat.not_lt.mp hsize)] at h
    cases h

/-- There is room for the bytes. -/
theorem copyOut_ok {address : Nat} (hcapacity : capacity.toNat ≤ isizeMax)
    (hfits : address + capacity.toNat < 2 ^ 64) (hlength : bytes.length ≤ capacity.toNat) :
    copyOut bytes (some address) capacity =
      { status := .ok, required := some bytes.length, written := bytes } := by
  unfold copyOut checkedLen
  rw [bufferLength_eq (by omega), if_neg (Nat.not_lt.mpr hcapacity)]
  dsimp only
  rw [if_neg (Nat.not_le.mpr hfits), if_neg (Nat.not_lt.mpr hlength)]

/-- Without a destination there is success only for an empty buffer. -/
theorem eq_nil_of_ok (h : (copyOut bytes none capacity).status = .ok) : bytes = [] := by
  unfold copyOut at h
  cases hlength : bufferLength bytes with
  | error failure =>
    rw [hlength] at h
    cases h
  | ok length =>
    rw [hlength] at h
    unfold bufferLength at hlength
    split_ifs at hlength
    cases hlength
    dsimp only at h
    by_cases hcapacity : capacity ≠ 0
    · rw [if_pos hcapacity] at h
      cases h
    · rw [if_neg hcapacity] at h
      dsimp only at h
      split_ifs at h with hempty
      exact List.eq_nil_of_length_eq_zero hempty

/-- What a copy may do to the memory and to `out_required`. -/
structure CopyContract (bytes : List UInt8) (destination : Option Nat) (capacity : UInt64)
    (m : Memory) (status : Status) (s : CopyState) : Prop where
  unchanged : status ≠ .ok → s.memory = m
  written : status = .ok → ∀ address ∈ destination,
    s.memory.read address bytes.length = bytes ∧ bytes.length ≤ capacity.toNat
  outside : ∀ x, (∀ address ∈ destination, x < address ∨ address + bytes.length ≤ x) →
    s.memory x = m x
  null : status = .ok → destination = none → bytes = []
  exactly : status = .ok ∨ status = .bufferTooSmall → s.required = .valid bytes.length
  zero : status ≠ .ok → status ≠ .bufferTooSmall → s.required = .valid 0

theorem copyTo_nil (destination : Option Nat) (m : Memory) : copyTo destination [] m = m := by
  cases destination with
  | none => rfl
  | some address =>
    funext x
    apply Memory.write_outside
    rw [List.length_nil]
    omega

theorem copyTo_outside {m : Memory} {x : Nat}
    (h : ∀ address ∈ destination, x < address ∨ address + bytes.length ≤ x) :
    copyTo destination bytes m x = m x := by
  cases destination with
  | none => rfl
  | some address => exact Memory.write_outside (h address rfl)

theorem copyContract_bufferCopy (bytes : List UInt8) (destination : Option Nat)
    (capacity : UInt64) (given : Nat) (m : Memory) :
    let ended := bufferCopy (.valid bytes) destination capacity
      { required := .valid given, memory := m }
    CopyContract bytes destination capacity m ended.1 ended.2 := by
  have hfits : ∀ address ∈ destination, (copyOut bytes destination capacity).status = .ok →
      bytes.length ≤ capacity.toNat := by
    rintro address rfl hok
    exact length_le_of_ok hok
  have hnull : (copyOut bytes destination capacity).status = .ok → destination = none →
      bytes = [] := by
    rintro hok rfl
    exact eq_nil_of_ok hok
  have hcases := copyOut_cases bytes destination capacity
  unfold bufferCopy
  dsimp only [borrowRequired] at hcases ⊢
  generalize copyOut bytes destination capacity = copied at hcases hfits hnull
  obtain ⟨status, required, written⟩ := copied
  rcases hcases with ⟨hrequired, hstatus, hwritten⟩ | ⟨hrequired, ⟨hstatus, hwritten⟩ |
    ⟨hstatus, hwritten⟩⟩
  · cases hrequired
    cases hstatus
    cases hwritten
    exact {
      unchanged := fun _ => copyTo_nil destination m
      written := nofun
      outside := fun x _ => congrFun (copyTo_nil destination m) x
      null := nofun
      exactly := by simp
      zero := fun _ _ => rfl }
  · cases hrequired
    cases hstatus
    cases hwritten
    exact {
      unchanged := fun _ => copyTo_nil destination m
      written := nofun
      outside := fun x _ => congrFun (copyTo_nil destination m) x
      null := nofun
      exactly := fun _ => rfl
      zero := fun _ h => absurd rfl h }
  · cases hrequired
    cases hstatus
    obtain rfl : written = bytes := hwritten
    exact {
      unchanged := fun h => absurd rfl h
      written := by
        rintro - address rfl
        exact ⟨Memory.read_write, hfits address rfl rfl⟩
      outside := fun x h => copyTo_outside h
      null := hnull
      exactly := fun _ => rfl
      zero := fun h => absurd rfl h }

end OpendalMbt.Native
