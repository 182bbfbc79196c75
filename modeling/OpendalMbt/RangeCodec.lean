import OpendalMbt.Bridge.Owned
import OpendalMbt.Native.CallResult
import OpendalMbt.Transition.Call

/-!
# Byte ranges over the two bindings

A byte range crosses each binding as a kind, an offset and a length. `parseRange` is
`parse_range` of `native/rust/src/lib.rs`, `byteRange` is `byte_range` of
`wasm/browser-bridge/src/lib.rs`; both build OpenDAL's `BytesRange`, which is a parameter.

* `ByteRange.encode` lists the canonical encodings.
* `byteRange_eq_ok`: `byteRange` accepts the canonical encodings of the ranges that end within
  64 bits, and no other scalars.
* `parseRange_eq_ok`: `parseRange` accepts the same under a well-formed header.
* `operatorReadOptionsStart_overflow`, `readerRead_overflow`: a range that ends beyond 64 bits
  ends the call before anything is done.
-/

namespace OpendalMbt

open Transition

def RANGE_FULL : UInt32 := 0
def RANGE_FROM : UInt32 := 1
def RANGE_OFFSET_LENGTH : UInt32 := 2
def RANGE_SUFFIX : UInt32 := 3

/-- `UInt64::checked_add`. -/
def checkedAdd (a b : UInt64) : Option UInt64 :=
  if a.toNat + b.toNat < UInt64.size then some (a + b) else none

theorem checkedAdd_eq_none {a b : UInt64} :
    checkedAdd a b = none ↔ UInt64.size ≤ a.toNat + b.toNat := by
  unfold checkedAdd
  split <;> simp <;> omega

theorem isSome_checkedAdd {a b : UInt64} :
    (checkedAdd a b).isSome ↔ a.toNat + b.toNat < UInt64.size := by
  unfold checkedAdd
  split <;> simp <;> omega

/-! ## Ranges -/

/-- `ByteRange` of the MoonBit packages. -/
inductive ByteRange where
  | full
  | «from» (offset : UInt64)
  | range (offset length : UInt64)
  | suffix (length : UInt64)
  deriving DecidableEq, Repr

/-- The three scalars of a range. -/
structure RangeScalars where
  kind : UInt32
  offset : UInt64
  length : UInt64
  deriving DecidableEq, Repr

/-- The constructors of OpenDAL's `BytesRange`. -/
structure BytesRangeApi (R : Type) where
  default : R
  new : UInt64 → Option UInt64 → R
  suffix : UInt64 → R

namespace ByteRange

variable {R : Type}

/-- A range must end within 64 bits. -/
def Fits : ByteRange → Prop
  | .range offset length => offset.toNat + length.toNat < UInt64.size
  | _ => True

instance : (range : ByteRange) → Decidable range.Fits
  | .full | .from _ | .suffix _ => isTrue trivial
  | .range offset length =>
    inferInstanceAs (Decidable (offset.toNat + length.toNat < UInt64.size))

def encode : ByteRange → RangeScalars
  | .full => ⟨RANGE_FULL, 0, 0⟩
  | .from offset => ⟨RANGE_FROM, offset, 0⟩
  | .range offset length => ⟨RANGE_OFFSET_LENGTH, offset, length⟩
  | .suffix length => ⟨RANGE_SUFFIX, 0, length⟩

/-- The range that OpenDAL is asked for. -/
def meaning (api : BytesRangeApi R) : ByteRange → R
  | .full => api.default
  | .from offset => api.new offset none
  | .range offset length => api.new offset (some length)
  | .suffix length => api.suffix length

theorem encode_injective {a b : ByteRange} (h : a.encode = b.encode) : a = b := by
  cases a <;> cases b <;> simp_all [encode, RANGE_FULL, RANGE_FROM, RANGE_OFFSET_LENGTH,
    RANGE_SUFFIX]

end ByteRange

/-! ## Options with a range -/

/-- OpenDAL's `BytesRange` by the two patterns that `whole_read_plan` takes it apart with. -/
inductive BytesRange where
  | range (offset : UInt64) (size : Option UInt64)
  | suffix (size : UInt64)
  deriving DecidableEq, Repr

def BytesRange.api : BytesRangeApi BytesRange where
  default := .range 0 none
  new := .range
  suffix := .suffix

structure ReadConditions where
  version : Option String
  ifMatch : Option String
  ifNoneMatch : Option String
  deriving DecidableEq, Repr

/-- `options::ReadOptions`, of which the bindings set these fields. -/
structure ReadOptions (R : Type) extends ReadConditions where
  range : R
  deriving DecidableEq, Repr

/-! ## The browser bridge -/

namespace Bridge

variable {R : Type} {api : BytesRangeApi R} {kind : UInt32} {offset length : UInt64} {r : R}

def invalidRange : BridgeError := .invalidArgument "invalid byte-range scalar encoding"

def byteRange (api : BytesRangeApi R) (kind : UInt32) (offset length : UInt64) :
    Except BridgeError R :=
  if kind = RANGE_FULL ∧ offset = 0 ∧ length = 0 then .ok api.default
  else if kind = RANGE_FROM ∧ length = 0 then .ok (api.new offset none)
  else if kind = RANGE_OFFSET_LENGTH ∧ (checkedAdd offset length).isSome then
    .ok (api.new offset (some length))
  else if kind = RANGE_SUFFIX ∧ offset = 0 then .ok (api.suffix length)
  else .error invalidRange

theorem byteRange_encode {range : ByteRange} (h : range.Fits) :
    byteRange api range.encode.kind range.encode.offset range.encode.length =
      .ok (range.meaning api) := by
  cases range with
  | full => rfl
  | «from» offset => rfl
  | suffix length => rfl
  | range offset length =>
    have hsum : (checkedAdd offset length).isSome := isSome_checkedAdd.mpr h
    simp [byteRange, ByteRange.encode, ByteRange.meaning, RANGE_FULL, RANGE_FROM,
      RANGE_OFFSET_LENGTH, hsum]

/-- What is accepted is the encoding of a range. -/
theorem encode_of_byteRange (h : byteRange api kind offset length = .ok r) :
    ∃ range : ByteRange, range.Fits ∧ range.encode = ⟨kind, offset, length⟩ ∧
      r = range.meaning api := by
  unfold byteRange at h
  split at h
  · rename_i hkind
    obtain ⟨rfl, rfl, rfl⟩ := hkind
    cases h
    exact ⟨.full, trivial, rfl, rfl⟩
  split at h
  · rename_i hkind
    obtain ⟨rfl, rfl⟩ := hkind
    cases h
    exact ⟨.from offset, trivial, rfl, rfl⟩
  split at h
  · rename_i hkind
    obtain ⟨rfl, hsum⟩ := hkind
    cases h
    exact ⟨.range offset length, isSome_checkedAdd.mp hsum, rfl, rfl⟩
  split at h
  · rename_i hkind
    obtain ⟨rfl, rfl⟩ := hkind
    cases h
    exact ⟨.suffix length, trivial, rfl, rfl⟩
  · cases h

theorem byteRange_eq_ok :
    byteRange api kind offset length = .ok r ↔ ∃ range : ByteRange, range.Fits ∧
      range.encode = ⟨kind, offset, length⟩ ∧ r = range.meaning api := by
  constructor
  · exact encode_of_byteRange
  · intro ⟨range, hfits, hencode, hr⟩
    have haccepted : byteRange api range.encode.kind range.encode.offset range.encode.length =
        .ok (range.meaning api) := byteRange_encode hfits
    rw [hencode] at haccepted
    rw [hr]
    exact haccepted

theorem byteRange_overflow (h : UInt64.size ≤ offset.toNat + length.toNat) :
    byteRange api RANGE_OFFSET_LENGTH offset length = .error invalidRange := by
  have hsum := checkedAdd_eq_none.mpr h
  simp [byteRange, RANGE_FULL, RANGE_FROM, RANGE_OFFSET_LENGTH, RANGE_SUFFIX, hsum]

/-! ### The starts of a read -/

/-- The handles of the optional texts of a read. -/
structure ReadTexts where
  version : UInt32
  ifMatch : UInt32
  ifNoneMatch : UInt32

structure ReadStreamOptions (R : Type) extends ReadOptions R where
  chunkSize : Nat

section Starts

variable {σ : Type} (api : BytesRangeApi R) (texts : ReadTexts) (range : RangeScalars)
  (optionalOwnedUtf8Buffer : UInt32 → σ → Except BridgeError (Option String)) (s : σ)

/-- A text is copied out of its buffer, which changes nothing. -/
def readOptionsFromScalars : Except BridgeError (ReadOptions R) := do
  let range ← byteRange api range.kind range.offset range.length
  let version ← optionalOwnedUtf8Buffer texts.version s
  let ifMatch ← optionalOwnedUtf8Buffer texts.ifMatch s
  let ifNoneMatch ← optionalOwnedUtf8Buffer texts.ifNoneMatch s
  .ok { range, version, ifMatch, ifNoneMatch }

def chunkSizeMessage (chunkSize : UInt32) : String :=
  s!"read stream chunk size must be 1..={maxTransferChunk}, found {chunkSize}"

/-- Here the range comes last. -/
def readStreamOptionsFromScalars (chunkSize : UInt32) : Except BridgeError (ReadStreamOptions R) :=
  if chunkSize.toNat < 1 ∨ maxTransferChunk < chunkSize.toNat then
    .error (.invalidArgument (chunkSizeMessage chunkSize))
  else do
    let version ← optionalOwnedUtf8Buffer texts.version s
    let ifMatch ← optionalOwnedUtf8Buffer texts.ifMatch s
    let ifNoneMatch ← optionalOwnedUtf8Buffer texts.ifNoneMatch s
    let range ← byteRange api range.kind range.offset range.length
    .ok { range, version, ifMatch, ifNoneMatch, chunkSize := chunkSize.toNat }

/-- The export up to `handle_or_record_error`. -/
def operatorReadOptionsStart (startReadTask : ReadOptions R → Call σ BridgeError UInt32) :
    Call σ BridgeError UInt32 := fun s =>
  match readOptionsFromScalars api texts range optionalOwnedUtf8Buffer s with
  | .error error => (.error error, s)
  | .ok options => startReadTask options s

def operatorReadStreamStart (startTask : ReadStreamOptions R → Call σ BridgeError UInt32)
    (chunkSize : UInt32) : Call σ BridgeError UInt32 := fun s =>
  match readStreamOptionsFromScalars api texts range optionalOwnedUtf8Buffer s chunkSize with
  | .error error => (.error error, s)
  | .ok options => startTask options s

end Starts

section Overflow

variable {σ : Type} {texts : ReadTexts}
  {optionalOwnedUtf8Buffer : UInt32 → σ → Except BridgeError (Option String)}
  (h : UInt64.size ≤ offset.toNat + length.toNat) (s : σ)
include h

theorem operatorReadOptionsStart_overflow
    (startReadTask : ReadOptions R → Call σ BridgeError UInt32) :
    operatorReadOptionsStart api texts ⟨RANGE_OFFSET_LENGTH, offset, length⟩
      optionalOwnedUtf8Buffer startReadTask s = (.error invalidRange, s) := by
  unfold operatorReadOptionsStart readOptionsFromScalars
  rw [byteRange_overflow h]
  rfl

theorem operatorReadStreamStart_overflow
    (startTask : ReadStreamOptions R → Call σ BridgeError UInt32) (chunkSize : UInt32) :
    ∃ error, operatorReadStreamStart api texts ⟨RANGE_OFFSET_LENGTH, offset, length⟩
      optionalOwnedUtf8Buffer startTask chunkSize s = (.error error, s) := by
  unfold operatorReadStreamStart readStreamOptionsFromScalars
  by_cases hchunk : chunkSize.toNat < 1 ∨ maxTransferChunk < chunkSize.toNat
  · rw [if_pos hchunk]
    exact ⟨_, rfl⟩
  rw [if_neg hchunk]
  dsimp only
  rw [byteRange_overflow h]
  cases optionalOwnedUtf8Buffer texts.version s with
  | error error => exact ⟨error, rfl⟩
  | ok version =>
    cases optionalOwnedUtf8Buffer texts.ifMatch s with
    | error error => exact ⟨error, rfl⟩
    | ok ifMatch =>
      cases optionalOwnedUtf8Buffer texts.ifNoneMatch s with
      | error error => exact ⟨error, rfl⟩
      | ok ifNoneMatch => exact ⟨invalidRange, rfl⟩

end Overflow

end Bridge

/-! ## The native library -/

namespace Native

def STRUCT_VERSION : UInt32 := 1

/-- A frozen by-value carrier of 32 bytes. -/
structure ByteRangeV1 where
  structSize : UInt32
  structVersion : UInt32
  kind : UInt32
  reserved0 : UInt32
  offset : UInt64
  length : UInt64
  deriving DecidableEq, Repr

def sizeOfByteRangeV1 : Nat := 32

def ByteRangeV1.WellFormed (range : ByteRangeV1) : Prop :=
  range.structVersion = STRUCT_VERSION ∧ sizeOfByteRangeV1 ≤ range.structSize.toNat ∧
    range.reserved0 = 0

instance (range : ByteRangeV1) : Decidable range.WellFormed :=
  inferInstanceAs (Decidable (_ ∧ _ ∧ _))

variable {R : Type} {api : BytesRangeApi R} {r : R}

def parseRange (api : BytesRangeApi R) (range : ByteRangeV1) : CallResult R :=
  if range.structVersion ≠ STRUCT_VERSION ∨ range.structSize.toNat < sizeOfByteRangeV1 ∨
      range.reserved0 ≠ 0 then
    .error .abiMismatch
  else if range.kind = RANGE_FULL ∧ range.offset = 0 ∧ range.length = 0 then .ok api.default
  else if range.kind = RANGE_FROM ∧ range.length = 0 then .ok (api.new range.offset none)
  else if range.kind = RANGE_OFFSET_LENGTH then
    match checkedAdd range.offset range.length with
    | none => .error .abiMismatch
    | some _ => .ok (api.new range.offset (some range.length))
  else if range.kind = RANGE_SUFFIX ∧ range.offset = 0 then .ok (api.suffix range.length)
  else .error .abiMismatch

theorem parseRange_of_not_wellFormed {range : ByteRangeV1} (h : ¬ range.WellFormed) :
    parseRange api range = .error .abiMismatch := by
  apply if_pos
  by_contra hall
  simp only [not_or, ne_eq, not_not, not_lt] at hall
  exact h hall

/-- Under a well-formed header the two validators differ in their errors only. -/
theorem toOption_parseRange {range : ByteRangeV1} (h : range.WellFormed) :
    (parseRange api range).toOption =
      (Bridge.byteRange api range.kind range.offset range.length).toOption := by
  obtain ⟨hversion, hsize, hreserved⟩ := h
  unfold parseRange Bridge.byteRange
  have hheader : ¬ (range.structVersion ≠ STRUCT_VERSION ∨
      range.structSize.toNat < sizeOfByteRangeV1 ∨ range.reserved0 ≠ 0) := by
    simp only [not_or, ne_eq, not_not, not_lt]
    exact ⟨hversion, hsize, hreserved⟩
  rw [if_neg hheader]
  by_cases hfull : range.kind = RANGE_FULL ∧ range.offset = 0 ∧ range.length = 0
  · rw [if_pos hfull, if_pos hfull]
    rfl
  rw [if_neg hfull, if_neg hfull]
  by_cases hfrom : range.kind = RANGE_FROM ∧ range.length = 0
  · rw [if_pos hfrom, if_pos hfrom]
    rfl
  rw [if_neg hfrom, if_neg hfrom]
  by_cases hkind : range.kind = RANGE_OFFSET_LENGTH
  · rw [if_pos hkind]
    cases hsum : checkedAdd range.offset range.length with
    | some sum =>
      rw [if_pos ⟨hkind, rfl⟩]
      rfl
    | none =>
      have hsuffix : ¬ (range.kind = RANGE_SUFFIX ∧ range.offset = 0) := by
        intro ⟨hne, _⟩
        rw [hkind] at hne
        exact absurd hne (by decide)
      rw [if_neg (by simp), if_neg hsuffix]
      rfl
  · have hoffset : ¬ (range.kind = RANGE_OFFSET_LENGTH ∧
        (checkedAdd range.offset range.length).isSome) := fun hboth => hkind hboth.1
    rw [if_neg hkind, if_neg hoffset]
    split <;> rfl

theorem parseRange_eq_ok {range : ByteRangeV1} :
    parseRange api range = .ok r ↔ range.WellFormed ∧ ∃ accepted : ByteRange, accepted.Fits ∧
      accepted.encode = ⟨range.kind, range.offset, range.length⟩ ∧ r = accepted.meaning api := by
  by_cases hformed : range.WellFormed
  · have hsame : (parseRange api range).toOption =
        (Bridge.byteRange api range.kind range.offset range.length).toOption :=
      toOption_parseRange hformed
    rw [← Bridge.byteRange_eq_ok]
    cases hparse : parseRange api range with
    | error failure =>
      rw [hparse] at hsame
      cases hbyte : Bridge.byteRange api range.kind range.offset range.length with
      | error error => simp
      | ok value =>
        rw [hbyte] at hsame
        cases hsame
    | ok value =>
      rw [hparse] at hsame
      cases hbyte : Bridge.byteRange api range.kind range.offset range.length with
      | error error =>
        rw [hbyte] at hsame
        cases hsame
      | ok value' =>
        rw [hbyte] at hsame
        cases hsame
        simp [hformed]
  · rw [parseRange_of_not_wellFormed hformed]
    simp [hformed]

theorem parseRange_overflow {range : ByteRangeV1} (hkind : range.kind = RANGE_OFFSET_LENGTH)
    (h : UInt64.size ≤ range.offset.toNat + range.length.toNat) :
    parseRange api range = .error .abiMismatch := by
  unfold parseRange
  split
  · rfl
  rw [hkind]
  simp [RANGE_FULL, RANGE_FROM, RANGE_OFFSET_LENGTH, checkedAdd_eq_none.mpr h]

/-- `reader_read` once its reader is borrowed; `work` is what follows the range. -/
def readerRead {σ β : Type} (api : BytesRangeApi R) (range : ByteRangeV1)
    (work : R → Call σ CallFailure β) : Call σ CallFailure β := fun s =>
  match parseRange api range with
  | .error failure => (.error failure, s)
  | .ok range => work range s

theorem readerRead_overflow {σ β : Type} {range : ByteRangeV1}
    (hkind : range.kind = RANGE_OFFSET_LENGTH)
    (h : UInt64.size ≤ range.offset.toNat + range.length.toNat)
    (work : R → Call σ CallFailure β) (s : σ) :
    readerRead api range work s = (.error .abiMismatch, s) := by
  unfold readerRead
  rw [parseRange_overflow hkind h]

end Native

end OpendalMbt
