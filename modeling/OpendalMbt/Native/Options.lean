import OpendalMbt.Native.BytesView
import OpendalMbt.Native.WholeRead

/-!
# Option carriers

The option structs of `native/rust/src/abi.rs` and their parsers in `native/rust/src/lib.rs`.
OpenDAL's `BytesRange` is the parameter of `parseRange`, and the fields of its options that the
library leaves at their defaults are left out.

`Canonical` says of a carrier that it sets no bit without a meaning and keeps every field empty
whose presence bit is clear; `parse…_canonical` says that no other carrier is accepted.
-/

namespace OpendalMbt.Native

/-! ## Input structs -/

/-- The header, the size and the alignment of an extensible input. -/
def readInputStruct {T : Type} (size : Nat) (header : T → StructHeaderV1) :
    Pointer T → CallResult T
  | .null | .misaligned => .error .abiMismatch
  | .valid input =>
    if (header input).structVersion ≠ STRUCT_VERSION ∨ (header input).structSize.toNat < size then
      .error .abiMismatch
    else .ok input

/-- A header of the right version and size. -/
def StructHeaderV1.Complete (size : Nat) (header : StructHeaderV1) : Prop :=
  header.structVersion = STRUCT_VERSION ∧ size ≤ header.structSize.toNat

theorem readInputStruct_valid {T : Type} {size : Nat} {header : T → StructHeaderV1} {input : T}
    (h : (header input).Complete size) :
    readInputStruct size header (.valid input) = .ok input := by
  apply if_neg
  simp only [not_or, ne_eq, not_not, not_lt]
  exact h

theorem of_readInputStruct {T : Type} {size : Nat} {header : T → StructHeaderV1} {input out : T}
    (h : readInputStruct size header (.valid input) = .ok out) : out = input := by
  unfold readInputStruct at h
  dsimp only at h
  split_ifs at h
  cases h
  rfl

/-! ## Conditions -/

/-- The presence bits and the labels of the three texts that four of the carriers have. -/
structure ConditionFields where
  versionPresent : UInt64
  ifMatchPresent : UInt64
  ifNoneMatchPresent : UInt64
  version : String
  ifMatch : String
  ifNoneMatch : String

structure ConditionsV1 where
  presentBits : UInt64
  version : BytesViewV1
  ifMatch : BytesViewV1
  ifNoneMatch : BytesViewV1
  deriving DecidableEq, Repr

def ConditionFields.known (fields : ConditionFields) : UInt64 :=
  fields.versionPresent ||| fields.ifMatchPresent ||| fields.ifNoneMatchPresent

def parseConditions (fields : ConditionFields) (input : ConditionsV1) :
    CallResult ReadConditions := do
  let version ← optionalText input.version input.presentBits fields.versionPresent fields.version
  let ifMatch ← optionalText input.ifMatch input.presentBits fields.ifMatchPresent fields.ifMatch
  let ifNoneMatch ← optionalText input.ifNoneMatch input.presentBits fields.ifNoneMatchPresent
    fields.ifNoneMatch
  .ok { version, ifMatch, ifNoneMatch }

def READ_VERSION_PRESENT : UInt64 := 1
def READ_IF_MATCH_PRESENT : UInt64 := 2
def READ_IF_NONE_MATCH_PRESENT : UInt64 := 4
def READER_VERSION_PRESENT : UInt64 := 1
def READER_IF_MATCH_PRESENT : UInt64 := 2
def READER_IF_NONE_MATCH_PRESENT : UInt64 := 4
def READ_STREAM_VERSION_PRESENT : UInt64 := 1
def READ_STREAM_IF_MATCH_PRESENT : UInt64 := 2
def READ_STREAM_IF_NONE_MATCH_PRESENT : UInt64 := 4
def STAT_VERSION_PRESENT : UInt64 := 1
def STAT_IF_MATCH_PRESENT : UInt64 := 2
def STAT_IF_NONE_MATCH_PRESENT : UInt64 := 4

def readFields : ConditionFields where
  versionPresent := READ_VERSION_PRESENT
  ifMatchPresent := READ_IF_MATCH_PRESENT
  ifNoneMatchPresent := READ_IF_NONE_MATCH_PRESENT
  version := "read version"
  ifMatch := "read if_match"
  ifNoneMatch := "read if_none_match"

def readerFields : ConditionFields where
  versionPresent := READER_VERSION_PRESENT
  ifMatchPresent := READER_IF_MATCH_PRESENT
  ifNoneMatchPresent := READER_IF_NONE_MATCH_PRESENT
  version := "reader version"
  ifMatch := "reader if_match"
  ifNoneMatch := "reader if_none_match"

def readStreamFields : ConditionFields where
  versionPresent := READ_STREAM_VERSION_PRESENT
  ifMatchPresent := READ_STREAM_IF_MATCH_PRESENT
  ifNoneMatchPresent := READ_STREAM_IF_NONE_MATCH_PRESENT
  version := "read stream version"
  ifMatch := "read stream if_match"
  ifNoneMatch := "read stream if_none_match"

def statFields : ConditionFields where
  versionPresent := STAT_VERSION_PRESENT
  ifMatchPresent := STAT_IF_MATCH_PRESENT
  ifNoneMatchPresent := STAT_IF_NONE_MATCH_PRESENT
  version := "stat version"
  ifMatch := "stat if_match"
  ifNoneMatch := "stat if_none_match"

/-! ## Reads -/

structure ReadOptionsV1 extends StructHeaderV1, ConditionsV1 where
  range : ByteRangeV1
  deriving DecidableEq, Repr

structure ReaderOptionsV1 extends StructHeaderV1, ConditionsV1 where
  deriving DecidableEq, Repr

structure ReadStreamOptionsV1 extends StructHeaderV1, ConditionsV1 where
  range : ByteRangeV1
  chunkSize : UInt64
  deriving DecidableEq, Repr

structure StatOptionsV1 extends StructHeaderV1, ConditionsV1 where
  deriving DecidableEq, Repr

def sizeOfReadOptionsV1 : Nat := 96
def sizeOfReaderOptionsV1 : Nat := 64
def sizeOfReadStreamOptionsV1 : Nat := 104
def sizeOfStatOptionsV1 : Nat := 64

def noConditions : ReadConditions where
  version := none
  ifMatch := none
  ifNoneMatch := none

section Reads

variable {R : Type} (api : BytesRangeApi R)

def parseReadOptions : Pointer ReadOptionsV1 → CallResult (ReadOptions R)
  | .null => .ok { noConditions with range := api.default }
  | pointer => do
    let input ← readInputStruct sizeOfReadOptionsV1 (·.toStructHeaderV1) pointer
    if input.presentBits &&& ~~~readFields.known ≠ 0 then .error .abiMismatch
    else
      let range ← parseRange api input.range
      let conditions ← parseConditions readFields input.toConditionsV1
      .ok { conditions with range }

/-- `default` is `ReaderOptions::default()`. -/
def parseReaderOptions (default : ReaderOptions) : Pointer ReaderOptionsV1 → CallResult ReaderOptions
  | .null => .ok default
  | pointer => do
    let input ← readInputStruct sizeOfReaderOptionsV1 (·.toStructHeaderV1) pointer
    if input.presentBits &&& ~~~readerFields.known ≠ 0 then .error .abiMismatch
    else
      let conditions ← parseConditions readerFields input.toConditionsV1
      .ok { default with toReadConditions := conditions }

structure ParsedReadStreamOptions (R : Type) where
  reader : ReaderOptions
  range : R
  chunkSize : UInt64
  deriving DecidableEq, Repr

def parseReadStreamOptions (default : ReaderOptions) :
    Pointer ReadStreamOptionsV1 → CallResult (ParsedReadStreamOptions R)
  | .null => .error .abiMismatch
  | pointer => do
    let input ← readInputStruct sizeOfReadStreamOptionsV1 (·.toStructHeaderV1) pointer
    if input.presentBits &&& ~~~readStreamFields.known ≠ 0 then .error .abiMismatch
    else if input.chunkSize = 0 ∨ maxOutputBytes < input.chunkSize.toNat then
      .error (invalidArgument s!"read stream chunk_size must be between 1 and {maxOutputBytes}")
    else
      let _ ← (checkedLen input.chunkSize.toNat).mapError (fun _ =>
        invalidArgument "read stream chunk_size is not representable on this platform")
      let range ← parseRange api input.range
      let conditions ← parseConditions readStreamFields input.toConditionsV1
      .ok {
        range
        chunkSize := input.chunkSize
        reader := {
          default with toReadConditions := conditions, concurrent := 1, chunk := none, prefetch := 0 } }

def parseStatOptions : Pointer StatOptionsV1 → CallResult ReadConditions
  | .null => .ok noConditions
  | pointer => do
    let input ← readInputStruct sizeOfStatOptionsV1 (·.toStructHeaderV1) pointer
    if input.presentBits &&& ~~~statFields.known ≠ 0 then .error .abiMismatch
    else parseConditions statFields input.toConditionsV1

end Reads

/-! ## Writes, lists and deletes -/

def WRITE_APPEND : UInt64 := 1
def WRITE_CONTENT_TYPE_PRESENT : UInt64 := 1
def WRITE_CONTENT_DISPOSITION_PRESENT : UInt64 := 2
def WRITE_CONTENT_ENCODING_PRESENT : UInt64 := 4
def WRITE_CACHE_CONTROL_PRESENT : UInt64 := 8
def WRITE_IF_MATCH_PRESENT : UInt64 := 16
def WRITE_IF_NONE_MATCH_PRESENT : UInt64 := 32
def LIST_RECURSIVE : UInt64 := 1
def LIST_LIMIT_PRESENT : UInt64 := 1
def LIST_START_AFTER_PRESENT : UInt64 := 2
def DELETE_RECURSIVE : UInt64 := 1
def DELETE_VERSION_PRESENT : UInt64 := 1

structure WriteOptionsV1 extends StructHeaderV1 where
  presentBits : UInt64
  flags : UInt64
  contentType : BytesViewV1
  contentDisposition : BytesViewV1
  contentEncoding : BytesViewV1
  cacheControl : BytesViewV1
  ifMatch : BytesViewV1
  ifNoneMatch : BytesViewV1
  deriving DecidableEq, Repr

structure ListOptionsV1 extends StructHeaderV1 where
  presentBits : UInt64
  flags : UInt64
  limit : UInt64
  startAfter : BytesViewV1
  deriving DecidableEq, Repr

structure DeleteOptionsV1 extends StructHeaderV1 where
  presentBits : UInt64
  flags : UInt64
  version : BytesViewV1
  deriving DecidableEq, Repr

def sizeOfWriteOptionsV1 : Nat := 120
def sizeOfListOptionsV1 : Nat := 48
def sizeOfDeleteOptionsV1 : Nat := 40

structure WriteOptions where
  append : Bool
  contentType : Option String
  contentDisposition : Option String
  contentEncoding : Option String
  cacheControl : Option String
  ifMatch : Option String
  ifNoneMatch : Option String
  deriving DecidableEq, Repr

structure ListOptions where
  limit : Option Nat
  startAfter : Option String
  recursive : Bool
  deriving DecidableEq, Repr

structure DeleteOptions where
  version : Option String
  recursive : Bool
  deriving DecidableEq, Repr

def writeKnown : UInt64 :=
  WRITE_CONTENT_TYPE_PRESENT ||| WRITE_CONTENT_DISPOSITION_PRESENT |||
    WRITE_CONTENT_ENCODING_PRESENT ||| WRITE_CACHE_CONTROL_PRESENT ||| WRITE_IF_MATCH_PRESENT |||
    WRITE_IF_NONE_MATCH_PRESENT

def parseWriteOptions : Pointer WriteOptionsV1 → CallResult WriteOptions
  | .null => .ok {
      append := false, contentType := none, contentDisposition := none, contentEncoding := none,
      cacheControl := none, ifMatch := none, ifNoneMatch := none }
  | pointer => do
    let input ← readInputStruct sizeOfWriteOptionsV1 (·.toStructHeaderV1) pointer
    if input.presentBits &&& ~~~writeKnown ≠ 0 ∨ input.flags &&& ~~~WRITE_APPEND ≠ 0 then
      .error .abiMismatch
    else
      let contentType ← optionalText input.contentType input.presentBits
        WRITE_CONTENT_TYPE_PRESENT "write content_type"
      let contentDisposition ← optionalText input.contentDisposition input.presentBits
        WRITE_CONTENT_DISPOSITION_PRESENT "write content_disposition"
      let contentEncoding ← optionalText input.contentEncoding input.presentBits
        WRITE_CONTENT_ENCODING_PRESENT "write content_encoding"
      let cacheControl ← optionalText input.cacheControl input.presentBits
        WRITE_CACHE_CONTROL_PRESENT "write cache_control"
      let ifMatch ← optionalText input.ifMatch input.presentBits WRITE_IF_MATCH_PRESENT
        "write if_match"
      let ifNoneMatch ← optionalText input.ifNoneMatch input.presentBits
        WRITE_IF_NONE_MATCH_PRESENT "write if_none_match"
      .ok {
        append := input.flags &&& WRITE_APPEND ≠ 0
        contentType, contentDisposition, contentEncoding, cacheControl, ifMatch, ifNoneMatch }

/-- The limit of a list, which must be zero without its presence bit. -/
def parseLimit (input : ListOptionsV1) : CallResult (Option Nat) :=
  if input.presentBits &&& LIST_LIMIT_PRESENT ≠ 0 then (checkedLen input.limit.toNat).map some
  else if input.limit ≠ 0 then .error .abiMismatch
  else .ok none

def parseListOptions : Pointer ListOptionsV1 → CallResult ListOptions
  | .null => .ok { limit := none, startAfter := none, recursive := false }
  | pointer => do
    let input ← readInputStruct sizeOfListOptionsV1 (·.toStructHeaderV1) pointer
    if input.presentBits &&& ~~~(LIST_LIMIT_PRESENT ||| LIST_START_AFTER_PRESENT) ≠ 0 ∨
        input.flags &&& ~~~LIST_RECURSIVE ≠ 0 then
      .error .abiMismatch
    else
      let limit ← parseLimit input
      let startAfter ← optionalText input.startAfter input.presentBits LIST_START_AFTER_PRESENT
        "list start_after"
      .ok { limit, startAfter, recursive := input.flags &&& LIST_RECURSIVE ≠ 0 }

def parseDeleteOptions : Pointer DeleteOptionsV1 → CallResult DeleteOptions
  | .null => .ok { version := none, recursive := false }
  | pointer => do
    let input ← readInputStruct sizeOfDeleteOptionsV1 (·.toStructHeaderV1) pointer
    if input.presentBits &&& ~~~DELETE_VERSION_PRESENT ≠ 0 ∨
        input.flags &&& ~~~DELETE_RECURSIVE ≠ 0 then
      .error .abiMismatch
    else
      let version ← optionalText input.version input.presentBits DELETE_VERSION_PRESENT
        "delete version"
      .ok { version, recursive := input.flags &&& DELETE_RECURSIVE ≠ 0 }

/-! ## Parsing a complete carrier -/

section Complete

variable {R : Type} {api : BytesRangeApi R} {r : R} {conditions : ReadConditions}

theorem parseReadOptions_eq {input : ReadOptionsV1}
    (hheader : input.toStructHeaderV1.Complete sizeOfReadOptionsV1)
    (hknown : input.presentBits &&& ~~~readFields.known = 0)
    (hrange : parseRange api input.range = .ok r)
    (hconditions : parseConditions readFields input.toConditionsV1 = .ok conditions) :
    parseReadOptions api (.valid input) = .ok { conditions with range := r } := by
  have hread := readInputStruct_valid hheader
  rw [parseReadOptions, CallResult.bind_of_ok hread, if_neg (not_not.mpr hknown),
    CallResult.bind_of_ok hrange, CallResult.bind_of_ok hconditions]
  intro h
  cases h

theorem parseReaderOptions_eq (default : ReaderOptions) {input : ReaderOptionsV1}
    (hheader : input.toStructHeaderV1.Complete sizeOfReaderOptionsV1)
    (hknown : input.presentBits &&& ~~~readerFields.known = 0)
    (hconditions : parseConditions readerFields input.toConditionsV1 = .ok conditions) :
    parseReaderOptions default (.valid input) =
      .ok { default with toReadConditions := conditions } := by
  have hread := readInputStruct_valid hheader
  rw [parseReaderOptions, CallResult.bind_of_ok hread, if_neg (not_not.mpr hknown),
    CallResult.bind_of_ok hconditions]
  intro h
  cases h

theorem parseReadStreamOptions_eq (default : ReaderOptions) {input : ReadStreamOptionsV1}
    (hheader : input.toStructHeaderV1.Complete sizeOfReadStreamOptionsV1)
    (hknown : input.presentBits &&& ~~~readStreamFields.known = 0)
    (hpositive : input.chunkSize ≠ 0) (hlimit : input.chunkSize.toNat ≤ maxOutputBytes)
    (hrange : parseRange api input.range = .ok r)
    (hconditions : parseConditions readStreamFields input.toConditionsV1 = .ok conditions) :
    parseReadStreamOptions api default (.valid input) = .ok {
      range := r
      chunkSize := input.chunkSize
      reader := {
        default with
        toReadConditions := conditions, concurrent := 1, chunk := none, prefetch := 0 } } := by
  have hlength : checkedLen input.chunkSize.toNat = .ok input.chunkSize.toNat := by
    apply if_neg
    unfold maxOutputBytes at hlimit
    unfold isizeMax
    omega
  have hchecked : (checkedLen input.chunkSize.toNat).mapError (fun _ =>
      invalidArgument "read stream chunk_size is not representable on this platform") =
      .ok input.chunkSize.toNat := by
    rw [hlength]
    rfl
  have hchunk : ¬ (input.chunkSize = 0 ∨ maxOutputBytes < input.chunkSize.toNat) := by
    rw [not_or]
    exact ⟨hpositive, by omega⟩
  have hread := readInputStruct_valid hheader
  rw [parseReadStreamOptions, CallResult.bind_of_ok hread, if_neg (not_not.mpr hknown),
    if_neg hchunk, CallResult.bind_of_ok hchecked, CallResult.bind_of_ok hrange,
    CallResult.bind_of_ok hconditions]
  intro h
  cases h

theorem parseStatOptions_eq {input : StatOptionsV1}
    (hheader : input.toStructHeaderV1.Complete sizeOfStatOptionsV1)
    (hknown : input.presentBits &&& ~~~statFields.known = 0) :
    parseStatOptions (.valid input) = parseConditions statFields input.toConditionsV1 := by
  have hread := readInputStruct_valid hheader
  rw [parseStatOptions, CallResult.bind_of_ok hread, if_neg (not_not.mpr hknown)]
  intro h
  cases h

/-- The texts of a write and its flag, one by one. -/
theorem parseWriteOptions_eq {input : WriteOptionsV1} {options : WriteOptions}
    (hheader : input.toStructHeaderV1.Complete sizeOfWriteOptionsV1)
    (hknown : input.presentBits &&& ~~~writeKnown = 0)
    (hflags : input.flags &&& ~~~WRITE_APPEND = 0)
    (happend : decide (input.flags &&& WRITE_APPEND ≠ 0) = options.append)
    (hcontentType : optionalText input.contentType input.presentBits WRITE_CONTENT_TYPE_PRESENT
      "write content_type" = .ok options.contentType)
    (hcontentDisposition : optionalText input.contentDisposition input.presentBits
      WRITE_CONTENT_DISPOSITION_PRESENT "write content_disposition" =
        .ok options.contentDisposition)
    (hcontentEncoding : optionalText input.contentEncoding input.presentBits
      WRITE_CONTENT_ENCODING_PRESENT "write content_encoding" = .ok options.contentEncoding)
    (hcacheControl : optionalText input.cacheControl input.presentBits
      WRITE_CACHE_CONTROL_PRESENT "write cache_control" = .ok options.cacheControl)
    (hifMatch : optionalText input.ifMatch input.presentBits WRITE_IF_MATCH_PRESENT
      "write if_match" = .ok options.ifMatch)
    (hifNoneMatch : optionalText input.ifNoneMatch input.presentBits WRITE_IF_NONE_MATCH_PRESENT
      "write if_none_match" = .ok options.ifNoneMatch) :
    parseWriteOptions (.valid input) = .ok options := by
  have hread := readInputStruct_valid hheader
  have hbits : ¬ (input.presentBits &&& ~~~writeKnown ≠ 0 ∨
      input.flags &&& ~~~WRITE_APPEND ≠ 0) := by
    rw [not_or, not_not, not_not]
    exact ⟨hknown, hflags⟩
  rw [parseWriteOptions, CallResult.bind_of_ok hread, if_neg hbits,
    CallResult.bind_of_ok hcontentType, CallResult.bind_of_ok hcontentDisposition,
    CallResult.bind_of_ok hcontentEncoding, CallResult.bind_of_ok hcacheControl,
    CallResult.bind_of_ok hifMatch, CallResult.bind_of_ok hifNoneMatch, happend]
  intro h
  cases h

/-- A limit that was written under its presence bit comes back as it was. -/
theorem parseLimit_written {input : ListOptionsV1} {limit : Option UInt64}
    (hbit : input.presentBits &&& LIST_LIMIT_PRESENT ≠ 0 ↔ limit.isSome)
    (hfield : input.limit = limit.getD 0) (hlimit : ∀ n ∈ limit, n.toNat ≤ isizeMax) :
    parseLimit input = .ok (limit.map UInt64.toNat) := by
  unfold parseLimit
  cases limit with
  | none =>
    have hzero : input.limit = 0 := hfield
    rw [if_neg (fun hset => by cases hbit.mp hset), if_neg (not_not.mpr hzero)]
    rfl
  | some n =>
    have hn : input.limit = n := hfield
    have hle := hlimit n rfl
    rw [if_pos (hbit.mpr rfl), hn, checkedLen, if_neg (by omega)]
    rfl

theorem parseListOptions_eq {input : ListOptionsV1} {options : ListOptions}
    (hheader : input.toStructHeaderV1.Complete sizeOfListOptionsV1)
    (hknown : input.presentBits &&& ~~~(LIST_LIMIT_PRESENT ||| LIST_START_AFTER_PRESENT) = 0)
    (hflags : input.flags &&& ~~~LIST_RECURSIVE = 0)
    (hrecursive : decide (input.flags &&& LIST_RECURSIVE ≠ 0) = options.recursive)
    (hlimit : parseLimit input = .ok options.limit)
    (hstartAfter : optionalText input.startAfter input.presentBits LIST_START_AFTER_PRESENT
      "list start_after" = .ok options.startAfter) :
    parseListOptions (.valid input) = .ok options := by
  have hread := readInputStruct_valid hheader
  have hbits : ¬ (input.presentBits &&& ~~~(LIST_LIMIT_PRESENT ||| LIST_START_AFTER_PRESENT) ≠ 0 ∨
      input.flags &&& ~~~LIST_RECURSIVE ≠ 0) := by
    rw [not_or, not_not, not_not]
    exact ⟨hknown, hflags⟩
  rw [parseListOptions, CallResult.bind_of_ok hread, if_neg hbits, CallResult.bind_of_ok hlimit,
    CallResult.bind_of_ok hstartAfter, hrecursive]
  intro h
  cases h

/-- A limit that is no length of memory. -/
theorem parseListOptions_limit {input : ListOptionsV1}
    (hheader : input.toStructHeaderV1.Complete sizeOfListOptionsV1)
    (hknown : input.presentBits &&& ~~~(LIST_LIMIT_PRESENT ||| LIST_START_AFTER_PRESENT) = 0)
    (hflags : input.flags &&& ~~~LIST_RECURSIVE = 0)
    (hbit : input.presentBits &&& LIST_LIMIT_PRESENT ≠ 0) (hlimit : isizeMax < input.limit.toNat) :
    parseListOptions (.valid input) = .error .abiMismatch := by
  have hread := readInputStruct_valid hheader
  have hbits : ¬ (input.presentBits &&& ~~~(LIST_LIMIT_PRESENT ||| LIST_START_AFTER_PRESENT) ≠ 0 ∨
      input.flags &&& ~~~LIST_RECURSIVE ≠ 0) := by
    rw [not_or, not_not, not_not]
    exact ⟨hknown, hflags⟩
  have hrefused : parseLimit input = .error .abiMismatch := by
    rw [parseLimit, if_pos hbit, checkedLen, if_pos hlimit]
    rfl
  rw [parseListOptions, CallResult.bind_of_ok hread, if_neg hbits, hrefused]
  · rfl
  · intro h
    cases h

theorem parseDeleteOptions_eq {input : DeleteOptionsV1} {options : DeleteOptions}
    (hheader : input.toStructHeaderV1.Complete sizeOfDeleteOptionsV1)
    (hknown : input.presentBits &&& ~~~DELETE_VERSION_PRESENT = 0)
    (hflags : input.flags &&& ~~~DELETE_RECURSIVE = 0)
    (hrecursive : decide (input.flags &&& DELETE_RECURSIVE ≠ 0) = options.recursive)
    (hversion : optionalText input.version input.presentBits DELETE_VERSION_PRESENT
      "delete version" = .ok options.version) :
    parseDeleteOptions (.valid input) = .ok options := by
  have hread := readInputStruct_valid hheader
  have hbits : ¬ (input.presentBits &&& ~~~DELETE_VERSION_PRESENT ≠ 0 ∨
      input.flags &&& ~~~DELETE_RECURSIVE ≠ 0) := by
    rw [not_or, not_not, not_not]
    exact ⟨hknown, hflags⟩
  rw [parseDeleteOptions, CallResult.bind_of_ok hread, if_neg hbits,
    CallResult.bind_of_ok hversion, hrecursive]
  intro h
  cases h

end Complete

/-! ## What is accepted -/

/-- A field that is there only under its presence bit. -/
def Guarded (presentBits bit : UInt64) (view : BytesViewV1) : Prop :=
  presentBits &&& bit = 0 → view = .absent

structure ConditionsV1.Canonical (fields : ConditionFields) (input : ConditionsV1) : Prop where
  known : input.presentBits &&& ~~~fields.known = 0
  version : Guarded input.presentBits fields.versionPresent input.version
  ifMatch : Guarded input.presentBits fields.ifMatchPresent input.ifMatch
  ifNoneMatch : Guarded input.presentBits fields.ifNoneMatchPresent input.ifNoneMatch

structure WriteOptionsV1.Canonical (input : WriteOptionsV1) : Prop where
  known : input.presentBits &&& ~~~writeKnown = 0
  flags : input.flags &&& ~~~WRITE_APPEND = 0
  contentType : Guarded input.presentBits WRITE_CONTENT_TYPE_PRESENT input.contentType
  contentDisposition :
    Guarded input.presentBits WRITE_CONTENT_DISPOSITION_PRESENT input.contentDisposition
  contentEncoding : Guarded input.presentBits WRITE_CONTENT_ENCODING_PRESENT input.contentEncoding
  cacheControl : Guarded input.presentBits WRITE_CACHE_CONTROL_PRESENT input.cacheControl
  ifMatch : Guarded input.presentBits WRITE_IF_MATCH_PRESENT input.ifMatch
  ifNoneMatch : Guarded input.presentBits WRITE_IF_NONE_MATCH_PRESENT input.ifNoneMatch

structure ListOptionsV1.Canonical (input : ListOptionsV1) : Prop where
  known : input.presentBits &&& ~~~(LIST_LIMIT_PRESENT ||| LIST_START_AFTER_PRESENT) = 0
  flags : input.flags &&& ~~~LIST_RECURSIVE = 0
  limit : input.presentBits &&& LIST_LIMIT_PRESENT = 0 → input.limit = 0
  startAfter : Guarded input.presentBits LIST_START_AFTER_PRESENT input.startAfter

structure DeleteOptionsV1.Canonical (input : DeleteOptionsV1) : Prop where
  known : input.presentBits &&& ~~~DELETE_VERSION_PRESENT = 0
  flags : input.flags &&& ~~~DELETE_RECURSIVE = 0
  version : Guarded input.presentBits DELETE_VERSION_PRESENT input.version

theorem guarded_of_optionalText {view : BytesViewV1} {presentBits bit : UInt64} {label : String}
    {value : Option String} (h : optionalText view presentBits bit label = .ok value) :
    Guarded presentBits bit view := absent_of_optionalText h

theorem canonical_of_parseConditions {fields : ConditionFields} {input : ConditionsV1}
    {conditions : ReadConditions} (hknown : input.presentBits &&& ~~~fields.known = 0)
    (h : parseConditions fields input = .ok conditions) : input.Canonical fields := by
  obtain ⟨version, hversion, h⟩ := CallResult.bind_eq_ok.mp h
  obtain ⟨ifMatch, hifMatch, h⟩ := CallResult.bind_eq_ok.mp h
  obtain ⟨ifNoneMatch, hifNoneMatch, -⟩ := CallResult.bind_eq_ok.mp h
  exact ⟨hknown, guarded_of_optionalText hversion, guarded_of_optionalText hifMatch,
    guarded_of_optionalText hifNoneMatch⟩

/-- What follows a check was reached through it. -/
theorem of_guard {α : Type} {p : Prop} [Decidable p] {failure : CallFailure} {rest : CallResult α}
    {value : α} (h : (if p then .error failure else rest) = .ok value) :
    ¬ p ∧ rest = .ok value := by
  split_ifs at h with hp
  exact ⟨hp, h⟩

section Canonical

variable {R : Type} {api : BytesRangeApi R}

theorem parseReadOptions_canonical {input : ReadOptionsV1} {options : ReadOptions R}
    (h : parseReadOptions api (.valid input) = .ok options) :
    input.toConditionsV1.Canonical readFields := by
  obtain ⟨read, hread, hbody⟩ := CallResult.bind_eq_ok.mp h
  rw [of_readInputStruct hread] at hbody
  obtain ⟨hknown, h⟩ := of_guard hbody
  obtain ⟨range, -, h⟩ := CallResult.bind_eq_ok.mp h
  obtain ⟨conditions, hconditions, -⟩ := CallResult.bind_eq_ok.mp h
  exact canonical_of_parseConditions (not_not.mp hknown) hconditions

theorem parseReaderOptions_canonical {default : ReaderOptions} {input : ReaderOptionsV1}
    {options : ReaderOptions} (h : parseReaderOptions default (.valid input) = .ok options) :
    input.toConditionsV1.Canonical readerFields := by
  obtain ⟨read, hread, hbody⟩ := CallResult.bind_eq_ok.mp h
  rw [of_readInputStruct hread] at hbody
  obtain ⟨hknown, h⟩ := of_guard hbody
  obtain ⟨conditions, hconditions, -⟩ := CallResult.bind_eq_ok.mp h
  exact canonical_of_parseConditions (not_not.mp hknown) hconditions

theorem parseReadStreamOptions_canonical {default : ReaderOptions} {input : ReadStreamOptionsV1}
    {options : ParsedReadStreamOptions R}
    (h : parseReadStreamOptions api default (.valid input) = .ok options) :
    input.toConditionsV1.Canonical readStreamFields := by
  obtain ⟨read, hread, hbody⟩ := CallResult.bind_eq_ok.mp h
  rw [of_readInputStruct hread] at hbody
  obtain ⟨hknown, h⟩ := of_guard hbody
  obtain ⟨-, h⟩ := of_guard h
  obtain ⟨length, -, h⟩ := CallResult.bind_eq_ok.mp h
  obtain ⟨range, -, h⟩ := CallResult.bind_eq_ok.mp h
  obtain ⟨conditions, hconditions, -⟩ := CallResult.bind_eq_ok.mp h
  exact canonical_of_parseConditions (not_not.mp hknown) hconditions

theorem parseStatOptions_canonical {input : StatOptionsV1} {options : ReadConditions}
    (h : parseStatOptions (.valid input) = .ok options) :
    input.toConditionsV1.Canonical statFields := by
  obtain ⟨read, hread, hbody⟩ := CallResult.bind_eq_ok.mp h
  rw [of_readInputStruct hread] at hbody
  obtain ⟨hknown, h⟩ := of_guard hbody
  exact canonical_of_parseConditions (not_not.mp hknown) h

theorem parseWriteOptions_canonical {input : WriteOptionsV1} {options : WriteOptions}
    (h : parseWriteOptions (.valid input) = .ok options) : input.Canonical := by
  obtain ⟨read, hread, hbody⟩ := CallResult.bind_eq_ok.mp h
  rw [of_readInputStruct hread] at hbody
  obtain ⟨hbits, h⟩ := of_guard hbody
  rw [not_or, not_not, not_not] at hbits
  obtain ⟨contentType, hcontentType, h⟩ := CallResult.bind_eq_ok.mp h
  obtain ⟨contentDisposition, hcontentDisposition, h⟩ := CallResult.bind_eq_ok.mp h
  obtain ⟨contentEncoding, hcontentEncoding, h⟩ := CallResult.bind_eq_ok.mp h
  obtain ⟨cacheControl, hcacheControl, h⟩ := CallResult.bind_eq_ok.mp h
  obtain ⟨ifMatch, hifMatch, h⟩ := CallResult.bind_eq_ok.mp h
  obtain ⟨ifNoneMatch, hifNoneMatch, -⟩ := CallResult.bind_eq_ok.mp h
  exact ⟨hbits.1, hbits.2, guarded_of_optionalText hcontentType,
    guarded_of_optionalText hcontentDisposition, guarded_of_optionalText hcontentEncoding,
    guarded_of_optionalText hcacheControl, guarded_of_optionalText hifMatch,
    guarded_of_optionalText hifNoneMatch⟩

theorem parseListOptions_canonical {input : ListOptionsV1} {options : ListOptions}
    (h : parseListOptions (.valid input) = .ok options) : input.Canonical := by
  obtain ⟨read, hread, hbody⟩ := CallResult.bind_eq_ok.mp h
  rw [of_readInputStruct hread] at hbody
  obtain ⟨hbits, h⟩ := of_guard hbody
  rw [not_or, not_not, not_not] at hbits
  obtain ⟨limit, hlimit, h⟩ := CallResult.bind_eq_ok.mp h
  obtain ⟨startAfter, hstartAfter, -⟩ := CallResult.bind_eq_ok.mp h
  refine ⟨hbits.1, hbits.2, ?_, guarded_of_optionalText hstartAfter⟩
  intro hclear
  rw [parseLimit, if_neg (not_not.mpr hclear)] at hlimit
  exact not_not.mp (of_guard hlimit).1

theorem parseDeleteOptions_canonical {input : DeleteOptionsV1} {options : DeleteOptions}
    (h : parseDeleteOptions (.valid input) = .ok options) : input.Canonical := by
  obtain ⟨read, hread, hbody⟩ := CallResult.bind_eq_ok.mp h
  rw [of_readInputStruct hread] at hbody
  obtain ⟨hbits, h⟩ := of_guard hbody
  rw [not_or, not_not, not_not] at hbits
  obtain ⟨version, hversion, -⟩ := CallResult.bind_eq_ok.mp h
  exact ⟨hbits.1, hbits.2, guarded_of_optionalText hversion⟩

end Canonical

end OpendalMbt.Native
