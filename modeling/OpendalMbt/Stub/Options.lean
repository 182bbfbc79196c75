import OpendalMbt.Native.Options
import OpendalMbt.Stub.Utf16ToUtf8

/-!
# Option carriers in the C stub

The carriers that `src/opendal_stub.c` fills from the arguments of MoonBit, under the constants of
`native/include/opendal_mbt.h`. `prepare_read_options`, `prepare_stat_options` and the two
asynchronous variants are functions of their own; the synchronous operators fill the other
carriers in place, in the same steps.
-/

namespace OpendalMbt.Stub

open Codec Native

/-! ## Arguments -/

/-- A MoonBit `Bool` as an `int32_t`. -/
def boolArgument (b : Bool) : Int := if b then 1 else 0

/-- An optional text crosses as a flag and a text. -/
structure OptionalText where
  present : Int
  text : MoonString
  deriving DecidableEq, Repr

def emptyString : MoonString where
  units := []
  fits := Nat.zero_le _

def normalizeOptionalText : Option MoonString → OptionalText
  | some value => ⟨boolArgument true, value⟩
  | none => ⟨boolArgument false, emptyString⟩

/-- An `int32_t` that stands for no `Bool`. -/
def NotBool (n : Int) : Prop := n ≠ 0 ∧ n ≠ 1

instance (n : Int) : Decidable (NotBool n) := inferInstanceAs (Decidable (_ ∧ _))

theorem not_notBool (b : Bool) : ¬ NotBool (boolArgument b) := by
  cases b <;> decide

/-- What `result_set_local_error` leaves in the result. -/
def localError (kind : UInt32) (kindName message : String) : CallFailure :=
  .error { kind, status := ERROR_STATUS_PERMANENT, kindName, message }

def convertOptionalUtf8 (malloc : Nat → Bool) (argument : OptionalText) (label : String) :
    CallResult BytesViewV1 :=
  if argument.present = 0 then .ok .absent
  else
    match utf16ToUtf8 malloc argument.text with
    | .ok output => .ok output
    | .error .invalid =>
      .error (localError ERROR_INVALID_ARGUMENT "InvalidArgument" s!"{label} contains invalid UTF-16")
    | .error .noMemory =>
      .error (localError ERROR_UNEXPECTED "Unexpected" s!"unable to allocate UTF-8 {label}")

/-- `bits |= bit` when the argument is there. -/
def mark (bits bit : UInt64) (present : Int) : UInt64 :=
  if present ≠ 0 then bits ||| bit else bits

/-! ## Conditions -/

structure ConditionArguments where
  version : OptionalText
  ifMatch : OptionalText
  ifNoneMatch : OptionalText

/-- The texts under the constants and labels of a carrier. -/
def prepareConditions (malloc : Nat → Bool) (fields : ConditionFields) (a : ConditionArguments) :
    CallResult ConditionsV1 := do
  let version ← convertOptionalUtf8 malloc a.version fields.version
  let ifMatch ← convertOptionalUtf8 malloc a.ifMatch fields.ifMatch
  let ifNoneMatch ← convertOptionalUtf8 malloc a.ifNoneMatch fields.ifNoneMatch
  let bits := mark 0 fields.versionPresent a.version.present
  let bits := mark bits fields.ifMatchPresent a.ifMatch.present
  let bits := mark bits fields.ifNoneMatchPresent a.ifNoneMatch.present
  .ok { presentBits := bits, version, ifMatch, ifNoneMatch }

def ConditionArguments.NotBool (a : ConditionArguments) : Prop :=
  Stub.NotBool a.version.present ∨ Stub.NotBool a.ifMatch.present ∨
    Stub.NotBool a.ifNoneMatch.present

instance (a : ConditionArguments) : Decidable a.NotBool := inferInstanceAs (Decidable (_ ∨ _))

def OPENDAL_MBT_READ_VERSION_PRESENT : UInt64 := 1
def OPENDAL_MBT_READ_IF_MATCH_PRESENT : UInt64 := 2
def OPENDAL_MBT_READ_IF_NONE_MATCH_PRESENT : UInt64 := 4
def OPENDAL_MBT_READER_VERSION_PRESENT : UInt64 := 1
def OPENDAL_MBT_READER_IF_MATCH_PRESENT : UInt64 := 2
def OPENDAL_MBT_READER_IF_NONE_MATCH_PRESENT : UInt64 := 4
def OPENDAL_MBT_READ_STREAM_VERSION_PRESENT : UInt64 := 1
def OPENDAL_MBT_READ_STREAM_IF_MATCH_PRESENT : UInt64 := 2
def OPENDAL_MBT_READ_STREAM_IF_NONE_MATCH_PRESENT : UInt64 := 4
def OPENDAL_MBT_STAT_VERSION_PRESENT : UInt64 := 1
def OPENDAL_MBT_STAT_IF_MATCH_PRESENT : UInt64 := 2
def OPENDAL_MBT_STAT_IF_NONE_MATCH_PRESENT : UInt64 := 4

def readFields (subject : String) : ConditionFields where
  versionPresent := OPENDAL_MBT_READ_VERSION_PRESENT
  ifMatchPresent := OPENDAL_MBT_READ_IF_MATCH_PRESENT
  ifNoneMatchPresent := OPENDAL_MBT_READ_IF_NONE_MATCH_PRESENT
  version := s!"{subject} version"
  ifMatch := s!"{subject} if_match"
  ifNoneMatch := s!"{subject} if_none_match"

def readerFields : ConditionFields where
  versionPresent := OPENDAL_MBT_READER_VERSION_PRESENT
  ifMatchPresent := OPENDAL_MBT_READER_IF_MATCH_PRESENT
  ifNoneMatchPresent := OPENDAL_MBT_READER_IF_NONE_MATCH_PRESENT
  version := "reader version"
  ifMatch := "reader if_match"
  ifNoneMatch := "reader if_none_match"

def readStreamFields (subject : String) : ConditionFields where
  versionPresent := OPENDAL_MBT_READ_STREAM_VERSION_PRESENT
  ifMatchPresent := OPENDAL_MBT_READ_STREAM_IF_MATCH_PRESENT
  ifNoneMatchPresent := OPENDAL_MBT_READ_STREAM_IF_NONE_MATCH_PRESENT
  version := s!"{subject} version"
  ifMatch := s!"{subject} if_match"
  ifNoneMatch := s!"{subject} if_none_match"

def statFields : ConditionFields where
  versionPresent := OPENDAL_MBT_STAT_VERSION_PRESENT
  ifMatchPresent := OPENDAL_MBT_STAT_IF_MATCH_PRESENT
  ifNoneMatchPresent := OPENDAL_MBT_STAT_IF_NONE_MATCH_PRESENT
  version := "stat version"
  ifMatch := "stat if_match"
  ifNoneMatch := "stat if_none_match"

/-! ## Reads -/

/-- `sizeof` and `OPENDAL_MBT_STRUCT_VERSION_V1`. -/
def structHeader (size : Nat) : StructHeaderV1 := ⟨UInt32.ofNat size, 1⟩

def rangeCarrier (range : RangeScalars) : ByteRangeV1 where
  structSize := UInt32.ofNat sizeOfByteRangeV1
  structVersion := 1
  kind := range.kind
  reserved0 := 0
  offset := range.offset
  length := range.length

section Reads

variable (malloc : Nat → Bool)

/-- `subject` begins the messages of the synchronous and of the asynchronous read. -/
def readCarrier (subject : String) (range : RangeScalars) (a : ConditionArguments) :
    CallResult ReadOptionsV1 :=
  if a.NotBool then .error .abiMismatch
  else do
    let conditions ← prepareConditions malloc (readFields subject) a
    .ok {
      toStructHeaderV1 := structHeader sizeOfReadOptionsV1
      toConditionsV1 := conditions
      range := rangeCarrier range }

def prepareReadOptions : RangeScalars → ConditionArguments → CallResult ReadOptionsV1 :=
  readCarrier malloc "read"

def prepareAsyncReadOptions : RangeScalars → ConditionArguments → CallResult ReadOptionsV1 :=
  readCarrier malloc "async read"

def operatorReaderOptions (a : ConditionArguments) : CallResult ReaderOptionsV1 :=
  if a.NotBool then .error .abiMismatch
  else do
    let conditions ← prepareConditions malloc readerFields a
    .ok {
      toStructHeaderV1 := structHeader sizeOfReaderOptionsV1
      toConditionsV1 := conditions }

def prepareStatOptions (a : ConditionArguments) : CallResult StatOptionsV1 :=
  if a.NotBool then .error .abiMismatch
  else do
    let conditions ← prepareConditions malloc statFields a
    .ok {
      toStructHeaderV1 := structHeader sizeOfStatOptionsV1
      toConditionsV1 := conditions }

/-- `(uint64_t)(uint32_t)chunk_size`. -/
def chunkSizeField (chunkSize : Int) : UInt64 := UInt64.ofNat (chunkSize % 2 ^ 32).toNat

def readStreamCarrier (subject : String) (range : RangeScalars) (chunkSize : Int)
    (a : ConditionArguments) : CallResult ReadStreamOptionsV1 := do
  let conditions ← prepareConditions malloc (readStreamFields subject) a
  .ok {
    toStructHeaderV1 := structHeader sizeOfReadStreamOptionsV1
    toConditionsV1 := conditions
    range := rangeCarrier range
    chunkSize := chunkSizeField chunkSize }

def prepareAsyncReadStreamOptions (range : RangeScalars) (chunkSize : Int)
    (a : ConditionArguments) : CallResult ReadStreamOptionsV1 :=
  if a.NotBool then .error .abiMismatch
  else if chunkSize ≤ 0 then
    .error (localError ERROR_INVALID_ARGUMENT "InvalidArgument"
      "async read stream chunk_size must be positive")
  else readStreamCarrier malloc "async read stream" range chunkSize a

/-- The synchronous stream also keeps to the negotiated limit. -/
def operatorReadStreamOptions (maxOutputBytes : UInt64) (range : RangeScalars) (chunkSize : Int)
    (a : ConditionArguments) : CallResult ReadStreamOptionsV1 :=
  if a.NotBool then .error .abiMismatch
  else if chunkSize ≤ 0 then
    .error (localError ERROR_INVALID_ARGUMENT "InvalidArgument"
      "read stream chunk_size must be positive")
  else if maxOutputBytes < chunkSizeField chunkSize then
    .error (localError ERROR_INVALID_ARGUMENT "InvalidArgument"
      "read stream chunk_size exceeds the negotiated native output limit")
  else readStreamCarrier malloc "read stream" range chunkSize a

end Reads

/-! ## Writes, lists and deletes -/

def OPENDAL_MBT_WRITE_APPEND : UInt64 := 1
def OPENDAL_MBT_WRITE_CONTENT_TYPE_PRESENT : UInt64 := 1
def OPENDAL_MBT_WRITE_CONTENT_DISPOSITION_PRESENT : UInt64 := 2
def OPENDAL_MBT_WRITE_CONTENT_ENCODING_PRESENT : UInt64 := 4
def OPENDAL_MBT_WRITE_CACHE_CONTROL_PRESENT : UInt64 := 8
def OPENDAL_MBT_WRITE_IF_MATCH_PRESENT : UInt64 := 16
def OPENDAL_MBT_WRITE_IF_NONE_MATCH_PRESENT : UInt64 := 32
def OPENDAL_MBT_LIST_RECURSIVE : UInt64 := 1
def OPENDAL_MBT_LIST_LIMIT_PRESENT : UInt64 := 1
def OPENDAL_MBT_LIST_START_AFTER_PRESENT : UInt64 := 2
def OPENDAL_MBT_DELETE_RECURSIVE : UInt64 := 1
def OPENDAL_MBT_DELETE_VERSION_PRESENT : UInt64 := 1

structure WriteArguments where
  append : Int
  contentType : OptionalText
  contentDisposition : OptionalText
  contentEncoding : OptionalText
  cacheControl : OptionalText
  ifMatch : OptionalText
  ifNoneMatch : OptionalText

section Writes

variable (malloc : Nat → Bool)

def writeBits (a : WriteArguments) : UInt64 :=
  let bits := mark 0 OPENDAL_MBT_WRITE_CONTENT_TYPE_PRESENT a.contentType.present
  let bits := mark bits OPENDAL_MBT_WRITE_CONTENT_DISPOSITION_PRESENT a.contentDisposition.present
  let bits := mark bits OPENDAL_MBT_WRITE_CONTENT_ENCODING_PRESENT a.contentEncoding.present
  let bits := mark bits OPENDAL_MBT_WRITE_CACHE_CONTROL_PRESENT a.cacheControl.present
  let bits := mark bits OPENDAL_MBT_WRITE_IF_MATCH_PRESENT a.ifMatch.present
  mark bits OPENDAL_MBT_WRITE_IF_NONE_MATCH_PRESENT a.ifNoneMatch.present

def prepareWriteOptions (a : WriteArguments) : CallResult WriteOptionsV1 :=
  if NotBool a.append ∨ NotBool a.contentType.present ∨ NotBool a.contentDisposition.present ∨
      NotBool a.contentEncoding.present ∨ NotBool a.cacheControl.present ∨
      NotBool a.ifMatch.present ∨ NotBool a.ifNoneMatch.present then
    .error .abiMismatch
  else do
    let contentType ← convertOptionalUtf8 malloc a.contentType "write content_type"
    let contentDisposition ←
      convertOptionalUtf8 malloc a.contentDisposition "write content_disposition"
    let contentEncoding ← convertOptionalUtf8 malloc a.contentEncoding "write content_encoding"
    let cacheControl ← convertOptionalUtf8 malloc a.cacheControl "write cache_control"
    let ifMatch ← convertOptionalUtf8 malloc a.ifMatch "write if_match"
    let ifNoneMatch ← convertOptionalUtf8 malloc a.ifNoneMatch "write if_none_match"
    .ok {
      toStructHeaderV1 := structHeader sizeOfWriteOptionsV1
      presentBits := writeBits a
      flags := mark 0 OPENDAL_MBT_WRITE_APPEND a.append
      contentType, contentDisposition, contentEncoding, cacheControl, ifMatch, ifNoneMatch }

def operatorListerOptions (recursive hasLimit : Int) (limit : UInt64) (startAfter : OptionalText) :
    CallResult ListOptionsV1 :=
  if NotBool recursive ∨ NotBool hasLimit ∨ NotBool startAfter.present then .error .abiMismatch
  else do
    let view ← convertOptionalUtf8 malloc startAfter "list start_after"
    .ok {
      toStructHeaderV1 := structHeader sizeOfListOptionsV1
      presentBits :=
        mark (mark 0 OPENDAL_MBT_LIST_LIMIT_PRESENT hasLimit) OPENDAL_MBT_LIST_START_AFTER_PRESENT
          startAfter.present
      flags := mark 0 OPENDAL_MBT_LIST_RECURSIVE recursive
      limit := if hasLimit ≠ 0 then limit else 0
      startAfter := view }

def operatorDeleteOptions (version : OptionalText) (recursive : Int) :
    CallResult DeleteOptionsV1 :=
  if NotBool version.present ∨ NotBool recursive then .error .abiMismatch
  else do
    let view ← convertOptionalUtf8 malloc version "delete version"
    .ok {
      toStructHeaderV1 := structHeader sizeOfDeleteOptionsV1
      presentBits := mark 0 OPENDAL_MBT_DELETE_VERSION_PRESENT version.present
      flags := mark 0 OPENDAL_MBT_DELETE_RECURSIVE recursive
      version := view }

end Writes

end OpendalMbt.Stub
