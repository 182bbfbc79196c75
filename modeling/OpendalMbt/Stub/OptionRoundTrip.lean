import Mathlib
import OpendalMbt.Stub.Options

/-!
# Option carriers, there and back

Every option value that MoonBit can pass comes out of the parsers of the native library as it
was, and the parsers take nothing but canonical carriers.
-/

namespace OpendalMbt.Stub

open Codec Native

/-- A well-formed string of MoonBit. -/
structure Text extends MoonString where
  formed : wellFormed units = true

namespace Text

/-- Its code units are those of its text. -/
theorem utf16_text (t : Text) : utf16 t.text.toList = t.units := by
  rw [MoonString.text, String.toList_ofList, utf16_scalarValues t.formed]

end Text

abbrev argument (value : Option Text) : OptionalText :=
  normalizeOptionalText (value.map (·.toMoonString))

abbrev texts (value : Option Text) : Option String := value.map (·.text)

variable {malloc : Nat → Bool}

theorem present_argument (value : Option Text) :
    (argument value).present = boolArgument value.isSome := by
  cases value <;> rfl

/-- A text is converted under its flag. -/
theorem convertOptionalUtf8_argument (hmemory : ∀ n, malloc n = true) (value : Option Text)
    (label : String) :
    convertOptionalUtf8 malloc (argument value) label = .ok (optionalStringView (texts value)) := by
  cases value with
  | none => rfl
  | some t =>
    have hconvert := utf16ToUtf8_eq hmemory t.toMoonString
    rw [if_pos t.formed] at hconvert
    rw [convertOptionalUtf8, if_neg (by change ¬ (1 : Int) = 0; decide)]
    have htext : (argument (some t)).text = t.toMoonString := rfl
    rw [htext, hconvert]
    rfl

theorem length_texts (value : Option Text) :
    ∀ text ∈ texts value, text.utf8ByteSize ≤ isizeMax := by
  intro text htext
  obtain ⟨t, -, rfl⟩ := Option.map_eq_some_iff.mp htext
  exact utf8ByteSize_text_le t.formed

theorem optionalText_argument (value : Option Text) {presentBits bit : UInt64} (label : String)
    (hbit : presentBits &&& bit ≠ 0 ↔ value.isSome) :
    optionalText (optionalStringView (texts value)) presentBits bit label = .ok (texts value) := by
  apply optionalText_written label _ (length_texts value)
  rw [hbit, Option.isSome_map]

theorem mark_boolArgument (bits bit : UInt64) (b : Bool) :
    mark bits bit (boolArgument b) = if b then bits ||| bit else bits := by
  cases b <;> rfl

theorem not_notBool_argument (value : Option Text) : ¬ NotBool (argument value).present := by
  rw [present_argument]
  exact not_notBool value.isSome

/-! ## Conditions -/

/-- The texts of a read, a stream or a stat. -/
structure ConditionTexts where
  version : Option Text
  ifMatch : Option Text
  ifNoneMatch : Option Text

namespace ConditionTexts

variable (t : ConditionTexts)

def arguments : ConditionArguments where
  version := argument t.version
  ifMatch := argument t.ifMatch
  ifNoneMatch := argument t.ifNoneMatch

def conditions : ReadConditions where
  version := texts t.version
  ifMatch := texts t.ifMatch
  ifNoneMatch := texts t.ifNoneMatch

theorem not_notBool : ¬ t.arguments.NotBool := by
  unfold ConditionArguments.NotBool
  simp only [not_or]
  exact ⟨not_notBool_argument t.version, not_notBool_argument t.ifMatch,
    not_notBool_argument t.ifNoneMatch⟩

end ConditionTexts

/-- What crosses the ABI. -/
def ConditionTexts.carrier (t : ConditionTexts) : ConditionsV1 where
  presentBits :=
    mark (mark (mark 0 1 (boolArgument t.version.isSome)) 2 (boolArgument t.ifMatch.isSome)) 4
      (boolArgument t.ifNoneMatch.isSome)
  version := optionalStringView (texts t.version)
  ifMatch := optionalStringView (texts t.ifMatch)
  ifNoneMatch := optionalStringView (texts t.ifNoneMatch)

theorem conditionBits (b₁ b₂ b₃ : Bool) :
    let bits := mark (mark (mark 0 1 (boolArgument b₁)) 2 (boolArgument b₂)) 4 (boolArgument b₃)
    bits &&& ~~~(1 ||| 2 ||| 4) = 0 ∧ (bits &&& 1 ≠ 0 ↔ b₁) ∧ (bits &&& 2 ≠ 0 ↔ b₂) ∧
      (bits &&& 4 ≠ 0 ↔ b₃) := by
  revert b₁ b₂ b₃
  decide

/-- The three presence bits are the lowest three. -/
def LowBits (fields : ConditionFields) : Prop :=
  fields.versionPresent = 1 ∧ fields.ifMatchPresent = 2 ∧ fields.ifNoneMatchPresent = 4

theorem prepareConditions_eq (hmemory : ∀ n, malloc n = true) (t : ConditionTexts)
    {fields : ConditionFields} (h : LowBits fields) :
    prepareConditions malloc fields t.arguments = .ok t.carrier := by
  obtain ⟨h1, h2, h3⟩ := h
  unfold prepareConditions ConditionTexts.arguments
  rw [CallResult.bind_of_ok (convertOptionalUtf8_argument hmemory t.version _),
    CallResult.bind_of_ok (convertOptionalUtf8_argument hmemory t.ifMatch _),
    CallResult.bind_of_ok (convertOptionalUtf8_argument hmemory t.ifNoneMatch _)]
  simp only [present_argument, h1, h2, h3]
  rfl

theorem carrier_known (t : ConditionTexts) {fields : ConditionFields} (h : LowBits fields) :
    t.carrier.presentBits &&& ~~~fields.known = 0 := by
  obtain ⟨h1, h2, h3⟩ := h
  rw [ConditionFields.known, h1, h2, h3]
  exact (conditionBits t.version.isSome t.ifMatch.isSome t.ifNoneMatch.isSome).1

theorem parseConditions_carrier (t : ConditionTexts) {fields : ConditionFields}
    (h : LowBits fields) : parseConditions fields t.carrier = .ok t.conditions := by
  obtain ⟨h1, h2, h3⟩ := h
  obtain ⟨-, hversion, hifMatch, hifNoneMatch⟩ :=
    conditionBits t.version.isSome t.ifMatch.isSome t.ifNoneMatch.isSome
  have hversion' : optionalText t.carrier.version t.carrier.presentBits 1 fields.version =
      .ok (texts t.version) := optionalText_argument t.version fields.version hversion
  have hifMatch' : optionalText t.carrier.ifMatch t.carrier.presentBits 2 fields.ifMatch =
      .ok (texts t.ifMatch) := optionalText_argument t.ifMatch fields.ifMatch hifMatch
  have hifNoneMatch' :
      optionalText t.carrier.ifNoneMatch t.carrier.presentBits 4 fields.ifNoneMatch =
        .ok (texts t.ifNoneMatch) :=
    optionalText_argument t.ifNoneMatch fields.ifNoneMatch hifNoneMatch
  unfold parseConditions
  rw [h1, h2, h3, CallResult.bind_of_ok hversion', CallResult.bind_of_ok hifMatch',
    CallResult.bind_of_ok hifNoneMatch']
  rfl

/-! ## The carriers -/

theorem structHeader_complete {size : Nat} (h : size < UInt32.size) :
    (structHeader size).Complete size := by
  refine ⟨rfl, ?_⟩
  rw [structHeader, UInt32.toNat_ofNat_of_lt' h]

theorem parseRange_rangeCarrier {R : Type} (api : BytesRangeApi R) {range : ByteRange}
    (h : range.Fits) : parseRange api (rangeCarrier range.encode) = .ok (range.meaning api) := by
  apply parseRange_eq_ok.mpr
  exact ⟨⟨rfl, Nat.le_refl 32, rfl⟩, range, h, rfl, rfl⟩

section RoundTrips

variable {R : Type} (api : BytesRangeApi R) (hmemory : ∀ n, malloc n = true)
  (t : ConditionTexts) {range : ByteRange}
include hmemory

theorem readCarrier_eq (subject : String) (range : RangeScalars) :
    readCarrier malloc subject range t.arguments = .ok {
      toStructHeaderV1 := structHeader sizeOfReadOptionsV1
      toConditionsV1 := t.carrier
      range := rangeCarrier range } := by
  unfold readCarrier
  rw [if_neg t.not_notBool, CallResult.bind_of_ok (prepareConditions_eq hmemory t ⟨rfl, rfl, rfl⟩)]

/-- `subject` is the one of the synchronous or of the asynchronous read. -/
theorem read_roundTrip (subject : String) (hrange : range.Fits) :
    (readCarrier malloc subject range.encode t.arguments >>= fun carrier =>
      parseReadOptions api (.valid carrier)) =
      .ok { t.conditions with range := range.meaning api } := by
  have hfields : LowBits Native.readFields := ⟨rfl, rfl, rfl⟩
  have hheader : (structHeader sizeOfReadOptionsV1).Complete sizeOfReadOptionsV1 :=
    structHeader_complete (by decide)
  rw [CallResult.bind_of_ok (readCarrier_eq hmemory t subject range.encode)]
  apply parseReadOptions_eq
  · exact hheader
  · exact carrier_known t hfields
  · exact parseRange_rangeCarrier api hrange
  · exact parseConditions_carrier t hfields

theorem operatorReaderOptions_eq :
    operatorReaderOptions malloc t.arguments = .ok {
      toStructHeaderV1 := structHeader sizeOfReaderOptionsV1
      toConditionsV1 := t.carrier } := by
  unfold operatorReaderOptions
  rw [if_neg t.not_notBool, CallResult.bind_of_ok (prepareConditions_eq hmemory t ⟨rfl, rfl, rfl⟩)]

theorem reader_roundTrip (default : ReaderOptions) :
    (operatorReaderOptions malloc t.arguments >>= fun carrier =>
      parseReaderOptions default (.valid carrier)) =
      .ok { default with toReadConditions := t.conditions } := by
  have hfields : LowBits Native.readerFields := ⟨rfl, rfl, rfl⟩
  have hheader : (structHeader sizeOfReaderOptionsV1).Complete sizeOfReaderOptionsV1 :=
    structHeader_complete (by decide)
  rw [CallResult.bind_of_ok (operatorReaderOptions_eq hmemory t)]
  apply parseReaderOptions_eq
  · exact hheader
  · exact carrier_known t hfields
  · exact parseConditions_carrier t hfields

theorem prepareStatOptions_eq :
    prepareStatOptions malloc t.arguments = .ok {
      toStructHeaderV1 := structHeader sizeOfStatOptionsV1
      toConditionsV1 := t.carrier } := by
  unfold prepareStatOptions
  rw [if_neg t.not_notBool, CallResult.bind_of_ok (prepareConditions_eq hmemory t ⟨rfl, rfl, rfl⟩)]

theorem stat_roundTrip :
    (prepareStatOptions malloc t.arguments >>= fun carrier => parseStatOptions (.valid carrier)) =
      .ok t.conditions := by
  have hfields : LowBits Native.statFields := ⟨rfl, rfl, rfl⟩
  have hheader : (structHeader sizeOfStatOptionsV1).Complete sizeOfStatOptionsV1 :=
    structHeader_complete (by decide)
  rw [CallResult.bind_of_ok (prepareStatOptions_eq hmemory t), parseStatOptions_eq]
  · exact parseConditions_carrier t hfields
  · exact hheader
  · exact carrier_known t hfields

end RoundTrips

/-! ### Streams -/

/-- The options of a stream over a range in chunks of a size. -/
def streamOptions {R : Type} (api : BytesRangeApi R) (default : ReaderOptions) (range : ByteRange)
    (chunkSize : Nat) (conditions : ReadConditions) : ParsedReadStreamOptions R where
  range := range.meaning api
  chunkSize := UInt64.ofNat chunkSize
  reader := {
    default with toReadConditions := conditions, concurrent := 1, chunk := none, prefetch := 0 }

section Streams

variable {R : Type} (api : BytesRangeApi R) (hmemory : ∀ n, malloc n = true)
  (t : ConditionTexts) {range : ByteRange} {chunkSize : Nat}

theorem chunkSizeField_ofNat (hlimit : chunkSize ≤ INT32_MAX) :
    chunkSizeField chunkSize = UInt64.ofNat chunkSize := by
  unfold INT32_MAX at hlimit
  unfold chunkSizeField
  congr 1
  omega

theorem toNat_chunkSize (hlimit : chunkSize ≤ INT32_MAX) :
    (UInt64.ofNat chunkSize).toNat = chunkSize := by
  unfold INT32_MAX at hlimit
  rw [UInt64.toNat_ofNat']
  omega

include hmemory

theorem readStreamCarrier_eq (subject : String) (range : RangeScalars)
    (hlimit : chunkSize ≤ INT32_MAX) :
    readStreamCarrier malloc subject range chunkSize t.arguments = .ok {
      toStructHeaderV1 := structHeader sizeOfReadStreamOptionsV1
      toConditionsV1 := t.carrier
      range := rangeCarrier range
      chunkSize := UInt64.ofNat chunkSize } := by
  unfold readStreamCarrier
  rw [CallResult.bind_of_ok (prepareConditions_eq hmemory t ⟨rfl, rfl, rfl⟩),
    chunkSizeField_ofNat hlimit]

theorem readStreamCarrier_roundTrip (subject : String) (default : ReaderOptions)
    (hrange : range.Fits) (hpositive : 0 < chunkSize) (hlimit : chunkSize ≤ INT32_MAX) :
    (readStreamCarrier malloc subject range.encode chunkSize t.arguments >>= fun carrier =>
      parseReadStreamOptions api default (.valid carrier)) =
      .ok (streamOptions api default range chunkSize t.conditions) := by
  have hfields : LowBits Native.readStreamFields := ⟨rfl, rfl, rfl⟩
  have hheader : (structHeader sizeOfReadStreamOptionsV1).Complete sizeOfReadStreamOptionsV1 :=
    structHeader_complete (by decide)
  have hsize := toNat_chunkSize hlimit
  rw [CallResult.bind_of_ok (readStreamCarrier_eq hmemory t subject range.encode hlimit)]
  apply parseReadStreamOptions_eq
  · exact hheader
  · exact carrier_known t hfields
  · intro hzero
    dsimp only at hzero
    rw [hzero] at hsize
    change 0 = chunkSize at hsize
    omega
  · dsimp only
    rw [hsize]
    exact hlimit
  · exact parseRange_rangeCarrier api hrange
  · exact parseConditions_carrier t hfields

theorem asyncReadStream_roundTrip (default : ReaderOptions) (hrange : range.Fits)
    (hpositive : 0 < chunkSize) (hlimit : chunkSize ≤ INT32_MAX) :
    (prepareAsyncReadStreamOptions malloc range.encode chunkSize t.arguments >>= fun carrier =>
      parseReadStreamOptions api default (.valid carrier)) =
      .ok (streamOptions api default range chunkSize t.conditions) := by
  unfold prepareAsyncReadStreamOptions
  rw [if_neg t.not_notBool, if_neg (by omega)]
  exact readStreamCarrier_roundTrip api hmemory t "async read stream" default hrange hpositive hlimit

/-- The library negotiates `MAX_OUTPUT_BYTES`. -/
theorem readStream_roundTrip (default : ReaderOptions) (hrange : range.Fits)
    (hpositive : 0 < chunkSize) (hlimit : chunkSize ≤ INT32_MAX) :
    (operatorReadStreamOptions malloc (UInt64.ofNat maxOutputBytes) range.encode chunkSize
      t.arguments >>= fun carrier => parseReadStreamOptions api default (.valid carrier)) =
      .ok (streamOptions api default range chunkSize t.conditions) := by
  have hwithin : ¬ UInt64.ofNat maxOutputBytes < chunkSizeField chunkSize := by
    rw [chunkSizeField_ofNat hlimit, UInt64.lt_iff_toNat_lt, toNat_chunkSize hlimit]
    exact Nat.not_lt.mpr hlimit
  unfold operatorReadStreamOptions
  rw [if_neg t.not_notBool, if_neg (by omega), if_neg hwithin]
  exact readStreamCarrier_roundTrip api hmemory t "read stream" default hrange hpositive hlimit

end Streams

/-! ### Writes, lists and deletes -/

structure WriteTexts where
  contentType : Option Text
  contentDisposition : Option Text
  contentEncoding : Option Text
  cacheControl : Option Text
  ifMatch : Option Text
  ifNoneMatch : Option Text

namespace WriteTexts

variable (t : WriteTexts) (append : Bool)

def arguments : WriteArguments where
  append := boolArgument append
  contentType := argument t.contentType
  contentDisposition := argument t.contentDisposition
  contentEncoding := argument t.contentEncoding
  cacheControl := argument t.cacheControl
  ifMatch := argument t.ifMatch
  ifNoneMatch := argument t.ifNoneMatch

def options : WriteOptions where
  append := append
  contentType := texts t.contentType
  contentDisposition := texts t.contentDisposition
  contentEncoding := texts t.contentEncoding
  cacheControl := texts t.cacheControl
  ifMatch := texts t.ifMatch
  ifNoneMatch := texts t.ifNoneMatch

end WriteTexts

theorem writeBits_eq (b₁ b₂ b₃ b₄ b₅ b₆ : Bool) :
    let bits := mark (mark (mark (mark (mark (mark 0 1 (boolArgument b₁)) 2 (boolArgument b₂)) 4
      (boolArgument b₃)) 8 (boolArgument b₄)) 16 (boolArgument b₅)) 32 (boolArgument b₆)
    bits &&& ~~~(1 ||| 2 ||| 4 ||| 8 ||| 16 ||| 32) = 0 ∧ (bits &&& 1 ≠ 0 ↔ b₁) ∧
      (bits &&& 2 ≠ 0 ↔ b₂) ∧ (bits &&& 4 ≠ 0 ↔ b₃) ∧ (bits &&& 8 ≠ 0 ↔ b₄) ∧
      (bits &&& 16 ≠ 0 ↔ b₅) ∧ (bits &&& 32 ≠ 0 ↔ b₆) := by
  revert b₁ b₂ b₃ b₄ b₅ b₆
  decide

/-- What crosses the ABI. -/
def WriteTexts.carrier (t : WriteTexts) (append : Bool) : WriteOptionsV1 where
  toStructHeaderV1 := structHeader sizeOfWriteOptionsV1
  presentBits :=
    mark (mark (mark (mark (mark (mark 0 1 (boolArgument t.contentType.isSome)) 2
      (boolArgument t.contentDisposition.isSome)) 4 (boolArgument t.contentEncoding.isSome)) 8
      (boolArgument t.cacheControl.isSome)) 16 (boolArgument t.ifMatch.isSome)) 32
      (boolArgument t.ifNoneMatch.isSome)
  flags := mark 0 1 (boolArgument append)
  contentType := optionalStringView (texts t.contentType)
  contentDisposition := optionalStringView (texts t.contentDisposition)
  contentEncoding := optionalStringView (texts t.contentEncoding)
  cacheControl := optionalStringView (texts t.cacheControl)
  ifMatch := optionalStringView (texts t.ifMatch)
  ifNoneMatch := optionalStringView (texts t.ifNoneMatch)

/-- The only flag of a carrier. -/
theorem flag_eq (b : Bool) :
    mark 0 1 (boolArgument b) &&& ~~~1 = 0 ∧ decide (mark 0 1 (boolArgument b) &&& 1 ≠ 0) = b := by
  cases b <;> decide

theorem prepareWriteOptions_eq (hmemory : ∀ n, malloc n = true) (t : WriteTexts) (append : Bool) :
    prepareWriteOptions malloc (t.arguments append) = .ok (t.carrier append) := by
  have hbools : ¬ (NotBool (t.arguments append).append ∨
      NotBool (t.arguments append).contentType.present ∨
      NotBool (t.arguments append).contentDisposition.present ∨
      NotBool (t.arguments append).contentEncoding.present ∨
      NotBool (t.arguments append).cacheControl.present ∨
      NotBool (t.arguments append).ifMatch.present ∨
      NotBool (t.arguments append).ifNoneMatch.present) := by
    simp only [not_or]
    exact ⟨not_notBool append, not_notBool_argument t.contentType,
      not_notBool_argument t.contentDisposition, not_notBool_argument t.contentEncoding,
      not_notBool_argument t.cacheControl, not_notBool_argument t.ifMatch,
      not_notBool_argument t.ifNoneMatch⟩
  have hbits : writeBits (t.arguments append) = (t.carrier append).presentBits := by
    simp only [writeBits, WriteTexts.arguments, present_argument]
    rfl
  unfold prepareWriteOptions
  rw [if_neg hbools, hbits]
  dsimp only [WriteTexts.arguments]
  rw [CallResult.bind_of_ok (convertOptionalUtf8_argument hmemory t.contentType _),
    CallResult.bind_of_ok (convertOptionalUtf8_argument hmemory t.contentDisposition _),
    CallResult.bind_of_ok (convertOptionalUtf8_argument hmemory t.contentEncoding _),
    CallResult.bind_of_ok (convertOptionalUtf8_argument hmemory t.cacheControl _),
    CallResult.bind_of_ok (convertOptionalUtf8_argument hmemory t.ifMatch _),
    CallResult.bind_of_ok (convertOptionalUtf8_argument hmemory t.ifNoneMatch _)]
  rfl

theorem write_roundTrip (hmemory : ∀ n, malloc n = true) (t : WriteTexts) (append : Bool) :
    (prepareWriteOptions malloc (t.arguments append) >>= fun carrier =>
      parseWriteOptions (.valid carrier)) = .ok (t.options append) := by
  obtain ⟨hknown, hcontentType, hcontentDisposition, hcontentEncoding, hcacheControl, hifMatch,
    hifNoneMatch⟩ := writeBits_eq t.contentType.isSome t.contentDisposition.isSome
      t.contentEncoding.isSome t.cacheControl.isSome t.ifMatch.isSome t.ifNoneMatch.isSome
  have hheader : (structHeader sizeOfWriteOptionsV1).Complete sizeOfWriteOptionsV1 :=
    structHeader_complete (by decide)
  rw [CallResult.bind_of_ok (prepareWriteOptions_eq hmemory t append)]
  apply parseWriteOptions_eq
  · exact hheader
  · exact hknown
  · exact (flag_eq append).1
  · exact (flag_eq append).2
  · exact optionalText_argument t.contentType _ hcontentType
  · exact optionalText_argument t.contentDisposition _ hcontentDisposition
  · exact optionalText_argument t.contentEncoding _ hcontentEncoding
  · exact optionalText_argument t.cacheControl _ hcacheControl
  · exact optionalText_argument t.ifMatch _ hifMatch
  · exact optionalText_argument t.ifNoneMatch _ hifNoneMatch

theorem listBits_eq (b₁ b₂ : Bool) :
    let bits := mark (mark 0 1 (boolArgument b₁)) 2 (boolArgument b₂)
    bits &&& ~~~(1 ||| 2) = 0 ∧ (bits &&& 1 ≠ 0 ↔ b₁) ∧ (bits &&& 2 ≠ 0 ↔ b₂) := by
  revert b₁ b₂
  decide

theorem list_roundTrip (hmemory : ∀ n, malloc n = true) (recursive : Bool)
    (limit : Option UInt64) (startAfter : Option Text)
    (hlimit : ∀ n ∈ limit, n.toNat ≤ isizeMax) :
    (operatorListerOptions malloc (boolArgument recursive) (boolArgument limit.isSome)
      (limit.getD 0) (argument startAfter) >>= fun carrier => parseListOptions (.valid carrier)) =
      .ok { limit := limit.map UInt64.toNat, startAfter := texts startAfter, recursive } := by
  obtain ⟨hknown, hlimitBit, hstartAfter⟩ := listBits_eq limit.isSome startAfter.isSome
  have hheader : (structHeader sizeOfListOptionsV1).Complete sizeOfListOptionsV1 :=
    structHeader_complete (by decide)
  have hbools : ¬ (NotBool (boolArgument recursive) ∨ NotBool (boolArgument limit.isSome) ∨
      NotBool (argument startAfter).present) := by
    simp only [not_or]
    exact ⟨not_notBool recursive, not_notBool limit.isSome, not_notBool_argument startAfter⟩
  unfold operatorListerOptions
  rw [if_neg hbools, CallResult.bind_of_ok (convertOptionalUtf8_argument hmemory startAfter _),
    present_argument, CallResult.bind_of_ok rfl]
  apply parseListOptions_eq
  · exact hheader
  · exact hknown
  · exact (flag_eq recursive).1
  · exact (flag_eq recursive).2
  · apply parseLimit_written hlimitBit _ hlimit
    cases limit <;> rfl
  · exact optionalText_argument startAfter _ hstartAfter

theorem delete_roundTrip (hmemory : ∀ n, malloc n = true) (version : Option Text)
    (recursive : Bool) :
    (operatorDeleteOptions malloc (argument version) (boolArgument recursive) >>= fun carrier =>
      parseDeleteOptions (.valid carrier)) = .ok { version := texts version, recursive } := by
  have hheader : (structHeader sizeOfDeleteOptionsV1).Complete sizeOfDeleteOptionsV1 :=
    structHeader_complete (by decide)
  have hbools : ¬ (NotBool (argument version).present ∨ NotBool (boolArgument recursive)) := by
    simp only [not_or]
    exact ⟨not_notBool_argument version, not_notBool recursive⟩
  have hversion : mark 0 1 (boolArgument version.isSome) &&& 1 ≠ 0 ↔ version.isSome := by
    cases version.isSome <;> decide
  unfold operatorDeleteOptions
  rw [if_neg hbools, CallResult.bind_of_ok (convertOptionalUtf8_argument hmemory version _),
    present_argument, CallResult.bind_of_ok rfl]
  apply parseDeleteOptions_eq
  · exact hheader
  · exact (flag_eq version.isSome).1
  · exact (flag_eq recursive).1
  · exact (flag_eq recursive).2
  · exact optionalText_argument version _ hversion

/-- A limit beyond the lengths of memory is refused. -/
theorem list_refused (hmemory : ∀ n, malloc n = true) (recursive : Bool) {limit : UInt64}
    (startAfter : Option Text) (hlimit : isizeMax < limit.toNat) :
    (operatorListerOptions malloc (boolArgument recursive) (boolArgument true) limit
      (argument startAfter) >>= fun carrier => parseListOptions (.valid carrier)) =
      .error .abiMismatch := by
  obtain ⟨hknown, hlimitBit, -⟩ := listBits_eq true startAfter.isSome
  have hheader : (structHeader sizeOfListOptionsV1).Complete sizeOfListOptionsV1 :=
    structHeader_complete (by decide)
  have hbools : ¬ (NotBool (boolArgument recursive) ∨ NotBool (boolArgument true) ∨
      NotBool (argument startAfter).present) := by
    simp only [not_or]
    exact ⟨not_notBool recursive, not_notBool true, not_notBool_argument startAfter⟩
  unfold operatorListerOptions
  rw [if_neg hbools, CallResult.bind_of_ok (convertOptionalUtf8_argument hmemory startAfter _),
    present_argument, CallResult.bind_of_ok rfl]
  apply parseListOptions_limit
  · exact hheader
  · exact hknown
  · exact (flag_eq recursive).1
  · exact hlimitBit.mpr rfl
  · exact hlimit

theorem list_eq (hmemory : ∀ n, malloc n = true) (recursive : Bool) (limit : Option UInt64)
    (startAfter : Option Text) :
    (operatorListerOptions malloc (boolArgument recursive) (boolArgument limit.isSome)
      (limit.getD 0) (argument startAfter) >>= fun carrier => parseListOptions (.valid carrier)) =
      if ∀ n ∈ limit, n.toNat ≤ isizeMax then
        .ok { limit := limit.map UInt64.toNat, startAfter := texts startAfter, recursive }
      else .error .abiMismatch := by
  by_cases hlimit : ∀ n ∈ limit, n.toNat ≤ isizeMax
  · rw [if_pos hlimit]
    exact list_roundTrip hmemory recursive limit startAfter hlimit
  · rw [if_neg hlimit]
    cases limit with
    | none => exact absurd (fun n hn => by cases hn) hlimit
    | some n =>
      apply list_refused hmemory recursive startAfter
      by_contra hle
      apply hlimit
      intro other hother
      cases hother
      exact Nat.not_lt.mp hle

/-! ## All carriers -/

/-- The option values of MoonBit come out of the parsers as they were. -/
structure RoundTrips (malloc : Nat → Bool) : Prop where
  read : ∀ {R : Type} (api : BytesRangeApi R) (t : ConditionTexts) (range : ByteRange),
    range.Fits →
    (prepareReadOptions malloc range.encode t.arguments >>= fun carrier =>
      parseReadOptions api (.valid carrier)) =
      .ok { t.conditions with range := range.meaning api }
  asyncRead : ∀ {R : Type} (api : BytesRangeApi R) (t : ConditionTexts) (range : ByteRange),
    range.Fits →
    (prepareAsyncReadOptions malloc range.encode t.arguments >>= fun carrier =>
      parseReadOptions api (.valid carrier)) =
      .ok { t.conditions with range := range.meaning api }
  reader : ∀ (default : ReaderOptions) (t : ConditionTexts),
    (operatorReaderOptions malloc t.arguments >>= fun carrier =>
      parseReaderOptions default (.valid carrier)) =
      .ok { default with toReadConditions := t.conditions }
  readStream : ∀ {R : Type} (api : BytesRangeApi R) (default : ReaderOptions) (t : ConditionTexts)
    (range : ByteRange) (chunkSize : Nat), range.Fits → 0 < chunkSize → chunkSize ≤ INT32_MAX →
    (operatorReadStreamOptions malloc (UInt64.ofNat maxOutputBytes) range.encode chunkSize
      t.arguments >>= fun carrier => parseReadStreamOptions api default (.valid carrier)) =
      .ok (streamOptions api default range chunkSize t.conditions)
  asyncReadStream : ∀ {R : Type} (api : BytesRangeApi R) (default : ReaderOptions)
    (t : ConditionTexts) (range : ByteRange) (chunkSize : Nat),
    range.Fits → 0 < chunkSize → chunkSize ≤ INT32_MAX →
    (prepareAsyncReadStreamOptions malloc range.encode chunkSize t.arguments >>= fun carrier =>
      parseReadStreamOptions api default (.valid carrier)) =
      .ok (streamOptions api default range chunkSize t.conditions)
  stat : ∀ t : ConditionTexts,
    (prepareStatOptions malloc t.arguments >>= fun carrier => parseStatOptions (.valid carrier)) =
      .ok t.conditions
  write : ∀ (t : WriteTexts) (append : Bool),
    (prepareWriteOptions malloc (t.arguments append) >>= fun carrier =>
      parseWriteOptions (.valid carrier)) = .ok (t.options append)
  list : ∀ (recursive : Bool) (limit : Option UInt64) (startAfter : Option Text),
    (operatorListerOptions malloc (boolArgument recursive) (boolArgument limit.isSome)
      (limit.getD 0) (argument startAfter) >>= fun carrier => parseListOptions (.valid carrier)) =
      if ∀ n ∈ limit, n.toNat ≤ isizeMax then
        .ok { limit := limit.map UInt64.toNat, startAfter := texts startAfter, recursive }
      else .error .abiMismatch
  delete : ∀ (version : Option Text) (recursive : Bool),
    (operatorDeleteOptions malloc (argument version) (boolArgument recursive) >>= fun carrier =>
      parseDeleteOptions (.valid carrier)) = .ok { version := texts version, recursive }

def Rejects {α : Type} (result : CallResult α) : Prop := ∃ failure, result = .error failure

theorem rejects_of {α : Type} {result : CallResult α} {p : Prop}
    (h : ∀ value, result = .ok value → p) (hp : ¬ p) : Rejects result := by
  cases hresult : result with
  | error failure => exact ⟨failure, rfl⟩
  | ok value => exact absurd (h value hresult) hp

/-- The parsers reject every other carrier. -/
structure OnlyCanonical : Prop where
  read : ∀ {R : Type} (api : BytesRangeApi R) (input : ReadOptionsV1),
    ¬ input.toConditionsV1.Canonical Native.readFields →
    Rejects (parseReadOptions api (.valid input))
  reader : ∀ (default : ReaderOptions) (input : ReaderOptionsV1),
    ¬ input.toConditionsV1.Canonical Native.readerFields →
    Rejects (parseReaderOptions default (.valid input))
  readStream : ∀ {R : Type} (api : BytesRangeApi R) (default : ReaderOptions)
    (input : ReadStreamOptionsV1), ¬ input.toConditionsV1.Canonical Native.readStreamFields →
    Rejects (parseReadStreamOptions api default (.valid input))
  stat : ∀ input : StatOptionsV1, ¬ input.toConditionsV1.Canonical Native.statFields →
    Rejects (parseStatOptions (.valid input))
  write : ∀ input : WriteOptionsV1, ¬ input.Canonical → Rejects (parseWriteOptions (.valid input))
  list : ∀ input : ListOptionsV1, ¬ input.Canonical → Rejects (parseListOptions (.valid input))
  delete : ∀ input : DeleteOptionsV1, ¬ input.Canonical →
    Rejects (parseDeleteOptions (.valid input))

theorem optionCarriers (malloc : Nat → Bool) (hmemory : ∀ n, malloc n = true) :
    RoundTrips malloc ∧ OnlyCanonical := by
  constructor
  · exact {
      read := fun api t _ => read_roundTrip api hmemory t "read"
      asyncRead := fun api t _ => read_roundTrip api hmemory t "async read"
      reader := fun default t => reader_roundTrip hmemory t default
      readStream := fun api default t _ _ => readStream_roundTrip api hmemory t default
      asyncReadStream := fun api default t _ _ => asyncReadStream_roundTrip api hmemory t default
      stat := stat_roundTrip hmemory
      write := write_roundTrip hmemory
      list := list_eq hmemory
      delete := delete_roundTrip hmemory }
  · exact {
      read := fun api _ => rejects_of fun _ => parseReadOptions_canonical
      reader := fun default _ => rejects_of fun _ => parseReaderOptions_canonical
      readStream := fun api default _ => rejects_of fun _ => parseReadStreamOptions_canonical
      stat := fun _ => rejects_of fun _ => parseStatOptions_canonical
      write := fun _ => rejects_of fun _ => parseWriteOptions_canonical
      list := fun _ => rejects_of fun _ => parseListOptions_canonical
      delete := fun _ => rejects_of fun _ => parseDeleteOptions_canonical }

/-- The string `v1` of MoonBit. -/
def versionText : Text where
  units := [0x76, 0x31]
  fits := by decide
  formed := by decide

def emptyText : Text where
  units := []
  fits := by decide
  formed := rfl

/-- A version, an empty text and no text, over the whole object. -/
theorem optionCarriers_read :
    (prepareReadOptions (fun _ => true) ByteRange.full.encode
      (ConditionTexts.arguments ⟨some versionText, some emptyText, none⟩) >>= fun carrier =>
        parseReadOptions BytesRange.api (.valid carrier)) =
      .ok {
        range := .range 0 none, version := some "v1", ifMatch := some "", ifNoneMatch := none } :=
  (optionCarriers (fun _ => true) (fun _ => rfl)).1.read BytesRange.api
    ⟨some versionText, some emptyText, none⟩ .full trivial

end OpendalMbt.Stub
