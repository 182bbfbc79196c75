import OpendalMbt.Bridge.ErrorSnapshot
import OpendalMbt.Metadata

/-!
# The ODM1 metadata snapshot, as the bridge writes it

`MetadataSnapshotView::new` and `MetadataSnapshotView::encode` of
`wasm/browser-bridge/src/lib.rs`: an 84-byte header with the presence bits, the scalars
and the seven text lengths, then the present texts.
-/

namespace OpendalMbt.Bridge

open Codec

def metadataSnapshotMagic : List UInt8 := [0x4F, 0x44, 0x4D, 0x31]

def metadataSnapshotSchema : UInt32 := 1

def metadataSnapshotHeaderLength : Nat := 84

def METADATA_IS_CURRENT_PRESENT : Nat := 1 <<< 0
def METADATA_LAST_MODIFIED_PRESENT : Nat := 1 <<< 1
def METADATA_CACHE_CONTROL_PRESENT : Nat := 1 <<< 2
def METADATA_CONTENT_DISPOSITION_PRESENT : Nat := 1 <<< 3
def METADATA_CONTENT_ENCODING_PRESENT : Nat := 1 <<< 4
def METADATA_CONTENT_MD5_PRESENT : Nat := 1 <<< 5
def METADATA_CONTENT_TYPE_PRESENT : Nat := 1 <<< 6
def METADATA_ETAG_PRESENT : Nat := 1 <<< 7
def METADATA_VERSION_PRESENT : Nat := 1 <<< 8

structure MetadataSnapshotView where
  presentBits : Nat
  mode : Nat
  isCurrent : Nat
  isDeleted : Nat
  contentLength : UInt64
  lastModifiedSeconds : Int
  lastModifiedNanoseconds : Nat
  strings : List (Option String)
  lengths : List Nat
  encodedLength : Nat
  deriving Repr

/-- `u32::try_from` and `i64` range checks; `none` is a failed conversion. -/
def tryU32 (value : Int) : Option Nat :=
  if 0 ≤ value ∧ value < 2 ^ 32 then some value.toNat else none

def checkedI64 (value : Int) : Option Int :=
  if -2 ^ 63 ≤ value ∧ value < 2 ^ 63 then some value else none

/-- The normalised pair of a timestamp: whole seconds rounded down, and what is left. -/
def lastModifiedParts (value : Timestamp) : Except BridgeError (Int × Nat) :=
  let seconds := value.asSecond
  let subseconds := value.subsecNanosecond
  if subseconds < 0 then
    match checkedI64 (seconds - 1) with
    | none => .error .lengthOverflow
    | some seconds =>
      match tryU32 (1000000000 + subseconds) with
      | none => .error .lengthOverflow
      | some nanoseconds => .ok (seconds, nanoseconds)
  else
    match tryU32 subseconds with
    | none => .error .lengthOverflow
    | some nanoseconds => .ok (seconds, nanoseconds)

def stringBits : List Nat :=
  [METADATA_CACHE_CONTROL_PRESENT, METADATA_CONTENT_DISPOSITION_PRESENT,
    METADATA_CONTENT_ENCODING_PRESENT, METADATA_CONTENT_MD5_PRESENT,
    METADATA_CONTENT_TYPE_PRESENT, METADATA_ETAG_PRESENT, METADATA_VERSION_PRESENT]

/-- One turn of the loop over the texts: presence bits, lengths and encoded length. -/
def measureString (acc : Nat × List Nat × Nat) (item : Nat × Option String) :
    Except BridgeError (Nat × List Nat × Nat) :=
  let (presentBits, lengths, encodedLength) := acc
  match item.2 with
  | none => .ok (presentBits, lengths ++ [0], encodedLength)
  | some value =>
    let length := value.utf8ByteSize
    if UInt32.size ≤ length then .error .bufferTooLarge
    else if maxBufferLength < encodedLength + length then .error .bufferTooLarge
    else .ok (presentBits ||| item.1, lengths ++ [length], encodedLength + length)

def modeCode : EntryMode → Nat
  | .file => 1
  | .dir => 2
  | .unknown => 0

/-- The current flag and whether there is one. -/
def currentFlag (metadata : Metadata) : Nat × Bool :=
  match metadata.isCurrent with
  | some value => (value.toNat, true)
  | none => (0, false)

/-- The timestamp pair and whether there is one. -/
def modifiedFields (metadata : Metadata) : Except BridgeError ((Int × Nat) × Bool) :=
  match metadata.lastModified with
  | some value =>
    match lastModifiedParts value with
    | .error e => .error e
    | .ok parts => .ok (parts, true)
  | none => .ok ((0, 0), false)

namespace MetadataSnapshotView

def new (metadata : Metadata) : Except BridgeError MetadataSnapshotView :=
  let mode := modeCode metadata.mode
  let (isCurrent, currentPresent) := currentFlag metadata
  match modifiedFields metadata with
  | .error e => .error e
  | .ok ((lastModifiedSeconds, lastModifiedNanoseconds), modifiedPresent) =>
    let strings := metadata.strings
    let presentBits := 0
    let presentBits :=
      if currentPresent then presentBits ||| METADATA_IS_CURRENT_PRESENT else presentBits
    let presentBits :=
      if modifiedPresent then presentBits ||| METADATA_LAST_MODIFIED_PRESENT else presentBits
    match (stringBits.zip strings).foldlM measureString
        (presentBits, [], metadataSnapshotHeaderLength) with
    | .error e => .error e
    | .ok (presentBits, lengths, encodedLength) =>
      .ok {
        presentBits
        mode
        isCurrent
        isDeleted := metadata.isDeleted.toNat
        contentLength := metadata.contentLength
        lastModifiedSeconds
        lastModifiedNanoseconds
        strings
        lengths
        encodedLength }

/-- An `i64` as the unsigned number with the same eight bytes. -/
def signedBits (value : Int) : Nat := (value % 2 ^ 64).toNat

def headerFields (view : MetadataSnapshotView) : List (Nat × Nat) :=
  [(4, metadataSnapshotSchema.toNat), (8, view.presentBits), (4, view.mode),
    (4, view.isCurrent), (4, view.isDeleted), (4, 0), (8, view.contentLength.toNat),
    (8, signedBits view.lastModifiedSeconds), (4, view.lastModifiedNanoseconds), (4, 0)] ++
  view.lengths.map (fun length => (4, length))

def encode (tryReserve : Nat → Bool) (view : MetadataSnapshotView) :
    Except BridgeError (List UInt8) :=
  if tryReserve view.encodedLength then
    .ok (metadataSnapshotMagic ++ (encodeFields view.headerFields ++
      (view.strings.filterMap id).flatMap utf8Bytes))
  else .error .allocationFailed

end MetadataSnapshotView

def metadataSnapshotBytes (tryReserve : Nat → Bool) (metadata : Metadata) :
    Except BridgeError (List UInt8) :=
  match MetadataSnapshotView.new metadata with
  | .error e => .error e
  | .ok view => view.encode tryReserve

/-! ## What `new` computes -/

/-- Every timestamp splits into the floor of its seconds and a remainder. -/
theorem lastModifiedParts_eq (t : Timestamp) :
    lastModifiedParts t = .ok (t.instant / 1000000000, (t.instant % 1000000000).toNat) := by
  have hsub := t.subsec_lt
  have hsigns := t.signs
  have hlower := t.lower
  have hupper := t.upper
  unfold lastModifiedParts Timestamp.instant
  by_cases hneg : t.subsecNanosecond < 0
  · have hseconds : -2 ^ 63 ≤ t.asSecond - 1 ∧ t.asSecond - 1 < 2 ^ 63 := by omega
    have hnanos : 0 ≤ 1000000000 + t.subsecNanosecond ∧
        1000000000 + t.subsecNanosecond < 2 ^ 32 := by omega
    simp only [hneg, if_true, checkedI64, hseconds, tryU32, hnanos, and_self, Except.ok.injEq,
      Prod.mk.injEq]
    omega
  · have hnanos : 0 ≤ t.subsecNanosecond ∧ t.subsecNanosecond < 2 ^ 32 := by omega
    simp only [hneg, if_false, tryU32, hnanos, and_self, if_true, Except.ok.injEq, Prod.mk.injEq]
    omega

def textLength (value : Option String) : Nat := value.elim 0 String.utf8ByteSize

theorem textLength_le {value : Option String} {strings : List (Option String)}
    (h : value ∈ strings) : textLength value ≤ stringsSize strings := by
  induction strings with
  | nil => cases h
  | cons other strings ih =>
    have hsum : stringsSize (other :: strings) = textLength other + stringsSize strings := by
      simp [stringsSize, textLength]
    rcases List.mem_cons.mp h with rfl | hrest
    · omega
    · have hle := ih hrest
      omega

/-- The presence bits that the loop over the texts adds. -/
def addBits (presentBits : Nat) (items : List (Nat × Option String)) : Nat :=
  items.foldl (fun bits item => if item.2.isSome then bits ||| item.1 else bits) presentBits

theorem foldlM_measureString (items : List (Nat × Option String)) (presentBits : Nat)
    (lengths : List Nat) {encodedLength : Nat} (hlength : encodedLength ≤ maxBufferLength) :
    items.foldlM measureString (presentBits, lengths, encodedLength) =
      if encodedLength + stringsSize (items.map Prod.snd) ≤ maxBufferLength then
        .ok (addBits presentBits items, lengths ++ (items.map Prod.snd).map textLength,
          encodedLength + stringsSize (items.map Prod.snd))
      else .error .bufferTooLarge := by
  induction items generalizing presentBits lengths encodedLength with
  | nil => simp [stringsSize, addBits, hlength, pure, Except.pure]
  | cons item items ih =>
    obtain ⟨bit, value⟩ := item
    have hsize : stringsSize (((bit, value) :: items).map Prod.snd) =
        textLength value + stringsSize (items.map Prod.snd) := by
      simp [stringsSize, textLength]
    rw [List.foldlM_cons, hsize]
    cases value with
    | none =>
      have hrest := ih presentBits (lengths ++ [0]) hlength
      simp only [measureString, bind, Except.bind, hrest, textLength, Option.elim_none,
        Nat.zero_add]
      simp [addBits, textLength]
    | some text =>
      by_cases hfits : encodedLength + text.utf8ByteSize ≤ maxBufferLength
      · have hu32 : ¬ UInt32.size ≤ text.utf8ByteSize := by
          simp only [UInt32.size, maxBufferLength] at hfits ⊢
          omega
        have hrest := ih (presentBits ||| bit) (lengths ++ [text.utf8ByteSize]) hfits
        simp only [measureString, if_neg hu32, if_neg (Nat.not_lt.mpr hfits), bind, Except.bind,
          hrest, textLength, Option.elim_some, Nat.add_assoc]
        simp [addBits, textLength]
      · have hbig : ¬ encodedLength + (textLength (some text) + stringsSize (items.map Prod.snd)) ≤
            maxBufferLength := by
          simp only [textLength, Option.elim_some]
          omega
        rw [if_neg hbig]
        simp only [measureString, if_pos (Nat.lt_of_not_le hfits), ite_self]
        simp [bind, Except.bind]

/-- The nine presence flags, from the lowest bit. -/
def presence (metadata : Metadata) : List Bool :=
  metadata.isCurrent.isSome :: metadata.lastModified.isSome ::
    metadata.strings.map Option.isSome

/-- What a view holds, read off the metadata. -/
def snapshotView (metadata : Metadata) : MetadataSnapshotView where
  presentBits := flagBits (presence metadata)
  mode := modeCode metadata.mode
  isCurrent := metadata.isCurrent.elim 0 Bool.toNat
  isDeleted := metadata.isDeleted.toNat
  contentLength := metadata.contentLength
  lastModifiedSeconds := metadata.lastModified.elim 0 (fun t => t.instant / 1000000000)
  lastModifiedNanoseconds :=
    metadata.lastModified.elim 0 (fun t => (t.instant % 1000000000).toNat)
  strings := metadata.strings
  lengths := metadata.strings.map textLength
  encodedLength := metadataSnapshotHeaderLength + stringsSize metadata.strings

/-- The size limit of a snapshot, on the texts. -/
def WithinLimit (metadata : Metadata) : Prop :=
  metadataSnapshotHeaderLength + stringsSize metadata.strings ≤ maxBufferLength

instance (metadata : Metadata) : Decidable (WithinLimit metadata) :=
  inferInstanceAs (Decidable (_ ≤ _))

/-- The order in which the bits are set does not matter. -/
theorem addBits_stringBits (current modified : Bool) {strings : List (Option String)}
    (hlength : strings.length = 7) :
    addBits (let bits := if current then 0 ||| METADATA_IS_CURRENT_PRESENT else 0
      if modified then bits ||| METADATA_LAST_MODIFIED_PRESENT else bits)
      (stringBits.zip strings) = flagBits (current :: modified :: strings.map Option.isSome) := by
  match strings, hlength with
  | [a, b, c, d, e, f, g], _ =>
    simp only [addBits, stringBits, List.zip_cons_cons, List.zip_nil_left, List.foldl_cons,
      List.foldl_nil, List.map_cons, List.map_nil]
    generalize a.isSome = a
    generalize b.isSome = b
    generalize c.isSome = c
    generalize d.isSome = d
    generalize e.isSome = e
    generalize f.isSome = f
    generalize g.isSome = g
    revert current modified a b c d e f g
    decide

/-- `new` fails on oversized texts only. -/
theorem MetadataSnapshotView.new_eq (metadata : Metadata) :
    MetadataSnapshotView.new metadata =
      if WithinLimit metadata then .ok (snapshotView metadata) else .error .bufferTooLarge := by
  have hbase : metadataSnapshotHeaderLength ≤ maxBufferLength := by decide
  have hzip : (stringBits.zip metadata.strings).map Prod.snd = metadata.strings := by
    simp [stringBits, Metadata.strings]
  have hmodified : modifiedFields metadata = .ok (((snapshotView metadata).lastModifiedSeconds,
      (snapshotView metadata).lastModifiedNanoseconds), metadata.lastModified.isSome) := by
    cases hmod : metadata.lastModified with
    | none => simp [modifiedFields, snapshotView, hmod]
    | some t => simp [modifiedFields, snapshotView, hmod, lastModifiedParts_eq]
  have hcurrent : currentFlag metadata =
      ((snapshotView metadata).isCurrent, metadata.isCurrent.isSome) := by
    cases hcur : metadata.isCurrent <;> simp [currentFlag, snapshotView, hcur]
  have hcount : metadata.strings.length = 7 := by simp [Metadata.strings]
  have hbits := addBits_stringBits metadata.isCurrent.isSome metadata.lastModified.isSome hcount
  unfold MetadataSnapshotView.new
  simp only [hmodified, hcurrent, foldlM_measureString _ _ _ hbase, hzip]
  simp only at hbits
  by_cases hlimit : WithinLimit metadata
  · rw [if_pos hlimit]
    unfold WithinLimit at hlimit
    simp only [hlimit, if_true, hbits, snapshotView, presence, List.nil_append]
  · rw [if_neg hlimit]
    unfold WithinLimit at hlimit
    simp only [hlimit, if_false]

end OpendalMbt.Bridge
