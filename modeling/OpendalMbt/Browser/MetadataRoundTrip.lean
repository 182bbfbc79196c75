import OpendalMbt.Bridge.MetadataSnapshot
import OpendalMbt.Browser.ErrorRoundTrip

/-!
# ODM1: the decoder against the encoder

* `decodeStrings_payload`, `decodeStrings_eq_ok`: the loop over the texts, both ways.
* `decodeMetadataSnapshot_eq_ok`: what the decoder accepts, as one condition.
* `decodeMetadataSnapshot_encode`: it reads back every metadata that `new` accepts.
* `encode_decodeMetadataSnapshot`: with exact decoding it accepts encodings only.
-/

namespace OpendalMbt.Browser

open Codec Bridge

/-! ## The loop over the texts -/

def payload (strings : List (Option String)) : List UInt8 :=
  (strings.filterMap id).flatMap utf8Bytes

@[simp] theorem payload_nil : payload [] = [] := by
  simp [payload]

@[simp] theorem payload_none (strings : List (Option String)) :
    payload (none :: strings) = payload strings := by
  simp [payload]

@[simp] theorem payload_some (text : String) (strings : List (Option String)) :
    payload (some text :: strings) = utf8Bytes text ++ payload strings := by
  simp [payload]

theorem length_payload (strings : List (Option String)) :
    (payload strings).length = stringsSize strings := by
  induction strings with
  | nil => simp [stringsSize]
  | cons value strings ih =>
    cases value with
    | none => simpa [stringsSize] using ih
    | some text => simpa [stringsSize] using ih

section Loop

variable {bytes : List UInt8} {present : Nat}

/-- What the presence word says about the texts from `index` on. -/
def Announced (present : Nat) (strings : List (Option String)) (index : Nat) : Prop :=
  ∀ k, k < strings.length → present.testBit (index + 2 + k) = (strings.getD k none).isSome

theorem announced_cons {value : Option String} {strings : List (Option String)} {index : Nat} :
    Announced present (value :: strings) index ↔
      present.testBit (index + 2) = value.isSome ∧ Announced present strings (index + 1) := by
  constructor
  · intro h
    refine ⟨h 0 (by simp), ?_⟩
    intro k hk
    have hnext := h (k + 1) (by simpa using hk)
    rw [show index + 1 + 2 + k = index + 2 + (k + 1) by omega]
    simpa using hnext
  · intro ⟨hhead, htail⟩ k hk
    cases k with
    | zero => simpa using hhead
    | succ k =>
      have hnext := htail k (by simpa using hk)
      rw [show index + 1 + 2 + k = index + 2 + (k + 1) by omega] at hnext
      simpa using hnext

theorem decodeStrings_payload {α : Type} {decode : List UInt8 → Option α} {f : String → α}
    (hdecode : ∀ text, decode (utf8Bytes text) = some (f text)) {strings : List (Option String)}
    {index : Nat} {before : List UInt8} (hbytes : bytes = before ++ payload strings)
    (hpresent : Announced present strings index) :
    decodeStrings decode bytes present (strings.map textLength) index before.length =
      .ok (strings.map (Option.map f), bytes.length) := by
  induction strings generalizing index before with
  | nil => simp [decodeStrings, hbytes]
  | cons value strings ih =>
    obtain ⟨hbit, hrest⟩ := announced_cons.mp hpresent
    cases value with
    | none =>
      have htail := ih (by simpa using hbytes) hrest
      have hfits : ¬ (before.length > bytes.length) := by
        rw [hbytes, List.length_append]
        omega
      simp only [Option.isSome_none] at hbit
      simp [decodeStrings, hbit, textLength, hfits, htail, bind, Except.bind]
    | some text =>
      have hsplit : bytes = (before ++ utf8Bytes text) ++ payload strings := by
        simpa using hbytes
      have htail := ih hsplit hrest
      have hpart : subarray bytes before.length (before.length + text.utf8ByteSize) =
          utf8Bytes text := by
        rw [hsplit, List.append_assoc]
        apply subarray_append rfl
        rw [length_utf8Bytes]
      have hfits : ¬ (before.length + text.utf8ByteSize < before.length ∨
          before.length + text.utf8ByteSize > bytes.length) := by
        rw [hsplit, List.length_append, List.length_append, length_utf8Bytes]
        omega
      simp only [Option.isSome_some] at hbit
      rw [List.length_append, length_utf8Bytes] at htail
      simp only [List.map_cons, decodeStrings, hbit, textLength, Option.elim_some, hfits, hpart,
        hdecode, Bool.not_true, Bool.false_and, Bool.false_eq_true, if_false, if_true]
      rw [htail]
      simp [bind, Except.bind]

/-- The loop accepts exactly what lies in the bytes, each text where the word announces it. -/
theorem decodeStrings_eq_ok {lengths : List Nat} {index cursor last : Nat}
    {strings : List (Option String)} (hcursor : cursor ≤ bytes.length)
    (h : decodeStrings utf8Decode bytes present lengths index cursor = .ok (strings, last)) :
    lengths = strings.map textLength ∧ Announced present strings index ∧ last ≤ bytes.length ∧
      bytes.drop cursor = payload strings ++ bytes.drop last := by
  induction lengths generalizing index cursor strings with
  | nil =>
    simp only [decodeStrings, Except.ok.injEq, Prod.mk.injEq] at h
    obtain ⟨rfl, rfl⟩ := h
    refine ⟨rfl, ?_, hcursor, by simp⟩
    intro k hk
    simp at hk
  | cons length lengths ih =>
    unfold decodeStrings at h
    simp only at h
    split at h
    · cases h
    rename_i habsent
    split at h
    · cases h
    rename_i hstop
    have hlast : cursor + length ≤ bytes.length := by omega
    split at h
    · rename_i hbit
      split at h
      · cases h
      rename_i text htext
      cases hrest : decodeStrings utf8Decode bytes present lengths (index + 1) (cursor + length) with
      | error e => simp [hrest, bind, Except.bind] at h
      | ok result =>
        obtain ⟨rest, stop⟩ := result
        simp only [hrest, bind, Except.bind, Except.ok.injEq, Prod.mk.injEq] at h
        obtain ⟨rfl, rfl⟩ := h
        obtain ⟨hlengths, hannounced, hbound, hdrop⟩ := ih hlast hrest
        have hbytes := utf8Bytes_of_utf8Decode htext
        have hlength : text.utf8ByteSize = length := by
          rw [← length_utf8Bytes, hbytes, length_subarray hlast]
          omega
        refine ⟨?_, announced_cons.mpr ⟨?_, hannounced⟩, hbound, ?_⟩
        · rw [hlengths]
          simp [textLength, hlength]
        · simpa using hbit
        · rw [payload_some, hbytes, List.append_assoc, ← hdrop,
            subarray_append_drop (Nat.le_add_right ..) hlast]
    · rename_i hbit
      have hbit' : present.testBit (index + 2) = false := by simpa using hbit
      have hzero : length = 0 := by simpa [hbit'] using habsent
      subst hzero
      cases hrest : decodeStrings utf8Decode bytes present lengths (index + 1) cursor with
      | error e => simp [hrest, bind, Except.bind] at h
      | ok result =>
        obtain ⟨rest, stop⟩ := result
        simp only [Nat.add_zero, hrest, bind, Except.bind, Except.ok.injEq, Prod.mk.injEq] at h
        obtain ⟨rfl, rfl⟩ := h
        obtain ⟨hlengths, hannounced, hbound, hdrop⟩ := ih hcursor hrest
        refine ⟨?_, announced_cons.mpr ⟨?_, hannounced⟩, hbound, ?_⟩
        · rw [hlengths]
          simp [textLength]
        · simpa using hbit'
        · simpa using hdrop

end Loop

/-! ## The header of ODM1 -/

def metadataWidths : List Nat := [4, 4, 8, 4, 4, 4, 4, 8, 8, 4, 4, 4, 4, 4, 4, 4, 4, 4]

theorem readFields_metadataWidths (bytes : List UInt8) :
    readFields metadataWidths bytes =
      [uintAt bytes 0 4, getUint32 bytes 4, getBigUint64 bytes 8, getUint32 bytes 16,
        getUint32 bytes 20, getUint32 bytes 24, getUint32 bytes 28, getBigUint64 bytes 32,
        uintAt bytes 40 8, getUint32 bytes 48, getUint32 bytes 52] ++ metadataLengths bytes := by
  simp [metadataWidths, readFields, getUint32, getBigUint64, uintAt, metadataLengths,
    List.range_succ]

section Decoder

variable {α : Type} {decode : List UInt8 → Option α} {bytes : List UInt8}

/-- The value of accepted bytes. -/
def metadataValueAt (bytes : List UInt8) (strings : List (Option α)) : MetadataValue α where
  mode := modeOfCode (getUint32 bytes 16)
  contentLength := getBigUint64 bytes 32
  isCurrent := if (getBigUint64 bytes 8).testBit 0 then some (getUint32 bytes 20 == 1) else none
  isDeleted := getUint32 bytes 24 == 1
  cacheControl := strings.getD 0 none
  contentDisposition := strings.getD 1 none
  contentEncoding := strings.getD 2 none
  contentMd5 := strings.getD 3 none
  contentType := strings.getD 4 none
  etag := strings.getD 5 none
  lastModified :=
    if (getBigUint64 bytes 8).testBit 1 then
      some { unixSeconds := getBigInt64 bytes 40, nanoseconds := getUint32 bytes 48 }
    else none
  version := strings.getD 6 none

/-- The checks of the header, all passed. -/
structure MetadataLayout (bytes : List UInt8) : Prop where
  header : 84 ≤ bytes.length
  limit : bytes.length ≤ maxBufferBytes
  magic : magicEquals bytes metadataSnapshotMagic = true
  schema : getUint32 bytes 4 = 1
  known : getBigUint64 bytes 8 >>> 9 = 0
  mode : getUint32 bytes 16 ≤ 2
  current : getUint32 bytes 20 ≤ 1
  deleted : getUint32 bytes 24 ≤ 1
  reserved0 : getUint32 bytes 28 = 0
  reserved1 : getUint32 bytes 52 = 0
  noCurrent : (getBigUint64 bytes 8).testBit 0 = false → getUint32 bytes 20 = 0
  nanoseconds : getUint32 bytes 48 < 1000000000
  noModified : (getBigUint64 bytes 8).testBit 1 = false →
    getBigInt64 bytes 40 = 0 ∧ getUint32 bytes 48 = 0

theorem decodeMetadataSnapshot_eq_ok {out : MetadataValue α} :
    decodeMetadataSnapshot decode bytes = .ok out ↔
      MetadataLayout bytes ∧ ∃ strings,
        decodeStrings decode bytes (getBigUint64 bytes 8) (metadataLengths bytes) 0 84 =
          .ok (strings, bytes.length) ∧
        out = metadataValueAt bytes strings := by
  unfold decodeMetadataSnapshot
  constructor
  · intro h
    split at h
    · cases h
    rename_i hstart
    split at h
    · cases h
    rename_i hschema
    simp only at h
    split at h
    · cases h
    rename_i hknown
    split at h
    · cases h
    rename_i hscalar
    split at h
    · cases h
    rename_i hreserved
    split at h
    · cases h
    rename_i hcurrent
    split at h
    · cases h
    rename_i hnanos
    split at h
    · cases h
    rename_i hmodified
    split at h
    · cases h
    rename_i strings cursor hstrings
    split at h
    · cases h
    rename_i hcursor
    cases h
    simp only [Bool.or_eq_true, decide_eq_true_eq, Bool.not_eq_true', not_or, Bool.not_eq_false,
      not_lt] at hstart
    simp only [not_or, not_lt, not_not, ne_eq] at hschema hknown hscalar hreserved hcursor
    rw [hcursor] at hstrings
    refine ⟨⟨hstart.1.1, hstart.1.2, hstart.2, hschema, hknown, hscalar.1, hscalar.2.1,
      hscalar.2.2, hreserved.1, hreserved.2, ?_, Nat.lt_of_not_le hnanos, ?_⟩, strings,
      hstrings, rfl⟩
    · intro hbit
      simpa [hbit] using hcurrent
    · intro hbit
      simpa [hbit] using hmodified
  · intro ⟨hlayout, strings, hstrings, hout⟩
    have hstart : ¬ (decide (bytes.length < 84) || decide (bytes.length > maxBufferBytes) ||
        !magicEquals bytes [0x4F, 0x44, 0x4D, 0x31]) = true := by
      simp only [Bool.or_eq_true, decide_eq_true_eq, Bool.not_eq_true', not_or, Bool.not_eq_false]
      exact ⟨⟨Nat.not_lt.mpr hlayout.header, Nat.not_lt.mpr hlayout.limit⟩, hlayout.magic⟩
    have hscalar : ¬ (getUint32 bytes 16 > 2 ∨ getUint32 bytes 20 > 1 ∨ getUint32 bytes 24 > 1) := by
      have hmode := hlayout.mode
      have hcurrent := hlayout.current
      have hdeleted := hlayout.deleted
      omega
    have hreserved : ¬ (getUint32 bytes 28 ≠ 0 ∨ getUint32 bytes 52 ≠ 0) := by
      have hr0 := hlayout.reserved0
      have hr1 := hlayout.reserved1
      omega
    have hcurrent : ¬ (!(getBigUint64 bytes 8).testBit 0 && getUint32 bytes 20 != 0) = true := by
      cases hbit : (getBigUint64 bytes 8).testBit 0
      · simp [hlayout.noCurrent hbit]
      · simp
    have hmodified : ¬ (!(getBigUint64 bytes 8).testBit 1 &&
        (getBigInt64 bytes 40 != 0 || getUint32 bytes 48 != 0)) = true := by
      cases hbit : (getBigUint64 bytes 8).testBit 1
      · simp [hlayout.noModified hbit]
      · simp
    rw [if_neg hstart, if_neg (not_not.mpr hlayout.schema)]
    simp only
    rw [if_neg (not_not.mpr hlayout.known), if_neg hscalar, if_neg hreserved, if_neg hcurrent,
      if_neg (Nat.not_le.mpr hlayout.nanoseconds), if_neg hmodified]
    simp only [hstrings, hout, ne_eq, not_true, if_false]
    rfl

end Decoder

/-! ## Round trip -/

/-- What the runtime should report for a metadata. -/
def metadataValue {α : Type} (f : String → α) (metadata : Metadata) : MetadataValue α where
  mode := metadata.mode
  contentLength := metadata.contentLength.toNat
  isCurrent := metadata.isCurrent
  isDeleted := metadata.isDeleted
  cacheControl := metadata.cacheControl.map f
  contentDisposition := metadata.contentDisposition.map f
  contentEncoding := metadata.contentEncoding.map f
  contentMd5 := metadata.contentMd5.map f
  contentType := metadata.contentType.map f
  etag := metadata.etag.map f
  lastModified := metadata.lastModified.map (fun t =>
    { unixSeconds := t.instant / 1000000000, nanoseconds := (t.instant % 1000000000).toNat })
  version := metadata.version.map f

attribute [local simp] metadataValue

theorem seconds_range (metadata : Metadata) :
    -2 ^ 63 ≤ (snapshotView metadata).lastModifiedSeconds ∧
      (snapshotView metadata).lastModifiedSeconds < 2 ^ 63 := by
  cases hmod : metadata.lastModified with
  | none => simp [snapshotView, hmod]
  | some t =>
    have hlower := t.lower
    have hupper := t.upper
    simp only [snapshotView, hmod, Option.elim_some, Timestamp.instant]
    omega

theorem nanoseconds_lt (metadata : Metadata) :
    (snapshotView metadata).lastModifiedNanoseconds < 1000000000 := by
  cases hmod : metadata.lastModified with
  | none => simp [snapshotView, hmod]
  | some t =>
    simp only [snapshotView, hmod, Option.elim_some]
    omega

theorem isCurrent_le (metadata : Metadata) : (snapshotView metadata).isCurrent ≤ 1 := by
  cases hcur : metadata.isCurrent with
  | none => simp [snapshotView, hcur]
  | some value =>
    have hvalue := value.toNat_lt
    simp only [snapshotView, hcur, Option.elim_some]
    omega

theorem presentBits_lt (metadata : Metadata) : (snapshotView metadata).presentBits < 2 ^ 9 := by
  have hcount : (presence metadata).length = 9 := by simp [presence, Metadata.strings]
  exact hcount ▸ flagBits_lt (presence metadata)

theorem headerFields_fit {metadata : Metadata} (h : WithinLimit metadata) :
    ∀ g ∈ (snapshotView metadata).headerFields, Fits g := by
  have hbits := presentBits_lt metadata
  have hcurrent := isCurrent_le metadata
  have hnanos := nanoseconds_lt metadata
  have hdeleted := metadata.isDeleted.toNat_lt
  have hcontent := metadata.contentLength.toNat_lt
  have hmode : (snapshotView metadata).mode ≤ 2 := by
    cases hm : metadata.mode <;> simp [snapshotView, modeCode, hm]
  have hseconds : MetadataSnapshotView.signedBits (snapshotView metadata).lastModifiedSeconds <
      2 ^ 64 := by
    unfold MetadataSnapshotView.signedBits
    omega
  intro g hg
  rcases List.mem_append.mp hg with hg | hg
  · simp only [List.mem_cons, List.not_mem_nil, or_false] at hg
    rcases hg with rfl | rfl | rfl | rfl | rfl | rfl | rfl | rfl | rfl | rfl <;>
      simp only [Fits, Nat.reducePow]
    · decide
    · omega
    · omega
    · omega
    · show metadata.isDeleted.toNat < _
      omega
    · decide
    · exact hcontent
    · exact hseconds
    · omega
    · decide
  · obtain ⟨length, hlength, rfl⟩ := List.mem_map.mp hg
    obtain ⟨value, hvalue, rfl⟩ := List.mem_map.mp hlength
    have hle := textLength_le hvalue
    unfold WithinLimit metadataSnapshotHeaderLength maxBufferLength at h
    simp only [Fits, Nat.reducePow]
    omega

theorem metadataSnapshotBytes_eq_ok {tryReserve : Nat → Bool} {metadata : Metadata}
    {bytes : List UInt8} (h : metadataSnapshotBytes tryReserve metadata = .ok bytes) :
    WithinLimit metadata ∧
      bytes = metadataSnapshotMagic ++ (encodeFields (snapshotView metadata).headerFields ++
        payload metadata.strings) := by
  unfold metadataSnapshotBytes at h
  rw [MetadataSnapshotView.new_eq] at h
  by_cases hlimit : WithinLimit metadata
  · rw [if_pos hlimit] at h
    dsimp only at h
    unfold MetadataSnapshotView.encode at h
    split at h
    · rw [Except.ok.injEq] at h
      exact ⟨hlimit, h.symm⟩
    · cases h
  · rw [if_neg hlimit] at h
    cases h

theorem metadataSnapshotBytes_of_withinLimit {tryReserve : Nat → Bool} {metadata : Metadata}
    (h : WithinLimit metadata) (hreserve : tryReserve (84 + stringsSize metadata.strings) = true) :
    ∃ bytes, metadataSnapshotBytes tryReserve metadata = .ok bytes := by
  unfold metadataSnapshotBytes MetadataSnapshotView.encode
  rw [MetadataSnapshotView.new_eq, if_pos h]
  simp only
  have hencoded : tryReserve (snapshotView metadata).encodedLength = true := hreserve
  rw [if_pos hencoded]
  exact ⟨_, rfl⟩

theorem ofSignedBits {seconds : Int} (hlower : -2 ^ 63 ≤ seconds) (hupper : seconds < 2 ^ 63) :
    (if MetadataSnapshotView.signedBits seconds < 2 ^ 63 then
        (MetadataSnapshotView.signedBits seconds : Int)
      else MetadataSnapshotView.signedBits seconds - 2 ^ 64) = seconds := by
  unfold MetadataSnapshotView.signedBits
  split <;> omega

/-- The header of an encoded snapshot, field by field. -/
theorem header_of_encode {metadata : Metadata} {bytes : List UInt8} (hlimit : WithinLimit metadata)
    (hbytes : bytes = metadataSnapshotMagic ++
      (encodeFields (snapshotView metadata).headerFields ++ payload metadata.strings)) :
    getUint32 bytes 4 = 1 ∧ getBigUint64 bytes 8 = (snapshotView metadata).presentBits ∧
      getUint32 bytes 16 = (snapshotView metadata).mode ∧
      getUint32 bytes 20 = (snapshotView metadata).isCurrent ∧
      getUint32 bytes 24 = metadata.isDeleted.toNat ∧ getUint32 bytes 28 = 0 ∧
      getBigUint64 bytes 32 = metadata.contentLength.toNat ∧
      getBigInt64 bytes 40 = (snapshotView metadata).lastModifiedSeconds ∧
      getUint32 bytes 48 = (snapshotView metadata).lastModifiedNanoseconds ∧
      getUint32 bytes 52 = 0 ∧ metadataLengths bytes = metadata.strings.map textLength := by
  have hfits : ∀ g ∈ (4, leValue metadataSnapshotMagic) :: (snapshotView metadata).headerFields,
      Fits g := by
    intro g hg
    rcases List.mem_cons.mp hg with rfl | hg
    · exact magic_fits (by decide)
    · exact headerFields_fit hlimit g hg
  have hfields := readFields_encodeFields hfits (payload metadata.strings)
  rw [← magic_encodeFields (by decide), List.append_assoc, ← hbytes] at hfields
  have hwidths : ((4, leValue metadataSnapshotMagic) ::
      (snapshotView metadata).headerFields).map Prod.fst = metadataWidths := by
    simp [MetadataSnapshotView.headerFields, snapshotView, Metadata.strings, metadataWidths]
  have hvalues : ((4, leValue metadataSnapshotMagic) ::
      (snapshotView metadata).headerFields).map Prod.snd =
      [leValue metadataSnapshotMagic, metadataSnapshotSchema.toNat,
        (snapshotView metadata).presentBits, (snapshotView metadata).mode,
        (snapshotView metadata).isCurrent, metadata.isDeleted.toNat, 0,
        metadata.contentLength.toNat,
        MetadataSnapshotView.signedBits (snapshotView metadata).lastModifiedSeconds,
        (snapshotView metadata).lastModifiedNanoseconds, 0] ++ metadata.strings.map textLength := by
    simp [MetadataSnapshotView.headerFields, snapshotView]
  rw [hwidths, readFields_metadataWidths, hvalues] at hfields
  simp only [List.cons_append, List.nil_append, List.cons.injEq] at hfields
  obtain ⟨-, hschema, hbits, hmode, hcurrent, hdeleted, hzero, hcontent, hseconds, hnanos, hzero1,
    hlengths⟩ := hfields
  refine ⟨hschema, hbits, hmode, hcurrent, hdeleted, hzero, hcontent, ?_, hnanos, hzero1, hlengths⟩
  have hrange := seconds_range metadata
  unfold getBigInt64
  simp only [hseconds]
  exact ofSignedBits hrange.1 hrange.2

theorem decodeMetadataSnapshot_encode {α : Type} {decode : List UInt8 → Option α} {f : String → α}
    (hdecode : ∀ text, decode (utf8Bytes text) = some (f text)) {tryReserve : Nat → Bool}
    {metadata : Metadata} {bytes : List UInt8}
    (h : metadataSnapshotBytes tryReserve metadata = .ok bytes) :
    decodeMetadataSnapshot decode bytes = .ok (metadataValue f metadata) := by
  obtain ⟨hlimit, hbytes⟩ := metadataSnapshotBytes_eq_ok h
  obtain ⟨hschema, hbits, hmode, hcurrent, hdeleted, hzero, hcontent, hseconds, hnanos, hzero1,
    hlengths⟩ := header_of_encode hlimit hbytes
  have htest : ∀ i, (snapshotView metadata).presentBits.testBit i =
      (presence metadata).getD i false := testBit_flagBits _
  have hheader : (metadataSnapshotMagic ++
      encodeFields (snapshotView metadata).headerFields).length = 84 := by
    simp [metadataSnapshotMagic, MetadataSnapshotView.headerFields, snapshotView, Metadata.strings]
  have hsplit : bytes = (metadataSnapshotMagic ++
      encodeFields (snapshotView metadata).headerFields) ++ payload metadata.strings := by
    rw [hbytes, List.append_assoc]
  have hlength : bytes.length = 84 + stringsSize metadata.strings := by
    rw [hsplit, List.length_append, hheader, length_payload]
  have hannounced : Announced (snapshotView metadata).presentBits metadata.strings 0 := by
    intro k hk
    rw [htest, show 0 + 2 + k = k + 1 + 1 by omega]
    rw [presence, List.getD_cons_succ, List.getD_cons_succ, List.getD_eq_getElem?_getD,
      List.getD_eq_getElem?_getD, List.getElem?_map, List.getElem?_eq_getElem hk]
    simp
  have hstrings := decodeStrings_payload hdecode hsplit hannounced
  rw [hheader] at hstrings
  apply decodeMetadataSnapshot_eq_ok.mpr
  refine ⟨⟨by omega, ?_, ?_, hschema, ?_, ?_, ?_, ?_, hzero, hzero1, ?_, ?_, ?_⟩,
    metadata.strings.map (Option.map f), ?_, ?_⟩
  · rw [hlength]
    exact hlimit
  · rw [hbytes]
    exact magicEquals_append ..
  · rw [hbits, Nat.shiftRight_eq_div_pow]
    exact Nat.div_eq_of_lt (presentBits_lt metadata)
  · rw [hmode]
    cases hm : metadata.mode <;> simp [snapshotView, modeCode, hm]
  · rw [hcurrent]
    exact isCurrent_le metadata
  · rw [hdeleted]
    have hlt := metadata.isDeleted.toNat_lt
    omega
  · rw [hbits, hcurrent, htest]
    intro habsent
    have hnone : metadata.isCurrent = none := by simpa [presence] using habsent
    simp [snapshotView, hnone]
  · rw [hnanos]
    exact nanoseconds_lt metadata
  · rw [hbits, hseconds, hnanos, htest]
    intro habsent
    have hnone : metadata.lastModified = none := by simpa [presence] using habsent
    simp [snapshotView, hnone]
  · rw [hbits, hlengths]
    exact hstrings
  · have hmodeBack : modeOfCode (snapshotView metadata).mode = metadata.mode := by
      cases hm : metadata.mode <;> simp [snapshotView, modeCode, modeOfCode, hm]
    have hdeletedBack : (metadata.isDeleted.toNat == 1) = metadata.isDeleted := by
      cases metadata.isDeleted <;> rfl
    have hcurrentBack : (if (snapshotView metadata).presentBits.testBit 0 then
        some ((snapshotView metadata).isCurrent == 1) else none) = metadata.isCurrent := by
      rw [htest]
      cases hcur : metadata.isCurrent with
      | none => simp [presence, hcur]
      | some value => cases value <;> simp [presence, snapshotView, hcur]
    have hmodifiedBack : (if (snapshotView metadata).presentBits.testBit 1 then
        some { unixSeconds := (snapshotView metadata).lastModifiedSeconds,
               nanoseconds := (snapshotView metadata).lastModifiedNanoseconds }
        else none) = (metadataValue f metadata).lastModified := by
      rw [htest]
      cases hmod : metadata.lastModified with
      | none => simp [presence, metadataValue, hmod]
      | some t => simp [presence, metadataValue, snapshotView, hmod]
    unfold metadataValueAt
    rw [hbits, hmode, hcurrent, hdeleted, hcontent, hseconds, hnanos, hmodeBack, hdeletedBack,
      hcurrentBack, hmodifiedBack]
    simp [metadataValue, Metadata.strings]

/-! ## Canonicity -/

theorem getBigUint64_lt (bytes : List UInt8) (offset : Nat) :
    getBigUint64 bytes offset < 2 ^ 64 :=
  uintAt_lt bytes offset 8

theorem getBigInt64_range (bytes : List UInt8) (offset : Nat) :
    -2 ^ 63 ≤ getBigInt64 bytes offset ∧ getBigInt64 bytes offset < 2 ^ 63 := by
  have hlt : uintAt bytes offset 8 < 2 ^ 64 := uintAt_lt bytes offset 8
  unfold getBigInt64
  simp only
  split <;> omega

theorem signedBits_getBigInt64 (bytes : List UInt8) (offset : Nat) :
    MetadataSnapshotView.signedBits (getBigInt64 bytes offset) = uintAt bytes offset 8 := by
  have hlt : uintAt bytes offset 8 < 2 ^ 64 := uintAt_lt bytes offset 8
  unfold MetadataSnapshotView.signedBits getBigInt64
  simp only
  split <;> omega

/-- A metadata with the given floored timestamp and texts. -/
theorem exists_metadata (bytes : List UInt8) {strings : List (Option String)}
    (hcount : strings.length = 7) (hlayout : MetadataLayout bytes) :
    ∃ metadata : Metadata, metadata.strings = strings ∧
      metadataValue id metadata = metadataValueAt bytes strings := by
  have hrange := getBigInt64_range bytes 40
  obtain ⟨t, hseconds, hnanos⟩ :=
    Timestamp.exists_of_floor hrange.1 hrange.2 hlayout.nanoseconds
  have hcontent : (UInt64.ofNat (getBigUint64 bytes 32)).toNat = getBigUint64 bytes 32 := by
    rw [UInt64.toNat_ofNat']
    exact Nat.mod_eq_of_lt (getBigUint64_lt ..)
  match strings, hcount with
  | [a, b, c, d, e, f, g], _ =>
    refine ⟨{
      mode := modeOfCode (getUint32 bytes 16)
      isCurrent := if (getBigUint64 bytes 8).testBit 0 then some (getUint32 bytes 20 == 1) else none
      isDeleted := getUint32 bytes 24 == 1
      contentLength := UInt64.ofNat (getBigUint64 bytes 32)
      lastModified := if (getBigUint64 bytes 8).testBit 1 then some t else none
      cacheControl := a, contentDisposition := b, contentEncoding := c, contentMd5 := d,
      contentType := e, etag := f, version := g }, rfl, ?_⟩
    unfold metadataValue metadataValueAt
    simp only [hcontent, Option.map_id, id_eq]
    cases (getBigUint64 bytes 8).testBit 1 <;> simp [hseconds, hnanos]

theorem modeCode_modeOfCode {code : Nat} (h : code ≤ 2) : modeCode (modeOfCode code) = code := by
  match code, h with
  | 0, _ | 1, _ | 2, _ => rfl

theorem toNat_beq_one {code : Nat} (h : code ≤ 1) : (code == 1).toNat = code := by
  match code, h with
  | 0, _ | 1, _ => rfl

/-- The header of accepted bytes is the header that the bridge writes for their value. -/
theorem headerFields_of_value {bytes : List UInt8} {metadata : Metadata}
    (hlayout : MetadataLayout bytes)
    (hlengths : metadataLengths bytes = metadata.strings.map textLength)
    (hannounced : Announced (getBigUint64 bytes 8) metadata.strings 0)
    (hvalue : metadataValue id metadata = metadataValueAt bytes metadata.strings) :
    (4, leValue metadataSnapshotMagic) :: (snapshotView metadata).headerFields =
      metadataWidths.zip (readFields metadataWidths bytes) := by
  have hmode : metadata.mode = modeOfCode (getUint32 bytes 16) :=
    congrArg MetadataValue.mode hvalue
  have hcurrent : metadata.isCurrent = if (getBigUint64 bytes 8).testBit 0 then
      some (getUint32 bytes 20 == 1) else none := congrArg MetadataValue.isCurrent hvalue
  have hdeleted : metadata.isDeleted = (getUint32 bytes 24 == 1) :=
    congrArg MetadataValue.isDeleted hvalue
  have hcontent : metadata.contentLength.toNat = getBigUint64 bytes 32 :=
    congrArg MetadataValue.contentLength hvalue
  have hmodified := congrArg MetadataValue.lastModified hvalue
  simp only [metadataValue, metadataValueAt] at hmodified
  have hbit1 : metadata.lastModified.isSome = (getBigUint64 bytes 8).testBit 1 := by
    have hsome := congrArg Option.isSome hmodified
    rw [Option.isSome_map] at hsome
    rw [hsome]
    split <;> simp_all
  have hbit0 : metadata.isCurrent.isSome = (getBigUint64 bytes 8).testBit 0 := by
    rw [hcurrent]
    split <;> simp_all
  have hbits : (snapshotView metadata).presentBits = getBigUint64 bytes 8 := by
    have hcount : (presence metadata).length = 9 := by simp [presence, Metadata.strings]
    apply flagBits_eq
    · rw [hcount]
      have hknown := hlayout.known
      rw [Nat.shiftRight_eq_div_pow] at hknown
      omega
    · intro i hi
      rcases i with _ | _ | k
      · simp [presence, hbit0]
      · simp [presence, hbit1]
      · have hk : k < metadata.strings.length := by
          simp only [hcount] at hi
          simp only [Metadata.strings, List.length_cons, List.length_nil]
          omega
        have hthere := hannounced k hk
        rw [show 0 + 2 + k = k + 2 by omega] at hthere
        rw [hthere, presence, List.getD_cons_succ, List.getD_cons_succ,
          List.getD_eq_getElem?_getD, List.getD_eq_getElem?_getD, List.getElem?_map,
          List.getElem?_eq_getElem hk]
        simp
  have hmodeCode : (snapshotView metadata).mode = getUint32 bytes 16 := by
    simp only [snapshotView, hmode]
    exact modeCode_modeOfCode hlayout.mode
  have hcurrentCode : (snapshotView metadata).isCurrent = getUint32 bytes 20 := by
    cases hbit : (getBigUint64 bytes 8).testBit 0 with
    | false => simp [snapshotView, hcurrent, hbit, hlayout.noCurrent hbit]
    | true =>
      simp only [snapshotView, hcurrent, hbit, if_true, Option.elim_some]
      exact toNat_beq_one hlayout.current
  have hdeletedCode : metadata.isDeleted.toNat = getUint32 bytes 24 := by
    rw [hdeleted]
    exact toNat_beq_one hlayout.deleted
  have htime : (snapshotView metadata).lastModifiedSeconds = getBigInt64 bytes 40 ∧
      (snapshotView metadata).lastModifiedNanoseconds = getUint32 bytes 48 := by
    cases hmod : metadata.lastModified with
    | none =>
      have hbit : (getBigUint64 bytes 8).testBit 1 = false := by simpa [hmod] using hbit1.symm
      obtain ⟨hs, hn⟩ := hlayout.noModified hbit
      simp [snapshotView, hmod, hs, hn]
    | some t =>
      have hbit : (getBigUint64 bytes 8).testBit 1 = true := by simpa [hmod] using hbit1.symm
      rw [hmod, hbit, if_pos rfl, Option.map_some, Option.some.injEq, UnixTime.mk.injEq] at hmodified
      simpa [snapshotView, hmod] using hmodified
  have hreserved0 := hlayout.reserved0
  have hreserved1 := hlayout.reserved1
  have hview : (snapshotView metadata).headerFields =
      [(4, metadataSnapshotSchema.toNat), (8, (snapshotView metadata).presentBits),
        (4, (snapshotView metadata).mode), (4, (snapshotView metadata).isCurrent),
        (4, metadata.isDeleted.toNat), (4, 0), (8, metadata.contentLength.toNat),
        (8, MetadataSnapshotView.signedBits (snapshotView metadata).lastModifiedSeconds),
        (4, (snapshotView metadata).lastModifiedNanoseconds), (4, 0)] ++
        (metadata.strings.map textLength).map (fun length => (4, length)) := rfl
  rw [readFields_metadataWidths, uintAt_of_magicEquals (by decide) hlayout.magic, hlayout.schema,
    hreserved0, hreserved1, hview, hbits, hmodeCode, hcurrentCode, hdeletedCode, hcontent, htime.1,
    htime.2, signedBits_getBigInt64, ← hlengths]
  simp [metadataWidths, metadataLengths, List.range_succ, metadataSnapshotSchema]

/-- Exact decoding accepts nothing but encodings. -/
theorem encode_decodeMetadataSnapshot {bytes : List UInt8} {out : MetadataValue String}
    (h : decodeMetadataSnapshot utf8Decode bytes = .ok out) {tryReserve : Nat → Bool}
    (hreserve : tryReserve bytes.length = true) :
    ∃ metadata, metadataValue id metadata = out ∧
      metadataSnapshotBytes tryReserve metadata = .ok bytes := by
  obtain ⟨hlayout, strings, hstrings, rfl⟩ := decodeMetadataSnapshot_eq_ok.mp h
  obtain ⟨hlengths, hannounced, -, hdrop⟩ := decodeStrings_eq_ok hlayout.header hstrings
  rw [List.drop_length, List.append_nil] at hdrop
  have hcount : strings.length = 7 := by
    have hsame := congrArg List.length hlengths
    simpa [metadataLengths] using hsame.symm
  obtain ⟨metadata, rfl, hvalue⟩ := exists_metadata bytes hcount hlayout
  have hsize : bytes.length = 84 + stringsSize metadata.strings := by
    have hheader := hlayout.header
    rw [← length_payload, ← hdrop, List.length_drop]
    omega
  have hlimit : WithinLimit metadata := by
    have hmax := hlayout.limit
    show 84 + stringsSize metadata.strings ≤ maxBufferBytes
    omega
  obtain ⟨encoded, hencoded⟩ := metadataSnapshotBytes_of_withinLimit hlimit (hsize ▸ hreserve)
  have hbytes : encoded = bytes := by
    rw [(metadataSnapshotBytes_eq_ok hencoded).2, ← List.append_assoc,
      magic_encodeFields (by decide), headerFields_of_value hlayout hlengths hannounced hvalue,
      ← hdrop]
    exact encodeFields_readFields hlayout.header
  exact ⟨metadata, hvalue, hbytes ▸ hencoded⟩

/-- Nothing of a metadata is lost. -/
theorem metadataValue_injective {a b : Metadata} (h : metadataValue id a = metadataValue id b) :
    a = b := by
  have hmodified : a.lastModified = b.lastModified := by
    have hpair := congrArg MetadataValue.lastModified h
    cases ha : a.lastModified with
    | none =>
      cases hb : b.lastModified with
      | none => rfl
      | some t => simp [metadataValue, ha, hb] at hpair
    | some s =>
      cases hb : b.lastModified with
      | none => simp [metadataValue, ha, hb] at hpair
      | some t =>
        simp only [metadataValue, ha, hb, Option.map_some, Option.some.injEq,
          UnixTime.mk.injEq] at hpair
        have hinstant : s.instant = t.instant := by omega
        rw [Timestamp.instant_injective hinstant]
  have hcontent : a.contentLength = b.contentLength :=
    UInt64.toNat_inj.mp (congrArg MetadataValue.contentLength h)
  cases a
  cases b
  simp only [metadataValue, Option.map_id, id_eq, MetadataValue.mk.injEq] at h
  simp_all

theorem decodeMetadataSnapshot_injective {first second : List UInt8} {value : MetadataValue String}
    (hfirst : decodeMetadataSnapshot utf8Decode first = .ok value)
    (hsecond : decodeMetadataSnapshot utf8Decode second = .ok value) : first = second := by
  obtain ⟨metadata, hvalue, hbytes⟩ :=
    @encode_decodeMetadataSnapshot first value hfirst (fun _ => true) rfl
  obtain ⟨metadata', hvalue', hbytes'⟩ :=
    @encode_decodeMetadataSnapshot second value hsecond (fun _ => true) rfl
  rw [metadataValue_injective (hvalue.trans hvalue'.symm), hbytes'] at hbytes
  exact (Except.ok.inj hbytes).symm

end OpendalMbt.Browser
