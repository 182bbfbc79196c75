import OpendalMbt.Bridge.ErrorSnapshot
import OpendalMbt.Browser.SnapshotDecoder

/-!
# ODE1: the decoder against the encoder

* `decodeErrorSnapshot_eq_ok`: what the decoder accepts, as one condition.
* `decodeErrorSnapshot_encode`: it reads back what the bridge wrote, for every text
  decoder that decodes UTF-8.
* `encode_decodeErrorSnapshot`: with exact decoding it accepts encodings only.
-/

namespace OpendalMbt.Browser

open Codec Bridge

/-! ## The header of ODE1 -/

def errorWidths : List Nat := [4, 4, 4, 4, 4, 4]

theorem readFields_errorWidths (bytes : List UInt8) :
    readFields errorWidths bytes =
      [uintAt bytes 0 4, getUint32 bytes 4, getUint32 bytes 8, getUint32 bytes 12,
        getUint32 bytes 16, getUint32 bytes 20] := by
  simp only [errorWidths, readFields, getUint32, uintAt, List.drop_drop, List.drop_zero,
    Nat.reduceAdd]

section Decoder

variable {α : Type} {decode : List UInt8 → Option α} {bytes : List UInt8} {context : Context}

/-- The outcome of accepted bytes. -/
def errorOutcomeAt (bytes : List UInt8) (context : Context) (kind message : α) : ErrorOutcome α where
  kind := kind
  kindCode := getUint32 bytes 8
  status := statusName (getUint32 bytes 12)
  statusCode := getUint32 bytes 12
  message := message
  operation := context.operation
  path := context.path
  destinationPath := context.destinationPath

/-- Where the two texts of an accepted snapshot end. -/
structure ErrorLayout (bytes : List UInt8) : Prop where
  magic : magicEquals bytes errorSnapshotMagic = true
  schema : getUint32 bytes 4 = 1
  header : 24 ≤ bytes.length
  ends : 24 + getUint32 bytes 16 + getUint32 bytes 20 = bytes.length
  limit : bytes.length ≤ maxBufferBytes

theorem decodeErrorSnapshot_eq_ok {out : ErrorOutcome α} :
    decodeErrorSnapshot decode bytes context = .ok out ↔
      ErrorLayout bytes ∧ ∃ kind message,
        decode (subarray bytes 24 (24 + getUint32 bytes 16)) = some kind ∧
        decode (subarray bytes (24 + getUint32 bytes 16) bytes.length) = some message ∧
        out = errorOutcomeAt bytes context kind message := by
  unfold decodeErrorSnapshot
  constructor
  · intro h
    split at h
    · cases h
    rename_i hstart
    split at h
    · cases h
    rename_i hschema
    simp only at h
    split at h
    · cases h
    rename_i hends
    simp only [Bool.or_eq_true, decide_eq_true_eq, Bool.not_eq_true', not_or,
      Bool.not_eq_false] at hstart
    simp only [not_or, not_lt, ne_eq, not_not] at hends hschema
    obtain ⟨-, -, hlength, hlimit⟩ := hends
    rw [hlength] at h hlimit
    split at h
    · rename_i kind message hkind hmessage
      cases h
      exact ⟨⟨hstart.2, hschema, Nat.le_of_not_lt hstart.1, hlength, hlimit⟩, kind, message, hkind, hmessage, rfl⟩
    · cases h
  · intro ⟨hlayout, kind, message, hkind, hmessage, hout⟩
    have hstart : ¬ (decide (bytes.length < 24) ||
        !magicEquals bytes [0x4F, 0x44, 0x45, 0x31]) = true := by
      simp only [Bool.or_eq_true, decide_eq_true_eq, Bool.not_eq_true', not_or, Bool.not_eq_false]
      exact ⟨Nat.not_lt.mpr hlayout.header, hlayout.magic⟩
    have hends := hlayout.ends
    have hlimit := hlayout.limit
    rw [if_neg hstart, if_neg (not_not.mpr hlayout.schema)]
    simp only [hends, hkind, hmessage]
    rw [if_neg (by omega), hout]
    rfl

end Decoder

/-- What the runtime should report for an error. -/
def errorOutcome {α : Type} (f : String → α) (error : BridgeError) (context : Context) :
    ErrorOutcome α where
  kind := f error.kindName
  kindCode := error.kind.toNat
  status := statusName error.errorStatus.toNat
  statusCode := error.errorStatus.toNat
  message := f error.diagnosticMessage
  operation := context.operation
  path := context.path
  destinationPath := context.destinationPath

/-- Every error that the bridge encodes is read back, text by text through `f`. -/
theorem decodeErrorSnapshot_encode {α : Type} {decode : List UInt8 → Option α} {f : String → α}
    (hdecode : ∀ text, decode (utf8Bytes text) = some (f text)) {tryReserve : Nat → Bool}
    {error : BridgeError} {bytes : List UInt8} (h : errorSnapshotBytes tryReserve error = .ok bytes)
    (context : Context) :
    decodeErrorSnapshot decode bytes context = .ok (errorOutcome f error context) := by
  obtain ⟨hlimit, hbytes⟩ := errorSnapshotBytes_eq_ok h
  have hfits : ∀ g ∈ (4, leValue errorSnapshotMagic) :: errorSnapshotFields error, Fits g := by
    intro g hg
    rcases List.mem_cons.mp hg with rfl | hg
    · exact magic_fits (by decide)
    · exact hlimit.fits g hg
  have hfields := readFields_encodeFields hfits
    (utf8Bytes error.kindName ++ utf8Bytes error.diagnosticMessage)
  rw [← magic_encodeFields (by decide), List.append_assoc, ← hbytes] at hfields
  have hwidths : ((4, leValue errorSnapshotMagic) :: errorSnapshotFields error).map Prod.fst =
      errorWidths := rfl
  rw [hwidths, readFields_errorWidths] at hfields
  simp only [errorSnapshotFields, List.map_cons, List.map_nil, List.cons.injEq, and_true] at hfields
  obtain ⟨-, hschema, hkind, hstatus, hname, hmessage⟩ := hfields
  have hheader : (errorSnapshotMagic ++ encodeFields (errorSnapshotFields error)).length = 24 := by
    simp [errorSnapshotMagic, errorSnapshotFields]
  have hsplit : bytes = (errorSnapshotMagic ++ encodeFields (errorSnapshotFields error)) ++
      (utf8Bytes error.kindName ++ (utf8Bytes error.diagnosticMessage ++ [])) := by
    rw [hbytes]
    simp
  have hlength : bytes.length =
      24 + error.kindName.utf8ByteSize + error.diagnosticMessage.utf8ByteSize := by
    rw [hsplit, List.length_append, hheader]
    simp
    omega
  have hfirst : subarray bytes 24 (24 + error.kindName.utf8ByteSize) = utf8Bytes error.kindName := by
    rw [hsplit]
    apply subarray_append
    · rw [hheader]
    · rw [hheader, length_utf8Bytes]
  have hsecond : subarray bytes (24 + error.kindName.utf8ByteSize) bytes.length =
      utf8Bytes error.diagnosticMessage := by
    rw [hlength, hsplit, ← List.append_assoc]
    apply subarray_append
    · rw [List.length_append, hheader, length_utf8Bytes]
    · rw [List.length_append, hheader, length_utf8Bytes, length_utf8Bytes]
  apply decodeErrorSnapshot_eq_ok.mpr
  refine ⟨⟨?_, ?_, ?_, ?_, ?_⟩, f error.kindName, f error.diagnosticMessage, ?_, ?_, ?_⟩
  · rw [hbytes]
    exact magicEquals_append ..
  · exact hschema
  · omega
  · omega
  · rw [hlength]
    exact hlimit
  · rw [hname, hfirst, hdecode]
  · rw [hname, hsecond, hdecode]
  · simp only [errorOutcome, errorOutcomeAt, hkind, hstatus]

/-- Exact decoding accepts nothing but encodings. -/
theorem encode_decodeErrorSnapshot {bytes : List UInt8} {context : Context}
    {out : ErrorOutcome String} (h : decodeErrorSnapshot utf8Decode bytes context = .ok out)
    {tryReserve : Nat → Bool} (hreserve : tryReserve bytes.length = true) :
    ∃ error, errorOutcome id error context = out ∧
      errorSnapshotBytes tryReserve error = .ok bytes := by
  obtain ⟨hlayout, kind, message, hkind, hmessage, rfl⟩ := decodeErrorSnapshot_eq_ok.mp h
  have hends := hlayout.ends
  have hname := utf8Bytes_of_utf8Decode hkind
  have htext := utf8Bytes_of_utf8Decode hmessage
  have hnameSize : kind.utf8ByteSize = getUint32 bytes 16 := by
    rw [← length_utf8Bytes, hname, length_subarray (by omega)]
    omega
  have htextSize : message.utf8ByteSize = getUint32 bytes 20 := by
    rw [← length_utf8Bytes, htext, length_subarray (by omega)]
    omega
  let error : BridgeError :=
    .openDal (UInt32.ofNat (getUint32 bytes 8)) (UInt32.ofNat (getUint32 bytes 12)) kind message
  have hkindCode : error.kind.toNat = getUint32 bytes 8 := by
    show (UInt32.ofNat (getUint32 bytes 8)).toNat = _
    rw [UInt32.toNat_ofNat']
    exact Nat.mod_eq_of_lt (getUint32_lt ..)
  have hstatusCode : error.errorStatus.toNat = getUint32 bytes 12 := by
    show (UInt32.ofNat (getUint32 bytes 12)).toNat = _
    rw [UInt32.toNat_ofNat']
    exact Nat.mod_eq_of_lt (getUint32_lt ..)
  have hsize : error.snapshotSize = bytes.length := by
    show 24 + kind.utf8ByteSize + message.utf8ByteSize = bytes.length
    omega
  have hlimit : error.WithinLimit := by
    unfold BridgeError.WithinLimit
    rw [hsize]
    exact hlayout.limit
  obtain ⟨encoded, hencoded⟩ := errorSnapshotBytes_of_withinLimit hlimit (hsize ▸ hreserve)
  have hfields : (4, leValue errorSnapshotMagic) :: errorSnapshotFields error =
      errorWidths.zip (readFields errorWidths bytes) := by
    rw [readFields_errorWidths, uintAt_of_magicEquals (by decide) hlayout.magic, hlayout.schema]
    show _ = [(4, leValue errorSnapshotMagic), (4, 1), (4, getUint32 bytes 8),
      (4, getUint32 bytes 12), (4, getUint32 bytes 16), (4, getUint32 bytes 20)]
    rw [← hkindCode, ← hstatusCode, ← hnameSize, ← htextSize]
    rfl
  have hpayload : utf8Bytes kind ++ utf8Bytes message = bytes.drop 24 := by
    have htail := subarray_append_drop (Nat.le_add_right 24 (getUint32 bytes 16))
      (show 24 + getUint32 bytes 16 ≤ bytes.length by omega)
    have hrest := subarray_append_drop
      (show 24 + getUint32 bytes 16 ≤ bytes.length by omega) (Nat.le_refl bytes.length)
    rw [List.drop_length, List.append_nil] at hrest
    rw [hname, htext, hrest, htail]
  have hbytes : encoded = bytes := by
    rw [(errorSnapshotBytes_eq_ok hencoded).2, ← List.append_assoc,
      magic_encodeFields (by decide), hfields]
    show _ ++ (utf8Bytes kind ++ utf8Bytes message) = bytes
    rw [hpayload]
    exact encodeFields_readFields hlayout.header
  refine ⟨error, ?_, hbytes ▸ hencoded⟩
  simp only [errorOutcome, errorOutcomeAt, hkindCode, hstatusCode]
  rfl

/-- The bytes of an error are determined by what is read back. -/
theorem errorSnapshotBytes_congr {tryReserve : Nat → Bool} {error error' : BridgeError}
    {context : Context} (h : errorOutcome id error context = errorOutcome id error' context) :
    errorSnapshotBytes tryReserve error = errorSnapshotBytes tryReserve error' := by
  have hname : error.kindName = error'.kindName := congrArg ErrorOutcome.kind h
  have hmessage : error.diagnosticMessage = error'.diagnosticMessage :=
    congrArg ErrorOutcome.message h
  have hkind : error.kind.toNat = error'.kind.toNat := congrArg ErrorOutcome.kindCode h
  have hstatus : error.errorStatus.toNat = error'.errorStatus.toNat :=
    congrArg ErrorOutcome.statusCode h
  simp only [errorSnapshotBytes, hname, hmessage, hkind, hstatus]

theorem decodeErrorSnapshot_injective {first second : List UInt8} {context : Context}
    {out : ErrorOutcome String} (hfirst : decodeErrorSnapshot utf8Decode first context = .ok out)
    (hsecond : decodeErrorSnapshot utf8Decode second context = .ok out) : first = second := by
  obtain ⟨error, hout, hbytes⟩ :=
    @encode_decodeErrorSnapshot first context out hfirst (fun _ => true) rfl
  obtain ⟨error', hout', hbytes'⟩ :=
    @encode_decodeErrorSnapshot second context out hsecond (fun _ => true) rfl
  rw [errorSnapshotBytes_congr (hout.trans hout'.symm), hbytes'] at hbytes
  exact (Except.ok.inj hbytes).symm

end OpendalMbt.Browser
