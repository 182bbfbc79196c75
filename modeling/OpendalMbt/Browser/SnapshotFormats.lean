import OpendalMbt.Browser.MetadataRoundTrip

/-!
# The snapshot formats ODM1 and ODE1

Both formats with exact UTF-8 on the reading side. What `new` and the size limit let
through is encoded as soon as its memory is there, and read back field by field; and each
accepted byte string is the encoding of the value it is read as, so a value has one
encoding only.
-/

namespace OpendalMbt.Browser

open Codec Bridge

theorem snapshot_formats (tryReserve : Nat → Bool) (context : Context) :
    (∀ metadata view, MetadataSnapshotView.new metadata = .ok view →
        tryReserve view.encodedLength = true →
        ∃ bytes, view.encode tryReserve = .ok bytes ∧
          decodeMetadataSnapshot utf8Decode bytes = .ok (metadataValue id metadata)) ∧
      (∀ error : BridgeError, error.WithinLimit → tryReserve error.snapshotSize = true →
        ∃ bytes, errorSnapshotBytes tryReserve error = .ok bytes ∧
          decodeErrorSnapshot utf8Decode bytes context = .ok (errorOutcome id error context)) ∧
      (∀ bytes value, decodeMetadataSnapshot utf8Decode bytes = .ok value →
        tryReserve bytes.length = true →
        ∃ metadata, metadataValue id metadata = value ∧
          metadataSnapshotBytes tryReserve metadata = .ok bytes) ∧
      (∀ bytes outcome, decodeErrorSnapshot utf8Decode bytes context = .ok outcome →
        tryReserve bytes.length = true →
        ∃ error, errorOutcome id error context = outcome ∧
          errorSnapshotBytes tryReserve error = .ok bytes) ∧
      (∀ first second value, decodeMetadataSnapshot utf8Decode first = .ok value →
        decodeMetadataSnapshot utf8Decode second = .ok value → first = second) ∧
      (∀ first second outcome, decodeErrorSnapshot utf8Decode first context = .ok outcome →
        decodeErrorSnapshot utf8Decode second context = .ok outcome → first = second) := by
  refine ⟨?_, ?_, ?_, ?_, ?_, ?_⟩
  · intro metadata view hview hreserve
    have hbytes : ∃ bytes, view.encode tryReserve = .ok bytes := by
      unfold MetadataSnapshotView.encode
      rw [if_pos hreserve]
      exact ⟨_, rfl⟩
    obtain ⟨bytes, hbytes⟩ := hbytes
    have hsnapshot : metadataSnapshotBytes tryReserve metadata = .ok bytes := by
      unfold metadataSnapshotBytes
      rw [hview]
      exact hbytes
    exact ⟨bytes, hbytes, decodeMetadataSnapshot_encode utf8Decode_utf8Bytes hsnapshot⟩
  · intro error hlimit hreserve
    obtain ⟨bytes, hbytes⟩ := errorSnapshotBytes_of_withinLimit hlimit hreserve
    exact ⟨bytes, hbytes, decodeErrorSnapshot_encode utf8Decode_utf8Bytes hbytes context⟩
  · intro bytes value hvalue hreserve
    exact encode_decodeMetadataSnapshot hvalue hreserve
  · intro bytes outcome houtcome hreserve
    exact encode_decodeErrorSnapshot houtcome hreserve
  · intro first second value hfirst hsecond
    exact decodeMetadataSnapshot_injective hfirst hsecond
  · intro first second outcome hfirst hsecond
    exact decodeErrorSnapshot_injective hfirst hsecond

end OpendalMbt.Browser
