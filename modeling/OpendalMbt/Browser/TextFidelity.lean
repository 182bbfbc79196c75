import OpendalMbt.Bridge.TransferSafety
import OpendalMbt.Browser.BufferTransfer
import OpendalMbt.Browser.MetadataRoundTrip

/-!
# Texts through the shared decoder

Every text of the facade is read by one `TextDecoder`, which drops a leading U+FEFF. The
lemmas say what each reading function returns: the text as the decoder reads it. It is the
exact text unless that starts with U+FEFF.

* `takeInfoText_spec`: a text that a query copied into a buffer.
* `operatorInfo_spec`, `listEntries_spec`: the two functions that read several.
-/

namespace OpendalMbt.Browser

open Codec Bridge Transition

variable {O S W L : Type} {s s' : Store O S W L} {handle code : UInt32}

/-- The handles name what they named before, and the bridge is still up. -/
structure Kept (s s' : Store O S W L) : Prop where
  arena : Arena.Unchanged s.arena s'.arena
  tornDown : s'.tornDown = s.tornDown

theorem Kept.trans {s₂ : Store O S W L} (h : Kept s s') (h₂ : Kept s' s₂) : Kept s s₂ :=
  ⟨h.arena.trans h₂.arena, h₂.tornDown.trans h.tornDown⟩

/-! ## One text -/

/-- `f` copies `text` into a new buffer, if it returns. -/
def Copies (f : Store O S W L → Except BridgeError UInt32 × Store O S W L) (s : Store O S W L)
    (text : String) : Prop :=
  ∀ code s', f s = (.ok code, s') →
    (utf8Bytes text).length ≤ maxBufferLength ∧ s'.tornDown = s.tornDown ∧
      Arena.Added s.arena s'.arena code (.buffer (utf8Bytes text))

theorem takeInfoText_spec {host : Host} {context : Context}
    {f : Store O S W L → Except BridgeError UInt32 × Store O S W L} {fallback : String}
    {text : String} {value : JsString} (hcopies : Copies f s.lastErrorClear text)
    (h : takeInfoText host context f fallback s = (.ok value, s')) :
    value = decodedText text ∧ Kept s s' := by
  obtain ⟨u, t, hclear, h⟩ := Call.bind_eq_ok.mp h
  cases hclear
  obtain ⟨code, t, hcode, htake⟩ := Call.bind_eq_ok.mp h
  obtain ⟨hlimit, htorn, hadded⟩ := hcopies code t (expect_eq_ok.mp hcode)
  obtain ⟨t', htake', herased, htorn'⟩ := takeText_spec host hadded.valid hadded.published hlimit
  rw [htake'] at htake
  cases htake
  exact ⟨rfl, hadded.erase herased, htorn'.trans htorn⟩

theorem insertBuffer_copies {text : String} (hs : s.arena.Valid)
    (h : Store.insertBuffer (utf8Bytes text) s = (.ok code, s')) :
    (utf8Bytes text).length ≤ maxBufferLength ∧ s'.tornDown = s.tornDown ∧
      Arena.Added s.arena s'.arena code (.buffer (utf8Bytes text)) := by
  obtain ⟨hlimit, htorn, hinsert⟩ := insertBuffer_of_ok h
  exact ⟨hlimit, htorn, Arena.added_of_insert hs hinsert⟩

theorem recorded_eq_ok {α : Type} {out : Except BridgeError α × Store O S W L} {value : α} :
    Store.recorded out = (.ok value, s') ↔ out = (.ok value, s') := by
  obtain ⟨result, t⟩ := out
  cases result <;> simp [Store.recorded]

/-! ## Operators -/

theorem operatorInfoBuffer_copies {info : O → OperatorInfo} {operator : O}
    {select : OperatorInfo → String} (hs : s.arena.Valid)
    (hget : s.arena.get? handle = some (.operator operator)) :
    Copies (Store.operatorInfoBuffer info handle select) s (select (info operator)) := by
  intro code s' h
  unfold Store.operatorInfoBuffer at h
  rw [recorded_eq_ok, Arena.operator_eq_ok.mpr hget] at h
  exact insertBuffer_copies hs h

theorem operatorInfo_spec {host : Host} {info : O → OperatorInfo} {context : Context}
    {operator : O} {value : OperatorInfoValue} (hs : s.arena.Valid)
    (hget : s.arena.get? handle = some (.operator operator))
    (h : operatorInfo host info handle context s = (.ok value, s')) :
    value.scheme = decodedText (info operator).scheme ∧
      value.root = decodedText (info operator).root ∧
      value.name = decodedText (info operator).name := by
  obtain ⟨scheme, t₁, hscheme, h⟩ := Call.bind_eq_ok.mp h
  obtain ⟨rfl, hkept₁⟩ := takeInfoText_spec (operatorInfoBuffer_copies hs hget) hscheme
  have hget₁ := (hkept₁.arena.same handle).trans hget
  obtain ⟨root, t₂, hroot, h⟩ := Call.bind_eq_ok.mp h
  obtain ⟨rfl, hkept₂⟩ :=
    takeInfoText_spec (operatorInfoBuffer_copies hkept₁.arena.valid hget₁) hroot
  have hget₂ := (hkept₂.arena.same handle).trans hget₁
  obtain ⟨name, t₃, hname, h⟩ := Call.bind_eq_ok.mp h
  obtain ⟨rfl, -⟩ := takeInfoText_spec (operatorInfoBuffer_copies hkept₂.arena.valid hget₂) hname
  obtain ⟨capability, t₄, -, h⟩ := Call.bind_eq_ok.mp h
  cases h
  exact ⟨rfl, rfl, rfl⟩

/-! ## Entry lists -/

/-- What is read of an entry whose snapshot encodes `metadata`, text by text through `f`. -/
def entryValue (f : String → JsString) (entry : EntrySnapshot) (metadata : Metadata) :
    EntryValue where
  path := f entry.path
  name := f entry.name
  metadata := metadataValue f metadata

/-- The snapshot of the entry is that of `metadata`. -/
def Describes (tryReserve : Nat → Bool) (entry : EntrySnapshot) (metadata : Metadata) : Prop :=
  metadataSnapshotBytes tryReserve metadata = .ok entry.metadataSnapshot

theorem tryOwnedBytes_ok {tryReserve : Nat → Bool} {value bytes : List UInt8}
    (h : Store.tryOwnedBytes tryReserve value = .ok bytes) : bytes = value := by
  unfold Store.tryOwnedBytes at h
  by_cases hlimit : maxBufferLength < value.length
  · rw [if_pos hlimit] at h
    cases h
  · rw [if_neg hlimit] at h
    by_cases hreserve : tryReserve value.length = true
    · rw [if_pos hreserve] at h
      cases h
      rfl
    · rw [if_neg hreserve] at h
      cases h

theorem entryListText_copies (tryReserve : Nat → Bool) {entries : List EntrySnapshot}
    {index : UInt32} {entry : EntrySnapshot} (path : Bool) (hs : s.arena.Valid)
    (hget : s.arena.get? handle = some (.entryList entries))
    (hentry : entries[index.toNat]? = some entry) :
    Copies (Store.entryListText handle tryReserve index path) s
      (if path then entry.path else entry.name) := by
  intro code s' h
  unfold Store.entryListText at h
  rw [recorded_eq_ok, Arena.entryList_eq_ok.mpr hget] at h
  simp only [hentry] at h
  cases howned : Store.tryOwnedBytes tryReserve
      (utf8Bytes (if path then entry.path else entry.name)) with
  | error e =>
    rw [howned] at h
    cases h
  | ok bytes =>
    rw [howned, tryOwnedBytes_ok howned] at h
    exact insertBuffer_copies hs h

theorem expectMoved_eq_ok
    {report : Context → String → FacadeCall O S W L (ErrorOutcome JsString)}
    {f : Store O S W L → Option UInt32 × Store O S W L} {context : Context}
    {fallbackMessage : String}
    (h : expectMoved report f context fallbackMessage s = (.ok code, s')) :
    f s = (some code, s') ∧ code ≠ 0 := by
  unfold expectMoved at h
  cases hf : f s with
  | mk result t =>
    cases result with
    | none =>
      rw [hf] at h
      cases h
    | some moved =>
      rw [hf] at h
      by_cases hzero : moved = 0
      · rw [hzero] at h
        exact absurd h throw_bind_ne_ok
      · simp only [if_neg hzero] at h
        cases h
        exact ⟨rfl, hzero⟩

/-- Moving the snapshot of an entry out leaves the other entries as they are. -/
theorem entryListMetadataSnapshot_spec {entries : List EntrySnapshot} {index : UInt32}
    {entry : EntrySnapshot} (hs : s.arena.Valid) (hlive : s.tornDown = false)
    (hget : s.arena.get? handle = some (.entryList entries))
    (hentry : entries[index.toNat]? = some entry)
    (h : Store.entryListMetadataSnapshot handle s index = (some code, s')) (hcode : code ≠ 0) :
    s'.tornDown = false ∧
      Arena.Replaced s.arena s'.arena handle code
        (some (.entryList (entries.set index.toNat { entry with metadataSnapshot := [] })))
        (.buffer entry.metadataSnapshot) := by
  have hvalid : s.Valid := ⟨hs, fun htorn => by rw [hlive] at htorn; cases htorn⟩
  have hatomic : Atomic (Transfer.moves (fun _ => true) (.entryListMetadataSnapshot index)) s handle
      (s.entryListMetadataSnapshot handle index) :=
    Transfer.entryListMetadataSnapshot_atomic hvalid index
  rw [h] at hatomic
  rcases hatomic with ⟨e, hfailed⟩ | ⟨r, left, payload, target, arena, hr, hmoves, hout, hreplaced⟩ |
      ⟨r, arena, -, -, hout, -⟩
  · injection hfailed with hzero
    exact absurd (Option.some.inj hzero) hcode
  · rw [hget] at hr
    cases hr
    simp only [Transfer.moves, hentry, Option.map_some, Option.some.injEq, Prod.mk.injEq] at hmoves
    obtain ⟨rfl, rfl⟩ := hmoves
    cases hout
    exact ⟨hlive, hreplaced⟩
  · injection hout with hzero
    exact absurd (Option.some.inj hzero) hcode

theorem length_snapshot_le {tryReserve : Nat → Bool} {entry : EntrySnapshot} {metadata : Metadata}
    (h : Describes tryReserve entry metadata) :
    entry.metadataSnapshot.length ≤ maxBufferLength := by
  obtain ⟨hlimit, hbytes⟩ := metadataSnapshotBytes_eq_ok h
  have hheader : (metadataSnapshotMagic ++
      encodeFields (snapshotView metadata).headerFields).length = 84 := by
    simp [metadataSnapshotMagic, MetadataSnapshotView.headerFields, snapshotView, Metadata.strings]
  rw [hbytes, ← List.append_assoc, List.length_append, hheader, length_payload]
  exact hlimit

theorem takeMetadata_spec (host : Host) {tryReserve : Nat → Bool} {bytes : List UInt8}
    {metadata : Metadata} (hs : s.arena.Valid)
    (hget : s.arena.get? handle = some (.buffer bytes))
    (hlimit : bytes.length ≤ maxBufferLength)
    (hbytes : metadataSnapshotBytes tryReserve metadata = .ok bytes) :
    ∃ s', takeMetadata host handle s = (.ok (metadataValue decodedText metadata), s') ∧
      Arena.Erased s.arena s'.arena handle ∧ s'.tornDown = s.tornDown := by
  obtain ⟨s', htake, herased, htorn⟩ := takeBuffer_spec host hs hget hlimit
  refine ⟨s', ?_, herased, htorn⟩
  apply Call.bind_eq_ok.mpr
  refine ⟨bytes, s', htake, ?_⟩
  rw [decodeMetadataSnapshot_encode textDecode_utf8Bytes hbytes]
  rfl

theorem takeEntry_spec {host : Host} {context : Context} {tryReserve : Nat → Bool}
    {entries : List EntrySnapshot} {index : UInt32} {entry : EntrySnapshot} {metadata : Metadata}
    {value : EntryValue} (hs : s.arena.Valid) (hlive : s.tornDown = false)
    (hget : s.arena.get? handle = some (.entryList entries))
    (hentry : entries[index.toNat]? = some entry) (hdescribes : Describes tryReserve entry metadata)
    (h : takeEntry host handle context index s = (.ok value, s')) :
    value = entryValue decodedText entry metadata ∧ s'.arena.Valid ∧ s'.tornDown = false ∧
      s'.arena.get? handle =
        some (.entryList (entries.set index.toNat { entry with metadataSnapshot := [] })) := by
  obtain ⟨path, t₁, hpath, h⟩ := Call.bind_eq_ok.mp h
  have hcopies := entryListText_copies (s := s.lastErrorClear) host.tryReserve true hs hget hentry
  obtain ⟨hpath, hkept₁⟩ := takeInfoText_spec hcopies hpath
  have hget₁ := (hkept₁.arena.same handle).trans hget
  obtain ⟨name, t₂, hname, h⟩ := Call.bind_eq_ok.mp h
  have hcopies := entryListText_copies (s := t₁.lastErrorClear) host.tryReserve false
    hkept₁.arena.valid hget₁ hentry
  obtain ⟨hname, hkept₂⟩ := takeInfoText_spec hcopies hname
  have hget₂ := (hkept₂.arena.same handle).trans hget₁
  have hlive₂ : t₂.tornDown = false := (hkept₂.tornDown.trans hkept₁.tornDown).trans hlive
  obtain ⟨u, t, hclear, h⟩ := Call.bind_eq_ok.mp h
  cases hclear
  obtain ⟨code, t₃, hmoved, h⟩ := Call.bind_eq_ok.mp h
  obtain ⟨hmoved, hcode⟩ := expectMoved_eq_ok hmoved
  obtain ⟨hlive₃, hreplaced⟩ := entryListMetadataSnapshot_spec (s := t₂.lastErrorClear)
    hkept₂.arena.valid hlive₂ hget₂ hentry hmoved hcode
  obtain ⟨t₄, htake, herased, htorn⟩ := takeMetadata_spec host hreplaced.valid hreplaced.published
    (length_snapshot_le hdescribes) hdescribes
  obtain ⟨metadataRead, t₅, hmetadata, h⟩ := Call.bind_eq_ok.mp h
  rw [htake] at hmetadata
  cases hmetadata
  cases h
  have hne : handle ≠ code := by
    intro heq
    have hpublished := hreplaced.published
    rw [← heq, hreplaced.source] at hpublished
    cases hpublished
  refine ⟨?_, herased.valid, htorn.trans hlive₃, ?_⟩
  · rw [hpath, hname]
    rfl
  · rw [herased.others handle hne, hreplaced.source]

theorem takeEntries_spec {host : Host} {context : Context} {tryReserve : Nat → Bool}
    {entries rest : List EntrySnapshot} {metadatas : List Metadata} {values : List EntryValue}
    {index : Nat} (hs : s.arena.Valid) (hlive : s.tornDown = false)
    (hget : s.arena.get? handle = some (.entryList entries))
    (hsize : entries.length < 2 ^ 31) (hrest : entries.drop index = rest)
    (hdescribes : List.Forall₂ (Describes tryReserve) rest metadatas)
    (h : takeEntries host handle context rest.length index s = (.ok values, s')) :
    values = List.zipWith (entryValue decodedText) rest metadatas := by
  induction hdescribes generalizing index s entries values with
  | nil =>
    cases h
    rfl
  | @cons entry metadata rest metadatas hhead htail ih =>
    have hentry : entries[index]? = some entry := by
      rw [← List.head?_drop, hrest, List.head?_cons]
    have hlt : index < entries.length := by
      have hsome := List.getElem?_eq_some_iff.mp hentry
      exact hsome.1
    have hindex : (UInt32.ofNat index).toNat = index := by
      rw [UInt32.toNat_ofNat']
      omega
    obtain ⟨value, t, hvalue, h⟩ := Call.bind_eq_ok.mp h
    obtain ⟨hvalue, hvalid, hlive', hget'⟩ := takeEntry_spec hs hlive hget
      (by rw [hindex]; exact hentry) hhead hvalue
    rw [hindex] at hget'
    obtain ⟨values', t', hvalues, h⟩ := Call.bind_eq_ok.mp h
    cases h
    have hdrop : (entries.set index { entry with metadataSnapshot := [] }).drop (index + 1) =
        rest := by
      rw [List.drop_set_of_lt (by omega), ← List.drop_drop, hrest]
      rfl
    rw [List.zipWith_cons_cons, hvalue,
      ih hvalid hlive' hget' (by rw [List.length_set]; exact hsize) hdrop hvalues]

theorem listEntries_spec {host : Host} {context : Context} {tryReserve : Nat → Bool}
    {entries : List EntrySnapshot} {metadatas : List Metadata} {values : List EntryValue}
    (hs : s.Valid) (hget : s.arena.get? handle = some (.entryList entries))
    (hdescribes : List.Forall₂ (Describes tryReserve) entries metadatas)
    (h : listEntries host handle context s = (.ok values, s')) :
    values = List.zipWith (entryValue decodedText) entries metadatas := by
  obtain ⟨t, h, -⟩ := Call.tryFinally_eq_ok.mp h
  obtain ⟨u, t₁, hclear, h⟩ := Call.bind_eq_ok.mp h
  cases hclear
  obtain ⟨length, t₂, hlength, h⟩ := Call.bind_eq_ok.mp h
  have hlen := expect_eq_ok.mp hlength
  unfold Store.entryListLen at hlen
  have hlist : Arena.entryList s.lastErrorClear.arena handle = .ok entries :=
    Arena.entryList_eq_ok.mpr hget
  rw [recorded_eq_ok, hlist] at hlen
  by_cases hsize : 2 ^ 31 ≤ entries.length
  · simp only [if_pos hsize] at hlen
    cases hlen
  · simp only [if_neg hsize] at hlen
    cases hlen
    exact takeEntries_spec (s := s.lastErrorClear) hs.arena (hs.running hget) hget (by omega) rfl
      hdescribes h

/-! ## Exact texts -/

/-- No text of the metadata starts with U+FEFF. -/
def MarkFree (metadata : Metadata) : Prop :=
  ∀ text, some text ∈ metadata.strings → ¬ StartsWithMark text

theorem map_decodedText_eq {text : Option String} :
    text.map decodedText = text.map exactText ↔ ∀ t, text = some t → ¬ StartsWithMark t := by
  cases text with
  | none => simp
  | some t => simp [decodedText_eq_exactText]

theorem errorOutcome_exact {error : BridgeError} {context : Context} :
    errorOutcome decodedText error context = errorOutcome exactText error context ↔
      ¬ StartsWithMark error.kindName ∧ ¬ StartsWithMark error.diagnosticMessage := by
  rw [← decodedText_eq_exactText, ← decodedText_eq_exactText]
  simp [errorOutcome]

theorem metadataValue_exact {metadata : Metadata} :
    metadataValue decodedText metadata = metadataValue exactText metadata ↔
      MarkFree metadata := by
  have hfields : metadataValue decodedText metadata = metadataValue exactText metadata ↔
      ∀ value ∈ metadata.strings, value.map decodedText = value.map exactText := by
    simp [metadataValue, Metadata.strings]
  rw [hfields]
  constructor
  · intro h text htext
    exact map_decodedText_eq.mp (h _ htext) text rfl
  · intro h value hvalue
    apply map_decodedText_eq.mpr
    intro text htext
    exact h text (htext ▸ hvalue)

theorem entryValue_exact {entry : EntrySnapshot} {metadata : Metadata} :
    entryValue decodedText entry metadata = entryValue exactText entry metadata ↔
      ¬ StartsWithMark entry.path ∧ ¬ StartsWithMark entry.name ∧ MarkFree metadata := by
  rw [← decodedText_eq_exactText, ← decodedText_eq_exactText, ← metadataValue_exact]
  simp [entryValue]

/-- Two readings of a list agree when they agree entry by entry. -/
theorem zipWith_eq_iff {α β γ : Type} {R : α → β → Prop} {f g : α → β → γ} {as : List α}
    {bs : List β} (h : List.Forall₂ R as bs) :
    List.zipWith f as bs = List.zipWith g as bs ↔
      ∀ pair ∈ as.zip bs, f pair.1 pair.2 = g pair.1 pair.2 := by
  induction h with
  | nil => simp
  | cons hhead htail ih => simp [ih]

/-! ## Putting and taking -/

/-- A string that was put is taken as the decoder reads its encoding. -/
theorem putText_takeText (host : Host) (context : Context) {text : JsString}
    (hs : s.arena.Valid) (hroom : s.arena.canInsert = true) (hlive : s.tornDown = false)
    (hlimit : (textEncode text).length ≤ maxBufferLength)
    (hreserve : host.tryReserve (textEncode text).length = true) :
    ((putText host text context >>= takeText host) s).1 =
      .ok (decodedText (String.ofList (scalarValues text))) := by
  obtain ⟨handle, t, hput, hadded, -⟩ :=
    putBytes_spec host context hs hroom hlive hlimit hreserve
  obtain ⟨t', htake, -, -⟩ : ∃ t', takeText host handle t =
      (.ok (decodedText (String.ofList (scalarValues text))), t') ∧
        Arena.Erased t.arena t'.arena handle ∧ t'.tornDown = t.tornDown :=
    takeText_spec host hadded.valid hadded.published hlimit
  have hput' : putText host text context s = (.ok handle, t) := hput
  rw [Call.bind_apply_ok hput', htake]

/-- Each reading function returns exact texts precisely when none of them starts with
U+FEFF. -/
theorem texts_exact_iff (host : Host) (info : O → OperatorInfo) (context : Context) :
    (∀ (s : Store O S W L) (text : JsString), s.Valid → s.tornDown = false →
        s.arena.canInsert = true → wellFormed text = true →
        (textEncode text).length ≤ maxBufferLength →
        host.tryReserve (textEncode text).length = true →
        (((putText host text context >>= takeText host) s).1 = .ok text ↔
          text.head? ≠ some 0xFEFF)) ∧
      (∀ error bytes, errorSnapshotBytes host.tryReserve error = .ok bytes →
        (decodeErrorSnapshot textDecode bytes context =
            .ok (errorOutcome exactText error context) ↔
          ¬ StartsWithMark error.kindName ∧ ¬ StartsWithMark error.diagnosticMessage)) ∧
      (∀ metadata bytes, metadataSnapshotBytes host.tryReserve metadata = .ok bytes →
        (decodeMetadataSnapshot textDecode bytes = .ok (metadataValue exactText metadata) ↔
          MarkFree metadata)) ∧
      (∀ (s s' : Store O S W L) handle operator value, s.Valid →
        s.arena.get? handle = some (.operator operator) →
        operatorInfo host info handle context s = (.ok value, s') →
        (value.scheme = exactText (info operator).scheme ∧
            value.root = exactText (info operator).root ∧
            value.name = exactText (info operator).name ↔
          ¬ StartsWithMark (info operator).scheme ∧ ¬ StartsWithMark (info operator).root ∧
            ¬ StartsWithMark (info operator).name)) ∧
      (∀ (s s' : Store O S W L) handle entries metadatas values, s.Valid →
        s.arena.get? handle = some (.entryList entries) →
        List.Forall₂ (Describes host.tryReserve) entries metadatas →
        listEntries host handle context s = (.ok values, s') →
        (values = List.zipWith (entryValue exactText) entries metadatas ↔
          ∀ pair ∈ entries.zip metadatas, ¬ StartsWithMark pair.1.path ∧
            ¬ StartsWithMark pair.1.name ∧ MarkFree pair.2)) := by
  refine ⟨?_, ?_, ?_, ?_, ?_⟩
  · intro s text hs hlive hroom hformed hlimit hreserve
    have hdecode := textDecode_textEncode_eq hformed
    rw [textEncode, textDecode_utf8Bytes, Option.some.injEq] at hdecode
    rw [putText_takeText host context hs.arena hroom hlive hlimit hreserve, Except.ok.injEq,
      hdecode]
  · intro error bytes hbytes
    rw [decodeErrorSnapshot_encode textDecode_utf8Bytes hbytes, Except.ok.injEq,
      errorOutcome_exact]
  · intro metadata bytes hbytes
    rw [decodeMetadataSnapshot_encode textDecode_utf8Bytes hbytes, Except.ok.injEq,
      metadataValue_exact]
  · intro s s' handle operator value hs hget h
    obtain ⟨hscheme, hroot, hname⟩ := operatorInfo_spec hs.arena hget h
    rw [hscheme, hroot, hname, decodedText_eq_exactText, decodedText_eq_exactText,
      decodedText_eq_exactText]
  · intro s s' handle entries metadatas values hs hget hdescribes h
    rw [listEntries_spec hs hget hdescribes h, zipWith_eq_iff hdescribes]
    apply forall_congr'
    intro pair
    rw [entryValue_exact]

theorem texts_exact_plain :
    ((putText (O := Unit) (S := Unit) (W := Unit) (L := Unit) ⟨fun _ => true, 8⟩ [0xE9, 0xFEFF]
        checkContext >>= takeText ⟨fun _ => true, 8⟩) {}).1 = .ok [0xE9, 0xFEFF] := by
  have hlength : (textEncode [0xE9, 0xFEFF]).length = 5 := by decide
  have hexact := (texts_exact_iff (O := Unit) (S := Unit) (W := Unit) (L := Unit)
    ⟨fun _ => true, 8⟩ (fun _ => ⟨"memory", "/", "", capabilityOf 0 0⟩) checkContext).1 {}
    [0xE9, 0xFEFF] ⟨Arena.valid_empty, by simp⟩ rfl rfl (by decide)
    (by rw [hlength]; decide) rfl
  exact hexact.mpr (by decide)

/-- The text "\uFEFFx" comes back as "x". -/
theorem marked_text_loses_mark :
    wellFormed [0xFEFF, 0x78] = true ∧
      (textEncode [0xFEFF, 0x78]).length ≤ maxBufferLength ∧
      ((putText (O := Unit) (S := Unit) (W := Unit) (L := Unit) ⟨fun _ => true, 8⟩ [0xFEFF, 0x78]
          checkContext >>= takeText ⟨fun _ => true, 8⟩) {}).1 = .ok [0x78] := by
  have hlength : (textEncode [0xFEFF, 0x78]).length = 4 := by decide
  refine ⟨by decide, by rw [hlength]; decide, ?_⟩
  have htext : decodedText (String.ofList (scalarValues [0xFEFF, 0x78])) = [0x78] := by
    rw [decodedText, String.toList_ofList]
    decide
  rw [putText_takeText _ _ Arena.valid_empty rfl rfl (by rw [hlength]; decide) rfl, htext]

end OpendalMbt.Browser
