import OpendalMbt.Bridge.Replacement
import OpendalMbt.Browser.Facade

/-!
# Bytes over the bridge

`putBytes` and `takeBuffer` copy window by window.

* `putBytes_spec`: the bytes put are the bytes of the new buffer.
* `takeBuffer_spec`: the bytes taken are the bytes of the buffer, which is released.
* `takeText_spec`: a text is taken as the shared decoder reads it.
-/

namespace OpendalMbt.Browser

open Codec Bridge Transition

variable {O S W L : Type} {s s' : Store O S W L} {handle : UInt32} {bytes : List UInt8}

/-- A thrown outcome is never a result. -/
theorem throw_bind_ne_ok {α ε : Type} {σ : Type} {x : Call σ ε α} {β : Type} {wrap : α → ε}
    {t t' : σ} {value : β} : (x >>= fun e => Call.throw (wrap e)) t ≠ (.ok value, t') := by
  intro h
  obtain ⟨e, u, -, hthrow⟩ := Call.bind_eq_ok.mp h
  cases hthrow

theorem expectValue_eq_ok {α : Type} {value : α}
    {report : Context → String → FacadeCall O S W L (ErrorOutcome JsString)}
    {f : Store O S W L → Except BridgeError α × Store O S W L} {context : Context}
    {fallbackMessage : String} :
    expectValue report f context fallbackMessage s = (.ok value, s') ↔ f s = (.ok value, s') := by
  unfold expectValue
  cases hf : f s with
  | mk result t =>
    cases result with
    | ok value' => simp
    | error e =>
      constructor
      · intro h
        exact absurd h throw_bind_ne_ok
      · intro h
        cases h

theorem expect_eq_ok {α : Type} {value : α} {host : Host}
    {f : Store O S W L → Except BridgeError α × Store O S W L} {context : Context}
    {fallbackMessage : String} :
    expect host f context fallbackMessage s = (.ok value, s') ↔ f s = (.ok value, s') :=
  expectValue_eq_ok

/-! ## Windows -/

theorem windowCount_zero {length offset : Nat} (h : windowCount (length - offset) = 0) :
    length ≤ offset := by
  unfold windowCount maxTransferChunk at h
  omega

theorem windowCount_succ {length offset windows : Nat}
    (h : windowCount (length - offset) = windows + 1) :
    offset < length ∧ windowCount (length - (offset + maxTransferChunk)) = windows := by
  unfold windowCount maxTransferChunk at h
  unfold windowCount maxTransferChunk
  omega

theorem checkedBufferWindow_ok {bufferLength offset length : Nat}
    (hlimit : bufferLength ≤ maxBufferLength) (hpos : 0 < length)
    (hchunk : length ≤ maxTransferChunk) (hend : offset + length ≤ bufferLength) :
    Store.checkedBufferWindow bufferLength offset length = .ok () := by
  have hsize : maxBufferLength < UInt32.size := by decide
  unfold Store.checkedBufferWindow
  rw [if_neg (by omega), if_neg (by omega), if_neg (by omega)]

theorem bufferLen_spec (hget : s.arena.get? handle = some (.buffer bytes))
    (hlimit : bytes.length ≤ maxBufferLength) :
    Store.bufferLen handle s = (.ok bytes.length, s) := by
  have hbuffer := Arena.buffer_eq_ok.mpr hget
  unfold maxBufferLength at hlimit
  unfold Store.bufferLen
  rw [hbuffer]
  simp only [Store.recorded]
  rw [if_neg (by omega)]

theorem bufferDataPtr_spec (offset : Nat) {length : Nat}
    (hget : s.arena.get? handle = some (.buffer bytes))
    (hlimit : bytes.length ≤ maxBufferLength) (hpos : 0 < length)
    (hchunk : length ≤ maxTransferChunk) (hend : offset + length ≤ bytes.length) :
    Store.bufferDataPtr handle offset length s = (.ok ((bytes.drop offset).take length), s) := by
  unfold Store.bufferDataPtr
  rw [Arena.buffer_eq_ok.mpr hget]
  simp only [checkedBufferWindow_ok hlimit hpos hchunk hend, Store.recorded]

theorem take_append_window (bytes : List UInt8) (offset : Nat) :
    (bytes.drop offset).take (min maxTransferChunk (bytes.length - offset)) ++
      bytes.drop (offset + maxTransferChunk) = bytes.drop offset := by
  have htake : (bytes.drop offset).take (min maxTransferChunk (bytes.length - offset)) =
      (bytes.drop offset).take maxTransferChunk := by
    rw [← List.take_take, ← List.length_drop, List.take_length]
  rw [htake, ← List.drop_drop, List.take_append_drop]

/-! ## Taking -/

theorem readWindows_spec
    (report : Context → String → FacadeCall O S W L (ErrorOutcome JsString))
    (hget : s.arena.get? handle = some (.buffer bytes))
    (hlimit : bytes.length ≤ maxBufferLength) (offset : Nat) {windows : Nat}
    (hcount : windowCount (bytes.length - offset) = windows) :
    ∃ s', readWindows report handle bytes.length windows offset s =
        (.ok (bytes.drop offset), s') ∧
      s'.arena = s.arena ∧ s'.tornDown = s.tornDown := by
  induction windows generalizing offset s with
  | zero =>
    have hend := windowCount_zero hcount
    refine ⟨s, ?_, rfl, rfl⟩
    rw [readWindows, List.drop_eq_nil_of_le hend, Call.pure_apply]
  | succ windows ih =>
    obtain ⟨hlt, hrest⟩ := windowCount_succ hcount
    have hchunk : 0 < maxTransferChunk := by decide
    obtain ⟨s', hread, harena, htorn⟩ := ih (s := s.lastErrorClear) hget _ hrest
    have hpart : Store.bufferDataPtr handle offset (min maxTransferChunk (bytes.length - offset))
        s.lastErrorClear = (.ok ((bytes.drop offset).take
          (min maxTransferChunk (bytes.length - offset))), s.lastErrorClear) :=
      bufferDataPtr_spec offset hget hlimit (by omega) (by omega) (by omega)
    refine ⟨s', ?_, harena, htorn⟩
    unfold readWindows
    apply Call.bind_eq_ok.mpr
    refine ⟨(), s.lastErrorClear, rfl, ?_⟩
    apply Call.bind_eq_ok.mpr
    refine ⟨_, s.lastErrorClear, expectValue_eq_ok.mpr hpart, ?_⟩
    apply Call.bind_eq_ok.mpr
    refine ⟨_, s', hread, ?_⟩
    rw [Call.pure_apply, take_append_window]

theorem bufferRelease_spec (hs : s.arena.Valid) (hget : s.arena.get? handle = some (.buffer bytes)) :
    Arena.Erased s.arena (Store.bufferRelease handle s).2.arena handle ∧
      (Store.bufferRelease handle s).2.tornDown = s.tornDown := by
  obtain ⟨a', htake⟩ : ∃ a', s.arena.take handle .buffer = (.ok (.buffer bytes), a') :=
    Arena.take_of_get? hget rfl
  have hrelease : Store.bufferRelease handle s = (.ok (), { s with arena := a' }) := by
    unfold Store.bufferRelease Store.releaseResource Arena.release
    rw [htake]
    rfl
  rw [hrelease]
  exact ⟨Arena.erased_of_take hs htake, rfl⟩

theorem takeBuffer_spec (host : Host) (hs : s.arena.Valid)
    (hget : s.arena.get? handle = some (.buffer bytes))
    (hlimit : bytes.length ≤ maxBufferLength) :
    ∃ s', takeBuffer host handle s = (.ok bytes, s') ∧
      Arena.Erased s.arena s'.arena handle ∧ s'.tornDown = s.tornDown := by
  obtain ⟨t, hread, harena, htorn⟩ := readWindows_spec (s := s.lastErrorClear)
    (takeLastError host) hget hlimit 0 rfl
  have ht : t.arena = s.arena := harena
  obtain ⟨herased, hkept⟩ := bufferRelease_spec (s := t) (by rw [ht]; exact hs)
    (by rw [ht]; exact hget)
  refine ⟨(Store.bufferRelease handle t).2, ?_, ?_, ?_⟩
  · unfold takeBuffer takeBufferWith
    apply Call.tryFinally_eq_ok.mpr
    refine ⟨t, ?_, rfl⟩
    apply Call.bind_eq_ok.mpr
    refine ⟨(), s.lastErrorClear, rfl, ?_⟩
    apply Call.bind_eq_ok.mpr
    refine ⟨bytes.length, s.lastErrorClear,
      expectValue_eq_ok.mpr (bufferLen_spec (s := s.lastErrorClear) hget hlimit), ?_⟩
    have hmax : ¬ bytes.length > maxBufferBytes := Nat.not_lt.mpr hlimit
    rw [if_neg hmax]
    simpa using hread
  · rw [← ht]
    exact herased
  · rw [hkept]
    exact htorn

/-- Taking the encoding of a text gives what the shared decoder makes of it. -/
theorem takeText_spec (host : Host) {text : String} (hs : s.arena.Valid)
    (hget : s.arena.get? handle = some (.buffer (utf8Bytes text)))
    (hlimit : (utf8Bytes text).length ≤ maxBufferLength) :
    ∃ s', takeText host handle s = (.ok (decodedText text), s') ∧
      Arena.Erased s.arena s'.arena handle ∧ s'.tornDown = s.tornDown := by
  obtain ⟨s', htake, herased, htorn⟩ := takeBuffer_spec host hs hget hlimit
  refine ⟨s', ?_, herased, htorn⟩
  unfold takeText
  simp only [htake, textDecode_utf8Bytes]

/-! ## Putting -/

theorem insertBuffer_of_ok (h : Store.insertBuffer bytes s = (.ok handle, s')) :
    bytes.length ≤ maxBufferLength ∧ s'.tornDown = s.tornDown ∧
      s.arena.insert (.buffer bytes) = (.ok handle, s'.arena) := by
  unfold Store.insertBuffer Store.insertResource at h
  split at h
  · cases h
  · rename_i hlimit
    split at h
    · cases h
    · cases hinsert : s.arena.insert (.buffer bytes) with
      | mk result arena =>
        rw [hinsert] at h
        cases h
        exact ⟨Nat.not_lt.mp hlimit, rfl, rfl⟩

/-- What the windows before `offset` have made of the buffer. -/
def filled (bytes : List UInt8) (offset : Nat) : List UInt8 :=
  bytes.take offset ++ List.replicate (bytes.length - offset) 0

@[simp] theorem length_filled (bytes : List UInt8) (offset : Nat) :
    (filled bytes offset).length = bytes.length := by
  simp only [filled, List.length_append, List.length_take, List.length_replicate]
  omega

theorem filled_zero (bytes : List UInt8) : filled bytes 0 = List.replicate bytes.length 0 := by
  simp [filled]

theorem filled_of_le {offset : Nat} (h : bytes.length ≤ offset) : filled bytes offset = bytes := by
  rw [filled, List.take_of_length_le h, Nat.sub_eq_zero_of_le h]
  simp

/-- A window written at `offset` fills the buffer that much further. -/
theorem filled_window (bytes : List UInt8) {offset length : Nat} (hend : offset + length ≤ bytes.length) :
    (filled bytes offset).take offset ++ (bytes.drop offset).take length ++
      (filled bytes offset).drop (offset + ((bytes.drop offset).take length).length) =
      filled bytes (offset + length) := by
  have hpart : ((bytes.drop offset).take length).length = length := by
    rw [List.length_take, List.length_drop]
    omega
  have hhead : (filled bytes offset).take offset = bytes.take offset := by
    rw [filled, List.take_append_of_le_length (by rw [List.length_take]; omega), List.take_take,
      Nat.min_self]
  have htail : (filled bytes offset).drop (offset + length) =
      List.replicate (bytes.length - (offset + length)) 0 := by
    rw [filled, List.drop_append, List.length_take, Nat.min_eq_left (by omega),
      List.drop_eq_nil_of_le (by rw [List.length_take]; omega), List.nil_append,
      List.drop_replicate]
    congr 1
    omega
  rw [hpart, hhead, htail, ← List.take_add, filled]

theorem writeWindow_spec {content : List UInt8} (part : List UInt8) (offset : Nat)
    (hs : s.arena.Valid) (hget : s.arena.get? handle = some (.buffer content)) :
    (Store.writeWindow handle offset part s).arena.Valid ∧
      (Store.writeWindow handle offset part s).tornDown = s.tornDown ∧
      ∀ k, (Store.writeWindow handle offset part s).arena.get? k =
        if k = handle then
          some (.buffer (content.take offset ++ part ++ content.drop (offset + part.length)))
        else s.arena.get? k := by
  have hres := Arena.get?_eq_some.mp hget
  unfold Store.writeWindow
  rw [Arena.buffer_eq_ok.mpr hget]
  exact ⟨hs.write hres, rfl, hs.get?_write hres _⟩

theorem writeWindows_spec (host : Host) (context : Context) (hs : s.arena.Valid)
    {windows offset : Nat} (hget : s.arena.get? handle = some (.buffer (filled bytes offset)))
    (hlimit : bytes.length ≤ maxBufferLength)
    (hcount : windowCount (bytes.length - offset) = windows) :
    ∃ s', writeWindows host handle bytes context windows offset s = (.ok (), s') ∧
      s'.arena.Valid ∧ s'.tornDown = s.tornDown ∧
      s'.arena.get? handle = some (.buffer bytes) ∧
      ∀ k, k ≠ handle → s'.arena.get? k = s.arena.get? k := by
  induction windows generalizing offset s with
  | zero =>
    have hend := windowCount_zero hcount
    rw [filled_of_le hend] at hget
    refine ⟨s, ?_, hs, rfl, hget, fun k _ => rfl⟩
    rw [writeWindows, Call.pure_apply]
  | succ windows ih =>
    obtain ⟨hlt, hrest⟩ := windowCount_succ hcount
    have hchunk : 0 < maxTransferChunk := by decide
    have hwindow : offset + min maxTransferChunk (bytes.length - offset) ≤ bytes.length := by
      omega
    have hpart : Store.bufferDataPtr handle offset (min maxTransferChunk (bytes.length - offset))
        s.lastErrorClear = (.ok (((filled bytes offset).drop offset).take
          (min maxTransferChunk (bytes.length - offset))), s.lastErrorClear) :=
      bufferDataPtr_spec offset hget (by simpa using hlimit) (by omega) (by omega)
        (by rwa [length_filled])
    obtain ⟨hvalid, htorn, hlookup⟩ := writeWindow_spec (s := s.lastErrorClear)
      ((bytes.drop offset).take (min maxTransferChunk (bytes.length - offset))) offset hs hget
    have hfilled := filled_window bytes hwindow
    -- the last window ends with the buffer, all others are full
    have hnext : filled bytes (offset + min maxTransferChunk (bytes.length - offset)) =
        filled bytes (offset + maxTransferChunk) := by
      by_cases hfull : maxTransferChunk ≤ bytes.length - offset
      · rw [Nat.min_eq_left hfull]
      · rw [filled_of_le (by omega), filled_of_le (by omega)]
    obtain ⟨s', hwrite, hvalid', htorn', hget', hothers⟩ := ih
      (s := Store.writeWindow handle offset
        ((bytes.drop offset).take (min maxTransferChunk (bytes.length - offset)))
        s.lastErrorClear)
      hvalid (by rw [hlookup, if_pos rfl, hfilled, hnext]) hrest
    refine ⟨s', ?_, hvalid', htorn'.trans htorn, hget', ?_⟩
    · unfold writeWindows
      apply Call.bind_eq_ok.mpr
      refine ⟨(), s.lastErrorClear, rfl, ?_⟩
      apply Call.bind_eq_ok.mpr
      refine ⟨_, s.lastErrorClear, expect_eq_ok.mpr hpart, ?_⟩
      apply Call.bind_eq_ok.mpr
      exact ⟨(), _, rfl, hwrite⟩
    · intro k hk
      rw [hothers k hk, hlookup, if_neg hk]
      rfl

/-- Bytes that fit are put as soon as there is room for one more handle. -/
theorem putBytes_spec (host : Host) (context : Context) (hs : s.arena.Valid)
    (hroom : s.arena.canInsert = true) (hlive : s.tornDown = false)
    (hlimit : bytes.length ≤ maxBufferLength) (hreserve : host.tryReserve bytes.length = true) :
    ∃ handle s', putBytes host bytes context s = (.ok handle, s') ∧
      Arena.Added s.arena s'.arena handle (.buffer bytes) ∧ s'.tornDown = false := by
  obtain ⟨handle, a', hinsert⟩ := Arena.insert_of_canInsert hs hroom
    (.buffer (List.replicate bytes.length 0))
  have hadded := Arena.added_of_insert hs hinsert
  have hnew : Store.bufferNewSized host.tryReserve bytes.length s.lastErrorClear =
      (.ok handle, { s.lastErrorClear with arena := a' }) := by
    unfold Store.bufferNewSized Store.insertBuffer Store.insertResource
    simp only [List.length_replicate]
    rw [if_neg (by omega), if_pos hreserve, if_neg (by omega)]
    simp only [Store.lastErrorClear, hlive, Bool.false_eq_true, if_false, hinsert, Store.recorded]
  have hzero : a'.get? handle = some (.buffer (filled bytes 0)) := by
    rw [filled_zero]
    exact hadded.published
  obtain ⟨s', hwrite, hvalid, htorn, hget, hothers⟩ := writeWindows_spec host context
    (s := { s.lastErrorClear with arena := a' }) hadded.valid hzero hlimit rfl
  refine ⟨handle, s', ?_, ⟨hvalid, hadded.fresh, hget, ?_⟩, htorn.trans hlive⟩
  · apply Call.bind_eq_ok.mpr
    refine ⟨(), s.lastErrorClear, rfl, ?_⟩
    apply Call.bind_eq_ok.mpr
    refine ⟨handle, { s.lastErrorClear with arena := a' }, expect_eq_ok.mpr hnew, ?_⟩
    apply Call.onError_eq_ok.mpr
    apply Call.bind_eq_ok.mpr
    exact ⟨(), s', hwrite, rfl⟩
  · intro k hk
    rw [hothers k hk, hadded.others k hk]

end OpendalMbt.Browser
