import OpendalMbt.Browser.BufferTransfer

/-!
# The windows of a transfer

`putBytes` and `takeBuffer` of `index.mjs` ask `checked_buffer_window` for one window after the
other.

* `checkedBufferWindow_eq_ok`: the windows that are accepted, for all 32-bit numbers;
* `cover_windowsFrom`: the windows of a loop cover the buffer once, in order;
* `readWindows_eq`, `writeWindows_eq`: both loops ask for these windows;
* `setWindows_eq`: the windows read are put where they came from;
* `windowed_transfer`: what is put is what is taken.
-/

namespace OpendalMbt.Browser

open Codec Bridge Transition

structure Window where
  offset : Nat
  length : Nat
  deriving DecidableEq, Repr

/-- The positions of a window. -/
def Window.positions (w : Window) : List Nat := List.range' w.offset w.length

/-- What a loop over `length` bytes asks for, from `offset` on. -/
def windowsFrom (length : Nat) : Nat → Nat → List Window
  | 0, _ => []
  | windows + 1, offset =>
    { offset, length := min maxTransferChunk (length - offset) } ::
      windowsFrom length windows (offset + maxTransferChunk)

theorem checkedBufferWindow_eq_ok {bufferLength : Nat} (hbuffer : bufferLength < UInt32.size)
    (offset length : UInt32) :
    Store.checkedBufferWindow bufferLength offset.toNat length.toNat = .ok () ↔
      0 < length.toNat ∧ length.toNat ≤ maxTransferChunk ∧
        offset.toNat + length.toNat ≤ bufferLength := by
  unfold Store.checkedBufferWindow
  split_ifs with hlength hoverflow hend
  · constructor
    · intro h
      cases h
    · rintro ⟨hpos, hchunk, -⟩
      omega
  · constructor
    · intro h
      cases h
    · rintro ⟨-, -, hle⟩
      omega
  · constructor
    · intro h
      cases h
    · rintro ⟨-, -, hle⟩
      omega
  · constructor
    · intro _
      omega
    · intro _
      rfl

/-- The sum of an accepted window does not wrap. -/
theorem toNat_window_end {bufferLength : Nat} (hbuffer : bufferLength < UInt32.size)
    {offset length : UInt32}
    (h : Store.checkedBufferWindow bufferLength offset.toNat length.toNat = .ok ()) :
    (offset + length).toNat = offset.toNat + length.toNat := by
  obtain ⟨-, -, hend⟩ := (checkedBufferWindow_eq_ok hbuffer offset length).mp h
  rw [UInt32.toNat_add]
  exact Nat.mod_eq_of_lt (lt_of_le_of_lt hend hbuffer)

/-- The windows that are left cover what is left of the buffer. -/
theorem cover_windowsFrom {length windows offset : Nat}
    (hcount : windowCount (length - offset) = windows) :
    (windowsFrom length windows offset).flatMap Window.positions =
      List.range' offset (length - offset) := by
  induction windows generalizing offset with
  | zero =>
    have hend := windowCount_zero hcount
    rw [windowsFrom, List.flatMap_nil, Nat.sub_eq_zero_of_le hend, List.range'_zero]
  | succ windows ih =>
    obtain ⟨hlt, hrest⟩ := windowCount_succ hcount
    have hpositions : Window.positions
        { offset, length := min maxTransferChunk (length - offset) } =
        List.range' offset (min maxTransferChunk (length - offset)) := rfl
    rw [windowsFrom, List.flatMap_cons, ih hrest, hpositions]
    by_cases hfull : maxTransferChunk ≤ length - offset
    · have hjoin := List.range'_append_1 (s := offset) (m := maxTransferChunk)
        (n := length - (offset + maxTransferChunk))
      have hlength : maxTransferChunk + (length - (offset + maxTransferChunk)) =
          length - offset := by omega
      rw [Nat.min_eq_left hfull, hjoin, hlength]
    · rw [Nat.min_eq_right (by omega), show length - (offset + maxTransferChunk) = 0 by omega,
        List.range'_zero, List.append_nil]

theorem mem_windowsFrom {length windows offset : Nat} {w : Window}
    (hcount : windowCount (length - offset) = windows)
    (hw : w ∈ windowsFrom length windows offset) :
    0 < w.length ∧ w.length ≤ maxTransferChunk ∧ w.offset + w.length ≤ length := by
  induction windows generalizing offset with
  | zero => cases hw
  | succ windows ih =>
    obtain ⟨hlt, hrest⟩ := windowCount_succ hcount
    have hchunk : 0 < maxTransferChunk := by decide
    rw [windowsFrom, List.mem_cons] at hw
    obtain rfl | hw := hw
    · dsimp only
      omega
    · exact ih hrest hw

section Loops

variable {O S W L : Type} (host : Host)
  (report : Context → String → FacadeCall O S W L (ErrorOutcome JsString))
  (handle : UInt32) (context : Context)

/-- One turn of the loop of `takeBuffer`. -/
def readWindow (w : Window) : FacadeCall O S W L (List UInt8) := do
  clearLastError
  expectValue report (Store.bufferDataPtr handle w.offset w.length) checkContext
    "could not access a bridge buffer window"

/-- One turn of the loop of `putBytes`. -/
def writePart (bytes : List UInt8) (w : Window) : FacadeCall O S W L Unit := do
  clearLastError
  let _ ← expect host (Store.bufferDataPtr handle w.offset w.length) context
    "could not access a bridge buffer window"
  Call.modify (Store.writeWindow handle w.offset ((bytes.drop w.offset).take w.length))

theorem readWindows_eq (length windows offset : Nat) :
    readWindows report handle length windows offset =
      (windowsFrom length windows offset).foldr
        (fun w rest => do
          let part ← readWindow report handle w
          let rest ← rest
          pure (part ++ rest))
        (pure []) := by
  induction windows generalizing offset with
  | zero => rfl
  | succ windows ih =>
    rw [readWindows, windowsFrom, List.foldr_cons, ← ih, readWindow, Call.bind_assoc]

theorem writeWindows_eq (bytes : List UInt8) (windows offset : Nat) :
    writeWindows (O := O) (S := S) (W := W) (L := L) host handle bytes context windows offset =
      (windowsFrom bytes.length windows offset).foldr
        (fun w rest => do
          writePart host handle context bytes w
          rest)
        (pure ()) := by
  induction windows generalizing offset with
  | zero => rfl
  | succ windows ih =>
    rw [writeWindows, windowsFrom, List.foldr_cons, ← ih, writePart, Call.bind_assoc]
    simp only [Call.bind_assoc]

/-- `Uint8Array.prototype.set`. -/
def setBytes (target part : List UInt8) (offset : Nat) : List UInt8 :=
  target.take offset ++ part ++ target.drop (offset + part.length)

/-- The loop of `takeBuffer` with the array it fills. -/
def setWindows (length : Nat) : Nat → Nat → List UInt8 → FacadeCall O S W L (List UInt8)
  | 0, _, result => pure result
  | windows + 1, offset, result => do
    let chunkLength := min maxTransferChunk (length - offset)
    clearLastError
    let part ← expectValue report (Store.bufferDataPtr handle offset chunkLength) checkContext
      "could not access a bridge buffer window"
    setWindows length windows (offset + maxTransferChunk) (setBytes result part offset)

variable {report handle} {s s' : Store O S W L} {part : List UInt8}

theorem length_of_bufferDataPtr {offset length : Nat}
    (h : Store.bufferDataPtr handle offset length s = (.ok part, s')) : part.length = length := by
  unfold Store.bufferDataPtr at h
  cases hbuffer : s.arena.buffer handle with
  | error e =>
    rw [hbuffer] at h
    cases h
  | ok bytes =>
    rw [hbuffer] at h
    dsimp only at h
    cases hwindow : Store.checkedBufferWindow bytes.length offset length with
    | error e =>
      rw [hwindow] at h
      cases h
    | ok _ =>
      rw [hwindow] at h
      cases h
      unfold Store.checkedBufferWindow at hwindow
      split_ifs at hwindow with hlength hoverflow hend
      rw [List.length_take, List.length_drop]
      omega

/-- A part as long as what is free is put behind what is done. -/
theorem setBytes_filled {done part : List UInt8} {free : Nat} (h : part.length ≤ free) :
    setBytes (done ++ List.replicate free 0) part done.length =
      done ++ part ++ List.replicate (free - part.length) 0 := by
  unfold setBytes
  rw [List.take_left, List.drop_append, List.drop_eq_nil_of_le (by omega), List.nil_append,
    List.drop_replicate]
  congr 2
  omega

theorem add_min_sub {chunk offset length : Nat} (h : offset < length) :
    offset + min chunk (length - offset) = min (offset + chunk) length := by
  omega

/-- The parts end up where they came from. -/
theorem setWindows_eq {length windows offset : Nat} {done : List UInt8}
    (hcount : windowCount (length - offset) = windows)
    (hdone : done.length = min offset length) :
    setWindows report handle length windows offset
        (done ++ List.replicate (length - offset) 0) s =
      (readWindows report handle length windows offset >>= fun rest => pure (done ++ rest)) s := by
  induction windows generalizing offset done s with
  | zero =>
    have hend := windowCount_zero hcount
    rw [setWindows, readWindows, Nat.sub_eq_zero_of_le hend]
    rfl
  | succ windows ih =>
    obtain ⟨hlt, hrest⟩ := windowCount_succ hcount
    rw [setWindows, readWindows]
    simp only [Call.bind_assoc]
    -- both loops clear the error slot and ask for the same window
    rw [Call.bind_apply_ok (show clearLastError s = (.ok (), s.lastErrorClear) from rfl),
      Call.bind_apply_ok (show clearLastError s = (.ok (), s.lastErrorClear) from rfl)]
    cases hpart : expectValue report
        (Store.bufferDataPtr handle offset (min maxTransferChunk (length - offset))) checkContext
        "could not access a bridge buffer window" s.lastErrorClear with
    | mk answer t =>
      cases answer with
      | error e => rw [Call.bind_apply_error hpart, Call.bind_apply_error hpart]
      | ok part =>
        have hlength := length_of_bufferDataPtr (expectValue_eq_ok.mp hpart)
        have hoffset : done.length = offset := by omega
        have hset : setBytes (done ++ List.replicate (length - offset) 0) part done.length =
            done ++ part ++ List.replicate (length - offset - part.length) 0 :=
          setBytes_filled (by omega)
        have hfree : length - offset - part.length = length - (offset + maxTransferChunk) := by
          omega
        rw [Call.bind_apply_ok hpart, Call.bind_apply_ok hpart]
        rw [hoffset, hfree] at hset
        have hdone' : (done ++ part).length = min (offset + maxTransferChunk) length := by
          rw [List.length_append, hlength, hoffset, add_min_sub hlt]
        rw [hset, ih hrest hdone']
        cases hread : readWindows report handle length windows (offset + maxTransferChunk) t with
        | mk answer u =>
          cases answer with
          | error e => rw [Call.bind_apply_error hread, Call.bind_apply_error hread]
          | ok rest =>
            rw [Call.bind_apply_ok hread, Call.bind_apply_ok hread, List.append_assoc]
            rfl

theorem setWindows_zero {length : Nat} :
    setWindows report handle length (windowCount length) 0 (List.replicate length 0) s =
      readWindows report handle length (windowCount length) 0 s := by
  have hset : setWindows report handle length (windowCount length) 0
      ([] ++ List.replicate (length - 0) 0) s =
      (readWindows report handle length (windowCount length) 0 >>=
        fun rest => pure ([] ++ rest)) s :=
    setWindows_eq rfl rfl
  rw [Nat.sub_zero, List.nil_append] at hset
  rw [hset]
  cases hread : readWindows report handle length (windowCount length) 0 s with
  | mk answer t =>
    cases answer with
    | error e => rw [Call.bind_apply_error hread]
    | ok rest =>
      rw [Call.bind_apply_ok hread]
      rfl

end Loops

section RoundTrip

variable {O S W L : Type} {s s' : Store O S W L} {handle : UInt32} {bytes : List UInt8}

theorem bufferNewSized_of_ok {tryReserve : Nat → Bool} {length : Nat}
    (h : Store.bufferNewSized tryReserve length s = (.ok handle, s')) :
    Store.insertBuffer (List.replicate length 0) s = (.ok handle, s') := by
  unfold Store.bufferNewSized at h
  split_ifs at h with hlimit hreserve
  · cases h
  · cases hinsert : Store.insertBuffer (List.replicate length 0) s with
    | mk result t =>
      rw [hinsert] at h
      cases result with
      | error e => cases h
      | ok created =>
        cases h
        rfl
  · cases h

/-- The buffer that `putBytes` returns holds the bytes that were put. -/
theorem putBytes_eq_ok {host : Host} {context : Context} (hs : s.arena.Valid)
    (h : putBytes host bytes context s = (.ok handle, s')) :
    bytes.length ≤ maxBufferLength ∧ Arena.Added s.arena s'.arena handle (.buffer bytes) := by
  obtain ⟨_, cleared, hclear, h⟩ := Call.bind_eq_ok.mp h
  cases hclear
  obtain ⟨created, t, hnew, h⟩ := Call.bind_eq_ok.mp h
  obtain ⟨_, t', hwrite, hreturn⟩ := Call.bind_eq_ok.mp (Call.onError_eq_ok.mp h)
  cases hreturn
  obtain ⟨hlimit, -, hinsert⟩ := insertBuffer_of_ok (bufferNewSized_of_ok (expect_eq_ok.mp hnew))
  rw [List.length_replicate] at hlimit
  have hadded := Arena.added_of_insert hs hinsert
  have hzero : t.arena.get? handle = some (.buffer (filled bytes 0)) := by
    rw [filled_zero]
    exact hadded.published
  obtain ⟨u, hloop, hvalid, -, hget, hothers⟩ :=
    writeWindows_spec host context hadded.valid hzero hlimit
      (show windowCount (bytes.length - 0) = windowCount bytes.length from rfl)
  rw [hwrite] at hloop
  cases hloop
  refine ⟨hlimit, hvalid, hadded.fresh, hget, ?_⟩
  intro k hk
  rw [hothers k hk, hadded.others k hk]

/-- A buffer that `putBytes` returned is taken with the bytes that were put. -/
theorem takeBuffer_putBytes {host : Host} {context : Context} (hs : s.arena.Valid)
    (h : putBytes host bytes context s = (.ok handle, s')) :
    ∃ t, takeBuffer host handle s' = (.ok bytes, t) ∧ ∀ k, t.arena.get? k = s.arena.get? k := by
  obtain ⟨hlimit, hadded⟩ := putBytes_eq_ok hs h
  obtain ⟨t, htake, herased, -⟩ := takeBuffer_spec host hadded.valid hadded.published hlimit
  refine ⟨t, htake, ?_⟩
  intro k
  by_cases hk : k = handle
  · subst hk
    rw [herased.source, hadded.fresh]
  · rw [herased.others k hk, hadded.others k hk]

/-- Bytes of up to 64 MiB are put and taken unchanged, window by window. -/
theorem windowed_transfer (host : Host) (context : Context) (hs : s.arena.Valid)
    (hlimit : bytes.length ≤ maxBufferLength) :
    (s.arena.canInsert = true → s.tornDown = false → host.tryReserve bytes.length = true →
      ∃ handle s', putBytes host bytes context s = (.ok handle, s')) ∧
    (∀ handle s', putBytes host bytes context s = (.ok handle, s') →
      ∃ t, takeBuffer host handle s' = (.ok bytes, t) ∧
        ∀ k, t.arena.get? k = s.arena.get? k) ∧
    -- both loops ask for the windows of the list, and what is read is put where it was
    (∀ handle, writeWindows (O := O) (S := S) (W := W) (L := L) host handle bytes context
        (windowCount bytes.length) 0 =
      (windowsFrom bytes.length (windowCount bytes.length) 0).foldr
        (fun w rest => do
          writePart host handle context bytes w
          rest)
        (pure ())) ∧
    (∀ (report : Context → String → FacadeCall O S W L (ErrorOutcome JsString)) (handle : UInt32),
      readWindows report handle bytes.length (windowCount bytes.length) 0 =
        (windowsFrom bytes.length (windowCount bytes.length) 0).foldr
          (fun w rest => do
            let part ← readWindow report handle w
            let rest ← rest
            pure (part ++ rest))
          (pure []) ∧
      setWindows report handle bytes.length (windowCount bytes.length) 0
          (List.replicate bytes.length 0) =
        readWindows report handle bytes.length (windowCount bytes.length) 0) ∧
    -- the windows of the list are accepted and cover the buffer
    (∀ w ∈ windowsFrom bytes.length (windowCount bytes.length) 0,
      w.offset < UInt32.size ∧ w.length < UInt32.size ∧
        Store.checkedBufferWindow bytes.length w.offset w.length = .ok ()) ∧
    (windowsFrom bytes.length (windowCount bytes.length) 0).flatMap Window.positions =
      List.range bytes.length ∧
    -- what else is accepted
    (∀ bufferLength, bufferLength < UInt32.size → ∀ offset length : UInt32,
      (Store.checkedBufferWindow bufferLength offset.toNat length.toNat = .ok () ↔
        0 < length.toNat ∧ length.toNat ≤ maxTransferChunk ∧
          offset.toNat + length.toNat ≤ bufferLength) ∧
      (Store.checkedBufferWindow bufferLength offset.toNat length.toNat = .ok () →
        (offset + length).toNat = offset.toNat + length.toNat)) := by
  refine ⟨?_, fun _ _ => takeBuffer_putBytes hs, fun _ => writeWindows_eq _ _ _ _ _ _, ?_, ?_, ?_,
    fun _ hbuffer offset length =>
      ⟨checkedBufferWindow_eq_ok hbuffer offset length, toNat_window_end hbuffer⟩⟩
  · intro hroom hlive hreserve
    obtain ⟨handle, s', hput, -⟩ := putBytes_spec host context hs hroom hlive hlimit hreserve
    exact ⟨handle, s', hput⟩
  · intro report handle
    refine ⟨readWindows_eq report handle _ _ _, ?_⟩
    funext t
    exact setWindows_zero
  · intro w hw
    have hcount : windowCount (bytes.length - 0) = windowCount bytes.length := rfl
    obtain ⟨hpos, hchunk, hend⟩ := mem_windowsFrom hcount hw
    have hsize : maxBufferLength < UInt32.size := by decide
    exact ⟨by omega, by omega, checkedBufferWindow_ok hlimit hpos hchunk hend⟩
  · rw [List.range_eq_range']
    exact cover_windowsFrom rfl

/-- Three bytes on a fresh bridge. -/
theorem windowed_transfer_fresh :
    ∃ handle s' t,
      putBytes (O := Unit) (S := Unit) (W := Unit) (L := Unit) ⟨fun _ => true, 1⟩ [1, 2, 3]
        checkContext {} = (.ok handle, s') ∧
      takeBuffer ⟨fun _ => true, 1⟩ handle s' = (.ok [1, 2, 3], t) := by
  obtain ⟨hput, htake, -⟩ := windowed_transfer (O := Unit) (S := Unit) (W := Unit) (L := Unit)
    ⟨fun _ => true, 1⟩ checkContext (s := {}) Arena.valid_empty (show [1, 2, 3].length ≤ _ by decide)
  obtain ⟨handle, s', h⟩ := hput rfl rfl rfl
  obtain ⟨t, ht, -⟩ := htake handle s' h
  exact ⟨handle, s', t, h, ht⟩

end RoundTrip

end OpendalMbt.Browser
