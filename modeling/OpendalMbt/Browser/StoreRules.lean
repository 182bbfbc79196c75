import OpendalMbt.Browser.Completion
import OpendalMbt.Browser.TextFidelity
import OpendalMbt.Transition.Loop

/-!
# What the facade leaves of a store

The helpers of `class BridgeFacade` in `wasm/browser-runtime/index.mjs` by what they do to the
handles of the store, whichever way they end. `Names` lists what the handles of a valid store
name; a helper either puts every handle back or gives up the one that it was called with.

* `steady_takeLastError`: reporting the last error leaves no handle behind;
* `triple_takeBuffer`, `triple_takeError`: a buffer and an error are spent;
* `triple_listEntries`: so is a list, however far the loop over its entries comes.
-/

namespace OpendalMbt.Browser

open Codec Bridge Transition Function FacadeCall

variable {O S W L : Type}

/-- What the handles of a store name. -/
abbrev Naming (O S W L : Type) : Type := UInt32 → Option (OwnedResource O S W L)

/-- A valid store with handles that name what `names` says. -/
structure Names (names : Naming O S W L) (s : Store O S W L) : Prop where
  valid : s.Valid
  get? : ∀ k, s.arena.get? k = names k

variable {names : Naming O S W L} {s : Store O S W L} {handle code : UInt32}

namespace Names

theorem of_valid (hs : s.Valid) : Names s.arena.get? s := ⟨hs, fun _ => rfl⟩

theorem withError (h : Names names s) (lastError : Option BridgeError) :
    Names names { s with lastError } where
  valid := h.valid.update h.valid.arena (fun _ => rfl)
  get? := h.get?

theorem running (h : Names names s) {r : OwnedResource O S W L} (hr : names handle = some r) :
    s.tornDown = false :=
  h.valid.running ((h.get? handle).trans hr)

/-- An arena that took the place of that of a running store. -/
theorem arena (h : Names names s) (hrunning : s.tornDown = false) {names' : Naming O S W L}
    {arena : Arena (OwnedResource O S W L)} (harena : arena.Valid)
    (hget : ∀ k, arena.get? k = names' k) (lastError : Option BridgeError) :
    Names names' { s with arena, lastError } where
  valid := h.valid.update harena (fun htorn => by simp [hrunning] at htorn)
  get? := hget

theorem erased (h : Names names s) {r : OwnedResource O S W L} (hr : names handle = some r)
    {arena : Arena (OwnedResource O S W L)} (herased : Arena.Erased s.arena arena handle)
    (lastError : Option BridgeError) :
    Names (update names handle none) { s with arena, lastError } := by
  refine h.arena (h.running hr) herased.valid ?_ lastError
  intro k
  by_cases hk : k = handle
  · rw [hk, herased.source, update_self]
  · rw [herased.others k hk, h.get?, update_of_ne hk]

theorem added (h : Names names s) (hrunning : s.tornDown = false) {r : OwnedResource O S W L}
    {arena : Arena (OwnedResource O S W L)} (hadded : Arena.Added s.arena arena code r)
    (lastError : Option BridgeError) :
    names code = none ∧ Names (update names code (some r)) { s with arena, lastError } := by
  refine ⟨(h.get? code).symm.trans hadded.fresh, h.arena hrunning hadded.valid ?_ lastError⟩
  intro k
  by_cases hk : k = code
  · rw [hk, hadded.published, update_self]
  · rw [hadded.others k hk, h.get?, update_of_ne hk]

/-- What a handle named was replaced, and `out` got a handle of its own. -/
theorem replaced (h : Names names s) {r out : OwnedResource O S W L}
    {left : Option (OwnedResource O S W L)} (hr : names handle = some r)
    {arena : Arena (OwnedResource O S W L)}
    (hreplaced : Arena.Replaced s.arena arena handle code left out)
    (lastError : Option BridgeError) :
    names code = none ∧ code ≠ handle ∧
      Names (update (update names handle left) code (some out)) { s with arena, lastError } := by
  have hfresh : names code = none := by
    cases hcode : names code with
    | none => rfl
    | some named =>
      have hissued := h.valid.arena.issued_of_get? ((h.get? code).trans hcode)
      exact absurd hissued hreplaced.fresh
  have hne : code ≠ handle := by
    intro heq
    rw [heq, hr] at hfresh
    cases hfresh
  refine ⟨hfresh, hne, h.arena (h.running hr) hreplaced.valid ?_ lastError⟩
  intro k
  by_cases hcode : k = code
  · rw [hcode, hreplaced.published, update_self]
  · rw [update_of_ne hcode]
    by_cases hk : k = handle
    · rw [hk, hreplaced.source, update_self]
    · rw [hreplaced.others k hk hcode, h.get?, update_of_ne hk]

/-- The release of what a handle names. -/
theorem release (h : Names names s) {r : OwnedResource O S W L} {expected : ResourceKind}
    (hr : names handle = some r) (hkind : kind r = expected) :
    (Store.releaseResource handle expected s).1 = .ok () ∧
      Names (update names handle none) (Store.releaseResource handle expected s).2 := by
  obtain ⟨arena, htake⟩ := Arena.take_of_get? ((h.get? handle).trans hr) hkind
  have hrelease : Store.releaseResource handle expected s = (.ok (), { s with arena }) := by
    unfold Store.releaseResource Arena.release
    rw [htake]
    rfl
  rw [hrelease]
  exact ⟨rfl, h.erased hr (Arena.erased_of_take h.valid.arena htake) s.lastError⟩

end Names

/-- What `handle` named was replaced by `left`, and `payload` got the new handle `code`. -/
structure Swapped (names : Naming O S W L) (handle : UInt32) (left : Option (OwnedResource O S W L))
    (payload : OwnedResource O S W L) (code : UInt32) (s : Store O S W L) : Prop where
  nonzero : code ≠ 0
  fresh : names code = none
  other : code ≠ handle
  names : Names (update (update names handle left) code (some payload)) s

/-- A transfer of something other than the end of a stream. -/
theorem transfer_cases (t : Transfer) (tryReserve : Nat → Bool) (hs : Names names s)
    {r : OwnedResource O S W L} (hr : names handle = some r)
    (hend : t.moves tryReserve r ≠ some (none, none)) :
    (∃ e, t.run tryReserve handle s = (some 0, { s with lastError := some e })) ∨
      ∃ code s' left payload, t.run tryReserve handle s = (some code, s') ∧
        t.moves tryReserve r = some (left, some payload) ∧
        Swapped names handle left payload code s' := by
  have hatomic : Atomic (t.moves tryReserve) s handle (t.run tryReserve handle s) :=
    Transfer.run_atomic hs.valid t
  rcases hatomic with ⟨e, hfailed⟩ | ⟨r', left, payload, code, arena, hr', hmoves, hout, hreplaced⟩ |
      ⟨r', arena, hr', hmoves, -, -⟩
  · exact Or.inl ⟨e, hfailed⟩
  · rw [hs.get?, hr] at hr'
    cases hr'
    obtain ⟨hfresh, hne, hnames⟩ := hs.replaced hr hreplaced s.lastError
    exact Or.inr ⟨code, _, left, payload, hout, hmoves, hreplaced.nonzero, hfresh, hne, hnames⟩
  · rw [hs.get?, hr] at hr'
    cases hr'
    exact absurd hmoves hend

/-- A handle that came and went. -/
theorem update_update_none (hnone : names code = none) (r : Option (OwnedResource O S W L)) :
    update (update names code r) code none = names := by
  rw [update_idem, ← hnone, update_eq_self]

/-! ## Queries -/

variable {α : Type} {E : Failure → Store O S W L → Prop}

/-- The handles are what they were, whichever way the call ends. -/
abbrev Steady (names : Naming O S W L) (x : FacadeCall O S W L α) : Prop :=
  Call.Triple (Names names) x (fun _ => Names names) fun _ => Names names

theorem triple_clearLastError :
    Call.Triple (Names names) clearLastError (fun _ => Names names) E :=
  Call.Triple.modify fun _ hs => hs.withError none

theorem triple_lastErrorTake :
    Call.Triple (Names names) lastErrorTake
      (fun code s => code = 0 ∧ Names names s ∨
        code ≠ 0 ∧ ∃ error, names code = none ∧
          Names (update names code (some (.error error))) s) E := by
  intro s hs
  unfold lastErrorTake Store.lastErrorTake
  by_cases htorn : s.tornDown = true
  · rw [if_pos htorn]
    exact Or.inl ⟨rfl, hs.withError none⟩
  rw [if_neg htorn]
  cases hlast : s.lastError with
  | none => exact Or.inl ⟨rfl, hs⟩
  | some error =>
    simp only
    cases hinsert : s.arena.insert (.error error) with
    | mk result arena =>
      cases result with
      | error e =>
        obtain ⟨rfl, -⟩ := Arena.insert_error hinsert
        exact Or.inl ⟨rfl, hs.withError (some e)⟩
      | ok code =>
        have hadded := Arena.added_of_insert hs.valid.arena hinsert
        obtain ⟨hfresh, hnames⟩ := hs.added (Bool.eq_false_iff.mpr htorn) hadded none
        exact Or.inr ⟨Arena.handle_ne_zero hadded.published, error, hfresh, hnames⟩

/-! ## Buffers and errors -/

section Buffers

variable {bytes : List UInt8}
variable (report : Context → String → FacadeCall O S W L (ErrorOutcome JsString))

/-- A buffer is copied to its end and released. -/
theorem takeBufferWith_spec (hs : Names names s) (hbuffer : names handle = some (.buffer bytes))
    (hlimit : bytes.length ≤ maxBufferLength) :
    ∃ s', takeBufferWith report handle s = (.ok bytes, s') ∧
      Names (update names handle none) s' := by
  have hget := (hs.get? handle).trans hbuffer
  obtain ⟨t, hread, harena, htorn⟩ :=
    readWindows_spec (s := s.lastErrorClear) report hget hlimit 0 rfl
  have ht : Names names t := by
    refine ⟨⟨by rw [harena]; exact hs.valid.arena, ?_⟩, ?_⟩
    · intro h
      rw [harena]
      exact hs.valid.torn (htorn.symm.trans h)
    · intro k
      rw [harena]
      exact hs.get? k
  refine ⟨(Store.bufferRelease handle t).2, ?_, (ht.release hbuffer rfl).2⟩
  apply Call.tryFinally_eq_ok.mpr
  refine ⟨t, ?_, rfl⟩
  apply Call.bind_eq_ok.mpr
  refine ⟨(), s.lastErrorClear, rfl, ?_⟩
  apply Call.bind_eq_ok.mpr
  refine ⟨bytes.length, s.lastErrorClear,
    expectValue_eq_ok.mpr (bufferLen_spec (s := s.lastErrorClear) hget hlimit), ?_⟩
  have hmax : ¬ bytes.length > maxBufferBytes := Nat.not_lt.mpr hlimit
  rw [if_neg hmax]
  simpa using hread

theorem triple_takeBufferWith (hbuffer : names handle = some (.buffer bytes))
    (hlimit : bytes.length ≤ maxBufferLength) :
    Call.Triple (Names names) (takeBufferWith report handle)
      (fun taken s => taken = bytes ∧ Names (update names handle none) s) E := by
  intro s hs
  obtain ⟨s', htake, hs'⟩ := takeBufferWith_spec report hs hbuffer hlimit
  rw [htake]
  exact ⟨rfl, hs'⟩

theorem length_errorSnapshot_le {tryReserve : Nat → Bool} {error : BridgeError}
    (h : errorSnapshotBytes tryReserve error = .ok bytes) : bytes.length ≤ maxBufferLength := by
  obtain ⟨hlimit, hbytes⟩ := errorSnapshotBytes_eq_ok h
  have hheader : (errorSnapshotMagic ++ encodeFields (errorSnapshotFields error)).length = 24 := by
    simp [errorSnapshotMagic, errorSnapshotFields]
  have hlength : bytes.length =
      24 + error.kindName.utf8ByteSize + error.diagnosticMessage.utf8ByteSize := by
    rw [hbytes, ← List.append_assoc, List.length_append, hheader, List.length_append,
      length_utf8Bytes, length_utf8Bytes, ← Nat.add_assoc]
  rw [hlength]
  exact hlimit

theorem snapshotOf_ne_end (result : Except BridgeError (List UInt8)) :
    (Transfer.snapshotOf result : Option (Option (OwnedResource O S W L) × _)) ≠
      some (none, none) := by
  cases result with
  | error e => exact fun h => by cases h
  | ok bytes => exact fun h => by cases h

/-- The exchange of an error for its snapshot. -/
theorem errorSnapshotTake_cases (tryReserve : Nat → Bool) {error : BridgeError}
    (hs : Names names s) (herror : names handle = some (.error error)) :
    (∃ e, Store.errorSnapshotTake handle s tryReserve = (some 0, { s with lastError := some e })) ∨
      ∃ code bytes s', Store.errorSnapshotTake handle s tryReserve = (some code, s') ∧
        errorSnapshotBytes tryReserve error = .ok bytes ∧
        Swapped names handle none (.buffer bytes) code s' := by
  rcases transfer_cases .errorSnapshotTake tryReserve hs herror (snapshotOf_ne_end _) with
    hfailed | ⟨code, s', left, payload, hout, hmoves, hswapped⟩
  · exact Or.inl hfailed
  · simp only [Transfer.moves] at hmoves
    cases hbytes : errorSnapshotBytes tryReserve error with
    | error e =>
      rw [hbytes] at hmoves
      cases hmoves
    | ok bytes =>
      rw [hbytes] at hmoves
      cases hmoves
      exact Or.inr ⟨code, bytes, s', hout, rfl, hswapped⟩

theorem steady_takeLastErrorWithoutSnapshot :
    Steady (O := O) (S := S) (W := W) (L := L) names takeLastErrorWithoutSnapshot := by
  apply triple_lastErrorTake.bind
  intro code
  split
  · rename_i hzero
    apply Call.Triple.pure
    intro s hs
    rcases hs with ⟨-, hs⟩ | ⟨hne, -⟩
    · exact hs
    · exact absurd hzero hne
  · rename_i hne
    have hrelease : Call.Triple
        (fun s => code = 0 ∧ Names names s ∨ code ≠ 0 ∧ ∃ error, names code = none ∧
          Names (update names code (some (.error error))) s)
        (Call.modify fun s => (Store.errorRelease code s).2 : FacadeCall O S W L Unit)
        (fun _ => Names names) fun _ => Names names := by
      apply Call.Triple.modify
      intro s hs
      rcases hs with ⟨hzero, -⟩ | ⟨-, error, hnone, hs⟩
      · exact absurd hzero hne
      · rw [← update_update_none hnone (some (.error error))]
        exact (hs.release (update_self ..) rfl).2
    exact hrelease.bind fun _ => Call.Triple.pure fun _ hs => hs

theorem steady_decodedError (bytes : List UInt8) (context : Context) :
    Steady (O := O) (S := S) (W := W) (L := L) names (decodedError bytes context) := by
  intro s hs
  unfold decodedError
  cases decodeErrorSnapshot textDecode bytes context <;> exact hs

/-- An error is read into its outcome, or given up; its handle is spent both times. -/
theorem triple_takeErrorWith (tryReserve : Nat → Bool) (context : Context) {error : BridgeError}
    (herror : names handle = some (.error error)) :
    Call.Triple (Names names) (takeErrorWith report tryReserve handle context)
      (fun outcome s => outcome = errorOutcome decodedText error context ∧
        Names (update names handle none) s)
      (fun _ => Names (update names handle none)) := by
  apply triple_clearLastError.bind
  intro _
  apply Call.Triple.bind (Q := fun code s => code = 0 ∧ Names names s ∨
    ∃ bytes, errorSnapshotBytes tryReserve error = .ok bytes ∧
      Swapped names handle none (.buffer bytes) code s)
  · intro s hs
    rcases errorSnapshotTake_cases tryReserve hs herror with
      ⟨e, hfailed⟩ | ⟨code, bytes, s', hmoved, hbytes, hswapped⟩
    · simp only [hfailed]
      exact Or.inl ⟨trivial, hs.withError (some e)⟩
    · simp only [hmoved]
      exact Or.inr ⟨bytes, hbytes, hswapped⟩
  intro code
  split
  · rename_i hzero
    have hdetail : Call.Triple
        (fun s => code = 0 ∧ Names names s ∨ ∃ bytes, errorSnapshotBytes tryReserve error = .ok bytes ∧
          Swapped names handle none (.buffer bytes) code s)
        (do
          let detail ← takeLastErrorWithoutSnapshot
          fail s!"could not materialize ODE1 error snapshot: {detail}" :
            FacadeCall O S W L (ErrorOutcome JsString))
        (fun _ _ => False) (fun _ => Names names) := by
      apply Call.Triple.of_imp (P := Names names) _ _ fun _ _ h => h
      · intro s hs
        rcases hs with ⟨-, hs⟩ | ⟨bytes, -, hswapped⟩
        · exact hs
        · exact absurd hzero hswapped.nonzero
      · apply steady_takeLastErrorWithoutSnapshot.bind
        intro detail
        exact Call.Triple.throw fun _ hs => hs
    exact hdetail.tryFinally (fun _ _ h => h.elim) fun _ _ hs => (hs.release herror rfl).2
  · rename_i hne
    intro s hs
    rcases hs with ⟨hzero, -⟩ | ⟨bytes, hbytes, hswapped⟩
    · exact absurd hzero hne
    have hcode : update names handle none code = none := by
      rw [update_of_ne hswapped.other, hswapped.fresh]
    have htake := triple_takeBufferWith (E := fun _ => Names (update names handle none)) report
      (update_self code (some (.buffer bytes)) (update names handle none))
      (length_errorSnapshot_le hbytes)
    refine htake.bind (R := fun outcome s => outcome = errorOutcome decodedText error context ∧
      Names (update names handle none) s) ?_ s hswapped.names
    intro taken t ht
    obtain ⟨rfl, ht⟩ := ht
    rw [update_update_none hcode] at ht
    unfold decodedError
    rw [decodeErrorSnapshot_encode textDecode_utf8Bytes hbytes]
    exact ⟨rfl, ht⟩

/-- Reporting the last error leaves no handle behind, however deep the calls may nest. -/
theorem steady_takeLastErrorAt (tryReserve : Nat → Bool) (depth : Nat) (context : Context)
    (fallbackMessage : String) :
    Steady (O := O) (S := S) (W := W) (L := L) names
      (takeLastErrorAt tryReserve depth context fallbackMessage) := by
  cases depth with
  | zero => exact Call.Triple.throw fun _ hs => hs
  | succ depth =>
    apply triple_lastErrorTake.bind
    intro code s hs
    rcases hs with ⟨hzero, hs⟩ | ⟨hne, error, hnone, hs⟩
    · rw [if_pos hzero]
      exact hs
    · rw [if_neg hne]
      have htake := triple_takeErrorWith (takeLastErrorAt tryReserve depth) tryReserve context
        (update_self code (some (.error error)) names)
      rw [update_update_none hnone] at htake
      exact htake.of_imp (fun _ h => h) (fun _ _ h => h.2) s hs

end Buffers

/-! ## Results of the bridge -/

section Results

variable {host : Host} {context : Context} {fallbackMessage : String}
variable {Q : α → Store O S W L → Prop}

theorem steady_takeLastError :
    Steady (O := O) (S := S) (W := W) (L := L) names
      (takeLastError host context fallbackMessage) :=
  steady_takeLastErrorAt host.tryReserve host.depth context fallbackMessage

/-- What a function of the bridge leaves; when it fails the handles are as before. -/
def Leaves (names : Naming O S W L) (Q : α → Store O S W L → Prop) :
    Except BridgeError α × Store O S W L → Prop
  | (.ok value, t) => Q value t
  | (.error _, t) => Names names t

theorem triple_expect {f : Store O S W L → Except BridgeError α × Store O S W L}
    (hf : ∀ s, Names names s → Leaves names Q (f s)) :
    Call.Triple (Names names) (expect host f context fallbackMessage) Q
      fun _ => Names names := by
  intro s hs
  have hran := hf s hs
  unfold expect expectValue
  cases hfs : f s with
  | mk result t =>
    rw [hfs] at hran
    cases result with
    | ok value => exact hran
    | error e =>
      exact (steady_takeLastError.bind fun error => Call.Triple.throw fun _ ht => ht) t hran

theorem triple_expectMoved {f : Store O S W L → Option UInt32 × Store O S W L}
    {Q : UInt32 → Store O S W L → Prop}
    (hf : ∀ s, Names names s →
      (∃ e, f s = (some 0, { s with lastError := some e })) ∨
        ∃ code t, f s = (some code, t) ∧ code ≠ 0 ∧ Q code t) :
    Call.Triple (Names names) (expectMoved (takeLastError host) f context fallbackMessage) Q
      fun _ => Names names := by
  intro s hs
  unfold expectMoved
  rcases hf s hs with ⟨e, hfailed⟩ | ⟨code, t, hmoved, hne, hQ⟩
  · rw [hfailed]
    exact (steady_takeLastError.bind fun error => Call.Triple.throw fun _ ht => ht) _
      (hs.withError (some e))
  · rw [hmoved]
    simp only [if_neg hne]
    exact hQ

theorem triple_takeInto {f : Store O S W L → Option UInt32 × Store O S W L}
    {Q : UInt32 → Store O S W L → Prop}
    (hf : ∀ s, Names names s →
      (∃ e, f s = (some 0, { s with lastError := some e })) ∨
        ∃ code t, f s = (some code, t) ∧ code ≠ 0 ∧ Q code t) :
    Call.Triple (Names names) (takeInto host context f fallbackMessage) Q fun _ => Names names :=
  triple_clearLastError.bind fun _ => triple_expectMoved hf

theorem triple_expectRelease {r : OwnedResource O S W L} {expected : ResourceKind}
    (hr : names handle = some r) (hkind : kind r = expected) :
    Call.Triple (Names names)
      (expect host (Store.releaseResource handle expected) context fallbackMessage)
      (fun _ => Names (update names handle none)) fun _ => Names names := by
  apply triple_expect
  intro s hs
  obtain ⟨hok, hs'⟩ := hs.release hr hkind
  cases hrelease : Store.releaseResource handle expected s with
  | mk result t =>
    rw [hrelease] at hok hs'
    cases hok
    exact hs'

end Results

/-! ## Texts and lists -/

section Lists

variable {host : Host} {context : Context} {fallback : String} {bytes : List UInt8}

/-- There is one handle more, which names `bytes`. -/
def Bears (names : Naming O S W L) (bytes : List UInt8) (code : UInt32) (s : Store O S W L) :
    Prop :=
  bytes.length ≤ maxBufferLength ∧ names code = none ∧
    Names (update names code (some (.buffer bytes))) s

/-- There is one handle more, which names a buffer. -/
def Buffered (names : Naming O S W L) (code : UInt32) (s : Store O S W L) : Prop :=
  ∃ bytes : List UInt8, Bears names bytes code s

theorem leaves_recorded {out : Except BridgeError UInt32 × Store O S W L}
    (h : Leaves names (Bears names bytes) out) :
    Leaves names (Bears names bytes) (Store.recorded out) := by
  obtain ⟨result, t⟩ := out
  cases result with
  | error e => exact Names.withError h (some e)
  | ok code => exact h

theorem leaves_insertBuffer (bytes : List UInt8) (hs : Names names s) :
    Leaves names (Bears names bytes) (Store.insertBuffer bytes s) := by
  unfold Store.insertBuffer Store.insertResource
  by_cases hlimit : maxBufferLength < bytes.length
  · rw [if_pos hlimit]
    exact hs
  rw [if_neg hlimit]
  by_cases htorn : s.tornDown = true
  · rw [if_pos htorn]
    exact hs
  rw [if_neg htorn]
  cases hinsert : s.arena.insert (.buffer bytes) with
  | mk result arena =>
    cases result with
    | error e =>
      obtain ⟨rfl, -⟩ := Arena.insert_error hinsert
      exact hs
    | ok code =>
      obtain ⟨hfresh, hnames⟩ := hs.added (Bool.eq_false_iff.mpr htorn)
        (Arena.added_of_insert hs.valid.arena hinsert) s.lastError
      exact ⟨Nat.not_lt.mp hlimit, hfresh, hnames⟩

theorem leaves_bufferNewSized (tryReserve : Nat → Bool) (length : Nat) (hs : Names names s) :
    Leaves names (Bears names (List.replicate length 0))
      (Store.bufferNewSized tryReserve length s) := by
  unfold Store.bufferNewSized
  apply leaves_recorded
  split
  · exact hs
  split
  · exact leaves_insertBuffer _ hs
  · exact hs

variable (host) in
theorem steady_takeText (hbuffer : names handle = some (.buffer bytes))
    (hlimit : bytes.length ≤ maxBufferLength) :
    Call.Triple (Names names) (takeText host handle) (fun _ => Names (update names handle none))
      fun _ => Names (update names handle none) := by
  intro s hs
  obtain ⟨s', htake, hs'⟩ := takeBufferWith_spec (takeLastError host) hs hbuffer hlimit
  unfold takeText takeBuffer
  simp only [htake]
  cases textDecode bytes <;> exact hs'

theorem steady_takeInfoText {f : Store O S W L → Except BridgeError UInt32 × Store O S W L}
    (hf : ∀ s, Names names s → Leaves names (Buffered names) (f s)) :
    Steady names (takeInfoText host context f fallback) := by
  apply triple_clearLastError.bind
  intro _
  apply (triple_expect hf).bind
  intro code s hs
  obtain ⟨bytes, hlimit, hnone, hs⟩ := hs
  have htake := steady_takeText host (update_self code (some (.buffer bytes)) names) hlimit
  rw [update_update_none hnone] at htake
  exact htake s hs

variable (host) in
theorem triple_takeMetadata (hbuffer : names handle = some (.buffer bytes))
    (hlimit : bytes.length ≤ maxBufferLength) :
    Call.Triple (Names names) (takeMetadata host handle)
      (fun _ => Names (update names handle none)) fun _ => Names (update names handle none) := by
  apply (triple_takeBufferWith (takeLastError host) hbuffer hlimit).bind
  intro taken s hs
  cases decodeMetadataSnapshot textDecode taken <;> exact hs.2

theorem leaves_entryListText {entries : List EntrySnapshot} (tryReserve : Nat → Bool)
    (index : UInt32) (path : Bool) (hentries : names handle = some (.entryList entries))
    (hs : Names names s) :
    Leaves names (Buffered names) (Store.entryListText handle tryReserve index path s) := by
  have hget := (hs.get? handle).trans hentries
  unfold Store.entryListText
  rw [Arena.entryList_eq_ok.mpr hget]
  simp only
  cases hentry : entries[index.toNat]? with
  | none => exact hs.withError _
  | some entry =>
    simp only
    cases howned : Store.tryOwnedBytes tryReserve
        (utf8Bytes (if path then entry.path else entry.name)) with
    | error e => exact hs.withError _
    | ok bytes =>
      simp only
      have hleaves := leaves_recorded (leaves_insertBuffer bytes hs)
      cases hran : Store.recorded (Store.insertBuffer bytes s) with
      | mk result t =>
        rw [hran] at hleaves
        cases result with
        | error e => exact hleaves
        | ok code => exact ⟨bytes, hleaves⟩

/-- The list is still there, whatever the loop has taken out of its entries. -/
def Listed (names : Naming O S W L) (handle : UInt32) (s : Store O S W L) : Prop :=
  ∃ entries : List EntrySnapshot,
    (∀ entry ∈ entries, entry.metadataSnapshot.length ≤ maxBufferLength) ∧
      Names (update names handle (some (.entryList entries))) s

theorem entryListMetadataSnapshot_cases {entries : List EntrySnapshot} (index : UInt32)
    (hfits : ∀ entry ∈ entries, entry.metadataSnapshot.length ≤ maxBufferLength)
    (hs : Names (update names handle (some (.entryList entries))) s) :
    (∃ e, Store.entryListMetadataSnapshot handle s index =
        (some 0, { s with lastError := some e })) ∨
      ∃ code t, Store.entryListMetadataSnapshot handle s index = (some code, t) ∧ code ≠ 0 ∧
        ∃ rest : List EntrySnapshot,
          (∀ entry ∈ rest, entry.metadataSnapshot.length ≤ maxBufferLength) ∧
            Buffered (update names handle (some (.entryList rest))) code t := by
  have hmoves : Transfer.moves (fun _ => true) (.entryListMetadataSnapshot index)
      (.entryList entries : OwnedResource O S W L) =
        (entries[index.toNat]?).map (fun entry =>
          (some (.entryList (entries.set index.toNat { entry with metadataSnapshot := [] })),
            some (.buffer entry.metadataSnapshot))) := rfl
  have hend : Transfer.moves (fun _ => true) (.entryListMetadataSnapshot index)
      (.entryList entries : OwnedResource O S W L) ≠ some (none, none) := by
    rw [hmoves]
    simp
  rcases transfer_cases _ _ hs (update_self ..) hend with
    hfailed | ⟨code, t, left, payload, hout, hmoved, hswapped⟩
  · exact Or.inl hfailed
  · rw [hmoves] at hmoved
    obtain ⟨entry, hentry, hmoved⟩ := Option.map_eq_some_iff.mp hmoved
    obtain ⟨rfl, hpayload⟩ := Prod.mk.inj hmoved
    cases hpayload
    have hfresh := hswapped.fresh
    have hnames := hswapped.names
    rw [update_of_ne hswapped.other] at hfresh
    rw [update_idem] at hnames
    refine Or.inr ⟨code, t, hout, hswapped.nonzero, _, ?_, entry.metadataSnapshot,
      hfits entry (List.mem_of_getElem? hentry), by rw [update_of_ne hswapped.other, hfresh],
      hnames⟩
    intro other hother
    rcases List.mem_or_eq_of_mem_set hother with hother | rfl
    · exact hfits other hother
    · simp

theorem triple_takeEntry (index : UInt32) :
    Call.Triple (Listed names handle) (takeEntry host handle context index)
      (fun _ => Listed names handle) fun _ => Listed names handle := by
  intro s hs
  obtain ⟨entries, hfits, hs⟩ := hs
  have hentries := update_self handle (some (.entryList entries)) names
  have hlisted : ∀ t, Names (update names handle (some (.entryList entries))) t →
      Listed names handle t := fun t ht => ⟨entries, hfits, ht⟩
  have htext : ∀ path fallback, Call.Triple (Names (update names handle (some (.entryList entries))))
      (takeInfoText host context (Store.entryListText handle host.tryReserve index path) fallback)
      (fun _ => Names (update names handle (some (.entryList entries))))
      fun _ => Listed names handle := fun path fallback =>
    (steady_takeInfoText fun t ht =>
      leaves_entryListText host.tryReserve index path hentries ht).of_imp_error fun _ => hlisted
  revert s
  apply (htext true _).bind
  intro path
  apply (htext false _).bind
  intro name
  apply triple_clearLastError.bind
  intro _
  apply Call.Triple.bind ((triple_expectMoved fun t ht =>
    entryListMetadataSnapshot_cases index hfits ht).of_imp_error fun _ => hlisted)
  intro code t ht
  obtain ⟨rest, hrest, bytes, hlimit, hnone, ht⟩ := ht
  have htake := triple_takeMetadata host
    (update_self code (some (.buffer bytes)) (update names handle (some (.entryList rest)))) hlimit
  rw [update_update_none hnone] at htake
  refine Call.Triple.bind (R := fun _ => Listed names handle) (htake.of_imp_error ?_) ?_ t ht
  · intro e u hu
    exact ⟨rest, hrest, hu⟩
  · intro metadata
    apply Call.Triple.pure
    intro u hu
    exact ⟨rest, hrest, hu⟩

theorem triple_takeEntries (left index : Nat) :
    Call.Triple (Listed names handle) (takeEntries host handle context left index)
      (fun _ => Listed names handle) fun _ => Listed names handle := by
  induction left generalizing index with
  | zero => exact Call.Triple.pure fun _ hs => hs
  | succ left ih =>
    apply (triple_takeEntry _).bind
    intro entry
    apply (ih (index + 1)).bind
    intro rest
    exact Call.Triple.pure fun _ hs => hs

variable (host) (context) in
/-- A list is released, however far the loop over its entries comes. -/
theorem triple_listEntries {entries : List EntrySnapshot}
    (hentries : names handle = some (.entryList entries))
    (hfits : ∀ entry ∈ entries, entry.metadataSnapshot.length ≤ maxBufferLength) :
    Call.Triple (Names names) (listEntries host handle context)
      (fun _ => Names (update names handle none)) fun _ => Names (update names handle none) := by
  have hself : update names handle (some (.entryList entries)) = names := by
    rw [← hentries, update_eq_self]
  have hloop : Call.Triple (Names names)
      (do
        clearLastError
        let length ← expect host (Store.entryListLen handle) context
          "could not query a list result length"
        takeEntries host handle context length 0 : FacadeCall O S W L (List EntryValue))
      (fun _ => Listed names handle) fun _ => Listed names handle := by
    have hlisted : ∀ t, Names names t → Listed names handle t := fun t ht =>
      ⟨entries, hfits, by rw [hself]; exact ht⟩
    apply triple_clearLastError.bind
    intro _
    apply Call.Triple.bind (Q := fun _ => Names names)
      ((triple_expect ?_).of_imp_error fun _ => hlisted)
    · intro length
      exact (triple_takeEntries length 0).of_imp hlisted fun _ _ h => h
    · intro t ht
      unfold Store.entryListLen
      rw [Arena.entryList_eq_ok.mpr ((ht.get? handle).trans hentries)]
      simp only
      split
      · exact ht.withError _
      · exact ht
  have hrelease : ∀ t, Listed names handle t →
      Names (update names handle none) (Store.entryListRelease handle t).2 := by
    intro t ht
    obtain ⟨rest, -, ht⟩ := ht
    have hreleased := (ht.release (update_self ..) rfl).2
    rw [update_idem] at hreleased
    exact hreleased
  exact hloop.tryFinally (fun _ => hrelease) fun _ => hrelease

end Lists

end OpendalMbt.Browser
