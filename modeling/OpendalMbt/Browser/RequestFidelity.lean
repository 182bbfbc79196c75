import OpendalMbt.Browser.Request
import OpendalMbt.Browser.StoreRules

/-!
# A request starts what was asked for

The start of a request of the browser runtime hands one future to the executor, and that future
has the operator, the texts, the bytes and the options of the request, character by character.
Of all the buffers in between none is left, and when the start fails nothing was started.

* `triple_view`, `triple_startTask`: a start of the bridge reads its inputs and makes one task;
* `putInputs_spec`, `names_releaseInputs`: the buffers come and go;
* `request_starts_its_future`: the whole start.
-/

namespace OpendalMbt.Browser

open Codec Bridge Transition Function FacadeCall

variable {O S W L : Type} {α : Type}

/-! ## Starts of the bridge -/

section Bridge

/-- A state with these handles, futures and canary. -/
structure At (names : Naming O S W L) (spawned : List (Spawned O S W L)) (forcePending : Bool)
    (s : BridgeState O S W L) : Prop where
  names : Names names s.toStore
  spawned : s.spawned = spawned
  forcePending : s.forcePendingForCanary = forcePending

/-- A task of `future` was added. -/
structure Started (names : Naming O S W L) (spawned : List (Spawned O S W L))
    (forcePending : Bool) (future : Future O S W L) (task : UInt32) (s : BridgeState O S W L) :
    Prop where
  nonzero : task ≠ 0
  fresh : names task = none
  state : At (update names task (some (.task (.pending none))))
    (spawned ++ [⟨task, none, future, forcePending⟩]) forcePending s

variable {names : Naming O S W L} {spawned : List (Spawned O S W L)} {forcePending : Bool}

theorem triple_view {f : BridgeState O S W L → Except BridgeError α} {value : α}
    (hf : ∀ s v, Names names s.toStore → f s = .ok v → v = value) :
    Call.Triple (At names spawned forcePending) (view f)
      (fun v s => v = value ∧ At names spawned forcePending s)
      fun _ => At names spawned forcePending := by
  intro s hs
  unfold view
  cases hv : f s with
  | error e => exact hs
  | ok v => exact ⟨hf s v hs.names hv, hs⟩

theorem triple_ofExcept {result : Except BridgeError α} {value : α}
    (hresult : ∀ v, result = .ok v → v = value) :
    Call.Triple (At names spawned forcePending) (Bridge.ofExcept result : BridgeCall O S W L α)
      (fun v s => v = value ∧ At names spawned forcePending s)
      fun _ => At names spawned forcePending := by
  intro s hs
  unfold Bridge.ofExcept
  cases result with
  | error e => exact hs
  | ok v => exact ⟨hresult v rfl, hs⟩

theorem triple_startTask (future : Future O S W L) :
    Call.Triple (At names spawned forcePending) (startTask future)
      (Started names spawned forcePending future) fun _ => At names spawned forcePending := by
  intro s hs
  unfold startTask
  cases hinsert : s.arena.insert (.task (.pending none)) with
  | mk result arena =>
    by_cases htorn : s.tornDown = true
    · have hstore : (Bridge.onStore (Store.insertResource (.task (.pending none))) :
          BridgeCall O S W L UInt32) s = (.error .tornDown, s) := by
        unfold Bridge.onStore Store.insertResource
        rw [if_pos htorn]
      rw [Call.bind_apply_error hstore]
      exact hs
    have hstore : (Bridge.onStore (Store.insertResource (.task (.pending none))) :
        BridgeCall O S W L UInt32) s =
          (result, { s with toStore := { s.toStore with arena } }) := by
      unfold Bridge.onStore Store.insertResource
      rw [if_neg htorn, hinsert]
    cases result with
    | error e =>
      obtain ⟨rfl, -⟩ := Arena.insert_error hinsert
      rw [Call.bind_apply_error hstore]
      exact hs
    | ok task =>
      have hadded := Arena.added_of_insert hs.names.valid.arena hinsert
      obtain ⟨hfresh, hnames⟩ :=
        hs.names.added (Bool.eq_false_iff.mpr htorn) hadded s.lastError
      rw [Call.bind_apply_ok hstore]
      refine ⟨Arena.handle_ne_zero hadded.published, hfresh, hnames, ?_, hs.forcePending⟩
      rw [← hs.spawned, ← hs.forcePending]

/-- A part that is known to answer `value`. -/
theorem triple_known {x : BridgeCall O S W L α} {β : Type} {f : α → BridgeCall O S W L β}
    {value : α} {P : BridgeState O S W L → Prop} {Q : β → BridgeState O S W L → Prop}
    {E : BridgeError → BridgeState O S W L → Prop}
    (hx : Call.Triple P x (fun v s => v = value ∧ P s) E) (hf : Call.Triple P (f value) Q E) :
    Call.Triple P (x >>= f) Q E := by
  apply hx.bind
  intro v s hs
  obtain ⟨rfl, hs⟩ := hs
  exact hf s hs

/-! ### Inputs -/

/-- The handle of an input: 0 for an absent text. -/
def Holds (names : Naming O S W L) (input : Option (List UInt8)) (handle : UInt32) : Prop :=
  match input with
  | none => handle = 0
  | some bytes => names handle = some (.buffer bytes)

variable {tryReserve : Nat → Bool} {handle operatorHandle : UInt32} {path : String} {operator : O}

theorem ownedUtf8Buffer_text {s : BridgeState O S W L} {v : String}
    (hpath : Holds names (Request.text path) handle) (hs : Names names s.toStore)
    (h : ownedUtf8Buffer tryReserve handle s = .ok v) : v = path := by
  have hget : s.arena.get? handle = some (.buffer (utf8Bytes path)) := by
    rw [hs.get?, ← textEncode_exactText]
    exact hpath
  unfold ownedUtf8Buffer at h
  rw [Arena.buffer_eq_ok.mpr hget] at h
  simp only [utf8Decode_utf8Bytes, tryOwnedString] at h
  split_ifs at h
  cases h
  rfl

theorem optionalOwnedUtf8Buffer_text {s : BridgeState O S W L} {v value : Option String}
    (htext : Holds names (Request.optionalText value) handle) (hs : Names names s.toStore)
    (h : optionalOwnedUtf8Buffer tryReserve handle s = .ok v) : v = value := by
  unfold optionalOwnedUtf8Buffer at h
  cases value with
  | none =>
    have hzero : handle = 0 := htext
    rw [if_pos hzero] at h
    cases h
    rfl
  | some text =>
    have hget := (hs.get? handle).trans htext
    rw [if_neg (Arena.handle_ne_zero hget)] at h
    cases howned : ownedUtf8Buffer tryReserve handle s with
    | error e =>
      rw [howned] at h
      cases h
    | ok read =>
      rw [howned] at h
      cases h
      rw [ownedUtf8Buffer_text htext hs howned]

theorem triple_optionalText {value : Option String}
    (htext : Holds names (Request.optionalText value) handle) :
    Call.Triple (At names spawned forcePending) (view (optionalOwnedUtf8Buffer tryReserve handle))
      (fun v s => v = value ∧ At names spawned forcePending s)
      fun _ => At names spawned forcePending :=
  triple_view fun _ _ hs h => optionalOwnedUtf8Buffer_text htext hs h

theorem triple_text {value : String} (htext : Holds names (Request.text value) handle) :
    Call.Triple (At names spawned forcePending) (view (ownedUtf8Buffer tryReserve handle))
      (fun v s => v = value ∧ At names spawned forcePending s)
      fun _ => At names spawned forcePending :=
  triple_view fun _ _ hs h => ownedUtf8Buffer_text htext hs h

theorem triple_pathAndOperator (hoperator : names operatorHandle = some (.operator operator))
    (hpath : Holds names (Request.text path) handle) :
    Call.Triple (At names spawned forcePending) (pathAndOperator tryReserve operatorHandle handle)
      (fun v s => v = (operator, path) ∧ At names spawned forcePending s)
      fun _ => At names spawned forcePending := by
  have hfound : Call.Triple (At names spawned forcePending) (view (·.arena.operator operatorHandle))
      (fun v s => v = operator ∧ At names spawned forcePending s)
      fun _ => At names spawned forcePending := by
    apply triple_view
    intro s v hs h
    rw [Arena.operator_eq_ok.mpr ((hs.get? operatorHandle).trans hoperator)] at h
    cases h
    rfl
  apply triple_known hfound
  apply triple_known (triple_text hpath)
  exact Call.Triple.pure fun _ hs => ⟨rfl, hs⟩

theorem triple_scalarBool (value : Bool) (name : String) :
    Call.Triple (At names spawned forcePending)
      (Bridge.ofExcept (scalarBool (Request.flag value) name) : BridgeCall O S W L Bool)
      (fun v s => v = value ∧ At names spawned forcePending s)
      fun _ => At names spawned forcePending := by
  apply triple_ofExcept
  intro v h
  cases value <;> cases h <;> rfl

/-- The texts of a request, whose handles stand in their order. -/
theorem holds_getD {inputs : List (Option (List UInt8))} {handles : List UInt32}
    (h : List.Forall₂ (Holds names) inputs handles) {i : Nat} {input : Option (List UInt8)}
    (hinput : inputs[i]? = some input) : Holds names input (handles.getD i 0) := by
  induction h generalizing i with
  | nil => cases hinput
  | cons hhead htail ih =>
    cases i with
    | zero =>
      cases hinput
      exact hhead
    | succ i => exact ih hinput

variable {handles : List UInt32}

theorem triple_writeOptions {options : Bridge.WriteOptions}
    (h : List.Forall₂ (Holds names) (Request.writeTexts options) handles) :
    Call.Triple (At names spawned forcePending)
      (writeOptionsFromScalars tryReserve (Request.writeScalars options.append handles))
      (fun v s => v = options ∧ At names spawned forcePending s)
      fun _ => At names spawned forcePending := by
  apply triple_known (triple_scalarBool _ _)
  apply triple_known (triple_optionalText (holds_getD h (i := 0) rfl))
  apply triple_known (triple_optionalText (holds_getD h (i := 1) rfl))
  apply triple_known (triple_optionalText (holds_getD h (i := 2) rfl))
  apply triple_known (triple_optionalText (holds_getD h (i := 3) rfl))
  apply triple_known (triple_optionalText (holds_getD h (i := 4) rfl))
  apply triple_known (triple_optionalText (holds_getD h (i := 5) rfl))
  exact Call.Triple.pure fun _ hs => ⟨rfl, hs⟩

theorem triple_statOptions {conditions : ReadConditions}
    (h : List.Forall₂ (Holds names) (Request.conditionTexts conditions) handles) :
    Call.Triple (At names spawned forcePending)
      (statOptionsFromScalars tryReserve (Request.readTexts handles))
      (fun v s => v = conditions ∧ At names spawned forcePending s)
      fun _ => At names spawned forcePending := by
  apply triple_known (triple_optionalText (holds_getD h (i := 0) rfl))
  apply triple_known (triple_optionalText (holds_getD h (i := 1) rfl))
  apply triple_known (triple_optionalText (holds_getD h (i := 2) rfl))
  exact Call.Triple.pure fun _ hs => ⟨rfl, hs⟩

theorem byteRange_meaning {range : ByteRange} {v : BytesRange}
    (h : byteRange BytesRange.api range.encode.kind range.encode.offset range.encode.length =
      .ok v) : v = range.meaning BytesRange.api := by
  obtain ⟨accepted, -, hencode, hv⟩ := byteRange_eq_ok.mp h
  rw [hv, ByteRange.encode_injective hencode]

theorem except_bind_eq_ok {ε β : Type} {x : Except ε α} {f : α → Except ε β} {b : β}
    (h : (x >>= f) = .ok b) : ∃ a, x = .ok a ∧ f a = .ok b := by
  cases x with
  | error e => cases h
  | ok a => exact ⟨a, rfl, h⟩

theorem readOptions_value {s : BridgeState O S W L} {range : ByteRange}
    {conditions : ReadConditions} {v : OpendalMbt.ReadOptions BytesRange}
    (hholds : List.Forall₂ (Holds names) (Request.conditionTexts conditions) handles)
    (hs : Names names s.toStore)
    (h : readOptionsFromScalars BytesRange.api (Request.readTexts handles) range.encode
      (optionalOwnedUtf8Buffer tryReserve) s = .ok v) :
    v = ⟨conditions, range.meaning BytesRange.api⟩ := by
  obtain ⟨r, hr, h⟩ := except_bind_eq_ok h
  obtain ⟨version, hversion, h⟩ := except_bind_eq_ok h
  obtain ⟨ifMatch, hifMatch, h⟩ := except_bind_eq_ok h
  obtain ⟨ifNoneMatch, hifNoneMatch, h⟩ := except_bind_eq_ok h
  cases h
  rw [byteRange_meaning hr,
    optionalOwnedUtf8Buffer_text (holds_getD hholds (i := 0) rfl) hs hversion,
    optionalOwnedUtf8Buffer_text (holds_getD hholds (i := 1) rfl) hs hifMatch,
    optionalOwnedUtf8Buffer_text (holds_getD hholds (i := 2) rfl) hs hifNoneMatch]

theorem readStreamOptions_value {s : BridgeState O S W L} {range : ByteRange} {chunkSize : UInt32}
    {conditions : ReadConditions} {v : Bridge.ReadStreamOptions BytesRange}
    (hholds : List.Forall₂ (Holds names) (Request.conditionTexts conditions) handles)
    (hs : Names names s.toStore)
    (h : readStreamOptionsFromScalars BytesRange.api (Request.readTexts handles) range.encode
      (optionalOwnedUtf8Buffer tryReserve) s chunkSize = .ok v) :
    v = ⟨⟨conditions, range.meaning BytesRange.api⟩, chunkSize.toNat⟩ := by
  unfold readStreamOptionsFromScalars at h
  split_ifs at h
  obtain ⟨version, hversion, h⟩ := except_bind_eq_ok h
  obtain ⟨ifMatch, hifMatch, h⟩ := except_bind_eq_ok h
  obtain ⟨ifNoneMatch, hifNoneMatch, h⟩ := except_bind_eq_ok h
  obtain ⟨r, hr, h⟩ := except_bind_eq_ok h
  cases h
  rw [byteRange_meaning hr,
    optionalOwnedUtf8Buffer_text (holds_getD hholds (i := 0) rfl) hs hversion,
    optionalOwnedUtf8Buffer_text (holds_getD hholds (i := 1) rfl) hs hifMatch,
    optionalOwnedUtf8Buffer_text (holds_getD hholds (i := 2) rfl) hs hifNoneMatch]

theorem optionalListLimit_value {limit : Option UInt64} {v : Option Nat}
    (h : optionalListLimit (Request.flag limit.isSome) (limit.getD 0) = .ok v) :
    v = limit.map UInt64.toNat := by
  cases limit with
  | none =>
    cases h
    rfl
  | some limit =>
    have hunfold : optionalListLimit (Request.flag (some limit).isSome) ((some limit).getD 0) =
        if UInt32.size ≤ limit.toNat then .error .lengthOverflow else .ok (some limit.toNat) := rfl
    rw [hunfold] at h
    split_ifs at h
    cases h
    rfl

/-! ### The eleven starts -/

/-- An export that starts a task is `x`, which makes a task of `future` or nothing. -/
def Starts (names : Naming O S W L) (lib : Library O) (called : Export) (future : Future O S W L) :
    Prop :=
  ∃ x : BridgeCall O S W L UInt32, (∀ s, called.run s lib = handleReply s x) ∧
    ∀ spawned forcePending, Call.Triple (At names spawned forcePending) x
      (Started names spawned forcePending future) fun _ => At names spawned forcePending

theorem triple_listInputs {recursive : Bool} {limit : Option UInt64} {startAfter : Option String}
    {startHandle : UInt32} {lib : Library O}
    (hoperator : names operatorHandle = some (.operator operator))
    (hpath : Holds names (Request.text path) handle)
    (hstart : Holds names (Request.optionalText startAfter) startHandle) :
    Call.Triple (At names spawned forcePending)
      (listInputs lib operatorHandle handle (Request.listScalars recursive limit startHandle))
      (fun v s => v = (operator, path,
          { recursive, limit := limit.map UInt64.toNat, startAfter }) ∧
        At names spawned forcePending s)
      fun _ => At names spawned forcePending := by
  apply triple_known (triple_scalarBool _ _)
  apply triple_known (triple_ofExcept fun _ h => optionalListLimit_value h)
  apply triple_known (triple_pathAndOperator hoperator hpath)
  apply triple_known (triple_optionalText hstart)
  exact Call.Triple.pure fun _ hs => ⟨rfl, hs⟩

theorem triple_endsAndOperator {source target : String} {targetHandle : UInt32} {lib : Library O}
    (hoperator : names operatorHandle = some (.operator operator))
    (hsource : Holds names (Request.text source) handle)
    (htarget : Holds names (Request.text target) targetHandle) :
    Call.Triple (At names spawned forcePending)
      (endsAndOperator lib operatorHandle handle targetHandle)
      (fun v s => v = (operator, source, target) ∧ At names spawned forcePending s)
      fun _ => At names spawned forcePending := by
  apply triple_known (triple_pathAndOperator hoperator hsource)
  apply triple_known (triple_text htarget)
  exact Call.Triple.pure fun _ hs => ⟨rfl, hs⟩

theorem triple_suffix {lib : Library O} {range : BytesRange} :
    Call.Triple (At names spawned forcePending)
      (Bridge.ofExcept (ensureSuffixIsNative lib.info operator range) : BridgeCall O S W L Unit)
      (fun v s => v = () ∧ At names spawned forcePending s)
      fun _ => At names spawned forcePending :=
  triple_ofExcept fun _ _ => rfl

theorem triple_ownedBytes {bytes : List UInt8} (hdata : Holds names (some bytes) handle) :
    Call.Triple (At names spawned forcePending) (view (ownedBytes tryReserve handle))
      (fun v s => v = bytes ∧ At names spawned forcePending s)
      fun _ => At names spawned forcePending := by
  apply triple_view
  intro s v hs h
  unfold ownedBytes at h
  rw [Arena.buffer_eq_ok.mpr ((hs.get? handle).trans hdata)] at h
  exact tryOwnedBytes_ok h

theorem request_starts (request : Request) (lib : Library O)
    (hoperator : names operatorHandle = some (.operator operator))
    (hinputs : List.Forall₂ (Holds names) request.inputs handles) :
    Starts names lib (request.call operatorHandle handles) (request.future operator) := by
  have hheld : ∀ {i : Nat} {input : Option (List UInt8)}, request.inputs[i]? = some input →
      Holds names input (handles.getD i 0) := holds_getD hinputs
  have hrest : ∀ n, List.Forall₂ (Holds names) (request.inputs.drop n) (handles.drop n) :=
    fun n => List.forall₂_drop n hinputs
  cases request with
  | createDir path =>
    refine ⟨_, fun _ => rfl, fun spawned forcePending => ?_⟩
    apply triple_known (triple_pathAndOperator hoperator (hheld (i := 0) rfl))
    exact triple_startTask _
  | write path data options =>
    refine ⟨_, fun _ => rfl, fun spawned forcePending => ?_⟩
    apply triple_known (triple_writeOptions (hrest 2))
    apply triple_known (triple_pathAndOperator hoperator (hheld (i := 0) rfl))
    apply triple_known (triple_ownedBytes (hheld (i := 1) rfl))
    exact triple_startTask _
  | read path range conditions =>
    refine ⟨_, fun _ => rfl, fun spawned forcePending => ?_⟩
    intro s hs
    unfold Bridge.operatorReadOptionsStart
    cases hoptions : readOptionsFromScalars BytesRange.api
        (Request.readTexts (handles.drop 1)) range.encode (optionalOwnedUtf8Buffer lib.tryReserve)
        s with
    | error e => exact hs
    | ok options =>
      obtain rfl := readOptions_value (hrest 1) hs.names hoptions
      exact (triple_known (triple_pathAndOperator hoperator (hheld (i := 0) rfl))
        (triple_known triple_suffix (triple_startTask _))) s hs
  | stat path conditions =>
    refine ⟨_, fun _ => rfl, fun spawned forcePending => ?_⟩
    apply triple_known (triple_statOptions (hrest 1))
    apply triple_known (triple_pathAndOperator hoperator (hheld (i := 0) rfl))
    exact triple_startTask _
  | delete path options =>
    refine ⟨_, fun _ => rfl, fun spawned forcePending => ?_⟩
    apply triple_known (triple_scalarBool _ _)
    apply triple_known (triple_pathAndOperator hoperator (hheld (i := 0) rfl))
    apply triple_known (triple_optionalText (hheld (i := 1) rfl))
    exact triple_startTask _
  | list path recursive limit startAfter =>
    refine ⟨_, fun _ => rfl, fun spawned forcePending => ?_⟩
    apply triple_known (triple_listInputs hoperator (hheld (i := 0) rfl) (hheld (i := 1) rfl))
    exact triple_startTask _
  | copy source destination =>
    refine ⟨_, fun _ => rfl, fun spawned forcePending => ?_⟩
    apply triple_known (triple_endsAndOperator hoperator (hheld (i := 0) rfl) (hheld (i := 1) rfl))
    exact triple_startTask _
  | rename source destination =>
    refine ⟨_, fun _ => rfl, fun spawned forcePending => ?_⟩
    apply triple_known (triple_endsAndOperator hoperator (hheld (i := 0) rfl) (hheld (i := 1) rfl))
    exact triple_startTask _
  | openReadStream path chunkSize range conditions =>
    refine ⟨_, fun _ => rfl, fun spawned forcePending => ?_⟩
    intro s hs
    unfold Bridge.operatorReadStreamStart
    cases hoptions : readStreamOptionsFromScalars BytesRange.api
        (Request.readTexts (handles.drop 1)) range.encode (optionalOwnedUtf8Buffer lib.tryReserve)
        s chunkSize with
    | error e => exact hs
    | ok options =>
      obtain rfl := readStreamOptions_value (hrest 1) hs.names hoptions
      exact (triple_known (triple_pathAndOperator hoperator (hheld (i := 0) rfl))
        (triple_known triple_suffix (triple_startTask _))) s hs
  | openWriter path options =>
    refine ⟨_, fun _ => rfl, fun spawned forcePending => ?_⟩
    apply triple_known (triple_writeOptions (hrest 1))
    apply triple_known (triple_pathAndOperator hoperator (hheld (i := 0) rfl))
    exact triple_startTask _
  | openLister path recursive limit startAfter =>
    refine ⟨_, fun _ => rfl, fun spawned forcePending => ?_⟩
    apply triple_known (triple_listInputs hoperator (hheld (i := 0) rfl) (hheld (i := 1) rfl))
    exact triple_startTask _

end Bridge

/-! ## Buffers around a start -/

section Inputs

variable {host : Host} {context : Context} {names names' : Naming O S W L}

theorem triple_fillBuffer (bytes : List UInt8) (handle : UInt32) :
    Call.Triple (Bears names (List.replicate bytes.length 0) handle)
      (Call.onError
        (do
          writeWindows host handle bytes context (windowCount bytes.length) 0
          pure handle)
        (fun s => (Store.bufferRelease handle s).2))
      (fun code s => names code = none ∧ Names (update names code (some (.buffer bytes))) s)
      fun _ => Names names := by
  intro s hs
  obtain ⟨hlimit, hfresh, hs⟩ := hs
  rw [List.length_replicate] at hlimit
  rw [← filled_zero] at hs
  have hzero := update_self handle (some (.buffer (filled bytes 0))) names
  have hcount : windowCount (bytes.length - 0) = windowCount bytes.length := by
    rw [Nat.sub_zero]
  obtain ⟨t, hwrite, hvalid, htorn, hget, hothers⟩ := writeWindows_spec host context
    hs.valid.arena ((hs.get? handle).trans hzero) hlimit hcount
  have hrunning : t.tornDown = false := htorn.trans (hs.running hzero)
  have hput : (Call.onError
      (do
        writeWindows host handle bytes context (windowCount bytes.length) 0
        pure handle : FacadeCall O S W L UInt32)
      (fun s => (Store.bufferRelease handle s).2)) s = (.ok handle, t) := by
    apply Call.onError_eq_ok.mpr
    apply Call.bind_eq_ok.mpr
    exact ⟨(), t, hwrite, rfl⟩
  rw [hput]
  refine ⟨hfresh, ⟨hvalid, fun h => by simp [hrunning] at h⟩, ?_⟩
  intro k
  by_cases hk : k = handle
  · rw [hk, hget, update_self]
  · rw [hothers k hk, hs.get?, update_of_ne hk, update_of_ne hk]

variable (host) (context) in
theorem triple_putBytes (bytes : List UInt8) :
    Call.Triple (Names names) (putBytes host bytes context)
      (fun handle s => names handle = none ∧ Names (update names handle (some (.buffer bytes))) s)
      fun _ => Names names := by
  have hnew : Call.Triple (Names names)
      (expect host (Store.bufferNewSized host.tryReserve bytes.length) context
        "could not allocate a bridge buffer")
      (Bears names (List.replicate bytes.length 0)) fun _ => Names names :=
    triple_expect fun _ hs => leaves_bufferNewSized host.tryReserve bytes.length hs
  unfold putBytes
  apply triple_clearLastError.bind
  intro _
  exact hnew.bind (triple_fillBuffer bytes)

/-- 0 is no handle. -/
theorem Names.zero {s : Store O S W L} (hs : Names names s) : names 0 = none := by
  cases hzero : names 0 with
  | none => rfl
  | some r => exact absurd rfl (Arena.handle_ne_zero ((hs.get? 0).trans hzero))

/-- `names'` has buffers under the new handles of `added`, and is `names` elsewhere. -/
structure Extends (names names' : Naming O S W L) (added : List UInt32) : Prop where
  others : ∀ k, k ∉ added → names' k = names k
  fresh : ∀ k ∈ added, names k = none
  buffers : ∀ k ∈ added, k = 0 ∨ ∃ bytes : List UInt8, names' k = some (.buffer bytes)

theorem Extends.cons {handle : UInt32} {bytes : List UInt8} {added : List UInt32}
    (h : Extends (update names handle (some (.buffer bytes))) names' added)
    (hfresh : names handle = none) :
    Extends names names' (handle :: added) ∧ names' handle = some (.buffer bytes) := by
  have hnew : handle ∉ added := by
    intro hmem
    have hnone := h.fresh handle hmem
    rw [update_self] at hnone
    cases hnone
  have hhandle : names' handle = some (.buffer bytes) := by
    rw [h.others handle hnew, update_self]
  refine ⟨⟨?_, ?_, ?_⟩, hhandle⟩
  · intro k hk
    rw [List.mem_cons, not_or] at hk
    rw [h.others k hk.2, update_of_ne hk.1]
  · intro k hk
    rcases List.mem_cons.mp hk with rfl | hmem
    · exact hfresh
    · have hnone := h.fresh k hmem
      have hne : k ≠ handle := by
        intro heq
        rw [heq] at hmem
        exact hnew hmem
      rwa [update_of_ne hne] at hnone
  · intro k hk
    rcases List.mem_cons.mp hk with rfl | hk
    · exact Or.inr ⟨bytes, hhandle⟩
    · exact h.buffers k hk

variable (host) (context) in
/-- The inputs that have been put are in their buffers. -/
theorem putInputs_spec (inputs : List (Option (List UInt8))) (handles : List UInt32)
    {s : Store O S W L} (hs : Names names s) :
    ∃ added names', (putInputs host context inputs handles s).1.2 = handles ++ added ∧
      Names names' (putInputs host context inputs handles s).2 ∧ Extends names names' added ∧
      ((putInputs host context inputs handles s).1.1 = .ok () →
        List.Forall₂ (Holds names') inputs added) := by
  induction inputs generalizing handles names s with
  | nil =>
    refine ⟨[], names, by simp [putInputs], hs, ⟨?_, ?_, ?_⟩, fun _ => .nil⟩ <;> simp
  | cons input rest ih =>
    cases input with
    | none =>
      obtain ⟨added, names', hhandles, hnames, hextends, hholds⟩ := ih (handles ++ [0]) hs
      refine ⟨0 :: added, names', ?_, hnames, ⟨?_, ?_, ?_⟩, fun h => .cons rfl (hholds h)⟩
      · simpa [putInputs] using hhandles
      · intro k hk
        rw [List.mem_cons, not_or] at hk
        exact hextends.others k hk.2
      · intro k hk
        rcases List.mem_cons.mp hk with rfl | hk
        · exact hs.zero
        · exact hextends.fresh k hk
      · intro k hk
        rcases List.mem_cons.mp hk with rfl | hk
        · exact Or.inl rfl
        · exact hextends.buffers k hk
    | some bytes =>
      have hput := triple_putBytes host context bytes s hs
      unfold putInputs
      cases hran : putBytes host bytes context s with
      | mk result t =>
        rw [hran] at hput
        cases result with
        | error failure =>
          refine ⟨[], names, (List.append_nil _).symm, hput, ⟨?_, ?_, ?_⟩, fun h => by cases h⟩ <;>
            simp
        | ok handle =>
          obtain ⟨added, names', hhandles, hnames, hextends, hholds⟩ := ih (handles ++ [handle])
            hput.2
          obtain ⟨hextends, hhandle⟩ := hextends.cons hput.1
          refine ⟨handle :: added, names', ?_, hnames, hextends, fun h => .cons hhandle (hholds h)⟩
          rw [hhandles, List.append_assoc, List.singleton_append]

theorem names_release {handle : UInt32} {s : Store O S W L} (hs : Names names s)
    (hhandle : names handle = none ∨ ∃ bytes : List UInt8, names handle = some (.buffer bytes)) :
    Names (update names handle none) (Store.bufferRelease handle s).2 := by
  rcases hhandle with hnone | ⟨bytes, hbuffer⟩
  · have hgone : ∃ e, Store.bufferRelease handle s = (.error e, { s with lastError := some e }) := by
      unfold Store.bufferRelease Store.releaseResource Arena.release
      cases htake : s.arena.take handle .buffer with
      | mk result arena =>
        cases result with
        | error e =>
          obtain rfl := Arena.take_error htake
          exact ⟨e, rfl⟩
        | ok r =>
          have hfound := (Arena.view_take hs.valid.arena htake).1
          rw [hs.get?, hnone] at hfound
          cases hfound
    obtain ⟨e, hgone⟩ := hgone
    rw [hgone, ← hnone, update_eq_self]
    exact hs.withError _
  · exact (hs.release hbuffer rfl).2

theorem names_releaseAll (handles : List UInt32) {s : Store O S W L} (hs : Names names s)
    (hall : ∀ k ∈ handles,
      names k = none ∨ ∃ bytes : List UInt8, names k = some (.buffer bytes)) :
    Names (fun k => if k ∈ handles then none else names k)
      (handles.foldl (fun s handle => (Store.bufferRelease handle s).2) s) := by
  induction handles generalizing names s with
  | nil => simpa using hs
  | cons handle handles ih =>
    have hreleased := names_release hs (hall handle List.mem_cons_self)
    have hrest := ih hreleased (by
      intro k hk
      by_cases heq : k = handle
      · rw [heq, update_self]
        exact Or.inl rfl
      · rw [update_of_ne heq]
        exact hall k (List.mem_cons_of_mem _ hk))
    have hnames : (fun k => if k ∈ handles then none else update names handle none k) =
        fun k => if k ∈ handle :: handles then none else names k := by
      funext k
      by_cases heq : k = handle
      · rw [heq, update_self]
        simp
      · rw [update_of_ne heq]
        simp [heq]
    rw [hnames] at hrest
    exact hrest

/-- Releasing what was added leaves what was there before, and what came besides. -/
theorem names_releaseInputs {added : List UInt32} {s : Store O S W L}
    (hextends : Extends names names' added) {task : UInt32} (hfresh : names' task = none)
    (r : Option (OwnedResource O S W L)) (hs : Names (update names' task r) s) :
    Names (update names task r) (releaseInputs added s) := by
  have hother : ∀ k ∈ added, k ≠ 0 → k ≠ task := by
    intro k hk hne heq
    rcases hextends.buffers k hk with hzero | ⟨bytes, hbuffer⟩
    · exact hne hzero
    · rw [heq, hfresh] at hbuffer
      cases hbuffer
  have hreleased := names_releaseAll (added.filter (· ≠ 0)) hs (by
    intro k hk
    obtain ⟨hk, hne⟩ := List.mem_filter.mp hk
    have hne : k ≠ 0 := by simpa using hne
    rw [update_of_ne (hother k hk hne)]
    exact Or.inr ((hextends.buffers k hk).resolve_left hne))
  have hnames : (fun k => if k ∈ added.filter (· ≠ 0) then none else update names' task r k) =
      update names task r := by
    funext k
    by_cases hmem : k ∈ added ∧ k ≠ 0
    · rw [if_pos (by simpa [List.mem_filter] using hmem),
        update_of_ne (hother k hmem.1 hmem.2), hextends.fresh k hmem.1]
    · rw [if_neg (by simpa [List.mem_filter] using hmem)]
      by_cases htask : k = task
      · rw [htask, update_self, update_self]
      rw [update_of_ne htask, update_of_ne htask]
      by_cases hk : k ∈ added
      · have hzero : k = 0 := by
          by_contra hne
          exact hmem ⟨hk, hne⟩
        have hnone := hs.zero
        rw [hzero] at htask ⊢
        rw [update_of_ne htask] at hnone
        rw [hnone, hextends.fresh 0 (hzero ▸ hk)]
      · exact hextends.others k hk
  rw [hnames] at hreleased
  exact hreleased

end Inputs

/-! ## The whole start -/

section Start

variable {host : Host} {context : Context} {names : Naming O S W L}
variable {spawned : List (Spawned O S W L)} {forcePending : Bool}

/-- What an export does behind its reply, it does for the facade. -/
theorem triple_callExport {lib : Library O} {called : Export} {x : BridgeCall O S W L UInt32}
    (hrun : ∀ s, called.run s lib = handleReply s x)
    {Q : UInt32 → BridgeState O S W L → Prop} (hne : ∀ task s, Q task s → task ≠ 0)
    (hx : Call.Triple (At names spawned forcePending) x Q fun _ => At names spawned forcePending)
    (fallbackMessage : String) :
    Call.Triple (At names spawned forcePending)
      (callHandle host context lib called fallbackMessage) Q
      fun _ => At names spawned forcePending := by
  intro s hs
  have hran := hx s hs
  unfold callHandle
  rw [hrun]
  cases hxs : x s with
  | mk result t =>
    rw [hxs] at hran
    cases result with
    | ok task =>
      have hreply : handleReply s x = (.handle task, t) := by
        simp only [handleReply, handleOrRecordError, valueOr, hxs]
      rw [hreply]
      simp only [if_neg (hne task t hran)]
      exact hran
    | error e =>
      have hreply : handleReply s x = (.handle 0, recordError e t) := by
        simp only [handleReply, handleOrRecordError, valueOr, hxs]
      rw [hreply]
      simp only [if_true]
      have hraise : Call.Triple (Names names)
          (do
            let error ← takeLastError host context fallbackMessage
            Call.throw (.outcome error) : FacadeCall O S W L UInt32)
          (fun _ _ => False) fun _ => Names names :=
        steady_takeLastError.bind fun error => Call.Triple.throw fun _ h => h
      have hraised := hraise (recordError e t).toStore (hran.names.withError (some e))
      unfold inStore
      cases hthrown : (do
          let error ← takeLastError host context fallbackMessage
          Call.throw (.outcome error) : FacadeCall O S W L UInt32) (recordError e t).toStore with
      | mk result store =>
        rw [hthrown] at hraised
        cases result with
        | ok task => exact hraised.elim
        | error failure => exact ⟨hraised, hran.spawned, hran.forcePending⟩

theorem triple_callHandle {lib : Library O} {called : Export} {future : Future O S W L}
    {fallbackMessage : String} (h : Starts names lib called future) :
    Call.Triple (At names spawned forcePending)
      (callHandle host context lib called fallbackMessage)
      (Started names spawned forcePending future) fun _ => At names spawned forcePending := by
  obtain ⟨x, hrun, hx⟩ := h
  exact triple_callExport hrun (fun _ _ h => h.nonzero) (hx spawned forcePending) fallbackMessage

/-- The start of a request hands exactly its future to the executor, behind what was there, and
leaves one handle more, that of the task which the future is published under. When it fails, no
future was handed over and the handles are what they were. -/
theorem request_starts_its_future (host : Host) (context : Context) (request : Request)
    (lib : Library O) {operatorHandle : UInt32} {operator : O} {s : BridgeState O S W L}
    (hs : s.toStore.Valid) (hoperator : s.arena.get? operatorHandle = some (.operator operator)) :
    (∀ task s', request.start host context lib operatorHandle s = (.ok task, s') →
      Started s.arena.get? s.spawned s.forcePendingForCanary (request.future operator) task s') ∧
      ∀ failure s', request.start host context lib operatorHandle s = (.error failure, s') →
        At s.arena.get? s.spawned s.forcePendingForCanary s' := by
  obtain ⟨added, names', hhandles, hnames, hextends, hholds⟩ :=
    putInputs_spec host context request.inputs [] (Names.of_valid hs)
  have hreleased : ∀ {task : UInt32} {r : Option (OwnedResource O S W L)} {store : Store O S W L},
      names' task = none → Names (update names' task r) store →
        Names (update s.arena.get? task r) (releaseInputs added store) :=
    fun hfresh hstore => names_releaseInputs hextends hfresh _ hstore
  have hback : ∀ {store : Store O S W L}, Names names' store →
      Names s.arena.get? (releaseInputs added store) := by
    intro store hstore
    have hsame : Names (update names' 0 none) store := by
      rw [← hstore.zero, update_eq_self]
      exact hstore
    have hzero := hreleased hstore.zero hsame
    rwa [← (Names.of_valid hs).zero, update_eq_self] at hzero
  rw [List.nil_append] at hhandles
  unfold Request.start
  cases hput : putInputs host context request.inputs [] s.toStore with
  | mk outcome store =>
    obtain ⟨result, handles⟩ := outcome
    rw [hput] at hhandles hnames hholds
    obtain rfl : handles = added := hhandles
    cases result with
    | error failure =>
      refine ⟨fun task s' h => by simp at h, ?_⟩
      intro failure' s' h
      obtain ⟨-, rfl⟩ := Prod.mk.inj h
      exact ⟨hback hnames, rfl, rfl⟩
    | ok done =>
      have hoperator' : names' operatorHandle = some (.operator operator) := by
        rw [hextends.others, hoperator]
        intro hmem
        rw [hextends.fresh _ hmem] at hoperator
        cases hoperator
      have hcall : Call.Triple (At names' s.spawned s.forcePendingForCanary)
          (do
            inStore clearLastError
            callHandle host context lib (request.call operatorHandle handles)
              request.fallbackMessage : Call (BridgeState O S W L) Failure UInt32)
          (Started names' s.spawned s.forcePendingForCanary (request.future operator))
          fun _ => At names' s.spawned s.forcePendingForCanary := by
        apply Call.Triple.bind (Q := fun _ => At names' s.spawned s.forcePendingForCanary)
        · intro t ht
          exact ⟨ht.names.withError none, ht.spawned, ht.forcePending⟩
        · intro _
          exact triple_callHandle (request_starts request lib hoperator' (hholds rfl))
      have hran := hcall { s with toStore := store } ⟨hnames, rfl, rfl⟩
      simp only
      cases hcalled : (do
          inStore clearLastError
          callHandle host context lib (request.call operatorHandle handles)
            request.fallbackMessage : Call (BridgeState O S W L) Failure UInt32)
          { s with toStore := store } with
      | mk result t =>
        rw [hcalled] at hran
        cases result with
        | ok task =>
          refine ⟨?_, fun failure s' h => by simp at h⟩
          intro task' s' h
          obtain ⟨htask, rfl⟩ := Prod.mk.inj h
          cases htask
          have hfresh : s.arena.get? task = none := by
            by_cases hmem : task ∈ handles
            · exact hextends.fresh task hmem
            · rw [← hextends.others task hmem, hran.fresh]
          exact ⟨hran.nonzero, hfresh, hreleased hran.fresh hran.state.names, hran.state.spawned,
            hran.state.forcePending⟩
        | error failure =>
          refine ⟨fun task s' h => by simp at h, ?_⟩
          intro failure' s' h
          obtain ⟨-, rfl⟩ := Prod.mk.inj h
          exact ⟨hback hran.names, hran.spawned, hran.forcePending⟩

/-- A build with the memory service only, whose operations never answer. -/
def memoryOnly : Library Unit where
  newMemory := .ok ()
  schemes := ["memory"]
  viaIter _ _ := .error .tornDown
  info _ := ⟨"memory", "/", "", capabilityOf 0 0⟩
  write _ _ _ := none
  read _ _ := none
  stat _ _ := none
  tryReserve _ := true

/-- An instance with one operator. -/
def oneOperator : BridgeState Unit Unit Unit Unit where
  toStore := (Store.insertResource (.operator ()) {}).2

theorem request_starts_its_future_write :
    ∃ s', (Request.write "a" [1, 2] {}).start ⟨fun _ => true, 8⟩ checkContext memoryOnly 65537
        oneOperator = (.ok 65540, s') ∧
      s'.spawned = [⟨65540, none, .write () "a" [1, 2] {}, false⟩] := by
  have hran : ∃ s', (Request.write "a" [1, 2] {}).start ⟨fun _ => true, 8⟩ checkContext memoryOnly
      65537 oneOperator = (.ok 65540, s') := ⟨_, rfl⟩
  obtain ⟨s', hran⟩ := hran
  have hvalid : oneOperator.toStore.Valid := Store.Valid.empty.insertResource _
  have hstarted := (request_starts_its_future ⟨fun _ => true, 8⟩ checkContext
    (.write "a" [1, 2] {}) memoryOnly hvalid rfl).1 _ s' hran
  exact ⟨s', hran, hstarted.state.spawned⟩

end Start

end OpendalMbt.Browser
