import OpendalMbt.Browser.Operations
import OpendalMbt.RangeCodec

/-!
# Ranges from JavaScript

`normalizeRange` and `uint64Value` of `wasm/browser-runtime/index.mjs`, and the starts of a
read on the three layers that take a range.

* `normalizeRange_eq_ok`: the range objects that are accepted, each with the range that it
  denotes;
* `crossed_normalizeRange`: what crosses into the bridge is the encoding of that range;
* `MakesNoTask`: calls that make no task, so that a refused argument starts nothing;
* `rangeCodecs_agree`: the three codecs together.
-/

namespace OpendalMbt.Browser

open Codec Bridge Transition

/-- `Number.isSafeInteger`. -/
structure SafeInteger where
  value : Int
  safe : value.natAbs ≤ 9007199254740991

/-- A JavaScript value as far as a range is read from it. A number that is not a safe integer
is `number none`. -/
inductive JsValue where
  | undefined
  | null
  | boolean (value : Bool)
  | number (value : Option SafeInteger)
  | bigint (value : Int)
  | string (text : JsString)
  | symbol
  | function
  | object (property : String → JsValue)

namespace JsValue

def Nullish : JsValue → Prop
  | undefined | null => True
  | _ => False

instance : (value : JsValue) → Decidable value.Nullish
  | undefined | null => isTrue trivial
  | boolean _ | number _ | bigint _ | string _ | symbol | function | object _ => isFalse id

def IsText (value : JsValue) (text : String) : Prop := value = string (exactText text)

instance : (value : JsValue) → (text : String) → Decidable (value.IsText text)
  | string units, text => decidable_of_iff (units = exactText text) (by simp [IsText])
  | undefined, _ | null, _ | boolean _, _ | number _, _ | bigint _, _ | symbol, _ | function, _
  | object _, _ => isFalse (fun h => nomatch h)

/-- The value as a `BigInt`, of a `BigInt` or a safe integer. -/
def integer : JsValue → Option Int
  | bigint value => some value
  | number (some value) => some value.value
  | _ => none

def Denotes64 (value : JsValue) (n : UInt64) : Prop := value.integer = some (n.toNat : Int)

end JsValue

def invalid (message : String) (context : Context) : Failure :=
  .outcome (localError "InvalidArgument" 0x1001 message context)

def UINT64_MAX : Int := 0xffffffffffffffff

def uint64Value (value : JsValue) (label : String) (context : Context) : Except Failure Int :=
  match value.integer with
  | none => .error (invalid s!"{label} must be a BigInt or safe integer" context)
  | some result =>
    if result < 0 ∨ UINT64_MAX < result then .error (invalid s!"{label} is outside UInt64" context)
    else .ok result

/-- The scalars as JavaScript has them, with `BigInt`s for the numbers. -/
structure JsRange where
  kind : Nat
  offset : Int
  length : Int
  deriving DecidableEq, Repr

/-- The conversion at the boundary of WebAssembly. -/
def JsRange.crossed (range : JsRange) : RangeScalars where
  kind := UInt32.ofNat range.kind
  offset := UInt64.ofInt range.offset
  length := UInt64.ofInt range.length

def normalizeRangeObject (property : String → JsValue) (context : Context) :
    Except Failure JsRange :=
  if (property "kind").Nullish ∨ (property "kind").IsText "Full" then .ok ⟨0, 0, 0⟩
  else if (property "kind").IsText "From" then do
    let offset ← uint64Value (property "offset") "range.offset" context
    .ok ⟨1, offset, 0⟩
  else if (property "kind").IsText "Range" then do
    let offset ← uint64Value (property "offset") "range.offset" context
    let length ← uint64Value (property "length") "range.length" context
    if UINT64_MAX < offset + length then
      .error (invalid "range offset plus length exceeds UInt64" context)
    else .ok ⟨2, offset, length⟩
  else if (property "kind").IsText "Suffix" then do
    let length ← uint64Value (property "length") "range.length" context
    .ok ⟨3, 0, length⟩
  else .error (invalid "range.kind must be Full, From, Range, or Suffix" context)

def normalizeRange (value : JsValue) (context : Context) : Except Failure JsRange :=
  if value.Nullish ∨ value.IsText "Full" then .ok ⟨0, 0, 0⟩
  else
    match value with
    | .object property => normalizeRangeObject property context
    | _ => .error (invalid "range must be a range object" context)

/-! ## What is accepted -/

/-- The range that a value stands for. -/
inductive Denotes : JsValue → ByteRange → Prop
  | absent {value} : value.Nullish → Denotes value .full
  | text {value} : value.IsText "Full" → Denotes value .full
  | noKind {property} : (property "kind").Nullish → Denotes (.object property) .full
  | full {property} : (property "kind").IsText "Full" → Denotes (.object property) .full
  | from {property offset} : (property "kind").IsText "From" →
      (property "offset").Denotes64 offset → Denotes (.object property) (.from offset)
  | range {property offset length} : (property "kind").IsText "Range" →
      (property "offset").Denotes64 offset → (property "length").Denotes64 length →
      Denotes (.object property) (.range offset length)
  | suffix {property length} : (property "kind").IsText "Suffix" →
      (property "length").Denotes64 length → Denotes (.object property) (.suffix length)

/-- The scalars of a range before they cross. -/
def JsRange.of (range : ByteRange) : JsRange where
  kind := range.encode.kind.toNat
  offset := range.encode.offset.toNat
  length := range.encode.length.toNat

theorem ofInt_toNat (n : UInt64) : UInt64.ofInt (n.toNat : Int) = n := by
  have hbound := n.toNat_lt
  have hmod : (n.toNat : Int) % 2 ^ 64 = n.toNat := by omega
  unfold UInt64.ofInt
  rw [hmod, Int.toNat_natCast, UInt64.ofNat_toNat]

theorem crossed_of (range : ByteRange) : (JsRange.of range).crossed = range.encode := by
  simp only [JsRange.crossed, JsRange.of, ofInt_toNat, UInt32.ofNat_toNat]

theorem uint64Value_eq_ok {value : JsValue} {label : String} {context : Context} {result : Int} :
    uint64Value value label context = .ok result ↔
      ∃ n : UInt64, value.Denotes64 n ∧ result = n.toNat := by
  unfold uint64Value JsValue.Denotes64
  cases value.integer with
  | none => simp
  | some found =>
    dsimp only
    split
    · rename_i houtside
      constructor
      · intro h
        cases h
      · intro ⟨n, hn, _⟩
        have hbound := n.toNat_lt
        cases hn
        unfold UINT64_MAX at houtside
        omega
    · rename_i hinside
      unfold UINT64_MAX at hinside
      constructor
      · intro h
        cases h
        have hnat : (UInt64.ofNat result.toNat).toNat = result.toNat := by
          rw [UInt64.toNat_ofNat']
          omega
        have hresult : result = (UInt64.ofNat result.toNat).toNat := by omega
        exact ⟨UInt64.ofNat result.toNat, congrArg some hresult, hresult⟩
      · intro ⟨n, hn, hresult⟩
        cases hn
        rw [hresult]

theorem uint64Value_of_denotes {value : JsValue} {n : UInt64} (h : value.Denotes64 n)
    (label : String) (context : Context) :
    uint64Value value label context = .ok (n.toNat : Int) :=
  uint64Value_eq_ok.mpr ⟨n, h, rfl⟩

theorem denotes_of_normalizeRangeObject {property : String → JsValue} {context : Context}
    {result : JsRange} (h : normalizeRangeObject property context = .ok result) :
    ∃ range, Denotes (.object property) range ∧ range.Fits ∧ result = JsRange.of range := by
  unfold normalizeRangeObject at h
  split at h
  · rename_i hkind
    cases h
    rcases hkind with hkind | hkind
    · exact ⟨.full, .noKind hkind, trivial, rfl⟩
    · exact ⟨.full, .full hkind, trivial, rfl⟩
  split at h
  · rename_i hkind
    cases hoffset : uint64Value (property "offset") "range.offset" context with
    | error failure =>
      rw [hoffset] at h
      cases h
    | ok offset =>
      rw [hoffset] at h
      cases h
      obtain ⟨n, hn, rfl⟩ := uint64Value_eq_ok.mp hoffset
      exact ⟨.from n, .from hkind hn, trivial, rfl⟩
  split at h
  · rename_i hkind
    cases hoffset : uint64Value (property "offset") "range.offset" context with
    | error failure =>
      rw [hoffset] at h
      cases h
    | ok offset =>
      cases hlength : uint64Value (property "length") "range.length" context with
      | error failure =>
        rw [hoffset, hlength] at h
        cases h
      | ok length =>
        rw [hoffset, hlength] at h
        obtain ⟨n, hn, rfl⟩ := uint64Value_eq_ok.mp hoffset
        obtain ⟨m, hm, rfl⟩ := uint64Value_eq_ok.mp hlength
        change (if _ then _ else _) = _ at h
        split at h
        · cases h
        · rename_i hsum
          cases h
          refine ⟨.range n m, .range hkind hn hm, ?_, rfl⟩
          show n.toNat + m.toNat < 2 ^ 64
          unfold UINT64_MAX at hsum
          omega
  split at h
  · rename_i hkind
    cases hlength : uint64Value (property "length") "range.length" context with
    | error failure =>
      rw [hlength] at h
      cases h
    | ok length =>
      rw [hlength] at h
      cases h
      obtain ⟨n, hn, rfl⟩ := uint64Value_eq_ok.mp hlength
      exact ⟨.suffix n, .suffix hkind hn, trivial, rfl⟩
  · cases h

theorem denotes_of_normalizeRange {value : JsValue} {context : Context} {result : JsRange}
    (h : normalizeRange value context = .ok result) :
    ∃ range, Denotes value range ∧ range.Fits ∧ result = JsRange.of range := by
  unfold normalizeRange at h
  split at h
  · rename_i hfull
    cases h
    rcases hfull with hnullish | htext
    · exact ⟨.full, .absent hnullish, trivial, rfl⟩
    · exact ⟨.full, .text htext, trivial, rfl⟩
  cases value with
  | object property => exact denotes_of_normalizeRangeObject h
  | undefined | null | boolean _ | number _ | bigint _ | string _ | symbol | function => cases h

theorem JsValue.not_nullish_of_isText {value : JsValue} {text : String} (h : value.IsText text) :
    ¬ value.Nullish := by
  rw [h]
  exact id

theorem JsValue.not_isText {value : JsValue} {text other : String} (h : value.IsText text)
    (hne : text ≠ other) : ¬ value.IsText other := by
  intro hother
  rw [h] at hother
  apply hne
  have hunits : exactText text = exactText other := by
    injection hother
  exact String.toList_inj.mp (utf16_injective hunits)

theorem normalizeRange_of_denotes {value : JsValue} {range : ByteRange} (h : Denotes value range)
    (hfits : range.Fits) (context : Context) :
    normalizeRange value context = .ok (JsRange.of range) := by
  have hobject : ∀ property : String → JsValue, normalizeRange (.object property) context =
      normalizeRangeObject property context := fun property =>
    if_neg (not_or.mpr ⟨id, fun htext => nomatch htext⟩)
  cases h with
  | absent hnullish => exact if_pos (Or.inl hnullish)
  | text htext => exact if_pos (Or.inr htext)
  | noKind hkind =>
    rw [hobject]
    exact if_pos (Or.inl hkind)
  | full hkind =>
    rw [hobject]
    exact if_pos (Or.inr hkind)
  | «from» hkind hoffset =>
    rw [hobject]
    unfold normalizeRangeObject
    rw [if_neg (not_or.mpr ⟨JsValue.not_nullish_of_isText hkind,
      JsValue.not_isText hkind (by decide)⟩), if_pos hkind, uint64Value_of_denotes hoffset]
    rfl
  | range hkind hoffset hlength =>
    rw [hobject]
    unfold normalizeRangeObject
    rw [if_neg (not_or.mpr ⟨JsValue.not_nullish_of_isText hkind,
      JsValue.not_isText hkind (by decide)⟩), if_neg (JsValue.not_isText hkind (by decide)),
      if_pos hkind, uint64Value_of_denotes hoffset, uint64Value_of_denotes hlength]
    apply if_neg
    change _ < 2 ^ 64 at hfits
    unfold UINT64_MAX
    omega
  | suffix hkind hlength =>
    rw [hobject]
    unfold normalizeRangeObject
    rw [if_neg (not_or.mpr ⟨JsValue.not_nullish_of_isText hkind,
      JsValue.not_isText hkind (by decide)⟩), if_neg (JsValue.not_isText hkind (by decide)),
      if_neg (JsValue.not_isText hkind (by decide)), if_pos hkind,
      uint64Value_of_denotes hlength]
    rfl

theorem normalizeRange_eq_ok {value : JsValue} {context : Context} {result : JsRange} :
    normalizeRange value context = .ok result ↔
      ∃ range, Denotes value range ∧ range.Fits ∧ result = JsRange.of range := by
  constructor
  · exact denotes_of_normalizeRange
  · intro ⟨range, hdenotes, hfits, hresult⟩
    rw [hresult]
    exact normalizeRange_of_denotes hdenotes hfits context

/-- A range object whose end is beyond 64 bits is refused, also when its offset or its length
alone is. -/
theorem normalizeRange_overflow {property : String → JsValue} {offset length : Int}
    (hkind : (property "kind").IsText "Range") (hoffset : (property "offset").integer = some offset)
    (hlength : (property "length").integer = some length) (h : UINT64_MAX < offset + length)
    (context : Context) : ∃ failure, normalizeRange (.object property) context = .error failure := by
  cases hrange : normalizeRange (.object property) context with
  | error failure => exact ⟨failure, rfl⟩
  | ok result =>
    exfalso
    obtain ⟨range, hdenotes, hfits, -⟩ := denotes_of_normalizeRange hrange
    have hother : ∀ text, "Range" ≠ text → ¬ (property "kind").IsText text := fun text hne =>
      JsValue.not_isText hkind hne
    cases hdenotes with
    | absent hnullish => exact hnullish
    | text htext => nomatch htext
    | noKind hnullish => exact JsValue.not_nullish_of_isText hkind hnullish
    | full hfull => exact hother _ (by decide) hfull
    | «from» hfrom _ => exact hother _ (by decide) hfrom
    | suffix hsuffix _ => exact hother _ (by decide) hsuffix
    | range _ hn hm =>
      unfold JsValue.Denotes64 at hn hm
      rw [hoffset] at hn
      rw [hlength] at hm
      cases hn
      cases hm
      change _ < 2 ^ 64 at hfits
      unfold UINT64_MAX at h
      omega

/-! ## Requests that are refused -/

/-- No task was made, though other handles may have been. -/
def SameTasks (b b' : HandleBridge) : Prop :=
  ∀ handle ∈ b'.ledger.created, handle.kind = .task → handle ∈ b.ledger.created

theorem SameTasks.refl (b : HandleBridge) : SameTasks b b := fun _ hmem _ => hmem

theorem SameTasks.trans (a b c : HandleBridge) (hab : SameTasks a b) (hbc : SameTasks b c) :
    SameTasks a c := fun handle hmem hkind => hab handle (hbc handle hmem hkind) hkind

theorem sameTasks_released (handle : BridgeHandle) (b : HandleBridge) :
    SameTasks b (HandleCall.released handle b) := fun _ hmem _ => hmem

/-- A call that makes no task. -/
abbrev MakesNoTask {α : Type} (x : HandleCall α) : Prop := Call.Follows SameTasks x

namespace HandleCall

variable {α β : Type} {kind : ResourceKind} {context : Context} {fallbackMessage : String}

theorem makesNoTask_pure (a : α) : MakesNoTask (pure a : HandleCall α) :=
  Call.Follows.pure SameTasks.refl a

theorem makesNoTask_throw (failure : Failure) : MakesNoTask (Call.throw failure : HandleCall α) :=
  Call.Follows.throw SameTasks.refl failure

theorem makesNoTask_bind {x : HandleCall α} {f : α → HandleCall β} (hx : MakesNoTask x)
    (hf : ∀ a, MakesNoTask (f a)) : MakesNoTask (x >>= f) :=
  Call.Follows.bind SameTasks.trans hx hf

theorem makesNoTask_ask : MakesNoTask ask := by
  intro b
  unfold ask
  cases b.world.answers with
  | nil => exact SameTasks.refl b
  | cons answer answers => exact fun _ hmem _ => hmem

theorem sameTasks_create {b : HandleBridge} (hkind : kind ≠ .task) (code : UInt32) :
    SameTasks b { b with ledger := b.ledger.create ⟨kind, code⟩ } := by
  intro handle hmem htask
  rcases List.mem_cons.mp hmem with rfl | hmem
  · exact absurd htask hkind
  · exact hmem

theorem makesNoTask_make (hkind : kind ≠ .task) : MakesNoTask (make kind) := by
  refine makesNoTask_bind makesNoTask_ask fun answer b => ?_
  unfold given
  split
  · exact SameTasks.refl b
  · exact sameTasks_create hkind _

theorem makesNoTask_transfer (hkind : kind ≠ .task) (source : BridgeHandle) :
    MakesNoTask (transfer source kind) := by
  refine makesNoTask_bind makesNoTask_ask fun answer b => ?_
  unfold moved
  split
  · exact SameTasks.refl b
  · exact SameTasks.trans b _ _ (sameTasks_released source b) (sameTasks_create hkind _)

theorem makesNoTask_release (handle : BridgeHandle) : MakesNoTask (release handle) := by
  intro b
  unfold release
  split <;> exact sameTasks_released handle b

section Errors

variable {takeLastError : Context → String → HandleCall (ErrorOutcome JsString)}
  (htake : ∀ context message, MakesNoTask (takeLastError context message))
include htake

theorem makesNoTask_raise : MakesNoTask (raise (α := α) takeLastError context fallbackMessage) :=
  makesNoTask_bind (htake _ _) fun _ => makesNoTask_throw _

theorem makesNoTask_readWindows {handle : UInt32} {length windows offset : Nat} :
    MakesNoTask (readWindows takeLastError handle length windows offset) := by
  induction windows generalizing offset with
  | zero => exact makesNoTask_pure _
  | succ windows ih =>
    refine makesNoTask_bind makesNoTask_ask fun pointer => ?_
    split
    · exact makesNoTask_raise htake
    · exact makesNoTask_bind (fun b => SameTasks.refl b) fun part =>
        makesNoTask_bind ih fun rest => makesNoTask_pure _

theorem makesNoTask_takeBufferWith {handle : UInt32} :
    MakesNoTask (takeBufferWith takeLastError handle) := by
  refine Call.Follows.tryFinally SameTasks.trans ?_ (sameTasks_released _)
  refine makesNoTask_bind makesNoTask_ask fun length => ?_
  split
  · exact makesNoTask_raise htake
  split
  · exact makesNoTask_throw _
  · exact makesNoTask_readWindows htake

theorem makesNoTask_takeErrorWith {errorHandle : UInt32} :
    MakesNoTask (takeErrorWith takeLastError errorHandle context) := by
  refine makesNoTask_bind (makesNoTask_transfer (by decide) _) fun snapshot => ?_
  split
  · refine Call.Follows.tryFinally SameTasks.trans ?_ (sameTasks_released _)
    refine makesNoTask_bind (makesNoTask_bind (makesNoTask_make (by decide)) fun handle => ?_)
      fun detail => makesNoTask_throw _
    split
    · exact makesNoTask_pure _
    · exact makesNoTask_bind (makesNoTask_release _) fun _ => makesNoTask_pure _
  · refine makesNoTask_bind (makesNoTask_takeBufferWith htake) fun bytes => ?_
    unfold decodedError
    split
    · exact makesNoTask_throw _
    · exact makesNoTask_pure _

end Errors

theorem makesNoTask_takeLastErrorAt {depth : Nat} :
    MakesNoTask (takeLastErrorAt depth context fallbackMessage) := by
  induction depth generalizing context fallbackMessage with
  | zero => exact makesNoTask_throw _
  | succ depth ih =>
    refine makesNoTask_bind (makesNoTask_make (by decide)) fun handle => ?_
    split
    · exact makesNoTask_pure _
    · exact makesNoTask_takeErrorWith fun context message => ih

theorem makesNoTask_takeLastError (context : Context) (fallbackMessage : String) :
    MakesNoTask (takeLastError context fallbackMessage) := fun b => makesNoTask_takeLastErrorAt b

theorem makesNoTask_writeWindows {windows : Nat} : MakesNoTask (writeWindows context windows) := by
  induction windows with
  | zero => exact makesNoTask_pure ()
  | succ windows ih =>
    refine makesNoTask_bind makesNoTask_ask fun pointer => ?_
    split
    · exact makesNoTask_raise makesNoTask_takeLastError
    · exact ih

theorem makesNoTask_putBytes (bytes : List UInt8) : MakesNoTask (putBytes bytes context) := by
  refine makesNoTask_bind (makesNoTask_make (by decide)) fun made => ?_
  refine makesNoTask_bind ?_ fun handle => ?_
  · unfold expectHandle
    split
    · exact makesNoTask_raise makesNoTask_takeLastError
    · exact makesNoTask_pure _
  · exact Call.Follows.onError SameTasks.trans
      (makesNoTask_bind makesNoTask_writeWindows fun _ => makesNoTask_pure _) (sameTasks_released _)

theorem sameTasks_putArguments (arguments : List Argument) (handles : List UInt32)
    (b : HandleBridge) : SameTasks b (putArguments context arguments handles b).2 := by
  induction arguments generalizing handles b with
  | nil => exact SameTasks.refl b
  | cons argument rest ih =>
    cases argument with
    | error failure => exact SameTasks.refl b
    | ok bytes =>
      cases bytes with
      | none => exact ih handles b
      | some bytes =>
        have hput : SameTasks b (putBytes bytes context b).2 := makesNoTask_putBytes bytes b
        unfold putArguments
        cases hran : putBytes bytes context b with
        | mk result t =>
          rw [hran] at hput
          cases result with
          | error failure => exact hput
          | ok handle => exact SameTasks.trans b t _ hput (ih _ t)

theorem sameTasks_releaseBuffers (handles : List UInt32) (b : HandleBridge) :
    SameTasks b (releaseBuffers handles b) := by
  unfold releaseBuffers
  induction handles generalizing b with
  | nil => exact SameTasks.refl b
  | cons handle rest ih => exact SameTasks.trans b _ _ (sameTasks_released _ b) (ih _)

/-- An argument that throws is met before the start. -/
theorem putArguments_refused {arguments : List Argument} {failure : Failure}
    (h : .error failure ∈ arguments) (handles : List UInt32) (b : HandleBridge) :
    ∃ thrown, (putArguments context arguments handles b).1.1 = .error thrown := by
  induction arguments generalizing handles b with
  | nil => cases h
  | cons argument rest ih =>
    cases argument with
    | error thrown => exact ⟨thrown, rfl⟩
    | ok bytes =>
      have hrest : .error failure ∈ rest := by
        rcases List.mem_cons.mp h with h | h
        · cases h
        · exact h
      cases bytes with
      | none => exact ih hrest handles b
      | some bytes =>
        unfold putArguments
        cases putBytes bytes context b with
        | mk result t =>
          cases result with
          | error thrown => exact ⟨thrown, rfl⟩
          | ok handle => exact ih hrest _ t

/-- A start with an argument that throws makes no task. -/
theorem startTask_refused {arguments : List Argument} {failure : Failure}
    (h : .error failure ∈ arguments) (b : HandleBridge) :
    (∃ thrown, (startTask arguments context fallbackMessage b).1 = .error thrown) ∧
      SameTasks b (startTask arguments context fallbackMessage b).2 := by
  have hrefused : ∃ thrown, (putArguments context arguments [] b).1.1 = .error thrown :=
    putArguments_refused h [] b
  have hsame : SameTasks b (putArguments context arguments [] b).2 :=
    sameTasks_putArguments arguments [] b
  unfold startTask
  cases hput : putArguments context arguments [] b with
  | mk ran t =>
    rw [hput] at hrefused hsame
    obtain ⟨result, handles⟩ := ran
    obtain ⟨thrown, hthrown⟩ := hrefused
    change result = _ at hthrown
    rw [hthrown]
    exact ⟨⟨thrown, rfl⟩, SameTasks.trans b t _ hsame (sameTasks_releaseBuffers handles t)⟩

end HandleCall

/-- The argument that `normalizeRange` makes of a range option. -/
def rangeOption (value : JsValue) (context : Context) : Checked (Nat × Nat × Nat) :=
  (normalizeRange value context).map fun range =>
    (range.kind, range.offset.toNat, range.length.toNat)

/-- The start of a request throws and makes no task. -/
def TaskRequest.StartsNothing (request : TaskRequest) : Prop :=
  ∀ b, (∃ thrown, (HandleCall.startTask request.arguments request.context
      request.fallbackMessage b).1 = .error thrown) ∧
    SameTasks b (HandleCall.startTask request.arguments request.context
      request.fallbackMessage b).2

theorem startsNothing_read {path : PathValue} {options : ReadOptions} {failure : Failure}
    (h : options.range = .error failure) : (read path options).StartsNothing := by
  intro b
  have hmem : (Except.error failure : HandleCall.Argument) ∈ (read path options).arguments := by
    apply List.mem_cons_of_mem
    apply List.mem_cons.mpr
    left
    rw [h]
    rfl
  exact HandleCall.startTask_refused hmem b

theorem startsNothing_openReadStream {path : PathValue} {options : ReadStreamOptions}
    {failure : Failure} (h : options.range = .error failure) :
    (openReadStream path options).StartsNothing := by
  intro b
  have hmem : (Except.error failure : HandleCall.Argument) ∈ (openReadStream path options).arguments := by
    apply List.mem_cons_of_mem
    apply List.mem_cons_of_mem
    apply List.mem_cons.mpr
    left
    rw [h]
    rfl
  exact HandleCall.startTask_refused hmem b

theorem crossed_normalizeRange {R : Type} (api : BytesRangeApi R) {value : JsValue}
    {context : Context} {result : JsRange} (h : normalizeRange value context = .ok result) :
    ∃ range, Denotes value range ∧ byteRange api result.crossed.kind result.crossed.offset
      result.crossed.length = .ok (range.meaning api) := by
  obtain ⟨range, hdenotes, hfits, rfl⟩ := denotes_of_normalizeRange h
  refine ⟨range, hdenotes, ?_⟩
  rw [crossed_of]
  exact byteRange_encode hfits

/-! ## Ranges beyond 64 bits -/

/-- Nothing is done for a range of `length` bytes from `offset` on, on any layer. -/
structure OverflowRefused {R : Type} (api : BytesRangeApi R) (offset length : UInt64) : Prop where
  native : ∀ range : Native.ByteRangeV1, range.kind = RANGE_OFFSET_LENGTH →
    range.offset = offset → range.length = length →
    Native.parseRange api range = .error .abiMismatch ∧
      ∀ {σ β : Type} (work : R → Call σ Native.CallFailure β) (s : σ),
        Native.readerRead api range work s = (.error .abiMismatch, s)
  bridge : byteRange api RANGE_OFFSET_LENGTH offset length = .error invalidRange
  read : ∀ {σ : Type} (texts : ReadTexts)
    (optionalOwnedUtf8Buffer : UInt32 → σ → Except BridgeError (Option String))
    (startReadTask : OpendalMbt.ReadOptions R → Call σ BridgeError UInt32) (s : σ),
    operatorReadOptionsStart api texts ⟨RANGE_OFFSET_LENGTH, offset, length⟩
      optionalOwnedUtf8Buffer startReadTask s = (.error invalidRange, s)
  readStream : ∀ {σ : Type} (texts : ReadTexts)
    (optionalOwnedUtf8Buffer : UInt32 → σ → Except BridgeError (Option String))
    (startTask : Bridge.ReadStreamOptions R → Call σ BridgeError UInt32) (chunkSize : UInt32)
    (s : σ), ∃ error, operatorReadStreamStart api texts ⟨RANGE_OFFSET_LENGTH, offset, length⟩
      optionalOwnedUtf8Buffer startTask chunkSize s = (.error error, s)

theorem overflowRefused {R : Type} (api : BytesRangeApi R) {offset length : UInt64}
    (h : UInt64.size ≤ offset.toNat + length.toNat) : OverflowRefused api offset length where
  native := by
    intro range hkind hoffset hlength
    have hrange : UInt64.size ≤ range.offset.toNat + range.length.toNat := by
      rw [hoffset, hlength]
      exact h
    exact ⟨Native.parseRange_overflow hkind hrange,
      fun work s => Native.readerRead_overflow hkind hrange work s⟩
  bridge := byteRange_overflow h
  read := fun _ _ start s => operatorReadOptionsStart_overflow h s start
  readStream := fun _ _ start chunkSize s => operatorReadStreamStart_overflow h s start chunkSize

/-- The same in JavaScript, where the numbers are not bounded. -/
structure ObjectRefused (property : String → JsValue) : Prop where
  error : ∀ context, ∃ failure, normalizeRange (.object property) context = .error failure
  read : ∀ (path : PathValue) (options : Browser.ReadOptions) (context : Context),
    options.range = rangeOption (.object property) context → (Browser.read path options).StartsNothing
  readStream : ∀ (path : PathValue) (options : Browser.ReadStreamOptions) (context : Context),
    options.range = rangeOption (.object property) context →
      (openReadStream path options).StartsNothing

theorem objectRefused {property : String → JsValue}
    (h : ∀ context, ∃ failure, normalizeRange (.object property) context = .error failure) :
    ObjectRefused property where
  error := h
  read := by
    intro path options context hrange
    obtain ⟨failure, hfailure⟩ := h context
    refine startsNothing_read (?_ : options.range = .error failure)
    rw [hrange, rangeOption, hfailure]
    rfl
  readStream := by
    intro path options context hrange
    obtain ⟨failure, hfailure⟩ := h context
    refine startsNothing_openReadStream (?_ : options.range = .error failure)
    rw [hrange, rangeOption, hfailure]
    rfl

/-- The codecs of the three layers agree. -/
theorem rangeCodecs_agree {R : Type} (api : BytesRangeApi R) :
    (∀ range : Native.ByteRangeV1, range.WellFormed →
      (Native.parseRange api range).toOption =
        (byteRange api range.kind range.offset range.length).toOption) ∧
    (∀ kind offset length r, byteRange api kind offset length = .ok r ↔
      ∃ range : ByteRange, range.Fits ∧ range.encode = ⟨kind, offset, length⟩ ∧
        r = range.meaning api) ∧
    (∀ value context result, normalizeRange value context = .ok result →
      ∃ range, Denotes value range ∧ byteRange api result.crossed.kind result.crossed.offset
        result.crossed.length = .ok (range.meaning api)) ∧
    (∀ offset length : UInt64, UInt64.size ≤ offset.toNat + length.toNat →
      OverflowRefused api offset length) ∧
    (∀ (property : String → JsValue) (offset length : Int),
      (property "kind").IsText "Range" → (property "offset").integer = some offset →
      (property "length").integer = some length → UINT64_MAX < offset + length →
      ObjectRefused property) := by
  refine ⟨?_, ?_, ?_, ?_, ?_⟩
  · intro range hformed
    exact Native.toOption_parseRange hformed
  · intro kind offset length r
    exact byteRange_eq_ok
  · intro value context result h
    exact crossed_normalizeRange api h
  · intro offset length h
    exact overflowRefused api h
  · intro property offset length hkind hoffset hlength h
    exact objectRefused (normalizeRange_overflow hkind hoffset hlength h)

end OpendalMbt.Browser
