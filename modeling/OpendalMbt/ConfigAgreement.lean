import OpendalMbt.Bridge.ErrorSlot
import OpendalMbt.Browser.TextArgument
import OpendalMbt.Native.OperatorEntries
import Mathlib.Data.List.Nodup

/-!
# Configurations on both sides

A list of pairs becomes the configuration of an operator: `read_config` of
`native/rust/src/lib.rs` reads them out of views, `normalizeConfig` of
`wasm/browser-runtime/index.mjs` checks them and `push_operator_config` of
`wasm/browser-bridge/src/lib.rs` takes them one by one.

* `readConfigItems_eq_ok`, `pushConfig_eq_ok`: the lists that each side accepts;
* `Accounted`: the byte counter of a builder, kept by every push;
* `config_acceptance`: both sides accept the same lists, unchanged and in their order.
-/

namespace OpendalMbt

open Codec Bridge Browser Native Transition

/-- The size of the texts. -/
def configSize (pairs : List (String × String)) : Nat :=
  (pairs.map fun pair => pair.1.utf8ByteSize + pair.2.utf8ByteSize).sum

/-- No two keys are the same up to ASCII case. -/
def DistinctKeys (pairs : List (String × String)) : Prop :=
  (pairs.map fun pair => pair.1.toLower).Nodup

instance (pairs : List (String × String)) : Decidable (DistinctKeys pairs) :=
  inferInstanceAs (Decidable (List.Nodup _))

@[simp] theorem configSize_nil : configSize [] = 0 := rfl

@[simp] theorem configSize_cons (pair : String × String) (pairs : List (String × String)) :
    configSize (pair :: pairs) =
      pair.1.utf8ByteSize + pair.2.utf8ByteSize + configSize pairs := by
  simp [configSize]

@[simp] theorem configSize_append (pairs later : List (String × String)) :
    configSize (pairs ++ later) = configSize pairs + configSize later := by
  simp [configSize]

theorem distinctKeys_cons {pair : String × String} {pairs : List (String × String)} :
    DistinctKeys (pair :: pairs) ↔
      (∀ p ∈ pairs, p.1.toLower ≠ pair.1.toLower) ∧ DistinctKeys pairs := by
  simp [DistinctKeys]

/-! ## Native -/

section Native

/-- How a pair stands in the array of a caller. -/
def kvView (pair : String × String) : Entry.KvV1 where
  key := stringView pair.1
  value := stringView pair.2

variable {pairs out : List (String × String)} {keys : List String}

/-- The items are read when no key is among those before. -/
theorem readConfigItems_eq_ok (hsize : configSize pairs ≤ isizeMax) :
    Entry.readConfigItems keys (pairs.map kvView) = .ok out ↔
      DistinctKeys pairs ∧ (∀ pair ∈ pairs, pair.1.toLower ∉ keys) ∧ out = pairs := by
  induction pairs generalizing keys out with
  | nil =>
    simp only [List.map_nil, Entry.readConfigItems, Except.ok.injEq, DistinctKeys, List.nodup_nil,
      List.not_mem_nil, false_implies, implies_true, true_and]
    exact eq_comm
  | cons pair pairs ih =>
    rw [configSize_cons] at hsize
    have hkey := @readTextValue_stringView pair.1 "config key" (by omega)
    have hvalue := @readTextValue_stringView pair.2 "config value" (by omega)
    have hrest := @ih
    rw [List.map_cons, Entry.readConfigItems]
    unfold kvView
    dsimp only
    rw [CallResult.bind_of_ok hkey]
    by_cases hmem : pair.1.toLower ∈ keys
    · rw [if_pos hmem]
      simp only [reduceCtorEq, false_iff, not_and]
      intro _ hall
      exact absurd hmem (hall pair (List.mem_cons_self ..))
    · rw [if_neg hmem, CallResult.bind_of_ok hvalue]
      have hkeys : (∀ p ∈ pairs, p.1.toLower ∉ pair.1.toLower :: keys) ↔
          (∀ p ∈ pairs, p.1.toLower ≠ pair.1.toLower) ∧ ∀ p ∈ pairs, p.1.toLower ∉ keys := by
        simp only [List.mem_cons, not_or]
        exact ⟨fun h => ⟨fun p hp => (h p hp).1, fun p hp => (h p hp).2⟩,
          fun h p hp => ⟨h.1 p hp, h.2 p hp⟩⟩
      have hrest : ∀ tail, Entry.readConfigItems (pair.1.toLower :: keys) (pairs.map kvView) =
          .ok tail ↔ DistinctKeys pairs ∧ ((∀ p ∈ pairs, p.1.toLower ≠ pair.1.toLower) ∧
            ∀ p ∈ pairs, p.1.toLower ∉ keys) ∧ tail = pairs := by
        intro tail
        rw [ih (by omega), hkeys]
      rw [distinctKeys_cons, List.forall_mem_cons]
      constructor
      · intro h
        cases htail : Entry.readConfigItems (pair.1.toLower :: keys) (pairs.map kvView) with
        | error e =>
          unfold kvView at htail
          rw [htail] at h
          cases h
        | ok tail =>
          obtain ⟨hdistinct, ⟨hnew, hold⟩, rfl⟩ := (hrest tail).mp htail
          unfold kvView at htail
          rw [htail] at h
          cases h
          exact ⟨⟨hnew, hdistinct⟩, ⟨hmem, hold⟩, rfl⟩
      · rintro ⟨⟨hnew, hdistinct⟩, ⟨-, hold⟩, rfl⟩
        have htail := (hrest pairs).mpr ⟨hdistinct, ⟨hnew, hold⟩, rfl⟩
        unfold kvView at htail
        rw [htail]
        rfl

theorem readConfig_eq_ok (hcount : pairs.length ≤ 1024) (hsize : configSize pairs ≤ isizeMax) :
    Entry.readConfig (.valid (pairs.map kvView)) pairs.length = .ok out ↔
      DistinctKeys pairs ∧ out = pairs := by
  have hmax : isizeMax = 9223372036854775807 := by decide
  have hread : Entry.readArray Entry.sizeOfKvV1 (.valid (pairs.map kvView)) pairs.length =
      .ok (pairs.map kvView) := by
    have hlen : checkedLen pairs.length = .ok pairs.length := by
      unfold checkedLen
      rw [if_neg (by omega)]
    unfold Entry.readArray
    rw [CallResult.bind_of_ok hlen]
    unfold Entry.sizeOfKvV1
    rw [if_neg (by omega)]
    by_cases hnil : pairs.length = 0
    · rw [if_pos hnil, List.eq_nil_of_length_eq_zero hnil, List.map_nil]
    · rw [if_neg hnil]
      dsimp only
      rw [List.take_of_length_le (by simp)]
  unfold Entry.readConfig
  rw [CallResult.bind_of_ok hread, readConfigItems_eq_ok hsize]
  simp

end Native

/-! ## Browser -/

section Browser

/-- A configuration from JavaScript, with the entries of a `Map` or of a plain object. -/
inductive ConfigValue where
  | map (entries : List (JsValue × JsValue))
  | plainObject (entries : List (JsString × JsValue))
  | other

def ConfigValue.entries? : ConfigValue → Option (List (JsValue × JsValue))
  | .map entries => some entries
  | .plainObject entries => some (entries.map fun entry => (.string entry.1, entry.2))
  | .other => none

/-- How a string reads in a message. -/
def shownText (text : JsString) : String := String.ofList (scalarValues text)

/-- The loop over the entries, with the bytes of those before. -/
def normalizeEntries (method : Option (JsString → Bool)) (context : Context) :
    Nat → List (JsValue × JsValue) → Except Failure (List (JsString × JsString))
  | _, [] => .ok []
  | encodedBytes, (key, value) :: entries => do
    let normalizedKey ← textValue method key "config key" context
    let normalizedValue ← textValue method value s!"config value for {shownText normalizedKey}"
      context
    let encodedBytes :=
      encodedBytes + (textEncode normalizedKey).length + (textEncode normalizedValue).length
    if maxConfigBytes < encodedBytes then
      .error (invalid "config exceeds the 1 MiB browser bridge limit" context)
    else
      let normalized ← normalizeEntries method context encodedBytes entries
      .ok ((normalizedKey, normalizedValue) :: normalized)

def normalizeConfig (method : Option (JsString → Bool)) (config : ConfigValue)
    (context : Context) : Except Failure (List (JsString × JsString)) :=
  match config.entries? with
  | none => .error (invalid "config must be a Map or plain object" context)
  | some entries =>
    if maxConfigEntries < entries.length then
      .error (invalid "config exceeds the 1024-entry browser bridge limit" context)
    else normalizeEntries method context 0 entries

/-- The pushes of the entries, in their order. -/
def pushConfig {O : Type} (lib : Library O) (builder : OperatorBuilder)
    (pairs : List (String × String)) : Except BridgeError OperatorBuilder :=
  pairs.foldlM (fun builder pair => pushOperatorConfig lib builder pair.1 pair.2) builder

/-- A string as the bridge finds it in the buffer of `putText`. -/
def deliveredText (text : JsString) : Option String := utf8Decode (textEncode text)

/-- `normalizeConfig` and the pushes of what it returns. -/
def browserConfig {O : Type} (method : Option (JsString → Bool)) (lib : Library O)
    (scheme : String) (config : ConfigValue) (context : Context) : Option OperatorBuilder := do
  let entries ← (normalizeConfig method config context).toOption
  let pairs ← entries.mapM fun entry => do
    let key ← deliveredText entry.1
    let value ← deliveredText entry.2
    some (key, value)
  (pushConfig lib ⟨scheme, [], 0⟩ pairs).toOption

/-! ### What is normalized -/

variable {method : Option (JsString → Bool)} {context : Context}

/-- The method of an engine tells whether a string is well formed. -/
def EngineMethod (method : Option (JsString → Bool)) : Prop :=
  ∀ m, method = some m → ∀ s, m s = wellFormed s

theorem textValue_exactText (hmethod : EngineMethod method) (text label : String) :
    textValue method (.string (exactText text)) label context = .ok (exactText text) := by
  have hformed : isWellFormed method (exactText text) = true := by
    cases method with
    | none => exact isWellFormed_of_wellFormed (wellFormed_exactText text)
    | some m => exact (hmethod m rfl _).trans (wellFormed_exactText text)
  unfold textValue
  dsimp only
  rw [if_pos hformed]

/-- A pair of texts among the entries of a configuration. -/
def jsEntry (pair : String × String) : JsValue × JsValue :=
  (.string (exactText pair.1), .string (exactText pair.2))

def jsPair (pair : String × String) : JsString × JsString := (exactText pair.1, exactText pair.2)

theorem normalizeEntries_eq (hmethod : EngineMethod method) {pairs : List (String × String)}
    {encodedBytes : Nat} (hsize : encodedBytes + configSize pairs ≤ maxConfigBytes) :
    normalizeEntries method context encodedBytes (pairs.map jsEntry) = .ok (pairs.map jsPair) := by
  induction pairs generalizing encodedBytes with
  | nil => rfl
  | cons pair pairs ih =>
    rw [configSize_cons] at hsize
    rw [List.map_cons, List.map_cons, jsEntry, normalizeEntries,
      CallResult.bind_of_ok (textValue_exactText hmethod pair.1 _),
      CallResult.bind_of_ok (textValue_exactText hmethod pair.2 _)]
    dsimp only
    rw [textEncode_exactText, textEncode_exactText, length_utf8Bytes, length_utf8Bytes,
      if_neg (by omega), ih (by omega)]
    rfl

theorem normalizeConfig_eq (hmethod : EngineMethod method) {pairs : List (String × String)}
    {config : ConfigValue} (hentries : config.entries? = some (pairs.map jsEntry))
    (hcount : pairs.length ≤ maxConfigEntries) (hsize : configSize pairs ≤ maxConfigBytes) :
    normalizeConfig method config context = .ok (pairs.map jsPair) := by
  unfold normalizeConfig
  rw [hentries]
  dsimp only
  rw [List.length_map, if_neg (by omega), normalizeEntries_eq hmethod (by omega)]

theorem deliveredText_exactText (text : String) : deliveredText (exactText text) = some text := by
  rw [deliveredText, textEncode_exactText, utf8Decode_utf8Bytes]

/-- What `putText` hands over are the texts themselves. -/
theorem delivered_pairs (pairs : List (String × String)) :
    ((pairs.map jsPair).mapM fun entry => do
      let key ← deliveredText entry.1
      let value ← deliveredText entry.2
      some (key, value)) = some pairs := by
  induction pairs with
  | nil => rfl
  | cons pair pairs ih =>
    rw [List.map_cons, List.mapM_cons, ih]
    simp only [jsPair, deliveredText_exactText]
    rfl

/-! ### What is pushed -/

variable {O : Type} {lib : Library O} {builder builder' : OperatorBuilder}

/-- The counter of a builder is the size of its pairs, and within the limits. -/
structure Accounted (builder : OperatorBuilder) : Prop where
  bytes : builder.configBytes = configSize builder.config
  bytes_le : builder.configBytes ≤ maxConfigBytes
  entries_le : builder.config.length ≤ maxConfigEntries

theorem accounted_empty (scheme : String) : Accounted ⟨scheme, [], 0⟩ :=
  ⟨rfl, Nat.zero_le _, Nat.zero_le _⟩

theorem pushOperatorConfig_eq_ok {key value : String} :
    pushOperatorConfig lib builder key value = .ok builder' ↔
      (∀ entry ∈ builder.config, entry.1.toLower ≠ key.toLower) ∧
        builder.config.length < maxConfigEntries ∧
        builder.configBytes + key.utf8ByteSize + value.utf8ByteSize ≤ maxConfigBytes ∧
        lib.tryReserve 1 = true ∧
        builder' = { builder with
          config := builder.config ++ [(key, value)]
          configBytes := builder.configBytes + key.utf8ByteSize + value.utf8ByteSize } := by
  have hany : (builder.config.any fun entry => entry.1.toLower == key.toLower) = true ↔
      ¬ ∀ entry ∈ builder.config, entry.1.toLower ≠ key.toLower := by
    simp
  unfold pushOperatorConfig
  dsimp only
  split_ifs with hduplicate hentries hbytes hreserve
  · have hnot := hany.mp hduplicate
    simp only [false_iff, not_and]
    exact fun hall => absurd hall hnot
  · simp only [false_iff, not_and]
    omega
  · simp only [false_iff, not_and]
    omega
  · rw [hany, not_not] at hduplicate
    simp only [Except.ok.injEq, hreserve, true_and]
    constructor
    · intro h
      exact ⟨hduplicate, by omega, by omega, h.symm⟩
    · intro h
      exact h.2.2.2.symm
  · simp [hreserve]

theorem Accounted.push {key value : String} (h : Accounted builder)
    (hpush : pushOperatorConfig lib builder key value = .ok builder') : Accounted builder' := by
  obtain ⟨-, hentries, hbytes, -, rfl⟩ := pushOperatorConfig_eq_ok.mp hpush
  refine ⟨?_, hbytes, ?_⟩
  · dsimp only
    rw [configSize_append, configSize_cons, configSize_nil, h.bytes]
    dsimp only
    omega
  · rw [List.length_append, List.length_singleton]
    omega

theorem Accounted.pushConfig {pairs : List (String × String)} (h : Accounted builder)
    (hpush : pushConfig lib builder pairs = .ok builder') : Accounted builder' := by
  induction pairs generalizing builder with
  | nil =>
    cases hpush
    exact h
  | cons pair pairs ih =>
    unfold OpendalMbt.pushConfig at hpush
    rw [List.foldlM_cons] at hpush
    cases hfirst : pushOperatorConfig lib builder pair.1 pair.2 with
    | error e =>
      rw [hfirst] at hpush
      cases hpush
    | ok next =>
      rw [hfirst] at hpush
      exact ih (h.push hfirst) hpush

/-- The pushes all succeed when no two keys are the same. -/
theorem pushConfig_eq_ok {pairs : List (String × String)} (hreserve : lib.tryReserve 1 = true)
    (hcount : builder.config.length + pairs.length ≤ maxConfigEntries)
    (hsize : builder.configBytes + configSize pairs ≤ maxConfigBytes) :
    pushConfig lib builder pairs = .ok builder' ↔
      DistinctKeys pairs ∧
        (∀ pair ∈ pairs, ∀ entry ∈ builder.config, entry.1.toLower ≠ pair.1.toLower) ∧
        builder' = { builder with
          config := builder.config ++ pairs
          configBytes := builder.configBytes + configSize pairs } := by
  induction pairs generalizing builder with
  | nil =>
    simp only [pushConfig, List.foldlM_nil, configSize_nil, List.append_nil, Nat.add_zero,
      DistinctKeys, List.map_nil, List.nodup_nil, List.not_mem_nil, false_implies, implies_true,
      true_and]
    constructor
    · intro h
      cases h
      rfl
    · intro h
      rw [h]
      rfl
  | cons pair pairs ih =>
    rw [List.length_cons] at hcount
    rw [configSize_cons] at hsize
    unfold pushConfig at ih ⊢
    rw [List.foldlM_cons, distinctKeys_cons, List.forall_mem_cons]
    have hpush := fun next => @pushOperatorConfig_eq_ok O lib builder next pair.1 pair.2
    cases hfirst : pushOperatorConfig lib builder pair.1 pair.2 with
    | error e =>
      constructor
      · intro h
        cases h
      · rintro ⟨-, ⟨hnew, -⟩, -⟩
        have hok := (hpush _).mpr ⟨hnew, by omega, by omega, hreserve, rfl⟩
        rw [hfirst] at hok
        cases hok
    | ok next =>
      obtain ⟨hnew, -, -, -, rfl⟩ := (hpush next).mp hfirst
      have hrest := @ih { builder with
          config := builder.config ++ [(pair.1, pair.2)]
          configBytes := builder.configBytes + pair.1.utf8ByteSize + pair.2.utf8ByteSize }
        (by rw [List.length_append, List.length_singleton]; omega) (by dsimp only; omega)
      refine Iff.trans hrest ?_
      have hmem : (∀ p ∈ pairs, ∀ entry ∈ builder.config ++ [(pair.1, pair.2)],
          entry.1.toLower ≠ p.1.toLower) ↔ (∀ p ∈ pairs, p.1.toLower ≠ pair.1.toLower) ∧
            ∀ p ∈ pairs, ∀ entry ∈ builder.config, entry.1.toLower ≠ p.1.toLower := by
        constructor
        · intro h
          constructor
          · intro p hp
            exact (h p hp (pair.1, pair.2) (by simp)).symm
          · intro p hp entry hentry
            exact h p hp entry (List.mem_append_left _ hentry)
        · intro h p hp entry hentry
          rcases List.mem_append.mp hentry with hentry | hentry
          · exact h.2 p hp entry hentry
          · rw [List.mem_singleton.mp hentry]
            exact (h.1 p hp).symm
      dsimp only
      rw [hmem, List.append_assoc, configSize_cons]
      have hbytes : builder.configBytes + pair.1.utf8ByteSize + pair.2.utf8ByteSize +
          configSize pairs = builder.configBytes +
            (pair.1.utf8ByteSize + pair.2.utf8ByteSize + configSize pairs) := by omega
      rw [hbytes]
      constructor
      · rintro ⟨hdistinct, ⟨hfresh, hold⟩, hresult⟩
        exact ⟨⟨hfresh, hdistinct⟩, ⟨hnew, hold⟩, hresult⟩
      · rintro ⟨⟨hfresh, hdistinct⟩, ⟨-, hold⟩, hresult⟩
        exact ⟨hdistinct, ⟨hfresh, hold⟩, hresult⟩

theorem browserConfig_eq_some (hmethod : EngineMethod method) (hreserve : lib.tryReserve 1 = true)
    {scheme : String} {pairs : List (String × String)} {config : ConfigValue}
    (hentries : config.entries? = some (pairs.map jsEntry))
    (hcount : pairs.length ≤ maxConfigEntries) (hsize : configSize pairs ≤ maxConfigBytes) :
    browserConfig method lib scheme config context = some builder ↔
      DistinctKeys pairs ∧ builder = ⟨scheme, pairs, configSize pairs⟩ := by
  have hrun : browserConfig method lib scheme config context =
      (pushConfig lib ⟨scheme, [], 0⟩ pairs).toOption := by
    unfold browserConfig
    rw [normalizeConfig_eq hmethod hentries hcount hsize]
    simp only [Except.toOption, Option.bind_eq_bind, Option.bind_some]
    have hpairs := delivered_pairs pairs
    simp only [Option.bind_eq_bind] at hpairs
    rw [hpairs, Option.bind_some]
  have hpush : pushConfig lib ⟨scheme, [], 0⟩ pairs = .ok builder ↔ _ :=
    pushConfig_eq_ok hreserve (by simpa using hcount) (by simpa using hsize)
  have hoption : ∀ x : Except BridgeError OperatorBuilder, x.toOption = some builder ↔
      x = .ok builder := by
    intro x
    cases x <;> simp [Except.toOption]
  rw [hrun, hoption, hpush]
  simp

/-- What only looks at the state leaves it to what follows. -/
theorem error_of_look {σ ε α β : Type} {x : Call σ ε α} {f : α → Call σ ε β} {s t : σ} {e : ε}
    (hx : (x s).2 = s) (hf : ∀ a, f a s = (.error e, t) → t = s)
    (h : (x >>= f) s = (.error e, t)) : t = s := by
  cases hrun : x s with
  | mk result u =>
    rw [hrun] at hx
    cases hx
    cases result with
    | error e' =>
      rw [Call.bind_apply_error hrun] at h
      cases h
      rfl
    | ok a =>
      rw [Call.bind_apply_ok hrun] at h
      exact hf a h

/-- A pair that is refused leaves every builder as it was. -/
theorem operatorBuilderSet_error {S W L : Type} {builderHandle keyHandle valueHandle : UInt32}
    {s s' : BridgeState O S W L} {e : BridgeError}
    (h : operatorBuilderSet lib builderHandle keyHandle valueHandle s = (.error e, s')) :
    s' = s := by
  unfold operatorBuilderSet at h
  apply error_of_look rfl ?_ h
  intro key
  apply error_of_look rfl
  intro value
  apply error_of_look rfl
  intro builder
  apply error_of_look rfl
  intro builder' hmodify
  cases hmodify

end Browser

/-- Within the limits of the browser, both sides accept the lists without two keys that are the
same up to ASCII case, and keep the pairs and their order. The counter of a builder is always the
size of its pairs, and a pair that is refused changes nothing. -/
theorem config_acceptance {O S W L : Type} {method : Option (JsString → Bool)}
    (hmethod : EngineMethod method) {lib : Library O} (hreserve : lib.tryReserve 1 = true)
    (scheme : String) (context : Context) {pairs : List (String × String)}
    (hcount : pairs.length ≤ 1024) (hsize : configSize pairs ≤ 1024 * 1024) :
    (∀ out, Entry.readConfig (.valid (pairs.map kvView)) pairs.length = .ok out ↔
        DistinctKeys pairs ∧ out = pairs) ∧
      (∀ config : ConfigValue, config.entries? = some (pairs.map jsEntry) → ∀ builder,
        browserConfig method lib scheme config context = some builder ↔
          DistinctKeys pairs ∧ builder = ⟨scheme, pairs, configSize pairs⟩) ∧
      (∀ pushed builder, pushConfig lib ⟨scheme, [], 0⟩ pushed = .ok builder →
        builder.configBytes = configSize builder.config ∧
          builder.configBytes ≤ maxConfigBytes ∧ builder.config.length ≤ maxConfigEntries) ∧
      ∀ (s s' : BridgeState O S W L) builderHandle keyHandle valueHandle e,
        operatorBuilderSet lib builderHandle keyHandle valueHandle s = (.error e, s') → s' = s := by
  refine ⟨?_, ?_, ?_, ?_⟩
  · intro out
    have hmax : isizeMax = 9223372036854775807 := by decide
    exact readConfig_eq_ok hcount (by omega)
  · intro config hentries builder
    exact browserConfig_eq_some hmethod hreserve hentries hcount hsize
  · intro pushed builder hpush
    have haccounted := (accounted_empty scheme).pushConfig hpush
    exact ⟨haccounted.bytes, haccounted.bytes_le, haccounted.entries_le⟩
  · intro s s' builderHandle keyHandle valueHandle e h
    exact operatorBuilderSet_error h

/-- Two keys that differ in case only are refused. -/
theorem config_acceptance_case :
    (∀ out, Entry.readConfig (.valid ([("root", "/"), ("Root", "/a")].map kvView)) 2 = .ok out ↔
        DistinctKeys [("root", "/"), ("Root", "/a")] ∧ out = [("root", "/"), ("Root", "/a")]) ∧
      ¬ DistinctKeys [("root", "/"), ("Root", "/a")] := by
  refine ⟨?_, ?_⟩
  · exact (@config_acceptance Empty Unit Unit Unit none (fun m hm => by cases hm) emptyLibrary rfl
      "fs" ⟨"Check", none, none⟩ [("root", "/"), ("Root", "/a")] (by decide) (by decide)).1
  · have hlower : "root".toLower = "Root".toLower := by
      show String.map Char.toLower "root" = String.map Char.toLower "Root"
      apply String.toList_injective
      simp
    simp [DistinctKeys, hlower]

end OpendalMbt
