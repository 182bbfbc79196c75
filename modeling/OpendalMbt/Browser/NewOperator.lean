import OpendalMbt.Browser.HandleContract
import OpendalMbt.ConfigAgreement

/-!
# A new operator

`operator` of `class OpenDalBrowserRuntime` in `wasm/browser-runtime/index.mjs`, against the
handle contract of the bridge.

* `putBytes_error_iff`: the answers with which `putBytes` throws;
* `setEntry_cases`, `setEntries_cases`: the handle of a key is lost when its value is refused;
* `owns_buildOperator`, `owns_newBuilder`: what the parts own;
* `operator_kept_iff`: no handle is lost exactly when no value is refused.
-/

namespace OpendalMbt.Browser

open Codec Bridge Transition

structure BrowserOperator where
  handle : UInt32
  info : OperatorInfoValue
  deriving DecidableEq, Repr

namespace HandleCall

/-! ## The call -/

def putText (value : JsString) (context : Context) : HandleCall UInt32 :=
  putBytes (textEncode value) context

/-- `takeInfoText` of `operatorInfo`. -/
def takeInfoText (context : Context) (fallback : String) : HandleCall JsString := do
  let made ← make .buffer
  let handle ← expectHandle made context fallback
  takeText handle

/-- `word` of `capability`. -/
def capabilityWord (context : Context) : HandleCall Nat := do
  let value ← ask
  let errorHandle ← make .error
  if errorHandle ≠ 0 then do
    let error ← takeError errorHandle context
    Call.throw (.outcome error)
  else pure (UInt64.ofInt value).toNat

def capability (context : Context) : HandleCall Capability := do
  let word0 ← capabilityWord context
  let deleteMaxSizeValue ← capabilityWord context
  pure (capabilityOf word0 deleteMaxSizeValue)

def operatorInfo (context : Context) : HandleCall OperatorInfoValue := do
  let scheme ← takeInfoText context "could not query operator scheme"
  let root ← takeInfoText context "could not query operator root"
  let name ← takeInfoText context "could not query operator name"
  let capability ← capability context
  pure { scheme, root, name, capability }

def newBuilder (scheme : JsString) (context : Context) : HandleCall UInt32 := do
  let schemeHandle ← putText scheme context
  Call.tryFinally
    (do
      let made ← make .operatorBuilder
      expectHandle made context "could not create an OpenDAL operator builder")
    (released ⟨.buffer, schemeHandle⟩)

/-- One turn of the loop over the configuration. The two buffers are made before the `try`. -/
def setEntry (context : Context) (entry : JsString × JsString) : HandleCall Unit := do
  let keyHandle ← putText entry.1 context
  let valueHandle ← putText entry.2 context
  Call.tryFinally
    (do
      let status ← ask
      expectStatus status context "could not set OpenDAL operator configuration")
    (fun b => released ⟨.buffer, valueHandle⟩ (released ⟨.buffer, keyHandle⟩ b))

def setEntries (context : Context) : List (JsString × JsString) → HandleCall Unit
  | [] => pure ()
  | entry :: entries => do
    setEntry context entry
    setEntries context entries

/-- The operator is given back when it cannot be described. -/
def buildOperator (context : Context) : HandleCall BrowserOperator := do
  let made ← make .operator
  let operatorHandle ← expectHandle made context "could not build an OpenDAL operator"
  Call.onError
    (do
      let info ← operatorInfo context
      let operator : BrowserOperator := { handle := operatorHandle, info }
      pure operator)
    (released ⟨.operator, operatorHandle⟩)

def newOperatorContext : Context :=
  { operation := "NewOperator", path := none, destinationPath := none }

/-- The `try` of `operator` with its `finally`. -/
def newOperator (method : Option (JsString → Bool)) (schemeValue : JsValue)
    (config : ConfigValue) : HandleCall BrowserOperator := do
  let scheme ← Call.lift (textValue method schemeValue "scheme" newOperatorContext)
  let configEntries ← Call.lift (normalizeConfig method config newOperatorContext)
  let builder ← newBuilder scheme newOperatorContext
  Call.tryFinally
    (do
      setEntries newOperatorContext configEntries
      buildOperator newOperatorContext)
    (released ⟨.operatorBuilder, builder⟩)

/-- `operator` of a runtime that may be closed. -/
def operator (closed : Bool) (method : Option (JsString → Bool)) (schemeValue : JsValue)
    (config : ConfigValue) (b : HandleBridge) : Answer BrowserOperator × HandleBridge :=
  if closed then (.ok (.failed (closedError newOperatorContext)), b)
  else
    match newOperator method schemeValue config b with
    | (.ok operator, b) => (.ok (.ok operator), b)
    | (.error (.outcome error), b) => (.ok (.failed error), b)
    | (.error failure, b) => (.error failure, b)

/-! ## What a new operator is to own -/

/-- Beside `owned`, an operator that is returned is live and nothing else. -/
def Kept (owned : Multiset BridgeHandle) : Answer BrowserOperator × HandleBridge → Prop
  | (.ok (.ok operator), b) =>
    b.ledger.Balanced ({⟨.operator, operator.handle⟩} + owned)
  | (_, b) => b.ledger.Balanced owned

/-- The bridge has no buffer for the bytes, or not all of its windows. -/
def PutRefused (bytes : List UInt8) (b : HandleBridge) : Prop :=
  let code := UInt32.ofInt (b.world.answers.headD 0)
  code = 0 ∨ Issued b code ∨
    ∃ k < windowCount bytes.length, b.world.answers.tail.getD k 0 = 0

/-- After the calls before it the buffer of a value is refused, and not that of its key. -/
def ValueRefused (context : Context) : List (JsString × JsString) → HandleBridge → Prop
  | [], _ => False
  | entry :: entries, b =>
    (∃ keyHandle b', putText entry.1 context b = (.ok keyHandle, b') ∧
      PutRefused (textEncode entry.2) b') ∨
    ∃ b', setEntry context entry b = (.ok (), b') ∧ ValueRefused context entries b'

/-- The loop over the configuration is reached, and a value is refused in it. -/
def ConfigRefused (method : Option (JsString → Bool)) (schemeValue : JsValue)
    (config : ConfigValue) (b : HandleBridge) : Prop :=
  ∃ scheme entries builder b', textValue method schemeValue "scheme" newOperatorContext = .ok scheme ∧
    normalizeConfig method config newOperatorContext = .ok entries ∧
    newBuilder scheme newOperatorContext b = (.ok builder, b') ∧
    ValueRefused newOperatorContext entries b'

/-! ## Refused buffers -/

section Put

variable {bytes : List UInt8} {context : Context} {b : HandleBridge} {message : String}

theorem ask_eq (b : HandleBridge) :
    ask b = (.ok (b.world.answers.headD 0),
      { b with world := { b.world with answers := b.world.answers.tail } }) := by
  unfold ask
  cases hanswers : b.world.answers with
  | nil =>
    simp only [List.headD_nil, List.tail_nil]
    rw [← hanswers]
  | cons answer answers => rfl

theorem raise_error {α : Type} :
    ∃ failure b', (raise takeLastError context message : HandleCall α) b =
      (.error failure, b') := by
  unfold raise
  cases htake : takeLastError context message b with
  | mk result b' =>
    cases result with
    | error failure => exact ⟨failure, b', Call.bind_apply_error htake⟩
    | ok error => exact ⟨.outcome error, b', Call.bind_apply_ok htake⟩

/-- The loop of `putBytes` throws when a window is refused. -/
theorem writeWindows_error_iff {windows : Nat} :
    (∃ failure b', writeWindows context windows b = (.error failure, b')) ↔
      ∃ k < windows, b.world.answers.getD k 0 = 0 := by
  induction windows generalizing b with
  | zero =>
    constructor
    · rintro ⟨failure, b', h⟩
      cases h
    · rintro ⟨k, hk, -⟩
      omega
  | succ windows ih =>
    unfold writeWindows
    rw [Call.bind_apply_ok (ask_eq b)]
    by_cases hpointer : b.world.answers.headD 0 = 0
    · rw [if_pos hpointer]
      constructor
      · intro _
        refine ⟨0, Nat.succ_pos windows, ?_⟩
        rw [← hpointer]
        cases b.world.answers <;> rfl
      · intro _
        exact raise_error
    · rw [if_neg hpointer, ih]
      have hhead : b.world.answers.getD 0 0 ≠ 0 := by
        intro hzero
        apply hpointer
        rw [← hzero]
        cases b.world.answers <;> rfl
      have htail : ∀ k, b.world.answers.tail.getD k 0 = b.world.answers.getD (k + 1) 0 := by
        intro k
        cases b.world.answers with
        | nil => rfl
        | cons answer answers => rfl
      constructor
      · rintro ⟨k, hk, hzero⟩
        exact ⟨k + 1, Nat.succ_lt_succ hk, (htail k).symm.trans hzero⟩
      · rintro ⟨k, hk, hzero⟩
        cases k with
        | zero => exact absurd hzero hhead
        | succ k => exact ⟨k, Nat.lt_of_succ_lt_succ hk, (htail k).trans hzero⟩

theorem onError_error_iff {α β : Type} (x : HandleCall α) (value : β)
    (cleanup : HandleBridge → HandleBridge) (b : HandleBridge) :
    (∃ failure b', Call.onError (do let _ ← x; pure value) cleanup b = (.error failure, b')) ↔
      ∃ failure b', x b = (.error failure, b') := by
  unfold Call.onError
  cases hx : x b with
  | mk result t =>
    cases result with
    | error failure =>
      rw [Call.bind_apply_error hx]
      exact iff_of_true ⟨failure, _, rfl⟩ ⟨failure, t, rfl⟩
    | ok answer =>
      rw [Call.bind_apply_ok hx]
      refine iff_of_false ?_ ?_
      · rintro ⟨failure, b', heq⟩
        cases heq
      · rintro ⟨failure, b', heq⟩
        cases heq

theorem putBytes_error_iff :
    (∃ failure b', putBytes bytes context b = (.error failure, b')) ↔ PutRefused bytes b := by
  have hmake : ∀ {c : UInt32}, UInt32.ofInt (b.world.answers.headD 0) = c →
      make .buffer b = given .buffer c
        { b with world := { b.world with answers := b.world.answers.tail } } := by
    intro c hc
    unfold make
    rw [Call.bind_apply_ok (ask_eq b), hc]
  unfold putBytes PutRefused
  dsimp only
  generalize UInt32.ofInt (b.world.answers.headD 0) = code at hmake ⊢
  have hmade := hmake rfl
  by_cases hold : code = 0 ∨ Issued b code
  · have hnone : make .buffer b =
        (.ok 0, { b with world := { b.world with answers := b.world.answers.tail } }) :=
      hmade.trans (if_pos hold)
    have hrefused : code = 0 ∨ Issued b code ∨
        ∃ k < windowCount bytes.length, b.world.answers.tail.getD k 0 = 0 := by
      rcases hold with hzero | hissued
      · exact .inl hzero
      · exact .inr (.inl hissued)
    refine iff_of_true ?_ hrefused
    obtain ⟨failure, b', hraise⟩ := @raise_error context
      { b with world := { b.world with answers := b.world.answers.tail } }
      "could not allocate a bridge buffer" UInt32
    refine ⟨failure, b', ?_⟩
    rw [Call.bind_apply_ok hnone]
    exact Call.bind_apply_error hraise
  · obtain ⟨hzero, hissued⟩ := not_or.mp hold
    have hnew : make .buffer b = (.ok code,
        { b with
          world := { b.world with answers := b.world.answers.tail }
          ledger := b.ledger.create ⟨.buffer, code⟩ }) :=
      hmade.trans (if_neg hold)
    have hexpect : ∀ b', expectHandle code context "could not allocate a bridge buffer" b' =
        (.ok code, b') := by
      intro b'
      unfold expectHandle
      rw [if_neg hzero]
      rfl
    rw [Call.bind_apply_ok hnew, Call.bind_apply_ok (hexpect _)]
    simp only [hzero, hissued, false_or]
    rw [← @writeWindows_error_iff context { b with
      world := { b.world with answers := b.world.answers.tail }
      ledger := b.ledger.create ⟨.buffer, code⟩ }]
    exact onError_error_iff _ _ _ _

end Put

/-! ## What the parts own -/

section Parts

variable {context : Context} {b : HandleBridge} {owned : Multiset BridgeHandle}

theorem owns_putText (value : JsString) (context : Context) :
    Owns 0 (putText value context) (fun handle => {⟨.buffer, handle⟩}) 0 :=
  owns_putBytes (textEncode value) context

theorem neutral_takeInfoText (fallback : String) :
    Neutral HandleBridge.ledger (takeInfoText context fallback) :=
  owns_make.bind fun _ => owns_expectHandle.bind fun _ => owns_takeText

theorem neutral_capabilityWord : Neutral HandleBridge.ledger (capabilityWord context) := by
  refine owns_ask ?_
  intro value
  refine owns_make.bind ?_
  intro errorHandle
  by_cases hzero : errorHandle = 0
  · rw [if_neg (not_not.mpr hzero), hzero, held_zero]
    exact Spends.pure _ rfl
  · rw [if_pos hzero, held_of_ne hzero]
    exact owns_takeError.bind fun error => Spends.throw _

theorem neutral_capability : Neutral HandleBridge.ledger (capability context) :=
  neutral_capabilityWord.bind fun word0 => neutral_capabilityWord.bind
    fun deleteMaxSizeValue => Spends.pure (capabilityOf word0 deleteMaxSizeValue) rfl

theorem neutral_operatorInfo : Neutral HandleBridge.ledger (operatorInfo context) := by
  refine (neutral_takeInfoText _).bind fun scheme => ?_
  refine (neutral_takeInfoText _).bind fun root => ?_
  refine (neutral_takeInfoText _).bind fun name => ?_
  refine neutral_capability.bind fun capability => ?_
  exact Spends.pure (⟨scheme, root, name, capability⟩ : OperatorInfoValue) rfl

theorem owns_newBuilder (scheme : JsString) :
    Owns 0 (newBuilder scheme context) (fun handle => {⟨.operatorBuilder, handle⟩}) 0 := by
  refine (owns_putText scheme context).bind ?_
  intro schemeHandle
  exact Spends.tryFinally (owns_makeExpected .operatorBuilder context _) balanced_released

theorem owns_buildOperator :
    Owns 0 (buildOperator context) (fun operator => {⟨.operator, operator.handle⟩}) 0 := by
  refine owns_make.bind fun code => owns_expectHandle.bind ?_
  intro handle
  have hbody : Owns {⟨.operator, handle⟩}
      (do
        let info ← operatorInfo context
        let operator : BrowserOperator := { handle, info }
        pure operator)
      (fun operator => {⟨.operator, operator.handle⟩}) {⟨.operator, handle⟩} := by
    refine (neutral_operatorInfo.keep {⟨.operator, handle⟩}).bind ?_
    intro info
    exact Spends.pure (⟨handle, info⟩ : BrowserOperator) rfl
  exact hbody.onError balanced_released

theorem neutral_expectStatus {status : Int} {message : String} :
    Neutral HandleBridge.ledger (expectStatus status context message) := by
  unfold expectStatus
  by_cases hstatus : status ≠ 0
  · rw [if_pos hstatus]
    exact neutral_raise neutral_takeLastError
  · rw [if_neg hstatus]
    exact Spends.pure () rfl

theorem balanced_releasedTwice {first second : BridgeHandle} (b : HandleBridge)
    (frame : Multiset BridgeHandle) (h : b.ledger.Balanced ({second} + {first} + frame)) :
    (released second (released first b)).ledger.Balanced frame := by
  rw [add_comm ({second} : Multiset BridgeHandle) {first}, add_assoc] at h
  exact balanced_released _ frame (balanced_released b _ h)

/-- A turn of the loop keeps what is owned, or loses the handle of its key. -/
theorem setEntry_cases {entry : JsString × JsString} (h : b.ledger.Balanced owned) :
    (∃ keyHandle b', putText entry.1 context b = (.ok keyHandle, b') ∧
      PutRefused (textEncode entry.2) b' ∧ ∃ failure t, setEntry context entry b = (.error failure, t) ∧
        t.ledger.Balanced ({⟨.buffer, keyHandle⟩} + owned)) ∨
    (¬ ∃ keyHandle b', putText entry.1 context b = (.ok keyHandle, b') ∧
      PutRefused (textEncode entry.2) b') ∧
      (setEntry context entry b).2.ledger.Balanced owned := by
  have hkeyOwned := owns_putText entry.1 context b owned (by rwa [zero_add])
  unfold setEntry
  cases hkey : putText entry.1 context b with
  | mk result b₁ =>
    rw [hkey] at hkeyOwned
    cases result with
    | error failure =>
      rw [Call.bind_apply_error hkey]
      refine .inr ⟨?_, by rwa [zero_add] at hkeyOwned⟩
      rintro ⟨keyHandle, b', heq, -⟩
      cases heq
    | ok keyHandle =>
      rw [Call.bind_apply_ok hkey]
      have hvalueOwned := owns_putText entry.2 context b₁ ({⟨.buffer, keyHandle⟩} + owned)
        (by rwa [zero_add])
      have hrefused : (∃ failure b', putText entry.2 context b₁ = (.error failure, b')) ↔
          PutRefused (textEncode entry.2) b₁ := putBytes_error_iff
      cases hvalue : putText entry.2 context b₁ with
      | mk result b₂ =>
        rw [hvalue] at hvalueOwned hrefused
        cases result with
        | error failure =>
          -- the buffer of the key is made, and the `try` that releases it is not reached
          rw [Call.bind_apply_error hvalue]
          refine .inl ⟨keyHandle, b₁, rfl, hrefused.mp ⟨failure, b₂, rfl⟩, failure, b₂, rfl, ?_⟩
          rwa [zero_add] at hvalueOwned
        | ok valueHandle =>
          rw [Call.bind_apply_ok hvalue]
          refine .inr ⟨?_, ?_⟩
          · rintro ⟨keyHandle', b', heq, hput⟩
            cases heq
            obtain ⟨failure, b', heq⟩ := hrefused.mpr hput
            cases heq
          · -- both are released, whatever the bridge says to the entry
            have hbody : Neutral HandleBridge.ledger (do
                let status ← ask
                expectStatus status context "could not set OpenDAL operator configuration") :=
              owns_ask fun status => neutral_expectStatus
            apply (hbody.tryFinally balanced_releasedTwice).spent
            rw [add_assoc]
            exact hvalueOwned

/-- The loop keeps what is owned, or loses the handle of one key. -/
theorem setEntries_cases {entries : List (JsString × JsString)} (h : b.ledger.Balanced owned) :
    (ValueRefused context entries b ∧ ∃ keyHandle failure t,
      setEntries context entries b = (.error failure, t) ∧
        t.ledger.Balanced ({⟨.buffer, keyHandle⟩} + owned)) ∨
    ¬ ValueRefused context entries b ∧
      (setEntries context entries b).2.ledger.Balanced owned := by
  induction entries generalizing b with
  | nil => exact .inr ⟨fun hrefused => hrefused, h⟩
  | cons entry entries ih =>
    unfold ValueRefused setEntries
    rcases setEntry_cases h with ⟨keyHandle, b', hkey, hput, failure, t, hset, ht⟩ | ⟨hnot, hkept⟩
    · refine .inl ⟨.inl ⟨keyHandle, b', hkey, hput⟩, keyHandle, failure, t, ?_, ht⟩
      exact Call.bind_apply_error hset
    · cases hset : setEntry context entry b with
      | mk result b' =>
        rw [hset] at hkept
        cases result with
        | error failure =>
          rw [Call.bind_apply_error hset]
          refine .inr ⟨?_, hkept⟩
          rintro (hput | ⟨b'', heq, -⟩)
          · exact hnot hput
          · cases heq
        | ok _ =>
          rw [Call.bind_apply_ok hset]
          rcases ih hkept with ⟨hrefused, hlost⟩ | ⟨hnone, hrest⟩
          · exact .inl ⟨.inr ⟨b', rfl, hrefused⟩, hlost⟩
          · refine .inr ⟨?_, hrest⟩
            rintro (hput | ⟨b'', heq, hrefused⟩)
            · exact hnot hput
            · cases heq
              exact hnone hrefused

end Parts

/-! ## The operator -/

section Operator

variable {method : Option (JsString → Bool)} {schemeValue : JsValue} {config : ConfigValue}
  {b : HandleBridge} {owned : Multiset BridgeHandle}

theorem newOperator_cases (h : b.ledger.Balanced owned) :
    (ConfigRefused method schemeValue config b ∧ ∃ keyHandle failure t,
      newOperator method schemeValue config b = (.error failure, t) ∧
        t.ledger.Balanced ({⟨.buffer, keyHandle⟩} + owned)) ∨
    ¬ ConfigRefused method schemeValue config b ∧
      match newOperator method schemeValue config b with
      | (.ok operator, t) => t.ledger.Balanced ({⟨.operator, operator.handle⟩} + owned)
      | (.error _, t) => t.ledger.Balanced owned := by
  unfold newOperator
  cases hscheme : textValue method schemeValue "scheme" newOperatorContext with
  | error failure =>
    refine .inr ⟨?_, h⟩
    rintro ⟨scheme, entries, builder, b', heq, -⟩
    rw [hscheme] at heq
    cases heq
  | ok scheme =>
    rw [Call.bind_apply_ok (show Call.lift (Except.ok scheme) b = (.ok scheme, b) from rfl)]
    cases hentries : normalizeConfig method config newOperatorContext with
    | error failure =>
      refine .inr ⟨?_, h⟩
      rintro ⟨scheme', entries, builder, b', -, heq, -⟩
      rw [hentries] at heq
      cases heq
    | ok entries =>
      rw [Call.bind_apply_ok (show Call.lift (Except.ok entries) b = (.ok entries, b) from rfl)]
      have hbuilderOwned := @owns_newBuilder newOperatorContext scheme b owned
        (by rwa [zero_add])
      cases hbuilder : newBuilder scheme newOperatorContext b with
      | mk result b' =>
        rw [hbuilder] at hbuilderOwned
        cases result with
        | error failure =>
          rw [Call.bind_apply_error hbuilder]
          have hkept : b'.ledger.Balanced (0 + owned) := hbuilderOwned
          rw [zero_add] at hkept
          refine .inr ⟨?_, hkept⟩
          rintro ⟨scheme', entries', builder, t, heq, -, hnew, -⟩
          rw [hscheme] at heq
          cases heq
          rw [hbuilder] at hnew
          cases hnew
        | ok builder =>
          rw [Call.bind_apply_ok hbuilder]
          have hrefused : ConfigRefused method schemeValue config b ↔
              ValueRefused newOperatorContext entries b' := by
            constructor
            · rintro ⟨scheme', entries', builder', t, heq, hnormalized, hnew, hvalue⟩
              rw [hscheme] at heq
              cases heq
              rw [hentries] at hnormalized
              cases hnormalized
              rw [hbuilder] at hnew
              cases hnew
              exact hvalue
            · intro hvalue
              exact ⟨scheme, entries, builder, b', hscheme, hentries, hbuilder, hvalue⟩
          rw [hrefused]
          unfold Call.tryFinally
          rcases setEntries_cases hbuilderOwned with ⟨hvalue, keyHandle, failure, t, hset, ht⟩ |
            ⟨hnone, hkept⟩
          · rw [Call.bind_apply_error hset]
            refine .inl ⟨hvalue, keyHandle, failure, _, rfl, ?_⟩
            rw [add_left_comm] at ht
            exact balanced_released t _ ht
          · refine .inr ⟨hnone, ?_⟩
            cases hset : setEntries newOperatorContext entries b' with
            | mk result t =>
              rw [hset] at hkept
              cases result with
              | error failure =>
                rw [Call.bind_apply_error hset]
                exact balanced_released t _ hkept
              | ok _ =>
                rw [Call.bind_apply_ok hset]
                have hbuilt := @owns_buildOperator newOperatorContext t
                  ({⟨.operatorBuilder, builder⟩} + owned) (by rwa [zero_add])
                cases hbuild : buildOperator newOperatorContext t with
                | mk result u =>
                  rw [hbuild] at hbuilt
                  cases result with
                  | error failure =>
                    have hleft : u.ledger.Balanced
                        (0 + ({⟨.operatorBuilder, builder⟩} + owned)) := hbuilt
                    rw [zero_add] at hleft
                    exact balanced_released u _ hleft
                  | ok operator =>
                    have hleft : u.ledger.Balanced ({⟨.operator, operator.handle⟩} +
                        ({⟨.operatorBuilder, builder⟩} + owned)) := hbuilt
                    rw [add_left_comm] at hleft
                    exact balanced_released u _ hleft

/-- An operator is returned with its own handle, or the handles are as before, exactly when no
value of the configuration is refused its buffer. No handle is released twice. -/
theorem operator_kept_iff (closed : Bool) (method : Option (JsString → Bool))
    (schemeValue : JsValue) (config : ConfigValue) (h : b.ledger.Balanced owned) :
    (Kept owned (operator closed method schemeValue config b) ↔
      closed = true ∨ ¬ ConfigRefused method schemeValue config b) ∧
    (operator closed method schemeValue config b).2.ledger.gone.Nodup := by
  unfold operator
  cases closed with
  | true =>
    rw [if_pos rfl]
    exact ⟨iff_of_true h (.inl rfl), h.gone_nodup⟩
  | false =>
    rw [if_neg Bool.false_ne_true]
    simp only [Bool.false_eq_true, false_or]
    rcases newOperator_cases h with ⟨hrefused, keyHandle, failure, t, hrun, ht⟩ | ⟨hnone, hkept⟩
    · have hlost : ¬ t.ledger.Balanced owned := by
        intro hkept
        have hcard := congrArg Multiset.card (ht.unique hkept)
        rw [Multiset.card_add, Multiset.card_singleton] at hcard
        omega
      rw [hrun]
      cases failure with
      | outcome error => exact ⟨iff_of_false hlost (not_not.mpr hrefused), ht.gone_nodup⟩
      | contract error => exact ⟨iff_of_false hlost (not_not.mpr hrefused), ht.gone_nodup⟩
      | trap => exact ⟨iff_of_false hlost (not_not.mpr hrefused), ht.gone_nodup⟩
      | stackOverflow => exact ⟨iff_of_false hlost (not_not.mpr hrefused), ht.gone_nodup⟩
    · cases hrun : newOperator method schemeValue config b with
      | mk result t =>
        rw [hrun] at hkept
        cases result with
        | ok operator => exact ⟨iff_of_true hkept hnone, hkept.gone_nodup⟩
        | error failure =>
          have hleft : t.ledger.Balanced owned := hkept
          cases failure with
          | outcome error => exact ⟨iff_of_true hleft hnone, hleft.gone_nodup⟩
          | contract error => exact ⟨iff_of_true hleft hnone, hleft.gone_nodup⟩
          | trap => exact ⟨iff_of_true hleft hnone, hleft.gone_nodup⟩
          | stackOverflow => exact ⟨iff_of_true hleft hnone, hleft.gone_nodup⟩

end Operator

/-! ## A refused value -/

/-- A bridge without handles, which goes on with `answers`. -/
def answering (answers : List Int) : HandleBridge := { world := { answers, depth := 1 } }

theorem balanced_answering (answers : List Int) : (answering answers).ledger.Balanced 0 :=
  ⟨List.nodup_nil, rfl⟩

def memoryScheme : JsValue := .string (exactText "memory")

/-- Without a configuration no handle is lost. -/
theorem operator_kept_iff_empty :
    Kept 0 (operator false none memoryScheme (.map []) (answering [1, 1, 2, 3])) := by
  refine (operator_kept_iff false none memoryScheme (.map []) (balanced_answering _)).1.mpr (.inr ?_)
  rintro ⟨scheme, entries, builder, b', -, hentries, -, hvalue⟩
  have hnil : normalizeConfig none (.map []) newOperatorContext = .ok [] := rfl
  rw [hnil] at hentries
  cases hentries
  exact hvalue

/-- A configuration of one entry, whose value is refused: the third handle, of the buffer of the
key, stays. -/
def refusedValue : Answer BrowserOperator × HandleBridge :=
  operator false (some fun _ => true) memoryScheme
    (.map [(.string (exactText "root"), .string (exactText "/"))])
    (answering [1, 1, 2, 3, 1, 0, 0])

theorem operator_loses_key :
    (∃ error, refusedValue.1 = .ok (.failed error)) ∧
      refusedValue.2.ledger.Balanced {⟨.buffer, 3⟩} ∧ ¬ Kept 0 refusedValue := by
  have hfailed : ∃ error, refusedValue.1 = .ok (.failed error) := ⟨_, rfl⟩
  have hledger : refusedValue.2.ledger =
      { created := [⟨.buffer, 3⟩, ⟨.operatorBuilder, 2⟩, ⟨.buffer, 1⟩]
        gone := [⟨.operatorBuilder, 2⟩, ⟨.buffer, 1⟩] } := rfl
  have hkey : refusedValue.2.ledger.Balanced {⟨.buffer, 3⟩} := by
    rw [hledger]
    exact ⟨by decide, by decide⟩
  refine ⟨hfailed, hkey, ?_⟩
  intro hkept
  obtain ⟨error, herror⟩ := hfailed
  have hout : refusedValue = (.ok (.failed error), refusedValue.2) := Prod.ext herror rfl
  rw [hout] at hkept
  exact Multiset.singleton_ne_zero _ (hkey.unique hkept)

end HandleCall

end OpendalMbt.Browser
