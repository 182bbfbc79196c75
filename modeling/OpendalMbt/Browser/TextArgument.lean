import OpendalMbt.Browser.RangeArgument

/-!
# Texts from JavaScript

`textValue` of `wasm/browser-runtime/index.mjs` and the loop of `isWellFormed` that stands in for a
missing `String.prototype.isWellFormed`. The loop reads one unit ahead; past the end `charCodeAt`
is `NaN`, of which no comparison holds.

* `wellFormed_iff`: a string is well formed when no surrogate of it is alone;
* `isWellFormedLoop_eq`: the loop as a recursion over the units that are left;
* `fallback_iff`: the loop accepts one kind of string more than the well-formed ones;
* `textValue_fallback`: and so the texts that `textValue` lets through.
-/

namespace OpendalMbt.Browser

open Codec Bridge

/-- `charCodeAt`, where none is `NaN`. -/
def charCodeAt (value : JsString) (index : Nat) : Option Nat := (value[index]?).map UInt16.toNat

def isWellFormedLoop (value : JsString) (index : Nat) : Bool :=
  if index < value.length then
    let code := charCodeAt value index
    if code.any (0xd800 ≤ ·) && code.any (· ≤ 0xdbff) then
      let next := charCodeAt value (index + 1)
      if next.any (· < 0xdc00) || next.any (0xdfff < ·) then false
      else isWellFormedLoop value (index + 2)
    else if code.any (0xdc00 ≤ ·) && code.any (· ≤ 0xdfff) then false
    else isWellFormedLoop value (index + 1)
  else true
  termination_by value.length - index

/-- `isWellFormed`, with the method of the engine if there is one. -/
def isWellFormed (method : Option (JsString → Bool)) (value : JsString) : Bool :=
  match method with
  | some method => method value
  | none => isWellFormedLoop value 0

def textValue (method : Option (JsString → Bool)) (value : JsValue) (label : String)
    (context : Context) : Except Failure JsString :=
  match value with
  | .string text =>
    if isWellFormed method text then .ok text
    else .error (invalid s!"{label} contains invalid UTF-16" context)
  | _ => .error (invalid s!"{label} must be a string" context)

/-! ## Lone surrogates -/

def UnitAt (p : UInt16 → Bool) (s : JsString) (i : Nat) : Prop := ∃ unit, s[i]? = some unit ∧ p unit

/-- A surrogate without the other half of its pair. -/
def Lone (s : JsString) (i : Nat) : Prop :=
  UnitAt isHighSurrogate s i ∧ ¬ UnitAt isLowSurrogate s (i + 1) ∨
    UnitAt isLowSurrogate s i ∧ ∀ j, j + 1 = i → ¬ UnitAt isHighSurrogate s j

section Lone

variable {s : JsString} {unit next : UInt16} {i : Nat}

theorem not_low_of_high (h : isHighSurrogate unit = true) : isLowSurrogate unit = false := by
  rw [isHighSurrogate_iff] at h
  rw [Bool.eq_false_iff, ne_eq, isLowSurrogate_iff]
  omega

theorem unitAt_zero {p : UInt16 → Bool} : UnitAt p (unit :: s) 0 ↔ p unit = true := by
  simp [UnitAt]

theorem unitAt_succ {p : UInt16 → Bool} : UnitAt p (unit :: s) (i + 1) ↔ UnitAt p s i := by
  simp [UnitAt]

theorem not_unitAt_nil {p : UInt16 → Bool} : ¬ UnitAt p [] i := by
  simp [UnitAt]

/-- The first unit of a string is alone when the next one does not complete it. -/
theorem lone_zero : Lone (unit :: s) 0 ↔
    isHighSurrogate unit = true ∧ ¬ UnitAt isLowSurrogate s 0 ∨ isLowSurrogate unit = true := by
  unfold Lone
  rw [unitAt_zero, unitAt_succ, unitAt_zero]
  constructor
  · rintro (h | ⟨h, -⟩)
    · exact .inl h
    · exact .inr h
  · rintro (h | h)
    · exact .inl h
    · exact .inr ⟨h, fun j hj => by omega⟩

/-- A unit in front that is no high surrogate completes nothing. -/
theorem lone_succ (h : isHighSurrogate unit = false) : Lone (unit :: s) (i + 1) ↔ Lone s i := by
  unfold Lone
  rw [unitAt_succ, unitAt_succ, unitAt_succ]
  apply or_congr Iff.rfl
  apply and_congr Iff.rfl
  constructor
  · intro hall j hj hunit
    exact hall (j + 1) (by omega) (unitAt_succ.mpr hunit)
  · intro hall j hj hunit
    cases j with
    | zero =>
      rw [unitAt_zero, h] at hunit
      cases hunit
    | succ j => exact hall j (by omega) (unitAt_succ.mp hunit)

/-- A pair in front is not alone, and completes nothing either. -/
theorem lone_pair (hhigh : isHighSurrogate unit = true) (hlow : isLowSurrogate next = true) :
    (∃ i, Lone (unit :: next :: s) i) ↔ ∃ i, Lone s i := by
  have hnext : isHighSurrogate next = false := by
    cases h : isHighSurrogate next with
    | false => rfl
    | true =>
      rw [not_low_of_high h] at hlow
      cases hlow
  have hlone : ∀ i, Lone (unit :: next :: s) (i + 2) ↔ Lone s i := by
    intro i
    rw [← lone_succ hnext (s := s) (i := i)]
    unfold Lone
    simp only [unitAt_succ]
    apply or_congr Iff.rfl
    apply and_congr Iff.rfl
    constructor
    · intro hall j hj hunit
      exact hall (j + 1) (by omega) (unitAt_succ.mpr hunit)
    · intro hall j hj hunit
      obtain ⟨j, rfl⟩ : ∃ m, j = m + 1 := ⟨j - 1, by omega⟩
      exact hall j (by omega) (unitAt_succ.mp hunit)
  constructor
  · rintro ⟨i, hi⟩
    match i with
    | 0 =>
      rw [lone_zero, unitAt_zero, hlow, not_low_of_high hhigh] at hi
      simp at hi
    | 1 =>
      rcases hi with ⟨h, -⟩ | ⟨-, h⟩
      · rw [unitAt_succ, unitAt_zero, hnext] at h
        cases h
      · exact absurd (unitAt_zero.mpr hhigh) (h 0 rfl)
    | i + 2 => exact ⟨i, (hlone i).mp hi⟩
  · rintro ⟨i, hi⟩
    exact ⟨i + 2, (hlone i).mpr hi⟩

theorem lone_plain (h : isHighSurrogate unit = false) :
    (∃ i, Lone (unit :: s) i) ↔ isLowSurrogate unit = true ∨ ∃ i, Lone s i := by
  constructor
  · rintro ⟨i, hi⟩
    cases i with
    | zero =>
      rw [lone_zero, h] at hi
      exact .inl (by simpa using hi)
    | succ i => exact .inr ⟨i, (lone_succ h).mp hi⟩
  · rintro (hlow | ⟨i, hi⟩)
    · exact ⟨0, lone_zero.mpr (.inr hlow)⟩
    · exact ⟨i + 1, (lone_succ h).mpr hi⟩

/-- A string is well formed when no surrogate of it is alone. -/
theorem wellFormed_iff (s : JsString) : wellFormed s = true ↔ ¬ ∃ i, Lone s i := by
  induction s using wellFormed.induct with
  | case1 => simp [wellFormed, Lone, not_unitAt_nil]
  | case2 unit =>
    cases hhigh : isHighSurrogate unit with
    | true =>
      have hlone : Lone [unit] 0 := lone_zero.mpr (.inl ⟨hhigh, not_unitAt_nil⟩)
      simp only [wellFormed, hhigh, Bool.true_or, Bool.not_true, Bool.false_eq_true, false_iff,
        not_not]
      exact ⟨0, hlone⟩
    | false =>
      rw [lone_plain hhigh]
      simp [wellFormed, hhigh, Lone, not_unitAt_nil]
  | case3 unit next rest hpair ih =>
    simp only [Bool.and_eq_true] at hpair
    rw [wellFormed, if_pos (by simpa using hpair), ih, lone_pair hpair.1 hpair.2]
  | case4 unit next rest hpair ih =>
    rw [wellFormed, if_neg hpair]
    cases hhigh : isHighSurrogate unit with
    | true =>
      have hnext : isLowSurrogate next = false := by simpa [hhigh] using hpair
      have hlone : Lone (unit :: next :: rest) 0 := by
        rw [lone_zero, unitAt_zero, hnext]
        exact .inl ⟨hhigh, Bool.false_ne_true⟩
      simp only [Bool.true_or, Bool.not_true, Bool.false_and, Bool.false_eq_true, false_iff,
        not_not]
      exact ⟨0, hlone⟩
    | false =>
      rw [lone_plain hhigh, not_or, Bool.and_eq_true, ih]
      simp

end Lone

/-! ## The loop -/

/-- What the loop answers about the units that are left. -/
def fallback : JsString → Bool
  | [] => true
  | [unit] => !isLowSurrogate unit
  | unit :: next :: rest =>
    if isHighSurrogate unit then isLowSurrogate next && fallback rest
    else !isLowSurrogate unit && fallback (next :: rest)

theorem charCodeAt_eq {value : JsString} {index : Nat} {unit : UInt16} {rest : JsString}
    (h : value.drop index = unit :: rest) : charCodeAt value index = some unit.toNat := by
  have hget : value[index]? = some unit := by
    rw [← List.head?_drop, h, List.head?_cons]
  rw [charCodeAt, hget, Option.map_some]

theorem drop_succ {value : JsString} {index : Nat} {unit : UInt16} {rest : JsString}
    (h : value.drop index = unit :: rest) : value.drop (index + 1) = rest := by
  rw [← List.tail_drop, h, List.tail_cons]

theorem high_of_code (unit : UInt16) :
    ((some unit.toNat).any (0xd800 ≤ ·) && (some unit.toNat).any (· ≤ 0xdbff)) =
      isHighSurrogate unit := rfl

theorem low_of_code (unit : UInt16) :
    ((some unit.toNat).any (0xdc00 ≤ ·) && (some unit.toNat).any (· ≤ 0xdfff)) =
      isLowSurrogate unit := rfl

theorem not_low_of_code (unit : UInt16) :
    ((some unit.toNat).any (· < 0xdc00) || (some unit.toNat).any (0xdfff < ·)) =
      !isLowSurrogate unit := by
  unfold isLowSurrogate
  rw [Bool.eq_iff_iff]
  simp only [Option.any_some, Bool.or_eq_true, decide_eq_true_eq, Bool.not_eq_true',
    Bool.and_eq_false_iff, decide_eq_false_iff_not]
  omega

/-- The loop looks at what is left of the string. Behind a last high surrogate it reads `NaN`. -/
theorem isWellFormedLoop_eq (value : JsString) (index : Nat) :
    isWellFormedLoop value index = fallback (value.drop index) := by
  induction hn : value.length - index using Nat.strong_induction_on generalizing index with
  | _ n ih =>
    unfold isWellFormedLoop
    cases hdrop : value.drop index with
    | nil =>
      have hle := List.drop_eq_nil_iff.mp hdrop
      rw [if_neg (by omega)]
      rfl
    | cons unit rest =>
      have hlt : index < value.length := by
        by_contra hle
        rw [List.drop_eq_nil_of_le (by omega)] at hdrop
        cases hdrop
      have hone : isWellFormedLoop value (index + 1) = fallback rest := by
        rw [ih _ (by omega) (index + 1) rfl, drop_succ hdrop]
      rw [if_pos hlt]
      dsimp only
      rw [charCodeAt_eq hdrop, high_of_code, low_of_code]
      cases rest with
      | nil =>
        have hend : charCodeAt value (index + 1) = none := by
          have hle := List.drop_eq_nil_iff.mp (drop_succ hdrop)
          rw [charCodeAt, List.getElem?_eq_none hle, Option.map_none]
        have htwo : isWellFormedLoop value (index + 2) = true := by
          have hle := List.drop_eq_nil_iff.mp (drop_succ hdrop)
          rw [ih _ (by omega) (index + 2) rfl, List.drop_eq_nil_of_le (by omega)]
          rfl
        rw [hend, htwo, hone]
        cases hhigh : isHighSurrogate unit with
        | true => simp [fallback, not_low_of_high hhigh]
        | false => cases hlow : isLowSurrogate unit <;> simp [fallback, hlow]
      | cons next rest =>
        have htwo : isWellFormedLoop value (index + 2) = fallback rest := by
          rw [ih _ (by omega) (index + 2) rfl, drop_succ (drop_succ hdrop)]
        rw [charCodeAt_eq (drop_succ hdrop), not_low_of_code, htwo, hone]
        cases hhigh : isHighSurrogate unit with
        | true => cases hlow : isLowSurrogate next <;> simp [fallback, hhigh, hlow]
        | false => cases hlow : isLowSurrogate unit <;> simp [fallback, hhigh, hlow]

/-- The string ends inside a pair, and is well formed up to there. -/
def CutPair (s : JsString) : Prop :=
  ∃ t high, wellFormed t = true ∧ isHighSurrogate high = true ∧ s = t ++ [high]

attribute [local simp] fallback

theorem CutPair.lone {s : JsString} (h : CutPair s) : wellFormed s = false := by
  obtain ⟨t, high, -, hhigh, rfl⟩ := h
  have hlast : Lone (t ++ [high]) t.length := by
    left
    refine ⟨⟨high, List.getElem?_concat_length, hhigh⟩, ?_⟩
    rintro ⟨unit, hget, -⟩
    rw [List.getElem?_eq_none (by simp)] at hget
    cases hget
  rw [Bool.eq_false_iff, ne_eq, wellFormed_iff, not_not]
  exact ⟨_, hlast⟩

theorem wellFormed_cons {s : JsString} {unit : UInt16}
    (h : (isHighSurrogate unit || isLowSurrogate unit) = false) :
    wellFormed (unit :: s) = wellFormed s := by
  cases s with
  | nil => simp [wellFormed, h]
  | cons next rest =>
    have hhigh : isHighSurrogate unit = false := (Bool.or_eq_false_iff.mp h).1
    rw [wellFormed, if_neg (by simp [hhigh]), h, Bool.not_false, Bool.true_and]

theorem fallback_of_wellFormed {s : JsString} (h : wellFormed s = true) : fallback s = true := by
  induction s using wellFormed.induct with
  | case1 => rfl
  | case2 unit =>
    simp only [wellFormed, Bool.not_or, Bool.and_eq_true] at h
    exact h.2
  | case3 unit next rest hpair ih =>
    rw [wellFormed, if_pos hpair] at h
    simp only [Bool.and_eq_true] at hpair
    rw [fallback, if_pos hpair.1, hpair.2, ih h]
    rfl
  | case4 unit next rest hpair ih =>
    rw [wellFormed, if_neg hpair] at h
    simp only [Bool.not_or, Bool.and_eq_true, Bool.not_eq_true'] at h
    rw [fallback, if_neg (by simp [h.1.1]), h.1.2, ih h.2]
    rfl

/-- The loop ends behind a last high surrogate as it does behind a pair. -/
theorem fallback_concat {t : JsString} {high : UInt16} (hhigh : isHighSurrogate high = true)
    (h : wellFormed t = true) : fallback (t ++ [high]) = true := by
  have hlast : fallback [high] = true := by
    rw [fallback, not_low_of_high hhigh]
    rfl
  induction t using wellFormed.induct with
  | case1 => exact hlast
  | case2 unit =>
    simp only [wellFormed, Bool.not_or, Bool.and_eq_true, Bool.not_eq_true'] at h
    rw [List.singleton_append, fallback, if_neg (by simp [h.1]), h.2, hlast]
    rfl
  | case3 unit next rest hpair ih =>
    rw [wellFormed, if_pos hpair] at h
    simp only [Bool.and_eq_true] at hpair
    rw [List.cons_append, List.cons_append, fallback, if_pos hpair.1, hpair.2, ih h]
    rfl
  | case4 unit next rest hpair ih =>
    rw [wellFormed, if_neg hpair] at h
    simp only [Bool.not_or, Bool.and_eq_true, Bool.not_eq_true'] at h
    have hrest := ih h.2
    rw [List.cons_append] at hrest
    rw [List.cons_append, List.cons_append, fallback, if_neg (by simp [h.1.1]), h.1.2, hrest]
    rfl

theorem wellFormed_or_cutPair {s : JsString} (h : fallback s = true) :
    wellFormed s = true ∨ CutPair s := by
  induction s using fallback.induct with
  | case1 => exact .inl rfl
  | case2 unit =>
    simp only [fallback, Bool.not_eq_true'] at h
    cases hhigh : isHighSurrogate unit with
    | true => exact .inr ⟨[], unit, rfl, hhigh, rfl⟩
    | false => exact .inl (by simp [wellFormed, hhigh, h])
  | case3 unit next rest hhigh ih =>
    rw [fallback, if_pos hhigh, Bool.and_eq_true] at h
    have hpair : (isHighSurrogate unit && isLowSurrogate next) = true := by simp [hhigh, h.1]
    rcases ih h.2 with hrest | ⟨t, high, ht, hlast, rfl⟩
    · left
      rw [wellFormed, if_pos hpair, hrest]
    · right
      refine ⟨unit :: next :: t, high, ?_, hlast, rfl⟩
      rw [wellFormed, if_pos hpair, ht]
  | case4 unit next rest hhigh ih =>
    rw [fallback, if_neg hhigh, Bool.and_eq_true, Bool.not_eq_true'] at h
    have hplain : (isHighSurrogate unit || isLowSurrogate unit) = false := by simp [hhigh, h.1]
    rcases ih h.2 with hrest | ⟨t, high, ht, hlast, heq⟩
    · left
      rw [wellFormed_cons hplain, hrest]
    · right
      refine ⟨unit :: t, high, ?_, hlast, by rw [heq, List.cons_append]⟩
      rw [wellFormed_cons hplain, ht]

theorem fallback_iff (s : JsString) : fallback s = true ↔ wellFormed s = true ∨ CutPair s := by
  constructor
  · exact wellFormed_or_cutPair
  · rintro (h | ⟨t, high, ht, hhigh, rfl⟩)
    · exact fallback_of_wellFormed h
    · exact fallback_concat hhigh ht

theorem isWellFormed_of_wellFormed {s : JsString} (h : wellFormed s = true) :
    isWellFormed none s = true := by
  rw [isWellFormed, isWellFormedLoop_eq, List.drop_zero, fallback_of_wellFormed h]

/-- Without the method of the engine, a text that ends inside a pair is let through. -/
theorem textValue_fallback {value : JsValue} {label : String} {context : Context}
    {text : JsString} : textValue none value label context = .ok text ↔
      value = .string text ∧ (wellFormed text = true ∨ CutPair text) := by
  have hloop : ∀ s, isWellFormed none s = fallback s := by
    intro s
    rw [isWellFormed, isWellFormedLoop_eq, List.drop_zero]
  unfold textValue
  cases value with
  | string units =>
    dsimp only
    rw [hloop]
    constructor
    · intro h
      split_ifs at h with haccept
      cases h
      exact ⟨rfl, (fallback_iff _).mp haccept⟩
    · rintro ⟨heq, hformed⟩
      cases heq
      rw [if_pos ((fallback_iff _).mpr hformed)]
  | _ => simp

/-- The loop tells whether a surrogate is alone, unless the only one that is stands at the end and
is a high one. -/
theorem isWellFormed_fallback_iff (s : JsString) :
    (isWellFormed none s = true ↔ ¬ ∃ i, Lone s i) ↔ ¬ CutPair s := by
  have hloop : isWellFormed none s = fallback s := by
    rw [isWellFormed, isWellFormedLoop_eq, List.drop_zero]
  rw [hloop, fallback_iff, ← wellFormed_iff]
  constructor
  · intro h hcut
    have hformed := h.mp (.inr hcut)
    rw [hcut.lone] at hformed
    cases hformed
  · intro hcut
    simp [hcut]

/-- The text of one high surrogate is accepted. -/
theorem isWellFormed_fallback_cut :
    isWellFormed none [0xd83d] = true ∧ Lone [0xd83d] 0 ∧
      ¬ (isWellFormed none [0xd83d] = true ↔ ¬ ∃ i, Lone [0xd83d] i) := by
  have hcut : CutPair [0xd83d] := ⟨[], 0xd83d, rfl, by decide, rfl⟩
  have hlone : Lone [0xd83d] 0 := by
    rw [lone_zero]
    exact .inl ⟨by decide, not_unitAt_nil⟩
  have hloop : isWellFormed none [0xd83d] = true := by
    rw [isWellFormed, isWellFormedLoop_eq]
    decide
  refine ⟨hloop, hlone, ?_⟩
  intro h
  exact h.mp hloop ⟨0, hlone⟩

end OpendalMbt.Browser
