import OpendalMbt.Codec.Utf8

/-!
# UTF-16 code units

JavaScript strings are lists of 16-bit code units. `utf16` writes scalar values as code
units; `scalarValues` reads them back and puts U+FFFD in the place of a lone surrogate.

* `scalarValues_utf16`: reading undoes writing.
* `utf16_scalarValues`: writing undoes reading on well-formed strings.
-/

namespace OpendalMbt.Codec

abbrev JsString := List UInt16

def isHighSurrogate (unit : UInt16) : Bool := 0xD800 ≤ unit.toNat && unit.toNat ≤ 0xDBFF

def isLowSurrogate (unit : UInt16) : Bool := 0xDC00 ≤ unit.toNat && unit.toNat ≤ 0xDFFF

def replacementCharacter : Char := '\uFFFD'

def scalarOfUnit (unit : UInt16) : Char :=
  if isHighSurrogate unit || isLowSurrogate unit then replacementCharacter
  else Char.ofNat unit.toNat

def scalarOfPair (high low : UInt16) : Char :=
  Char.ofNat (0x10000 + (high.toNat - 0xD800) * 0x400 + (low.toNat - 0xDC00))

def scalarValues : JsString → List Char
  | [] => []
  | [unit] => [scalarOfUnit unit]
  | unit :: next :: rest =>
    if isHighSurrogate unit && isLowSurrogate next then
      scalarOfPair unit next :: scalarValues rest
    else scalarOfUnit unit :: scalarValues (next :: rest)

/-- Every surrogate is half of a pair. -/
def wellFormed : JsString → Bool
  | [] => true
  | [unit] => !(isHighSurrogate unit || isLowSurrogate unit)
  | unit :: next :: rest =>
    if isHighSurrogate unit && isLowSurrogate next then wellFormed rest
    else !(isHighSurrogate unit || isLowSurrogate unit) && wellFormed (next :: rest)

def unitsOf (c : Char) : JsString :=
  if c.toNat < 0x10000 then [UInt16.ofNat c.toNat]
  else
    [UInt16.ofNat (0xD800 + (c.toNat - 0x10000) / 0x400),
      UInt16.ofNat (0xDC00 + (c.toNat - 0x10000) % 0x400)]

def utf16 (chars : List Char) : JsString := chars.flatMap unitsOf

/-! ## Scalar values as numbers -/

theorem toNat_ofNat {n : Nat} (h : n.isValidChar) : (Char.ofNat n).toNat = n := by
  rw [Char.ofNat, dif_pos h]
  rfl

theorem scalar_range (c : Char) :
    c.toNat < 0xD800 ∨ 0xDFFF < c.toNat ∧ c.toNat < 0x110000 := c.valid

theorem char_eq_of_toNat {c d : Char} (h : c.toNat = d.toNat) : c = d := by
  rw [← Char.ofNat_toNat c, h, Char.ofNat_toNat]

theorem isHighSurrogate_iff {unit : UInt16} :
    isHighSurrogate unit = true ↔ 0xD800 ≤ unit.toNat ∧ unit.toNat ≤ 0xDBFF := by
  simp [isHighSurrogate]

theorem isLowSurrogate_iff {unit : UInt16} :
    isLowSurrogate unit = true ↔ 0xDC00 ≤ unit.toNat ∧ unit.toNat ≤ 0xDFFF := by
  simp [isLowSurrogate]

/-- A unit that is not a surrogate is a scalar value. -/
theorem scalarOfUnit_toNat {unit : UInt16}
    (h : (isHighSurrogate unit || isLowSurrogate unit) = false) :
    (scalarOfUnit unit).toNat = unit.toNat := by
  have hlt := unit.toNat_lt
  have hrange : unit.toNat < 0xD800 ∨ 0xDFFF < unit.toNat := by
    simp only [Bool.or_eq_false_iff, isHighSurrogate, isLowSurrogate, Bool.and_eq_false_iff,
      decide_eq_false_iff_not] at h
    omega
  rw [scalarOfUnit, if_neg (by simp [h])]
  apply toNat_ofNat
  rcases hrange with hlow | hhigh
  · exact Or.inl hlow
  · exact Or.inr ⟨hhigh, by omega⟩

theorem scalarOfPair_toNat {high low : UInt16} (hhigh : isHighSurrogate high = true)
    (hlow : isLowSurrogate low = true) :
    (scalarOfPair high low).toNat =
      0x10000 + (high.toNat - 0xD800) * 0x400 + (low.toNat - 0xDC00) := by
  have hh := isHighSurrogate_iff.mp hhigh
  have hl := isLowSurrogate_iff.mp hlow
  apply toNat_ofNat
  exact Or.inr ⟨by omega, by omega⟩

/-! ## Writing and reading -/

theorem unitsOf_scalarOfUnit {unit : UInt16}
    (h : (isHighSurrogate unit || isLowSurrogate unit) = false) :
    unitsOf (scalarOfUnit unit) = [unit] := by
  have hlt := unit.toNat_lt
  rw [unitsOf, scalarOfUnit_toNat h, if_pos (by omega), UInt16.ofNat_toNat]

theorem unitsOf_scalarOfPair {high low : UInt16} (hhigh : isHighSurrogate high = true)
    (hlow : isLowSurrogate low = true) : unitsOf (scalarOfPair high low) = [high, low] := by
  have hh := isHighSurrogate_iff.mp hhigh
  have hl := isLowSurrogate_iff.mp hlow
  have hfirst : 0xD800 + (0x10000 + (high.toNat - 0xD800) * 0x400 + (low.toNat - 0xDC00) -
      0x10000) / 0x400 = high.toNat := by omega
  have hsecond : 0xDC00 + (0x10000 + (high.toNat - 0xD800) * 0x400 + (low.toNat - 0xDC00) -
      0x10000) % 0x400 = low.toNat := by omega
  rw [unitsOf, scalarOfPair_toNat hhigh hlow, if_neg (by omega), hfirst, hsecond,
    UInt16.ofNat_toNat, UInt16.ofNat_toNat]

theorem utf16_cons (c : Char) (chars : List Char) : utf16 (c :: chars) = unitsOf c ++ utf16 chars := by
  simp [utf16]

/-- Writing undoes reading on well-formed strings. -/
theorem utf16_scalarValues {s : JsString} (h : wellFormed s = true) :
    utf16 (scalarValues s) = s := by
  induction s using scalarValues.induct with
  | case1 => simp [scalarValues, utf16]
  | case2 unit =>
    simp only [wellFormed, Bool.not_eq_true'] at h
    rw [scalarValues, utf16_cons, unitsOf_scalarOfUnit h]
    simp [utf16]
  | case3 unit next rest hpair ih =>
    rw [wellFormed, if_pos hpair] at h
    simp only [Bool.and_eq_true] at hpair
    rw [scalarValues, if_pos (by simpa using hpair), utf16_cons,
      unitsOf_scalarOfPair hpair.1 hpair.2, ih h]
    rfl
  | case4 unit next rest hpair ih =>
    rw [wellFormed, if_neg hpair] at h
    simp only [Bool.and_eq_true, Bool.not_eq_true'] at h
    rw [scalarValues, if_neg hpair, utf16_cons, unitsOf_scalarOfUnit h.1, ih h.2]
    rfl

theorem unitsOf_cases (c : Char) :
    (∃ unit, unitsOf c = [unit] ∧ (isHighSurrogate unit || isLowSurrogate unit) = false ∧
        scalarOfUnit unit = c) ∨
      ∃ high low, unitsOf c = [high, low] ∧ isHighSurrogate high = true ∧
        isLowSurrogate low = true ∧ scalarOfPair high low = c := by
  have hrange := scalar_range c
  by_cases hsmall : c.toNat < 0x10000
  · left
    have hunit : (UInt16.ofNat c.toNat).toNat = c.toNat := by
      rw [UInt16.toNat_ofNat']
      omega
    have hplain : (isHighSurrogate (UInt16.ofNat c.toNat) ||
        isLowSurrogate (UInt16.ofNat c.toNat)) = false := by
      simp only [Bool.or_eq_false_iff, isHighSurrogate, isLowSurrogate, hunit,
        Bool.and_eq_false_iff, decide_eq_false_iff_not]
      omega
    refine ⟨UInt16.ofNat c.toNat, by rw [unitsOf, if_pos hsmall], hplain, ?_⟩
    apply char_eq_of_toNat
    rw [scalarOfUnit_toNat hplain, hunit]
  · right
    have hfirst : (UInt16.ofNat (0xD800 + (c.toNat - 0x10000) / 0x400)).toNat =
        0xD800 + (c.toNat - 0x10000) / 0x400 := by
      rw [UInt16.toNat_ofNat']
      omega
    have hsecond : (UInt16.ofNat (0xDC00 + (c.toNat - 0x10000) % 0x400)).toNat =
        0xDC00 + (c.toNat - 0x10000) % 0x400 := by
      rw [UInt16.toNat_ofNat']
      omega
    have hhigh := isHighSurrogate_iff.mpr (by rw [hfirst]; omega)
    have hlow := isLowSurrogate_iff.mpr (by rw [hsecond]; omega)
    refine ⟨_, _, by rw [unitsOf, if_neg hsmall], hhigh, hlow, ?_⟩
    apply char_eq_of_toNat
    rw [scalarOfPair_toNat hhigh hlow, hfirst, hsecond]
    omega

theorem scalarValues_cons_plain {unit : UInt16}
    (h : (isHighSurrogate unit || isLowSurrogate unit) = false) (rest : JsString) :
    scalarValues (unit :: rest) = scalarOfUnit unit :: scalarValues rest := by
  have hhigh : isHighSurrogate unit = false := (Bool.or_eq_false_iff.mp h).1
  cases rest with
  | nil => simp [scalarValues]
  | cons next rest => rw [scalarValues, if_neg (by simp [hhigh])]

/-- Reading undoes writing. -/
theorem scalarValues_utf16 (chars : List Char) : scalarValues (utf16 chars) = chars := by
  induction chars with
  | nil => simp [utf16, scalarValues]
  | cons c chars ih =>
    rw [utf16_cons]
    rcases unitsOf_cases c with ⟨unit, hunits, hplain, hc⟩ | ⟨high, low, hunits, hhigh, hlow, hc⟩
    · rw [hunits, List.singleton_append, scalarValues_cons_plain hplain, ih, hc]
    · rw [hunits]
      show scalarValues (high :: low :: utf16 chars) = _
      rw [scalarValues, if_pos (by simp [hhigh, hlow]), ih, hc]

/-- What is written is well formed. -/
theorem wellFormed_utf16 (chars : List Char) : wellFormed (utf16 chars) = true := by
  induction chars with
  | nil => rfl
  | cons c chars ih =>
    rw [utf16_cons]
    rcases unitsOf_cases c with ⟨unit, hunits, hplain, -⟩ | ⟨high, low, hunits, hhigh, hlow, -⟩
    · rw [hunits, List.singleton_append]
      cases hrest : utf16 chars with
      | nil => simp [wellFormed, hplain]
      | cons next rest =>
        have hfirst : isHighSurrogate unit = false := (Bool.or_eq_false_iff.mp hplain).1
        rw [hrest] at ih
        rw [wellFormed, if_neg (by simp [hfirst]), hplain, ih]
        rfl
    · rw [hunits]
      show wellFormed (high :: low :: utf16 chars) = true
      rw [wellFormed, if_pos (by simp [hhigh, hlow]), ih]

theorem utf16_injective {a b : List Char} (h : utf16 a = utf16 b) : a = b := by
  rw [← scalarValues_utf16 a, h, scalarValues_utf16]

end OpendalMbt.Codec
