import OpendalMbt.Codec.Utf16
import OpendalMbt.Native.BytesView

/-!
# From UTF-16 to UTF-8 in the C stub

`utf16_to_utf8` of `src/opendal_stub.c`. The loop leaves behind what it has written, also when
it fails, and `malloc` says of a size whether memory is found for it.

* `utf16Loop_eq`: the loop succeeds on well-formed strings, and writes their UTF-8;
* `utf16ToUtf8_eq`: the whole conversion.
-/

namespace OpendalMbt.Stub

open Codec Native

/-- `INT32_MAX`. -/
def INT32_MAX : Nat := 2147483647

/-- A string of MoonBit, whose length is an `Int`. -/
structure MoonString where
  units : JsString
  fits : units.length ≤ INT32_MAX
  deriving DecidableEq, Repr

inductive Utf16Failure where
  | invalid
  | noMemory
  deriving DecidableEq, Repr

/-- Bits behind a mark, as a byte. -/
def markedByte (mark bits : UInt32) : UInt8 := (mark ||| bits).toUInt8

/-- The bytes that one turn writes for its code point. -/
def encodeCodepoint (codepoint : UInt32) : List UInt8 :=
  if codepoint ≤ 0x7f then [codepoint.toUInt8]
  else if codepoint ≤ 0x7ff then
    [markedByte 0xc0 (codepoint >>> 6), markedByte 0x80 (codepoint &&& 0x3f)]
  else if codepoint ≤ 0xffff then
    [markedByte 0xe0 (codepoint >>> 12), markedByte 0x80 ((codepoint >>> 6) &&& 0x3f),
      markedByte 0x80 (codepoint &&& 0x3f)]
  else
    [markedByte 0xf0 (codepoint >>> 18), markedByte 0x80 ((codepoint >>> 12) &&& 0x3f),
      markedByte 0x80 ((codepoint >>> 6) &&& 0x3f), markedByte 0x80 (codepoint &&& 0x3f)]

/-- The code point of a surrogate pair. -/
def pairCodepoint (high low : UInt32) : UInt32 :=
  (0x10000 : UInt32) + ((high - 0xd800) <<< 10) + (low - 0xdc00)

/-- Whether the loop gets to the end, and what it has written by then. -/
def utf16Loop : JsString → List UInt8 → Bool × List UInt8
  | [], written => (true, written)
  | [unit], written =>
    if 0xd800 ≤ unit ∧ unit ≤ 0xdbff then (false, written)
    else if 0xdc00 ≤ unit ∧ unit ≤ 0xdfff then (false, written)
    else (true, written ++ encodeCodepoint unit.toUInt32)
  | unit :: next :: rest, written =>
    if 0xd800 ≤ unit ∧ unit ≤ 0xdbff then
      if next < 0xdc00 ∨ 0xdfff < next then (false, written)
      else utf16Loop rest (written ++ encodeCodepoint (pairCodepoint unit.toUInt32 next.toUInt32))
    else if 0xdc00 ≤ unit ∧ unit ≤ 0xdfff then (false, written)
    else utf16Loop (next :: rest) (written ++ encodeCodepoint unit.toUInt32)

def SIZE_MAX : Nat := 2 ^ 64 - 1

/-- What `owned_utf8_view` makes of the output. -/
def utf16ToUtf8 (malloc : Nat → Bool) (input : MoonString) : Except Utf16Failure BytesViewV1 :=
  let capacity := input.units.length * 3
  if SIZE_MAX < capacity then .error .noMemory
  else if capacity ≠ 0 ∧ malloc capacity = false then .error .noMemory
  else
    match utf16Loop input.units [] with
    | (false, _) => .error .invalid
    | (true, written) =>
      if capacity = 0 then .ok .absent
      else .ok { data := some written, len := written.length, readable := readable_some written }

/-! ## One code point -/

theorem toNat_markedByte (mark bits : UInt32) (k a : Nat) (hmark : mark.toNat = 2 ^ k * a)
    (hbits : bits.toNat < 2 ^ k) (hbyte : mark.toNat + bits.toNat < 256) :
    (markedByte mark bits).toNat = mark.toNat + bits.toNat := by
  have hor := Nat.two_pow_add_eq_or_of_lt hbits a
  rw [markedByte, UInt32.toNat_toUInt8, UInt32.toNat_or, hmark, ← hor, ← hmark]
  omega

theorem toNat_shiftRight (codepoint : UInt32) (k : UInt32) (hk : k.toNat < 32) :
    (codepoint >>> k).toNat = codepoint.toNat / 2 ^ k.toNat := by
  rw [UInt32.toNat_shiftRight, Nat.mod_eq_of_lt hk, Nat.shiftRight_eq_div_pow]

theorem toNat_low (bits : UInt32) : (bits &&& 0x3f).toNat = bits.toNat % 64 := by
  rw [UInt32.toNat_and]
  exact Nat.and_two_pow_sub_one_eq_mod bits.toNat 6

theorem map_toNat_encodeCodepoint (codepoint : UInt32) (h : codepoint.toNat < 0x110000) :
    (encodeCodepoint codepoint).map UInt8.toNat = codePointBytes codepoint.toNat := by
  have h6 : (codepoint >>> 6).toNat = codepoint.toNat / 64 :=
    toNat_shiftRight codepoint 6 (by decide)
  have h12 : (codepoint >>> 12).toNat = codepoint.toNat / 4096 :=
    toNat_shiftRight codepoint 12 (by decide)
  have h18 : (codepoint >>> 18).toNat = codepoint.toNat / 262144 :=
    toNat_shiftRight codepoint 18 (by decide)
  have htail : ∀ bits : UInt32, (markedByte 0x80 (bits &&& 0x3f)).toNat = 0x80 + bits.toNat % 64 := by
    intro bits
    have hlow := toNat_low bits
    rw [toNat_markedByte 0x80 _ 6 2 rfl (by omega) (by rw [hlow]; change 128 + _ < _; omega), hlow]
    rfl
  unfold encodeCodepoint codePointBytes
  simp only [UInt32.le_iff_toNat_le]
  change ((if codepoint.toNat ≤ 0x7f then _ else if codepoint.toNat ≤ 0x7ff then _
    else if codepoint.toNat ≤ 0xffff then _ else _ : List UInt8)).map UInt8.toNat = _
  split_ifs with h1 h2 h3
  · simp only [List.map_cons, List.map_nil, UInt32.toNat_toUInt8, List.cons.injEq, and_true]
    omega
  · have hlead := toNat_markedByte 0xc0 (codepoint >>> 6) 6 3 rfl (by omega)
      (by rw [h6]; change 192 + _ < _; omega)
    simp only [List.map_cons, List.map_nil, htail, hlead, h6]
    rfl
  · have hlead := toNat_markedByte 0xe0 (codepoint >>> 12) 4 14 rfl (by omega)
      (by rw [h12]; change 224 + _ < _; omega)
    simp only [List.map_cons, List.map_nil, htail, hlead, h6, h12]
    rfl
  · have hlead := toNat_markedByte 0xf0 (codepoint >>> 18) 3 30 rfl (by omega)
      (by rw [h18]; change 240 + _ < _; omega)
    simp only [List.map_cons, List.map_nil, htail, hlead, h6, h12, h18]
    rfl

theorem encodeCodepoint_char {codepoint : UInt32} {c : Char} (h : codepoint.toNat = c.toNat) :
    encodeCodepoint codepoint = String.utf8EncodeChar c := by
  have hlt := Codec.toNat_lt c
  symm
  rw [utf8EncodeChar_eq_iff, map_toNat_encodeCodepoint codepoint (by omega), h]

theorem isHighSurrogate_iff_range {unit : UInt16} :
    0xd800 ≤ unit ∧ unit ≤ 0xdbff ↔ isHighSurrogate unit = true := by
  rw [isHighSurrogate_iff, UInt16.le_iff_toNat_le, UInt16.le_iff_toNat_le]
  rfl

theorem isLowSurrogate_iff_range {unit : UInt16} :
    0xdc00 ≤ unit ∧ unit ≤ 0xdfff ↔ isLowSurrogate unit = true := by
  rw [isLowSurrogate_iff, UInt16.le_iff_toNat_le, UInt16.le_iff_toNat_le]
  rfl

theorem outside_low_iff {unit : UInt16} :
    unit < 0xdc00 ∨ 0xdfff < unit ↔ ¬ isLowSurrogate unit = true := by
  rw [← isLowSurrogate_iff_range, not_and_or, UInt16.not_le, UInt16.not_le]

theorem pairCodepoint_toNat {high low : UInt16} (hhigh : isHighSurrogate high = true)
    (hlow : isLowSurrogate low = true) :
    (pairCodepoint high.toUInt32 low.toUInt32).toNat = (scalarOfPair high low).toNat := by
  have hh := isHighSurrogate_iff.mp hhigh
  have hl := isLowSurrogate_iff.mp hlow
  have hfirst : (high.toUInt32 - 0xd800).toNat = high.toNat - 0xd800 := by
    rw [UInt32.toNat_sub_of_le _ _ (by rw [UInt32.le_iff_toNat_le, UInt16.toNat_toUInt32]; exact hh.1),
      UInt16.toNat_toUInt32]
    rfl
  have hsecond : (low.toUInt32 - 0xdc00).toNat = low.toNat - 0xdc00 := by
    rw [UInt32.toNat_sub_of_le _ _ (by rw [UInt32.le_iff_toNat_le, UInt16.toNat_toUInt32]; exact hl.1),
      UInt16.toNat_toUInt32]
    rfl
  have hshift : ((high.toUInt32 - 0xd800) <<< 10).toNat = (high.toNat - 0xd800) * 0x400 := by
    rw [UInt32.toNat_shiftLeft, hfirst, Nat.shiftLeft_eq]
    change (high.toNat - 0xd800) * 2 ^ 10 % 2 ^ 32 = _
    omega
  rw [scalarOfPair_toNat hhigh hlow, pairCodepoint, UInt32.toNat_add, UInt32.toNat_add, hshift,
    hsecond]
  change ((0x10000 + (high.toNat - 0xd800) * 0x400) % 2 ^ 32 + (low.toNat - 0xdc00)) % 2 ^ 32 = _
  omega

theorem encodeCodepoint_unit {unit : UInt16}
    (h : (isHighSurrogate unit || isLowSurrogate unit) = false) :
    encodeCodepoint unit.toUInt32 = String.utf8EncodeChar (scalarOfUnit unit) := by
  apply encodeCodepoint_char
  rw [scalarOfUnit_toNat h, UInt16.toNat_toUInt32]

/-! ## The loop -/

theorem not_surrogate {unit : UInt16}
    (h : (isHighSurrogate unit || isLowSurrogate unit) = false) :
    ¬ (0xd800 ≤ unit ∧ unit ≤ 0xdbff) ∧ ¬ (0xdc00 ≤ unit ∧ unit ≤ 0xdfff) := by
  rw [isHighSurrogate_iff_range, isLowSurrogate_iff_range]
  simpa using h

attribute [local simp] utf16Loop

theorem utf16Loop_unit {unit : UInt16}
    (h : (isHighSurrogate unit || isLowSurrogate unit) = false) (rest : JsString)
    (written : List UInt8) :
    utf16Loop (unit :: rest) written =
      utf16Loop rest (written ++ String.utf8EncodeChar (scalarOfUnit unit)) := by
  obtain ⟨hhigh, hlow⟩ := not_surrogate h
  rw [← encodeCodepoint_unit h]
  cases rest with
  | nil => simp only [utf16Loop, if_neg hhigh, if_neg hlow]
  | cons next rest => rw [utf16Loop, if_neg hhigh, if_neg hlow]

theorem utf16Loop_pair {high low : UInt16} (hhigh : isHighSurrogate high = true)
    (hlow : isLowSurrogate low = true) (rest : JsString) (written : List UInt8) :
    utf16Loop (high :: low :: rest) written =
      utf16Loop rest (written ++ String.utf8EncodeChar (scalarOfPair high low)) := by
  rw [utf16Loop, if_pos (isHighSurrogate_iff_range.mpr hhigh),
    if_neg (by rw [outside_low_iff]; exact not_not.mpr hlow),
    encodeCodepoint_char (pairCodepoint_toNat hhigh hlow)]

/-- A surrogate that starts no pair ends the loop. -/
theorem utf16Loop_lone {unit : UInt16} {rest : JsString}
    (h : (isHighSurrogate unit || isLowSurrogate unit) = true)
    (hrest : ∀ next, rest.head? = some next →
      (isHighSurrogate unit && isLowSurrogate next) = false) (written : List UInt8) :
    utf16Loop (unit :: rest) written = (false, written) := by
  by_cases hhigh : isHighSurrogate unit = true
  · cases rest with
    | nil => rw [utf16Loop, if_pos (isHighSurrogate_iff_range.mpr hhigh)]
    | cons next rest =>
      have hnext := hrest next rfl
      rw [hhigh, Bool.true_and, ← Bool.not_eq_true, ← outside_low_iff] at hnext
      rw [utf16Loop, if_pos (isHighSurrogate_iff_range.mpr hhigh), if_pos hnext]
  · have hlow : isLowSurrogate unit = true := by simpa [hhigh] using h
    rw [← isHighSurrogate_iff_range] at hhigh
    rw [← isLowSurrogate_iff_range] at hlow
    cases rest with
    | nil => rw [utf16Loop, if_neg hhigh, if_pos hlow]
    | cons next rest => rw [utf16Loop, if_neg hhigh, if_pos hlow]

/-- The loop gets to the end of a well-formed string, and has then written its UTF-8. -/
theorem utf16Loop_wellFormed {input : JsString} (h : wellFormed input = true)
    (written : List UInt8) :
    utf16Loop input written =
      (true, written ++ (scalarValues input).flatMap String.utf8EncodeChar) := by
  induction input using scalarValues.induct generalizing written with
  | case1 => simp [utf16Loop, scalarValues]
  | case2 unit =>
    simp only [wellFormed, Bool.not_eq_true'] at h
    rw [utf16Loop_unit h, scalarValues]
    simp [utf16Loop]
  | case3 unit next rest hpair ih =>
    rw [wellFormed, if_pos hpair] at h
    rw [scalarValues, if_pos hpair, List.flatMap_cons, ← List.append_assoc]
    simp only [Bool.and_eq_true] at hpair
    rw [utf16Loop_pair hpair.1 hpair.2, ih h]
  | case4 unit next rest hpair ih =>
    rw [wellFormed, if_neg hpair] at h
    simp only [Bool.and_eq_true, Bool.not_eq_true'] at h
    rw [scalarValues, if_neg hpair, List.flatMap_cons, ← List.append_assoc, utf16Loop_unit h.1,
      ih h.2]

/-- Elsewhere the loop stops early. -/
theorem utf16Loop_illFormed {input : JsString} (h : wellFormed input = false)
    (written : List UInt8) : (utf16Loop input written).1 = false := by
  induction input using scalarValues.induct generalizing written with
  | case1 => cases h
  | case2 unit =>
    simp only [wellFormed, Bool.not_eq_false'] at h
    rw [utf16Loop_lone h (fun next hnext => by cases hnext)]
  | case3 unit next rest hpair ih =>
    rw [wellFormed, if_pos hpair] at h
    simp only [Bool.and_eq_true] at hpair
    rw [utf16Loop_pair hpair.1 hpair.2]
    exact ih h _
  | case4 unit next rest hpair ih =>
    rw [wellFormed, if_neg hpair] at h
    by_cases hplain : (isHighSurrogate unit || isLowSurrogate unit) = false
    · rw [hplain, Bool.not_false, Bool.true_and] at h
      rw [utf16Loop_unit hplain]
      exact ih h _
    · rw [Bool.not_eq_false] at hplain
      rw [utf16Loop_lone hplain]
      intro other hother
      cases hother
      simpa using hpair

/-! ## Texts -/

/-- The text of a string, with U+FFFD for a lone surrogate. -/
def MoonString.text (s : MoonString) : String := String.ofList (scalarValues s.units)

theorem utf8Bytes_text (s : MoonString) :
    utf8Bytes s.text = (scalarValues s.units).flatMap String.utf8EncodeChar :=
  utf8Bytes_ofList (scalarValues s.units)

theorem length_encodeCodepoint_le (codepoint : UInt32) :
    (encodeCodepoint codepoint).length ≤ 4 ∧
      (codepoint.toNat < 0x10000 → (encodeCodepoint codepoint).length ≤ 3) := by
  unfold encodeCodepoint
  split_ifs with h1 h2 h3
  · simp
  · simp
  · simp
  · refine ⟨by simp, ?_⟩
    intro h
    rw [UInt32.le_iff_toNat_le] at h3
    change ¬ codepoint.toNat ≤ 65535 at h3
    omega

/-- Three bytes are enough for each code unit, also when the loop stops early. -/
theorem length_utf16Loop_le (input : JsString) (written : List UInt8) :
    (utf16Loop input written).2.length ≤ written.length + input.length * 3 := by
  have hunit : ∀ unit : UInt16, (encodeCodepoint unit.toUInt32).length ≤ 3 := by
    intro unit
    have hlt := unit.toNat_lt
    apply (length_encodeCodepoint_le unit.toUInt32).2
    rw [UInt16.toNat_toUInt32]
    omega
  induction input, written using utf16Loop.induct with
  | case1 written => simp [utf16Loop]
  | case2 unit written hhigh => simp [utf16Loop, hhigh]
  | case3 unit written hhigh hlow => simp [utf16Loop, hhigh, hlow]
  | case4 unit written hhigh hlow =>
    have h := hunit unit
    rw [utf16Loop, if_neg hhigh, if_neg hlow]
    simp only [List.length_append, List.length_cons, List.length_nil]
    omega
  | case5 unit next rest written hhigh hnext =>
    rw [utf16Loop, if_pos hhigh, if_pos hnext]
    exact Nat.le_add_right _ _
  | case6 unit next rest written hhigh hnext ih =>
    have h := (length_encodeCodepoint_le (pairCodepoint unit.toUInt32 next.toUInt32)).1
    rw [utf16Loop, if_pos hhigh, if_neg hnext]
    simp only [List.length_append, List.length_cons] at ih ⊢
    omega
  | case7 unit next rest written hhigh hlow =>
    rw [utf16Loop, if_neg hhigh, if_pos hlow]
    exact Nat.le_add_right _ _
  | case8 unit next rest written hhigh hlow ih =>
    have h := hunit unit
    rw [utf16Loop, if_neg hhigh, if_neg hlow]
    simp only [List.length_append, List.length_cons] at ih ⊢
    omega

/-- The UTF-8 of a well-formed string is a length of memory. -/
theorem utf8ByteSize_text_le {s : MoonString} (h : wellFormed s.units = true) :
    s.text.utf8ByteSize ≤ isizeMax := by
  have hbound := length_utf16Loop_le s.units []
  have hfits := s.fits
  rw [utf16Loop_wellFormed h, List.nil_append, ← utf8Bytes_text, length_utf8Bytes] at hbound
  unfold isizeMax INT32_MAX at *
  simp only [List.length_nil] at hbound
  omega

/-- With memory for the output the conversion answers with the text, or refuses the string. -/
theorem utf16ToUtf8_eq {malloc : Nat → Bool} (hmemory : ∀ n, malloc n = true)
    (input : MoonString) :
    utf16ToUtf8 malloc input =
      if wellFormed input.units = true then .ok (stringView input.text) else .error .invalid := by
  have hfits := input.fits
  unfold utf16ToUtf8
  dsimp only
  rw [if_neg (by unfold SIZE_MAX INT32_MAX at *; omega), if_neg (by rw [hmemory]; simp)]
  cases hformed : wellFormed input.units with
  | false =>
    have hloop := utf16Loop_illFormed hformed []
    cases hrun : utf16Loop input.units [] with
    | mk done written =>
      rw [hrun] at hloop
      cases hloop
      rfl
  | true =>
    rw [utf16Loop_wellFormed hformed, List.nil_append, ← utf8Bytes_text]
    dsimp only
    rw [if_pos rfl]
    cases hunits : input.units with
    | nil =>
      rw [if_pos (by rfl), MoonString.text, hunits]
      rfl
    | cons unit rest =>
      have hbytes : utf8Bytes input.text ≠ [] := by
        intro hempty
        have htext : input.text = "" := utf8Bytes_injective hempty
        have hsame := utf16_scalarValues hformed
        rw [← String.toList_ofList (l := scalarValues input.units)] at hsame
        change utf16 input.text.toList = input.units at hsame
        rw [htext, hunits] at hsame
        cases hsame
      rw [if_neg (by simp), stringView, bytesView, if_neg (by simpa using hbytes)]

end OpendalMbt.Stub
