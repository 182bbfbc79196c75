import OpendalMbt.Codec.Utf16

/-!
# Text encoders and decoders of a browser

`textEncode` is `new TextEncoder()`: a lone surrogate is written as U+FFFD. `textDecode` is
`new TextDecoder("utf-8", { fatal: true })`: it fails on malformed input, and as
`ignoreBOM` is not set it drops one leading U+FEFF.

* `textDecode_utf8Bytes`: what the decoder makes of the encoding of a text.
* `textDecode_textEncode_eq`: the decoder undoes the encoder except behind a leading
  U+FEFF.
-/

namespace OpendalMbt.Codec

def byteOrderMark : Char := '\uFEFF'

def dropByteOrderMark : List Char → List Char
  | [] => []
  | c :: chars => if c = byteOrderMark then chars else c :: chars

def textEncode (s : JsString) : List UInt8 := utf8Bytes (String.ofList (scalarValues s))

def textDecode (bytes : List UInt8) : Option JsString :=
  (utf8Decode bytes).map (fun text => utf16 (dropByteOrderMark text.toList))

/-- The code units of a text. -/
def exactText (text : String) : JsString := utf16 text.toList

/-- The code units that `textDecode` gives for a text. -/
def decodedText (text : String) : JsString := utf16 (dropByteOrderMark text.toList)

def StartsWithMark (text : String) : Prop := text.toList.head? = some byteOrderMark

instance (text : String) : Decidable (StartsWithMark text) :=
  inferInstanceAs (Decidable (text.toList.head? = some byteOrderMark))

theorem wellFormed_exactText (text : String) : wellFormed (exactText text) = true :=
  wellFormed_utf16 text.toList

theorem textEncode_exactText (text : String) : textEncode (exactText text) = utf8Bytes text := by
  rw [textEncode, exactText, scalarValues_utf16, String.ofList_toList]

theorem textDecode_utf8Bytes (text : String) :
    textDecode (utf8Bytes text) = some (decodedText text) := by
  rw [textDecode, utf8Decode_utf8Bytes]
  rfl

theorem dropByteOrderMark_eq_self {chars : List Char} :
    dropByteOrderMark chars = chars ↔ chars.head? ≠ some byteOrderMark := by
  cases chars with
  | nil => simp [dropByteOrderMark]
  | cons c chars =>
    by_cases hc : c = byteOrderMark
    · rw [dropByteOrderMark, if_pos hc]
      simp [hc]
    · rw [dropByteOrderMark, if_neg hc]
      simp [hc]

theorem decodedText_eq_exactText {text : String} :
    decodedText text = exactText text ↔ ¬ StartsWithMark text := by
  rw [StartsWithMark, ← ne_eq, ← dropByteOrderMark_eq_self]
  constructor
  · exact utf16_injective
  · intro h
    rw [decodedText, h, exactText]

/-! ## Well-formed strings -/

theorem unitsOf_byteOrderMark : unitsOf byteOrderMark = [0xFEFF] := by
  decide

/-- The scalar values start with the mark when the code units do. -/
theorem head?_scalarValues {s : JsString} (h : wellFormed s = true) :
    (scalarValues s).head? = some byteOrderMark ↔ s.head? = some 0xFEFF := by
  have hunits := utf16_scalarValues h
  cases hchars : scalarValues s with
  | nil =>
    rw [hchars] at hunits
    rw [← hunits]
    simp [utf16]
  | cons c chars =>
    rw [hchars, utf16_cons] at hunits
    rw [← hunits, List.head?_cons, Option.some.injEq]
    constructor
    · intro hc
      rw [hc, unitsOf_byteOrderMark]
      rfl
    · intro hhead
      rcases unitsOf_cases c with ⟨unit, hc, -, hunit⟩ | ⟨high, low, hc, hhigh, -, -⟩
      · rw [hc] at hhead
        simp only [List.singleton_append, List.head?_cons, Option.some.injEq] at hhead
        rw [← hunit, hhead]
        decide
      · rw [hc] at hhead
        simp only [List.cons_append, List.head?_cons, Option.some.injEq] at hhead
        rw [hhead] at hhigh
        exact absurd hhigh (by decide)

/-- The decoder undoes the encoder, except that it drops a leading U+FEFF. -/
theorem textDecode_textEncode_eq {s : JsString} (h : wellFormed s = true) :
    textDecode (textEncode s) = some s ↔ s.head? ≠ some 0xFEFF := by
  have hexact : exactText (String.ofList (scalarValues s)) = s := by
    rw [exactText, String.toList_ofList, utf16_scalarValues h]
  have hmark : StartsWithMark (String.ofList (scalarValues s)) ↔ s.head? = some 0xFEFF := by
    rw [StartsWithMark, String.toList_ofList, head?_scalarValues h]
  rw [textEncode, textDecode_utf8Bytes, Option.some.injEq, ne_eq, ← hmark,
    ← decodedText_eq_exactText, hexact]

end OpendalMbt.Codec
