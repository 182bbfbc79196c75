import OpendalMbt.Codec.Utf8

/-!
# The UTF-8 check of the C stub

`valid_utf8` of `src/opendal_stub.c` on a region of memory of the given length. A read
outside the region stops the loop with a reason of its own.

* `scanCharacter_eq_ok_iff`: one turn of the loop passes over exactly one encoded character;
* `validUtf8_cases`: the whole loop reads inside the region and decides whether it holds the
  encoding of a text;
* `valid_utf8_correct`: the same against the shortest forms of scalar values.
-/

namespace OpendalMbt.Stub

open Codec

/-- Why the loop stops before the end of the region. -/
inductive ScanStop where
  | outside
  | malformed
  deriving DecidableEq, Repr

abbrev Scan (α : Type) : Type := Except ScanStop α

def readByte (data : List UInt8) (i : Nat) : Scan UInt8 :=
  match data[i]? with
  | some byte => .ok byte
  | none => .error .outside

/-- The bits that the first byte gives to the code point, and the width of the sequence. -/
def sequenceStart (first : UInt8) : Option (UInt32 × Nat) :=
  if 0xc2 ≤ first ∧ first ≤ 0xdf then some ((first &&& 0x1f).toUInt32, 2)
  else if 0xe0 ≤ first ∧ first ≤ 0xef then some ((first &&& 0x0f).toUInt32, 3)
  else if 0xf0 ≤ first ∧ first ≤ 0xf4 then some ((first &&& 0x07).toUInt32, 4)
  else none

def appendBits (codepoint : UInt32) (next : UInt8) : UInt32 :=
  (codepoint <<< 6) ||| (next &&& 0x3f).toUInt32

/-- The inner loop from `j` on, with `left` turns to go. -/
def continuationBytes (data : List UInt8) (i j left : Nat) (codepoint : UInt32) : Scan UInt32 :=
  match left with
  | 0 => .ok codepoint
  | left + 1 =>
    match readByte data (i + j) with
    | .error stop => .error stop
    | .ok next =>
      if next &&& 0xc0 ≠ 0x80 then .error .malformed
      else continuationBytes data i (j + 1) left (appendBits codepoint next)

/-- An overlong form, a surrogate or a code point past the last one. -/
def Misfit (width : Nat) (codepoint : UInt32) : Prop :=
  width = 2 ∧ codepoint < 0x80 ∨ width = 3 ∧ codepoint < 0x800 ∨
    width = 4 ∧ codepoint < 0x10000 ∨ 0xd800 ≤ codepoint ∧ codepoint ≤ 0xdfff ∨
    0x10ffff < codepoint

instance (width : Nat) (codepoint : UInt32) : Decidable (Misfit width codepoint) :=
  inferInstanceAs (Decidable (_ ∨ _))

/-- One turn of the loop at `i`, with the `i` of the next turn. -/
def scanCharacter (data : List UInt8) (i : Nat) : Scan Nat :=
  match readByte data i with
  | .error stop => .error stop
  | .ok first =>
    if first ≤ 0x7f then .ok (i + 1)
    else
      match sequenceStart first with
      | none => .error .malformed
      | some (codepoint, width) =>
        if data.length - i < width then .error .malformed
        else
          match continuationBytes data i 1 (width - 1) codepoint with
          | .error stop => .error stop
          | .ok codepoint =>
            if Misfit width codepoint then .error .malformed else .ok (i + width)

theorem sequenceStart_width {first : UInt8} {codepoint : UInt32} {width : Nat}
    (h : sequenceStart first = some (codepoint, width)) : 0 < width := by
  unfold sequenceStart at h
  split_ifs at h <;> cases h <;> omega

theorem lt_scanCharacter {data : List UInt8} {i next : Nat}
    (h : scanCharacter data i = .ok next) : i < next := by
  unfold scanCharacter at h
  split at h
  · cases h
  · split_ifs at h
    · cases h
      omega
    · split at h
      · cases h
      · rename_i hstart
        have hwidth := sequenceStart_width hstart
        split_ifs at h
        split at h
        · cases h
        · split_ifs at h
          cases h
          omega

def validUtf8Loop (data : List UInt8) (i : Nat) : Scan Unit :=
  if _hi : i < data.length then
    match _hscan : scanCharacter data i with
    | .error stop => .error stop
    | .ok next => validUtf8Loop data next
  else .ok ()
  termination_by data.length - i
  decreasing_by
    have hnext := lt_scanCharacter _hscan
    omega

/-- The answer, or `none` for a read outside the region. -/
def validUtf8 (data : List UInt8) : Option Bool :=
  match validUtf8Loop data 0 with
  | .ok () => some true
  | .error .malformed => some false
  | .error .outside => none

/-- What a pointer and a length stand for. -/
inductive ByteRegion where
  | null (len : UInt64)
  | readable (data : List UInt8)

/-- `valid_utf8`. -/
def ByteRegion.validUtf8 : ByteRegion → Option Bool
  | .null len => some (len = 0)
  | .readable data => Stub.validUtf8 data

/-! ## Bits -/

theorem isContinuation_iff (byte : UInt8) : byte &&& 0xc0 = 0x80 ↔ byte.toNat / 64 = 2 := by
  have hall : ∀ n : Fin 256, (n.val &&& 0xc0 = 0x80) ↔ n.val / 64 = 2 := by decide +kernel
  rw [← hall ⟨byte.toNat, byte.toNat_lt⟩, ← UInt8.toNat_inj, UInt8.toNat_and]
  rfl

theorem toNat_appendBits (codepoint : UInt32) (next : UInt8) (h : codepoint.toNat < 2 ^ 26) :
    (appendBits codepoint next).toNat = codepoint.toNat * 64 + next.toNat % 64 := by
  have hlow : next.toNat &&& 63 = next.toNat % 64 := Nat.and_two_pow_sub_one_eq_mod next.toNat 6
  have hhigh : codepoint.toNat <<< 6 % 2 ^ 32 = codepoint.toNat <<< 6 := by
    rw [Nat.shiftLeft_eq]
    omega
  have hor := Nat.shiftLeft_add_eq_or_of_lt (i := 6) (b := next.toNat % 64) (by omega)
    codepoint.toNat
  unfold appendBits
  simp only [UInt32.toNat_or, UInt32.toNat_shiftLeft, UInt8.toNat_toUInt32, UInt8.toNat_and]
  change codepoint.toNat <<< 6 % 2 ^ 32 ||| (next.toNat &&& 63) = _
  rw [hlow, hhigh, ← hor, Nat.shiftLeft_eq]

/-! ## One turn -/

theorem readByte_append (before rest : List UInt8) (k : Nat) :
    readByte (before ++ rest) (before.length + k) = readByte rest k := by
  unfold readByte
  rw [List.getElem?_append_right (by omega), Nat.add_sub_cancel_left]

theorem continuationBytes_append (before rest : List UInt8) (j left : Nat) (codepoint : UInt32) :
    continuationBytes (before ++ rest) before.length j left codepoint =
      continuationBytes rest 0 j left codepoint := by
  induction left generalizing j codepoint with
  | zero => rfl
  | succ left ih =>
    unfold continuationBytes
    rw [readByte_append, Nat.zero_add]
    simp only [ih]

/-- What the loop does at an index depends on what follows. -/
theorem scanCharacter_append (before rest : List UInt8) :
    scanCharacter (before ++ rest) before.length =
      (scanCharacter rest 0).map (before.length + ·) := by
  have hread := readByte_append before rest 0
  rw [Nat.add_zero] at hread
  unfold scanCharacter
  rw [hread]
  cases readByte rest 0 with
  | error stop => rfl
  | ok first =>
    simp only [continuationBytes_append, List.length_append, Nat.add_sub_cancel_left, Nat.sub_zero,
      Nat.zero_add]
    by_cases hascii : first ≤ 0x7f
    · rw [if_pos hascii, if_pos hascii]
      rfl
    · rw [if_neg hascii, if_neg hascii]
      cases sequenceStart first with
      | none => rfl
      | some start =>
        dsimp only
        by_cases hshort : rest.length < start.2
        · rw [if_pos hshort, if_pos hshort]
          rfl
        · rw [if_neg hshort, if_neg hshort]
          cases continuationBytes rest 0 1 (start.2 - 1) start.1 with
          | error stop => rfl
          | ok codepoint =>
            dsimp only
            by_cases hmisfit : Misfit start.2 codepoint
            · rw [if_pos hmisfit, if_pos hmisfit]
              rfl
            · rw [if_neg hmisfit, if_neg hmisfit]
              rfl

theorem le_ascii_iff (first : UInt8) : first ≤ 0x7f ↔ first.toNat ≤ 127 := UInt8.le_iff_toNat_le

/-- The first byte by its number. -/
theorem sequenceStart_cases (first : UInt8) :
    (∃ codepoint : UInt32, 0xc2 ≤ first.toNat ∧ first.toNat ≤ 0xdf ∧
      sequenceStart first = some (codepoint, 2) ∧ codepoint.toNat = first.toNat % 32) ∨
    (∃ codepoint : UInt32, 0xe0 ≤ first.toNat ∧ first.toNat ≤ 0xef ∧
      sequenceStart first = some (codepoint, 3) ∧ codepoint.toNat = first.toNat % 16) ∨
    (∃ codepoint : UInt32, 0xf0 ≤ first.toNat ∧ first.toNat ≤ 0xf4 ∧
      sequenceStart first = some (codepoint, 4) ∧ codepoint.toNat = first.toNat % 8) ∨
    (first.toNat < 0xc2 ∨ 0xf4 < first.toNat) ∧ sequenceStart first = none := by
  have hle : ∀ a b : UInt8, a ≤ b ↔ a.toNat ≤ b.toNat := fun a b => UInt8.le_iff_toNat_le
  have hmask : ∀ k : Nat, k < 8 → ∀ mask : UInt8, mask.toNat = 2 ^ k - 1 →
      (first &&& mask).toUInt32.toNat = first.toNat % 2 ^ k := by
    intro k _ mask hmask
    rw [UInt8.toNat_toUInt32, UInt8.toNat_and, hmask, Nat.and_two_pow_sub_one_eq_mod]
  unfold sequenceStart
  split_ifs with h2 h3 h4
  · rw [hle, hle] at h2
    exact .inl ⟨_, h2.1, h2.2, rfl, hmask 5 (by omega) 0x1f rfl⟩
  · rw [hle, hle] at h3
    exact .inr (.inl ⟨_, h3.1, h3.2, rfl, hmask 4 (by omega) 0x0f rfl⟩)
  · rw [hle, hle] at h4
    exact .inr (.inr (.inl ⟨_, h4.1, h4.2, rfl, hmask 3 (by omega) 0x07 rfl⟩))
  · rw [hle, hle] at h2 h3 h4
    refine .inr (.inr (.inr ⟨?_, rfl⟩))
    change ¬ (194 ≤ first.toNat ∧ first.toNat ≤ 223) at h2
    change ¬ (224 ≤ first.toNat ∧ first.toNat ≤ 239) at h3
    change ¬ (240 ≤ first.toNat ∧ first.toNat ≤ 244) at h4
    omega

theorem misfit_iff (width : Nat) (codepoint : UInt32) :
    Misfit width codepoint ↔
      width = 2 ∧ codepoint.toNat < 0x80 ∨ width = 3 ∧ codepoint.toNat < 0x800 ∨
        width = 4 ∧ codepoint.toNat < 0x10000 ∨
        0xd800 ≤ codepoint.toNat ∧ codepoint.toNat ≤ 0xdfff ∨ 0x10ffff < codepoint.toNat := by
  unfold Misfit
  simp only [UInt32.lt_iff_toNat_lt, UInt32.le_iff_toNat_le]
  rfl

/-- One more byte of a sequence. -/
theorem continuationBytes_succ {data : List UInt8} {i j left : Nat} {codepoint : UInt32}
    {next : UInt8} (hread : data[i + j]? = some next) :
    continuationBytes data i j (left + 1) codepoint =
      if next.toNat / 64 = 2 then
        continuationBytes data i (j + 1) left (appendBits codepoint next)
      else .error .malformed := by
  rw [continuationBytes, readByte, hread]
  simp only [ne_eq, isContinuation_iff, ite_not]

theorem scanCharacter_one {a : UInt8} {rest : List UInt8} (h : a.toNat ≤ 127) :
    scanCharacter (a :: rest) 0 = .ok 1 := by
  have hread : readByte (a :: rest) 0 = .ok a := rfl
  rw [scanCharacter, hread]
  simp only
  rw [if_pos ((le_ascii_iff a).mpr h)]

/-- A sequence of more than one byte, up to its continuation bytes. -/
theorem scanCharacter_start {a : UInt8} {rest : List UInt8} {codepoint : UInt32} {width : Nat}
    (hascii : 127 < a.toNat) (hstart : sequenceStart a = some (codepoint, width))
    (hlength : width ≤ (a :: rest).length) :
    scanCharacter (a :: rest) 0 =
      match continuationBytes (a :: rest) 0 1 (width - 1) codepoint with
      | .error stop => .error stop
      | .ok codepoint => if Misfit width codepoint then .error .malformed else .ok width := by
  have hread : readByte (a :: rest) 0 = .ok a := rfl
  rw [scanCharacter, hread]
  simp only
  rw [if_neg (by rw [le_ascii_iff]; omega), hstart]
  simp only
  rw [if_neg (by omega)]
  simp only [Nat.zero_add]

theorem scanCharacter_two {a b : UInt8} {rest : List UInt8} (hlow : 0xc2 ≤ a.toNat)
    (hhigh : a.toNat ≤ 0xdf) :
    scanCharacter (a :: b :: rest) 0 =
      if b.toNat / 64 = 2 then .ok 2 else .error .malformed := by
  obtain ⟨codepoint, -, -, hstart, hcode⟩ | ⟨_, _, _⟩ | ⟨_, _, _⟩ | ⟨_, _⟩ := sequenceStart_cases a
  · have hb := toNat_appendBits codepoint b (by omega)
    rw [scanCharacter_start (by omega) hstart (by simp), continuationBytes_succ rfl]
    split_ifs with hcont
    · simp only [continuationBytes]
      rw [if_neg]
      rw [misfit_iff]
      omega
    · rfl
  all_goals omega

theorem scanCharacter_three {a b c : UInt8} {rest : List UInt8} {v : Nat} (hlow : 0xe0 ≤ a.toNat)
    (hhigh : a.toNat ≤ 0xef)
    (hv : v = a.toNat % 16 * 4096 + b.toNat % 64 * 64 + c.toNat % 64) :
    scanCharacter (a :: b :: c :: rest) 0 =
      if b.toNat / 64 = 2 ∧ c.toNat / 64 = 2 ∧ 0x800 ≤ v ∧ (v < 0xd800 ∨ 0xdfff < v) then .ok 3
      else .error .malformed := by
  obtain ⟨_, _, _⟩ | ⟨codepoint, -, -, hstart, hcode⟩ | ⟨_, _, _⟩ | ⟨_, _⟩ := sequenceStart_cases a
  case inr.inl =>
    have hb := toNat_appendBits codepoint b (by omega)
    have hc := toNat_appendBits (appendBits codepoint b) c (by omega)
    rw [scanCharacter_start (by omega) hstart (by simp), continuationBytes_succ rfl]
    by_cases hcontb : b.toNat / 64 = 2
    · rw [if_pos hcontb, continuationBytes_succ rfl]
      by_cases hcontc : c.toNat / 64 = 2
      · rw [if_pos hcontc]
        simp only [continuationBytes]
        rw [← ite_not]
        apply if_congr
        · rw [misfit_iff]
          omega
        · rfl
        · rfl
      · rw [if_neg hcontc, if_neg (by omega)]
    · rw [if_neg hcontb, if_neg (by omega)]
  all_goals omega

theorem scanCharacter_four {a b c d : UInt8} {rest : List UInt8} {v : Nat} (hlow : 0xf0 ≤ a.toNat)
    (hhigh : a.toNat ≤ 0xf4)
    (hv : v = a.toNat % 8 * 262144 + b.toNat % 64 * 4096 + c.toNat % 64 * 64 + d.toNat % 64) :
    scanCharacter (a :: b :: c :: d :: rest) 0 =
      if b.toNat / 64 = 2 ∧ c.toNat / 64 = 2 ∧ d.toNat / 64 = 2 ∧ 0x10000 ≤ v ∧ v ≤ 0x10ffff then
        .ok 4
      else .error .malformed := by
  obtain ⟨_, _, _⟩ | ⟨_, _, _⟩ | ⟨codepoint, -, -, hstart, hcode⟩ | ⟨_, _⟩ := sequenceStart_cases a
  case inr.inr.inl =>
    have hb := toNat_appendBits codepoint b (by omega)
    have hc := toNat_appendBits (appendBits codepoint b) c (by omega)
    have hd := toNat_appendBits (appendBits (appendBits codepoint b) c) d (by omega)
    rw [scanCharacter_start (by omega) hstart (by simp), continuationBytes_succ rfl]
    by_cases hcontb : b.toNat / 64 = 2
    · rw [if_pos hcontb, continuationBytes_succ rfl]
      by_cases hcontc : c.toNat / 64 = 2
      · rw [if_pos hcontc, continuationBytes_succ rfl]
        by_cases hcontd : d.toNat / 64 = 2
        · rw [if_pos hcontd]
          simp only [continuationBytes]
          rw [← ite_not]
          apply if_congr
          · rw [misfit_iff]
            omega
          · rfl
          · rfl
        · rw [if_neg hcontd, if_neg (by omega)]
      · rw [if_neg hcontc, if_neg (by omega)]
    · rw [if_neg hcontb, if_neg (by omega)]
  all_goals omega

/-- A region that ends inside a sequence. -/
theorem scanCharacter_short {a : UInt8} {rest : List UInt8} {codepoint : UInt32} {width : Nat}
    (hascii : 127 < a.toNat) (hstart : sequenceStart a = some (codepoint, width))
    (hlength : (a :: rest).length < width) :
    scanCharacter (a :: rest) 0 = .error .malformed := by
  have hread : readByte (a :: rest) 0 = .ok a := rfl
  rw [scanCharacter, hread]
  simp only
  rw [if_neg (by rw [le_ascii_iff]; omega), hstart]
  simp only
  rw [if_pos (by omega)]

theorem scanCharacter_unstarted {a : UInt8} {rest : List UInt8} (hascii : 127 < a.toNat)
    (hstart : sequenceStart a = none) : scanCharacter (a :: rest) 0 = .error .malformed := by
  have hread : readByte (a :: rest) 0 = .ok a := rfl
  rw [scanCharacter, hread]
  simp only
  rw [if_neg (by rw [le_ascii_iff]; omega), hstart]

/-- A turn passes over one encoded character, whatever follows it. -/
theorem scanCharacter_encoded (c : Char) (rest : List UInt8) :
    scanCharacter (String.utf8EncodeChar c ++ rest) 0 = .ok c.utf8Size := by
  have hbytes := map_toNat_utf8EncodeChar c
  have hsize := String.length_utf8EncodeChar c
  have hvalid : c.toNat < 0xd800 ∨ 0xdfff < c.toNat ∧ c.toNat < 0x110000 := c.valid
  rw [← hsize]
  generalize String.utf8EncodeChar c = bytes at hbytes ⊢
  unfold codePointBytes at hbytes
  split_ifs at hbytes
  · obtain ⟨a, tail, rfl, ha, htail⟩ := List.map_eq_cons_iff.mp hbytes
    obtain rfl := List.map_eq_nil_iff.mp htail
    exact scanCharacter_one (by omega)
  · obtain ⟨a, tail, rfl, ha, htail⟩ := List.map_eq_cons_iff.mp hbytes
    obtain ⟨b, tail, rfl, hb, htail⟩ := List.map_eq_cons_iff.mp htail
    obtain rfl := List.map_eq_nil_iff.mp htail
    exact (scanCharacter_two (by omega) (by omega)).trans (if_pos (by omega))
  · obtain ⟨a, tail, rfl, ha, htail⟩ := List.map_eq_cons_iff.mp hbytes
    obtain ⟨b, tail, rfl, hb, htail⟩ := List.map_eq_cons_iff.mp htail
    obtain ⟨c', tail, rfl, hc, htail⟩ := List.map_eq_cons_iff.mp htail
    obtain rfl := List.map_eq_nil_iff.mp htail
    exact (scanCharacter_three (by omega) (by omega) rfl).trans (if_pos (by omega))
  · obtain ⟨a, tail, rfl, ha, htail⟩ := List.map_eq_cons_iff.mp hbytes
    obtain ⟨b, tail, rfl, hb, htail⟩ := List.map_eq_cons_iff.mp htail
    obtain ⟨c', tail, rfl, hc, htail⟩ := List.map_eq_cons_iff.mp htail
    obtain ⟨d, tail, rfl, hd, htail⟩ := List.map_eq_cons_iff.mp htail
    obtain rfl := List.map_eq_nil_iff.mp htail
    exact (scanCharacter_four (by omega) (by omega) rfl).trans (if_pos (by omega))

theorem exists_char {v : Nat} (h : v < 0xd800 ∨ 0xdfff < v ∧ v < 0x110000) :
    ∃ c : Char, c.toNat = v := ⟨Char.ofNatAux v h, rfl⟩

/-- Bytes with the right numbers are the character, and the turn passes over it. -/
theorem scanCharacter_of_sequence {v : Nat} (hv : v < 0xd800 ∨ 0xdfff < v ∧ v < 0x110000)
    (bytes : List UInt8) (hbytes : codePointBytes v = bytes.map UInt8.toNat) (rest : List UInt8) :
    ∃ c post, bytes ++ rest = String.utf8EncodeChar c ++ post ∧
      scanCharacter (bytes ++ rest) 0 = .ok c.utf8Size := by
  obtain ⟨c, rfl⟩ := exists_char hv
  obtain rfl := utf8EncodeChar_eq_iff.mpr hbytes
  exact ⟨c, rest, rfl, scanCharacter_encoded c rest⟩

/-- A turn at a byte of the region: the region goes on with an encoded character, or it is
refused. -/
theorem scanCharacter_cases (a : UInt8) (rest : List UInt8) :
    (∃ c post, a :: rest = String.utf8EncodeChar c ++ post ∧
      scanCharacter (a :: rest) 0 = .ok c.utf8Size) ∨
    scanCharacter (a :: rest) 0 = .error .malformed := by
  by_cases hascii : a.toNat ≤ 127
  · left
    apply scanCharacter_of_sequence (v := a.toNat) (by omega) [a]
    simp [codePointBytes, hascii]
  obtain ⟨codepoint, hlow, hhigh, hstart, -⟩ | ⟨codepoint, hlow, hhigh, hstart, -⟩ |
    ⟨codepoint, hlow, hhigh, hstart, -⟩ | ⟨hout, hstart⟩ := sequenceStart_cases a
  · match rest with
    | [] => exact .inr (scanCharacter_short (by omega) hstart (by simp))
    | b :: rest =>
      by_cases hcont : b.toNat / 64 = 2
      · left
        apply scanCharacter_of_sequence (v := a.toNat % 32 * 64 + b.toNat % 64) (by omega)
          [a, b]
        rw [codePointBytes, if_neg (by omega), if_pos (by omega)]
        simp only [List.map_cons, List.map_nil, List.cons.injEq, and_true]
        omega
      · exact .inr ((scanCharacter_two hlow hhigh).trans (if_neg hcont))
  · match rest with
    | [] => exact .inr (scanCharacter_short (by omega) hstart (by simp))
    | [b] => exact .inr (scanCharacter_short (by omega) hstart (by simp))
    | b :: c :: rest =>
      by_cases hcont : b.toNat / 64 = 2 ∧ c.toNat / 64 = 2 ∧
          0x800 ≤ a.toNat % 16 * 4096 + b.toNat % 64 * 64 + c.toNat % 64 ∧
          (a.toNat % 16 * 4096 + b.toNat % 64 * 64 + c.toNat % 64 < 0xd800 ∨
            0xdfff < a.toNat % 16 * 4096 + b.toNat % 64 * 64 + c.toNat % 64)
      · left
        apply scanCharacter_of_sequence
          (v := a.toNat % 16 * 4096 + b.toNat % 64 * 64 + c.toNat % 64) (by omega) [a, b, c]
        rw [codePointBytes, if_neg (by omega), if_neg (by omega), if_pos (by omega)]
        simp only [List.map_cons, List.map_nil, List.cons.injEq, and_true]
        omega
      · exact .inr ((scanCharacter_three hlow hhigh rfl).trans (if_neg hcont))
  · match rest with
    | [] => exact .inr (scanCharacter_short (by omega) hstart (by simp))
    | [b] => exact .inr (scanCharacter_short (by omega) hstart (by simp))
    | [b, c] => exact .inr (scanCharacter_short (by omega) hstart (by simp))
    | b :: c :: d :: rest =>
      by_cases hcont : b.toNat / 64 = 2 ∧ c.toNat / 64 = 2 ∧ d.toNat / 64 = 2 ∧
          0x10000 ≤ a.toNat % 8 * 262144 + b.toNat % 64 * 4096 + c.toNat % 64 * 64 +
            d.toNat % 64 ∧
          a.toNat % 8 * 262144 + b.toNat % 64 * 4096 + c.toNat % 64 * 64 + d.toNat % 64 ≤ 0x10ffff
      · left
        apply scanCharacter_of_sequence
          (v := a.toNat % 8 * 262144 + b.toNat % 64 * 4096 + c.toNat % 64 * 64 + d.toNat % 64)
          (by omega) [a, b, c, d]
        rw [codePointBytes, if_neg (by omega), if_neg (by omega), if_neg (by omega)]
        simp only [List.map_cons, List.map_nil, List.cons.injEq, and_true]
        omega
      · exact .inr ((scanCharacter_four hlow hhigh rfl).trans (if_neg hcont))
  · exact .inr (scanCharacter_unstarted (by omega) hstart)

/-- A turn at an index of the region never reads outside. It moves on exactly when an encoded
character stands there, and moves behind it. -/
theorem scanCharacter_eq_ok_iff {before rest : List UInt8} (hrest : rest ≠ []) {next : Nat} :
    scanCharacter (before ++ rest) before.length = .ok next ↔
      ∃ c post, rest = String.utf8EncodeChar c ++ post ∧ next = before.length + c.utf8Size := by
  rw [scanCharacter_append]
  constructor
  · intro h
    obtain ⟨a, rest, rfl⟩ := List.exists_cons_of_ne_nil hrest
    obtain ⟨c, post, hrest, hscan⟩ | hscan := scanCharacter_cases a rest
    · rw [hscan] at h
      cases h
      exact ⟨c, post, hrest, rfl⟩
    · rw [hscan] at h
      cases h
  · intro ⟨c, post, hrest, hnext⟩
    rw [hrest, scanCharacter_encoded, hnext]
    rfl

/-! ## The loop -/

theorem validUtf8Loop_end (before : List UInt8) :
    validUtf8Loop before before.length = .ok () := by
  rw [validUtf8Loop, dif_neg (by omega)]

theorem validUtf8Loop_error {data : List UInt8} {i : Nat} {stop : ScanStop} (hi : i < data.length)
    (hscan : scanCharacter data i = .error stop) : validUtf8Loop data i = .error stop := by
  rw [validUtf8Loop, dif_pos hi]
  split
  · rename_i hother
    rw [hscan] at hother
    cases hother
    rfl
  · rename_i hother
    rw [hscan] at hother
    cases hother

theorem validUtf8Loop_ok {data : List UInt8} {i next : Nat} (hi : i < data.length)
    (hscan : scanCharacter data i = .ok next) :
    validUtf8Loop data i = validUtf8Loop data next := by
  rw [validUtf8Loop, dif_pos hi]
  split
  · rename_i hother
    rw [hscan] at hother
    cases hother
  · rename_i hother
    rw [hscan] at hother
    cases hother
    rfl

/-- The loop goes on behind an encoded character. -/
theorem validUtf8Loop_encoded (before : List UInt8) (c : Char) (rest : List UInt8) :
    validUtf8Loop (before ++ (String.utf8EncodeChar c ++ rest)) before.length =
      validUtf8Loop (before ++ String.utf8EncodeChar c ++ rest)
        (before ++ String.utf8EncodeChar c).length := by
  have hsize := String.length_utf8EncodeChar c
  have hpos : 0 < c.utf8Size := Char.utf8Size_pos c
  have hrest : String.utf8EncodeChar c ++ rest ≠ [] := by
    intro h
    have hlength := congrArg List.length h
    rw [List.length_append, List.length_nil] at hlength
    omega
  rw [List.append_assoc, List.length_append, hsize]
  apply validUtf8Loop_ok
  · simp only [List.length_append]
    omega
  · exact (scanCharacter_eq_ok_iff hrest).mpr ⟨c, rest, rfl, rfl⟩

theorem validUtf8Loop_characters (before : List UInt8) (chars : List Char) :
    validUtf8Loop (before ++ chars.flatMap String.utf8EncodeChar) before.length = .ok () := by
  induction chars generalizing before with
  | nil =>
    rw [List.flatMap_nil, List.append_nil]
    exact validUtf8Loop_end before
  | cons c chars ih =>
    rw [List.flatMap_cons, validUtf8Loop_encoded]
    exact ih (before ++ String.utf8EncodeChar c)

/-- From any index the loop ends: it has read an encoding, or it refuses. -/
theorem validUtf8Loop_cases (n : Nat) (before rest : List UInt8) (hn : rest.length ≤ n) :
    (∃ chars : List Char, rest = chars.flatMap String.utf8EncodeChar) ∨
      validUtf8Loop (before ++ rest) before.length = .error .malformed := by
  induction n generalizing before rest with
  | zero =>
    left
    exact ⟨[], List.length_eq_zero_iff.mp (by omega)⟩
  | succ n ih =>
    cases rest with
    | nil => exact .inl ⟨[], rfl⟩
    | cons a rest =>
      obtain ⟨c, post, hrest, -⟩ | hscan := scanCharacter_cases a rest
      · have hpos : 0 < c.utf8Size := Char.utf8Size_pos c
        have hlength := congrArg List.length hrest
        rw [List.length_append, String.length_utf8EncodeChar] at hlength
        rw [hrest, validUtf8Loop_encoded]
        obtain ⟨chars, hchars⟩ | hloop := ih (before ++ String.utf8EncodeChar c) post (by omega)
        · left
          exact ⟨c :: chars, by rw [hchars, List.flatMap_cons]⟩
        · exact .inr hloop
      · right
        apply validUtf8Loop_error (by simp)
        rw [scanCharacter_append, hscan]
        rfl

/-- The check reads inside the region, and accepts exactly the encodings of texts. -/
theorem validUtf8_cases (data : List UInt8) :
    (∃ text, utf8Bytes text = data) ∧ validUtf8 data = some true ∨
      (¬ ∃ text, utf8Bytes text = data) ∧ validUtf8 data = some false := by
  by_cases htext : ∃ text, utf8Bytes text = data
  · left
    refine ⟨htext, ?_⟩
    obtain ⟨text, rfl⟩ := htext
    have hloop := validUtf8Loop_characters [] text.toList
    rw [List.nil_append, List.length_nil] at hloop
    rw [validUtf8, utf8Bytes, hloop]
  · right
    refine ⟨htext, ?_⟩
    obtain ⟨chars, hchars⟩ | hloop := validUtf8Loop_cases data.length [] data (Nat.le_refl _)
    · exact absurd ⟨String.ofList chars, by rw [utf8Bytes_ofList, hchars]⟩ htext
    · rw [List.nil_append, List.length_nil] at hloop
      rw [validUtf8, hloop]

theorem validUtf8_utf8Bytes (text : String) : validUtf8 (utf8Bytes text) = some true := by
  obtain ⟨-, h⟩ | ⟨h, -⟩ := validUtf8_cases (utf8Bytes text)
  · exact h
  · exact absurd ⟨text, rfl⟩ h

/-! ## Well-formed sequences -/

/-- The shortest forms of scalar values, one after the other. -/
def WellFormedUtf8 (data : List UInt8) : Prop :=
  ∃ values : List Nat, (∀ v ∈ values, v < 0xd800 ∨ 0xdfff < v ∧ v < 0x110000) ∧
    data.map UInt8.toNat = values.flatMap codePointBytes

theorem map_toNat_encode (chars : List Char) :
    (chars.flatMap String.utf8EncodeChar).map UInt8.toNat =
      (chars.map Char.toNat).flatMap codePointBytes := by
  rw [List.map_flatMap, List.flatMap_map]
  congr 1
  funext c
  exact map_toNat_utf8EncodeChar c

theorem exists_chars (values : List Nat)
    (h : ∀ v ∈ values, v < 0xd800 ∨ 0xdfff < v ∧ v < 0x110000) :
    ∃ chars : List Char, chars.map Char.toNat = values := by
  induction values with
  | nil => exact ⟨[], rfl⟩
  | cons v values ih =>
    obtain ⟨c, hc⟩ := exists_char (h v (List.mem_cons_self ..))
    obtain ⟨chars, hchars⟩ := ih fun w hw => h w (List.mem_cons_of_mem v hw)
    exact ⟨c :: chars, by rw [List.map_cons, hc, hchars]⟩

theorem wellFormedUtf8_iff (data : List UInt8) :
    WellFormedUtf8 data ↔ ∃ text, utf8Bytes text = data := by
  have hinjective : Function.Injective UInt8.toNat := fun a b => UInt8.toNat_inj.mp
  constructor
  · rintro ⟨values, hvalues, hdata⟩
    obtain ⟨chars, rfl⟩ := exists_chars values hvalues
    rw [← map_toNat_encode] at hdata
    refine ⟨String.ofList chars, ?_⟩
    rw [utf8Bytes_ofList]
    exact (List.map_injective_iff.mpr hinjective hdata).symm
  · rintro ⟨text, rfl⟩
    refine ⟨text.toList.map Char.toNat, ?_, map_toNat_encode text.toList⟩
    intro v hv
    obtain ⟨c, -, rfl⟩ := List.mem_map.mp hv
    exact c.valid

/-- A turn moves on, and not past the end. -/
theorem scanCharacter_le {data : List UInt8} {i next : Nat} (hi : i < data.length)
    (h : scanCharacter data i = .ok next) : next ≤ data.length := by
  have hlength : (data.take i).length = i := by
    rw [List.length_take]
    omega
  have hrest : data.drop i ≠ [] := by
    intro hnil
    have := List.drop_eq_nil_iff.mp hnil
    omega
  rw [← List.take_append_drop i data] at h
  obtain ⟨c, post, hpost, hnext⟩ :=
    (@scanCharacter_eq_ok_iff (data.take i) _ hrest _).mp (by rwa [hlength])
  have htotal := congrArg List.length hpost
  rw [List.length_drop, List.length_append, String.length_utf8EncodeChar] at htotal
  omega

/-- The check accepts the well-formed sequences and no others. It reads inside the region, and
every turn of its loop comes closer to the end. -/
theorem valid_utf8_correct (data : List UInt8) :
    ((ByteRegion.readable data).validUtf8 = some true ↔ WellFormedUtf8 data) ∧
      ((ByteRegion.readable data).validUtf8 = some false ↔ ¬ WellFormedUtf8 data) ∧
      (∀ i < data.length, scanCharacter data i ≠ .error .outside) ∧
      (∀ i < data.length, ∀ next, scanCharacter data i = .ok next →
        i < next ∧ next ≤ data.length) ∧
      ∀ len, (ByteRegion.null len).validUtf8 = some (decide (len = 0)) := by
  rw [wellFormedUtf8_iff]
  refine ⟨?_, ?_, ?_, ?_, fun len => rfl⟩
  · obtain ⟨htext, hvalid⟩ | ⟨htext, hvalid⟩ := validUtf8_cases data
    · simp [ByteRegion.validUtf8, hvalid, htext]
    · simp [ByteRegion.validUtf8, hvalid, htext]
  · obtain ⟨htext, hvalid⟩ | ⟨htext, hvalid⟩ := validUtf8_cases data
    · simp [ByteRegion.validUtf8, hvalid, htext]
    · simp [ByteRegion.validUtf8, hvalid, htext]
  · intro i hi houtside
    have hlength : (data.take i).length = i := by
      rw [List.length_take]
      omega
    have happend := scanCharacter_append (data.take i) (data.drop i)
    rw [List.take_append_drop, hlength, houtside] at happend
    cases hdrop : data.drop i with
    | nil =>
      have := List.drop_eq_nil_iff.mp hdrop
      omega
    | cons a rest =>
      rw [hdrop] at happend
      obtain ⟨c, post, -, hscan⟩ | hscan := scanCharacter_cases a rest <;>
        rw [hscan] at happend <;> cases happend
  · intro i hi next hscan
    exact ⟨lt_scanCharacter hscan, scanCharacter_le hi hscan⟩

end OpendalMbt.Stub
