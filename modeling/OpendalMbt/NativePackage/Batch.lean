import OpendalMbt.NativePackage.Error
import OpendalMbt.Stub.Utf16ToUtf8
import OpendalMbt.Stub.ValidUtf8

/-!
# The paths of a batch delete

`src/batch.mbt` counts the UTF-8 of a path before the stub converts it. The loop walks the code
units as that of `utf16_to_utf8` does, and only counts. A path that is refused may be no text, so
its error keeps the code units.

* `deletePathLoop_eq`: the count agrees with the conversion, turn by turn;
* `prepareDeleteManyPaths_eq_ok`: what is prepared are the paths given, all of them texts;
* `utf16ToUtf8_correct`: the conversion and the count on any string.
-/

namespace OpendalMbt.NativePackage

open Codec Native Stub

/-- An error about a path. -/
structure PathError where
  kind : ErrorKind
  status : ErrorStatus
  message : String
  operation : Operation
  path : JsString
  deriving DecidableEq, Repr

def deletePathError (message : String) (path : JsString) : PathError where
  kind := .invalidArgument
  status := .permanent
  message := message
  operation := .delete
  path := path

def invalidDeletePath (path : JsString) : PathError :=
  deletePathError "batch delete path contains invalid UTF-16" path

def deletePathLoop (path : JsString) : JsString → UInt64 → Except PathError UInt64
  | [], bytes => .ok bytes
  | unit :: rest, bytes =>
    if unit ≤ 0x7f then deletePathLoop path rest (bytes + 1)
    else if unit ≤ 0x7ff then deletePathLoop path rest (bytes + 2)
    else if 0xd800 ≤ unit ∧ unit ≤ 0xdbff then
      match rest with
      | [] => .error (invalidDeletePath path)
      | low :: rest =>
        if low < 0xdc00 ∨ 0xdfff < low then .error (invalidDeletePath path)
        else deletePathLoop path rest (bytes + 4)
    else if 0xdc00 ≤ unit ∧ unit ≤ 0xdfff then .error (invalidDeletePath path)
    else deletePathLoop path rest (bytes + 3)

def deletePathUtf8Length (path : MoonString) : Except PathError UInt64 :=
  deletePathLoop path.units path.units 0

def prepareDeleteManyPaths : List MoonString → Except PathError (List MoonString)
  | [] => .ok []
  | path :: paths =>
    if path.units.length = 0 then
      .error (deletePathError "batch delete paths must not be empty" path.units)
    else do
      let _ ← deletePathUtf8Length path
      let copied ← prepareDeleteManyPaths paths
      .ok (path :: copied)

/-! ## One turn -/

section Turns

variable {path : JsString} {unit high low : UInt16} (rest : JsString) (bytes : UInt64)

theorem not_high_of_le (h : unit ≤ 0x7ff) : ¬ (0xd800 ≤ unit ∧ unit ≤ 0xdbff) := by
  intro hhigh
  have hle := UInt16.le_trans hhigh.1 h
  revert hle
  decide

theorem not_low_of_le (h : unit ≤ 0x7ff) : ¬ (0xdc00 ≤ unit ∧ unit ≤ 0xdfff) := by
  intro hlow
  have hle := UInt16.le_trans hlow.1 h
  revert hle
  decide

/-- The widths of the count are those of the conversion. -/
theorem length_encodeCodepoint_unit (unit : UInt16) :
    (encodeCodepoint unit.toUInt32).length =
      if unit ≤ 0x7f then 1 else if unit ≤ 0x7ff then 2 else 3 := by
  have hlt := unit.toNat_lt
  have hle : ∀ bound : UInt16, unit.toUInt32 ≤ bound.toUInt32 ↔ unit ≤ bound := by
    intro bound
    rw [UInt32.le_iff_toNat_le, UInt16.le_iff_toNat_le, UInt16.toNat_toUInt32,
      UInt16.toNat_toUInt32]
  have hlast : unit.toUInt32 ≤ 0xffff := by
    rw [UInt32.le_iff_toNat_le, UInt16.toNat_toUInt32]
    change unit.toNat ≤ 65535
    omega
  have hfirst : unit.toUInt32 ≤ 0x7f ↔ unit ≤ 0x7f := hle 0x7f
  have hsecond : unit.toUInt32 ≤ 0x7ff ↔ unit ≤ 0x7ff := hle 0x7ff
  unfold encodeCodepoint
  simp only [hfirst, hsecond, if_pos hlast]
  split_ifs with h1 h2
  · rfl
  · rfl
  · rfl

theorem length_encodeCodepoint_pair (hhigh : isHighSurrogate high = true)
    (hlow : isLowSurrogate low = true) :
    (encodeCodepoint (pairCodepoint high.toUInt32 low.toUInt32)).length = 4 := by
  have hvalue : 0x10000 ≤ (pairCodepoint high.toUInt32 low.toUInt32).toNat := by
    rw [pairCodepoint_toNat hhigh hlow, scalarOfPair_toNat hhigh hlow]
    omega
  have hgt : ∀ bound : UInt32, bound.toNat < 0x10000 →
      ¬ pairCodepoint high.toUInt32 low.toUInt32 ≤ bound := by
    intro bound hbound hle
    rw [UInt32.le_iff_toNat_le] at hle
    omega
  rw [encodeCodepoint, if_neg (hgt 0x7f (by decide)), if_neg (hgt 0x7ff (by decide)),
    if_neg (hgt 0xffff (by decide))]
  rfl

attribute [local simp] deletePathLoop

theorem deletePathLoop_unit (hhigh : ¬ (0xd800 ≤ unit ∧ unit ≤ 0xdbff))
    (hlow : ¬ (0xdc00 ≤ unit ∧ unit ≤ 0xdfff)) :
    deletePathLoop path (unit :: rest) bytes =
      deletePathLoop path rest
        (bytes + UInt64.ofNat (encodeCodepoint unit.toUInt32).length) := by
  rw [length_encodeCodepoint_unit, deletePathLoop.eq_def]
  dsimp only
  rw [if_neg hhigh, if_neg hlow]
  split_ifs with h1 h2
  · rfl
  · rfl
  · rfl

theorem deletePathLoop_pair (hhigh : 0xd800 ≤ high ∧ high ≤ 0xdbff)
    (hlow : ¬ (low < 0xdc00 ∨ 0xdfff < low)) :
    deletePathLoop path (high :: low :: rest) bytes =
      deletePathLoop path rest (bytes +
        UInt64.ofNat (encodeCodepoint (pairCodepoint high.toUInt32 low.toUInt32)).length) := by
  have hsurrogate : isLowSurrogate low = true := not_not.mp (outside_low_iff.not.mp hlow)
  have hlarge : ¬ high ≤ 0x7ff := fun h => not_high_of_le h hhigh
  have hlarger : ¬ high ≤ 0x7f := fun h => hlarge (UInt16.le_trans h (by decide))
  rw [length_encodeCodepoint_pair (isHighSurrogate_iff_range.mp hhigh) hsurrogate, deletePathLoop,
    if_neg hlarger, if_neg hlarge, if_pos hhigh]
  exact if_neg hlow

theorem deletePathLoop_low (hlow : 0xdc00 ≤ unit ∧ unit ≤ 0xdfff) :
    deletePathLoop path (unit :: rest) bytes = .error (invalidDeletePath path) := by
  have hlarge : ¬ unit ≤ 0x7ff := fun h => not_low_of_le h hlow
  have hlarger : ¬ unit ≤ 0x7f := fun h => hlarge (UInt16.le_trans h (by decide))
  have hhigh : ¬ (0xd800 ≤ unit ∧ unit ≤ 0xdbff) := by
    intro hhigh
    have hle := UInt16.le_trans hlow.1 hhigh.2
    revert hle
    decide
  rw [deletePathLoop.eq_def]
  dsimp only
  rw [if_neg hlarger, if_neg hlarge, if_neg hhigh, if_pos hlow]

/-- A high surrogate that starts no pair. -/
theorem deletePathLoop_high (hhigh : 0xd800 ≤ unit ∧ unit ≤ 0xdbff)
    (hrest : ∀ low, rest.head? = some low → low < 0xdc00 ∨ 0xdfff < low) :
    deletePathLoop path (unit :: rest) bytes = .error (invalidDeletePath path) := by
  have hlarge : ¬ unit ≤ 0x7ff := fun h => not_high_of_le h hhigh
  have hlarger : ¬ unit ≤ 0x7f := fun h => hlarge (UInt16.le_trans h (by decide))
  rw [deletePathLoop.eq_def]
  dsimp only
  rw [if_neg hlarger, if_neg hlarge, if_pos hhigh]
  cases rest with
  | nil => rfl
  | cons low rest => exact if_pos (hrest low rfl)

end Turns

/-! ## The loop -/

/-- What the count says of the end of the conversion. -/
def counted (path : JsString) : Bool × List UInt8 → Except PathError UInt64
  | (true, written) => .ok (UInt64.ofNat written.length)
  | (false, _) => .error (invalidDeletePath path)

/-- The two loops stop at the same unit, or count what the other has written. -/
theorem deletePathLoop_eq (path input : JsString) (written : List UInt8) :
    deletePathLoop path input (UInt64.ofNat written.length) =
      counted path (utf16Loop input written) := by
  have happend : ∀ (written : List UInt8) (codepoint : UInt32),
      UInt64.ofNat written.length + UInt64.ofNat (encodeCodepoint codepoint).length =
        UInt64.ofNat (written ++ encodeCodepoint codepoint).length := by
    intro written codepoint
    rw [List.length_append, UInt64.ofNat_add]
  induction input, written using utf16Loop.induct with
  | case1 written => rfl
  | case2 unit written hhigh =>
    have hrest : ∀ low, ([] : JsString).head? = some low → low < 0xdc00 ∨ 0xdfff < low := by
      intro low hlow
      cases hlow
    rw [deletePathLoop_high [] _ hhigh hrest, utf16Loop, if_pos hhigh]
    rfl
  | case3 unit written hhigh hlow =>
    rw [deletePathLoop_low [] _ hlow, utf16Loop, if_neg hhigh, if_pos hlow]
    rfl
  | case4 unit written hhigh hlow =>
    rw [deletePathLoop_unit [] _ hhigh hlow, happend, utf16Loop, if_neg hhigh, if_neg hlow]
    rfl
  | case5 unit next rest written hhigh hnext =>
    have hhead : ∀ low, (next :: rest).head? = some low → low < 0xdc00 ∨ 0xdfff < low := by
      intro low hlow
      cases hlow
      exact hnext
    rw [deletePathLoop_high _ _ hhigh hhead, utf16Loop, if_pos hhigh, if_pos hnext]
    rfl
  | case6 unit next rest written hhigh hnext ih =>
    rw [deletePathLoop_pair _ _ hhigh hnext, happend, ih, utf16Loop, if_pos hhigh, if_neg hnext]
  | case7 unit next rest written hhigh hlow =>
    rw [deletePathLoop_low _ _ hlow, utf16Loop, if_neg hhigh, if_pos hlow]
    rfl
  | case8 unit next rest written hhigh hlow ih =>
    rw [deletePathLoop_unit _ _ hhigh hlow, happend, ih, utf16Loop, if_neg hhigh, if_neg hlow]

/-! ## The conversion and the count -/

section Conversion

variable {path : MoonString}

/-- Memory is asked for once. -/
theorem utf16ToUtf8_of_memory {malloc : Nat → Bool} (path : MoonString)
    (hmemory : malloc (path.units.length * 3) = true) :
    utf16ToUtf8 malloc path =
      if wellFormed path.units = true then .ok (stringView path.text) else .error .invalid := by
  have hsame : utf16ToUtf8 malloc path = utf16ToUtf8 (fun _ => true) path := by
    unfold utf16ToUtf8
    dsimp only
    rw [hmemory]
  rw [hsame]
  exact utf16ToUtf8_eq (fun _ => rfl) path

theorem deletePathUtf8Length_eq (path : MoonString) :
    deletePathUtf8Length path =
      if wellFormed path.units = true then .ok (UInt64.ofNat path.text.utf8ByteSize)
      else .error (invalidDeletePath path.units) := by
  have hloop := deletePathLoop_eq path.units path.units []
  show deletePathLoop path.units path.units (UInt64.ofNat ([] : List UInt8).length) = _
  rw [hloop]
  split_ifs with hformed
  · rw [utf16Loop_wellFormed hformed, List.nil_append, ← utf8Bytes_text, counted, length_utf8Bytes]
  · have hstops := utf16Loop_illFormed (Bool.eq_false_of_not_eq_true hformed) []
    cases hrun : utf16Loop path.units [] with
    | mk done written =>
      rw [hrun] at hstops
      cases hstops
      rfl

/-- The count of a text is a 64-bit number. -/
theorem toNat_utf8ByteSize (h : wellFormed path.units = true) :
    (UInt64.ofNat path.text.utf8ByteSize).toNat = path.text.utf8ByteSize := by
  have hle := utf8ByteSize_text_le h
  apply UInt64.toNat_ofNat_of_lt'
  unfold isizeMax at hle
  change _ < 2 ^ 64
  omega

/-- A well-formed string is the UTF-16 of its text. -/
theorem utf16_text (h : wellFormed path.units = true) : utf16 path.text.toList = path.units := by
  rw [MoonString.text, String.toList_ofList]
  exact utf16_scalarValues h

/-- What is prepared are the paths given, none of them empty and all of them texts. -/
theorem prepareDeleteManyPaths_eq_ok {paths copied : List MoonString} :
    prepareDeleteManyPaths paths = .ok copied ↔
      copied = paths ∧ ∀ path ∈ paths, path.units ≠ [] ∧ wellFormed path.units = true := by
  induction paths generalizing copied with
  | nil =>
    rw [prepareDeleteManyPaths]
    constructor
    · intro h
      cases h
      exact ⟨rfl, nofun⟩
    · intro h
      rw [h.1]
  | cons path paths ih =>
    rw [prepareDeleteManyPaths, List.forall_mem_cons]
    by_cases hempty : path.units.length = 0
    · rw [if_pos hempty]
      constructor
      · intro h
        cases h
      · intro h
        exact absurd (List.eq_nil_of_length_eq_zero hempty) h.2.1.1
    · have hne : path.units ≠ [] := fun h => hempty (by rw [h]; rfl)
      rw [if_neg hempty, deletePathUtf8Length_eq]
      by_cases hformed : wellFormed path.units = true
      · rw [if_pos hformed]
        show (prepareDeleteManyPaths paths >>= fun rest => .ok (path :: rest)) = _ ↔ _
        constructor
        · intro h
          obtain ⟨rest, hrest, hcopied⟩ := CallResult.bind_eq_ok.mp h
          cases hcopied
          obtain ⟨rfl, hall⟩ := ih.mp hrest
          exact ⟨rfl, ⟨hne, hformed⟩, hall⟩
        · intro h
          rw [h.1]
          exact CallResult.bind_eq_ok.mpr ⟨paths, ih.mpr ⟨rfl, h.2.2⟩, rfl⟩
      · rw [if_neg hformed]
        constructor
        · intro h
          cases h
        · intro h
          exact absurd h.2.1.2 hformed

/-- What is prepared can be converted. -/
theorem utf16ToUtf8_of_prepared {malloc : Nat → Bool} {paths copied : List MoonString}
    (h : prepareDeleteManyPaths paths = .ok copied) (hpath : path ∈ copied)
    (hmemory : malloc (path.units.length * 3) = true) :
    utf16ToUtf8 malloc path = .ok (stringView path.text) := by
  obtain ⟨rfl, hall⟩ := prepareDeleteManyPaths_eq_ok.mp h
  rw [utf16ToUtf8_of_memory path hmemory, if_pos (hall path hpath).2]

/-- On any string the conversion succeeds exactly when every surrogate is half of a pair; then it
has written the UTF-8 of the string, which `valid_utf8` accepts and which decodes to it. It never
writes beyond the memory that it asked for, and the count goes with it. -/
theorem utf16ToUtf8_correct (malloc : Nat → Bool) (path : MoonString)
    (hmemory : malloc (path.units.length * 3) = true) :
    ((∃ view, utf16ToUtf8 malloc path = .ok view) ↔ wellFormed path.units = true) ∧
      (∀ view, utf16ToUtf8 malloc path = .ok view →
        view.bytes = utf8Bytes path.text ∧ view.len = view.bytes.length ∧
          validUtf8 view.bytes = some true ∧
          ∃ text, utf8Decode view.bytes = some text ∧ utf16 text.toList = path.units) ∧
      (utf16Loop path.units []).2.length ≤ path.units.length * 3 ∧
      (∀ length, deletePathUtf8Length path = .ok length ↔
        ∃ view, utf16ToUtf8 malloc path = .ok view ∧ length.toNat = view.len) := by
  have hconvert := utf16ToUtf8_of_memory path hmemory
  have hcount := deletePathUtf8Length_eq path
  have hwritten := length_utf16Loop_le path.units []
  rw [List.length_nil, Nat.zero_add] at hwritten
  by_cases hformed : wellFormed path.units = true
  · rw [if_pos hformed] at hconvert hcount
    rw [hconvert, hcount]
    refine ⟨⟨fun _ => hformed, fun _ => ⟨_, rfl⟩⟩, ?_, hwritten, ?_⟩
    · intro view hview
      cases hview
      rw [stringView_bytes, stringView_len]
      exact ⟨rfl, (length_utf8Bytes path.text).symm, validUtf8_utf8Bytes path.text, path.text,
        utf8Decode_utf8Bytes path.text, utf16_text hformed⟩
    · intro length
      constructor
      · intro hlength
        cases hlength
        refine ⟨_, rfl, ?_⟩
        rw [toNat_utf8ByteSize hformed, stringView_len]
      · intro ⟨view, hview, hlength⟩
        cases hview
        congr 1
        apply UInt64.toNat_inj.mp
        rw [hlength, toNat_utf8ByteSize hformed, stringView_len]
  · rw [if_neg hformed] at hconvert hcount
    rw [hconvert, hcount]
    refine ⟨⟨fun h => ?_, fun h => absurd h hformed⟩, nofun, hwritten, ?_⟩
    · obtain ⟨view, hview⟩ := h
      cases hview
    · intro length
      constructor
      · intro h
        cases h
      · intro h
        obtain ⟨view, hview, -⟩ := h
        cases hview

/-- A pair, whose bytes are U+1F600. -/
def grinningFace : MoonString where
  units := [0xd83d, 0xde00]
  fits := by decide

theorem utf16ToUtf8_grinningFace :
    ∃ view, utf16ToUtf8 (fun _ => true) grinningFace = .ok view ∧ validUtf8 view.bytes = some true := by
  have h := utf16ToUtf8_correct (fun _ => true) grinningFace rfl
  obtain ⟨view, hview⟩ := h.1.mpr (by decide)
  exact ⟨view, hview, (h.2.1 view hview).2.2.1⟩

end Conversion

end OpendalMbt.NativePackage
