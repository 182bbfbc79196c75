import Mathlib.Algebra.Ring.Int.Defs
import Mathlib.Algebra.Ring.Nat
import Mathlib.Tactic.Common

/-!
# Object metadata

What both targets read of `opendal::Metadata`, and its timestamps.
-/

namespace OpendalMbt

/-- A `jiff` instant: `as_second` truncates toward zero and `subsec_nanosecond` has the
sign of the instant. The type holds every instant whose whole second is an `i64`; the
range of `jiff` lies inside. -/
structure Timestamp where
  asSecond : Int
  subsecNanosecond : Int
  subsec_lt : -1000000000 < subsecNanosecond ∧ subsecNanosecond < 1000000000
  signs : 0 ≤ asSecond ∧ 0 ≤ subsecNanosecond ∨ asSecond ≤ 0 ∧ subsecNanosecond ≤ 0
  lower : -2 ^ 63 * 1000000000 ≤ asSecond * 1000000000 + subsecNanosecond
  upper : asSecond * 1000000000 + subsecNanosecond < 2 ^ 63 * 1000000000
  deriving DecidableEq, Repr

/-- Nanoseconds since the epoch. -/
def Timestamp.instant (t : Timestamp) : Int := t.asSecond * 1000000000 + t.subsecNanosecond

theorem Timestamp.asSecond_eq (t : Timestamp) : t.asSecond = t.instant.tdiv 1000000000 := by
  have hsub := t.subsec_lt
  unfold Timestamp.instant
  rcases t.signs with hs | hs
  · rw [Int.tdiv_eq_ediv_of_nonneg (by omega)]
    omega
  · have hneg : t.asSecond * 1000000000 + t.subsecNanosecond =
        -(-t.asSecond * 1000000000 + -t.subsecNanosecond) := by omega
    rw [hneg, Int.neg_tdiv, Int.tdiv_eq_ediv_of_nonneg (by omega)]
    omega

theorem Timestamp.subsecNanosecond_eq (t : Timestamp) :
    t.subsecNanosecond = t.instant.tmod 1000000000 := by
  have hsecond := t.asSecond_eq
  have hdiv := Int.tmod_add_mul_tdiv t.instant 1000000000
  rw [← hsecond] at hdiv
  unfold Timestamp.instant at hdiv ⊢
  omega

/-- An instant is determined by its nanoseconds. -/
theorem Timestamp.instant_injective {s t : Timestamp} (h : s.instant = t.instant) : s = t := by
  have hsecond : s.asSecond = t.asSecond := by rw [s.asSecond_eq, t.asSecond_eq, h]
  have hsubsec : s.subsecNanosecond = t.subsecNanosecond := by
    rw [s.subsecNanosecond_eq, t.subsecNanosecond_eq, h]
  cases s
  cases t
  cases hsecond
  cases hsubsec
  rfl

/-- Every floored pair is the pair of an instant. -/
theorem Timestamp.exists_of_floor {seconds : Int} {nanoseconds : Nat}
    (hlower : -2 ^ 63 ≤ seconds) (hupper : seconds < 2 ^ 63) (hnanos : nanoseconds < 1000000000) :
    ∃ t : Timestamp,
      t.instant / 1000000000 = seconds ∧ (t.instant % 1000000000).toNat = nanoseconds := by
  by_cases hneg : seconds < 0 ∧ 0 < nanoseconds
  · refine ⟨⟨seconds + 1, nanoseconds - 1000000000, by omega, by omega, by omega, by omega⟩, ?_⟩
    simp only [Timestamp.instant]
    omega
  · refine ⟨⟨seconds, nanoseconds, by omega, by omega, by omega, by omega⟩, ?_⟩
    simp only [Timestamp.instant]
    omega

/-- `opendal::EntryMode`. -/
inductive EntryMode where
  | file | dir | unknown
  deriving DecidableEq, Repr

structure Metadata where
  mode : EntryMode
  isCurrent : Option Bool
  isDeleted : Bool
  contentLength : UInt64
  lastModified : Option Timestamp
  cacheControl : Option String
  contentDisposition : Option String
  contentEncoding : Option String
  contentMd5 : Option String
  contentType : Option String
  etag : Option String
  version : Option String
  deriving DecidableEq, Repr

/-- The optional texts, in the order in which both targets walk through them. -/
def Metadata.strings (metadata : Metadata) : List (Option String) :=
  [metadata.cacheControl, metadata.contentDisposition, metadata.contentEncoding,
    metadata.contentMd5, metadata.contentType, metadata.etag, metadata.version]

/-- The bytes of the texts that are there. -/
def stringsSize (strings : List (Option String)) : Nat :=
  (strings.map (fun s => s.elim 0 String.utf8ByteSize)).sum

end OpendalMbt
