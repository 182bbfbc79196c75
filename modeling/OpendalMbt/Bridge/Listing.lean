import OpendalMbt.Bridge.Exports

/-!
# Bounded listings

`collect_list` of `wasm/browser-bridge/src/lib.rs` with `push_entry_snapshot` and `entry_snapshot`.
A `usize` has 32 bits. What the lister of OpenDAL answers is a parameter, answer by answer.

* `entrySnapshot_eq_ok`: the snapshot of an entry;
* `push_eq_ok`, `push_error`: a push that is rejected changes nothing;
* `Turn`: the states between the turns of the loop, all of them accounted for;
* `bounded_listing`: the listings that are returned.
-/

namespace OpendalMbt.Bridge

open Transition

structure ListBounds where
  maxEntries : Nat
  maxBytes : Nat
  deriving DecidableEq, Repr

def PRODUCTION_LIST_BOUNDS : ListBounds where
  maxEntries := maxListEntries
  maxBytes := maxListOutputBytes

/-- An entry of OpenDAL. -/
structure UpstreamEntry where
  path : String
  name : String
  metadata : Metadata
  deriving DecidableEq, Repr

/-- `usize::checked_add`. -/
def checkedAdd (a b : Nat) : Option Nat := if a + b < UInt32.size then some (a + b) else none

def checkedSum (a path name metadata : Nat) : Option Nat := do
  let length ← checkedAdd a path
  let length ← checkedAdd length name
  checkedAdd length metadata

structure Collected where
  entries : List EntrySnapshot := []
  totalBytes : Nat := 0
  deriving DecidableEq, Repr

section Listing

variable (tryReserve : Nat → Bool)

def pushEntrySnapshot (entry : EntrySnapshot) (bounds : ListBounds) :
    Call Collected BridgeError Unit := fun s =>
  match checkedSum s.totalBytes entry.path.utf8ByteSize entry.name.utf8ByteSize
      entry.metadataSnapshot.length with
  | none => (.error .listTooLarge, s)
  | some nextBytes =>
    if bounds.maxEntries ≤ s.entries.length ∨ bounds.maxBytes < nextBytes then
      (.error .listTooLarge, s)
    else if tryReserve 1 then
      (.ok (), { entries := s.entries ++ [entry], totalBytes := nextBytes })
    else (.error .allocationFailed, s)

def entrySnapshot (entry : UpstreamEntry) : Except BridgeError EntrySnapshot := do
  let name ← tryOwnedString tryReserve entry.name
  let metadataSnapshot ← metadataSnapshotBytes tryReserve entry.metadata
  match checkedSum 0 entry.path.utf8ByteSize name.utf8ByteSize metadataSnapshot.length with
  | none => .error .listTooLarge
  | some length =>
    if maxListOutputBytes < length then .error .listTooLarge
    else
      .ok { path := entry.path, name, mode := entryModeCode entry.metadata.mode,
            contentLength := entry.metadata.contentLength, metadataSnapshot }

/-- What `try_next` answers, time after time; none is the end. -/
abbrev ListerAnswers : Type := Nat → Except BridgeError (Option UpstreamEntry)

variable {tryReserve}

/-- The size of an entry in a listing. -/
def EntrySnapshot.size (entry : EntrySnapshot) : Nat :=
  entry.path.utf8ByteSize + entry.name.utf8ByteSize + entry.metadataSnapshot.length

def listSize (entries : List EntrySnapshot) : Nat := (entries.map EntrySnapshot.size).sum

theorem checkedSum_eq_some {a path name metadata next : Nat} :
    checkedSum a path name metadata = some next ↔
      a + path + name + metadata < UInt32.size ∧ next = a + path + name + metadata := by
  unfold checkedSum checkedAdd
  constructor
  · intro h
    obtain ⟨first, hfirst, h⟩ := Option.bind_eq_some_iff.mp h
    obtain ⟨second, hsecond, h⟩ := Option.bind_eq_some_iff.mp h
    split_ifs at hfirst hsecond h
    cases hfirst
    cases hsecond
    cases h
    exact ⟨by omega, rfl⟩
  · rintro ⟨hlt, rfl⟩
    rw [if_pos (by omega)]
    simp only [Option.bind_eq_bind, Option.bind_some]
    rw [if_pos (by omega)]
    simp only [Option.bind_some]
    rw [if_pos hlt]

variable {entry : EntrySnapshot} {bounds : ListBounds} {s s' : Collected} {e : BridgeError}

theorem push_eq_ok (hbounds : bounds.maxBytes < UInt32.size) :
    pushEntrySnapshot tryReserve entry bounds s = (.ok (), s') ↔
      s.entries.length < bounds.maxEntries ∧ s.totalBytes + entry.size ≤ bounds.maxBytes ∧
        tryReserve 1 = true ∧
        s' = { entries := s.entries ++ [entry], totalBytes := s.totalBytes + entry.size } := by
  have hsize : s.totalBytes + entry.path.utf8ByteSize + entry.name.utf8ByteSize +
      entry.metadataSnapshot.length = s.totalBytes + entry.size := by
    unfold EntrySnapshot.size
    omega
  unfold pushEntrySnapshot
  cases hsum : checkedSum s.totalBytes entry.path.utf8ByteSize entry.name.utf8ByteSize
      entry.metadataSnapshot.length with
  | none =>
    have hnot : ¬ s.totalBytes + entry.size < UInt32.size := by
      intro hlt
      have hsome := checkedSum_eq_some.mpr ⟨hsize.symm ▸ hlt, rfl⟩
      rw [hsum] at hsome
      cases hsome
    simp only [Prod.mk.injEq, reduceCtorEq, false_and, false_iff, not_and]
    omega
  | some next =>
    obtain ⟨hlt, rfl⟩ := checkedSum_eq_some.mp hsum
    rw [hsize] at hlt ⊢
    dsimp only
    split_ifs with hfull hreserve
    · simp only [Prod.mk.injEq, reduceCtorEq, false_and, false_iff, not_and]
      omega
    · simp only [Prod.mk.injEq, true_and, hreserve]
      constructor
      · intro h
        exact ⟨by omega, by omega, h.symm⟩
      · intro h
        exact h.2.2.symm
    · simp [hreserve]

/-- A push that is rejected changes nothing. -/
theorem push_error (h : pushEntrySnapshot tryReserve entry bounds s = (.error e, s')) :
    s' = s := by
  unfold pushEntrySnapshot at h
  split at h
  · cases h
    rfl
  · split_ifs at h <;> cases h
    · rfl
    · rfl

theorem length_push (h : pushEntrySnapshot tryReserve entry bounds s = (.ok (), s')) :
    s.entries.length < bounds.maxEntries ∧ s'.entries = s.entries ++ [entry] := by
  unfold pushEntrySnapshot at h
  split at h
  · cases h
  · split_ifs at h with hfull hreserve <;> cases h
    exact ⟨by omega, rfl⟩

variable (tryReserve)

/-- The loop of `collect_list`, from the `k`-th answer on. -/
def collectLoop (bounds : ListBounds) (answers : ListerAnswers) (k : Nat) (s : Collected) :
    Except BridgeError Unit × Collected :=
  match answers k with
  | .error e => (.error e, s)
  | .ok none => (.ok (), s)
  | .ok (some entry) =>
    match entrySnapshot tryReserve entry with
    | .error e => (.error e, s)
    | .ok snapshot =>
      match hpush : pushEntrySnapshot tryReserve snapshot bounds s with
      | (.error e, s') => (.error e, s')
      | (.ok (), s') => collectLoop bounds answers (k + 1) s'
  termination_by bounds.maxEntries - s.entries.length
  decreasing_by
    obtain ⟨hlt, hentries⟩ := length_push hpush
    rw [hentries, List.length_append, List.length_singleton]
    omega

/-- `collect_list`, with what the request for the lister answers. -/
def collectList (request : Except BridgeError ListerAnswers) :
    Except BridgeError (List EntrySnapshot) := do
  let answers ← request
  let out := collectLoop tryReserve PRODUCTION_LIST_BOUNDS answers 0 {}
  out.1
  pure out.2.entries

end Listing

/-- What an entry becomes in a listing when its name and its metadata can be encoded. -/
def Encodes (tryReserve : Nat → Bool) (entry : UpstreamEntry) (snapshot : EntrySnapshot) : Prop :=
  tryOwnedString tryReserve entry.name = .ok snapshot.name ∧
    metadataSnapshotBytes tryReserve entry.metadata = .ok snapshot.metadataSnapshot ∧
    snapshot.path = entry.path ∧ snapshot.mode = entryModeCode entry.metadata.mode ∧
    snapshot.contentLength = entry.metadata.contentLength

/-- From the `k`-th answer on, the lister gives these entries and then the end. -/
def Yields (answers : ListerAnswers) : Nat → List UpstreamEntry → Prop
  | k, [] => answers k = .ok none
  | k, entry :: entries => answers k = .ok (some entry) ∧ Yields answers (k + 1) entries

section Bounded

variable {tryReserve : Nat → Bool} {answers : ListerAnswers} {k : Nat} {s s' : Collected}

theorem entrySnapshot_eq_ok {entry : UpstreamEntry} {snapshot : EntrySnapshot} :
    entrySnapshot tryReserve entry = .ok snapshot ↔
      Encodes tryReserve entry snapshot ∧ snapshot.size ≤ maxListOutputBytes := by
  unfold entrySnapshot Encodes EntrySnapshot.size
  cases hname : tryOwnedString tryReserve entry.name with
  | error e => simp [bind, Except.bind]
  | ok name =>
    cases hmetadata : metadataSnapshotBytes tryReserve entry.metadata with
    | error e => simp [bind, Except.bind]
    | ok metadataSnapshot =>
      dsimp only [bind, Except.bind]
      cases hsum : checkedSum 0 entry.path.utf8ByteSize name.utf8ByteSize
          metadataSnapshot.length with
      | none =>
        have hlarge : UInt32.size ≤
            entry.path.utf8ByteSize + name.utf8ByteSize + metadataSnapshot.length := by
          by_contra hlt
          have hsome := checkedSum_eq_some.mpr
            ⟨(show 0 + entry.path.utf8ByteSize + name.utf8ByteSize + metadataSnapshot.length <
              UInt32.size by omega), rfl⟩
          rw [hsum] at hsome
          cases hsome
        constructor
        · intro h
          cases h
        · rintro ⟨⟨hn, hm, hp, -, -⟩, hsize⟩
          cases hn
          cases hm
          rw [hp] at hsize
          have hmax : maxListOutputBytes < UInt32.size := by decide
          omega
      | some length =>
        obtain ⟨hlt, rfl⟩ := checkedSum_eq_some.mp hsum
        dsimp only
        split_ifs with hlarge
        · constructor
          · intro h
            cases h
          · rintro ⟨⟨hn, hm, hp, -, -⟩, hsize⟩
            cases hn
            cases hm
            rw [hp] at hsize
            omega
        · constructor
          · intro h
            cases h
            refine ⟨⟨rfl, rfl, rfl, rfl, rfl⟩, ?_⟩
            dsimp only
            omega
          · rintro ⟨⟨hn, hm, hp, hmode, hlength⟩, -⟩
            cases snapshot
            cases hn
            cases hm
            cases hp
            cases hmode
            cases hlength
            rfl

/-- The states between the turns of the loop. -/
inductive Turn (tryReserve : Nat → Bool) (answers : ListerAnswers) : Nat → Collected → Prop
  | start : Turn tryReserve answers 0 {}
  | next {k : Nat} {s s' : Collected} {entry : UpstreamEntry} {snapshot : EntrySnapshot} :
      Turn tryReserve answers k s → answers k = .ok (some entry) →
      entrySnapshot tryReserve entry = .ok snapshot →
      pushEntrySnapshot tryReserve snapshot PRODUCTION_LIST_BOUNDS s = (.ok (), s') →
      Turn tryReserve answers (k + 1) s'

theorem listSize_append (entries : List EntrySnapshot) (entry : EntrySnapshot) :
    listSize (entries ++ [entry]) = listSize entries + entry.size := by
  unfold listSize
  rw [List.map_append, List.sum_append]
  simp

/-- The counter is the size of what has been collected, which keeps both bounds. -/
theorem Turn.accounted (h : Turn tryReserve answers k s) :
    s.totalBytes = listSize s.entries ∧ s.entries.length = k ∧
      s.entries.length ≤ maxListEntries ∧ s.totalBytes ≤ maxListOutputBytes := by
  induction h with
  | start => exact ⟨rfl, rfl, Nat.zero_le _, Nat.zero_le _⟩
  | next _ _ _ hpush ih =>
    obtain ⟨htotal, hlength, -, -⟩ := ih
    obtain ⟨hentries, hbytes, -, rfl⟩ := (push_eq_ok (by decide)).mp hpush
    refine ⟨?_, ?_, ?_, ?_⟩
    · rw [listSize_append, htotal]
    · simp [hlength]
    · rw [List.length_append, List.length_singleton]
      exact hentries
    · exact hbytes

/-- The loop stops between two turns. -/
theorem Turn.collectLoop (h : Turn tryReserve answers k s) :
    ∃ n, Turn tryReserve answers n
      (collectLoop tryReserve PRODUCTION_LIST_BOUNDS answers k s).2 := by
  fun_induction Bridge.collectLoop tryReserve PRODUCTION_LIST_BOUNDS answers k s with
  | case1 k s e hanswer => exact ⟨k, h⟩
  | case2 k s hanswer => exact ⟨k, h⟩
  | case3 k s entry hanswer e hsnapshot => exact ⟨k, h⟩
  | case4 k s entry hanswer snapshot hsnapshot e s' hpush =>
    rw [push_error hpush]
    exact ⟨k, h⟩
  | case5 k s entry hanswer snapshot hsnapshot s' hpush ih =>
    exact ih (h.next hanswer hsnapshot hpush)

theorem collectLoop_eq_ok
    (h : collectLoop tryReserve PRODUCTION_LIST_BOUNDS answers k s = (.ok (), s')) :
    ∃ entries snapshots, Yields answers k entries ∧
      List.Forall₂ (Encodes tryReserve) entries snapshots ∧
      s'.entries = s.entries ++ snapshots ∧ (entries ≠ [] → tryReserve 1 = true) := by
  fun_induction collectLoop tryReserve PRODUCTION_LIST_BOUNDS answers k s with
  | case1 k s e hanswer => cases h
  | case2 k s hanswer =>
    cases h
    exact ⟨[], [], hanswer, .nil, (List.append_nil _).symm, fun hne => absurd rfl hne⟩
  | case3 k s entry hanswer e hsnapshot => cases h
  | case4 k s entry hanswer snapshot hsnapshot e s₁ hpush => cases h
  | case5 k s entry hanswer snapshot hsnapshot s₁ hpush ih =>
    obtain ⟨entries, snapshots, hyields, hencodes, hentries, -⟩ := ih h
    obtain ⟨-, -, hreserve, rfl⟩ := (push_eq_ok (by decide)).mp hpush
    have hencode := (entrySnapshot_eq_ok.mp hsnapshot).1
    refine ⟨entry :: entries, snapshot :: snapshots, ⟨hanswer, hyields⟩,
      .cons hencode hencodes, ?_, fun _ => hreserve⟩
    rw [hentries]
    simp

/-- Entries that fit are all collected. -/
theorem collectLoop_of_fits {entries : List UpstreamEntry} {snapshots : List EntrySnapshot}
    (hyields : Yields answers k entries)
    (hencodes : List.Forall₂ (Encodes tryReserve) entries snapshots)
    (hreserve : entries ≠ [] → tryReserve 1 = true)
    (hlength : s.entries.length + snapshots.length ≤ maxListEntries)
    (hsize : s.totalBytes + listSize snapshots ≤ maxListOutputBytes) :
    ∃ s', collectLoop tryReserve PRODUCTION_LIST_BOUNDS answers k s = (.ok (), s') ∧
      s'.entries = s.entries ++ snapshots := by
  induction hencodes generalizing k s with
  | nil =>
    refine ⟨s, ?_, (List.append_nil _).symm⟩
    unfold collectLoop
    rw [show answers k = .ok none from hyields]
  | @cons entry snapshot entries snapshots hencode _ ih =>
    obtain ⟨hanswer, hyields⟩ := hyields
    have hsizes : listSize (snapshot :: snapshots) = snapshot.size + listSize snapshots := rfl
    rw [List.length_cons] at hlength
    have hsnapshot : entrySnapshot tryReserve entry = .ok snapshot :=
      entrySnapshot_eq_ok.mpr ⟨hencode, by omega⟩
    have hroom := hreserve (List.cons_ne_nil _ _)
    have hpush : pushEntrySnapshot tryReserve snapshot PRODUCTION_LIST_BOUNDS s = (.ok (),
        { entries := s.entries ++ [snapshot], totalBytes := s.totalBytes + snapshot.size }) := by
      refine (push_eq_ok (by decide)).mpr ⟨?_, ?_, hroom, rfl⟩
      · dsimp only [PRODUCTION_LIST_BOUNDS]
        omega
      · dsimp only [PRODUCTION_LIST_BOUNDS]
        omega
    obtain ⟨s', hloop, hentries⟩ := ih hyields (fun _ => hroom)
      (s := { entries := s.entries ++ [snapshot], totalBytes := s.totalBytes + snapshot.size })
      (by rw [List.length_append, List.length_singleton]; omega) (by dsimp only; omega)
    refine ⟨s', ?_, by rw [hentries]; simp⟩
    rw [collectLoop]
    simp only [hanswer, hsnapshot]
    split
    · rename_i hother
      rw [hpush] at hother
      cases hother
    · rename_i hother
      rw [hpush] at hother
      cases hother
      exact hloop

theorem collectList_eq_ok {out : List EntrySnapshot} :
    collectList tryReserve (.ok answers) = .ok out ↔
      ∃ s, collectLoop tryReserve PRODUCTION_LIST_BOUNDS answers 0 {} = (.ok (), s) ∧
        s.entries = out := by
  unfold collectList
  simp only [bind, Except.bind, pure, Except.pure]
  cases hloop : collectLoop tryReserve PRODUCTION_LIST_BOUNDS answers 0 {} with
  | mk answer s =>
    cases answer with
    | error e => simp
    | ok done => simp

/-- The listings that are returned, and what the loop has counted at every turn. -/
theorem bounded_listing (tryReserve : Nat → Bool) :
    (∀ answers out, collectList tryReserve (.ok answers) = .ok out ↔
      ∃ entries, Yields answers 0 entries ∧ List.Forall₂ (Encodes tryReserve) entries out ∧
        (entries ≠ [] → tryReserve 1 = true) ∧
        out.length ≤ maxListEntries ∧ listSize out ≤ maxListOutputBytes) ∧
    (∀ e, collectList tryReserve (.error e) = .error e) ∧
    (∀ answers k s, Turn tryReserve answers k s →
      s.totalBytes = listSize s.entries ∧ s.entries.length = k) ∧
    (∀ answers, ∃ k, Turn tryReserve answers k
      (collectLoop tryReserve PRODUCTION_LIST_BOUNDS answers 0 {}).2) ∧
    (∀ entry bounds s e s', pushEntrySnapshot tryReserve entry bounds s = (.error e, s') →
      s' = s) := by
  refine ⟨?_, fun _ => rfl, ?_, fun _ => Turn.start.collectLoop, fun _ _ _ _ _ => push_error⟩
  · intro answers out
    rw [collectList_eq_ok]
    constructor
    · rintro ⟨s, hloop, rfl⟩
      obtain ⟨entries, snapshots, hyields, hencodes, hentries, hreserve⟩ :=
        collectLoop_eq_ok hloop
      have hcollected : s.entries = snapshots := hentries
      have hstart : Turn tryReserve answers 0 {} := .start
      obtain ⟨n, hturn⟩ := hstart.collectLoop
      rw [hloop] at hturn
      obtain ⟨htotal, -, hlength, hbytes⟩ := hturn.accounted
      refine ⟨entries, hyields, ?_, hreserve, hlength, ?_⟩
      · rw [hcollected]
        exact hencodes
      · rw [← htotal]
        exact hbytes
    · rintro ⟨entries, hyields, hencodes, hreserve, hlength, hsize⟩
      obtain ⟨s, hloop, hentries⟩ := collectLoop_of_fits (s := {}) hyields hencodes hreserve
        (by simpa using hlength) (by simpa using hsize)
      exact ⟨s, hloop, hentries⟩
  · intro answers k s hturn
    obtain ⟨htotal, hlength, -, -⟩ := hturn.accounted
    exact ⟨htotal, hlength⟩

end Bounded

end OpendalMbt.Bridge
