import OpendalMbt.Bridge.Replacement
import OpendalMbt.Bridge.Transfer

/-!
# Transfers are atomic

Every transfer is one of three things (`Atomic`): it fails and changes nothing but the last
error; it moves a payload from its source handle to one new handle; or it consumes the end
of a stream. No transfer reaches an `unreachable!`.

* `takeSuccessfulCompletion_cases` is the one analysis of the shared check-and-take;
* `moveCompletion_atomic` and `moveNext_atomic` carry it to the completions of one kind.
-/

namespace OpendalMbt.Bridge

open Arena

variable {O S W L : Type}

/-- What the lookups and insertions of a store rest on: a torn-down store stays empty. -/
structure Store.Valid (s : Store O S W L) : Prop where
  arena : s.arena.Valid
  torn : s.tornDown = true → s.arena = {}

theorem Store.Valid.running {s : Store O S W L} (hs : s.Valid) {handle : UInt32}
    {r : OwnedResource O S W L} (hget : s.arena.get? handle = some r) : s.tornDown = false := by
  cases htorn : s.tornDown with
  | false => rfl
  | true =>
    obtain ⟨index, generation, -, hslot⟩ := resource_eq_ok.mp (get?_eq_some.mp hget)
    rw [hs.torn htorn] at hslot
    cases hslot

section Outcomes

variable (effect : OwnedResource O S W L →
  Option (Option (OwnedResource O S W L) × Option (OwnedResource O S W L)))
variable (s : Store O S W L) (handle : UInt32) (out : Option UInt32 × Store O S W L)

/-- 0, with the error recorded and every handle as it was. -/
def Failed : Prop := ∃ e, out = (some 0, { s with lastError := some e })

/-- The payload of the source is under one new handle. -/
def Moved : Prop :=
  ∃ r left payload target arena, s.arena.get? handle = some r ∧
    effect r = some (left, some payload) ∧ out = (some target, { s with arena }) ∧
    Replaced s.arena arena handle target left payload

/-- The source held nothing but the end of a stream. -/
def Ended : Prop :=
  ∃ r arena, s.arena.get? handle = some r ∧ effect r = some (none, none) ∧
    out = (some 0, { s with arena }) ∧ Erased s.arena arena handle

def Atomic : Prop := Failed s out ∨ Moved effect s handle out ∨ Ended effect s handle out

end Outcomes

variable {s : Store O S W L} {handle : UInt32}
variable {effect : OwnedResource O S W L →
  Option (Option (OwnedResource O S W L) × Option (OwnedResource O S W L))}

theorem atomic_of_error (e : BridgeError) :
    Atomic effect s handle (returned (.error (.error e), s)) :=
  Or.inl ⟨e, rfl⟩

/-! ## Check and take -/

theorem takeCompletion_ok {completion : Completion S W L}
    {arena : Arena (OwnedResource O S W L)}
    (htake : s.arena.take handle .completion = (.ok (.completion completion), arena)) :
    Store.takeCompletion handle s = (.ok completion, { s with arena }) := by
  unfold Store.takeCompletion
  rw [htake]

theorem takeSuccessfulCompletion_cases (handle : UInt32) (s : Store O S W L)
    (kind : CompletionKind) (needsReplacement : Bool) :
    (∃ e, Store.takeSuccessfulCompletion handle s kind needsReplacement =
        (.error (.error e), s)) ∨
      ∃ completion arena, s.arena.get? handle = some (.completion completion) ∧
        completion.kind = kind ∧ completion.error = none ∧
        Store.oversized completion = false ∧
        (needsReplacement = true →
          s.arena.ensureInsertCapacityAfterTake handle .completion = .ok ()) ∧
        s.arena.take handle .completion = (.ok (.completion completion), arena) ∧
        Store.takeSuccessfulCompletion handle s kind needsReplacement =
          (.ok completion, { s with arena }) := by
  unfold Store.takeSuccessfulCompletion
  cases hcompletion : s.arena.completion handle with
  | error e => exact Or.inl ⟨e, rfl⟩
  | ok completion =>
    have hget := completion_eq_ok.mp hcompletion
    obtain ⟨arena, htake⟩ := @take_of_get? _ s.arena handle _ _ .completion hget rfl
    have htaken := takeCompletion_ok htake
    simp only
    split
    · exact Or.inl ⟨_, rfl⟩
    rename_i hkind
    split
    · exact Or.inl ⟨_, rfl⟩
    rename_i herror
    split
    · exact Or.inl ⟨_, rfl⟩
    rename_i hsize
    split
    · split
      · exact Or.inl ⟨_, rfl⟩
      · rename_i hneeds _ hensure
        refine Or.inr ⟨completion, arena, hget, not_not.mp hkind, herror, by simpa using hsize,
          fun _ => hensure, htake, htaken⟩
    · rename_i hneeds
      refine Or.inr ⟨completion, arena, hget, not_not.mp hkind, herror, by simpa using hsize,
        fun h => absurd h hneeds, htake, htaken⟩

/-- The insertion succeeds wherever the arena has room. -/
def Inserts (insert : OwnedResource O S W L → Store O S W L →
    Except BridgeError UInt32 × Store O S W L) (r : OwnedResource O S W L) : Prop :=
  ∀ (s : Store O S W L) code arena, s.tornDown = false → s.arena.insert r = (.ok code, arena) →
    insert r s = (.ok code, { s with arena })

theorem inserts_insertResource (r : OwnedResource O S W L) : Inserts Store.insertResource r := by
  intro s code arena htorn hinsert
  simp [Store.insertResource, htorn, hinsert]

theorem inserts_arenaInsert (r : OwnedResource O S W L) : Inserts Store.arenaInsert r := by
  intro s code arena htorn hinsert
  simp [Store.arenaInsert, hinsert]

theorem inserts_insertBuffer {bytes : List UInt8} (h : bytes.length ≤ maxBufferLength) :
    Inserts (Store.insertBufferResource (O := O) (S := S) (W := W) (L := L)) (.buffer bytes) := by
  intro s code arena htorn hinsert
  simp only [Store.insertBufferResource, Store.insertBuffer]
  rw [if_neg (Nat.not_lt.mpr h)]
  exact inserts_insertResource _ s code arena htorn hinsert

/-- What is inserted in the place of a taken completion. -/
theorem moved_of_take {completion : Completion S W L} {arena : Arena (OwnedResource O S W L)}
    {r : OwnedResource O S W L} {insert : OwnedResource O S W L → Store O S W L →
      Except BridgeError UInt32 × Store O S W L} (hs : s.Valid)
    (hget : s.arena.get? handle = some (.completion completion))
    (hensure : s.arena.ensureInsertCapacityAfterTake handle .completion = .ok ())
    (htake : s.arena.take handle .completion = (.ok (.completion completion), arena))
    (hmoves : effect (.completion completion) = some (none, some r)) (hinserts : Inserts insert r) :
    Moved effect s handle (returned (Store.stopOnError (insert r { s with arena }))) := by
  obtain ⟨target, arena₂, hinsert, hreplaced⟩ := replaced_of_take hs.arena hensure htake r
  have hinserted := hinserts { s with arena } target arena₂ (hs.running hget) hinsert
  refine ⟨_, none, r, target, arena₂, hget, hmoves, ?_, hreplaced⟩
  rw [hinserted]
  rfl

theorem moveCompletion_atomic {kind : CompletionKind}
    {payload : Completion S W L → Option (OwnedResource O S W L)}
    {insert : OwnedResource O S W L → Store O S W L → Except BridgeError UInt32 × Store O S W L}
    (hs : s.Valid)
    (hpayload : ∀ completion : Completion S W L, completion.kind = kind →
      completion.error = none → Store.oversized completion = false →
      ∃ r, payload completion = some r ∧ effect (.completion completion) = some (none, some r) ∧
        Inserts insert r) :
    Atomic effect s handle (returned (Store.moveCompletion handle s kind payload insert)) := by
  unfold Store.moveCompletion
  rcases takeSuccessfulCompletion_cases handle s kind true with
    ⟨e, heq⟩ | ⟨completion, arena, hget, hkind, herror, hsize, hensure, htake, heq⟩
  · rw [heq]
    exact atomic_of_error e
  · obtain ⟨r, hr, hmoves, hinserts⟩ := hpayload completion hkind herror hsize
    rw [heq]
    simp only [hr]
    exact Or.inr (Or.inl (moved_of_take hs hget (hensure rfl) htake hmoves hinserts))

theorem completionIsEndValue_read {value : Option (List UInt8)}
    (hget : s.arena.get? handle = some (.completion (.readStreamNext (.ok value)))) :
    Store.completionIsEndValue handle s = .ok value.isNone := by
  unfold Store.completionIsEndValue
  rw [completion_eq_ok.mpr hget]

theorem completionIsEndValue_list {value : Option EntrySnapshot}
    (hget : s.arena.get? handle = some (.completion (.listerNext (.ok value)))) :
    Store.completionIsEndValue handle s = .ok value.isNone := by
  unfold Store.completionIsEndValue
  rw [completion_eq_ok.mpr hget]

/-- Whether the completion is the end decides whether a replacement is needed. -/
theorem moveNext_atomic {kind : CompletionKind}
    {payload : Completion S W L → Option (Option (OwnedResource O S W L))}
    {insert : OwnedResource O S W L → Store O S W L → Except BridgeError UInt32 × Store O S W L}
    (hs : s.Valid)
    (hpayload : ∀ completion : Completion S W L, completion.kind = kind →
      completion.error = none → Store.oversized completion = false →
      ∃ value, payload completion = some value ∧
        effect (.completion completion) = some (none, value) ∧
        (∀ r, value = some r → Inserts insert r) ∧
        (s.arena.get? handle = some (.completion completion) →
          Store.completionIsEndValue handle s = .ok value.isNone)) :
    Atomic effect s handle (returned (Store.moveNext handle s kind payload insert)) := by
  unfold Store.moveNext
  cases hend : Store.completionIsEndValue handle s with
  | error e => exact atomic_of_error e
  | ok isEnd =>
    simp only
    rcases takeSuccessfulCompletion_cases handle s kind (!isEnd) with
      ⟨e, heq⟩ | ⟨completion, arena, hget, hkind, herror, hsize, hensure, htake, heq⟩
    · rw [heq]
      exact atomic_of_error e
    · obtain ⟨value, hvalue, hmoves, hinserts, hisEnd⟩ := hpayload completion hkind herror hsize
      have hflag : isEnd = value.isNone := by
        rw [hisEnd hget] at hend
        exact (Except.ok.inj hend).symm
      rw [heq]
      simp only [hvalue]
      cases value with
      | none =>
        refine Or.inr (Or.inr ⟨_, arena, hget, hmoves, rfl, ?_⟩)
        exact erased_of_take hs.arena htake
      | some r =>
        have hneeds := hensure (by simp [hflag])
        exact Or.inr (Or.inl (moved_of_take hs hget hneeds htake hmoves (hinserts r rfl)))

/-! ## The transfers -/

inductive Transfer where
  | completionTakeReadStream
  | completionTakeWriter
  | completionTakeLister
  | completionTakeBuffer
  | completionTakeMetadata
  | completionTakeMetadataSnapshot
  | completionTakeEntryList
  | completionTakeError
  | errorSnapshotTake
  | taskTake
  | entryListMetadataSnapshot (index : UInt32)
  deriving DecidableEq, Repr

namespace Transfer

variable (tryReserve : Nat → Bool)

def run (handle : UInt32) (s : Store O S W L) : Transfer → Option UInt32 × Store O S W L
  | completionTakeReadStream => s.completionTakeReadStream handle
  | completionTakeWriter => s.completionTakeWriter handle
  | completionTakeLister => s.completionTakeLister handle
  | completionTakeBuffer => s.completionTakeBuffer handle
  | completionTakeMetadata => s.completionTakeMetadata handle
  | completionTakeMetadataSnapshot => s.completionTakeMetadataSnapshot handle tryReserve
  | completionTakeEntryList => s.completionTakeEntryList handle
  | completionTakeError => s.completionTakeError handle
  | errorSnapshotTake => s.errorSnapshotTake handle tryReserve
  | taskTake => s.taskTake handle
  | entryListMetadataSnapshot index => s.entryListMetadataSnapshot handle index

/-- A snapshot in the place of what it was made of. -/
def snapshotOf (snapshot : Except BridgeError (List UInt8)) :
    Option (Option (OwnedResource O S W L) × Option (OwnedResource O S W L)) :=
  match snapshot with
  | .ok bytes => some (none, some (.buffer bytes))
  | .error _ => none

/-- What each transfer is for: of which resources it moves a payload, what it leaves at the
handle and what it publishes. -/
def moves : Transfer → OwnedResource O S W L →
    Option (Option (OwnedResource O S W L) × Option (OwnedResource O S W L))
  | completionTakeReadStream, .completion (.openReadStream (.ok cursor)) =>
    some (none, some (.readStream (.open cursor 0)))
  | completionTakeWriter, .completion (.openWriter (.ok writer)) =>
    some (none, some (.writer (.open writer 0)))
  | completionTakeLister, .completion (.openLister (.ok lister)) =>
    some (none, some (.lister (.open lister 0)))
  | completionTakeBuffer, .completion (.read (.ok buffer)) => some (none, some (.buffer buffer))
  | completionTakeBuffer, .completion (.readStreamNext (.ok buffer)) =>
    some (none, buffer.map .buffer)
  | completionTakeMetadata, .completion (.stat (.ok metadata))
  | completionTakeMetadata, .completion (.copy (.ok metadata))
  | completionTakeMetadata, .completion (.writerFinish (.ok metadata)) =>
    some (none, some (.metadata metadata))
  | completionTakeMetadataSnapshot, .completion (.write (.ok metadata))
  | completionTakeMetadataSnapshot, .completion (.stat (.ok metadata))
  | completionTakeMetadataSnapshot, .completion (.copy (.ok metadata))
  | completionTakeMetadataSnapshot, .completion (.writerFinish (.ok metadata)) =>
    snapshotOf (metadataSnapshotBytes tryReserve metadata)
  | completionTakeEntryList, .completion (.list (.ok entries)) =>
    some (none, some (.entryList entries))
  | completionTakeEntryList, .completion (.listerNext (.ok entry)) =>
    some (none, entry.map (fun entry => .entryList [entry]))
  | completionTakeError, .completion completion =>
    completion.error.map (fun error => (none, some (.error error)))
  | errorSnapshotTake, .error error => snapshotOf (errorSnapshotBytes tryReserve error)
  | taskTake, .task (.ready completion _) =>
    some (some (.task .consumed), some (.completion completion))
  | entryListMetadataSnapshot index, .entryList entries =>
    (entries[index.toNat]?).map (fun entry =>
      (some (.entryList (entries.set index.toNat { entry with metadataSnapshot := [] })),
        some (.buffer entry.metadataSnapshot)))
  | _, _ => none

variable {tryReserve} (hs : s.Valid)
include hs

attribute [local simp] moves

theorem completionTakeReadStream_atomic :
    Atomic (moves tryReserve completionTakeReadStream) s handle
      (s.completionTakeReadStream handle) := by
  apply moveCompletion_atomic hs
  intro completion hkind herror _
  cases completion with
  | openReadStream result =>
    cases result with
    | error e => cases herror
    | ok cursor => exact ⟨_, rfl, rfl, inserts_insertResource _⟩
  | _ => cases hkind

theorem completionTakeWriter_atomic :
    Atomic (moves tryReserve completionTakeWriter) s handle (s.completionTakeWriter handle) := by
  apply moveCompletion_atomic hs
  intro completion hkind herror _
  cases completion with
  | openWriter result =>
    cases result with
    | error e => cases herror
    | ok writer => exact ⟨_, rfl, rfl, inserts_insertResource _⟩
  | _ => cases hkind

theorem completionTakeLister_atomic :
    Atomic (moves tryReserve completionTakeLister) s handle (s.completionTakeLister handle) := by
  apply moveCompletion_atomic hs
  intro completion hkind herror _
  cases completion with
  | openLister result =>
    cases result with
    | error e => cases herror
    | ok lister => exact ⟨_, rfl, rfl, inserts_insertResource _⟩
  | _ => cases hkind

theorem completionTakeBuffer_atomic :
    Atomic (moves tryReserve completionTakeBuffer) s handle (s.completionTakeBuffer handle) := by
  unfold Store.completionTakeBuffer
  split
  · exact atomic_of_error _
  split
  · apply moveCompletion_atomic hs
    intro completion hkind herror hsize
    cases completion with
    | read result =>
      cases result with
      | error e => cases herror
      | ok buffer =>
        simp only [Store.oversized, decide_eq_false_iff_not, Nat.not_lt] at hsize
        exact ⟨_, rfl, rfl, inserts_insertBuffer hsize⟩
    | _ => cases hkind
  · apply moveNext_atomic hs
    intro completion hkind herror hsize
    cases completion with
    | readStreamNext result =>
      cases result with
      | error e => cases herror
      | ok buffer =>
        refine ⟨_, rfl, rfl, ?_, ?_⟩
        · intro r hr
          cases buffer with
          | none => cases hr
          | some bytes =>
            cases hr
            simp only [Store.oversized, decide_eq_false_iff_not, Nat.not_lt] at hsize
            apply inserts_insertBuffer
            have hchunk : maxTransferChunk ≤ maxBufferLength := by decide
            omega
        · intro hget
          rw [completionIsEndValue_read hget, Option.isNone_map]
    | _ => cases hkind
  · exact atomic_of_error _

theorem completionTakeMetadata_atomic :
    Atomic (moves tryReserve completionTakeMetadata) s handle
      (s.completionTakeMetadata handle) := by
  unfold Store.completionTakeMetadata
  split
  · exact atomic_of_error _
  split
  · rename_i checked _ hchecked
    apply moveCompletion_atomic hs
    intro completion hkind herror _
    rw [← hkind] at hchecked
    cases completion with
    | stat result | copy result | writerFinish result =>
      cases result with
      | error e => cases herror
      | ok metadata => exact ⟨_, rfl, rfl, inserts_arenaInsert _⟩
    | _ => simp [Completion.kind] at hchecked
  · exact atomic_of_error _

theorem completionTakeEntryList_atomic :
    Atomic (moves tryReserve completionTakeEntryList) s handle
      (s.completionTakeEntryList handle) := by
  unfold Store.completionTakeEntryList
  split
  · exact atomic_of_error _
  split
  · apply moveCompletion_atomic hs
    intro completion hkind herror _
    cases completion with
    | list result =>
      cases result with
      | error e => cases herror
      | ok entries => exact ⟨_, rfl, rfl, inserts_arenaInsert _⟩
    | _ => cases hkind
  · apply moveNext_atomic hs
    intro completion hkind herror _
    cases completion with
    | listerNext result =>
      cases result with
      | error e => cases herror
      | ok entry =>
        refine ⟨_, rfl, rfl, ?_, ?_⟩
        · intro r _
          exact inserts_arenaInsert r
        · intro hget
          rw [completionIsEndValue_list hget, Option.isNone_map]
    | _ => cases hkind
  · exact atomic_of_error _

/-- A checked insertion in the place of what was taken does not trap. -/
theorem moved_of_snapshot {expected : ResourceKind} {r : OwnedResource O S W L}
    {arena : Arena (OwnedResource O S W L)} {snapshot : List UInt8}
    (hget : s.arena.get? handle = some r)
    (hensure : s.arena.ensureInsertCapacityAfterTake handle expected = .ok ())
    (htake : s.arena.take handle expected = (.ok r, arena))
    (hmoves : effect r = some (none, some (.buffer snapshot))) :
    Moved effect s handle (returned (Store.insertChecked (.buffer snapshot) { s with arena })) := by
  obtain ⟨target, arena₂, hinsert, hreplaced⟩ :=
    replaced_of_take hs.arena hensure htake (.buffer snapshot)
  refine ⟨r, none, .buffer snapshot, target, arena₂, hget, hmoves, ?_, hreplaced⟩
  unfold Store.insertChecked
  rw [hinsert]
  rfl

theorem completionTakeMetadataSnapshot_atomic :
    Atomic (moves tryReserve completionTakeMetadataSnapshot) s handle
      (s.completionTakeMetadataSnapshot handle tryReserve) := by
  unfold Store.completionTakeMetadataSnapshot
  split
  · exact atomic_of_error _
  rename_i completion hcompletion
  split
  · exact atomic_of_error _
  rename_i metadata hmetadata
  split
  · exact atomic_of_error _
  rename_i snapshot hsnapshot
  split
  · exact atomic_of_error _
  rename_i hensure
  have hget := completion_eq_ok.mp hcompletion
  obtain ⟨arena, htake⟩ := @take_of_get? _ s.arena handle _ _ .completion hget rfl
  rw [takeCompletion_ok htake]
  cases completion with
  | write result | stat result | copy result | writerFinish result =>
    cases result with
    | error e => cases hmetadata
    | ok value =>
      cases hmetadata
      refine Or.inr (Or.inl (moved_of_snapshot hs hget hensure htake ?_))
      simp only [moves, snapshotOf, hsnapshot]
  | _ => cases hmetadata

theorem completionTakeError_atomic :
    Atomic (moves tryReserve completionTakeError) s handle (s.completionTakeError handle) := by
  unfold Store.completionTakeError
  split
  · exact atomic_of_error _
  rename_i completion hcompletion
  split
  · exact atomic_of_error _
  rename_i hfailed
  split
  · exact atomic_of_error _
  rename_i hensure
  have hget := completion_eq_ok.mp hcompletion
  obtain ⟨arena, htake⟩ := @take_of_get? _ s.arena handle _ _ .completion hget rfl
  obtain ⟨error, herror⟩ : ∃ error, completion.error = some error := by
    apply Option.ne_none_iff_exists'.mp
    simpa using hfailed
  rw [takeCompletion_ok htake]
  simp only [herror]
  refine Or.inr (Or.inl (moved_of_take hs hget hensure htake ?_ (inserts_arenaInsert _)))
  simp only [moves, herror, Option.map_some]

theorem errorSnapshotTake_atomic :
    Atomic (moves tryReserve errorSnapshotTake) s handle
      (s.errorSnapshotTake handle tryReserve) := by
  unfold Store.errorSnapshotTake
  split
  · exact atomic_of_error _
  rename_i error herror
  split
  · exact atomic_of_error _
  rename_i snapshot hsnapshot
  split
  · exact atomic_of_error _
  rename_i hensure
  have hget := error_eq_ok.mp herror
  obtain ⟨arena, htake⟩ := @take_of_get? _ s.arena handle _ _ .error hget rfl
  rw [htake]
  refine Or.inr (Or.inl (moved_of_snapshot hs hget hensure htake ?_))
  simp only [moves, snapshotOf, hsnapshot]

theorem taskTake_atomic :
    Atomic (moves tryReserve taskTake) s handle (s.taskTake handle) := by
  unfold Store.taskTake
  split
  · exact atomic_of_error _
  rename_i hcan
  split
  · exact atomic_of_error _
  · rename_i completion lease htask
    have hget := ownedTask_eq_ok.mp htask
    obtain ⟨target, arena, hinsert, hreplaced⟩ := replaced_of_write hs.arena hget
      (by simpa using hcan) (.task .consumed) (.completion completion)
    refine Or.inr (Or.inl ⟨_, _, _, target, arena, hget, rfl, ?_, hreplaced⟩)
    simp only [Store.arenaInsert, hinsert, Store.stopOnError, returned]
  · exact atomic_of_error _
  · exact atomic_of_error _
  · exact atomic_of_error _

theorem entryListMetadataSnapshot_atomic (index : UInt32) :
    Atomic (moves tryReserve (entryListMetadataSnapshot index)) s handle
      (s.entryListMetadataSnapshot handle index) := by
  unfold Store.entryListMetadataSnapshot
  split
  · exact atomic_of_error _
  rename_i entries hentries
  split
  · exact atomic_of_error _
  rename_i entry hentry
  split
  · exact atomic_of_error _
  split
  · exact atomic_of_error _
  rename_i hcan
  have hget := entryList_eq_ok.mp hentries
  obtain ⟨target, arena, hinsert, hreplaced⟩ := replaced_of_write hs.arena hget
    (by simpa using hcan)
    (.entryList (entries.set index.toNat { entry with metadataSnapshot := [] }))
    (.buffer entry.metadataSnapshot)
  refine Or.inr (Or.inl ⟨_, _, _, target, arena, hget, ?_, ?_, hreplaced⟩)
  · simp only [moves, hentry, Option.map_some]
  · simp only [Store.insertChecked, hinsert, returned]

/-- Every transfer, from every valid store. -/
theorem run_atomic (t : Transfer) :
    Atomic (t.moves tryReserve) s handle (t.run tryReserve handle s) := by
  cases t with
  | completionTakeReadStream => exact completionTakeReadStream_atomic hs
  | completionTakeWriter => exact completionTakeWriter_atomic hs
  | completionTakeLister => exact completionTakeLister_atomic hs
  | completionTakeBuffer => exact completionTakeBuffer_atomic hs
  | completionTakeMetadata => exact completionTakeMetadata_atomic hs
  | completionTakeMetadataSnapshot => exact completionTakeMetadataSnapshot_atomic hs
  | completionTakeEntryList => exact completionTakeEntryList_atomic hs
  | completionTakeError => exact completionTakeError_atomic hs
  | errorSnapshotTake => exact errorSnapshotTake_atomic hs
  | taskTake => exact taskTake_atomic hs
  | entryListMetadataSnapshot index => exact entryListMetadataSnapshot_atomic hs index

end Transfer

end OpendalMbt.Bridge
