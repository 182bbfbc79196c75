import OpendalMbt.Bridge.Lenders

/-!
# What has been issued stays issued

No call of the bridge short of a teardown forgets a handle that it gave out, or gives it out
again: an arena only ever gets later.

* `Arena.Later`: one arena after another, with the rules for the three mutations;
* `Ages`: a function of the store, with the rules for its parts;
* `ages_transfer`, `later_terminalize`, `later_reserve`: the transfers and the tasks.
-/

namespace OpendalMbt.Bridge

open Codec Transition

namespace Arena

variable {ρ : Type} [Kinded ρ] {a b c : Arena ρ} {handle : UInt32}

/-- `b` comes after `a`: of the handles that were issued none is forgotten, none comes back to
life, and none changes its kind. -/
def Later (a b : Arena ρ) : Prop :=
  a.Valid → b.Valid ∧ ∀ k, a.Issued k → b.Issued k ∧
    ∀ r', b.get? k = some r' → ∃ r, a.get? k = some r ∧ kind r' = kind r

theorem Later.refl (a : Arena ρ) : Later a a :=
  fun h => ⟨h, fun _ hk => ⟨hk, fun r hr => ⟨r, hr, rfl⟩⟩⟩

theorem Later.trans (h : Later a b) (h' : Later b c) : Later a c := by
  intro ha
  obtain ⟨hb, hissued⟩ := h ha
  obtain ⟨hc, hissued'⟩ := h' hb
  refine ⟨hc, ?_⟩
  intro k hk
  obtain ⟨hkb, hkept⟩ := hissued k hk
  obtain ⟨hkc, hkept'⟩ := hissued' k hkb
  refine ⟨hkc, ?_⟩
  intro r'' hr''
  obtain ⟨r', hr', hkind'⟩ := hkept' r'' hr''
  obtain ⟨r, hr, hkind⟩ := hkept r' hr'
  exact ⟨r, hr, hkind'.trans hkind⟩

/-- A handle that names something new is none that was issued before. -/
theorem Later.fresh (h : Later a b) (ha : a.Valid) {k : UInt32} (hnone : a.get? k = none)
    {r : ρ} (hsome : b.get? k = some r) : ¬ a.Issued k := by
  intro hk
  obtain ⟨r₀, hr₀, -⟩ := ((h ha).2 k hk).2 r hsome
  rw [hnone] at hr₀
  cases hr₀

theorem later_insert (a : Arena ρ) (r : ρ) : Later a (a.insert r).2 := by
  intro ha
  cases hinsert : a.insert r with
  | mk result b =>
    refine ⟨ha.insert hinsert, ?_⟩
    intro k hk
    cases result with
    | error e =>
      obtain ⟨rfl, rfl⟩ := insert_error hinsert
      exact ⟨hk, fun r hr => ⟨r, hr, rfl⟩⟩
    | ok code =>
      have hne : k ≠ code := by
        rintro rfl
        exact (view_insert ha hinsert).1 hk
      refine ⟨(ha.issued_insert hinsert k).mpr (Or.inr hk), ?_⟩
      intro r' hr'
      rw [ha.get?_insert hinsert, if_neg hne] at hr'
      exact ⟨r', hr', rfl⟩

theorem later_take (a : Arena ρ) (handle : UInt32) (expected : ResourceKind) :
    Later a (a.take handle expected).2 := by
  intro ha
  cases htake : a.take handle expected with
  | mk result b =>
    refine ⟨ha.take htake, ?_⟩
    intro k hk
    cases result with
    | error e =>
      obtain rfl := take_error htake
      exact ⟨hk, fun r hr => ⟨r, hr, rfl⟩⟩
    | ok r =>
      refine ⟨(ha.issued_take htake k).mpr hk, ?_⟩
      intro r' hr'
      rw [ha.get?_take htake] at hr'
      split at hr'
      · cases hr'
      · exact ⟨r', hr', rfl⟩

theorem later_release (a : Arena ρ) (handle : UInt32) (expected : ResourceKind) :
    Later a (a.release handle expected).2 := later_take a handle expected

theorem later_write {r₀ r : ρ} (hget : a.get? handle = some r₀) (hkind : kind r = kind r₀) :
    Later a (a.write handle r) := by
  intro ha
  have hres := get?_eq_some.mp hget
  refine ⟨ha.write hres, ?_⟩
  intro k hk
  refine ⟨(ha.issued_write hres r k).mpr hk, ?_⟩
  intro r' hr'
  rw [ha.get?_write hres] at hr'
  split at hr'
  · rename_i heq
    cases hr'
    exact ⟨r₀, heq ▸ hget, hkind⟩
  · exact ⟨r', hr', rfl⟩

end Arena

open Arena

variable {O S W L : Type} {α : Type}

/-! ## The store -/

/-- A function of the store after which the arena is later. -/
def Ages (f : Store O S W L → α × Store O S W L) : Prop :=
  ∀ s : Store O S W L, s.arena.Later (f s).2.arena

theorem Ages.after {f : Store O S W L → α × Store O S W L} (hf : Ages f)
    {a : Arena (OwnedResource O S W L)} {t : Store O S W L} (h : a.Later t.arena) :
    a.Later (f t).2.arena := h.trans (hf t)

section Store

variable {f : Store O S W L → Except BridgeError α × Store O S W L} {handle : UInt32}

theorem arena_recorded (out : Except BridgeError α × Store O S W L) :
    (Store.recorded out).2.arena = out.2.arena := by
  obtain ⟨result, t⟩ := out
  cases result <;> rfl

theorem ages_recorded (h : Ages f) : Ages fun s => Store.recorded (f s) := by
  intro s
  rw [arena_recorded]
  exact h s

theorem ages_insertResource (r : OwnedResource O S W L) : Ages (Store.insertResource r) := by
  intro s
  unfold Store.insertResource
  split
  · exact .refl _
  · exact later_insert s.arena r

theorem ages_insertBuffer (bytes : List UInt8) :
    Ages (O := O) (S := S) (W := W) (L := L) (Store.insertBuffer bytes) := by
  intro s
  unfold Store.insertBuffer
  split
  · exact .refl _
  · exact ages_insertResource _ s

theorem ages_releaseResource (handle : UInt32) (expected : ResourceKind) :
    Ages (O := O) (S := S) (W := W) (L := L) (Store.releaseResource handle expected) := by
  intro s
  unfold Store.releaseResource
  rw [arena_recorded]
  exact later_release s.arena handle expected

theorem ages_bufferNewSized (tryReserve : Nat → Bool) (length : Nat) :
    Ages (O := O) (S := S) (W := W) (L := L) (Store.bufferNewSized tryReserve length) := by
  intro s
  unfold Store.bufferNewSized
  rw [arena_recorded]
  split
  · exact .refl _
  split
  · exact ages_insertBuffer _ s
  · exact .refl _

theorem ages_bufferLen (handle : UInt32) :
    Ages (O := O) (S := S) (W := W) (L := L) (Store.bufferLen handle) := by
  intro s
  unfold Store.bufferLen
  rw [arena_recorded]
  split
  · exact .refl _
  · split <;> exact .refl _

theorem ages_bufferDataPtr (handle : UInt32) (offset length : Nat) :
    Ages (O := O) (S := S) (W := W) (L := L) (Store.bufferDataPtr handle offset length) := by
  intro s
  unfold Store.bufferDataPtr
  rw [arena_recorded]
  split
  · exact .refl _
  · split <;> exact .refl _

theorem later_writeWindow (handle : UInt32) (offset : Nat) (part : List UInt8)
    (s : Store O S W L) : s.arena.Later (Store.writeWindow handle offset part s).arena := by
  unfold Store.writeWindow
  split
  · exact .refl _
  · rename_i hbuffer
    exact later_write (buffer_eq_ok.mp hbuffer) rfl

theorem ages_lastErrorTake :
    Ages (O := O) (S := S) (W := W) (L := L) Store.lastErrorTake := by
  intro s
  unfold Store.lastErrorTake
  rw [arena_recorded]
  split
  · exact .refl _
  split
  · exact .refl _
  · rename_i error herror
    have hlater := later_insert s.arena (.error error)
    split <;> rename_i hinsert <;> rwa [hinsert] at hlater

theorem ages_entryListLen (handle : UInt32) :
    Ages (O := O) (S := S) (W := W) (L := L) (Store.entryListLen handle) := by
  intro s
  unfold Store.entryListLen
  rw [arena_recorded]
  split
  · exact .refl _
  · split <;> exact .refl _

theorem ages_entryListText (handle : UInt32) (tryReserve : Nat → Bool) (index : UInt32)
    (path : Bool) :
    Ages (O := O) (S := S) (W := W) (L := L)
      (Store.entryListText handle tryReserve index path) := by
  intro s
  unfold Store.entryListText
  rw [arena_recorded]
  split
  · exact .refl _
  split
  · exact .refl _
  split
  · exact .refl _
  · exact ages_insertBuffer _ s

end Store

/-! ## Transfers -/

section Transfers

variable {insert : OwnedResource O S W L → Store O S W L → Except BridgeError UInt32 × Store O S W L}

theorem arena_returned (out : Except Stop UInt32 × Store O S W L) :
    (returned out).2.arena = out.2.arena := by
  obtain ⟨result, t⟩ := out
  cases result with
  | ok value => rfl
  | error stop => cases stop <;> rfl

theorem arena_stopOnError (out : Except BridgeError UInt32 × Store O S W L) :
    (Store.stopOnError out).2 = out.2 := by
  obtain ⟨result, t⟩ := out
  cases result <;> rfl

theorem ages_arenaInsert (r : OwnedResource O S W L) : Ages (Store.arenaInsert r) :=
  fun s => later_insert s.arena r

theorem ages_insertBufferResource (r : OwnedResource O S W L) :
    Ages (Store.insertBufferResource r) := by
  intro s
  unfold Store.insertBufferResource
  split
  · exact ages_insertBuffer _ s
  · exact ages_insertResource _ s

theorem ages_insertChecked (r : OwnedResource O S W L) : Ages (Store.insertChecked r) := by
  intro s
  have hlater := later_insert s.arena r
  unfold Store.insertChecked
  split <;> rename_i hinsert <;> rwa [hinsert] at hlater

theorem ages_takeCompletion (handle : UInt32) :
    Ages (O := O) (S := S) (W := W) (L := L) (Store.takeCompletion handle) := by
  intro s
  have hlater := later_take s.arena handle .completion
  unfold Store.takeCompletion
  split <;> rename_i htake <;> rwa [htake] at hlater

theorem ages_takeSuccessfulCompletion (handle : UInt32) (kind : CompletionKind)
    (needsReplacement : Bool) :
    Ages (O := O) (S := S) (W := W) (L := L) fun s =>
      Store.takeSuccessfulCompletion handle s kind needsReplacement := by
  intro s
  dsimp only
  unfold Store.takeSuccessfulCompletion
  split
  · exact .refl _
  split
  · exact .refl _
  split
  · exact .refl _
  split
  · exact .refl _
  split
  · split
    · exact .refl _
    · exact ages_takeCompletion handle s
  · exact ages_takeCompletion handle s

theorem ages_moveCompletion (handle : UInt32) (kind : CompletionKind)
    (payload : Completion S W L → Option (OwnedResource O S W L))
    (hinsert : ∀ r, Ages (insert r)) :
    Ages fun s => Store.moveCompletion handle s kind payload insert := by
  intro s
  have hlater := ages_takeSuccessfulCompletion handle kind true s
  dsimp only at hlater
  dsimp only
  unfold Store.moveCompletion
  split
  · rename_i htake
    rwa [htake] at hlater
  · rename_i completion t htake
    rw [htake] at hlater
    split
    · rename_i r _
      rw [arena_stopOnError]
      exact (hinsert r).after hlater
    · exact hlater

theorem ages_moveNext (handle : UInt32) (kind : CompletionKind)
    (payload : Completion S W L → Option (Option (OwnedResource O S W L)))
    (hinsert : ∀ r, Ages (insert r)) :
    Ages fun s => Store.moveNext handle s kind payload insert := by
  intro s
  dsimp only
  unfold Store.moveNext
  split
  · exact .refl _
  rename_i isEnd _
  have hlater := ages_takeSuccessfulCompletion handle kind (!isEnd) s
  dsimp only at hlater
  split
  · rename_i htake
    rwa [htake] at hlater
  · rename_i completion t htake
    rw [htake] at hlater
    split
    · rename_i r _
      rw [arena_stopOnError]
      exact (hinsert r).after hlater
    · exact hlater
    · exact hlater

theorem ages_completionTakeMetadata (handle : UInt32) :
    Ages (O := O) (S := S) (W := W) (L := L) (Store.completionTakeMetadata handle) := by
  intro s
  unfold Store.completionTakeMetadata
  rw [arena_returned]
  split
  · exact .refl _
  split
  · exact ages_moveCompletion handle _ _ ages_arenaInsert s
  · exact .refl _

theorem ages_completionTakeBuffer (handle : UInt32) :
    Ages (O := O) (S := S) (W := W) (L := L) (Store.completionTakeBuffer handle) := by
  intro s
  unfold Store.completionTakeBuffer
  rw [arena_returned]
  split
  · exact .refl _
  split
  · exact ages_moveCompletion handle _ _ ages_insertBufferResource s
  · exact ages_moveNext handle _ _ ages_insertBufferResource s
  · exact .refl _

theorem ages_completionTakeEntryList (handle : UInt32) :
    Ages (O := O) (S := S) (W := W) (L := L) (Store.completionTakeEntryList handle) := by
  intro s
  unfold Store.completionTakeEntryList
  rw [arena_returned]
  split
  · exact .refl _
  split
  · exact ages_moveCompletion handle _ _ ages_arenaInsert s
  · exact ages_moveNext handle _ _ ages_arenaInsert s
  · exact .refl _

theorem ages_completionTakeMetadataSnapshot (handle : UInt32) (tryReserve : Nat → Bool) :
    Ages (O := O) (S := S) (W := W) (L := L) fun s =>
      Store.completionTakeMetadataSnapshot handle s tryReserve := by
  intro s
  have hlater := ages_takeCompletion handle s
  dsimp only
  unfold Store.completionTakeMetadataSnapshot
  rw [arena_returned]
  split
  · exact .refl _
  split
  · exact .refl _
  split
  · exact .refl _
  split
  · exact .refl _
  split <;> rename_i htake <;> rw [htake] at hlater
  · exact hlater
  · exact (ages_insertChecked _).after hlater
  · exact (ages_insertChecked _).after hlater
  · exact (ages_insertChecked _).after hlater
  · exact (ages_insertChecked _).after hlater
  · exact hlater

theorem ages_completionTakeError (handle : UInt32) :
    Ages (O := O) (S := S) (W := W) (L := L) (Store.completionTakeError handle) := by
  intro s
  have hlater := ages_takeCompletion handle s
  unfold Store.completionTakeError
  rw [arena_returned]
  split
  · exact .refl _
  split
  · exact .refl _
  split
  · exact .refl _
  split
  · rename_i htake
    rwa [htake] at hlater
  · rename_i completion t htake
    rw [htake] at hlater
    split
    · rw [arena_stopOnError]
      exact (ages_arenaInsert _).after hlater
    · exact hlater

theorem ages_errorSnapshotTake (handle : UInt32) (tryReserve : Nat → Bool) :
    Ages (O := O) (S := S) (W := W) (L := L) fun s =>
      Store.errorSnapshotTake handle s tryReserve := by
  intro s
  have hlater := later_take s.arena handle .error
  dsimp only
  unfold Store.errorSnapshotTake
  rw [arena_returned]
  split
  · exact .refl _
  split
  · exact .refl _
  split
  · exact .refl _
  split <;> rename_i htake <;> rw [htake] at hlater
  · exact hlater
  · exact (ages_insertChecked _).after hlater
  · exact hlater

theorem ages_taskTake (handle : UInt32) :
    Ages (O := O) (S := S) (W := W) (L := L) (Store.taskTake handle) := by
  intro s
  unfold Store.taskTake
  rw [arena_returned]
  split
  · exact .refl _
  split
  · exact .refl _
  · rename_i completion lease htask
    have hwrite := later_write (r := .task .consumed) (ownedTask_eq_ok.mp htask) rfl
    rw [arena_stopOnError]
    exact (ages_arenaInsert _).after hwrite
  · exact .refl _
  · exact .refl _
  · exact .refl _

theorem ages_entryListMetadataSnapshot (handle index : UInt32) :
    Ages (O := O) (S := S) (W := W) (L := L) fun s =>
      Store.entryListMetadataSnapshot handle s index := by
  intro s
  dsimp only
  unfold Store.entryListMetadataSnapshot
  rw [arena_returned]
  split
  · exact .refl _
  rename_i entries hentries
  split
  · exact .refl _
  split
  · exact .refl _
  split
  · exact .refl _
  · exact (ages_insertChecked _).after (later_write (entryList_eq_ok.mp hentries) rfl)

theorem ages_transfer (t : Transfer) (tryReserve : Nat → Bool) (handle : UInt32) :
    Ages (O := O) (S := S) (W := W) (L := L) fun s => t.run tryReserve handle s := by
  intro s
  cases t with
  | completionTakeReadStream | completionTakeWriter | completionTakeLister =>
    show s.arena.Later (returned _).2.arena
    rw [arena_returned]
    exact ages_moveCompletion handle _ _ ages_insertResource s
  | completionTakeBuffer => exact ages_completionTakeBuffer handle s
  | completionTakeMetadata => exact ages_completionTakeMetadata handle s
  | completionTakeMetadataSnapshot => exact ages_completionTakeMetadataSnapshot handle tryReserve s
  | completionTakeEntryList => exact ages_completionTakeEntryList handle s
  | completionTakeError => exact ages_completionTakeError handle s
  | errorSnapshotTake => exact ages_errorSnapshotTake handle tryReserve s
  | taskTake => exact ages_taskTake handle s
  | entryListMetadataSnapshot index => exact ages_entryListMetadataSnapshot handle index s

end Transfers

/-! ## Tasks and leases -/

section Tasks

variable {I T : Type} {F : Lender O S W L I T} {handle : UInt32} {a : Arena (OwnedResource O S W L)}

/-- What is written where a resource was found. -/
theorem later_lookup (hF : F.Lawful) {state : LeasedState I T} (h : F.lookup a handle = .ok state)
    (state' : LeasedState I T) : a.Later (a.write handle (F.wrap state')) :=
  later_write (hF.lookup_eq_ok.mp h) ((hF.kind_wrap state').trans (hF.kind_wrap state).symm)

theorem later_fail (hF : F.Lawful) (lease : ResourceLease) (a : Arena (OwnedResource O S W L)) :
    a.Later (F.fail lease a) := by
  unfold Lender.fail
  split
  · rename_i hlookup
    split
    · exact later_lookup hF hlookup _
    · exact .refl _
  · rename_i hlookup
    split
    · exact later_lookup hF hlookup _
    · exact .refl _
  · exact .refl _

theorem later_applyUpdate (hF : F.Lawful) (lease : ResourceLease) (update : LeasedUpdate I T)
    (a : Arena (OwnedResource O S W L)) : a.Later (F.applyUpdate lease update a) := by
  unfold Lender.applyUpdate
  split
  · rename_i hlookup
    split
    · exact later_lookup hF hlookup _
    · exact .refl _
  · exact .refl _

theorem later_terminalize (t : Bridge.Task (Completion S W L))
    (a : Arena (OwnedResource O S W L)) : a.Later (terminalizeOwnedTask t a) := by
  unfold terminalizeOwnedTask
  split
  · exact .refl _
  split
  · exact later_fail lawful_readStream _ a
  · exact later_fail lawful_writer _ a
  · exact later_fail lawful_lister _ a
  · exact .refl _

theorem later_apply (lease : ResourceLease) (update : OwnedUpdate S W L)
    (a : Arena (OwnedResource O S W L)) : a.Later (update.apply lease a) := by
  cases update with
  | readStream update => exact later_applyUpdate lawful_readStream lease update a
  | writer update => exact later_applyUpdate lawful_writer lease update a
  | lister update => exact later_applyUpdate lawful_lister lease update a

variable {s : BridgeState O S W L}

theorem later_ownedTaskCancel (handle : UInt32) (s : BridgeState O S W L) :
    s.arena.Later (ownedTaskCancel handle s).2.arena := by
  unfold ownedTaskCancel
  split
  · exact .refl _
  rename_i task _
  have hlater := later_terminalize task s.arena
  dsimp only
  split
  · exact hlater
  · rename_i htask
    exact hlater.trans (later_write (ownedTask_eq_ok.mp htask) rfl)
  · rename_i htask
    exact hlater.trans (later_write (ownedTask_eq_ok.mp htask) rfl)
  · exact hlater
  · exact hlater

theorem later_ownedTaskRelease (handle : UInt32) (s : BridgeState O S W L) :
    s.arena.Later (ownedTaskRelease handle s).2.arena := by
  unfold ownedTaskRelease
  split
  · exact .refl _
  · rename_i task _
    exact (later_terminalize task s.arena).trans (later_release _ handle .task)

theorem later_publishOwnedTask (task : UInt32) (completion : Completion S W L)
    (s : BridgeState O S W L) : s.arena.Later (publishOwnedTask task completion s).arena := by
  unfold publishOwnedTask
  split
  · rename_i htask
    exact later_write (ownedTask_eq_ok.mp htask) rfl
  · exact .refl _

theorem later_publishOwnedResourceTask (task : UInt32) (lease : ResourceLease)
    (update : OwnedUpdate S W L) (completion : Completion S W L) (s : BridgeState O S W L) :
    s.arena.Later (publishOwnedResourceTask task lease update completion s).arena := by
  have hlater := later_apply lease update s.arena
  unfold publishOwnedResourceTask
  split
  · split
    · exact .refl _
    dsimp only
    split
    · rename_i htask
      split
      · exact hlater.trans (later_write (ownedTask_eq_ok.mp htask) rfl)
      · exact hlater
    · exact hlater
  · exact .refl _

theorem later_reserve (hF : F.Lawful) (handle : UInt32) (s : BridgeState O S W L) :
    s.arena.Later (F.reserve handle s).2.arena := by
  unfold Lender.reserve
  split
  · exact .refl _
  split
  · exact .refl _
  split
  · exact .refl _
  dsimp only
  split
  · exact .refl _
  · exact .refl _
  · exact .refl _
  · rename_i inner previous hlookup
    have hwrite := later_lookup hF hlookup (.busy (s.nextResourceOperation + 1))
    have hinsert := later_insert
      (s.arena.write handle (F.wrap (.busy (s.nextResourceOperation + 1))))
      (.task (.pending (some ⟨handle, F.kind, s.nextResourceOperation + 1⟩)))
    split
    · rename_i task arena hran
      rw [hran] at hinsert
      exact hwrite.trans hinsert
    · rename_i e arena hran
      rw [hran] at hinsert
      split
      · exact hwrite.trans hinsert
      · rename_i hfound
        exact (hwrite.trans hinsert).trans (later_lookup hF hfound _)

end Tasks

end OpendalMbt.Bridge
