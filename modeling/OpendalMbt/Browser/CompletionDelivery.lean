import OpendalMbt.Bridge.Lenders
import OpendalMbt.Browser.StoreRules

/-!
# A task settles with what was published for it

A Promise that polls a ready task of the store settles with the outcome of exactly the
completion that was published, and with nothing else: `Delivers` says which outcome that is, and
`HandedOver` which handle is new. When the bridge cannot hand the completion over, the task and
its completion are given back all the same.

* `triple_settleCompletion`: a completion is taken apart;
* `ready_task_settles`: a round of polling a ready task.
-/

namespace OpendalMbt.Browser

open Codec Bridge Transition Function FacadeCall

variable {O S W L : Type}

/-- The resource that a successful completion opens. -/
def opened : Completion S W L → Option (OwnedResource O S W L)
  | .openReadStream (.ok cursor) => some (.readStream (.open cursor 0))
  | .openWriter (.ok writer) => some (.writer (.open writer 0))
  | .openLister (.ok lister) => some (.lister (.open lister 0))
  | _ => none

/-- The metadata of a successful completion. -/
def metadataOf : Completion S W L → Option Metadata
  | .write (.ok metadata) | .stat (.ok metadata) | .copy (.ok metadata)
  | .writerFinish (.ok metadata) => some metadata
  | _ => none

/-- The bytes of a successful completion. -/
def bytesOf : Completion S W L → Option (List UInt8)
  | .read (.ok bytes) | .readStreamNext (.ok (some bytes)) => some bytes
  | _ => none

/-- There is nothing in the completion but that it succeeded, or that a stream has ended. -/
def isUnit : Completion S W L → Bool
  | .createDir (.ok _) | .delete (.ok _) | .rename (.ok _) | .writerWrite (.ok _)
  | .writerAbort (.ok _) | .readStreamNext (.ok none) | .listerNext (.ok none) => true
  | _ => false

/-- The outcome of a completion, text by text through the decoder. The snapshots of entries
were made of metadata. -/
inductive Delivers (tryReserve : Nat → Bool) (context : Context) :
    Completion S W L → Outcome Value → Prop where
  | failed {completion : Completion S W L} {error : BridgeError}
      (herror : completion.error = some error) :
      Delivers tryReserve context completion (.failed (errorOutcome decodedText error context))
  | bytes {completion : Completion S W L} {bytes : List UInt8}
      (hbytes : bytesOf completion = some bytes) :
      Delivers tryReserve context completion (.ok (.bytes bytes))
  | metadata {completion : Completion S W L} {metadata : Metadata}
      (hmetadata : metadataOf completion = some metadata) :
      Delivers tryReserve context completion (.ok (.metadata (metadataValue decodedText metadata)))
  | entries {entries : List EntrySnapshot} {metadatas : List Metadata}
      (hdescribes : List.Forall₂ (Describes tryReserve) entries metadatas) :
      Delivers tryReserve context (.list (.ok entries))
        (.ok (.entries (List.zipWith (entryValue decodedText) entries metadatas)))
  | entry {entry : EntrySnapshot} {metadata : Metadata}
      (hdescribes : Describes tryReserve entry metadata) :
      Delivers tryReserve context (.listerNext (.ok (some entry)))
        (.ok (.entry (entryValue decodedText entry metadata)))
  | nothing {completion : Completion S W L} (hunit : isUnit completion = true) :
      Delivers tryReserve context completion (.ok .undefined)
  | resource {completion : Completion S W L} {resource : BridgeHandle}
      (herror : completion.error = none) (hopens : opens completion.kind = some resource.kind) :
      Delivers tryReserve context completion (.ok (.resource resource))

/-- Snapshots of entries that encode some metadata. -/
def Described (tryReserve : Nat → Bool) : Completion S W L → Prop
  | .list (.ok entries) => ∃ metadatas, List.Forall₂ (Describes tryReserve) entries metadatas
  | .listerNext (.ok (some entry)) => ∃ metadata, Describes tryReserve entry metadata
  | _ => True

/-- What the completion opened has the handle that the outcome tells, and nothing else is new. -/
def HandedOver (names : Naming O S W L) (completion : Completion S W L) (outcome : Outcome Value)
    (s : Store O S W L) : Prop :=
  match outcome with
  | .ok (.resource resource) =>
    ∃ r, opened completion = some r ∧ kind r = resource.kind ∧ resource.code ≠ 0 ∧
      names resource.code = none ∧ Names (update names resource.code (some r)) s
  | _ => Names names s

/-- The task is gone, and of all other handles only that of its lease may name something else,
of the same kind. -/
structure Without (names : Naming O S W L) (task : UInt32) (lease : Option ResourceLease)
    (s : Store O S W L) : Prop where
  valid : s.Valid
  gone : s.arena.get? task = none
  kinds : ∀ k, k ≠ task → (s.arena.get? k).map kind = (names k).map kind
  others : ∀ k, k ≠ task → (∀ held ∈ lease, k ≠ held.handle) → s.arena.get? k = names k

section Settle

variable {host : Host} {tryReserve : Nat → Bool} {context : Context} {names : Naming O S W L}
variable {handle : UInt32} {completion : Completion S W L}

open HandleCall (Taken)

/-- What has been taken of a completion. -/
def Took (names : Naming O S W L) (handle : UInt32) (completion : Completion S W L) (host : Host) :
    Taken → Store O S W L → Prop
  | .nothing, s => isUnit completion = true ∧ Names (update names handle none) s
  | .error code, s => ∃ error, completion.error = some error ∧
      Swapped names handle none (.error error) code s
  | .buffer code, s => ∃ bytes, bytesOf completion = some bytes ∧
      bytes.length ≤ maxBufferLength ∧ Swapped names handle none (.buffer bytes) code s
  | .metadata code, s => ∃ metadata bytes, metadataOf completion = some metadata ∧
      metadataSnapshotBytes host.tryReserve metadata = .ok bytes ∧
      Swapped names handle none (.buffer bytes) code s
  | .list code, s => ∃ entries, completion = .list (.ok entries) ∧
      Swapped names handle none (.entryList entries) code s
  | .entry code, s => ∃ entry, completion = .listerNext (.ok (some entry)) ∧
      Swapped names handle none (.entryList [entry]) code s
  | .resource resource, s => ∃ r, opened completion = some r ∧ kind r = resource.kind ∧
      Swapped names handle none r resource.code s

/-- A transfer that moves `payload` out of the completion. -/
theorem triple_takeTransfer (t : Transfer) {payload : OwnedResource O S W L}
    (hc : names handle = some (.completion completion))
    (hmoves : t.moves host.tryReserve (.completion completion) = some (none, some payload))
    (fallbackMessage : String) :
    Call.Triple (Names names)
      (takeInto host context (fun s => t.run host.tryReserve handle s) fallbackMessage)
      (Swapped names handle none payload) fun _ => Names names := by
  apply triple_takeInto
  intro s hs
  have hend : t.moves host.tryReserve (.completion completion : OwnedResource O S W L) ≠
      some (none, none) := by
    rw [hmoves]
    simp
  rcases transfer_cases t host.tryReserve hs hc hend with
    hfailed | ⟨code, s', left, moved, hout, hmoved, hswapped⟩
  · exact Or.inl hfailed
  · rw [hmoves] at hmoved
    cases hmoved
    exact Or.inr ⟨code, s', hout, hswapped.nonzero, hswapped⟩

/-- A transfer that moves nothing out of the completion fails. -/
theorem triple_takeTransfer_none (t : Transfer) (hc : names handle = some (.completion completion))
    (hmoves : t.moves host.tryReserve (.completion completion : OwnedResource O S W L) = none)
    (fallbackMessage : String) :
    Call.Triple (Names names)
      (takeInto host context (fun s => t.run host.tryReserve handle s) fallbackMessage)
      (fun _ _ => False) fun _ => Names names := by
  apply triple_takeInto
  intro s hs
  have hend : t.moves host.tryReserve (.completion completion : OwnedResource O S W L) ≠
      some (none, none) := by
    rw [hmoves]
    simp
  rcases transfer_cases t host.tryReserve hs hc hend with
    hfailed | ⟨code, s', left, moved, hout, hmoved, hswapped⟩
  · exact Or.inl hfailed
  · rw [hmoves] at hmoved
    cases hmoved

theorem triple_releaseCompletion (hc : names handle = some (.completion completion))
    (fallbackMessage : String) :
    Call.Triple (Names names) (releaseCompletion host handle context fallbackMessage)
      (fun _ => Names (update names handle none)) fun _ => Names names :=
  triple_expectRelease hc rfl

/-! ## Taking a completion apart -/

/-- The payload of a buffer transfer is within the limit of buffers. -/
theorem length_le_of_completionTakeBuffer {s s' : Store O S W L} {code : UInt32}
    {bytes : List UInt8} (hget : s.arena.get? handle = some (.completion completion))
    (hbytes : bytesOf completion = some bytes)
    (h : Store.completionTakeBuffer handle s = (some code, s')) (hne : code ≠ 0) :
    bytes.length ≤ maxBufferLength := by
  by_contra hlong
  have hsize : Store.oversized completion = true := by
    cases completion with
    | read result =>
      cases result with
      | error e => cases hbytes
      | ok buffer =>
        cases hbytes
        simpa [Store.oversized] using hlong
    | readStreamNext result =>
      cases result with
      | error e => cases hbytes
      | ok buffer =>
        cases buffer with
        | none => cases hbytes
        | some buffer =>
          cases hbytes
          have hchunk : maxTransferChunk ≤ maxBufferLength := by decide
          simp only [Store.oversized, decide_eq_true_eq]
          omega
    | _ => cases hbytes
  have hrejected : ∀ kind needs, ∃ e, Store.takeSuccessfulCompletion handle s kind needs =
      (.error (.error e), s) := by
    intro kind needs
    rcases takeSuccessfulCompletion_cases handle s kind needs with
      hfailed | ⟨taken, arena, htaken, -, -, hfits, -, -, -⟩
    · exact hfailed
    · rw [hget] at htaken
      cases htaken
      rw [hsize] at hfits
      cases hfits
  have hzero : (Store.completionTakeBuffer handle s).1 = some 0 := by
    unfold Store.completionTakeBuffer
    rw [Arena.completion_eq_ok.mpr hget]
    cases completion with
    | read result =>
      obtain ⟨e, hrejected⟩ := hrejected .read true
      simp only [Completion.kind, Store.moveCompletion, hrejected, returned]
    | readStreamNext result =>
      simp only [Completion.kind, Store.moveNext]
      cases hend : Store.completionIsEndValue handle s with
      | error e => rfl
      | ok isEnd =>
        obtain ⟨e, hrejected⟩ := hrejected .readerNext (!isEnd)
        simp only [hrejected, returned]
    | _ => cases hbytes
  rw [h] at hzero
  exact hne (Option.some.inj hzero)

/-- A successful completion that is not the end of a stream, by its kind. -/
theorem triple_takeSuccess (hc : names handle = some (.completion completion))
    (herror : completion.error = none) (hstream : completion ≠ .readStreamNext (.ok none))
    (hlist : completion ≠ .listerNext (.ok none)) :
    Call.Triple (Names names) (takeSuccess host handle context completion.kind)
      (Took names handle completion host) fun _ => Names names := by
  have hbuffer : ∀ (bytes : List UInt8) (fallbackMessage : String),
      bytesOf completion = some bytes →
      Transfer.moves host.tryReserve .completionTakeBuffer (.completion completion) =
        some (none, some (.buffer bytes : OwnedResource O S W L)) →
      Call.Triple (Names names)
        (takeInto host context (Store.completionTakeBuffer handle) fallbackMessage)
        (fun code => Took names handle completion host (.buffer code)) fun _ => Names names := by
    intro bytes fallbackMessage hbytes hmoves
    apply triple_takeInto
    intro s hs
    rcases transfer_cases .completionTakeBuffer host.tryReserve hs hc (by rw [hmoves]; simp) with
      hfailed | ⟨code, s', left, moved, hout, hmoved, hswapped⟩
    · exact Or.inl hfailed
    · rw [hmoves] at hmoved
      cases hmoved
      have hlimit := length_le_of_completionTakeBuffer ((hs.get? handle).trans hc) hbytes hout
        hswapped.nonzero
      exact Or.inr ⟨code, s', hout, hswapped.nonzero, bytes, hbytes, hlimit, hswapped⟩
  have hmetadata : ∀ metadata fallbackMessage, metadataOf completion = some metadata →
      Transfer.moves host.tryReserve .completionTakeMetadataSnapshot (.completion completion) =
        (Transfer.snapshotOf (metadataSnapshotBytes host.tryReserve metadata) :
          Option (Option (OwnedResource O S W L) × _)) →
      Call.Triple (Names names)
        (takeInto host context
          (fun s => Store.completionTakeMetadataSnapshot handle s host.tryReserve) fallbackMessage)
        (fun code => Took names handle completion host (.metadata code)) fun _ => Names names := by
    intro metadata fallbackMessage hmetadata hmoves
    cases hbytes : metadataSnapshotBytes host.tryReserve metadata with
    | error e =>
      rw [hbytes] at hmoves
      exact (triple_takeTransfer_none .completionTakeMetadataSnapshot hc hmoves
        fallbackMessage).of_imp (fun _ h => h) fun _ _ h => h.elim
    | ok bytes =>
      rw [hbytes] at hmoves
      exact (triple_takeTransfer .completionTakeMetadataSnapshot hc hmoves fallbackMessage).of_imp
        (fun _ h => h) fun code s h => ⟨metadata, bytes, hmetadata, hbytes, h⟩
  have hopened : ∀ (t : Transfer) (r : OwnedResource O S W L) (fallbackMessage : String),
      opened completion = some r →
      t.moves host.tryReserve (.completion completion) = some (none, some r) →
      Call.Triple (Names names)
        (takeInto host context (fun s => t.run host.tryReserve handle s) fallbackMessage)
        (fun code => Took names handle completion host (.resource ⟨kind r, code⟩))
        fun _ => Names names := by
    intro t r fallbackMessage hopened hmoves
    exact (triple_takeTransfer t hc hmoves fallbackMessage).of_imp (fun _ h => h)
      fun code s h => ⟨r, hopened, rfl, h⟩
  have hunit : isUnit completion = true → Call.Triple (Names names)
      (do
        releaseCompletion host handle context "could not release an OpenDAL completion"
        pure .nothing : FacadeCall O S W L Taken)
      (Took names handle completion host) fun _ => Names names := fun hunit =>
    (triple_releaseCompletion hc _).bind fun _ => Call.Triple.pure fun _ hs => ⟨hunit, hs⟩
  cases completion with
  | write result | stat result | copy result | writerFinish result =>
    cases result with
    | error e => cases herror
    | ok metadata => exact (hmetadata metadata _ rfl rfl).bind fun _ => Call.Triple.pure fun _ h => h
  | read result =>
    cases result with
    | error e => cases herror
    | ok bytes => exact (hbuffer bytes _ rfl rfl).bind fun _ => Call.Triple.pure fun _ h => h
  | readStreamNext result =>
    cases result with
    | error e => cases herror
    | ok value =>
      cases value with
      | none => exact absurd rfl hstream
      | some bytes => exact (hbuffer bytes _ rfl rfl).bind fun _ => Call.Triple.pure fun _ h => h
  | list result =>
    cases result with
    | error e => cases herror
    | ok entries =>
      exact ((triple_takeTransfer .completionTakeEntryList hc rfl _).of_imp (fun _ h => h)
        fun code s h => ⟨entries, rfl, h⟩).bind fun _ => Call.Triple.pure fun _ h => h
  | listerNext result =>
    cases result with
    | error e => cases herror
    | ok value =>
      cases value with
      | none => exact absurd rfl hlist
      | some entry =>
        exact ((triple_takeTransfer .completionTakeEntryList hc rfl _).of_imp (fun _ h => h)
          fun code s h => ⟨entry, rfl, h⟩).bind fun _ => Call.Triple.pure fun _ h => h
  | openReadStream result =>
    cases result with
    | error e => cases herror
    | ok cursor =>
      exact (hopened .completionTakeReadStream _ _ rfl rfl).bind fun _ =>
        Call.Triple.pure fun _ h => h
  | openWriter result =>
    cases result with
    | error e => cases herror
    | ok writer =>
      exact (hopened .completionTakeWriter _ _ rfl rfl).bind fun _ => Call.Triple.pure fun _ h => h
  | openLister result =>
    cases result with
    | error e => cases herror
    | ok lister =>
      exact (hopened .completionTakeLister _ _ rfl rfl).bind fun _ => Call.Triple.pure fun _ h => h
  | createDir result | delete result | rename result | writerWrite result | writerAbort result =>
    cases result with
    | error e => cases herror
    | ok value => exact hunit rfl

/-- A query with an answer, unless an error was left behind. -/
theorem triple_askChecked {α : Type} {failed : BridgeError → α}
    {f : BridgeState O S W L → Except BridgeError α} {value : α}
    (hf : ∀ s, Names names s → f { toStore := s } = .ok value) :
    Call.Triple (Names names) (askChecked host context failed f)
      (fun answer s => answer = value ∧ Names names s) fun _ => Names names := by
  apply triple_clearLastError.bind
  intro _
  apply Call.Triple.bind (Q := fun answer s => answer = value ∧ Names names s)
  · intro s hs
    have hasked : askedOr failed f s = (value, s) := by
      unfold askedOr asked
      rw [hf s hs]
      rfl
    simp only [hasked]
    exact ⟨trivial, hs⟩
  intro answer s hs
  obtain ⟨rfl, hs⟩ := hs
  apply triple_lastErrorTake.bind _ s hs
  intro code t ht
  rcases ht with ⟨hzero, ht⟩ | ⟨hne, error, hnone, ht⟩
  · rw [if_neg (not_not.mpr hzero)]
    exact ⟨rfl, ht⟩
  · rw [if_pos hne]
    have htake := triple_takeErrorWith (takeLastError host) host.tryReserve context
      (update_self code (some (.error error)) names)
    rw [update_update_none hnone] at htake
    exact htake.bind (fun e => Call.Triple.throw fun _ h => h.2) t ht

theorem errorCode_ne_zero (e : BridgeError) : e.code ≠ 0 := by
  cases e with
  | openDal kind =>
    show (if kind = ERROR_NOT_FOUND then 7 else 8 : UInt32) ≠ 0
    split <;> simp
  | _ => simp [BridgeError.code]

/-- A successful `next` is asked for the end first. -/
theorem triple_takeNext (hc : names handle = some (.completion completion))
    (herror : completion.error = none)
    (hkind : completion.kind = .readerNext ∨ completion.kind = .listerNext) :
    Call.Triple (Names names) (takeNext host handle context completion.kind)
      (Took names handle completion host) fun _ => Names names := by
  obtain ⟨isEnd, hisEnd, hunit, hmore⟩ : ∃ isEnd : Bool,
      (∀ s, Names names s → Store.completionIsEndValue handle s = .ok isEnd) ∧
        (isEnd = true → isUnit completion = true) ∧
        (isEnd = false → completion ≠ .readStreamNext (.ok none) ∧
          completion ≠ .listerNext (.ok none)) := by
    cases completion with
    | readStreamNext result =>
      cases result with
      | error e => cases herror
      | ok value =>
        refine ⟨value.isNone, fun s hs => completionIsEndValue_read ((hs.get? handle).trans hc),
          ?_, ?_⟩ <;> cases value <;> simp [isUnit]
    | listerNext result =>
      cases result with
      | error e => cases herror
      | ok value =>
        refine ⟨value.isNone, fun s hs => completionIsEndValue_list ((hs.get? handle).trans hc),
          ?_, ?_⟩ <;> cases value <;> simp [isUnit]
    | _ => rcases hkind with hkind | hkind <;> cases hkind
  have hasked : Call.Triple (Names names)
      (askChecked host context (fun _ => SCALAR_ERROR) (Bridge.completionIsEnd handle))
      (fun answer s => answer = (if isEnd then 1 else 0 : Int) ∧ Names names s)
      fun _ => Names names := by
    apply triple_askChecked
    intro s hs
    unfold Bridge.completionIsEnd
    rw [hisEnd s hs]
    rfl
  apply hasked.bind
  intro answer s hs
  obtain ⟨rfl, hs⟩ := hs
  cases isEnd with
  | true =>
    simp only [if_true, one_ne_zero, ne_eq, not_true, and_false, not_false_eq_true, if_false]
    exact ((triple_releaseCompletion hc _).bind fun _ =>
      Call.Triple.pure (P := Names (update names handle none)) fun _ ht => ⟨hunit rfl, ht⟩) s hs
  | false =>
    simp only [Bool.false_eq_true, if_false, ne_eq, not_true, false_and, zero_ne_one]
    exact triple_takeSuccess hc herror (hmore rfl).1 (hmore rfl).2 s hs

theorem CompletionKind.code_inj {a b : CompletionKind} (h : a.code = b.code) : a = b := by
  revert h
  cases a <;> cases b <;> decide

/-- Only a completion of the expected kind is taken apart. -/
theorem triple_takeCompletion (hc : names handle = some (.completion completion))
    (expectedKind : CompletionKind) :
    Call.Triple (Names names) (takeCompletion host handle context expectedKind)
      (fun taken s => expectedKind = completion.kind ∧ Took names handle completion host taken s)
      fun _ => Names names := by
  apply triple_clearLastError.bind
  intro _
  have hkind : Call.Triple (Names names)
      (expect host (asked (Bridge.completionKind handle)) context
        "could not inspect an OpenDAL completion")
      (fun code s => code = completion.kind.code ∧ Names names s) fun _ => Names names := by
    apply triple_expect
    intro s hs
    unfold asked Bridge.completionKind
    rw [Arena.completion_eq_ok.mpr ((hs.get? handle).trans hc)]
    exact ⟨rfl, hs⟩
  apply hkind.bind
  intro code s hs
  obtain ⟨rfl, hs⟩ := hs
  by_cases hexpected : expectedKind = completion.kind
  swap
  · rw [if_pos fun h => hexpected (CompletionKind.code_inj h.symm)]
    exact hs
  rw [hexpected, if_neg (not_not.mpr rfl)]
  have hstatus : ∀ value, completion.error.elim 0 BridgeError.code = value →
      Call.Triple (Names names)
        (askChecked host context BridgeError.code (Bridge.completionStatus handle))
        (fun status s => status = value ∧ Names names s) fun _ => Names names := by
    intro value hvalue
    apply triple_askChecked
    intro s hs
    unfold Bridge.completionStatus
    rw [Arena.completion_eq_ok.mpr ((hs.get? handle).trans hc), ← hvalue]
    rfl
  cases herror : completion.error with
  | some error =>
    apply (hstatus error.code (by rw [herror]; rfl)).bind _ s hs
    intro status t ht
    obtain ⟨rfl, ht⟩ := ht
    rw [if_pos (errorCode_ne_zero error)]
    have hmoves : Transfer.completionTakeError.moves host.tryReserve
        (.completion completion : OwnedResource O S W L) = some (none, some (.error error)) := by
      simp only [Transfer.moves, herror, Option.map_some]
    apply (triple_takeTransfer .completionTakeError hc hmoves
      "could not take an OpenDAL completion error").bind _ t ht
    intro code
    exact Call.Triple.pure fun s h => ⟨rfl, error, herror, h⟩
  | none =>
    apply (hstatus 0 (by rw [herror]; rfl)).bind _ s hs
    intro status t ht
    obtain ⟨rfl, ht⟩ := ht
    rw [if_neg (not_not.mpr rfl)]
    split_ifs with hnext
    · exact (triple_takeNext hc herror hnext).of_imp (fun _ h => h) (fun _ _ h => ⟨rfl, h⟩) t ht
    · refine (triple_takeSuccess hc herror ?_ ?_).of_imp (fun _ h => h) (fun _ _ h => ⟨rfl, h⟩) t ht
      · intro heq
        exact hnext (Or.inl (by rw [heq]; rfl))
      · intro heq
        exact hnext (Or.inr (by rw [heq]; rfl))

theorem Swapped.spent {payload : OwnedResource O S W L} {code : UInt32} {s : Store O S W L}
    (h : Swapped names handle none payload code s) :
    update (update (update names handle none) code (some payload)) code none =
      update names handle none := by
  apply update_update_none
  rw [update_of_ne h.other, h.fresh]

/-! ## The outcome of what was taken -/

variable (host) in
theorem triple_takeMetadata_value {metadata : Metadata} {bytes : List UInt8}
    (hbuffer : names handle = some (.buffer bytes))
    (hbytes : metadataSnapshotBytes tryReserve metadata = .ok bytes) :
    Call.Triple (Names names) (takeMetadata host handle)
      (fun value s => value = metadataValue decodedText metadata ∧
        Names (update names handle none) s)
      fun _ => Names (update names handle none) := by
  have hdescribes : Describes tryReserve ⟨"", "", 0, 0, bytes⟩ metadata := hbytes
  have hlimit : bytes.length ≤ maxBufferLength := length_snapshot_le hdescribes
  apply (triple_takeBufferWith (takeLastError host) hbuffer hlimit).bind
  intro taken s hs
  obtain ⟨rfl, hs⟩ := hs
  rw [decodeMetadataSnapshot_encode textDecode_utf8Bytes hbytes]
  exact ⟨rfl, hs⟩

theorem length_snapshots_le {entries : List EntrySnapshot} {metadatas : List Metadata}
    (h : List.Forall₂ (Describes tryReserve) entries metadatas) :
    ∀ entry ∈ entries, entry.metadataSnapshot.length ≤ maxBufferLength := by
  induction h with
  | nil => simp
  | cons hhead htail ih =>
    intro entry hentry
    rcases List.mem_cons.mp hentry with rfl | hentry
    · exact length_snapshot_le hhead
    · exact ih entry hentry

variable (host) (context) in
theorem triple_listEntries_value {entries : List EntrySnapshot} {metadatas : List Metadata}
    (hentries : names handle = some (.entryList entries))
    (hdescribes : List.Forall₂ (Describes tryReserve) entries metadatas) :
    Call.Triple (Names names) (listEntries host handle context)
      (fun values s => values = List.zipWith (entryValue decodedText) entries metadatas ∧
        Names (update names handle none) s)
      fun _ => Names (update names handle none) := by
  intro s hs
  have hframe := triple_listEntries host context hentries
    (length_snapshots_le hdescribes) s hs
  cases hran : listEntries host handle context s with
  | mk result t =>
    rw [hran] at hframe
    cases result with
    | ok values =>
      exact ⟨listEntries_spec hs.valid ((hs.get? handle).trans hentries) hdescribes hran, hframe⟩
    | error e => exact hframe

theorem triple_settleTaken (hdescribed : Described tryReserve completion) (taken : Taken) :
    Call.Triple (Took names handle completion host taken) (settleTaken host context taken)
      (fun outcome s => Delivers tryReserve context completion outcome ∧
        HandedOver (update names handle none) completion outcome s)
      fun _ => Names (update names handle none) := by
  intro s hs
  cases taken with
  | nothing => exact ⟨.nothing hs.1, hs.2⟩
  | error code =>
    obtain ⟨error, herror, hswapped⟩ := hs
    have htake := triple_takeErrorWith (takeLastError host) host.tryReserve context
      (update_self code (some (.error error)) (update names handle none))
    rw [hswapped.spent] at htake
    apply htake.bind _ s hswapped.names
    intro outcome t ht
    obtain ⟨rfl, ht⟩ := ht
    exact ⟨.failed herror, ht⟩
  | buffer code =>
    obtain ⟨bytes, hbytes, hlimit, hswapped⟩ := hs
    have htake := triple_takeBufferWith (E := fun _ => Names (update names handle none))
      (takeLastError host) (update_self code (some (.buffer bytes)) (update names handle none))
      hlimit
    rw [hswapped.spent] at htake
    apply htake.bind _ s hswapped.names
    intro value t ht
    obtain ⟨rfl, ht⟩ := ht
    exact ⟨.bytes hbytes, ht⟩
  | metadata code =>
    obtain ⟨metadata, bytes, hmetadata, hbytes, hswapped⟩ := hs
    have htake := triple_takeMetadata_value host
      (update_self code (some (.buffer bytes)) (update names handle none)) hbytes
    rw [hswapped.spent] at htake
    apply htake.bind _ s hswapped.names
    intro value t ht
    obtain ⟨rfl, ht⟩ := ht
    exact ⟨.metadata hmetadata, ht⟩
  | list code =>
    obtain ⟨entries, rfl, hswapped⟩ := hs
    obtain ⟨metadatas, hdescribes⟩ := hdescribed
    have htake := triple_listEntries_value host context
      (update_self code (some (.entryList entries)) (update names handle none)) hdescribes
    rw [hswapped.spent] at htake
    apply htake.bind _ s hswapped.names
    intro values t ht
    obtain ⟨rfl, ht⟩ := ht
    exact ⟨.entries hdescribes, ht⟩
  | entry code =>
    obtain ⟨entry, rfl, hswapped⟩ := hs
    obtain ⟨metadata, hdescribes⟩ := hdescribed
    have htake := triple_listEntries_value host context
      (update_self code (some (.entryList [entry])) (update names handle none))
      (List.Forall₂.cons hdescribes List.Forall₂.nil)
    rw [hswapped.spent] at htake
    apply htake.bind _ s hswapped.names
    intro values t ht
    obtain ⟨rfl, ht⟩ := ht
    exact ⟨.entry hdescribes, ht⟩
  | resource resource =>
    obtain ⟨r, hopened, hkind, hswapped⟩ := hs
    have hopens : completion.error = none ∧ opens completion.kind = some (kind r) := by
      cases completion with
      | openReadStream result | openWriter result | openLister result =>
        cases result with
        | error e => cases hopened
        | ok value =>
          cases hopened
          exact ⟨rfl, rfl⟩
      | _ => cases hopened
    refine ⟨.resource hopens.1 (hopens.2.trans (congrArg some hkind)), r, hopened, hkind,
      hswapped.nonzero, ?_, hswapped.names⟩
    rw [update_of_ne hswapped.other, hswapped.fresh]

variable (host) (context) in
/-- A completion of the expected kind is taken apart; otherwise it is given back. -/
theorem triple_settleCompletion (hc : names handle = some (.completion completion))
    (hdescribed : Described tryReserve completion) (expectedKind : CompletionKind) :
    Call.Triple (Names names) (settleCompletion host handle context expectedKind)
      (fun outcome s => expectedKind = completion.kind ∧
        Delivers tryReserve context completion outcome ∧
        HandedOver (update names handle none) completion outcome s)
      fun _ => Names (update names handle none) := by
  have htake : Call.Triple (Names names)
      (Call.onError (takeCompletion host handle context expectedKind)
        (fun s => (Store.releaseResource handle .completion s).2))
      (fun taken s => expectedKind = completion.kind ∧ Took names handle completion host taken s)
      fun _ => Names (update names handle none) :=
    (triple_takeCompletion hc expectedKind).onError fun _ _ hs => (hs.release hc rfl).2
  apply htake.bind
  intro taken s hs
  exact (triple_settleTaken hdescribed taken).of_imp (fun _ h => h)
    (fun _ _ h => ⟨hs.1, h⟩) s hs.2

end Settle

/-! ## Polling -/

section Poll

variable {host : Host} {tryReserve : Nat → Bool} {context : Context} {names : Naming O S W L}
variable {task : UInt32}

theorem releaseTask_spec {s : Store O S W L} {t : Bridge.Task (Completion S W L)}
    (hs : Names names s) (htask : names task = some (.task t)) :
    Without names task (taskLease t) (releaseTask task s) := by
  have hget := (hs.get? task).trans htask
  have htouched := touched_terminalize hs.valid.arena t
  have hstill := htouched.tasks task t hget
  obtain ⟨arena, htake⟩ : ∃ arena, (terminalizeOwnedTask t s.arena).take task .task =
      (.ok (.task t), arena) := Arena.take_of_get? hstill rfl
  have hreleased : releaseTask task s = { s with arena } := by
    unfold releaseTask status valueOr
    have howned : ownedTaskRelease task { toStore := s } =
        (.ok (), { toStore := { s with arena } }) := by
      unfold ownedTaskRelease Arena.release
      rw [Arena.ownedTask_eq_ok.mpr hget]
      simp only [htake]
      rfl
    rw [Call.bind_apply_ok howned]
    rfl
  have herased := Arena.erased_of_take htouched.valid htake
  rw [hreleased]
  refine ⟨hs.valid.update herased.valid (fun htorn => by simp [hs.running htask] at htorn),
    herased.source, ?_, ?_⟩
  · intro k hk
    rw [herased.others k hk, htouched.kinds, hs.get?]
  · intro k hk hlease
    rw [herased.others k hk, htouched.others k hlease, hs.get?]

/-- A consumed task takes nothing else with it. -/
theorem releaseTask_consumed {s : Store O S W L} (hs : Names names s)
    (htask : names task = some (.task .consumed)) :
    Names (update names task none) (releaseTask task s) := by
  have hwithout := releaseTask_spec hs htask
  refine ⟨hwithout.valid, ?_⟩
  intro k
  by_cases hk : k = task
  · rw [hk, hwithout.gone, update_self]
  · rw [hwithout.others k hk (by simp [taskLease]), update_of_ne hk]

theorem without_of_names {s : Store O S W L} {lease : Option ResourceLease}
    (hs : Names (update names task none) s) : Without names task lease s where
  valid := hs.valid
  gone := by rw [hs.get?, update_self]
  kinds := by
    intro k hk
    rw [hs.get?, update_of_ne hk]
  others := by
    intro k hk _
    rw [hs.get?, update_of_ne hk]

theorem triple_askState {t : Bridge.Task (Completion S W L)} (htask : names task = some (.task t))
    {E : Failure → Store O S W L → Prop} :
    Call.Triple (Names names)
      (fun s => (.ok (askedOr (fun _ => 0) (taskState task) s).1,
        (askedOr (fun _ => 0) (taskState task) s).2) : FacadeCall O S W L UInt32)
      (fun state s => state = taskStateCode t ∧ Names names s) E := by
  intro s hs
  have hasked : askedOr (fun _ => 0) (taskState task) s = (taskStateCode t, s) := by
    unfold askedOr asked taskState
    rw [Arena.ownedTask_eq_ok.mpr ((hs.get? task).trans htask)]
    rfl
  simp only [hasked]
  exact ⟨trivial, hs⟩

/-- A round on a pending task changes nothing. -/
theorem triple_pollPending {lease : Option ResourceLease}
    (htask : names task = some (.task (.pending lease))) (expectedKind : CompletionKind) :
    Call.Triple (Names names) (pollTask host task expectedKind context)
      (fun settled s => settled = none ∧ Names names s) fun _ _ => False := by
  apply triple_clearLastError.bind
  intro _
  apply (triple_askState htask).bind
  intro state s hs
  obtain ⟨rfl, hs⟩ := hs
  exact ⟨rfl, hs⟩

variable (host) (context) in
theorem triple_pollTask {completion : Completion S W L} {lease : Option ResourceLease}
    (htask : names task = some (.task (.ready completion lease)))
    (hdescribed : Described tryReserve completion) (expectedKind : CompletionKind) :
    Call.Triple (Names names) (pollTask host task expectedKind context)
      (fun settled s => ∃ outcome, settled = some outcome ∧ expectedKind = completion.kind ∧
        Delivers tryReserve context completion outcome ∧
        HandedOver (update names task none) completion outcome s)
      fun _ => Without names task lease := by
  apply triple_clearLastError.bind
  intro _
  have hasked : Call.Triple (Names names)
      (fun s => (.ok (askedOr (fun _ => 0) (taskState task) s).1,
        (askedOr (fun _ => 0) (taskState task) s).2) : FacadeCall O S W L UInt32)
      (fun state s => state = 2 ∧ Names names s) (fun _ => Without names task lease) :=
    triple_askState htask
  apply hasked.bind
  intro state s hs
  obtain ⟨rfl, hs⟩ := hs
  rw [if_neg (by decide), if_neg (by decide), if_neg (by decide), if_neg (by decide)]
  have htake : Call.Triple (Names names)
      (takeInto host context (Store.taskTake task) "could not take a ready OpenDAL task")
      (Swapped names task (some (.task .consumed)) (.completion completion))
      fun _ => Names names := by
    apply triple_takeInto
    intro s hs
    rcases transfer_cases .taskTake host.tryReserve hs htask (by simp [Transfer.moves]) with
      hfailed | ⟨code, s', left, moved, hout, hmoved, hswapped⟩
    · exact Or.inl hfailed
    · cases hmoved
      exact Or.inr ⟨code, s', hout, hswapped.nonzero, hswapped⟩
  have htakeOrRelease := htake.onError fun _ _ hs => releaseTask_spec hs htask
  apply htakeOrRelease.bind _ s hs
  intro code t hswapped
  have hconsumed : update (update names task (some (.task .consumed))) code
      (some (.completion completion)) task = some (.task .consumed) := by
    rw [update_of_ne hswapped.other.symm, update_self]
  have hreleased := releaseTask_consumed hswapped.names hconsumed
  have hswap : update (update (update names task (some (.task .consumed))) code
      (some (.completion completion))) task none =
        update (update names task none) code (some (.completion completion)) := by
    rw [update_comm hswapped.other, update_idem]
  rw [hswap] at hreleased
  have hfresh : update names task none code = none := by
    rw [update_of_ne hswapped.other, hswapped.fresh]
  have hsettle := triple_settleCompletion host context
    (update_self code (some (.completion completion)) (update names task none)) hdescribed
    expectedKind
  rw [update_update_none hfresh] at hsettle
  have hrest : Call.Triple (Names (update (update names task none) code
      (some (.completion completion))))
      (do
        let outcome ← settleCompletion host code context expectedKind
        pure (some outcome) : FacadeCall O S W L (Option (Outcome Value)))
      (fun settled s => ∃ outcome, settled = some outcome ∧ expectedKind = completion.kind ∧
        Delivers tryReserve context completion outcome ∧
        HandedOver (update names task none) completion outcome s)
      fun _ => Without names task lease :=
    (hsettle.of_imp_error fun _ _ h => without_of_names h).bind fun outcome =>
      Call.Triple.pure fun _ h => ⟨outcome, rfl, h⟩
  exact hrest _ hreleased

/-- A Promise that polls a ready task settles with the outcome of the completion that was
published, if that is of the expected kind, and only what the completion opened is new in the
store. When it does not get that far, the task and its completion are gone nevertheless, and
only a resource that was lent to the task may have changed. -/
theorem ready_task_settles (host : Host) (context : Context) (expectedKind : CompletionKind)
    {s : Store O S W L} (hs : s.Valid) {completion : Completion S W L}
    {lease : Option ResourceLease}
    (hget : s.arena.get? task = some (.task (.ready completion lease)))
    (hdescribed : Described tryReserve completion) :
    (∀ settled s', pollTask host task expectedKind context s = (.ok settled, s') →
      ∃ outcome, settled = some outcome ∧ expectedKind = completion.kind ∧
        Delivers tryReserve context completion outcome ∧
        HandedOver (update s.arena.get? task none) completion outcome s') ∧
      ∀ failure s', pollTask host task expectedKind context s = (.error failure, s') →
        Without s.arena.get? task lease s' := by
  have hpolled := triple_pollTask host context hget hdescribed expectedKind s (Names.of_valid hs)
  constructor
  · intro settled s' h
    rw [h] at hpolled
    exact hpolled
  · intro failure s' h
    rw [h] at hpolled
    exact hpolled

/-- The result of a read, published for the first task of an instance. -/
def readDone : Store Unit Unit Unit Unit :=
  (Store.insertResource (.task (.ready (.read (.ok [7, 8, 9])) none)) {}).2

theorem ready_task_settles_read :
    ∃ s', pollTask ⟨fun _ => true, 8⟩ 65537 .read checkContext readDone =
        (.ok (some (.ok (.bytes [7, 8, 9]))), s') ∧
      Names (update readDone.arena.get? 65537 none) s' := by
  have hran : ∃ s', pollTask ⟨fun _ => true, 8⟩ 65537 .read checkContext readDone =
      (.ok (some (.ok (.bytes [7, 8, 9]))), s') := ⟨_, rfl⟩
  obtain ⟨s', hran⟩ := hran
  have hready : readDone.arena.get? 65537 = some (.task (.ready (.read (.ok [7, 8, 9])) none)) := rfl
  have hdescribed : Described (fun _ => true) (.read (.ok [7, 8, 9]) : Completion Unit Unit Unit) :=
    trivial
  have hsettled := (ready_task_settles ⟨fun _ => true, 8⟩ checkContext .read
    (Store.Valid.empty.insertResource _) hready hdescribed).1 _ s' hran
  obtain ⟨outcome, hsome, -, -, hhanded⟩ := hsettled
  cases hsome
  exact ⟨s', hran, hhanded⟩

end Poll

end OpendalMbt.Browser
