import OpendalMbt.Bridge.Listing
import OpendalMbt.Browser.CompletionDelivery
import OpendalMbt.Browser.ReadStream

/-!
# The futures of the bridge

What the async blocks of `wasm/browser-bridge/src/lib.rs` make of the answers of OpenDAL: a
completion, and for a future with a lease what becomes of the resource that it was lent. The
errors of OpenDAL are converted already.

* `Future.run`: one future, run to its end;
* `run_fits`: the kinds fit, and entries are what was listed.
-/

namespace OpendalMbt.Bridge

open Browser (copyStreamChunk tryOwnedOpendalBuffer Described Describes)

variable {O S W L : Type}

/-- What OpenDAL, or what a future was lent, answers. -/
inductive UpstreamAnswer (S W L : Type) where
  | metadata (result : Except BridgeError Metadata)
  | bytes (result : Except BridgeError (List UInt8))
  | done (result : Except BridgeError Unit)
  /-- A lister that is asked to its end, or the error of the request for it. -/
  | listing (request : Except BridgeError ListerAnswers)
  | stream (result : Except BridgeError S)
  | writer (result : Except BridgeError W)
  | lister (result : Except BridgeError L)
  /-- `try_next` of a stream, and the stream after it. -/
  | chunk (stream : S) (result : Except BridgeError (Option (List UInt8)))
  | written (writer : W) (result : Except BridgeError Unit)
  | entry (lister : L) (result : Except BridgeError (Option UpstreamEntry))
  /-- Nothing was asked. -/
  | nothing

/-- What a future ends with. -/
abbrev FutureEnd (S W L : Type) : Type := Option (OwnedUpdate S W L) × Completion S W L

namespace Future

variable (tryReserve : Nat → Bool)

/-- The rest of `read_stream_next` once there is a buffer, the end or an error. -/
def streamed (cursor : ReadStreamCursor S) (stream : S) :
    Except BridgeError (Option (List UInt8)) → FutureEnd S W L
  | .ok (some buffer) =>
    match copyStreamChunk tryReserve buffer cursor.maxChunk with
    | .ok (chunk, remainder) =>
      (some (.readStream (.open { cursor with stream, pending := remainder })),
        .readStreamNext (.ok (some chunk)))
    | .error e => (some (.readStream (.terminal .failed)), .readStreamNext (.error e))
  | .ok none => (some (.readStream (.terminal .end)), .readStreamNext (.ok none))
  | .error e => (some (.readStream (.terminal .failed)), .readStreamNext (.error e))

def listed (lister : L) : Except BridgeError (Option UpstreamEntry) → FutureEnd S W L
  | .ok (some entry) =>
    match entrySnapshot tryReserve entry with
    | .ok snapshot => (some (.lister (.open lister)), .listerNext (.ok (some snapshot)))
    | .error e => (some (.lister (.terminal .failed)), .listerNext (.error e))
  | .ok none => (some (.lister (.terminal .end)), .listerNext (.ok none))
  | .error e => (some (.lister (.terminal .failed)), .listerNext (.error e))

def wrote (writer : W) : Except BridgeError Unit → FutureEnd S W L
  | .ok () => (some (.writer (.open writer)), .writerWrite (.ok ()))
  | .error e => (some (.writer (.terminal .failed)), .writerWrite (.error e))

def finished : Except BridgeError Metadata → FutureEnd S W L
  | .ok metadata =>
    (some (.writer (.terminal (.finished metadata))), .writerFinish (.ok metadata))
  | .error e => (some (.writer (.terminal .failed)), .writerFinish (.error e))

def aborted : Except BridgeError Unit → FutureEnd S W L
  | .ok () => (some (.writer (.terminal .aborted)), .writerAbort (.ok ()))
  | .error e => (some (.writer (.terminal .failed)), .writerAbort (.error e))

/-- A future to its end; it asks one question of its own kind at most. -/
def run : Future O S W L → UpstreamAnswer S W L → Option (FutureEnd S W L)
  | .write _ _ _ _, .metadata result => some (none, .write result)
  | .read _ _ _, .bytes result =>
    some (none, .read (result.bind (tryOwnedOpendalBuffer tryReserve)))
  | .stat _ _ _, .metadata result => some (none, .stat result)
  | .createDir _ _, .done result => some (none, .createDir result)
  | .delete _ _ _, .done result => some (none, .delete result)
  | .list _ _ _, .listing request => some (none, .list (collectList tryReserve request))
  | .copy _ _ _, .metadata result => some (none, .copy result)
  | .rename _ _ _, .done result => some (none, .rename result)
  | .openReadStream _ _ options, .stream result =>
    some (none, .openReadStream
      (result.map fun stream => { stream, pending := none, maxChunk := options.chunkSize }))
  | .openWriter _ _ _, .writer result => some (none, .openWriter result)
  | .openLister _ _ _, .lister result => some (none, .openLister result)
  | .readStreamNext cursor, answer =>
    match cursor.pending, answer with
    | some buffer, .nothing => some (streamed tryReserve cursor cursor.stream (.ok (some buffer)))
    | none, .chunk stream result => some (streamed tryReserve cursor stream result)
    | _, _ => none
  | .writerWrite _ _, .written writer result => some (wrote writer result)
  | .writerFinish _, .metadata result => some (finished result)
  | .writerFinished metadata, .nothing => some (none, .writerFinish (.ok metadata))
  | .writerAbort _, .done result => some (aborted result)
  | .writerAborted, .nothing => some (none, .writerAbort (.ok ()))
  | .listerNext _, .entry lister result => some (listed tryReserve lister result)
  | _, _ => none

/-- The kind of the completion that a future ends with. -/
def kind : Future O S W L → CompletionKind
  | .write _ _ _ _ => .write
  | .read _ _ _ => .read
  | .stat _ _ _ => .stat
  | .createDir _ _ => .createDir
  | .delete _ _ _ => .delete
  | .list _ _ _ => .list
  | .copy _ _ _ => .copy
  | .rename _ _ _ => .rename
  | .openReadStream _ _ _ => .openReader
  | .openWriter _ _ _ => .openWriter
  | .openLister _ _ _ => .openLister
  | .readStreamNext _ => .readerNext
  | .writerWrite _ _ => .writerWrite
  | .writerFinish _ | .writerFinished _ => .writerFinish
  | .writerAbort _ | .writerAborted => .writerAbort
  | .listerNext _ => .listerNext

/-- The kind of the resource that a future was lent. -/
def lentKind : Future O S W L → Option ResourceKind
  | .readStreamNext _ => some .readStream
  | .writerWrite _ _ | .writerFinish _ | .writerAbort _ => some .writer
  | .listerNext _ => some .lister
  | _ => none

end Future

/-! ## Ends -/

section Ends

variable {tryReserve : Nat → Bool} {future : Future O S W L} {answer : UpstreamAnswer S W L}
variable {update : Option (OwnedUpdate S W L)} {completion : Completion S W L}

/-- What fits together in the end of a future. -/
structure Fits (tryReserve : Nat → Bool) (kind : CompletionKind) (lent : Option ResourceKind)
    (ended : FutureEnd S W L) : Prop where
  kind : ended.2.kind = kind
  lent : ended.1.map OwnedUpdate.kind = lent
  described : Described tryReserve ended.2

theorem fits_streamed (cursor : ReadStreamCursor S) (stream : S)
    (next : Except BridgeError (Option (List UInt8))) :
    Fits tryReserve .readerNext (some .readStream)
      (Future.streamed tryReserve cursor stream next : FutureEnd S W L) := by
  cases next with
  | error e => exact ⟨rfl, rfl, trivial⟩
  | ok buffer =>
    cases buffer with
    | none => exact ⟨rfl, rfl, trivial⟩
    | some buffer =>
      unfold Future.streamed
      dsimp only
      cases copyStreamChunk tryReserve buffer cursor.maxChunk with
      | error e => exact ⟨rfl, rfl, trivial⟩
      | ok cut => exact ⟨rfl, rfl, trivial⟩

theorem fits_listed (lister : L) (next : Except BridgeError (Option UpstreamEntry)) :
    Fits tryReserve .listerNext (some .lister)
      (Future.listed tryReserve lister next : FutureEnd S W L) := by
  cases next with
  | error e => exact ⟨rfl, rfl, trivial⟩
  | ok entry =>
    cases entry with
    | none => exact ⟨rfl, rfl, trivial⟩
    | some entry =>
      unfold Future.listed
      dsimp only
      cases hsnapshot : entrySnapshot tryReserve entry with
      | error e => exact ⟨rfl, rfl, trivial⟩
      | ok snapshot =>
        exact ⟨rfl, rfl, entry.metadata, (entrySnapshot_eq_ok.mp hsnapshot).1.2.1⟩

theorem described_list (request : Except BridgeError ListerAnswers) :
    Described tryReserve (.list (collectList tryReserve request) : Completion S W L) := by
  cases request with
  | error e => exact trivial
  | ok answers =>
    cases hran : collectLoop tryReserve PRODUCTION_LIST_BOUNDS answers 0 {} with
    | mk result collected =>
      cases result with
      | error e =>
        simp only [collectList, hran, bind, Except.bind]
        trivial
      | ok done =>
        obtain ⟨entries, snapshots, -, hencodes, hentries, -⟩ := collectLoop_eq_ok hran
        simp only [collectList, hran, bind, Except.bind, hentries, List.nil_append]
        refine ⟨entries.map UpstreamEntry.metadata, ?_⟩
        have hdescribes : List.Forall₂ (fun snapshot entry => Encodes tryReserve entry snapshot)
            snapshots entries := List.Forall₂.flip hencodes
        rw [List.forall₂_map_right_iff]
        exact hdescribes.imp fun snapshot entry hencode => hencode.2.1

theorem fits_wrote (writer : W) (result : Except BridgeError Unit) :
    Fits tryReserve .writerWrite (some .writer) (Future.wrote writer result : FutureEnd S W L) := by
  cases result <;> exact ⟨rfl, rfl, trivial⟩

theorem fits_finished (result : Except BridgeError Metadata) :
    Fits tryReserve .writerFinish (some .writer) (Future.finished result : FutureEnd S W L) := by
  cases result <;> exact ⟨rfl, rfl, trivial⟩

theorem fits_aborted (result : Except BridgeError Unit) :
    Fits tryReserve .writerAbort (some .writer) (Future.aborted result : FutureEnd S W L) := by
  cases result <;> exact ⟨rfl, rfl, trivial⟩

/-- A future that ends does so in its own kind, gives back what it was lent, and tells of entries
what was listed. -/
theorem run_fits {ended : FutureEnd S W L} (h : future.run tryReserve answer = some ended) :
    Fits tryReserve future.kind future.lentKind ended := by
  cases future with
  | readStreamNext cursor =>
    have hnext : ∃ stream next, ended = Future.streamed tryReserve cursor stream next := by
      simp only [Future.run] at h
      split at h <;> cases h <;> exact ⟨_, _, rfl⟩
    obtain ⟨stream, next, rfl⟩ := hnext
    exact fits_streamed cursor stream next
  | writerWrite writer data =>
    cases answer <;> cases h
    exact fits_wrote _ _
  | writerFinish writer =>
    cases answer <;> cases h
    exact fits_finished _
  | writerAbort writer =>
    cases answer <;> cases h
    exact fits_aborted _
  | listerNext lister =>
    cases answer <;> cases h
    exact fits_listed _ _
  | list operator path options =>
    cases answer <;> cases h
    exact ⟨rfl, rfl, described_list _⟩
  | _ =>
    cases answer <;> cases h
    exact ⟨rfl, rfl, trivial⟩

end Ends

end OpendalMbt.Bridge
