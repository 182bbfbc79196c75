import OpendalMbt.Bridge.WriterWorld

/-!
# The stages of a writer of the bridge

What every step of a writer and its futures keeps.

* `Aside`: what leaves the writer and its task alone, in the arena;
* `WriterStage`: the writer is at rest, lent to one future, or over;
* `sound_start`, `sound_call`, `sound_publish`, `sound_release`: the steps that change the stage;
* `sound_step`: every step, and what else happens on the bridge.
-/

namespace OpendalMbt.Bridge

open Arena Transition

variable {O S W L : Type}

/-! ## Beside the writer -/

/-- The writer and the tasks that hold a lease on it stay what they are. -/
structure Aside (handle : UInt32) (a a' : Arena (OwnedResource O S W L)) : Prop where
  valid : a'.Valid
  issued : a'.Issued handle
  same : a'.get? handle = a.get? handle
  lent : ∀ task (lease : ResourceLease), lease.handle = handle →
    a.get? task = some (.task (.pending (some lease))) →
    a'.get? task = some (.task (.pending (some lease)))

section Aside

variable {handle k : UInt32} {a a' : Arena (OwnedResource O S W L)} {r r' : OwnedResource O S W L}

theorem Aside.refl (ha : a.Valid) (hissued : a.Issued handle) : Aside handle a a where
  valid := ha
  issued := hissued
  same := rfl
  lent _ _ _ h := h

theorem aside_insert (ha : a.Valid) (hissued : a.Issued handle)
    (h : a.insert r = (.ok k, a')) : Aside handle a a' := by
  have hfresh : ∀ j, a.Issued j → a'.get? j = a.get? j := by
    intro j hj
    have hne : j ≠ k := by
      rintro rfl
      exact (view_insert ha h).1 hj
    rw [ha.get?_insert h, if_neg hne]
  refine ⟨ha.insert h, (ha.issued_insert h handle).mpr (.inr hissued), hfresh handle hissued, ?_⟩
  intro task lease _ hget
  rw [hfresh task (ha.issued_of_get? hget), hget]

theorem aside_write (ha : a.Valid) (hissued : a.Issued handle) (hget : a.get? k = some r)
    (hk : k ≠ handle)
    (hr : ∀ lease : ResourceLease, lease.handle = handle → r ≠ .task (.pending (some lease))) :
    Aside handle a (a.write k r') := by
  have hres := get?_eq_some.mp hget
  refine ⟨ha.write hres, (ha.issued_write hres r' handle).mpr hissued, ?_, ?_⟩
  · rw [ha.get?_write hres, if_neg hk.symm]
  · intro task lease hlease htask
    have hne : task ≠ k := by
      rintro rfl
      rw [hget] at htask
      cases htask
      exact hr lease hlease rfl
    rw [ha.get?_write hres, if_neg hne, htask]

theorem Aside.trans {a'' : Arena (OwnedResource O S W L)} (h : Aside handle a a')
    (h' : Aside handle a' a'') : Aside handle a a'' where
  valid := h'.valid
  issued := h'.issued
  same := h'.same.trans h.same
  lent task lease hlease hget := h'.lent task lease hlease (h.lent task lease hlease hget)

end Aside

section Others

variable {handle : UInt32} {s : BridgeState O S W L} {lib : Library O}

theorem returned_arena (out : Except Stop UInt32 × Store O S W L) :
    (returned out).2.arena = out.2.arena := by
  obtain ⟨result, t⟩ := out
  cases result with
  | ok value => rfl
  | error stop => cases stop <;> rfl

theorem transferReply_arena (t : Transfer) (target : UInt32) :
    (transferReply s lib.tryReserve t target).2.arena =
      (t.run lib.tryReserve target s.toStore).2.arena := by
  unfold transferReply
  cases hrun : t.run lib.tryReserve target s.toStore with
  | mk result store => cases result <;> rfl

/-- A handle that names no task is not what `task_take` changes. -/
theorem aside_taskTake (ha : s.arena.Valid) (hissued : s.arena.Issued handle)
    (hwriter : ∀ task, s.arena.get? handle ≠ some (.task task)) (target : UInt32) :
    Aside handle s.arena ((Export.taskTake target).run s lib).2.arena := by
  show Aside handle s.arena (transferReply s lib.tryReserve .taskTake target).2.arena
  rw [transferReply_arena]
  show Aside handle s.arena (s.toStore.taskTake target).2.arena
  unfold Store.taskTake
  rw [returned_arena]
  split
  · exact .refl ha hissued
  split
  · exact .refl ha hissued
  · rename_i completion lease htask
    have hget := ownedTask_eq_ok.mp htask
    have hne : target ≠ handle := by
      rintro rfl
      exact hwriter _ hget
    have hwritten : Aside handle s.arena (s.arena.write target (.task .consumed)) := by
      apply aside_write ha hissued hget hne
      intro lease' _ heq
      cases heq
    cases hinsert : (s.arena.write target (.task .consumed)).insert (.completion completion) with
    | mk result arena =>
      cases result with
      | error e =>
        obtain ⟨rfl, -⟩ := insert_error hinsert
        simpa only [Store.arenaInsert, hinsert, Store.stopOnError] using hwritten
      | ok code =>
        have hinserted := aside_insert hwritten.valid hwritten.issued hinsert
        simpa only [Store.arenaInsert, hinsert, Store.stopOnError] using hwritten.trans hinserted
  · exact .refl ha hissued
  · exact .refl ha hissued
  · exact .refl ha hissued

/-- What a repeated outcome is published to is a task without a lease. -/
theorem aside_publishOwnedTask (ha : s.arena.Valid) (hissued : s.arena.Issued handle)
    (hwriter : ∀ task, s.arena.get? handle ≠ some (.task task)) (target : UInt32)
    (completion : Completion S W L) :
    Aside handle s.arena (publishOwnedTask target completion s).arena := by
  unfold publishOwnedTask
  split
  · rename_i htask
    have hget := ownedTask_eq_ok.mp htask
    have hne : target ≠ handle := by
      rintro rfl
      exact hwriter _ hget
    apply aside_write ha hissued hget hne
    intro lease _ heq
    cases heq
  · exact .refl ha hissued

end Others

/-! ## The stages of a writer -/

namespace InnerAnswer

/-- What an answer leaves of the writer, if it ends it. -/
def outcome : InnerAnswer → Option (WriterOutcome Metadata)
  | .write (.ok ()) => none
  | .close (.ok metadata) => some (.finished metadata)
  | .abort (.ok ()) => some .aborted
  | .write (.error _) | .close (.error _) | .abort (.error _) => some .failed

theorem outcome_finished {answer : InnerAnswer} {metadata : Metadata} :
    answer.outcome = some (.finished metadata) ↔ answer = .close (.ok metadata) := by
  rcases answer with (_ | _) | (_ | _) | (_ | _) <;> simp [outcome]

theorem outcome_aborted {answer : InnerAnswer} :
    answer.outcome = some .aborted ↔ answer = .abort (.ok ()) := by
  rcases answer with (_ | _) | (_ | _) | (_ | _) <;> simp [outcome]

end InnerAnswer

/-- What is published of a call that the writer answers. -/
theorem outcome_update {future : Future O S W L} {writer : W} {call : InnerCall}
    {answer : InnerAnswer} {update : WriterUpdate W Metadata} {completion : Completion S W L}
    (hcall : future.innerCall = some (writer, call))
    (h : future.outcome answer = some (update, completion)) :
    answer.outcome = none ∧ (∃ data, call = .write data) ∧ update = .open writer ∨
      ∃ outcome, answer.outcome = some outcome ∧ update = .terminal outcome := by
  cases future with
  | writerWrite inner data =>
    cases hcall
    rcases answer with (_ | _) | _ | _
    · cases h
      exact .inr ⟨.failed, rfl, rfl⟩
    · cases h
      exact .inl ⟨rfl, ⟨data, rfl⟩, rfl⟩
    · cases h
    · cases h
  | writerFinish inner =>
    cases hcall
    rcases answer with _ | (_ | metadata) | _
    · cases h
    · cases h
      exact .inr ⟨.failed, rfl, rfl⟩
    · cases h
      exact .inr ⟨.finished metadata, rfl, rfl⟩
    · cases h
  | writerAbort inner =>
    cases hcall
    rcases answer with _ | _ | (_ | _)
    · cases h
    · cases h
    · cases h
      exact .inr ⟨.failed, rfl, rfl⟩
    · cases h
      exact .inr ⟨.aborted, rfl, rfl⟩
  | _ => cases hcall

/-- Every call is a write to the writer. -/
def Writes (writer : W) (calls : List (W × InnerCall)) : Prop :=
  ∀ call ∈ calls, ∃ data, call = (writer, .write data)

/-- What a start finds of a writer in `state`. -/
def heldState (released : Bool) (state : WriterState W Metadata) :
    Option (WriterState W Metadata) :=
  if released then none else some state

section Stages

variable (handle : UInt32) (writer : W) (w : WriterWorld O S W L)

def WriterWorld.Shows (state : WriterState W Metadata) : Prop :=
  w.bridge.arena.get? handle = (heldState w.released state).map .writer

/-- The future has the writer under `lease`, for `call`. -/
structure Lent (f : Spawned O S W L) (lease : ResourceLease) (call : InnerCall) : Prop where
  leased : f.lease = some lease
  target : lease.handle = handle
  ofWriter : lease.kind = .writer
  shows : w.Shows handle (.busy lease.operation)
  task : w.bridge.arena.get? f.task = some (.task (.pending (some lease)))
  calls : f.future.innerCall = some (writer, call)

inductive WriterStage : Prop where
  | rest (operation : UInt64) (shows : w.Shows handle (.open writer operation))
      (waiting : w.waiting = []) (running : w.running = []) (calls : Writes writer w.calls)
      (answers : ∀ answer ∈ w.answers, answer.outcome = none)
  | begun (f : Spawned O S W L) (lease : ResourceLease) (call : InnerCall)
      (lent : Lent handle writer w f lease call) (waiting : w.waiting = [f])
      (running : w.running = []) (calls : Writes writer w.calls)
      (answers : ∀ answer ∈ w.answers, answer.outcome = none)
  | called (f : Spawned O S W L) (lease : ResourceLease) (call : InnerCall)
      (lent : Lent handle writer w f lease call) (waiting : w.waiting = [])
      (running : w.running = [f])
      (calls : ∃ earlier, w.calls = earlier ++ [(writer, call)] ∧ Writes writer earlier)
      (answers : ∀ answer ∈ w.answers, answer.outcome = none)
  | ended (outcome : WriterOutcome Metadata) (shows : w.Shows handle (.terminal outcome))
      (waiting : w.waiting = []) (running : w.running = [])
      (calls : ∃ earlier call, w.calls = earlier ++ [(writer, call)] ∧ Writes writer earlier)
      (answers : ∃ earlier last, w.answers = earlier ++ [last] ∧ last.outcome = some outcome ∧
        ∀ answer ∈ earlier, answer.outcome = none)

/-- A future that repeats what the writer has answered. -/
def Repeats (answers : List InnerAnswer) (future : Future O S W L) : Prop :=
  (∃ metadata, future = .writerFinished metadata ∧ .close (.ok metadata) ∈ answers) ∨
    future = .writerAborted ∧ .abort (.ok ()) ∈ answers

structure WriterWorld.Sound : Prop where
  valid : w.bridge.arena.Valid
  issued : w.bridge.arena.Issued handle
  repeats : ∀ f ∈ w.repeating, Repeats w.answers f.future
  stage : WriterStage handle writer w

end Stages

section Kept

variable {handle : UInt32} {writer : W} {w : WriterWorld O S W L} {s : BridgeState O S W L}

theorem WriterWorld.Shows.aside {state : WriterState W Metadata} (h : w.Shows handle state)
    (hs : Aside handle w.bridge.arena s.arena) (repeating : List (Spawned O S W L)) :
    WriterWorld.Shows handle { w with bridge := s, repeating } state :=
  hs.same.trans h

theorem Lent.aside {f : Spawned O S W L} {lease : ResourceLease} {call : InnerCall}
    (h : Lent handle writer w f lease call) (hs : Aside handle w.bridge.arena s.arena)
    (repeating : List (Spawned O S W L)) :
    Lent handle writer { w with bridge := s, repeating } f lease call where
  leased := h.leased
  target := h.target
  ofWriter := h.ofWriter
  shows := h.shows.aside hs repeating
  task := hs.lent f.task lease h.target h.task
  calls := h.calls

theorem WriterStage.aside (h : WriterStage handle writer w) (hs : Aside handle w.bridge.arena s.arena)
    (repeating : List (Spawned O S W L)) :
    WriterStage handle writer { w with bridge := s, repeating } := by
  cases h with
  | rest operation shows waiting running calls answers =>
    exact .rest operation (shows.aside hs repeating) waiting running calls answers
  | begun f lease call lent waiting running calls answers =>
    exact .begun f lease call (lent.aside hs repeating) waiting running calls answers
  | called f lease call lent waiting running calls answers =>
    exact .called f lease call (lent.aside hs repeating) waiting running calls answers
  | ended outcome shows waiting running calls answers =>
    exact .ended outcome (shows.aside hs repeating) waiting running calls answers

theorem WriterWorld.Sound.aside (h : w.Sound handle writer) (hs : Aside handle w.bridge.arena s.arena)
    {repeating : List (Spawned O S W L)}
    (hrepeats : ∀ f ∈ repeating, Repeats w.answers f.future) :
    WriterWorld.Sound handle writer { w with bridge := s, repeating } where
  valid := hs.valid
  issued := hs.issued
  repeats := hrepeats
  stage := h.stage.aside hs repeating

end Kept

/-! ## Publications and the release -/

section Moves

variable {handle : UInt32} {s : BridgeState O S W L} {lib : Library O} {released : Bool}

theorem applyUpdate_writer {lease : ResourceLease} (ha : s.arena.Valid)
    (hissued : s.arena.Issued lease.handle)
    (hget : s.arena.get? lease.handle =
      (heldState released (.busy lease.operation)).map .writer)
    (update : WriterUpdate W Metadata) :
    ∃ a, Lender.writer.applyUpdate lease update s.arena = a ∧ a.Valid ∧ a.Issued lease.handle ∧
      a.get? lease.handle = (heldState released (update.state lease.operation)).map .writer ∧
      ∀ k, k ≠ lease.handle → a.get? k = s.arena.get? k := by
  unfold Lender.applyUpdate
  cases released with
  | true =>
    rw [writer_lookup_none hget]
    exact ⟨s.arena, rfl, ha, hissued, hget, fun _ _ => rfl⟩
  | false =>
    have hres := get?_eq_some.mp hget
    rw [writer_lookup.mpr hget]
    dsimp only
    rw [if_pos rfl]
    refine ⟨_, rfl, ha.write hres, (ha.issued_write hres _ _).mpr hissued, ?_, ?_⟩
    · rw [ha.get?_write hres, if_pos rfl]
      rfl
    · intro k hk
      rw [ha.get?_write hres, if_neg hk]

/-- The publication of a call moves the writer on, if it is there, and ends the task. -/
theorem publishOwnedResourceTask_writer {lease : ResourceLease} {task : UInt32}
    (ha : s.arena.Valid) (hissued : s.arena.Issued lease.handle) (hkind : lease.kind = .writer)
    (hget : s.arena.get? lease.handle =
      (heldState released (.busy lease.operation)).map .writer)
    (htask : s.arena.get? task = some (.task (.pending (some lease))))
    (update : WriterUpdate W Metadata) (completion : Completion S W L) :
    ∃ arena, publishOwnedResourceTask task lease (.writer update) completion s =
        { s with arena } ∧
      arena.Valid ∧ arena.Issued lease.handle ∧
      arena.get? lease.handle =
        (heldState released (update.state lease.operation)).map .writer ∧
      arena.get? task = some (.task (.ready completion (some lease))) := by
  obtain ⟨a, happly, hvalid, hissued', hstate, hothers⟩ := applyUpdate_writer ha hissued hget update
  have hne : task ≠ lease.handle := by
    rintro rfl
    rw [htask] at hget
    cases released <;> cases hget
  have htask' := (hothers task hne).trans htask
  have hres := get?_eq_some.mp htask'
  have hmatch : ¬ (lease ≠ lease ∨ (OwnedUpdate.writer update : OwnedUpdate S W L).kind ≠
      lease.kind) := by
    rw [hkind]
    simp [OwnedUpdate.kind]
  refine ⟨a.write task (.task (.ready completion (some lease))), ?_, hvalid.write hres,
    (hvalid.issued_write hres _ _).mpr hissued', ?_, ?_⟩
  · unfold publishOwnedResourceTask
    rw [ownedTask_eq_ok.mpr htask]
    dsimp only
    rw [if_neg hmatch]
    dsimp only [OwnedUpdate.apply]
    rw [happly, ownedTask_eq_ok.mpr htask']
    dsimp only
    rw [if_pos rfl]
  · rw [hvalid.get?_write hres, if_neg hne.symm, hstate]
  · rw [hvalid.get?_write hres, if_pos rfl]

theorem writerRelease_eq :
    (((Export.writerRelease handle).run s lib).2).arena = (s.arena.take handle .writer).2 := by
  show ((releaseReply s handle .writer).2).arena = _
  unfold releaseReply statusReply status valueOr
  cases htake : s.arena.take handle .writer with
  | mk result arena =>
    cases result with
    | error e =>
      have hrelease : onStore (Store.releaseResource handle .writer) s =
          (.error e, { s with arena, lastError := some e }) := by
        unfold onStore Store.releaseResource Store.recorded Arena.release
        rw [htake]
        rfl
      rw [Call.bind_apply_error hrelease]
      rfl
    | ok r =>
      have hrelease : onStore (Store.releaseResource handle .writer) s =
          (.ok (), { s with arena }) := by
        unfold onStore Store.releaseResource Store.recorded Arena.release
        rw [htake]
        rfl
      rw [Call.bind_apply_ok hrelease]
      rfl

/-- After a release the writer is gone, and nothing else is. -/
theorem writerRelease_arena {state : WriterState W Metadata} (ha : s.arena.Valid)
    (hissued : s.arena.Issued handle)
    (hget : s.arena.get? handle = (heldState released state).map .writer) :
    ∃ arena, (((Export.writerRelease handle).run s lib).2).arena = arena ∧ arena.Valid ∧
      arena.Issued handle ∧ arena.get? handle = none ∧
      ∀ k, k ≠ handle → arena.get? k = s.arena.get? k := by
  rw [writerRelease_eq]
  cases released with
  | true =>
    cases htake : s.arena.take handle .writer with
    | mk result arena =>
      cases result with
      | error e =>
        obtain rfl := take_error htake
        exact ⟨s.arena, rfl, ha, hissued, hget, fun _ _ => rfl⟩
      | ok r =>
        have hlive := (view_take ha htake).1
        rw [hget] at hlive
        cases hlive
  | false =>
    obtain ⟨arena, htake⟩ := @take_of_get? _ s.arena handle _ _ .writer hget rfl
    refine ⟨arena, by rw [htake], ha.take htake, (ha.issued_take htake handle).mpr hissued, ?_, ?_⟩
    · rw [ha.get?_take htake, if_pos rfl]
    · intro k hk
      rw [ha.get?_take htake, if_neg hk]

end Moves

/-! ## One step -/

section Step

variable {handle : UInt32} {writer : W} {w w' : WriterWorld O S W L} {s : BridgeState O S W L}
variable {lib : Library O} {start : WriterStart}

theorem started_quiet (h : s.spawned = w.bridge.spawned) :
    w.started s = { w with bridge := s } := by
  unfold WriterWorld.started
  rw [h, List.drop_length]
  simp

theorem started_leased {f : Spawned O S W L} (h : s.spawned = w.bridge.spawned ++ [f])
    {lease : ResourceLease} (hlease : f.lease = some lease) :
    w.started s = { w with bridge := s, waiting := w.waiting ++ [f] } := by
  unfold WriterWorld.started
  rw [h, List.drop_left]
  simp [hlease]

theorem started_repeating {f : Spawned O S W L} (h : s.spawned = w.bridge.spawned ++ [f])
    (hlease : f.lease = none) :
    w.started s = { w with bridge := s, repeating := w.repeating ++ [f] } := by
  unfold WriterWorld.started
  rw [h, List.drop_left]
  simp [hlease]

theorem WriterStage.exists_shows (h : WriterStage handle writer w) :
    ∃ state, w.Shows handle state := by
  cases h with
  | rest operation shows => exact ⟨_, shows⟩
  | begun f lease call lent => exact ⟨_, lent.shows⟩
  | called f lease call lent => exact ⟨_, lent.shows⟩
  | ended outcome shows => exact ⟨_, shows⟩

/-- What the writer shows is no task. -/
theorem WriterStage.no_task (h : WriterStage handle writer w) (task : Task (Completion S W L)) :
    w.bridge.arena.get? handle ≠ some (.task task) := by
  obtain ⟨state, hshows⟩ := h.exists_shows
  intro hget
  rw [hshows] at hget
  cases hheld : heldState w.released state with
  | none =>
    rw [hheld] at hget
    cases hget
  | some state' =>
    rw [hheld] at hget
    cases hget

theorem WriterWorld.Shows.eq_some {state state' : WriterState W Metadata} (h : w.Shows handle state)
    (hget : w.bridge.arena.get? handle = some (.writer state')) :
    w.released = false ∧ state = state' := by
  have hshows : w.bridge.arena.get? handle = _ := h
  rw [hget] at hshows
  unfold heldState at hshows
  cases hreleased : w.released with
  | true =>
    rw [hreleased] at hshows
    cases hshows
  | false =>
    rw [hreleased] at hshows
    cases hshows
    exact ⟨rfl, rfl⟩

/-- An open writer is at rest. -/
theorem WriterStage.of_open {inner : W} {previous : UInt64} (h : WriterStage handle writer w)
    (hget : w.bridge.arena.get? handle = some (.writer (.open inner previous))) :
    inner = writer ∧ w.released = false ∧ w.waiting = [] ∧ w.running = [] ∧
      Writes writer w.calls ∧ ∀ answer ∈ w.answers, answer.outcome = none := by
  cases h with
  | rest operation shows waiting running calls answers =>
    obtain ⟨hreleased, heq⟩ := shows.eq_some hget
    cases heq
    exact ⟨rfl, hreleased, waiting, running, calls, answers⟩
  | begun f lease call lent => cases (lent.shows.eq_some hget).2
  | called f lease call lent => cases (lent.shows.eq_some hget).2
  | ended outcome shows => cases (shows.eq_some hget).2

/-- A terminal writer has answered with its outcome. -/
theorem WriterStage.of_terminal {outcome : WriterOutcome Metadata}
    (h : WriterStage handle writer w)
    (hget : w.bridge.arena.get? handle = some (.writer (.terminal outcome))) :
    ∃ last, last ∈ w.answers ∧ last.outcome = some outcome := by
  cases h with
  | rest operation shows => cases (shows.eq_some hget).2
  | begun f lease call lent => cases (lent.shows.eq_some hget).2
  | called f lease call lent => cases (lent.shows.eq_some hget).2
  | ended outcome' shows waiting running calls answers =>
    cases (shows.eq_some hget).2
    obtain ⟨earlier, last, heq, hlast, -⟩ := answers
    refine ⟨last, ?_, hlast⟩
    rw [heq]
    exact List.mem_append_right _ (List.mem_singleton_self last)

/-- A repeated start is about an answer of the writer. -/
theorem repeats_of_start {state : WriterState W Metadata} {answer : Future O S W L}
    (h : WriterStage handle writer w)
    (hget : w.bridge.arena.get? handle = some (.writer state))
    (hrepeats : start.repeats state = some answer) : Repeats w.answers answer := by
  unfold WriterStart.repeats at hrepeats
  split at hrepeats
  · rename_i metadata
    cases hrepeats
    obtain ⟨last, hmem, hlast⟩ := h.of_terminal hget
    exact .inl ⟨metadata, rfl, InnerAnswer.outcome_finished.mp hlast ▸ hmem⟩
  · cases hrepeats
    obtain ⟨last, hmem, hlast⟩ := h.of_terminal hget
    exact .inr ⟨rfl, InnerAnswer.outcome_aborted.mp hlast ▸ hmem⟩
  · cases hrepeats

theorem sound_start (h : w.Sound handle writer) (lib : Library O) (start : WriterStart) :
    WriterWorld.Sound handle writer (w.started ((start.export handle).run w.bridge lib).2) := by
  obtain ⟨state, hshows⟩ := h.stage.exists_shows
  have hget : w.bridge.arena.get? handle = (heldState w.released state).map .writer := hshows
  have hquiet : ∀ s : BridgeState O S W L, s.spawned = w.bridge.spawned →
      s.arena = w.bridge.arena → WriterWorld.Sound handle writer (w.started s) := by
    intro s hspawned harena
    rw [started_quiet hspawned]
    apply h.aside _ h.repeats
    rw [harena]
    exact .refl h.valid h.issued
  cases hearly : start.early lib w.bridge
      (start.verdict handle (heldState w.released state) : Verdict O S W L) with
  | some e =>
    rw [start_early hget h.valid hearly]
    exact hquiet _ rfl rfl
  | none =>
    cases hverdict : (start.verdict handle (heldState w.released state) : Verdict O S W L) with
    | refuse e =>
      obtain ⟨s', hs', hrun⟩ := start_refused hget hearly hverdict
      rw [hrun]
      rcases hs' with rfl | rfl
      · exact hquiet _ rfl rfl
      · exact hquiet _ rfl rfl
    | lend inner =>
      obtain ⟨previous, hheld⟩ := verdict_lend hverdict
      obtain ⟨future, call, hcall, -, task, arena, hinsert, hrun⟩ :=
        start_lent hget h.valid hearly hverdict
      rw [hheld] at hget
      obtain ⟨rfl, hreleased, hwaiting, hrunning, hcalls, hanswers⟩ := h.stage.of_open hget
      have hres := get?_eq_some.mp hget
      have hwritten := h.valid.write (r := .writer (.busy (w.bridge.nextResourceOperation + 1))) hres
      have hissued := (h.valid.issued_write hres
        (.writer (.busy (w.bridge.nextResourceOperation + 1))) handle).mpr h.issued
      have hne : handle ≠ task := by
        rintro rfl
        exact (view_insert hwritten hinsert).1 hissued
      rw [hrun, started_leased (f := ⟨task, _, future, _⟩) rfl rfl]
      refine ⟨hwritten.insert hinsert, (hwritten.issued_insert hinsert handle).mpr (.inr hissued),
        h.repeats, ?_⟩
      refine .begun ⟨task, some ⟨handle, .writer, w.bridge.nextResourceOperation + 1⟩, future,
        w.bridge.forcePendingForCanary⟩ _ call ⟨rfl, rfl, rfl, ?_, ?_, hcall⟩ ?_ hrunning hcalls
        hanswers
      · show arena.get? handle = (heldState w.released _).map .writer
        rw [hwritten.get?_insert hinsert, if_neg hne, h.valid.get?_write hres, if_pos rfl,
          hreleased]
        rfl
      · show arena.get? task = _
        rw [hwritten.get?_insert hinsert, if_pos rfl]
      · show w.waiting ++ [_] = [_]
        rw [hwaiting, List.nil_append]
        rfl
    | repeats answer =>
      obtain ⟨state', hheld, hrepeats⟩ := verdict_repeats hverdict
      obtain ⟨task, arena, hinsert, hrun⟩ := start_repeated hget h.valid hearly hverdict
      rw [hheld] at hget
      rw [hrun, started_repeating (f := ⟨task, none, answer, _⟩) rfl rfl]
      apply h.aside (aside_insert h.valid h.issued hinsert)
      intro f hf
      rcases List.mem_append.mp hf with hf | hf
      · exact h.repeats f hf
      · rw [List.mem_singleton.mp hf]
        exact repeats_of_start h.stage hget hrepeats

theorem eraseIdx_of_getElem? {α : Type} {xs : List α} {x y : α} {i : Nat} (hxs : xs = [x])
    (h : xs[i]? = some y) : y = x ∧ xs.eraseIdx i = [] := by
  subst hxs
  cases i with
  | zero =>
    cases h
    exact ⟨rfl, rfl⟩
  | succ i => cases h

/-- A future calls the writer. -/
theorem sound_call (h : w.Sound handle writer) {i : Nat} (hstep : w.step handle (.call i) = some w') :
    w'.Sound handle writer := by
  unfold WriterWorld.step at hstep
  dsimp only at hstep
  cases hi : w.waiting[i]? with
  | none =>
    rw [hi] at hstep
    cases hstep
  | some f =>
    rw [hi] at hstep
    dsimp only at hstep
    cases h.stage with
    | rest operation shows waiting =>
      rw [waiting] at hi
      cases hi
    | called f' lease call lent waiting =>
      rw [waiting] at hi
      cases hi
    | ended outcome shows waiting =>
      rw [waiting] at hi
      cases hi
    | begun f' lease call lent waiting running calls answers =>
      obtain ⟨rfl, herase⟩ := eraseIdx_of_getElem? waiting hi
      rw [lent.calls] at hstep
      cases hstep
      refine ⟨h.valid, h.issued, h.repeats, .called f lease call ?_ herase ?_ ?_ answers⟩
      · exact ⟨lent.leased, lent.target, lent.ofWriter, lent.shows, lent.task, lent.calls⟩
      · show w.running ++ [f] = [f]
        rw [running, List.nil_append]
      · exact ⟨w.calls, rfl, calls⟩

theorem Repeats.append {answers : List InnerAnswer} {future : Future O S W L}
    (h : Repeats answers future) (answer : InnerAnswer) : Repeats (answers ++ [answer]) future := by
  rcases h with ⟨metadata, hfuture, hmem⟩ | ⟨hfuture, hmem⟩
  · exact .inl ⟨metadata, hfuture, List.mem_append_left _ hmem⟩
  · exact .inr ⟨hfuture, List.mem_append_left _ hmem⟩

/-- The answer of the writer is published. -/
theorem sound_publish (h : w.Sound handle writer) {i : Nat} {answer : InnerAnswer}
    (hstep : w.step handle (.publish i answer) = some w') : w'.Sound handle writer := by
  unfold WriterWorld.step at hstep
  dsimp only at hstep
  cases hi : w.running[i]? with
  | none =>
    rw [hi] at hstep
    cases hstep
  | some f =>
    rw [hi] at hstep
    dsimp only at hstep
    cases h.stage with
    | rest operation shows waiting running =>
      rw [running] at hi
      cases hi
    | begun f' lease call lent waiting running =>
      rw [running] at hi
      cases hi
    | ended outcome shows waiting running =>
      rw [running] at hi
      cases hi
    | called f' lease call lent waiting running calls answers =>
      obtain ⟨rfl, herase⟩ := eraseIdx_of_getElem? running hi
      rw [lent.leased] at hstep
      cases houtcome : f.future.outcome answer with
      | none =>
        rw [houtcome] at hstep
        cases hstep
      | some ended =>
        obtain ⟨update, completion⟩ := ended
        rw [houtcome] at hstep
        cases hstep
        obtain rfl := lent.target
        obtain ⟨arena, hpublish, hvalid, hissued, hstate, -⟩ :=
          publishOwnedResourceTask_writer h.valid h.issued lent.ofWriter lent.shows lent.task
            update completion
        rw [hpublish]
        have hrepeats : ∀ f ∈ w.repeating, Repeats (w.answers ++ [answer]) f.future :=
          fun f hf => (h.repeats f hf).append answer
        rcases outcome_update lent.calls houtcome with ⟨hnone, ⟨data, rfl⟩, rfl⟩ |
          ⟨outcome, hsome, rfl⟩
        · refine ⟨hvalid, hissued, hrepeats, .rest lease.operation hstate waiting herase ?_ ?_⟩
          · obtain ⟨earlier, heq, hearlier⟩ := calls
            intro call hcall
            have hmem : call ∈ w.calls := hcall
            rw [heq] at hmem
            rcases List.mem_append.mp hmem with hmem | hmem
            · exact hearlier call hmem
            · exact ⟨data, List.mem_singleton.mp hmem⟩
          · intro answer' hanswer
            rcases List.mem_append.mp hanswer with hmem | hmem
            · exact answers answer' hmem
            · rw [List.mem_singleton.mp hmem]
              exact hnone
        · obtain ⟨earlier, heq, hearlier⟩ := calls
          exact ⟨hvalid, hissued, hrepeats, .ended outcome hstate waiting herase
            ⟨earlier, call, heq, hearlier⟩ ⟨w.answers, answer, rfl, hsome, answers⟩⟩

theorem sound_release (h : w.Sound handle writer) (lib : Library O) :
    WriterWorld.Sound handle writer { w with
      bridge := ((Export.writerRelease handle).run w.bridge lib).2
      released := true } := by
  obtain ⟨state, hshows⟩ := h.stage.exists_shows
  have hget : w.bridge.arena.get? handle = (heldState w.released state).map .writer := hshows
  obtain ⟨arena, harena, hvalid, hissued, hgone, hothers⟩ :=
    @writerRelease_arena _ _ _ _ handle w.bridge lib w.released state h.valid h.issued hget
  have hvalid' : ((Export.writerRelease handle).run w.bridge lib).2.arena.Valid :=
    harena ▸ hvalid
  have hissued' : ((Export.writerRelease handle).run w.bridge lib).2.arena.Issued handle :=
    harena ▸ hissued
  have hgone' : ((Export.writerRelease handle).run w.bridge lib).2.arena.get? handle = none :=
    harena ▸ hgone
  refine ⟨hvalid', hissued', h.repeats, ?_⟩
  have hlent : ∀ f lease call, Lent handle writer w f lease call →
      Lent handle writer { w with
        bridge := ((Export.writerRelease handle).run w.bridge lib).2
        released := true } f lease call := by
    intro f lease call lent
    have hne : f.task ≠ handle := by
      rintro heq
      exact h.stage.no_task _ (heq ▸ lent.task)
    refine ⟨lent.leased, lent.target, lent.ofWriter, hgone', ?_, lent.calls⟩
    show ((Export.writerRelease handle).run w.bridge lib).2.arena.get? f.task = _
    rw [harena, hothers _ hne, lent.task]
  cases h.stage with
  | rest operation shows waiting running calls answers =>
    exact .rest operation hgone' waiting running calls answers
  | begun f lease call lent waiting running calls answers =>
    exact .begun f lease call (hlent f lease call lent) waiting running calls answers
  | called f lease call lent waiting running calls answers =>
    exact .called f lease call (hlent f lease call lent) waiting running calls answers
  | ended outcome shows waiting running calls answers =>
    exact .ended outcome hgone' waiting running calls answers

/-- One step of the writer or of something else on the bridge. -/
inductive WriterStep (handle : UInt32) (w : WriterWorld O S W L) : WriterWorld O S W L → Prop where
  | own {w' : WriterWorld O S W L} (event : WriterEvent O) (h : w.step handle event = some w') :
      WriterStep handle w w'
  | outside (s : BridgeState O S W L) (h : Aside handle w.bridge.arena s.arena) :
      WriterStep handle w { w with bridge := s }

theorem sound_step (h : w.Sound handle writer) (hstep : WriterStep handle w w') :
    w'.Sound handle writer := by
  cases hstep with
  | outside s hs => exact h.aside hs h.repeats
  | own event hstep =>
    cases event with
    | start lib start =>
      cases hstep
      exact sound_start h lib start
    | call i => exact sound_call h hstep
    | publish i answer => exact sound_publish h hstep
    | publishRepeated i =>
      unfold WriterWorld.step at hstep
      dsimp only at hstep
      split at hstep
      · cases hstep
      rename_i f hf
      split at hstep
      · cases hstep
      rename_i completion hcompletion
      cases hstep
      apply h.aside (aside_publishOwnedTask h.valid h.issued h.stage.no_task f.task completion)
      intro f' hf'
      exact h.repeats f' (List.mem_of_mem_eraseIdx hf')
    | taskTake lib task =>
      cases hstep
      exact h.aside (aside_taskTake h.valid h.issued h.stage.no_task task) h.repeats
    | release lib =>
      cases hstep
      exact sound_release h lib

end Step

end OpendalMbt.Bridge
