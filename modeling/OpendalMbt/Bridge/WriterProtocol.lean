import OpendalMbt.Bridge.ErrorSlot
import OpendalMbt.Bridge.WriterStages
import Mathlib.Logic.Relation

/-!
# The writer protocol of the bridge

One writer handle with its futures, under every order of starts, calls, publications, takes and
the release.

* `StartRefused`, `StartAnswered`, `StartAdmitted`: what a start does;
* `refused_of_verdict` and its companions: the state of the writer decides which;
* `sound_run`: every run keeps the stages apart;
* `writer_handle_protocol`: at most one close or abort, nothing after it, and what each start
  answers.
-/

namespace OpendalMbt.Bridge

open Arena Transition

variable {O S W L : Type}

/-! ## The protocol -/

section Protocol

variable (handle : UInt32) (writer : W) (lib : Library O) (w : WriterWorld O S W L)
variable (start : WriterStart)

def WriterWorld.reply : Reply := ((start.export handle).run w.bridge lib).1

/-- What a write checks before it looks at the writer. -/
def WriterStart.before (s : BridgeState O S W L) : WriterStart → Option BridgeError
  | .write data => writeRefusal lib.tryReserve data s
  | .finish | .abort => none

/-- The start records an error, `e` unless another comes first, and at most uses up a token. -/
def StartRefused (e : BridgeError) : Prop :=
  w.reply handle lib start = .handle 0 ∧
    ∃ s, (s = w.bridge ∨ s = w.bridge.allocated) ∧
      w.step handle (.start lib start) =
        some { w with bridge := recordError ((start.before lib w.bridge).getD e) s }

/-- The start is given a task of its own, if there is room, that ends with `answer`. -/
def StartAnswered (answer : Future O S W L) : Prop :=
  (∃ e, taskRefusal w.bridge = some e ∧ w.reply handle lib start = .handle 0 ∧
    w.step handle (.start lib start) = some { w with bridge := recordError e w.bridge }) ∨
  ∃ f s, taskRefusal w.bridge = none ∧ w.reply handle lib start = .handle f.task ∧
    f.future = answer ∧ s.arena.get? f.task = some (.task (.pending none)) ∧
    w.step handle (.start lib start) =
      some { w with bridge := s, repeating := w.repeating ++ [f] }

/-- The start is given a task with a lease, if there is room, whose future calls the writer. -/
def StartAdmitted : Prop :=
  (∃ e, (start.before lib w.bridge = some e ∨ leaseRefusal w.bridge = some e) ∧
    w.reply handle lib start = .handle 0 ∧
    w.step handle (.start lib start) = some { w with bridge := recordError e w.bridge }) ∨
  ∃ f s call, start.before lib w.bridge = none ∧ leaseRefusal w.bridge = none ∧
    w.reply handle lib start = .handle f.task ∧
    f.future.innerCall = some (writer, call) ∧ start.calls call = true ∧
    w.step handle (.start lib start) = some { w with bridge := s, waiting := w.waiting ++ [f] }

structure WriterProtocol : Prop where
  own : ∀ call ∈ w.calls, call.1 = writer
  /-- A close or an abort is the last call, and so the only one. -/
  last : w.calls.Pairwise fun earlier _ => ∃ data, earlier.2 = .write data
  one : (w.waiting ++ w.running).length ≤ 1
  rest : w.released = false → w.waiting ++ w.running = [] →
    (∀ answer ∈ w.answers, answer.outcome = none) → ∀ lib start, StartAdmitted handle writer lib w start
  busy : w.released = false → w.waiting ++ w.running ≠ [] →
    ∀ lib start, StartRefused handle lib w start (.resourceBusy handle)
  finished : w.released = false → ∀ metadata, .close (.ok metadata) ∈ w.answers → ∀ lib,
    StartAnswered handle lib w .finish (.writerFinished metadata) ∧
      StartRefused handle lib w .abort (.resourceClosed handle) ∧
      ∀ data, StartRefused handle lib w (.write data) (.resourceClosed handle)
  aborted : w.released = false → .abort (.ok ()) ∈ w.answers → ∀ lib,
    StartAnswered handle lib w .abort .writerAborted ∧
      StartRefused handle lib w .finish (.resourceClosed handle) ∧
      ∀ data, StartRefused handle lib w (.write data) (.resourceClosed handle)
  failed : w.released = false → ∀ answer ∈ w.answers, answer.outcome = some .failed →
    ∀ lib start, StartRefused handle lib w start (.resourceClosed handle)
  released : w.released = true → ∀ lib start, StartRefused handle lib w start (.invalidHandle handle)
  /-- What a repeated start is answered with is what the writer has answered. -/
  repeated : ∀ i f, w.repeating[i]? = some f →
    w.bridge.arena.get? f.task = some (.task (.pending none)) →
    ∃ completion w', w.step handle (.publishRepeated i) = some w' ∧ w'.calls = w.calls ∧
      w'.bridge.arena.get? f.task = some (.task (.ready completion none)) ∧
      ((∃ metadata, .close (.ok metadata) ∈ w.answers ∧
          completion = .writerFinish (.ok metadata)) ∨
        .abort (.ok ()) ∈ w.answers ∧ completion = .writerAbort (.ok ()))

end Protocol

section Proof

variable {handle : UInt32} {writer : W} {lib : Library O} {w : WriterWorld O S W L}
variable {start : WriterStart} {held : Option (WriterState W Metadata)}

theorem step_start : w.step handle (.start lib start) =
    some (w.started ((start.export handle).run w.bridge lib).2) := rfl

theorem refused_of_verdict {e : BridgeError} (h : w.Sound handle writer)
    (hget : w.bridge.arena.get? handle = held.map .writer)
    (hverdict : (start.verdict handle held : Verdict O S W L) = .refuse e) :
    StartRefused handle lib w start e := by
  have hearly : start.early lib w.bridge (start.verdict handle held : Verdict O S W L) =
      start.before lib w.bridge := by
    rw [hverdict]
    cases start <;> rfl
  unfold StartRefused WriterWorld.reply
  rw [step_start]
  cases hbefore : start.before lib w.bridge with
  | some e' =>
    rw [hbefore] at hearly
    rw [start_early hget h.valid hearly]
    dsimp only
    rw [started_quiet (s := recordError e' w.bridge) rfl]
    exact ⟨rfl, w.bridge, .inl rfl, rfl⟩
  | none =>
    rw [hbefore] at hearly
    obtain ⟨s, hs, hrun⟩ := start_refused hget hearly hverdict
    have hspawned : (recordError e s).spawned = w.bridge.spawned := by
      rcases hs with rfl | rfl <;> rfl
    rw [hrun, started_quiet hspawned]
    exact ⟨rfl, s, hs, rfl⟩

theorem answeredBy_of_verdict {answer : Future O S W L} (h : w.Sound handle writer)
    (hget : w.bridge.arena.get? handle = held.map .writer)
    (hverdict : start.verdict handle held = .repeats answer) :
    StartAnswered handle lib w start answer := by
  have hearly : start.early lib w.bridge (start.verdict handle held : Verdict O S W L) =
      taskRefusal w.bridge := by
    rw [hverdict]
    obtain ⟨state, -, hrepeats⟩ := verdict_repeats hverdict
    cases start with
    | write data => cases hrepeats
    | finish => rfl
    | abort => rfl
  unfold StartAnswered WriterWorld.reply
  rw [step_start]
  cases hrefusal : taskRefusal w.bridge with
  | some e =>
    rw [hrefusal] at hearly
    rw [start_early hget h.valid hearly]
    dsimp only
    rw [started_quiet (s := recordError e w.bridge) rfl]
    exact .inl ⟨e, rfl, rfl, rfl⟩
  | none =>
    rw [hrefusal] at hearly
    obtain ⟨task, arena, hinsert, hrun⟩ := start_repeated hget h.valid hearly hverdict
    rw [hrun, started_repeating (f := ⟨task, none, answer, w.bridge.forcePendingForCanary⟩) rfl rfl]
    refine .inr ⟨_, _, rfl, rfl, rfl, ?_, rfl⟩
    show arena.get? task = _
    rw [h.valid.get?_insert hinsert, if_pos rfl]

theorem admitted_of_verdict (h : w.Sound handle writer)
    (hget : w.bridge.arena.get? handle = held.map .writer)
    (hverdict : (start.verdict handle held : Verdict O S W L) = .lend writer) :
    StartAdmitted handle writer lib w start := by
  unfold StartAdmitted WriterWorld.reply
  rw [step_start]
  cases hearly : start.early lib w.bridge (start.verdict handle held : Verdict O S W L) with
  | some e =>
    rw [start_early hget h.valid hearly]
    dsimp only
    rw [started_quiet (s := recordError e w.bridge) rfl]
    refine .inl ⟨e, ?_, rfl, rfl⟩
    rw [hverdict] at hearly
    cases start with
    | write data => exact .inl hearly
    | finish => exact .inr hearly
    | abort => exact .inr hearly
  | none =>
    obtain ⟨future, call, hcall, hstart, task, arena, hinsert, hrun⟩ :=
      start_lent hget h.valid hearly hverdict
    rw [hverdict] at hearly
    have hchecks : start.before lib w.bridge = none ∧ leaseRefusal w.bridge = none := by
      cases start with
      | write data =>
        obtain ⟨chunk, -, hlease⟩ := exists_chunk hearly
        exact ⟨hearly, hlease⟩
      | finish => exact ⟨rfl, hearly⟩
      | abort => exact ⟨rfl, hearly⟩
    rw [hrun, started_leased (f := ⟨task, some ⟨handle, .writer,
      w.bridge.nextResourceOperation + 1⟩, future, w.bridge.forcePendingForCanary⟩) rfl rfl]
    exact .inr ⟨_, _, call, hchecks.1, hchecks.2, rfl, hcall, hstart, rfl⟩

theorem WriterWorld.Shows.there {state : WriterState W Metadata} (h : w.Shows handle state)
    (hreleased : w.released = false) :
    w.bridge.arena.get? handle = (some state).map .writer := by
  have hget : w.bridge.arena.get? handle = (heldState w.released state).map .writer := h
  rw [hreleased] at hget
  exact hget

theorem WriterWorld.Shows.gone {state : WriterState W Metadata} (h : w.Shows handle state)
    (hreleased : w.released = true) :
    w.bridge.arena.get? handle = (none : Option (WriterState W Metadata)).map .writer := by
  have hget : w.bridge.arena.get? handle = (heldState w.released state).map .writer := h
  rw [hreleased] at hget
  exact hget

/-- The writer is lent while a future has it. -/
theorem WriterStage.of_lent (h : WriterStage handle writer w)
    (hlent : w.waiting ++ w.running ≠ []) : ∃ operation, w.Shows handle (.busy operation) := by
  cases h with
  | rest operation shows waiting running =>
    rw [waiting, running] at hlent
    exact absurd rfl hlent
  | begun f lease call lent => exact ⟨_, lent.shows⟩
  | called f lease call lent => exact ⟨_, lent.shows⟩
  | ended outcome shows waiting running =>
    rw [waiting, running] at hlent
    exact absurd rfl hlent

theorem WriterStage.of_rest (h : WriterStage handle writer w) (hrest : w.waiting ++ w.running = [])
    (hanswers : ∀ answer ∈ w.answers, answer.outcome = none) :
    ∃ operation, w.Shows handle (.open writer operation) := by
  cases h with
  | rest operation shows => exact ⟨operation, shows⟩
  | begun f lease call lent waiting =>
    rw [waiting] at hrest
    cases hrest
  | called f lease call lent waiting running =>
    rw [waiting, running] at hrest
    cases hrest
  | ended outcome shows waiting running calls answers =>
    obtain ⟨earlier, last, heq, hlast, -⟩ := answers
    have hnone : last.outcome = none := by
      apply hanswers
      rw [heq]
      exact List.mem_append_right _ (List.mem_singleton_self last)
    rw [hlast] at hnone
    cases hnone

/-- The answer that ends a writer is its outcome from then on. -/
theorem WriterStage.of_answer {answer : InnerAnswer} {outcome : WriterOutcome Metadata}
    (h : WriterStage handle writer w) (hmem : answer ∈ w.answers)
    (houtcome : answer.outcome = some outcome) : w.Shows handle (.terminal outcome) := by
  have hnone : (∀ answer ∈ w.answers, answer.outcome = none) →
      w.Shows handle (.terminal outcome) := by
    intro answers
    rw [answers answer hmem] at houtcome
    cases houtcome
  cases h with
  | rest operation shows waiting running calls answers => exact hnone answers
  | begun f lease call lent waiting running calls answers => exact hnone answers
  | called f lease call lent waiting running calls answers => exact hnone answers
  | ended outcome' shows waiting running calls answers =>
    obtain ⟨earlier, last, heq, hlast, hearlier⟩ := answers
    rw [heq] at hmem
    rcases List.mem_append.mp hmem with hmem | hmem
    · rw [hearlier answer hmem] at houtcome
      cases houtcome
    · rw [List.mem_singleton.mp hmem, hlast] at houtcome
      cases houtcome
      exact shows

/-- The writes come first; at most one other call follows. -/
theorem WriterStage.calls_shape (h : WriterStage handle writer w) :
    Writes writer w.calls ∨
      ∃ earlier call, w.calls = earlier ++ [(writer, call)] ∧ Writes writer earlier := by
  cases h with
  | rest operation shows waiting running calls => exact .inl calls
  | begun f lease call lent waiting running calls => exact .inl calls
  | called f lease call lent waiting running calls =>
    obtain ⟨earlier, heq, hearlier⟩ := calls
    exact .inr ⟨earlier, call, heq, hearlier⟩
  | ended outcome shows waiting running calls => exact .inr calls

theorem pairwise_of_writes {calls : List (W × InnerCall)} (h : Writes writer calls) :
    calls.Pairwise fun earlier _ => ∃ data, earlier.2 = .write data := by
  apply List.pairwise_of_forall_mem_list
  intro earlier hmem _ _
  obtain ⟨data, rfl⟩ := h earlier hmem
  exact ⟨data, rfl⟩

theorem WriterStage.calls_own (h : WriterStage handle writer w) :
    ∀ call ∈ w.calls, call.1 = writer := by
  intro call hcall
  rcases h.calls_shape with hwrites | ⟨earlier, last, heq, hearlier⟩
  · obtain ⟨data, rfl⟩ := hwrites call hcall
    rfl
  · rw [heq] at hcall
    rcases List.mem_append.mp hcall with hcall | hcall
    · obtain ⟨data, rfl⟩ := hearlier call hcall
      rfl
    · rw [List.mem_singleton.mp hcall]

theorem WriterStage.calls_last (h : WriterStage handle writer w) :
    w.calls.Pairwise fun earlier _ => ∃ data, earlier.2 = .write data := by
  rcases h.calls_shape with hwrites | ⟨earlier, last, heq, hearlier⟩
  · exact pairwise_of_writes hwrites
  · rw [heq]
    refine List.pairwise_append.mpr ⟨pairwise_of_writes hearlier, List.pairwise_singleton _ _, ?_⟩
    intro call hcall _ _
    obtain ⟨data, rfl⟩ := hearlier call hcall
    exact ⟨data, rfl⟩

theorem WriterStage.one (h : WriterStage handle writer w) :
    (w.waiting ++ w.running).length ≤ 1 := by
  cases h with
  | rest operation shows waiting running => simp [waiting, running]
  | begun f lease call lent waiting running => simp [waiting, running]
  | called f lease call lent waiting running => simp [waiting, running]
  | ended outcome shows waiting running => simp [waiting, running]

/-- A repeated outcome is published to its task, without a call. -/
theorem publishRepeated_ready (h : w.Sound handle writer) {i : Nat} {f : Spawned O S W L}
    (hf : w.repeating[i]? = some f)
    (htask : w.bridge.arena.get? f.task = some (.task (.pending none))) :
    ∃ completion w', w.step handle (.publishRepeated i) = some w' ∧ w'.calls = w.calls ∧
      w'.bridge.arena.get? f.task = some (.task (.ready completion none)) ∧
      ((∃ metadata, .close (.ok metadata) ∈ w.answers ∧
          completion = .writerFinish (.ok metadata)) ∨
        .abort (.ok ()) ∈ w.answers ∧ completion = .writerAbort (.ok ())) := by
  have hready : ∀ completion : Completion S W L,
      (publishOwnedTask f.task completion w.bridge).arena.get? f.task =
        some (.task (.ready completion none)) := by
    intro completion
    unfold publishOwnedTask
    rw [ownedTask_eq_ok.mpr htask]
    show (w.bridge.arena.write f.task _).get? f.task = _
    rw [h.valid.get?_write (get?_eq_some.mp htask), if_pos rfl]
  rcases h.repeats f (List.mem_of_getElem? hf) with ⟨metadata, hfuture, hmem⟩ | ⟨hfuture, hmem⟩
  · refine ⟨.writerFinish (.ok metadata), { w with
      bridge := publishOwnedTask f.task (.writerFinish (.ok metadata)) w.bridge
      repeating := w.repeating.eraseIdx i }, ?_, rfl, hready _, .inl ⟨metadata, hmem, rfl⟩⟩
    simp only [WriterWorld.step, hf, hfuture, Future.repeated]
  · refine ⟨.writerAbort (.ok ()), { w with
      bridge := publishOwnedTask f.task (.writerAbort (.ok ())) w.bridge
      repeating := w.repeating.eraseIdx i }, ?_, rfl, hready _, .inr ⟨hmem, rfl⟩⟩
    simp only [WriterWorld.step, hf, hfuture, Future.repeated]

theorem WriterWorld.Sound.protocol (h : w.Sound handle writer) : WriterProtocol handle writer w where
  own := h.stage.calls_own
  last := h.stage.calls_last
  one := h.stage.one
  rest := by
    intro hreleased hrest hanswers lib start
    obtain ⟨operation, hshows⟩ := h.stage.of_rest hrest hanswers
    exact admitted_of_verdict h (hshows.there hreleased) rfl
  busy := by
    intro hreleased hlent lib start
    obtain ⟨operation, hshows⟩ := h.stage.of_lent hlent
    exact refused_of_verdict h (hshows.there hreleased) rfl
  finished := by
    intro hreleased metadata hmem lib
    have hget := (h.stage.of_answer hmem rfl).there hreleased
    exact ⟨answeredBy_of_verdict h hget rfl, refused_of_verdict h hget rfl,
      fun data => refused_of_verdict h hget rfl⟩
  aborted := by
    intro hreleased hmem lib
    have hget := (h.stage.of_answer hmem rfl).there hreleased
    exact ⟨answeredBy_of_verdict h hget rfl, refused_of_verdict h hget rfl,
      fun data => refused_of_verdict h hget rfl⟩
  failed := by
    intro hreleased answer hmem hfailed lib start
    have hget := (h.stage.of_answer hmem hfailed).there hreleased
    apply refused_of_verdict h hget
    cases start <;> rfl
  released := by
    intro hreleased lib start
    obtain ⟨state, hshows⟩ := h.stage.exists_shows
    exact refused_of_verdict h (hshows.gone hreleased) rfl
  repeated _ _ hf htask := publishRepeated_ready h hf htask

theorem sound_opened {s : BridgeState O S W L} (hvalid : s.arena.Valid) {operation : UInt64}
    (hget : s.arena.get? handle = some (.writer (.open writer operation))) :
    WriterWorld.Sound handle writer { bridge := s } where
  valid := hvalid
  issued := hvalid.issued_of_get? hget
  repeats f hf := by cases hf
  stage := by
    refine .rest operation hget rfl rfl ?_ ?_
    · intro call hcall
      cases hcall
    · intro answer hanswer
      cases hanswer

theorem sound_run {w' : WriterWorld O S W L} (h : w.Sound handle writer)
    (hrun : Relation.ReflTransGen (WriterStep handle) w w') : w'.Sound handle writer := by
  induction hrun with
  | refl => exact h
  | tail _ hstep ih => exact sound_step ih hstep

/-- What a writer handle answers, in every run from an open writer. -/
theorem writer_handle_protocol {s : BridgeState O S W L} {operation : UInt64} (hvalid : s.arena.Valid)
    (hget : s.arena.get? handle = some (.writer (.open writer operation)))
    (hrun : Relation.ReflTransGen (WriterStep handle) { bridge := s } w) :
    WriterProtocol handle writer w :=
  (sound_run (sound_opened hvalid hget) hrun).protocol

theorem writerStep_run {events : List (WriterEvent O)} {w' : WriterWorld O S W L}
    (h : run (WriterWorld.step handle) w events = some w') :
    Relation.ReflTransGen (WriterStep handle) w w' := by
  induction events generalizing w with
  | nil =>
    cases h
    exact .refl
  | cons event events ih =>
    obtain ⟨t, hstep, hrest⟩ := run_cons_eq_some.mp h
    exact .head (.own event hstep) (ih hrest)

end Proof

/-! ## A finished writer -/

/-- An instance with an open writer, under 65537. -/
def openedWriter : BridgeState Empty Empty Unit Empty :=
  { arena := { slots := [⟨1, some (.writer (.open () 0))⟩], live := 1 } }

theorem openedWriter_valid : openedWriter.arena.Valid :=
  valid_empty.insert (show Arena.insert {} (OwnedResource.writer (.open () 0)) =
    (.ok 65537, openedWriter.arena) from rfl)

def finishedMetadata : Metadata where
  mode := .file
  isCurrent := none
  isDeleted := false
  contentLength := 0
  lastModified := none
  cacheControl := none
  contentDisposition := none
  contentEncoding := none
  contentMd5 := none
  contentType := none
  etag := none
  version := none

/-- A finish that the writer has answered. -/
def finishEvents : List (WriterEvent Empty) :=
  [.start emptyLibrary .finish, .call 0, .publish 0 (.close (.ok finishedMetadata))]

theorem writer_handle_protocol_finished : ∃ w : WriterWorld Empty Empty Unit Empty,
    .close (.ok finishedMetadata) ∈ w.answers ∧ WriterProtocol 65537 () w :=
  ⟨_, List.mem_singleton_self _, writer_handle_protocol openedWriter_valid rfl
    (writerStep_run (show run (WriterWorld.step 65537) { bridge := openedWriter } finishEvents =
      some _ from rfl))⟩

/-- A write that names no data is refused for that while a call is in flight, and a finish that is
repeated after the release is refused. -/
theorem writer_handle_protocol_fails :
    (∃ w : WriterWorld Empty Empty Unit Empty,
      Relation.ReflTransGen (WriterStep 65537) { bridge := openedWriter } w ∧
        w.released = false ∧ w.running ≠ [] ∧
        ∃ w', w.step 65537 (.start emptyLibrary (.write 0)) = some w' ∧
          w'.bridge.lastError = some (.invalidHandle 0)) ∧
    ∃ w : WriterWorld Empty Empty Unit Empty,
      Relation.ReflTransGen (WriterStep 65537) { bridge := openedWriter } w ∧
        .close (.ok finishedMetadata) ∈ w.answers ∧
        w.reply 65537 emptyLibrary .finish = .handle 0 := by
  constructor
  · refine ⟨_, writerStep_run (show run (WriterWorld.step 65537) { bridge := openedWriter }
      [.start emptyLibrary .finish, .call 0] = some _ from rfl), rfl, ?_, _, rfl, rfl⟩
    exact List.cons_ne_nil _ _
  · exact ⟨_, writerStep_run (show run (WriterWorld.step 65537) { bridge := openedWriter }
      (finishEvents ++ [.release emptyLibrary]) = some _ from rfl),
      List.mem_singleton_self _, rfl⟩

end OpendalMbt.Bridge
