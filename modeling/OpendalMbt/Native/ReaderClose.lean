import OpendalMbt.Native.ReaderProtocol

/-!
# The close of a reader

What a run leaves of a reader, and what a read finds that starts after a close has returned. Such a
read never gets in. Its range is checked before the state is looked at, so that a suffix which the
backend does not have, or a size over the limit, is what the read complains about.

* `Later`: what every later state has in common with a state;
* `Obeys`: what holds in the middle of any calls;
* `afterClose`: a read after a close;
* `reader_protocol`: all of it, over every run.
-/

namespace OpendalMbt.Native.ReaderSystem

open Transition

/-! ## What closes a reader -/

/-- A closed reader was closed by `reader_close`, or by a read that panicked. -/
def Blamed (s : ReaderSystem) : Prop :=
  s.state = .closed →
    (∃ c ∈ s.calls, c.call = .close) ∨ ∃ i, .finished i .panic ∈ s.log

/-- What stays of a state: what was called, and that it is closed. -/
structure Later (s t : ReaderSystem) : Prop where
  base : t.readWithSuffix = s.readWithSuffix
  calls : ∀ (i : Nat) (c : ReaderThread), s.calls[i]? = some c →
    ∃ c', t.calls[i]? = some c' ∧ c'.call = c.call
  log : ∀ m ∈ s.log, m ∈ t.log
  closed : s.state = .closed → t.state = .closed
  /-- Nobody gets in any more. -/
  barred : s.state = .closed → ∀ i, .admitted i ∈ t.log → .admitted i ∈ s.log

section Later

variable {s t u : ReaderSystem} {e : ReaderEvent} {events : List ReaderEvent}

theorem Later.refl (s : ReaderSystem) : Later s s where
  base := rfl
  calls := fun _ c hc => ⟨c, hc, rfl⟩
  log := fun _ hm => hm
  closed := id
  barred := fun _ _ hm => hm

theorem Later.trans (h : Later s t) (h' : Later t u) : Later s u where
  base := h'.base.trans h.base
  calls := by
    intro i c hc
    obtain ⟨c', hc', hcall⟩ := h.calls i c hc
    obtain ⟨c'', hc'', hcall'⟩ := h'.calls i c' hc'
    exact ⟨c'', hc'', hcall'.trans hcall⟩
  log := fun m hm => h'.log m (h.log m hm)
  closed := fun hs => h'.closed (h.closed hs)
  barred := fun hs i hi => h.barred hs i (h'.barred (h.closed hs) i hi)

/-- The calls and the log of a turn. -/
theorem later_moved {i : Nat} {c : ReaderThread} {turn : ReaderTurn} (hc : s.calls[i]? = some c)
    (hclosed : s.state = .closed → turn.state = .closed)
    (hbarred : s.state = .closed → ∀ j, .admitted j ∉ turn.moments) :
    Later s (s.moved i c turn) where
  base := rfl
  calls := by
    intro j c' hc'
    rw [getElem?_moved hc]
    split_ifs with hj
    · subst hj
      rw [hc] at hc'
      cases hc'
      exact ⟨_, rfl, rfl⟩
    · exact ⟨c', hc', rfl⟩
  log := fun m hm => List.mem_append_right turn.moments hm
  closed := hclosed
  barred := by
    intro hs j hj
    rcases List.mem_append.mp hj with hj | hj
    · exact absurd hj (hbarred hs j)
    · exact hj

theorem later_step (hstep : s.step e = some t) : Later s t := by
  rcases step_cases hstep with ⟨call, rfl, rfl⟩ | ⟨i, c, action, turn, rfl, hc, hact, rfl⟩
  · exact {
      base := rfl
      calls := by
        intro j c hc
        have hlt := (List.getElem?_eq_some_iff.mp hc).1
        refine ⟨c, ?_, rfl⟩
        rw [getElem?_entered, if_neg (Nat.ne_of_lt hlt)]
        exact hc
      log := fun _ hm => hm
      closed := id
      barred := fun _ _ hm => hm }
  · cases moves_of_act hact with
    | enters hphase hopen =>
      apply later_moved hc
      · intro hclosed
        rw [hopen] at hclosed
        cases hclosed
      · intro hclosed
        rw [hopen] at hclosed
        cases hclosed
    | enter | lockShared | poisoned | lockExclusive | unlock | leave =>
      exact later_moved hc id fun _ _ => List.not_mem_nil
    | refuse | shutAgain => exact later_moved hc (fun _ => rfl) fun _ _ => List.not_mem_nil
    | finish hphase outcome =>
      apply later_moved hc id
      intro _ j hj
      cases List.mem_singleton.mp hj
    | shut =>
      apply later_moved hc fun _ => rfl
      intro _ j hj
      cases List.mem_singleton.mp hj
    | drop =>
      apply later_moved hc id
      intro _ j hj
      cases List.mem_singleton.mp hj

theorem later_run (hrun : run step s events = some t) : Later s t :=
  Preserves.run (I := Later s) (fun _ _ _ hstep h => h.trans (later_step hstep)) (.refl s) hrun

theorem Blamed.later (h : Blamed s) (hlater : Later s t) (hstate : t.state = s.state) :
    Blamed t := by
  intro hclosed
  rw [hstate] at hclosed
  rcases h hclosed with ⟨c, hc, hcall⟩ | ⟨i, hi⟩
  · obtain ⟨i, hi⟩ := List.mem_iff_getElem?.mp hc
    obtain ⟨c', hc', hcall'⟩ := hlater.calls i c hi
    exact .inl ⟨c', List.mem_of_getElem? hc', hcall'.trans hcall⟩
  · exact .inr ⟨i, hlater.log _ hi⟩

theorem blamed_step (hstep : s.step e = some t) (hsound : Sound s) (h : Blamed s) : Blamed t := by
  have hlater := later_step hstep
  rcases step_cases hstep with ⟨call, rfl, rfl⟩ | ⟨i, c, action, turn, rfl, hc, hact, rfl⟩
  · exact h.later hlater rfl
  · cases moves_of_act hact with
    | shut hphase hopen =>
      have hcause := hsound.fits_of hc hphase
      intro _
      cases hcall : c.call with
      | close =>
        obtain ⟨c', hc', hcall'⟩ := hlater.calls i c hc
        exact .inl ⟨c', List.mem_of_getElem? hc', hcall'.trans hcall⟩
      | read pointer maxOutputLen =>
        rw [hcall] at hcause
        cases hcause with
        | panic asks finished => exact .inr ⟨i, hlater.log _ finished⟩
    | enters hphase hopen => exact h.later hlater hopen.symm
    | refuse hphase hclosed => exact h.later hlater hclosed.symm
    | shutAgain hphase hclosed => exact h.later hlater hclosed.symm
    | enter | lockShared | poisoned | finish | lockExclusive | unlock | drop | leave =>
      exact h.later hlater rfl

theorem blamed_run {readWithSuffix : Bool} (hrun : run step (opened readWithSuffix) events = some s) :
    Blamed s := by
  have hpreserves : Preserves step fun s => Sound s ∧ Blamed s :=
    Preserves.and (fun _ _ _ hstep => sound_step hstep) fun _ _ _ hstep => blamed_step hstep
  exact (hpreserves.run ⟨sound_opened readWithSuffix, nofun⟩ hrun).2

end Later

/-! ## The protocol -/

/-- A reader in the middle of any calls. -/
structure Obeys (s : ReaderSystem) : Prop where
  /-- When the close takes effect every read that was admitted has finished. -/
  drained : s.state = .closed → ∀ i, .admitted i ∈ s.log → ∃ outcome, .finished i outcome ∈ s.log
  /-- The inner reader is used, then closed, then dropped, once each. -/
  ordered : s.state = .open ∧ Uses s.log ∨ s.state = .closed ∧ ∃ uses, Uses uses ∧
    (s.log = .shut :: uses ∨ s.log = .dropped :: .shut :: uses)
  dropped : s.state = .closed → (∀ c ∈ s.calls, ∃ reply, c.phase = .returned reply) →
    .dropped ∈ s.log
  /-- A read that got in has the result of its own inner read. -/
  replies : ∀ (i : Nat) (c : ReaderThread) reply, s.calls[i]? = some c → c.phase = .returned reply →
    Settled s.readWithSuffix s.state s.log i c.call reply
  once : ∀ i outcome outcome', .finished i outcome ∈ s.log → .finished i outcome' ∈ s.log →
    outcome = outcome'
  blamed : Blamed s

theorem Sound.obeys {s : ReaderSystem} (h : Sound s) (hblamed : Blamed s) : Obeys s where
  drained := by
    intro hclosed i hi
    rcases h.admitted i hi with ⟨range, hreading⟩ | hfinished
    · have hopen := h.open_of_reading hreading
      rw [hclosed] at hopen
      cases hopen
    · exact hfinished
  ordered := by
    have hlifetime := h.lifetime
    cases hstate : s.state with
    | «open» =>
      rw [hstate] at hlifetime
      cases hlifetime with
      | stored uses none => exact .inl ⟨rfl, uses⟩
    | closed =>
      rw [hstate] at hlifetime
      cases hlifetime with
      | taken log_eq uses i holder => exact .inr ⟨rfl, _, uses, .inl log_eq⟩
      | dropped log_eq uses none => exact .inr ⟨rfl, _, uses, .inr log_eq⟩
  dropped := by
    intro hclosed hdone
    have hlifetime := h.lifetime
    rw [hclosed] at hlifetime
    cases hlifetime with
    | dropped log_eq uses none =>
      rw [log_eq]
      exact List.mem_cons_self
    | taken log_eq uses i holder =>
      have hholds : s.Holds i := (holder i).mpr rfl
      unfold Holds phase? at hholds
      cases hc : s.calls[i]? with
      | none =>
        rw [hc] at hholds
        exact hholds.elim
      | some c =>
        obtain ⟨reply, hphase⟩ := hdone c (List.mem_of_getElem? hc)
        rw [hc] at hholds
        change c.phase.HasInner at hholds
        rw [hphase] at hholds
        exact hholds.elim
  replies := fun _ _ _ hc hphase => h.fits_of hc hphase
  once := h.once
  blamed := hblamed

/-- An inner read that fails. -/
theorem finish_error {s t : ReaderSystem} {i : Nat} {failure : CallFailure}
    (hstep : s.step (.act i (.finish (.error failure))) = some t) :
    t.state = s.state ∧ ∀ j, j ≠ i → t.calls[j]? = s.calls[j]? := by
  rcases step_cases hstep with ⟨call, hevent, -⟩ | ⟨i', c, action, turn, hevent, hc, hact, rfl⟩
  · cases hevent
  · cases hevent
    cases moves_of_act hact with
    | finish hphase =>
      refine ⟨rfl, fun j hj => ?_⟩
      rw [getElem?_moved hc, if_neg hj]

/-! ## Reads after a close -/

/-- A `reader_close` has returned. -/
def HasClosed (s : ReaderSystem) : Prop :=
  ∃ c ∈ s.calls, c.call = .close ∧ ∃ reply, c.phase = .returned reply

/-- The range asks for nothing that the backend or the limit rule out. -/
def Admissible (readWithSuffix : Bool) (range : BytesRange) (maxOutputLen : UInt64) : Prop :=
  ensureSuffixIsNative range readWithSuffix = .ok () ∧
    Entry.checkRangeSize range (Entry.negotiatedLimit maxOutputLen) = .ok ()

theorem ensureSuffixIsNative_error {range : BytesRange} {readWithSuffix : Bool}
    {failure : CallFailure} (h : ensureSuffixIsNative range readWithSuffix = .error failure) :
    failure = unsupported "suffix reads require native backend range support" := by
  unfold ensureSuffixIsNative at h
  split at h
  · cases h
    rfl
  · cases h

theorem checkRangeSize_error {range : BytesRange} {limit : UInt64} {failure : CallFailure}
    (h : Entry.checkRangeSize range limit = .error failure) :
    failure = bufferTooLarge "reader range exceeds the negotiated output limit" := by
  unfold Entry.checkRangeSize at h
  split at h
  · split_ifs at h
    cases h
    rfl
  · split_ifs at h
    cases h
    rfl
  · cases h

theorem failedWith_injective {failure failure' : CallFailure}
    (h : failedWith failure = failedWith failure') : failure = failure' := by
  have hreply := Option.some.inj h
  have herror : (finishFailure failure).2 = (finishFailure failure').2 :=
    congrArg Reply.error hreply
  cases failure with
  | abiMismatch =>
    cases failure' with
    | abiMismatch => rfl
    | error error => cases herror
  | error error =>
    cases failure' with
    | abiMismatch => cases herror
    | error error' =>
      cases herror
      rfl

section AfterClose

variable {readWithSuffix : Bool} {pointer : Pointer ByteRangeV1} {carrier : ByteRangeV1}
  {range : BytesRange} {maxOutputLen : UInt64}

variable (readWithSuffix maxOutputLen) in
/-- A valid range passes the checks, or fails with an error that is not that of a close. -/
theorem readerRange_valid (hpointer : Entry.readRequired pointer = .ok carrier)
    (hrange : parseRange BytesRange.api carrier = .ok range) :
    Admissible readWithSuffix range maxOutputLen ∧
        (Entry.readerRange readWithSuffix pointer maxOutputLen {}).1 = .ok range ∨
      ¬ Admissible readWithSuffix range maxOutputLen ∧
        ∃ failure, (Entry.readerRange readWithSuffix pointer maxOutputLen {}).1 =
          .error (.failure failure) ∧ failure ≠ Entry.readerClosed := by
  have hchecked := readerRange_eq readWithSuffix pointer maxOutputLen
  rw [hpointer, CallResult.bind_of_ok rfl, hrange, CallResult.bind_of_ok rfl] at hchecked
  cases hsuffix : ensureSuffixIsNative range readWithSuffix with
  | error failure =>
    right
    rw [hsuffix] at hchecked
    refine ⟨fun h => ?_, failure, hchecked, ?_⟩
    · rw [h.1] at hsuffix
      cases hsuffix
    · rw [ensureSuffixIsNative_error hsuffix]
      intro heq
      injection heq with heq
      injection heq with hkind
      revert hkind
      decide
  | ok value =>
    rw [hsuffix, CallResult.bind_of_ok rfl] at hchecked
    cases hsize : Entry.checkRangeSize range (Entry.negotiatedLimit maxOutputLen) with
    | error failure =>
      right
      rw [hsize] at hchecked
      refine ⟨fun h => ?_, failure, hchecked, ?_⟩
      · rw [h.2] at hsize
        cases hsize
      · rw [checkRangeSize_error hsize]
        intro heq
        injection heq with heq
        injection heq with hkind
        revert hkind
        decide
    | ok value' =>
      left
      rw [hsize] at hchecked
      exact ⟨⟨hsuffix, hsize⟩, hchecked⟩

theorem closed_of_hasClosed {s : ReaderSystem} (hsound : Sound s) (h : HasClosed s) :
    s.state = .closed := by
  obtain ⟨c, hc, hcall, reply, hphase⟩ := h
  obtain ⟨i, hi⟩ := List.mem_iff_getElem?.mp hc
  have hsettled := hsound.fits_of hi hphase
  rw [hcall] at hsettled
  cases hsettled with
  | close closed => exact closed
  | refused asks closed outside => exact closed
  | read asks finished closed =>
    obtain ⟨pointer, maxOutputLen, hread, -⟩ := asks
    cases hread

/-- A read of a valid range that starts when a close has returned never gets in. It fails with
`ResourceClosed` unless its range is refused before. -/
theorem afterClose {s t u : ReaderSystem} {events : List ReaderEvent} (hsound : Sound s)
    (hclosed : HasClosed s) (hpointer : Entry.readRequired pointer = .ok carrier)
    (hrange : parseRange BytesRange.api carrier = .ok range)
    (henter : s.step (.enter (.read pointer maxOutputLen)) = some t)
    (hrun : run step t events = some u) :
    .admitted s.calls.length ∉ u.log ∧
      ∀ reply, u.phase? s.calls.length = some (.returned reply) →
        (reply = failedWith Entry.readerClosed ↔
          Admissible s.readWithSuffix range maxOutputLen) := by
  have hstate := closed_of_hasClosed hsound hclosed
  have hlater : Later s u := (later_step henter).trans (later_run hrun)
  have hafter : Later t u := later_run hrun
  have husound : Sound u :=
    Preserves.run (fun _ _ _ hstep => sound_step hstep) (sound_step henter hsound) hrun
  have houtside : .admitted s.calls.length ∉ u.log := by
    intro hmem
    exact Nat.lt_irrefl _ (hsound.made _ (hlater.barred hstate _ hmem))
  refine ⟨houtside, ?_⟩
  intro reply hphase
  obtain ⟨c, hc, hreturned⟩ := Option.map_eq_some_iff.mp hphase
  have hcall : c.call = .read pointer maxOutputLen := by
    have hnew : t.calls[s.calls.length]? = some ⟨.read pointer maxOutputLen, .entering⟩ := by
      cases henter
      rw [getElem?_entered, if_pos rfl]
    obtain ⟨c', hc', hcall⟩ := hafter.calls _ _ hnew
    rw [hc] at hc'
    cases hc'
    exact hcall
  have hsettled := husound.fits_of hc hreturned
  have hvalid := readerRange_valid s.readWithSuffix maxOutputLen hpointer hrange
  rw [hcall, hlater.base] at hsettled
  generalize hsubject : ReaderCall.read pointer maxOutputLen = call at hsettled
  cases hsettled with
  | close closed => cases hsubject
  | checked fails outside =>
    cases hsubject
    rcases hvalid with ⟨hadmissible, hpasses⟩ | ⟨hnot, failure, hfails, hne⟩
    · rw [hpasses] at fails
      cases fails
    · rw [hfails] at fails
      cases fails
      refine iff_of_false ?_ hnot
      intro heq
      exact hne (failedWith_injective heq)
  | refused asks closed outside =>
    obtain ⟨pointer', maxOutputLen', hread, hpasses⟩ := asks
    cases hsubject
    cases hread
    rcases hvalid with ⟨hadmissible, -⟩ | ⟨hnot, failure, hfails, -⟩
    · exact iff_of_true rfl hadmissible
    · rw [hfails] at hpasses
      cases hpasses
  | read asks finished closed => exact absurd (husound.begun _ _ finished) houtside

/-- A turn that a call can take. -/
theorem step_of_act {s : ReaderSystem} {i : Nat} {c : ReaderThread} {action : ReaderAction}
    {turn : ReaderTurn} (hc : s.calls[i]? = some c) (hact : s.act i c action = some turn) :
    s.step (.act i action) = some (s.moved i c turn) := by
  simp only [step, hc, hact, Option.bind_eq_bind, Option.bind_some]

/-- Three turns are enough for the read where nobody has the lock alone. -/
theorem afterClose_returns {s : ReaderSystem} (hsound : Sound s) (hstate : s.state = .closed)
    (hfree : s.lock.writer = none)
    (hpasses : (Entry.readerRange s.readWithSuffix pointer maxOutputLen {}).1 = .ok range) :
    ∃ u, run step (s.entered (.read pointer maxOutputLen))
        (List.replicate 3 (.act s.calls.length .advance)) = some u ∧
      u.phase? s.calls.length = some (.returned (failedWith Entry.readerClosed)) := by
  obtain ⟨lock, hlock⟩ : ∃ lock, s.lock.read s.calls.length = some lock := by
    unfold RwLock.read
    rw [dif_pos hfree]
    exact ⟨_, rfl⟩
  have hclean : lock.poisoned = false := by
    rw [(RwLock.guard_read hlock).2]
    exact hsound.clean
  have hentered := getElem?_entered (s := s) (.read pointer maxOutputLen) s.calls.length
  rw [if_pos rfl] at hentered
  have hfirst : (s.entered (.read pointer maxOutputLen)).act s.calls.length
      { call := .read pointer maxOutputLen } .advance =
        some { lock := s.lock, state := s.state, phase := .admitting range } := by
    have henter : (s.entered (.read pointer maxOutputLen)).enter (.read pointer maxOutputLen) =
        .admitting range := by
      simp only [enter, entered, hpasses]
    show some (stay _ (enter _ (.read pointer maxOutputLen))) = _
    rw [henter]
    rfl
  have hadmitting := step_of_act hentered hfirst
  generalize hs₁ : moved _ _ _ _ = s₁ at hadmitting
  have hcall₁ : s₁.calls[s.calls.length]? = some ⟨.read pointer maxOutputLen, .admitting range⟩ := by
    rw [← hs₁, getElem?_moved hentered, if_pos rfl]
  have hsecond : s₁.act s.calls.length ⟨.read pointer maxOutputLen, .admitting range⟩ .advance =
      some { lock, state := .closed, phase := .guarded range } := by
    subst hs₁
    show (s.lock.read s.calls.length).bind _ = _
    rw [hlock, ← hstate]
    rfl
  have hguarded := step_of_act hcall₁ hsecond
  generalize hs₂ : moved _ _ _ _ = s₂ at hguarded
  have hcall₂ : s₂.calls[s.calls.length]? = some ⟨.read pointer maxOutputLen, .guarded range⟩ := by
    rw [← hs₂, getElem?_moved hcall₁, if_pos rfl]
  have hthird : s₂.act s.calls.length ⟨.read pointer maxOutputLen, .guarded range⟩ .advance =
      some {
        lock := lock.releaseRead s.calls.length
        state := .closed
        phase := .returned (failedWith Entry.readerClosed) } := by
    subst hs₂
    show (if lock.poisoned = true then _ else _) = _
    rw [hclean]
    rfl
  refine ⟨_, run_cons_eq_some.mpr ⟨s₁, hadmitting, run_cons_eq_some.mpr ⟨s₂, hguarded,
    run_cons_eq_some.mpr ⟨_, step_of_act hcall₂ hthird, rfl⟩⟩⟩, ?_⟩
  rw [phase?_moved hcall₂, Function.update_self]

end AfterClose

/-- In every run the reads that got in finish before the close, the inner reader is dropped once,
and every reply is explained; a failed read leaves the rest alone; and a read after a close never
gets in, and fails with `ResourceClosed` exactly when its range passes the checks. -/
theorem reader_protocol (readWithSuffix : Bool) :
    (∀ events s, run step (opened readWithSuffix) events = some s → Obeys s) ∧
      (∀ (s t : ReaderSystem) (i : Nat) (failure : CallFailure),
        s.step (.act i (.finish (.error failure))) = some t →
        t.state = s.state ∧ ∀ j, j ≠ i → t.calls[j]? = s.calls[j]?) ∧
      ∀ before s pointer maxOutputLen carrier range,
        run step (opened readWithSuffix) before = some s → HasClosed s →
        Entry.readRequired pointer = .ok carrier → parseRange BytesRange.api carrier = .ok range →
        (∀ after u, run step (s.entered (.read pointer maxOutputLen)) after = some u →
          .admitted s.calls.length ∉ u.log ∧
            ∀ reply, u.phase? s.calls.length = some (.returned reply) →
              (reply = failedWith Entry.readerClosed ↔
                Admissible readWithSuffix range maxOutputLen)) ∧
        (Admissible readWithSuffix range maxOutputLen → s.lock.writer = none →
          ∃ u, run step (s.entered (.read pointer maxOutputLen))
              (List.replicate 3 (.act s.calls.length .advance)) = some u ∧
            u.phase? s.calls.length = some (.returned (failedWith Entry.readerClosed))) := by
  refine ⟨fun events s hrun => (sound_run hrun).obeys (blamed_run hrun),
    fun s t i failure hstep => finish_error hstep, ?_⟩
  intro before s pointer maxOutputLen carrier range hbefore hclosed hpointer hrange
  have hsound := sound_run hbefore
  have hbase : s.readWithSuffix = readWithSuffix := (later_run hbefore).base
  rw [← hbase]
  refine ⟨fun after u hafter => afterClose hsound hclosed hpointer hrange rfl hafter, ?_⟩
  intro hadmissible hfree
  rcases readerRange_valid s.readWithSuffix maxOutputLen hpointer hrange with ⟨-, hpasses⟩ | ⟨hnot, -⟩
  · exact afterClose_returns hsound (closed_of_hasClosed hsound hclosed) hfree hpasses
  · exact absurd hadmissible hnot

/-- The carrier of the last three bytes. -/
def lastThreeRange : ByteRangeV1 where
  structSize := 32
  structVersion := STRUCT_VERSION
  kind := RANGE_SUFFIX
  reserved0 := 0
  offset := 0
  length := 3

/-- A close from beginning to end. -/
def closing : List ReaderEvent := .enter .close :: List.replicate 5 (.act 0 .advance)

/-- After the close, a read of the last three bytes says that there are no suffix reads. -/
theorem suffixAfterClose_unsupported :
    ∃ s t u, run step (opened false) closing = some s ∧ HasClosed s ∧
      s.step (.enter (.read (.valid lastThreeRange) 10)) = some t ∧
      run step t [.act 1 .advance] = some u ∧
      u.phase? s.calls.length = some (.returned (failedWith
        (unsupported "suffix reads require native backend range support"))) ∧
      failedWith (unsupported "suffix reads require native backend range support") ≠
        failedWith Entry.readerClosed := by
  refine ⟨_, _, _, rfl, ?_, rfl, rfl, rfl, ?_⟩
  · exact ⟨_, List.mem_cons_self, rfl, none, rfl⟩
  · intro heq
    have hkind := failedWith_injective heq
    injection hkind with hkind
    injection hkind with hkind
    revert hkind
    decide

end OpendalMbt.Native.ReaderSystem
