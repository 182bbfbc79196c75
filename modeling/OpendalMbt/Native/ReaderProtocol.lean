import OpendalMbt.Native.Reader

/-!
# Reads and the close of a reader

What holds in every interleaving of the calls on one reader. The guards of the lock are those
that the phases of the calls ask for, so that no call is in the inner reader when the state is
replaced.

* `Lifetime`: the uses of the inner reader, then the close, then the drop;
* `Fits`: what is known of a call in each of its phases;
* `sound_step`, `sound_run`: the invariant.
-/

namespace OpendalMbt.Native.ReaderSystem

open Transition

/-! ## The life of the inner reader -/

/-- Only reads are in the log. -/
def Uses (log : List Moment) : Prop :=
  ∀ m ∈ log, ∃ i, m = .admitted i ∨ ∃ outcome, m = .finished i outcome

/-- Where the inner reader is: in the state, with the call that took it, or nowhere. -/
inductive Lifetime (holds : Nat → Prop) (log : List Moment) : ReaderStateV1 → Prop where
  | stored (uses : Uses log) (none : ∀ i, ¬ holds i) : Lifetime holds log .open
  | taken {uses : List Moment} (log_eq : log = .shut :: uses) (uses : Uses uses) (i : Nat)
      (holder : ∀ j, holds j ↔ j = i) : Lifetime holds log .closed
  | dropped {uses : List Moment} (log_eq : log = .dropped :: .shut :: uses) (uses : Uses uses)
      (none : ∀ i, ¬ holds i) : Lifetime holds log .closed

theorem uses_cons {log : List Moment} (h : Uses log) {m : Moment} {i : Nat}
    (hm : m = .admitted i ∨ ∃ outcome, m = .finished i outcome) : Uses (m :: log) := by
  intro m' hmem
  rcases List.mem_cons.mp hmem with rfl | hmem
  · exact ⟨i, hm⟩
  · exact h m' hmem

theorem Lifetime.congr {holds holds' : Nat → Prop} {log : List Moment} {state : ReaderStateV1}
    (h : Lifetime holds log state) (hsame : ∀ i, holds' i ↔ holds i) :
    Lifetime holds' log state := by
  have heq : holds' = holds := funext fun i => propext (hsame i)
  rw [heq]
  exact h

/-! ## Calls -/

/-- The range that a read asks the inner reader for. -/
def Asks (readWithSuffix : Bool) (call : ReaderCall) (range : BytesRange) : Prop :=
  ∃ pointer maxOutputLen, call = .read pointer maxOutputLen ∧
    (Entry.readerRange readWithSuffix pointer maxOutputLen {}).1 = .ok range

/-- Why a call is in `close_reader_state`. -/
inductive Cause (readWithSuffix : Bool) (log : List Moment) (i : Nat) :
    ReaderCall → ReaderReply → Prop where
  | close : Cause readWithSuffix log i .close none
  | panic {call : ReaderCall} {range : BytesRange} (asks : Asks readWithSuffix call range)
      (finished : .finished i .panic ∈ log) : Cause readWithSuffix log i call panicked

/-- Why a call has returned what it has. -/
inductive Settled (readWithSuffix : Bool) (state : ReaderStateV1) (log : List Moment) (i : Nat) :
    ReaderCall → ReaderReply → Prop where
  | close (closed : state = .closed) : Settled readWithSuffix state log i .close none
  | checked {pointer : Pointer ByteRangeV1} {maxOutputLen : UInt64} {failure : CallFailure}
      (fails : (Entry.readerRange readWithSuffix pointer maxOutputLen {}).1 =
        .error (.failure failure)) (outside : .admitted i ∉ log) :
      Settled readWithSuffix state log i (.read pointer maxOutputLen) (failedWith failure)
  | refused {call : ReaderCall} {range : BytesRange} (asks : Asks readWithSuffix call range)
      (closed : state = .closed) (outside : .admitted i ∉ log) :
      Settled readWithSuffix state log i call (failedWith Entry.readerClosed)
  | read {call : ReaderCall} {range : BytesRange} (asks : Asks readWithSuffix call range)
      {outcome : StepResult (List UInt8)} (finished : .finished i outcome ∈ log)
      (closed : outcome = .panic → state = .closed) :
      Settled readWithSuffix state log i call (readReply outcome)

/-- What is known of a call in a phase. -/
def Fits (readWithSuffix : Bool) (state : ReaderStateV1) (log : List Moment) (i : Nat)
    (call : ReaderCall) : ReaderPhase → Prop
  | .entering => .admitted i ∉ log
  | .admitting range | .guarded range => Asks readWithSuffix call range ∧ .admitted i ∉ log
  | .reading range =>
    Asks readWithSuffix call range ∧ state = .open ∧ .admitted i ∈ log ∧
      ∀ outcome, .finished i outcome ∉ log
  | .closing reply | .exclusive reply => Cause readWithSuffix log i call reply
  | .replaced _ reply | .dropping _ reply =>
    Cause readWithSuffix log i call reply ∧ state = .closed
  | .returned reply => Settled readWithSuffix state log i call reply

/-- A step of another call: it says nothing about call `i`, and it opens nothing. -/
structure Elsewhere (i : Nat) (moments : List Moment) (state state' : ReaderStateV1) : Prop where
  admitted : .admitted i ∉ moments
  finished : ∀ outcome, .finished i outcome ∉ moments
  closed : state = .closed → state' = .closed

section Frame

variable {b : Bool} {state state' : ReaderStateV1} {log moments : List Moment} {i : Nat}
  {call : ReaderCall} {reply : ReaderReply} {phase : ReaderPhase}

theorem Cause.append (h : Cause b log i call reply) (moments : List Moment) :
    Cause b (moments ++ log) i call reply := by
  cases h with
  | close => exact .close
  | panic asks finished => exact .panic asks (List.mem_append_right moments finished)

theorem not_mem_append (hmoments : Moment.admitted i ∉ moments) (hlog : .admitted i ∉ log) :
    .admitted i ∉ moments ++ log := by
  intro hmem
  rcases List.mem_append.mp hmem with hmem | hmem
  · exact hmoments hmem
  · exact hlog hmem

theorem Settled.elsewhere (h : Settled b state log i call reply)
    (hother : Elsewhere i moments state state') :
    Settled b state' (moments ++ log) i call reply := by
  cases h with
  | close closed => exact .close (hother.closed closed)
  | checked fails outside => exact .checked fails (not_mem_append hother.admitted outside)
  | refused asks closed outside =>
    exact .refused asks (hother.closed closed) (not_mem_append hother.admitted outside)
  | read asks finished closed =>
    exact .read asks (List.mem_append_right moments finished) fun hpanic =>
      hother.closed (closed hpanic)

theorem Fits.elsewhere (h : Fits b state log i call phase)
    (hother : Elsewhere i moments state state')
    (hreading : ∀ range, phase = .reading range → state' = .open) :
    Fits b state' (moments ++ log) i call phase := by
  cases phase with
  | entering => exact not_mem_append hother.admitted h
  | admitting range => exact ⟨h.1, not_mem_append hother.admitted h.2⟩
  | guarded range => exact ⟨h.1, not_mem_append hother.admitted h.2⟩
  | reading range =>
    refine ⟨h.1, hreading range rfl, List.mem_append_right moments h.2.2.1, fun outcome hmem => ?_⟩
    rcases List.mem_append.mp hmem with hmem | hmem
    · exact hother.finished outcome hmem
    · exact h.2.2.2 outcome hmem
  | closing reply => exact Cause.append h moments
  | exclusive reply => exact Cause.append h moments
  | replaced inner reply => exact ⟨Cause.append h.1 moments, hother.closed h.2⟩
  | dropping inner reply => exact ⟨Cause.append h.1 moments, hother.closed h.2⟩
  | returned reply => exact Settled.elsewhere h hother

end Frame

/-! ## The invariant -/

/-- The call has the inner reader, out of the state. -/
def Holds (s : ReaderSystem) (i : Nat) : Prop := (s.phase? i).elim False ReaderPhase.HasInner

structure Sound (s : ReaderSystem) : Prop where
  guards : s.lock.guard = s.guardOf
  clean : s.lock.poisoned = false
  lifetime : Lifetime s.Holds s.log s.state
  fits : ∀ i c, s.calls[i]? = some c → Fits s.readWithSuffix s.state s.log i c.call c.phase
  /-- An admitted read is in the inner reader, or has left it. -/
  admitted : ∀ i, .admitted i ∈ s.log →
    (∃ range, s.phase? i = some (.reading range)) ∨ ∃ outcome, .finished i outcome ∈ s.log
  begun : ∀ i outcome, .finished i outcome ∈ s.log → .admitted i ∈ s.log
  once : ∀ i outcome outcome', .finished i outcome ∈ s.log → .finished i outcome' ∈ s.log →
    outcome = outcome'
  /-- The log is about calls that were made. -/
  made : ∀ i, .admitted i ∈ s.log → i < s.calls.length

theorem sound_opened (readWithSuffix : Bool) : Sound (opened readWithSuffix) where
  guards := rfl
  clean := rfl
  lifetime := .stored nofun fun _ h => h
  fits := by
    intro i c hc
    cases hc
  admitted := by
    intro i hi
    cases hi
  begun := by
    intro i outcome hi
    cases hi
  once := by
    intro i outcome outcome' hi
    cases hi
  made := by
    intro i hi
    cases hi

/-! ## One step -/

section Step

variable {s t : ReaderSystem} {i : Nat} {c : ReaderThread} {e : ReaderEvent}

/-- The checks of a read, one after the other. -/
theorem readerRange_eq (readWithSuffix : Bool) (pointer : Pointer ByteRangeV1)
    (maxOutputLen : UInt64) :
    (Entry.readerRange readWithSuffix pointer maxOutputLen {}).1 =
      Except.mapError Halt.failure (do
        let carrier ← Entry.readRequired pointer
        let range ← parseRange BytesRange.api carrier
        ensureSuffixIsNative range readWithSuffix
        Entry.checkRangeSize range (Entry.negotiatedLimit maxOutputLen)
        pure range : CallResult BytesRange) := by
  unfold Entry.readerRange
  apply Entry.Work.input_bind
  intro carrier
  apply Entry.Work.check_bind
  intro range
  apply Entry.Work.check_bind
  intro _
  apply Entry.Work.check_bind
  intro _
  rfl

/-- The checks do not panic. -/
theorem readerRange_ne_panic (readWithSuffix : Bool) (pointer : Pointer ByteRangeV1)
    (maxOutputLen : UInt64) :
    (Entry.readerRange readWithSuffix pointer maxOutputLen {}).1 ≠ .error .panic := by
  rw [readerRange_eq]
  generalize (do
    let carrier ← Entry.readRequired pointer
    let range ← parseRange BytesRange.api carrier
    ensureSuffixIsNative range readWithSuffix
    Entry.checkRangeSize range (Entry.negotiatedLimit maxOutputLen)
    pure range : CallResult BytesRange) = checked
  cases checked with
  | ok range => nofun
  | error failure => nofun

theorem sound_entered (h : Sound s) (call : ReaderCall) : Sound (s.entered call) where
  guards := by
    ext1 j
    rw [guardOf, phase?_entered]
    by_cases hj : j = s.calls.length
    · subst hj
      have hnone : s.guardOf s.calls.length = .none := by
        rw [guardOf, phase?_length]
        rfl
      rw [Function.update_self]
      exact (congrFun h.guards s.calls.length).trans hnone
    · rw [Function.update_of_ne hj]
      exact congrFun h.guards j
  clean := h.clean
  lifetime := by
    apply h.lifetime.congr
    intro j
    rw [Holds, Holds, phase?_entered]
    by_cases hj : j = s.calls.length
    · subst hj
      rw [Function.update_self, phase?_length]
      exact Iff.rfl
    · rw [Function.update_of_ne hj]
  fits := by
    intro j c hc
    rw [getElem?_entered] at hc
    split_ifs at hc with hj
    · cases hc
      subst hj
      intro hmem
      exact Nat.lt_irrefl _ (h.made s.calls.length hmem)
    · exact h.fits j c hc
  admitted := by
    intro j hj
    rcases h.admitted j hj with ⟨range, hreading⟩ | hfinished
    · left
      refine ⟨range, ?_⟩
      have hlt := h.made j hj
      rw [phase?_entered, Function.update_of_ne (Nat.ne_of_lt hlt)]
      exact hreading
    · exact .inr hfinished
  begun := h.begun
  once := h.once
  made := by
    intro j hj
    have hlt := h.made j hj
    show j < (s.calls ++ [_]).length
    rw [List.length_append]
    exact Nat.lt_add_right _ hlt

/-- Moments that are about one call, or about the inner reader as a whole. -/
def About (i : Nat) (moments : List Moment) : Prop :=
  ∀ m ∈ moments, m = .admitted i ∨ (∃ outcome, m = .finished i outcome) ∨ m = .shut ∨ m = .dropped

theorem elsewhere_of_about {moments : List Moment} {state state' : ReaderStateV1} {j : Nat}
    (h : About i moments) (hj : j ≠ i) (hclosed : state = .closed → state' = .closed) :
    Elsewhere j moments state state' where
  admitted := by
    intro hmem
    rcases h _ hmem with heq | ⟨outcome, heq⟩ | heq | heq
    · cases heq
      exact hj rfl
    · cases heq
    · cases heq
    · cases heq
  finished := by
    intro outcome hmem
    rcases h _ hmem with heq | ⟨outcome', heq⟩ | heq | heq
    · cases heq
    · cases heq
      exact hj rfl
    · cases heq
    · cases heq
  closed := hclosed

theorem holds_moved (hc : s.calls[i]? = some c) (turn : ReaderTurn) (j : Nat) :
    (s.moved i c turn).Holds j ↔ if j = i then turn.phase.HasInner else s.Holds j := by
  rw [Holds, phase?_moved hc]
  by_cases hj : j = i
  · subst hj
    rw [Function.update_self, if_pos rfl]
    exact Iff.rfl
  · rw [Function.update_of_ne hj, if_neg hj]
    exact Iff.rfl

/-- A reader that is read from is open. -/
theorem Sound.open_of_reading (h : Sound s) {range : BytesRange}
    (hreading : s.phase? i = some (.reading range)) : s.state = .open := by
  obtain ⟨c, hc, hphase⟩ := Option.map_eq_some_iff.mp hreading
  have hfits := h.fits i c hc
  rw [hphase] at hfits
  exact hfits.2.1

theorem Sound.guard_eq (h : Sound s) (hc : s.calls[i]? = some c) :
    s.lock.guard i = c.phase.guard := by
  rw [h.guards, guardOf, phase?_of_getElem? hc]
  rfl

/-- What the others know survives the turn of a call, which has to say what it knows itself. -/
theorem sound_moved (h : Sound s) (hc : s.calls[i]? = some c) {turn : ReaderTurn}
    (hguard : turn.lock.guard = Function.update s.lock.guard i turn.phase.guard)
    (hclean : turn.lock.poisoned = false)
    (hstate : turn.state = s.state ∨ turn.state = .closed ∧ s.lock.guard i = .exclusive)
    (habout : About i turn.moments)
    (hlifetime : Lifetime (s.moved i c turn).Holds (turn.moments ++ s.log) turn.state)
    (hfits : Fits s.readWithSuffix turn.state (turn.moments ++ s.log) i c.call turn.phase)
    (hbegun : ∀ outcome, .finished i outcome ∈ turn.moments ++ s.log →
      .admitted i ∈ turn.moments ++ s.log)
    (hadmitted : .admitted i ∈ turn.moments ++ s.log → (∃ range, turn.phase = .reading range) ∨
      ∃ outcome, .finished i outcome ∈ turn.moments ++ s.log)
    (honce : ∀ outcome outcome', .finished i outcome ∈ turn.moments ++ s.log →
      .finished i outcome' ∈ turn.moments ++ s.log → outcome = outcome') :
    Sound (s.moved i c turn) := by
  have hlt := (List.getElem?_eq_some_iff.mp hc).1
  have hclosed : s.state = .closed → turn.state = .closed := by
    intro hs
    rcases hstate with heq | ⟨heq, -⟩
    · rw [heq, hs]
    · exact heq
  have hreading : ∀ j, j ≠ i → ∀ range, s.phase? j = some (.reading range) →
      turn.state = .open := by
    intro j hj range hphase
    rcases hstate with heq | ⟨-, hexclusive⟩
    · rw [heq]
      exact h.open_of_reading hphase
    · have hnone := RwLock.guard_exclusive hexclusive hj
      rw [h.guards, guardOf, hphase] at hnone
      cases hnone
  have hother : ∀ j, j ≠ i → Elsewhere j turn.moments s.state turn.state := fun j hj =>
    elsewhere_of_about habout hj hclosed
  have hmem : ∀ j, j ≠ i → ∀ m, (m = .admitted j ∨ ∃ outcome, m = .finished j outcome) →
      m ∈ turn.moments ++ s.log → m ∈ s.log := by
    intro j hj m hm hmem
    rcases List.mem_append.mp hmem with hmem | hmem
    · rcases hm with rfl | ⟨outcome, rfl⟩
      · exact absurd hmem (hother j hj).admitted
      · exact absurd hmem ((hother j hj).finished outcome)
    · exact hmem
  exact {
    guards := by
      rw [guardOf_moved hc, ← h.guards]
      exact hguard
    clean := hclean
    lifetime := hlifetime
    fits := by
      intro j c' hc'
      rw [getElem?_moved hc] at hc'
      split_ifs at hc' with hj
      · cases hc'
        subst hj
        exact hfits
      · apply (h.fits j c' hc').elsewhere (hother j hj)
        intro range hphase
        exact hreading j hj range (by rw [phase?_of_getElem? hc', hphase])
    admitted := by
      intro j hj
      by_cases hji : j = i
      · subst hji
        rcases hadmitted hj with ⟨range, hphase⟩ | hfinished
        · left
          refine ⟨range, ?_⟩
          rw [phase?_moved hc, Function.update_self, hphase]
        · exact .inr hfinished
      · rcases h.admitted j (hmem j hji _ (.inl rfl) hj) with ⟨range, hphase⟩ | ⟨outcome, ho⟩
        · left
          refine ⟨range, ?_⟩
          rw [phase?_moved hc, Function.update_of_ne hji]
          exact hphase
        · exact .inr ⟨outcome, List.mem_append_right turn.moments ho⟩
    begun := by
      intro j outcome ho
      by_cases hji : j = i
      · subst hji
        exact hbegun outcome ho
      · exact List.mem_append_right turn.moments
          (h.begun j outcome (hmem j hji _ (.inr ⟨outcome, rfl⟩) ho))
    once := by
      intro j outcome outcome' ho ho'
      by_cases hji : j = i
      · subst hji
        exact honce outcome outcome' ho ho'
      · exact h.once j outcome outcome' (hmem j hji _ (.inr ⟨outcome, rfl⟩) ho)
          (hmem j hji _ (.inr ⟨outcome', rfl⟩) ho')
    made := by
      intro j hj
      show j < (s.calls.set i _).length
      rw [List.length_set]
      by_cases hji : j = i
      · subst hji
        exact hlt
      · exact h.made j (hmem j hji _ (.inl rfl) hj) }

/-- A turn that nobody sees, of a call that is not in the inner reader. -/
theorem sound_quiet (h : Sound s) (hc : s.calls[i]? = some c) {lock : RwLock Nat}
    {phase : ReaderPhase} (hguard : lock.guard = Function.update s.lock.guard i phase.guard)
    (hclean : lock.poisoned = false) (hholds : phase.HasInner ↔ c.phase.HasInner)
    (houtside : ∀ range, c.phase ≠ .reading range)
    (hfits : Fits s.readWithSuffix s.state s.log i c.call phase) :
    Sound (s.moved i c { lock, state := s.state, phase }) := by
  apply sound_moved h hc hguard hclean (.inl rfl) (fun m hm => absurd hm List.not_mem_nil)
  · apply h.lifetime.congr
    intro j
    rw [holds_moved hc]
    split_ifs with hj
    · subst hj
      rw [Holds, phase?_of_getElem? hc]
      exact hholds
    · exact Iff.rfl
  · exact hfits
  · exact h.begun i
  · intro hmem
    rcases h.admitted i hmem with ⟨range, hphase⟩ | hfinished
    · rw [phase?_of_getElem? hc] at hphase
      exact absurd (Option.some.inj hphase) (houtside range)
    · exact .inr hfinished
  · exact h.once i

/-- What a call knows after its checks. -/
theorem fits_enter (houtside : .admitted i ∉ s.log) (call : ReaderCall) :
    Fits s.readWithSuffix s.state s.log i call (s.enter call) ∧
      (s.enter call).guard = .none ∧ ¬ (s.enter call).HasInner := by
  cases call with
  | close => exact ⟨.close, rfl, not_false⟩
  | read pointer maxOutputLen =>
    have hpanic := readerRange_ne_panic s.readWithSuffix pointer maxOutputLen
    cases hchecked : (Entry.readerRange s.readWithSuffix pointer maxOutputLen {}).1 with
    | ok range =>
      have henter : s.enter (.read pointer maxOutputLen) = .admitting range := by
        simp only [enter, hchecked]
      rw [henter]
      exact ⟨⟨⟨pointer, maxOutputLen, rfl, hchecked⟩, houtside⟩, rfl, not_false⟩
    | error halt =>
      cases halt with
      | failure failure =>
        have henter : s.enter (.read pointer maxOutputLen) = .returned (failedWith failure) := by
          simp only [enter, hchecked]
        rw [henter]
        exact ⟨.checked hchecked houtside, rfl, not_false⟩
      | panic => exact absurd hchecked hpanic

theorem Sound.fits_of (h : Sound s) (hc : s.calls[i]? = some c) {phase : ReaderPhase}
    (hphase : c.phase = phase) : Fits s.readWithSuffix s.state s.log i c.call phase := by
  rw [← hphase]
  exact h.fits i c hc

theorem Sound.guard_of (h : Sound s) (hc : s.calls[i]? = some c) {phase : ReaderPhase}
    (hphase : c.phase = phase) : s.lock.guard i = phase.guard := by
  rw [h.guard_eq hc, hphase]

/-- The first turn of a call. -/
theorem sound_checked (h : Sound s) (hc : s.calls[i]? = some c) (hphase : c.phase = .entering) :
    Sound (s.moved i c (s.stay (s.enter c.call))) := by
  obtain ⟨hfits, hguard, hholds⟩ := fits_enter (h.fits_of hc hphase) c.call
  apply sound_quiet h hc
  · rw [hguard, Function.update_eq_self_iff.mpr]
    exact (h.guard_of hc hphase).symm
  · exact h.clean
  · rw [hphase]
    exact iff_of_false hholds not_false
  · rw [hphase]
    nofun
  · exact hfits

/-- Where the inner reader is stays as it is when a read ends or begins. -/
theorem lifetime_use (h : Sound s) (hc : s.calls[i]? = some c) (hopen : s.state = .open)
    {turn : ReaderTurn} {m : Moment}
    (hm : m = .admitted i ∨ ∃ outcome, m = .finished i outcome)
    (hmoments : turn.moments = [m]) (hstate : turn.state = .open)
    (hholds : ¬ turn.phase.HasInner) :
    Lifetime (s.moved i c turn).Holds (turn.moments ++ s.log) turn.state := by
  have hlifetime := h.lifetime
  rw [hopen] at hlifetime
  rw [hmoments, hstate]
  cases hlifetime with
  | stored uses none =>
    refine .stored (uses_cons uses hm) fun j => ?_
    rw [holds_moved hc]
    split_ifs with hj
    · exact hholds
    · exact none j

theorem sound_admit (h : Sound s) (hc : s.calls[i]? = some c) {range : BytesRange}
    (hphase : c.phase = .guarded range) (hopen : s.state = .open) :
    Sound (s.moved i c {
      lock := s.lock, state := .open, phase := .reading range, moments := [.admitted i] }) := by
  obtain ⟨hasks, houtside⟩ := h.fits_of hc hphase
  have hfresh : ∀ outcome, Moment.finished i outcome ∉ s.log := by
    intro outcome hmem
    exact houtside (h.begun i outcome hmem)
  have hnew : ∀ outcome, Moment.finished i outcome ∉ Moment.admitted i :: s.log := by
    intro outcome hmem
    rcases List.mem_cons.mp hmem with heq | hmem
    · cases heq
    · exact hfresh outcome hmem
  apply sound_moved h hc
  · exact (Function.update_eq_self_iff.mpr (h.guard_of hc hphase).symm).symm
  · exact h.clean
  · exact .inl hopen.symm
  · intro m hm
    rw [List.mem_singleton.mp hm]
    exact .inl rfl
  · exact lifetime_use h hc hopen (.inl rfl) rfl rfl not_false
  · exact ⟨hasks, rfl, List.mem_cons_self, hnew⟩
  · exact fun _ _ => List.mem_cons_self
  · exact fun _ => .inl ⟨range, rfl⟩
  · intro outcome outcome' ho
    exact absurd ho (hnew outcome)

theorem sound_lockShared (h : Sound s) (hc : s.calls[i]? = some c) {range : BytesRange}
    {lock : RwLock Nat} (hphase : c.phase = .admitting range) (hlock : s.lock.read i = some lock) :
    Sound (s.moved i c { lock, state := s.state, phase := .guarded range }) := by
  have hfits := h.fits_of hc hphase
  obtain ⟨hguard, hclean⟩ := RwLock.guard_read hlock
  apply sound_quiet h hc hguard
  · rw [hclean]
    exact h.clean
  · rw [hphase]
    exact iff_of_false not_false not_false
  · rw [hphase]
    nofun
  · exact hfits

/-- A read that finds the reader closed has not been in it. -/
theorem sound_refuse (h : Sound s) (hc : s.calls[i]? = some c) {range : BytesRange}
    (hphase : c.phase = .guarded range) (hclosed : s.state = .closed) :
    Sound (s.moved i c {
      lock := s.lock.releaseRead i
      state := s.state
      phase := .returned (failedWith Entry.readerClosed) }) := by
  obtain ⟨hasks, houtside⟩ := h.fits_of hc hphase
  apply sound_quiet h hc
  · exact RwLock.guard_releaseRead (h.guard_of hc hphase)
  · exact h.clean
  · rw [hphase]
    exact iff_of_false not_false not_false
  · rw [hphase]
    nofun
  · exact .refused hasks hclosed houtside

theorem sound_finish (h : Sound s) (hc : s.calls[i]? = some c) {range : BytesRange}
    (hphase : c.phase = .reading range) (outcome : StepResult (List UInt8)) :
    Sound (s.moved i c {
      lock := s.lock.releaseRead i
      state := s.state
      phase := if outcome = .panic then .closing panicked else .returned (readReply outcome)
      moments := [.finished i outcome] }) := by
  obtain ⟨hasks, hopen, hbegun, hfresh⟩ := h.fits_of hc hphase
  have hguard := RwLock.guard_releaseRead (h.guard_of hc hphase)
  have honly : ∀ outcome', .finished i outcome' ∈ Moment.finished i outcome :: s.log →
      outcome' = outcome := by
    intro outcome' hmem
    rcases List.mem_cons.mp hmem with heq | hmem
    · cases heq
      rfl
    · exact absurd hmem (hfresh outcome')
  apply sound_moved h hc
  · dsimp only
    rw [hguard]
    split_ifs <;> rfl
  · exact h.clean
  · exact .inl rfl
  · intro m hm
    rw [List.mem_singleton.mp hm]
    exact .inr (.inl ⟨outcome, rfl⟩)
  · apply lifetime_use h hc hopen (.inr ⟨outcome, rfl⟩) rfl hopen
    dsimp only
    split_ifs <;> exact not_false
  · dsimp only
    split_ifs with hpanic
    · subst hpanic
      exact .panic hasks List.mem_cons_self
    · exact .read hasks List.mem_cons_self fun hpanics => absurd hpanics hpanic
  · exact fun _ _ => List.mem_cons_of_mem _ hbegun
  · exact fun _ => .inr ⟨outcome, List.mem_cons_self⟩
  · intro outcome' outcome'' ho ho'
    rw [honly outcome' ho, honly outcome'' ho']

theorem sound_lockExclusive (h : Sound s) (hc : s.calls[i]? = some c) {reply : ReaderReply}
    {lock : RwLock Nat} (hphase : c.phase = .closing reply) (hlock : s.lock.write i = some lock) :
    Sound (s.moved i c { lock, state := s.state, phase := .exclusive reply }) := by
  have hfits := h.fits_of hc hphase
  obtain ⟨hguard, hclean, -⟩ := RwLock.guard_write hlock
  apply sound_quiet h hc hguard
  · rw [hclean]
    exact h.clean
  · rw [hphase]
    exact iff_of_false not_false not_false
  · rw [hphase]
    nofun
  · exact hfits

/-- What an exclusive turn keeps of the log. -/
theorem Sound.admitted_outside (h : Sound s) (hc : s.calls[i]? = some c)
    (houtside : ∀ range, c.phase ≠ .reading range) (hmem : .admitted i ∈ s.log) :
    ∃ outcome, .finished i outcome ∈ s.log := by
  rcases h.admitted i hmem with ⟨range, hphase⟩ | hfinished
  · rw [phase?_of_getElem? hc] at hphase
    exact absurd (Option.some.inj hphase) (houtside range)
  · exact hfinished

/-- A turn of a call that is not in the inner reader, with a moment of the inner reader. -/
theorem sound_whole (h : Sound s) (hc : s.calls[i]? = some c) {turn : ReaderTurn} {m : Moment}
    (hguard : turn.lock.guard = Function.update s.lock.guard i turn.phase.guard)
    (hclean : turn.lock.poisoned = false)
    (hstate : turn.state = s.state ∨ turn.state = .closed ∧ s.lock.guard i = .exclusive)
    (hm : m = .shut ∨ m = .dropped) (hmoments : turn.moments = [m])
    (houtside : ∀ range, c.phase ≠ .reading range)
    (hlifetime : Lifetime (s.moved i c turn).Holds (turn.moments ++ s.log) turn.state)
    (hfits : Fits s.readWithSuffix turn.state (turn.moments ++ s.log) i c.call turn.phase) :
    Sound (s.moved i c turn) := by
  have hlog : ∀ m', (m' = .admitted i ∨ ∃ outcome, m' = .finished i outcome) →
      m' ∈ turn.moments ++ s.log → m' ∈ s.log := by
    intro m' hm' hmem
    rw [hmoments] at hmem
    rcases List.mem_cons.mp hmem with rfl | hmem
    · rcases hm with rfl | rfl <;> rcases hm' with heq | ⟨outcome, heq⟩ <;> cases heq
    · exact hmem
  apply sound_moved h hc hguard hclean hstate
  · intro m' hm'
    rw [hmoments] at hm'
    rw [List.mem_singleton.mp hm']
    exact .inr (.inr hm)
  · exact hlifetime
  · exact hfits
  · intro outcome ho
    exact List.mem_append_right _ (h.begun i outcome (hlog _ (.inr ⟨outcome, rfl⟩) ho))
  · intro hadmitted
    obtain ⟨outcome, ho⟩ := h.admitted_outside hc houtside (hlog _ (.inl rfl) hadmitted)
    exact .inr ⟨outcome, List.mem_append_right _ ho⟩
  · intro outcome outcome' ho ho'
    exact h.once i outcome outcome' (hlog _ (.inr ⟨outcome, rfl⟩) ho)
      (hlog _ (.inr ⟨outcome', rfl⟩) ho')

theorem sound_shut (h : Sound s) (hc : s.calls[i]? = some c) {reply : ReaderReply}
    (hphase : c.phase = .exclusive reply) (hopen : s.state = .open) :
    Sound (s.moved i c {
      lock := s.lock.clearPoison
      state := .closed
      phase := .replaced true reply
      moments := [.shut] }) := by
  have hexclusive := h.guard_of hc hphase
  have hlifetime := h.lifetime
  rw [hopen] at hlifetime
  apply sound_whole (m := .shut) h hc
  · exact (Function.update_eq_self_iff.mpr hexclusive.symm).symm
  · rfl
  · exact .inr ⟨rfl, hexclusive⟩
  · exact .inl rfl
  · rfl
  · rw [hphase]
    nofun
  · cases hlifetime with
    | stored uses none =>
      refine .taken rfl uses i fun j => ?_
      rw [holds_moved hc]
      split_ifs with hj
      · exact iff_of_true trivial hj
      · exact iff_of_false (none j) hj
  · exact ⟨Cause.append (h.fits_of hc hphase) [.shut], rfl⟩

theorem sound_shutAgain (h : Sound s) (hc : s.calls[i]? = some c) {reply : ReaderReply}
    (hphase : c.phase = .exclusive reply) (hclosed : s.state = .closed) :
    Sound (s.moved i c {
      lock := s.lock.clearPoison, state := s.state, phase := .replaced false reply }) := by
  apply sound_quiet h hc
  · exact (Function.update_eq_self_iff.mpr (h.guard_of hc hphase).symm).symm
  · rfl
  · rw [hphase]
    exact iff_of_false not_false not_false
  · rw [hphase]
    nofun
  · exact ⟨h.fits_of hc hphase, hclosed⟩

theorem sound_unlock (h : Sound s) (hc : s.calls[i]? = some c) {inner : Bool} {reply : ReaderReply}
    (hphase : c.phase = .replaced inner reply) :
    Sound (s.moved i c {
      lock := s.lock.releaseWrite false, state := s.state, phase := .dropping inner reply }) := by
  have hfits := h.fits_of hc hphase
  apply sound_quiet h hc
  · exact RwLock.guard_releaseWrite (h.guard_of hc hphase) false
  · exact Bool.or_eq_false_iff.mpr ⟨h.clean, rfl⟩
  · rw [hphase]
    cases inner with
    | true => exact Iff.rfl
    | false => exact Iff.rfl
  · rw [hphase]
    nofun
  · exact hfits

/-- A call that ends its close says why it closed. -/
theorem Cause.settled {b : Bool} {state : ReaderStateV1} {log : List Moment} {call : ReaderCall}
    {reply : ReaderReply} (h : Cause b log i call reply) (hclosed : state = .closed) :
    Settled b state log i call reply := by
  cases h with
  | close => exact .close hclosed
  | panic asks finished => exact .read asks finished fun _ => hclosed

theorem sound_drop (h : Sound s) (hc : s.calls[i]? = some c) {reply : ReaderReply}
    (hphase : c.phase = .dropping true reply) :
    Sound (s.moved i c { s.stay (.returned reply) with moments := [.dropped] }) := by
  obtain ⟨hcause, hclosed⟩ := h.fits_of hc hphase
  have hholds : s.Holds i := by
    rw [Holds, phase?_of_getElem? hc, hphase]
    trivial
  have hlifetime := h.lifetime
  rw [hclosed] at hlifetime
  apply sound_whole (m := .dropped) h hc
  · exact (Function.update_eq_self_iff.mpr (h.guard_of hc hphase).symm).symm
  · exact h.clean
  · exact .inl rfl
  · exact .inr rfl
  · rfl
  · rw [hphase]
    nofun
  · show Lifetime _ (.dropped :: s.log) s.state
    rw [hclosed]
    cases hlifetime with
    | taken log_eq uses j holder =>
      have hj : i = j := (holder i).mp hholds
      refine .dropped (by rw [log_eq]) uses fun k => ?_
      rw [holds_moved hc]
      split_ifs with hk
      · exact not_false
      · rw [holder, ← hj]
        exact hk
    | dropped log_eq uses none => exact absurd hholds (none i)
  · exact (hcause.append [.dropped]).settled hclosed

theorem sound_leave (h : Sound s) (hc : s.calls[i]? = some c) {reply : ReaderReply}
    (hphase : c.phase = .dropping false reply) :
    Sound (s.moved i c (s.stay (.returned reply))) := by
  obtain ⟨hcause, hclosed⟩ := h.fits_of hc hphase
  apply sound_quiet h hc
  · exact (Function.update_eq_self_iff.mpr (h.guard_of hc hphase).symm).symm
  · exact h.clean
  · rw [hphase]
    exact iff_of_false not_false not_false
  · rw [hphase]
    nofun
  · exact hcause.settled hclosed

theorem sound_step (hstep : s.step e = some t) (h : Sound s) : Sound t := by
  rcases step_cases hstep with ⟨call, rfl, rfl⟩ | ⟨i, c, action, turn, rfl, hc, hact, rfl⟩
  · exact sound_entered h call
  · cases moves_of_act hact with
    | enter hphase => exact sound_checked h hc hphase
    | lockShared hphase hlock => exact sound_lockShared h hc hphase hlock
    | poisoned hphase hpoisoned =>
      rw [h.clean] at hpoisoned
      cases hpoisoned
    | enters hphase hopen => exact sound_admit h hc hphase hopen
    | refuse hphase hclosed =>
      have hsound := sound_refuse h hc hphase hclosed
      rw [hclosed] at hsound
      exact hsound
    | finish hphase outcome => exact sound_finish h hc hphase outcome
    | lockExclusive hphase hlock => exact sound_lockExclusive h hc hphase hlock
    | shut hphase hopen => exact sound_shut h hc hphase hopen
    | shutAgain hphase hclosed =>
      have hsound := sound_shutAgain h hc hphase hclosed
      rw [hclosed] at hsound
      exact hsound
    | unlock hphase => exact sound_unlock h hc hphase
    | drop hphase => exact sound_drop h hc hphase
    | leave hphase => exact sound_leave h hc hphase

end Step

theorem sound_run {readWithSuffix : Bool} {events : List ReaderEvent} {s : ReaderSystem}
    (hrun : run step (opened readWithSuffix) events = some s) : Sound s :=
  Preserves.run (fun _ _ _ hstep => sound_step hstep) (sound_opened readWithSuffix) hrun

end OpendalMbt.Native.ReaderSystem
