import OpendalMbt.Browser.ErasedCalls
import OpendalMbt.MoonBit.Streaming

/-!
# Refused overlapping calls

A child with an operation in flight refuses another call as busy. To the MoonBit method around
that call the refusal is a failed outcome like any other: it closes the child, which cancels the
operation in flight, and the object takes no more calls.

A run is compared with the one in which the refused calls of a set `R` were never made.

* `Sim.keep`, `Sim.drop`: one step of the comparison, for any wrapper.
* `cursor_erase`, `writer_erase`: the two runs agree when the refusals find the object finished
  already.
-/

namespace OpendalMbt.MoonBit

open Codec Browser Transition

variable {V : Type} {cls : ChildClass V} {w : Wrapper cls}

/-- The task that an event belongs to. -/
def WrapperEvent.task? : WrapperEvent w → Option Nat
  | .call k _ _ _ _ | .settle k _ | .resumeTask k _ | .resumeNext k _ | .resume k _ _ => some k
  | .close _ | .operatorClose _ => none

/-- The events that are left when the tasks in `R` are erased. -/
def WrapperEvent.keeps (R : Nat → Bool) (e : WrapperEvent w) : Bool :=
  match e.task? with
  | some k => !R k
  | none => true

theorem WrapperEvent.kept_task {R : Nat → Bool} {e : WrapperEvent w} {k : Nat}
    (h : e.task? = some k) (he : e.keeps R = true) : R k = false := by
  unfold keeps at he
  rw [h] at he
  simpa using he

theorem WrapperEvent.dropped_task {R : Nat → Bool} {e : WrapperEvent w} {k : Nat}
    (h : e.task? = some k) (he : e.keeps R = false) : R k = true := by
  unfold keeps at he
  rw [h] at he
  simpa using he

/-- Flags with which no method calls the child again. -/
def Wrapper.Terminal (w : Wrapper cls) (flags : w.Flags) : Prop :=
  ∀ op operatorClosed, ∃ reply, w.enter op operatorClosed flags = .error reply

/-- Terminal flags stay terminal. -/
structure Wrapper.Lawful (w : Wrapper cls) : Prop where
  resume : ∀ op resumed flags, w.Terminal flags → w.Terminal (w.resume op resumed flags).2.1
  close : ∀ flags flags', w.Terminal flags → w.close flags = some flags' → w.Terminal flags'

namespace WrapperSystem

variable {s t s' : WrapperSystem w} {R : Nat → Bool}

/-- The child is called and refuses the call as busy. -/
def refuses (s : WrapperSystem w) (op : w.Op) : Bool :=
  match w.enter op s.operatorClosed s.flags with
  | .error _ => false
  | .ok _ =>
    (cls.shortcut (w.jsOp op) s.js.child.state).isNone &&
      !decide (s.js.child.Unusable s.js.operatorOpen) && s.js.child.active.isSome

/-- The calls of `R` are refused as busy. -/
def Refused (R : Nat → Bool) (s : WrapperSystem w) (e : WrapperEvent w) : Prop :=
  ∀ k op aborted start release, e = .call k op aborted start release → R k = true →
    s.refuses op = true

/-- A refused call starts no operation of the bridge: it is over at once, whatever a start would
have answered, and the child is as it was. -/
theorem call_refused {k : Nat} {op : w.Op} {aborted : Bool} {start : Except Failure UInt32}
    {release : Except Failure Unit} (h : s.refuses op = true)
    (hstep : s.step (.call k op aborted start release) = some t) :
    ∃ flags, w.enter op s.operatorClosed s.flags = .ok flags ∧
      t = { s with
        js := s.js.setCall k (w.jsOp op) (cls.returning (w.jsOp op) (cls.busyAnswer (w.jsOp op)))
        flags }.setTask k op .waiting := by
  unfold refuses at h
  obtain ⟨-, ⟨reply, henter, -⟩ | ⟨flags, js, henter, hjs, rfl⟩⟩ := call_cases hstep
  · simp only [henter, Bool.false_eq_true] at h
  · simp only [henter, Bool.and_eq_true, Option.isNone_iff_eq_none, Bool.not_eq_true',
      decide_eq_false_iff_not] at h
    obtain ⟨⟨hshortcut, husable⟩, hactive⟩ := h
    rw [ChildSystem.step_call_busy (ChildSystem.call_cases hjs).1 hshortcut husable hactive] at hjs
    cases hjs
    exact ⟨flags, henter, rfl⟩

/-- A refused call neither touches the child nor waits for a task, whatever the bridge would have
answered to a start. -/
theorem starts_nothing {k : Nat} {op : w.Op} {aborted : Bool} {start : Except Failure UInt32}
    {release : Except Failure Unit} (h : s.refuses op = true)
    (hstep : s.step (.call k op aborted start release) = some t) :
    t.js.child = s.js.child ∧ ∃ phase, t.js.calls k = some ⟨w.jsOp op, phase⟩ ∧ ¬ phase.InFlight := by
  obtain ⟨flags, -, rfl⟩ := call_refused h hstep
  exact ⟨rfl, _, ChildSystem.calls_setCall_self, ChildSystem.not_inFlight_returning _ _⟩

/-- The condition on the refused calls: neither making one nor going on from it changes the
flags, and the child is closed only when no other call can notice. -/
structure Harmless (R : Nat → Bool) (s : WrapperSystem w) (e : WrapperEvent w) : Prop where
  call : ∀ k op aborted start release, e = .call k op aborted start release → R k = true →
    ∀ flags, w.enter op s.operatorClosed s.flags = .ok flags → flags = s.flags
  resume : ∀ k cancelled release, e = .resume k cancelled release → R k = true →
    ∀ op, s.tasks k = some ⟨op, .waiting⟩ →
      ∀ resumed, (resumed = .cancelled ∨ ∃ e, resumed = .failed e) →
        (w.resume op resumed s.flags).2.1 = s.flags ∧
          ((w.resume op resumed s.flags).2.2 = true →
            w.Terminal s.flags ∧ (s.js.Idle ∨ s.js.Over R))

/-- The run `t` without the tasks in `R` beside the run `s` with them. -/
structure Sim (R : Nat → Bool) (s t : WrapperSystem w) : Prop where
  flags : t.flags = s.flags
  operatorClosed : t.operatorClosed = s.operatorClosed
  js : ChildSystem.Erased R s.js t.js
  terminal : t.js.child = s.js.child ∨ w.Terminal s.flags
  kept : ∀ k, R k = false → t.tasks k = s.tasks k
  gone : ∀ k, R k = true → t.tasks k = none

theorem Sim.setTask (h : Sim R s t) {k : Nat} (hk : R k = false) {op : w.Op} {phase : TaskPhase V} :
    Sim R (s.setTask k op phase) (t.setTask k op phase) where
  flags := h.flags
  operatorClosed := h.operatorClosed
  js := h.js
  terminal := h.terminal
  kept j hj := by
    by_cases hjk : j = k
    · rw [hjk, tasks_setTask_self, tasks_setTask_self]
    · rw [tasks_setTask_of_ne hjk, tasks_setTask_of_ne hjk]
      exact h.kept j hj
  gone j hj := by
    have hjk : j ≠ k := by
      intro heq
      rw [heq, hk] at hj
      cases hj
    rw [tasks_setTask_of_ne hjk]
    exact h.gone j hj

theorem Sim.setTask_refused (h : Sim R s t) {k : Nat} (hk : R k = true) {op : w.Op}
    {phase : TaskPhase V} : Sim R (s.setTask k op phase) t where
  flags := h.flags
  operatorClosed := h.operatorClosed
  js := h.js
  terminal := h.terminal
  kept j hj := by
    have hjk : j ≠ k := by
      intro heq
      rw [heq, hk] at hj
      cases hj
    rw [tasks_setTask_of_ne hjk]
    exact h.kept j hj
  gone := h.gone

/-- The children move on, with equal objects or under terminal flags. -/
theorem Sim.child (h : Sim R s t) {js js' : ChildSystem cls} (herased : ChildSystem.Erased R js js')
    (hterminal : js'.child = js.child ∨ w.Terminal s.flags) :
    Sim R { s with js } { t with js := js' } :=
  ⟨h.flags, h.operatorClosed, herased, hterminal, h.kept, h.gone⟩

theorem Sim.closeChild (h : Sim R s t) (hkept : s.js.Kept) (release : Except Failure Unit) :
    Sim R (s.closeChild release) (t.closeChild release) := by
  refine h.child (h.js.close hkept) ?_
  rcases h.terminal with hsame | hterminal
  · exact Or.inl (ChildSystem.child_close_eq hsame)
  · exact Or.inr hterminal

/-- Both runs go on under the same new flags. -/
theorem Sim.withFlags (h : Sim R s t) {flags : w.Flags}
    (hterminal : w.Terminal s.flags → w.Terminal flags) :
    Sim R { s with flags } { t with flags } where
  flags := rfl
  operatorClosed := h.operatorClosed
  js := h.js
  terminal := h.terminal.imp id hterminal
  kept := h.kept
  gone := h.gone

/-- A kept event does the same in both runs. -/
theorem Sim.keep (hw : w.Lawful) (h : Sim R s t) (hkept : s.js.Kept) {e : WrapperEvent w}
    (hstep : s.step e = some s') (he : e.keeps R = true) : ∃ t', t.step e = some t' ∧ Sim R s' t' := by
  -- an event of the child that the wrapper only passes on
  have hpass : ∀ {js : ChildSystem cls} {step : Option (ChildSystem cls)},
      (∃ js', step = some js' ∧ ChildSystem.Erased R js js' ∧
        (t.js.child = s.js.child → js'.child = js.child)) →
      ∃ t', (step.map fun js => { t with js }) = some t' ∧ Sim R { s with js } t' := by
    intro js step hjs
    obtain ⟨js', rfl, herased, hchild⟩ := hjs
    exact ⟨_, rfl, h.child herased (h.terminal.imp hchild id)⟩
  cases e with
  | call k op aborted start release =>
    have hk : R k = false := WrapperEvent.kept_task rfl he
    obtain ⟨hfree, hcases⟩ := call_cases hstep
    have hfree' : t.tasks k = none := (h.kept k hk).trans hfree
    have henter' : w.enter op t.operatorClosed t.flags = w.enter op s.operatorClosed s.flags := by
      rw [h.operatorClosed, h.flags]
    rcases hcases with ⟨reply, henter, rfl⟩ | ⟨flags, js, henter, hjs, rfl⟩
    · exact ⟨_, by simp only [step, hfree', henter', henter], h.setTask hk⟩
    · have hsame : t.js.child = s.js.child := by
        rcases h.terminal with hsame | hterminal
        · exact hsame
        · obtain ⟨reply, hreply⟩ := hterminal op s.operatorClosed
          rw [hreply] at henter
          cases henter
      obtain ⟨js', hjs', hchild, herased⟩ := h.js.call hsame hk hjs
      refine ⟨_, by simp only [step, hfree', henter', henter, hjs', Option.map_some]; rfl, ?_⟩
      exact Sim.setTask (s := { s with js, flags }) (t := { t with js := js', flags })
        ⟨rfl, h.operatorClosed, herased, Or.inl hchild, h.kept, h.gone⟩ hk
  | settle k answer =>
    have hk : R k = false := WrapperEvent.kept_task rfl he
    obtain ⟨js, hjs, rfl⟩ := Option.map_eq_some_iff.mp hstep
    exact hpass (h.js.settle hk hjs)
  | resumeTask k release =>
    have hk : R k = false := WrapperEvent.kept_task rfl he
    obtain ⟨js, hjs, rfl⟩ := Option.map_eq_some_iff.mp hstep
    exact hpass (h.js.resumeTask hk hkept hjs)
  | resumeNext k release =>
    have hk : R k = false := WrapperEvent.kept_task rfl he
    obtain ⟨js, hjs, rfl⟩ := Option.map_eq_some_iff.mp hstep
    exact hpass (h.js.resumeNext hk hkept hjs)
  | resume k cancelled release =>
    have hk : R k = false := WrapperEvent.kept_task rfl he
    obtain ⟨op, resumed, htask, hresumed, rfl⟩ := resume_cases hstep
    have htask' : t.tasks k = some ⟨op, .waiting⟩ := (h.kept k hk).trans htask
    have hresumed' : t.resumed k cancelled = some resumed := by
      rw [← hresumed, WrapperSystem.resumed, WrapperSystem.resumed, h.js.kept k hk]
    refine ⟨_, by simp only [step, htask', hresumed', h.flags]; rfl, ?_⟩
    have hgone : Sim R ({ s with flags := (w.resume op resumed s.flags).2.1 }.setTask k op
          (.replied (w.resume op resumed s.flags).1))
        ({ t with flags := (w.resume op resumed s.flags).2.1 }.setTask k op
          (.replied (w.resume op resumed s.flags).1)) :=
      (h.withFlags (hw.resume op resumed s.flags)).setTask hk
    by_cases hcloses : (w.resume op resumed s.flags).2.2 = true
    · rw [if_pos hcloses, if_pos hcloses]
      exact hgone.closeChild hkept release
    · rw [if_neg hcloses, if_neg hcloses]
      exact hgone
  | close release =>
    simp only [step] at hstep ⊢
    rw [h.flags]
    cases hclose : w.close s.flags with
    | none =>
      simp only [hclose] at hstep
      cases hstep
      exact ⟨t, rfl, h⟩
    | some flags =>
      simp only [hclose] at hstep
      cases hstep
      exact ⟨_, rfl, (h.withFlags fun hterminal =>
        hw.close s.flags flags hterminal hclose).closeChild hkept release⟩
  | operatorClose release =>
    simp only [step] at hstep ⊢
    rw [h.operatorClosed]
    by_cases hclosed : s.operatorClosed = true
    · rw [if_pos hclosed] at hstep ⊢
      cases hstep
      exact ⟨t, rfl, h⟩
    · rw [if_neg hclosed] at hstep ⊢
      cases hstep
      exact ⟨_, rfl, h.flags, rfl, h.js.operatorClose hkept,
        h.terminal.imp ChildSystem.child_operatorClose_eq id, h.kept, h.gone⟩

/-- How the method around a refused call goes on. -/
theorem Sim.resumed_refused (h : Sim R s t) {k : Nat} (hk : R k = true) {cancelled : Bool}
    {resumed : Resumed V} (hresumed : s.resumed k cancelled = some resumed) :
    resumed = .cancelled ∨ ∃ e, resumed = .failed e := by
  unfold WrapperSystem.resumed at hresumed
  cases cancelled with
  | true =>
    cases hresumed
    exact Or.inl rfl
  | false =>
    simp only [Bool.false_eq_true, if_false] at hresumed
    split at hresumed
    · rename_i op answer hcall
      rcases h.js.refused k op _ hcall hk with hphase | hphase
      · cases hphase
      · cases hphase
        cases hresumed
        exact Or.inr ⟨_, rfl⟩
    · cases hresumed

/-- An event of a refused call leaves the other run where it is. -/
theorem Sim.drop (h : Sim R s t) (hkept : s.js.Kept) {e : WrapperEvent w}
    (hstep : s.step e = some s') (hrefused : Refused R s e) (hharmless : Harmless R s e)
    (he : e.keeps R = false) : Sim R s' t := by
  cases e with
  | call k op aborted start release =>
    have hk : R k = true := WrapperEvent.dropped_task rfl he
    obtain ⟨flags, henter, rfl⟩ := call_refused (hrefused k op aborted start release rfl hk) hstep
    have hflags := hharmless.call k op aborted start release rfl hk flags henter
    subst hflags
    have hphase : cls.returning (w.jsOp op) (cls.busyAnswer (w.jsOp op)) =
          .returning (cls.busyAnswer (w.jsOp op)) ∨
        cls.returning (w.jsOp op) (cls.busyAnswer (w.jsOp op)) =
          .returned (cls.busyAnswer (w.jsOp op)) := ChildSystem.returning_cases _ _
    exact (h.child (h.js.set_refused hk hphase) h.terminal).setTask_refused hk
  | settle k answer =>
    have hk : R k = true := WrapperEvent.dropped_task rfl he
    obtain ⟨js, hjs, rfl⟩ := Option.map_eq_some_iff.mp hstep
    obtain ⟨-, op, task, hcall, -⟩ := Browser.settle_cases hjs
    rcases h.js.refused k op _ hcall hk with hphase | hphase <;> cases hphase
  | resumeTask k release =>
    have hk : R k = true := WrapperEvent.dropped_task rfl he
    obtain ⟨js, hjs, rfl⟩ := Option.map_eq_some_iff.mp hstep
    obtain ⟨op, settled, hcall, -⟩ := Browser.resumeTask_cases hjs
    rcases h.js.refused k op _ hcall hk with hphase | hphase <;> cases hphase
  | resumeNext k release =>
    have hk : R k = true := WrapperEvent.dropped_task rfl he
    obtain ⟨js, hjs, rfl⟩ := Option.map_eq_some_iff.mp hstep
    obtain ⟨op, returned, post, hcall, -, -⟩ := Browser.resumeNext_cases hjs
    have hbusy : returned = cls.busyAnswer op := by
      rcases h.js.refused k op _ hcall hk with hphase | hphase
      · cases hphase
        rfl
      · cases hphase
    subst hbusy
    rw [ChildSystem.resumeNext_busy hcall hjs]
    exact h.child (h.js.set_refused hk (Or.inr rfl)) h.terminal
  | resume k cancelled release =>
    have hk : R k = true := WrapperEvent.dropped_task rfl he
    obtain ⟨op, resumed, htask, hresumed, rfl⟩ := resume_cases hstep
    obtain ⟨hflags, hcloses⟩ := hharmless.resume k cancelled release rfl hk op htask resumed
      (h.resumed_refused hk hresumed)
    rw [hflags]
    have hreplied : Sim R (s.setTask k op (.replied (w.resume op resumed s.flags).1)) t :=
      h.setTask_refused hk
    by_cases hclose : (w.resume op resumed s.flags).2.2 = true
    · obtain ⟨hterminal, hquiet⟩ := hcloses hclose
      rw [if_pos hclose]
      exact ⟨h.flags, h.operatorClosed, h.js.close_first hkept hquiet, Or.inr hterminal,
        hreplied.kept, hreplied.gone⟩
    · rw [if_neg hclose]
      exact hreplied
  | close release => cases he
  | operatorClose release => cases he

/-- All other tasks and calls have come to the same. -/
structure SameOutside (R : Nat → Bool) (s t : WrapperSystem w) : Prop where
  tasks : ∀ k, R k = false → t.tasks k = s.tasks k
  calls : ∀ k, R k = false → t.js.calls k = s.js.calls k

theorem Sim.same (h : Sim R s t) : SameOutside R s t := ⟨h.kept, h.js.kept⟩

/-- A new object around a child of its own. -/
def opened (w : Wrapper cls) (flags : w.Flags) (handle : UInt32) : WrapperSystem w where
  js := { child := { handle } }
  flags := flags

theorem sim_opened (w : Wrapper cls) (flags : w.Flags) (handle : UInt32) (R : Nat → Bool) :
    Sim R (opened w flags handle) (opened w flags handle) where
  flags := rfl
  operatorClosed := rfl
  js := ⟨rfl, Or.inl rfl, fun _ _ => rfl, fun _ _ => rfl, fun k op phase hk => by cases hk⟩
  terminal := Or.inl rfl
  kept _ _ := rfl
  gone _ _ := rfl

/-- A run whose refused calls are harmless, without them. -/
theorem Sim.run_erase (hw : w.Lawful) (h : Sim R s t) {es : List (WrapperEvent w)}
    (hes : Along WrapperSystem.step
      (fun s e => s.js.Kept ∧ Refused R s e ∧ Harmless R s e) s es)
    (hrun : run WrapperSystem.step s es = some s') :
    ∃ t', run WrapperSystem.step t (es.filter (WrapperEvent.keeps R)) = some t' ∧ Sim R s' t' := by
  refine run_filter (R := Sim R) ?_ ?_ hes hrun h
  · intro s e s' t hstep hC hkeep hsim
    exact hsim.keep hw hC.1 hstep hkeep
  · intro s e s' t hstep hC hdrop hsim
    exact hsim.drop hC.1 hstep hC.2.1 hC.2.2 hdrop

end WrapperSystem

/-! ## Read streams and listers -/

section Cursors

variable {cursor : Cursor V} {context : ErrorContext} {closedMessage rejectedMessage : String}

theorem cursor_terminal_iff {flags : CursorFlags} :
    (cursorWrapper cursor context closedMessage rejectedMessage).Terminal flags ↔
      flags.ended = true ∨ flags.closed = true := by
  constructor
  · intro h
    obtain ⟨reply, henter⟩ := h () false
    by_contra hopen
    rw [not_or] at hopen
    simp only [if_neg hopen.1, hopen.2, Bool.or_false, Bool.false_eq_true, if_false] at henter
    cases henter
  · intro h op operatorClosed
    by_cases hended : flags.ended = true
    · exact ⟨_, if_pos hended⟩
    · have hclosed := h.resolve_left hended
      refine ⟨.raised (localError .resourceClosed closedMessage context), ?_⟩
      simp only [if_neg hended, hclosed, Bool.true_or, if_true]

theorem cursor_enter_eq {op : Unit} {operatorClosed : Bool} {flags flags' : CursorFlags}
    (h : (cursorWrapper cursor context closedMessage rejectedMessage).enter op operatorClosed flags =
      .ok flags') : flags' = flags := by
  simp only at h
  split at h
  · cases h
  · split at h
    · cases h
    · cases h
      rfl

/-- A method leaves the flags, or it sets `closed` and closes the child. -/
theorem cursor_resume_cases (op : Unit) (resumed : Resumed V) (flags : CursorFlags) :
    (((cursorWrapper cursor context closedMessage rejectedMessage).resume op resumed flags).2.1 =
        flags ∧
      ((cursorWrapper cursor context closedMessage rejectedMessage).resume op resumed flags).2.2 =
        false) ∨
      ((cursorWrapper cursor context closedMessage rejectedMessage).resume op resumed
          flags).2.1.closed = true ∧
        ((cursorWrapper cursor context closedMessage rejectedMessage).resume op resumed flags).2.2 =
          true := by
  cases resumed with
  | cancelled => exact Or.inr ⟨rfl, rfl⟩
  | rejected => exact Or.inr ⟨rfl, rfl⟩
  | failed e => exact Or.inr ⟨rfl, rfl⟩
  | value v =>
    by_cases hend : cursor.post v = .end
    · simp only [if_pos hend]
      exact Or.inr ⟨trivial, trivial⟩
    · simp only [if_neg hend]
      exact Or.inl ⟨trivial, trivial⟩

theorem cursor_lawful : (cursorWrapper cursor context closedMessage rejectedMessage).Lawful where
  resume op resumed flags h := by
    rcases cursor_resume_cases op resumed flags with ⟨hflags, -⟩ | ⟨hclosed, -⟩
    · rw [hflags]
      exact h
    · exact cursor_terminal_iff.mpr (Or.inr hclosed)
  close flags flags' h hclose := by
    simp only at hclose
    split at hclose
    · cases hclose
    · cases hclose
      exact cursor_terminal_iff.mpr (Or.inr rfl)

/-- A closed stream or lister has an idle child. -/
structure CursorInvariant
    (s : WrapperSystem (cursorWrapper cursor context closedMessage rejectedMessage)) : Prop where
  kept : s.js.Kept
  idle : s.flags.closed = true → s.js.Idle

theorem CursorInvariant.step
    {s t : WrapperSystem (cursorWrapper cursor context closedMessage rejectedMessage)}
    {e : WrapperEvent (cursorWrapper cursor context closedMessage rejectedMessage)}
    (h : CursorInvariant s) (hstep : s.step e = some t) : CursorInvariant t := by
  have hkept := WrapperSystem.preserves_kept hstep h.kept
  have hidle : s.flags.closed = true → t.js.Idle := by
    intro hclosed
    rcases WrapperSystem.js_step hstep with hjs | ⟨e', hjs⟩
    · rw [hjs]
      exact h.idle hclosed
    · exact (h.idle hclosed).step h.kept hjs
  refine ⟨hkept, ?_⟩
  cases e with
  | call k op aborted start release =>
    obtain ⟨-, ⟨reply, -, rfl⟩ | ⟨flags, js, henter, -, rfl⟩⟩ := WrapperSystem.call_cases hstep
    · exact hidle
    · rw [cursor_enter_eq henter] at hidle ⊢
      exact hidle
  | settle k answer =>
    obtain ⟨js, hjs, rfl⟩ := Option.map_eq_some_iff.mp hstep
    exact hidle
  | resumeTask k release =>
    obtain ⟨js, hjs, rfl⟩ := Option.map_eq_some_iff.mp hstep
    exact hidle
  | resumeNext k release =>
    obtain ⟨js, hjs, rfl⟩ := Option.map_eq_some_iff.mp hstep
    exact hidle
  | resume k cancelled release =>
    obtain ⟨op, resumed, -, -, rfl⟩ := WrapperSystem.resume_cases hstep
    rcases @cursor_resume_cases V cursor context closedMessage rejectedMessage op resumed s.flags with
      ⟨hflags, hcloses⟩ | ⟨-, hcloses⟩
    · have hopen : ¬ ((cursorWrapper cursor context closedMessage rejectedMessage).resume op resumed
          s.flags).2.2 = true := by
        rw [hcloses]
        exact Bool.false_ne_true
      rw [if_neg hopen] at hidle ⊢
      intro hclosed
      apply hidle
      rw [← hflags]
      exact hclosed
    · rw [if_pos hcloses] at hkept ⊢
      exact fun _ => hkept.idle ChildSystem.state_close
  | close release =>
    simp only [WrapperSystem.step] at hstep
    by_cases hclosed : s.flags.closed = true
    · simp only [if_pos hclosed] at hstep
      cases hstep
      exact hidle
    · simp only [if_neg hclosed] at hstep
      cases hstep
      exact fun _ => hkept.idle ChildSystem.state_close
  | operatorClose release =>
    simp only [WrapperSystem.step] at hstep
    split at hstep
    · cases hstep
      exact hidle
    · cases hstep
      exact hidle

/-- The condition for a stream or a lister: the method around a refused call goes on only when the
object is closed already. -/
def CursorHarmless (R : Nat → Bool)
    (s : WrapperSystem (cursorWrapper cursor context closedMessage rejectedMessage))
    (e : WrapperEvent (cursorWrapper cursor context closedMessage rejectedMessage)) : Prop :=
  ∀ k cancelled release, e = .resume k cancelled release → R k = true → s.flags.closed = true

theorem CursorInvariant.harmless {R : Nat → Bool}
    {s : WrapperSystem (cursorWrapper cursor context closedMessage rejectedMessage)}
    {e : WrapperEvent (cursorWrapper cursor context closedMessage rejectedMessage)}
    (h : CursorInvariant s) (he : CursorHarmless R s e) : WrapperSystem.Harmless R s e where
  call k op aborted start release _ _ flags henter := cursor_enter_eq henter
  resume k cancelled release hresume hk op _ resumed hresumed := by
    have hclosed := he k cancelled release hresume hk
    have hflags : { s.flags with closed := true } = s.flags := by
      rw [← hclosed]
    have hquiet : (cursorWrapper cursor context closedMessage rejectedMessage).Terminal s.flags ∧
        (s.js.Idle ∨ s.js.Over R) :=
      ⟨cursor_terminal_iff.mpr (Or.inr hclosed), Or.inl (h.idle hclosed)⟩
    rcases hresumed with rfl | ⟨e, rfl⟩
    · exact ⟨hflags, fun _ => hquiet⟩
    · exact ⟨hflags, fun _ => hquiet⟩

end Cursors

/-! ## Writers -/

section Writers

variable {path : String}

theorem writer_terminal_iff {lifecycle : WriterLifecycle} :
    (asyncWriter path).Terminal lifecycle ↔ lifecycle ≠ .writerOpen := by
  constructor
  · intro h hopen
    obtain ⟨reply, henter⟩ := h .finish false
    rw [hopen] at henter
    cases henter
  · intro h op operatorClosed
    have hensure : writerEnsureOpen path operatorClosed lifecycle = .error (.raised
        (localError .resourceClosed "browser writer is closed" (writerContext path))) :=
      if_pos (Or.inl h)
    cases op with
    | write chunk => exact ⟨_, by simp only [writerEnter, hensure]; rfl⟩
    | finish => exact ⟨_, by simp only [writerEnter, hensure]; rfl⟩
    | abort =>
      by_cases haborted : lifecycle = .writerAborted
      · exact ⟨_, if_pos haborted⟩
      · exact ⟨_, by simp only [writerEnter, if_neg haborted, hensure]; rfl⟩

theorem writer_lawful : (asyncWriter path).Lawful where
  resume op resumed lifecycle h := by
    rw [writer_terminal_iff] at h ⊢
    cases op <;> cases resumed <;> first | exact h | exact WriterLifecycle.noConfusion
  close lifecycle lifecycle' h hclose := by
    have hnone : (asyncWriter path).close lifecycle = none :=
      if_neg (writer_terminal_iff.mp h)
    rw [hnone] at hclose
    cases hclose

/-- A write is made under the flags that it found. -/
theorem writer_enter_write {chunk : List UInt8} {operatorClosed : Bool}
    {lifecycle lifecycle' : WriterLifecycle}
    (h : writerEnter path (.write chunk) operatorClosed lifecycle = .ok lifecycle') :
    lifecycle' = lifecycle := by
  unfold writerEnter at h
  cases hensure : writerEnsureOpen path operatorClosed lifecycle with
  | error reply =>
    simp only [hensure] at h
    cases h
  | ok opened =>
    simp only [hensure] at h
    by_cases hlarge : chunk.length > 256 * 1024
    · simp only [if_pos hlarge] at h
      cases h
    · simp only [if_neg hlarge] at h
      cases h
      rfl

/-- A writer's child that is not open is idle, and its calls have no continuation of their own. -/
structure WriterInvariant (R : Nat → Bool) (s : WrapperSystem (asyncWriter path)) : Prop where
  kept : s.js.Kept
  idle : s.js.child.state ≠ .open → s.js.Idle
  finished : ∀ k op phase, s.js.calls k = some ⟨op, phase⟩ → ∀ answer, phase ≠ .returning answer
  writes : ∀ k op phase, s.tasks k = some ⟨op, phase⟩ → R k = true → ∃ chunk, op = .write chunk

/-- The condition for a writer: only writes are refused, and the method around a refused write
goes on only when the writer is terminal and its child, if open, has nothing in flight. -/
structure WriterHarmless (R : Nat → Bool) (s : WrapperSystem (asyncWriter path))
    (e : WrapperEvent (asyncWriter path)) : Prop where
  write : ∀ k op aborted start release, e = .call k op aborted start release → R k = true →
    ∃ chunk, op = .write chunk
  resume : ∀ k cancelled release, e = .resume k cancelled release → R k = true →
    s.flags = .writerTerminal ∧ (s.js.child.state = .open →
      ∀ j op phase, s.js.calls j = some ⟨op, phase⟩ → ¬ phase.InFlight)

theorem WriterInvariant.step {R : Nat → Bool} {s t : WrapperSystem (asyncWriter path)}
    {e : WrapperEvent (asyncWriter path)} (h : WriterInvariant R s) (hstep : s.step e = some t)
    (he : WriterHarmless R s e) : WriterInvariant R t := by
  have hpost : ∀ op, (writerClass path).post op = none := fun _ => rfl
  refine ⟨WrapperSystem.preserves_kept hstep h.kept, ?_, ?_, ?_⟩
  · intro hstate
    rcases WrapperSystem.js_step hstep with hjs | ⟨e', hjs⟩
    · rw [hjs] at hstate ⊢
      exact h.idle hstate
    · exact ChildSystem.idle_of_step hpost h.kept h.idle hjs hstate
  · rcases WrapperSystem.js_step hstep with hjs | ⟨e', hjs⟩
    · rw [hjs]
      exact h.finished
    · exact ChildSystem.not_returning_of_step hpost h.finished hjs
  · intro k op phase hk hR
    rcases WrapperSystem.tasks_step hstep with hsame | ⟨j, op', aborted, start, release, phase', rfl,
        -, hset⟩ | ⟨j, op', reply, hj, hset⟩
    · rw [hsame] at hk
      exact h.writes k op phase hk hR
    · by_cases hkj : k = j
      · rw [hset, hkj, Function.update_self] at hk
        cases hk
        exact he.write j op aborted start release rfl (hkj ▸ hR)
      · rw [hset, Function.update_of_ne hkj] at hk
        exact h.writes k op phase hk hR
    · by_cases hkj : k = j
      · rw [hset, hkj, Function.update_self] at hk
        cases hk
        exact h.writes j op _ hj (hkj ▸ hR)
      · rw [hset, Function.update_of_ne hkj] at hk
        exact h.writes k op phase hk hR

theorem WriterInvariant.harmless {R : Nat → Bool} {s : WrapperSystem (asyncWriter path)}
    {e : WrapperEvent (asyncWriter path)} (h : WriterInvariant R s) (he : WriterHarmless R s e) :
    WrapperSystem.Harmless R s e where
  call k op aborted start release hcall hk flags henter := by
    obtain ⟨chunk, rfl⟩ := he.write k op aborted start release hcall hk
    exact writer_enter_write henter
  resume k cancelled release hresume hk op htask resumed hresumed := by
    obtain ⟨chunk, rfl⟩ := h.writes k op _ htask hk
    obtain ⟨hterminal, hflight⟩ := he.resume k cancelled release hresume hk
    have hquiet : (asyncWriter path).Terminal s.flags ∧ (s.js.Idle ∨ s.js.Over R) := by
      refine ⟨writer_terminal_iff.mpr (by rw [hterminal]; exact WriterLifecycle.noConfusion), ?_⟩
      by_cases hopen : s.js.child.state = .open
      · refine Or.inr fun j op phase hj _ => ?_
        have hnot := hflight hopen j op phase hj
        cases phase with
        | settling task => exact absurd trivial hnot
        | settled answer => exact absurd trivial hnot
        | returning answer => exact absurd rfl (h.finished j op _ hj answer)
        | returned answer => exact ⟨answer, rfl⟩
      · exact Or.inl (h.idle hopen)
    rcases hresumed with rfl | ⟨e, rfl⟩
    · exact ⟨hterminal.symm, fun _ => hquiet⟩
    · exact ⟨hterminal.symm, fun _ => hquiet⟩

end Writers

/-! ## The calls that are not refused -/

/-- A stream or a lister as `open_read_stream` and `open_lister` make it. -/
def openedCursor (cursor : Cursor V) (context : ErrorContext)
    (closedMessage rejectedMessage : String) (handle : UInt32) :
    WrapperSystem (cursorWrapper cursor context closedMessage rejectedMessage) :=
  .opened (cursorWrapper cursor context closedMessage rejectedMessage) ({} : CursorFlags) handle

/-- A writer as `open_writer` makes it. -/
def openedWriter (path : String) (handle : UInt32) : WrapperSystem (asyncWriter path) :=
  .opened (asyncWriter path) .writerOpen handle

section Outcome

variable (R : Nat → Bool)

theorem cursor_erase (cursor : Cursor V) (context : ErrorContext)
    (closedMessage rejectedMessage : String) (handle : UInt32)
    {es : List (WrapperEvent (cursorWrapper cursor context closedMessage rejectedMessage))}
    {s : WrapperSystem (cursorWrapper cursor context closedMessage rejectedMessage)}
    (hes : Along WrapperSystem.step
      (fun s e => WrapperSystem.Refused R s e ∧ CursorHarmless R s e)
        (openedCursor cursor context closedMessage rejectedMessage handle) es)
    (hrun : run WrapperSystem.step
      (openedCursor cursor context closedMessage rejectedMessage handle) es = some s) :
    ∃ t, run WrapperSystem.step (openedCursor cursor context closedMessage rejectedMessage handle)
        (es.filter (WrapperEvent.keeps R)) = some t ∧ WrapperSystem.SameOutside R s t := by
  have hopened : CursorInvariant
      (openedCursor cursor context closedMessage rejectedMessage handle) :=
    ⟨ChildSystem.kept_opened handle, fun hclosed => by cases hclosed⟩
  have hgeneral : Along WrapperSystem.step
      (fun s e => s.js.Kept ∧ WrapperSystem.Refused R s e ∧ WrapperSystem.Harmless R s e)
        (openedCursor cursor context closedMessage rejectedMessage handle) es := by
    refine hes.of_invariant (I := CursorInvariant) ?_ ?_ hopened
    · intro s e t hstep _ hs
      exact hs.step hstep
    · intro s e hs he
      exact ⟨hs.kept, he.1, hs.harmless he.2⟩
  obtain ⟨t, ht, hsim⟩ :=
    (WrapperSystem.sim_opened _ ({} : CursorFlags) handle R).run_erase cursor_lawful hgeneral hrun
  exact ⟨t, ht, hsim.same⟩

theorem writer_erase (path : String) (handle : UInt32) {es : List (WrapperEvent (asyncWriter path))}
    {s : WrapperSystem (asyncWriter path)}
    (hes : Along WrapperSystem.step
      (fun s e => WrapperSystem.Refused R s e ∧ WriterHarmless R s e) (openedWriter path handle) es)
    (hrun : run WrapperSystem.step (openedWriter path handle) es = some s) :
    ∃ t, run WrapperSystem.step (openedWriter path handle) (es.filter (WrapperEvent.keeps R)) =
      some t ∧ WrapperSystem.SameOutside R s t := by
  have hopened : WriterInvariant R (openedWriter path handle) :=
    ⟨ChildSystem.kept_opened handle, fun hstate => absurd rfl hstate,
      fun k op phase hk => (by cases hk), fun k op phase hk => (by cases hk)⟩
  have hgeneral : Along WrapperSystem.step
      (fun s e => s.js.Kept ∧ WrapperSystem.Refused R s e ∧ WrapperSystem.Harmless R s e)
        (openedWriter path handle) es := by
    refine hes.of_invariant (I := WriterInvariant R) ?_ ?_ hopened
    · intro s e t hstep he hs
      exact hs.step hstep he.2
    · intro s e hs he
      exact ⟨hs.kept, he.1, hs.harmless he.2⟩
  obtain ⟨t, ht, hsim⟩ :=
    (WrapperSystem.sim_opened (asyncWriter path) .writerOpen handle R).run_erase writer_lawful hgeneral hrun
  exact ⟨t, ht, hsim.same⟩

end Outcome

/-- A refused call starts no operation, and all other calls come to the same as without it, where
the method around it goes on only once it has nothing left to undo. -/
theorem refused_call_harmless (cursor : Cursor V) (context : ErrorContext)
    (closedMessage rejectedMessage path : String) (handle : UInt32) (R : Nat → Bool) :
    (∀ es s, run WrapperSystem.step
          (openedCursor cursor context closedMessage rejectedMessage handle) es = some s →
        (∀ k op aborted start release t, s.refuses op = true →
          s.step (.call k op aborted start release) = some t →
            t.js.child = s.js.child ∧
              ∃ phase, t.js.calls k = some ⟨(), phase⟩ ∧ ¬ phase.InFlight) ∧
          (Along WrapperSystem.step (fun s e => WrapperSystem.Refused R s e ∧ CursorHarmless R s e)
            (openedCursor cursor context closedMessage rejectedMessage handle) es →
          ∃ t, run WrapperSystem.step
              (openedCursor cursor context closedMessage rejectedMessage handle)
              (es.filter (WrapperEvent.keeps R)) = some t ∧ WrapperSystem.SameOutside R s t)) ∧
      ∀ es s, run WrapperSystem.step (openedWriter path handle) es = some s →
        (∀ k op aborted start release t, s.refuses op = true →
          s.step (.call k op aborted start release) = some t →
            t.js.child = s.js.child ∧
              ∃ phase, t.js.calls k = some ⟨op.jsOp, phase⟩ ∧ ¬ phase.InFlight) ∧
          (Along WrapperSystem.step (fun s e => WrapperSystem.Refused R s e ∧ WriterHarmless R s e)
            (openedWriter path handle) es →
          ∃ t, run WrapperSystem.step (openedWriter path handle)
              (es.filter (WrapperEvent.keeps R)) = some t ∧ WrapperSystem.SameOutside R s t) := by
  constructor
  · intro es s hrun
    refine ⟨?_, fun hes => cursor_erase R cursor context closedMessage rejectedMessage handle hes hrun⟩
    intro k op aborted start release t hrefuses hstep
    exact WrapperSystem.starts_nothing hrefuses hstep
  · intro es s hrun
    refine ⟨?_, fun hes => writer_erase R path handle hes hrun⟩
    intro k op aborted start release t hrefuses hstep
    exact WrapperSystem.starts_nothing hrefuses hstep

/-- A stream closed while the refusal of its second call is still to be delivered. -/
theorem refused_call_harmless_closed :
    ∃ s t, run WrapperSystem.step (openedCursor (readStreamCursor "f" 4) { operation := .read } "" ""
          7)
        [.call 0 () false (.ok 1) (.ok ()), .call 1 () false (.ok 2) (.ok ()), .close (.ok ()),
          .resumeNext 1 (.ok ()), .resume 1 false (.ok ())] = some s ∧
      run WrapperSystem.step (openedCursor (readStreamCursor "f" 4) { operation := .read } "" "" 7)
        [.call 0 () false (.ok 1) (.ok ()), .close (.ok ())] = some t ∧
      WrapperSystem.SameOutside (fun k => decide (k = 1)) s t := by
  obtain ⟨-, herase⟩ := (refused_call_harmless (readStreamCursor "f" 4) { operation := .read } "" ""
    "f" 7 fun k => decide (k = 1)).1 [.call 0 () false (.ok 1) (.ok ()),
      .call 1 () false (.ok 2) (.ok ()), .close (.ok ()), .resumeNext 1 (.ok ()),
      .resume 1 false (.ok ())] _ rfl
  have hkept : ∀ (s : WrapperSystem (cursorWrapper (readStreamCursor "f" 4) { operation := .read }
      "" "")) e, e.keeps (fun k => decide (k = 1)) = true →
        WrapperSystem.Refused (fun k => decide (k = 1)) s e ∧
          CursorHarmless (fun k => decide (k = 1)) s e := by
    intro s e he
    have hnone : ∀ k, e.task? = some k → ¬ decide (k = 1) = true := fun k hk htrue => by
      have hfalse := WrapperEvent.kept_task hk he
      rw [htrue] at hfalse
      cases hfalse
    refine ⟨?_, ?_⟩
    · intro k op aborted start release heq hk
      subst heq
      exact absurd hk (hnone k rfl)
    · intro k cancelled release heq hk
      subst heq
      exact absurd hk (hnone k rfl)
  obtain ⟨t, ht, hsame⟩ := herase (by
    refine ⟨hkept _ _ rfl, fun s hs => ?_⟩
    cases hs
    refine ⟨⟨?_, fun k cancelled release heq => by cases heq⟩, fun s hs => ?_⟩
    · intro k op aborted start release heq hk
      cases heq
      rfl
    cases hs
    refine ⟨hkept _ _ rfl, fun s hs => ?_⟩
    cases hs
    refine ⟨⟨fun k op aborted start release heq => (by cases heq),
      fun k cancelled release heq => (by cases heq)⟩, fun s hs => ?_⟩
    cases hs
    exact ⟨⟨fun k op aborted start release heq => (by cases heq), fun _ _ _ _ _ => rfl⟩,
      fun _ _ => trivial⟩)
  exact ⟨_, t, rfl, ht, hsame⟩

/-- A second call on a stream, and on a writer, while the first one is in flight. The refusal closes
the child, and the operation in flight is cancelled. -/
theorem refused_call_cancels :
    (∃ s t, run WrapperSystem.step (openedCursor (readStreamCursor "f" 4) { operation := .read } "" ""
          7)
        [.call 0 () false (.ok 1) (.ok ()), .call 1 () false (.ok 2) (.ok ()),
          .resumeNext 1 (.ok ()), .resume 1 false (.ok ())] = some s ∧
      run WrapperSystem.step (openedCursor (readStreamCursor "f" 4) { operation := .read } "" "" 7)
        [.call 0 () false (.ok 1) (.ok ())] = some t ∧
      s.tasks 1 = some ⟨(), .replied (.raised (bridgeError (busyError
        { operation := "ReadStreamNext", path := some "f", destinationPath := none })
          { operation := .read }))⟩ ∧
      s.js.calls 0 = some ⟨(), .settled (.ok (.failed (cancelledError
        { operation := "ReadStreamNext", path := some "f", destinationPath := none })))⟩ ∧
      t.js.calls 0 = some ⟨(), .settling 1⟩ ∧ s.flags.closed = true ∧ t.flags.closed = false ∧
      ¬ WrapperSystem.SameOutside (fun k => decide (k = 1)) s t) ∧
    ∃ s t, run WrapperSystem.step (openedWriter "f" 7)
        [.call 0 (.write [1]) false (.ok 1) (.ok ()), .call 1 (.write [2]) false (.ok 2) (.ok ()),
          .resume 1 false (.ok ())] = some s ∧
      run WrapperSystem.step (openedWriter "f" 7)
        [.call 0 (.write [1]) false (.ok 1) (.ok ())] = some t ∧
      s.js.calls 0 = some ⟨.write, .settled (.ok (.failed (cancelledError
        { operation := "WriterWrite", path := some "f", destinationPath := none })))⟩ ∧
      t.js.calls 0 = some ⟨.write, .settling 1⟩ ∧ s.flags = .writerTerminal ∧
      t.flags = .writerOpen ∧ ¬ WrapperSystem.SameOutside (fun k => decide (k = 1)) s t := by
  constructor
  · refine ⟨_, _, rfl, rfl, rfl, rfl, rfl, rfl, rfl, ?_⟩
    intro hsame
    have hcall := hsame.calls 0 rfl
    cases hcall
  · refine ⟨_, _, rfl, rfl, rfl, rfl, rfl, rfl, ?_⟩
    intro hsame
    have hcall := hsame.calls 0 rfl
    cases hcall

end OpendalMbt.MoonBit
