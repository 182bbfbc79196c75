import OpendalMbt.MoonBit.RefusedCalls

/-!
# The handle of a writer

`finish` and `abort` of `src/browser/streaming.mbt` make the lifecycle terminal before they call
the JavaScript writer, and `close` looks at the lifecycle only. The JavaScript writer refuses some
calls and stays open: when another call is in flight, and when the bridge does not start the task.
A refused `write` closes it, a refused `finish` or `abort` does not.

* `Usable.step`: an open writer has its handle, and its operator is open.
* `Guarded.step`: a `finish` or `abort` that was not refused is still to close an open writer.
* `writer_released`: a run in which no `finish` or `abort` is refused so leaves no writer behind.
-/

namespace OpendalMbt.Browser

open Codec Transition

variable {V : Type} {cls : ChildClass V}

namespace ChildSystem

variable {s t : ChildSystem cls} {k : Nat} {op : cls.Op} {release : Except Failure Unit}

/-- A task after which the object is still open has changed nothing else. -/
theorem resumeTask_open {operatorOpen : Bool} {settled : Answer V} {c : BrowserChildResource}
    (hsuccess : cls.successState op ≠ some .open) (hhonest : Honest settled)
    (hopen : (cls.resumeTask operatorOpen op k settled release c).2.state = .open) :
    (cls.resumeTask operatorOpen op k settled release c).2 = clearActive k c := by
  unfold ChildClass.resumeTask at hopen ⊢
  rcases settledTask_cases hhonest with
    ⟨answer, htask, -⟩ | ⟨-, answer, htask, -⟩ | ⟨-, answer, state, hstate, htask⟩
  · rw [htask]
  · rw [htask, state_clearActive] at hopen
    cases hopen
  · rw [htask, state_clearActive] at hopen
    exact absurd (hstate.trans (congrArg some hopen)) hsuccess

/-- While the object is open it can be used. -/
structure Usable (s : ChildSystem cls) : Prop where
  handle : s.child.state = .open → s.child.handle ≠ 0
  registered : s.child.state = .open → s.child.registered = true
  operatorOpen : s.child.state = .open → s.operatorOpen = true

theorem Usable.not_unusable (h : s.Usable) (hopen : s.child.state = .open) :
    ¬ s.child.Unusable s.operatorOpen := by
  rintro (hstate | hhandle | hoperator)
  · exact hstate hopen
  · exact h.handle hopen hhandle
  · rw [h.operatorOpen hopen] at hoperator
    cases hoperator

theorem usable_of_not_open (h : s.child.state ≠ .open) : s.Usable :=
  ⟨fun hopen => absurd hopen h, fun hopen => absurd hopen h, fun hopen => absurd hopen h⟩

/-- The same object, but for the call that is in flight. -/
theorem Usable.of_same (h : s.Usable) (hstate : t.child.state = s.child.state)
    (hhandle : t.child.handle = s.child.handle)
    (hregistered : t.child.registered = s.child.registered)
    (hoperator : t.operatorOpen = s.operatorOpen) : t.Usable where
  handle hopen := by
    rw [hhandle]
    exact h.handle (hstate ▸ hopen)
  registered hopen := by
    rw [hregistered]
    exact h.registered (hstate ▸ hopen)
  operatorOpen hopen := by
    rw [hoperator]
    exact h.operatorOpen (hstate ▸ hopen)

theorem state_operatorClose (h : s.Usable) : (s.operatorClose release).child.state ≠ .open := by
  rw [operatorClose_eq]
  by_cases hregistered : s.child.registered = true
  · rw [if_pos hregistered, state_close]
    exact ChildState.noConfusion
  · rw [if_neg hregistered]
    exact fun hopen => hregistered (h.registered hopen)

/-- A step that leaves the object open changes at most the call in flight. -/
theorem Usable.child_step (hsuccess : ∀ op, cls.successState op ≠ some .open) (h : s.Usable)
    (hkept : s.Kept) {e : ChildEvent cls} (hstep : s.step e = some t) (hopen : t.child.state = .open) :
    t.child.state = s.child.state ∧ t.child.handle = s.child.handle ∧
      t.child.registered = s.child.registered ∧ t.operatorOpen = s.operatorOpen := by
  cases e with
  | call k op signal start release =>
    obtain ⟨-, ⟨value, -, rfl⟩ | ⟨-, rfl⟩⟩ := call_cases hstep
    · exact ⟨rfl, rfl, rfl, rfl⟩
    rcases runTask_cases s.operatorOpen op k signal start release s.child with
      ⟨answer, hrun, -⟩ | ⟨-, -, ⟨answer, hrun, -⟩ | ⟨task, hrun⟩⟩
    · rw [hrun]
      exact ⟨rfl, rfl, rfl, rfl⟩
    · rw [hrun] at hopen
      cases hopen
    · rw [hrun]
      exact ⟨rfl, rfl, rfl, rfl⟩
  | settle k answer =>
    obtain ⟨-, op, task, -, rfl⟩ := settle_cases hstep
    exact ⟨rfl, rfl, rfl, rfl⟩
  | resumeTask k release =>
    obtain ⟨op, settled, hcall, rfl⟩ := resumeTask_cases hstep
    have hhonest := hkept.honest k op _ hcall settled rfl
    have hchild := resumeTask_open (hsuccess op) hhonest hopen
    simp only [setCall, hchild, state_clearActive, handle_clearActive, registered_clearActive,
      and_self]
  | resumeNext k release =>
    obtain ⟨op, returned, post, -, -, rfl⟩ := resumeNext_cases hstep
    rcases resumeNext_answer post returned release s.child with
      ⟨-, hnext⟩ | ⟨value, -, -, answer, hnext, -⟩ | ⟨value, -, -, answer, hnext, -⟩
    · rw [hnext]
      exact ⟨rfl, rfl, rfl, rfl⟩
    · rw [hnext] at hopen
      cases hopen
    · rw [hnext] at hopen
      cases hopen
  | close release =>
    cases hstep
    rw [state_close] at hopen
    cases hopen
  | operatorClose release =>
    cases hstep
    exact absurd hopen (state_operatorClose h)

theorem Usable.step (hsuccess : ∀ op, cls.successState op ≠ some .open) (h : s.Usable)
    (hkept : s.Kept) {e : ChildEvent cls} (hstep : s.step e = some t) : t.Usable := by
  by_cases hopen : t.child.state = .open
  · obtain ⟨hstate, hhandle, hregistered, hoperator⟩ := h.child_step hsuccess hkept hstep hopen
    exact h.of_same hstate hhandle hregistered hoperator
  · exact usable_of_not_open hopen

end ChildSystem

/-! ## Calls that end the object -/

/-- In flight, or over with a Promise that rejects. -/
def Phase.Ending : Phase V → Prop
  | .settling _ | .settled _ => True
  | .returned (.error _) => True
  | .returning _ | .returned (.ok _) => False

/-- A call that is refused without the object being closed. -/
def BrowserChildResource.Refuses (c : BrowserChildResource) (aborted : Bool)
    (start : Except Failure UInt32) : Prop :=
  c.active ≠ none ∨
    aborted = false ∧ ∃ e, start = .error (.outcome e) ∧ e.kind ≠ exactText "ResourceClosed"

section Ending

variable {s t : ChildSystem cls} {k : Nat} {op : cls.Op} {release : Except Failure Unit}
  {operatorOpen aborted : Bool} {start : Except Failure UInt32} {c : BrowserChildResource}

theorem runTask_ending (hpost : cls.post op = none) (husable : ¬ c.Unusable operatorOpen)
    (hrefuses : ¬ c.Refuses aborted start)
    (hopen : (cls.runTask operatorOpen op k (if aborted then .aborted else .live) start release
      c).2.state = .open) :
    (cls.runTask operatorOpen op k (if aborted then .aborted else .live) start release
      c).1.Ending := by
  have hactive : c.active = none := by
    by_contra hactive
    exact hrefuses (Or.inl hactive)
  cases aborted with
  | true =>
    obtain ⟨answer, hrun, -⟩ : ∃ answer, cls.runTask operatorOpen op k .aborted start release c =
        (cls.returning op answer, c.finished .failed) ∧ Valueless answer :=
      runTask_aborted husable hactive
    simp only [if_true] at hopen
    rw [hrun] at hopen
    cases hopen
  | false =>
    have hidle : ¬ c.active.isSome = true := by
      rw [hactive]
      exact Bool.false_ne_true
    simp only [Bool.false_eq_true, if_false] at hopen ⊢
    unfold ChildClass.runTask at hopen ⊢
    rw [if_neg husable, if_neg hidle] at hopen ⊢
    cases start with
    | ok task => trivial
    | error failure =>
      cases failure with
      | outcome e =>
        have hkind : e.kind = exactText "ResourceClosed" := by
          by_contra hkind
          exact hrefuses (Or.inr ⟨rfl, e, rfl, hkind⟩)
        obtain ⟨hchild, -⟩ := c.finishThen_cases .failed release (.ok (.failed e) : Answer V)
        simp only [if_pos hkind, hchild] at hopen
        cases hopen
      | contract message =>
        simp only [ChildClass.returning, hpost]
        trivial
      | trap =>
        simp only [ChildClass.returning, hpost]
        trivial
      | stackOverflow =>
        simp only [ChildClass.returning, hpost]
        trivial

variable (release) in
/-- The continuation of such a call closes an open object, whatever its task settled with. -/
theorem settledTask_ending {state : ChildState} {settled : Answer V}
    (hstate : cls.successState op = some state) (husable : ¬ c.Unusable operatorOpen)
    (hhonest : Honest settled) :
    ∃ last, (last = .failed ∨ last = state) ∧
      (cls.settledTask operatorOpen op settled release c).2 = c.finished last := by
  have hopen : c.state = .open := by
    by_contra hstate
    exact husable (Or.inl hstate)
  have hfailed : ∀ result : Answer V,
      (c.finishThen .failed release result).2 = c.finished .failed := by
    intro result
    exact (c.finishThen_cases .failed release result).1
  unfold ChildClass.settledTask
  cases settled with
  | ok outcome =>
    cases outcome with
    | ok value =>
      obtain ⟨hchild, -⟩ := c.finishWith_cases state release value
      simp only [if_neg husable, hstate]
      exact ⟨state, Or.inr rfl, hchild⟩
    | failed e =>
      simp only [if_pos hopen]
      exact ⟨.failed, Or.inl rfl, hfailed _⟩
  | error failure =>
    cases failure with
    | outcome e => exact absurd rfl (hhonest e)
    | contract message =>
      simp only [if_pos hopen]
      exact ⟨.failed, Or.inl rfl, hfailed _⟩
    | trap =>
      simp only [if_pos hopen]
      exact ⟨.failed, Or.inl rfl, hfailed _⟩
    | stackOverflow =>
      simp only [if_pos hopen]
      exact ⟨.failed, Or.inl rfl, hfailed _⟩

namespace ChildSystem

/-- As long as the object is open, such a call stays what it is. -/
theorem ending_step {phase : Phase V} {e : ChildEvent cls}
    (hsuccess : ∀ op, cls.successState op ≠ some .open) (hop : cls.successState op ≠ none)
    (h : s.Usable) (hkept : s.Kept) (hcall : s.calls k = some ⟨op, phase⟩)
    (hending : phase.Ending) (hstep : s.step e = some t) (hopen : t.child.state = .open) :
    ∃ phase, t.calls k = some ⟨op, phase⟩ ∧ phase.Ending := by
  have hother : ∀ (u : ChildSystem cls) (j : Nat) (op' : cls.Op) (phase' : Phase V),
      u.calls = s.calls → k ≠ j → ∃ phase, (u.setCall j op' phase').calls k = some ⟨op, phase⟩ ∧
        phase.Ending := by
    intro u j op' phase' hcalls hkj
    refine ⟨phase, ?_, hending⟩
    rw [calls_setCall_of_ne hkj, hcalls, hcall]
  have hbefore : s.child.state = .open :=
    (h.child_step hsuccess hkept hstep hopen).1.symm.trans hopen
  cases e with
  | call j op' signal start release =>
    obtain ⟨hj, ⟨value, -, rfl⟩ | ⟨-, rfl⟩⟩ := call_cases hstep
    · exact hother s j _ _ rfl fun heq => by rw [← heq, hcall] at hj; cases hj
    · exact hother _ j _ _ rfl fun heq => by rw [← heq, hcall] at hj; cases hj
  | settle j answer =>
    obtain ⟨-, op', task, hj, rfl⟩ := settle_cases hstep
    by_cases hkj : k = j
    · rw [hkj, hj] at hcall
      cases hcall
      exact ⟨.settled answer, hkj ▸ calls_setCall_self, trivial⟩
    · exact hother s j _ _ rfl hkj
  | resumeTask j release =>
    obtain ⟨op', settled, hj, rfl⟩ := resumeTask_cases hstep
    by_cases hkj : k = j
    · rw [hkj, hj] at hcall
      cases hcall
      obtain ⟨state, hstate⟩ := Option.ne_none_iff_exists'.mp hop
      obtain ⟨last, hlast, hchild⟩ := settledTask_ending release hstate
        (h.not_unusable hbefore) (hkept.honest j op _ hj settled rfl)
      have hresumed : (cls.resumeTask s.operatorOpen op j settled release s.child).2.state =
          last := by
        simp only [ChildClass.resumeTask, state_clearActive, hchild,
          BrowserChildResource.finished]
      have hlast' : last = .open := hresumed.symm.trans hopen
      rcases hlast with rfl | rfl
      · cases hlast'
      · exact absurd (hstate.trans (congrArg some hlast')) (hsuccess op)
    · exact hother _ j _ _ rfl hkj
  | resumeNext j release =>
    obtain ⟨op', returned, post, hj, -, rfl⟩ := resumeNext_cases hstep
    refine hother _ j _ _ rfl fun heq => ?_
    rw [← heq, hcall] at hj
    cases hj
    exact hending
  | close release =>
    cases hstep
    rw [state_close] at hopen
    cases hopen
  | operatorClose release =>
    cases hstep
    exact absurd hopen (state_operatorClose h)

end ChildSystem

end Ending

end OpendalMbt.Browser

namespace OpendalMbt.MoonBit

open Codec Browser Transition

/-! ## Writers -/

/-- The methods that make the lifecycle terminal before they call the writer. -/
def WriterMethod.Ends : WriterMethod → Prop
  | .write _ => False
  | .finish | .abort => True

section Writer

variable {path : String} {s t : WrapperSystem (asyncWriter path)} {k : Nat}

theorem writer_success (op : WriterOp) : (writerClass path).successState op ≠ some .open := by
  cases op <;> exact fun h => by cases h

theorem writer_success_ends {method : WriterMethod} (h : method.Ends) :
    (writerClass path).successState method.jsOp ≠ none := by
  cases method with
  | write chunk => exact absurd h id
  | finish => exact fun heq => by cases heq
  | abort => exact fun heq => by cases heq

/-- A `finish` or `abort` calls the writer of an open object only, and makes it terminal. -/
theorem writer_enter_ends {method : WriterMethod} {operatorClosed : Bool}
    {lifecycle lifecycle' : WriterLifecycle} (hends : method.Ends)
    (h : writerEnter path method operatorClosed lifecycle = .ok lifecycle') :
    lifecycle = .writerOpen ∧ operatorClosed = false ∧ lifecycle' = .writerTerminal := by
  have hensure : ∀ opened, writerEnsureOpen path operatorClosed lifecycle = .ok opened →
      lifecycle = .writerOpen ∧ operatorClosed = false := by
    intro opened hopened
    unfold writerEnsureOpen at hopened
    by_cases hclosed : lifecycle ≠ .writerOpen ∨ operatorClosed = true
    · rw [if_pos hclosed] at hopened
      cases hopened
    · simpa using hclosed
  cases method with
  | write chunk => exact absurd hends id
  | finish =>
    unfold writerEnter at h
    cases hopened : writerEnsureOpen path operatorClosed lifecycle with
    | error reply =>
      simp only [hopened] at h
      cases h
    | ok opened =>
      simp only [hopened] at h
      cases h
      exact ⟨(hensure _ hopened).1, (hensure _ hopened).2, rfl⟩
  | abort =>
    unfold writerEnter at h
    by_cases haborted : lifecycle = .writerAborted
    · simp only [if_pos haborted] at h
      cases h
    cases hopened : writerEnsureOpen path operatorClosed lifecycle with
    | error reply =>
      simp only [if_neg haborted, hopened] at h
      cases h
    | ok opened =>
      simp only [if_neg haborted, hopened] at h
      cases h
      exact ⟨(hensure _ hopened).1, (hensure _ hopened).2, rfl⟩

/-- A method that closes the writer, or an object that was not open, leaves it not open. -/
theorem writer_resume_flags {method : WriterMethod}
    {resumed : Resumed (Option (MetadataValue JsString))} {lifecycle : WriterLifecycle}
    (h : lifecycle ≠ .writerOpen) :
    (writerResume path method resumed lifecycle).2.1 ≠ .writerOpen := by
  cases method <;> cases resumed <;> first | exact h | exact WriterLifecycle.noConfusion

/-- A method that leaves the writer to others has not changed the lifecycle, or was an `abort` that
has had its value. -/
theorem writer_resume_open {method : WriterMethod}
    {resumed : Resumed (Option (MetadataValue JsString))} {lifecycle : WriterLifecycle}
    (hopen : lifecycle = .writerOpen) (hends : ¬ method.Ends)
    (h : (writerResume path method resumed lifecycle).2.2 = false) :
    (writerResume path method resumed lifecycle).2.1 = .writerOpen := by
  cases method with
  | write chunk =>
    cases resumed with
    | value value => exact hopen
    | cancelled => cases h
    | rejected => cases h
    | failed e => cases h
  | finish => exact absurd trivial hends
  | abort => exact absurd trivial hends

/-- A `finish` or `abort` whose Promise rejects closes the writer, as does a cancelled one. -/
theorem writer_resume_closes {method : WriterMethod}
    {resumed : Resumed (Option (MetadataValue JsString))} {lifecycle : WriterLifecycle}
    (h : resumed = .cancelled ∨ resumed = .rejected) :
    (writerResume path method resumed lifecycle).2.2 = true := by
  rcases h with rfl | rfl
  · cases method <;> rfl
  · cases method <;> rfl

namespace WrapperSystem

/-- A method that waits goes on waiting until it goes on itself. -/
theorem tasks_of_other {V : Type} {cls : ChildClass V} {w : Wrapper cls} {s t : WrapperSystem w}
    {k : Nat} {op : w.Op} {e : WrapperEvent w} (hstep : s.step e = some t)
    (h : s.tasks k = some ⟨op, .waiting⟩)
    (he : ∀ cancelled release, e ≠ .resume k cancelled release) :
    t.tasks k = some ⟨op, .waiting⟩ := by
  cases e with
  | call j op' aborted start release =>
    have hkj : ∀ hj : s.tasks j = none, k ≠ j := by
      intro hj heq
      rw [← heq, h] at hj
      cases hj
    obtain ⟨hj, ⟨reply, -, rfl⟩ | ⟨flags, js, -, -, rfl⟩⟩ := call_cases hstep
    · rw [tasks_setTask_of_ne (hkj hj), h]
    · rw [tasks_setTask_of_ne (hkj hj)]
      exact h
  | resume j cancelled release =>
    obtain ⟨op', resumed, -, -, rfl⟩ := resume_cases hstep
    have hkj : k ≠ j := by
      intro heq
      exact he cancelled release (heq ▸ rfl)
    split
    · exact (tasks_setTask_of_ne hkj).trans h
    · exact (tasks_setTask_of_ne hkj).trans h
  | settle j answer =>
    obtain ⟨js, -, rfl⟩ := Option.map_eq_some_iff.mp hstep
    exact h
  | resumeTask j release =>
    obtain ⟨js, -, rfl⟩ := Option.map_eq_some_iff.mp hstep
    exact h
  | resumeNext j release =>
    obtain ⟨js, -, rfl⟩ := Option.map_eq_some_iff.mp hstep
    exact h
  | close release =>
    simp only [step] at hstep
    split at hstep <;>
      · cases hstep
        exact h
  | operatorClose release =>
    simp only [step] at hstep
    split at hstep <;>
      · cases hstep
        exact h

/-- A method whose call of the writer is ending learns no outcome. -/
theorem resumed_ending {op : WriterOp} {phase : Phase (Option (MetadataValue JsString))}
    {cancelled : Bool} {outcome : Resumed (Option (MetadataValue JsString))}
    (hcall : s.js.calls k = some ⟨op, phase⟩) (hending : phase.Ending)
    (h : s.resumed k cancelled = some outcome) : outcome = .cancelled ∨ outcome = .rejected := by
  unfold resumed at h
  cases cancelled with
  | true =>
    cases h
    exact Or.inl rfl
  | false =>
    simp only [hcall, Bool.false_eq_true, if_false] at h
    cases phase with
    | settling task => cases h
    | settled answer => cases h
    | returning answer => cases h
    | returned answer =>
      cases answer with
      | ok outcome => exact absurd hending id
      | error failure =>
        cases h
        exact Or.inr rfl

/-- Task `k` is a `finish` or `abort` that has still to close the writer. -/
def Guards (s : WrapperSystem (asyncWriter path)) (k : Nat) : Prop :=
  ∃ method phase, s.tasks k = some ⟨method, .waiting⟩ ∧ method.Ends ∧
    s.js.calls k = some ⟨method.jsOp, phase⟩ ∧ phase.Ending

theorem Guards.step (h : s.Guards k) (hkept : s.js.Kept) (husable : s.js.Usable)
    {e : WrapperEvent (asyncWriter path)} (hstep : s.step e = some t)
    (hopen : t.js.child.state = .open) : t.Guards k := by
  obtain ⟨method, phase, htask, hends, hcall, hending⟩ := h
  have hcalls : ∃ phase, t.js.calls k = some ⟨method.jsOp, phase⟩ ∧ phase.Ending := by
    rcases js_step hstep with hjs | ⟨e', hjs⟩
    · rw [hjs]
      exact ⟨phase, hcall, hending⟩
    · exact ChildSystem.ending_step writer_success (writer_success_ends hends) husable hkept hcall
        hending hjs hopen
  by_cases hresume : ∃ cancelled release, e = .resume k cancelled release
  · -- the method itself goes on: cancelled or rejected, so it closes the writer
    obtain ⟨cancelled, release, rfl⟩ := hresume
    obtain ⟨op, outcome, -, houtcome, rfl⟩ := resume_cases hstep
    rw [if_pos (writer_resume_closes (resumed_ending hcall hending houtcome))] at hopen
    exact absurd hopen (by rw [closeChild, ChildSystem.state_close]; exact ChildState.noConfusion)
  · obtain ⟨phase', hcall', hending'⟩ := hcalls
    refine ⟨method, phase', tasks_of_other hstep htask ?_, hends, hcall', hending'⟩
    intro cancelled release he
    exact hresume ⟨cancelled, release, he⟩

/-- A `finish` or `abort` that the writer refuses while it stays open. -/
def RefusedEnd (s : WrapperSystem (asyncWriter path)) (e : WrapperEvent (asyncWriter path)) : Prop :=
  ∃ k method aborted start release, e = .call k method aborted start release ∧ method.Ends ∧
    s.flags = .writerOpen ∧ s.operatorClosed = false ∧ s.js.child.state = .open ∧
      s.js.child.Refuses aborted start

/-- What every run keeps in which no `finish` or `abort` is refused. -/
structure Tended (s : WrapperSystem (asyncWriter path)) : Prop where
  kept : s.js.Kept
  usable : s.js.Usable
  ending : ∀ k method, s.tasks k = some ⟨method, .waiting⟩ → method.Ends → s.flags ≠ .writerOpen
  guarded : s.flags ≠ .writerOpen → s.js.child.state = .open → ∃ k, s.Guards k

theorem usable_step {e : WrapperEvent (asyncWriter path)} (hkept : s.js.Kept)
    (husable : s.js.Usable) (hstep : s.step e = some t) : t.js.Usable := by
  rcases js_step hstep with hjs | ⟨e', hjs⟩
  · rw [hjs]
    exact husable
  · exact husable.step writer_success hkept hjs

/-- A writer that is still open was open before. -/
theorem open_before {e : WrapperEvent (asyncWriter path)} (hkept : s.js.Kept)
    (husable : s.js.Usable) (hstep : s.step e = some t) (hopen : t.js.child.state = .open) :
    s.js.child.state = .open := by
  rcases js_step hstep with hjs | ⟨e', hjs⟩
  · rw [← hjs]
    exact hopen
  · exact (husable.child_step writer_success hkept hjs hopen).1.symm.trans hopen

/-- The lifecycle never becomes open again. -/
theorem flags_before {e : WrapperEvent (asyncWriter path)} (hstep : s.step e = some t)
    (h : s.flags ≠ .writerOpen) : t.flags ≠ .writerOpen := by
  cases e with
  | call k method aborted start release =>
    obtain ⟨-, ⟨reply, -, rfl⟩ | ⟨flags, js, henter, -, rfl⟩⟩ := call_cases hstep
    · exact h
    · obtain ⟨reply, hreply⟩ := writer_terminal_iff.mpr h method s.operatorClosed
      rw [hreply] at henter
      cases henter
  | settle k answer =>
    obtain ⟨js, -, rfl⟩ := Option.map_eq_some_iff.mp hstep
    exact h
  | resumeTask k release =>
    obtain ⟨js, -, rfl⟩ := Option.map_eq_some_iff.mp hstep
    exact h
  | resumeNext k release =>
    obtain ⟨js, -, rfl⟩ := Option.map_eq_some_iff.mp hstep
    exact h
  | resume k cancelled release =>
    obtain ⟨method, outcome, -, -, rfl⟩ := resume_cases hstep
    split
    · exact writer_resume_flags h
    · exact writer_resume_flags h
  | close release =>
    simp only [step, if_neg h] at hstep
    cases hstep
    exact h
  | operatorClose release =>
    simp only [step] at hstep
    split at hstep <;>
      · cases hstep
        exact h

theorem Tended.ending_step {e : WrapperEvent (asyncWriter path)} (h : s.Tended)
    (hstep : s.step e = some t) {method : WriterMethod}
    (htask : t.tasks k = some ⟨method, .waiting⟩) (hends : method.Ends) :
    t.flags ≠ .writerOpen := by
  rcases tasks_of_waiting hstep htask with hbefore | ⟨op, aborted, start, release, rfl⟩
  · exact flags_before hstep (h.ending k method hbefore hends)
  obtain ⟨-, ⟨reply, -, rfl⟩ | ⟨flags, js, henter, -, rfl⟩⟩ := call_cases hstep
  · rw [tasks_setTask_self] at htask
    cases htask
  · rw [tasks_setTask_self] at htask
    cases htask
    show flags ≠ .writerOpen
    rw [(writer_enter_ends hends henter).2.2]
    exact WriterLifecycle.noConfusion

/-- A `finish` or `abort` that is not refused guards the writer from then on. -/
theorem Tended.call {method : WriterMethod} {aborted : Bool} {start : Except Failure UInt32}
    {release : Except Failure Unit} {js : ChildSystem (writerClass path)} (h : s.Tended)
    (hends : method.Ends) (hbefore : s.js.child.state = .open)
    (hrefuses : ¬ s.js.child.Refuses aborted start)
    (hjs : s.js.step (.call k method.jsOp (if aborted then .aborted else .live) start release) =
      some js) (hopen : js.child.state = .open) :
    ∃ phase, js.calls k = some ⟨method.jsOp, phase⟩ ∧ phase.Ending := by
  obtain ⟨-, ⟨value, hvalue, -⟩ | ⟨-, rfl⟩⟩ := ChildSystem.call_cases hjs
  · rw [hbefore] at hvalue
    cases method <;> cases hvalue
  · exact ⟨_, ChildSystem.calls_setCall_self,
      runTask_ending rfl (h.usable.not_unusable hbefore) hrefuses hopen⟩

theorem Tended.guarded_step {e : WrapperEvent (asyncWriter path)} (h : s.Tended)
    (hstep : s.step e = some t) (he : ¬ RefusedEnd s e) (hflags : t.flags ≠ .writerOpen)
    (hopen : t.js.child.state = .open) : ∃ k, t.Guards k := by
  have hbefore := open_before h.kept h.usable hstep hopen
  by_cases hnow : s.flags = .writerOpen
  swap
  · obtain ⟨k, hk⟩ := h.guarded hnow hbefore
    exact ⟨k, hk.step h.kept h.usable hstep hopen⟩
  -- the lifecycle has just become terminal, and the writer is open
  have hclosed : ∀ (u : WrapperSystem (asyncWriter path)) release,
      (u.closeChild release).js.child.state ≠ .open := by
    intro u release
    show (u.js.close release).2.child.state ≠ .open
    rw [ChildSystem.state_close]
    exact ChildState.noConfusion
  cases e with
  | call k method aborted start release =>
    obtain ⟨-, ⟨reply, -, rfl⟩ | ⟨flags, js, henter, hjs, rfl⟩⟩ := call_cases hstep
    · exact absurd hnow hflags
    by_cases hends : method.Ends
    · obtain ⟨-, hoperator, -⟩ := writer_enter_ends hends henter
      have hrefuses : ¬ s.js.child.Refuses aborted start := by
        intro hrefuses
        exact he ⟨k, method, aborted, start, release, rfl, hends, hnow, hoperator, hbefore,
          hrefuses⟩
      obtain ⟨phase, hcall, hending⟩ := h.call hends hbefore hrefuses hjs hopen
      exact ⟨k, method, phase, tasks_setTask_self, hends, hcall, hending⟩
    · cases method with
      | write chunk => exact absurd ((writer_enter_write henter).trans hnow) hflags
      | finish => exact absurd trivial hends
      | abort => exact absurd trivial hends
  | settle k answer =>
    obtain ⟨js, -, rfl⟩ := Option.map_eq_some_iff.mp hstep
    exact absurd hnow hflags
  | resumeTask k release =>
    obtain ⟨js, -, rfl⟩ := Option.map_eq_some_iff.mp hstep
    exact absurd hnow hflags
  | resumeNext k release =>
    obtain ⟨js, -, rfl⟩ := Option.map_eq_some_iff.mp hstep
    exact absurd hnow hflags
  | resume k cancelled release =>
    obtain ⟨method, outcome, htask, -, rfl⟩ := resume_cases hstep
    have hends : ¬ method.Ends := fun hends => h.ending k method htask hends hnow
    cases hcloses : (writerResume path method outcome s.flags).2.2 with
    | true =>
      rw [if_pos hcloses] at hopen
      exact absurd hopen (hclosed _ release)
    | false =>
      rw [if_neg (by rw [hcloses]; exact Bool.false_ne_true)] at hflags
      exact absurd (writer_resume_open hnow hends hcloses) hflags
  | close release =>
    simp only [step, if_pos hnow] at hstep
    cases hstep
    exact absurd hopen (hclosed _ release)
  | operatorClose release =>
    simp only [step] at hstep
    split at hstep <;>
      · cases hstep
        exact absurd hnow hflags

theorem Tended.step {e : WrapperEvent (asyncWriter path)} (h : s.Tended)
    (hstep : s.step e = some t) (he : ¬ RefusedEnd s e) : t.Tended where
  kept := preserves_kept hstep h.kept
  usable := usable_step h.kept h.usable hstep
  ending _ _ htask hends := h.ending_step hstep htask hends
  guarded := h.guarded_step hstep he

theorem tended_opened {handle : UInt32} (hhandle : handle ≠ 0) :
    (openedWriter path handle).Tended where
  kept := ChildSystem.kept_opened handle
  usable := ⟨fun _ => hhandle, fun _ => rfl, fun _ => rfl⟩
  ending k method hk := by cases hk
  guarded hflags := absurd rfl hflags

/-- Nothing is left of a writer: with no method waiting, one whose lifecycle is not open any more
has a JavaScript writer that is not open, and no handle. -/
def Released (s : WrapperSystem (asyncWriter path)) : Prop :=
  (∀ k method, s.tasks k ≠ some ⟨method, .waiting⟩) → s.flags ≠ .writerOpen →
    s.js.child.state ≠ .open ∧ s.js.child.handle = 0

theorem Tended.released (h : s.Tended) : s.Released := by
  intro hquiet hflags
  have hstate : s.js.child.state ≠ .open := by
    intro hopen
    obtain ⟨k, method, phase, htask, -, -, -⟩ := h.guarded hflags hopen
    exact hquiet k method htask
  exact ⟨hstate, (h.kept.released hstate).1⟩

end WrapperSystem

/-- A run in which no `finish` or `abort` is refused by an open writer leaves no handle behind. -/
theorem writer_released (path : String) {handle : UInt32} (hhandle : handle ≠ 0)
    (events : List (WrapperEvent (asyncWriter path)))
    (hevents : Along WrapperSystem.step (fun s e => ¬ WrapperSystem.RefusedEnd s e)
      (openedWriter path handle) events) :
    Always WrapperSystem.step WrapperSystem.Released (openedWriter path handle) events := by
  intro before after s hsplit hrun
  rw [hsplit] at hevents
  have htended : s.Tended := (along_append.mp hevents).1.invariant (I := WrapperSystem.Tended)
    (fun _ _ _ hstep he h => h.step hstep he) (WrapperSystem.tended_opened hhandle) hrun
  exact htended.released

/-- A `finish` that is cancelled in flight. -/
theorem released_cancelled :
    ∃ s, run WrapperSystem.step (openedWriter "f" 7)
        [.call 0 .finish false (.ok 1) (.ok ()), .resume 0 true (.ok ())] = some s ∧
      s.flags = .writerTerminal ∧ s.js.child.state ≠ .open ∧ s.js.child.handle = 0 := by
  have hevents : Along WrapperSystem.step (fun s e => ¬ WrapperSystem.RefusedEnd s e)
      (openedWriter "f" 7)
        [.call 0 .finish false (.ok 1) (.ok ()), .resume 0 true (.ok ())] := by
    refine ⟨?_, fun s hs => ⟨?_, fun _ _ => trivial⟩⟩
    · intro hrefused
      obtain ⟨k, method, aborted, start, release, heq, -, -, -, -, hrefuses⟩ := hrefused
      cases heq
      rcases hrefuses with hactive | ⟨-, e, hstart, -⟩
      · exact hactive rfl
      · cases hstart
    · intro hrefused
      obtain ⟨k, method, aborted, start, release, heq, -⟩ := hrefused
      cases heq
  refine ⟨_, rfl, rfl, ?_⟩
  apply (writer_released "f" (by decide) _ hevents).last rfl
  · intro k method htask
    cases k with
    | zero => cases htask
    | succ k => cases htask
  · exact WriterLifecycle.noConfusion

/-- A `finish` while a write is in flight, and one that the bridge does not start because it has
no handle left. The writer stays open with its handle, and `close` does nothing. -/
theorem not_released :
    (∃ s, run WrapperSystem.step (openedWriter "f" 7)
        [.call 0 (.write [1]) false (.ok 1) (.ok ()), .call 1 .finish false (.ok 2) (.ok ()),
          .settle 0 (.ok (.ok none)), .resumeTask 0 (.ok ()), .resume 0 false (.ok ()),
          .resume 1 false (.ok ()), .close (.ok ())] = some s ∧
      (∀ k method, s.tasks k ≠ some ⟨method, .waiting⟩) ∧
      (∀ k op phase, s.js.calls k = some ⟨op, phase⟩ → ¬ phase.InFlight) ∧
      s.flags = .writerTerminal ∧ s.js.child.state = .open ∧ s.js.child.handle = 7) ∧
    ∃ s, run WrapperSystem.step (openedWriter "f" 7)
        [.call 0 .finish false (.error (.outcome (Browser.localError "Unexpected" 1
            "could not finish an OpenDAL writer" ((writerClass "f").context .finish)))) (.ok ()),
          .resume 0 false (.ok ()), .close (.ok ())] = some s ∧
      (∀ k method, s.tasks k ≠ some ⟨method, .waiting⟩) ∧
      (∀ k op phase, s.js.calls k = some ⟨op, phase⟩ → ¬ phase.InFlight) ∧
      s.flags = .writerTerminal ∧ s.js.child.state = .open ∧ s.js.child.handle = 7 := by
  constructor
  · refine ⟨_, rfl, ?_, ?_, rfl, rfl, rfl⟩
    · intro k method htask
      match k, htask with
      | 0, htask => cases htask
      | 1, htask => cases htask
      | k + 2, htask => cases htask
    · intro k op phase hcall hflight
      match k, hcall with
      | 0, hcall =>
        cases hcall
        exact hflight
      | 1, hcall =>
        cases hcall
        exact hflight
      | k + 2, hcall => cases hcall
  · -- the fallback of `takeLastError`: there is no handle for the error either
    refine ⟨_, rfl, ?_, ?_, rfl, rfl, rfl⟩
    · intro k method htask
      match k, htask with
      | 0, htask => cases htask
      | k + 1, htask => cases htask
    · intro k op phase hcall hflight
      match k, hcall with
      | 0, hcall =>
        cases hcall
        exact hflight
      | k + 1, hcall => cases hcall

end Writer

end OpendalMbt.MoonBit
