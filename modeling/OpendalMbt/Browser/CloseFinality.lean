import OpendalMbt.Browser.ChildRuns

/-!
# Closing a stream or a lister

`close()` of a cursor while other calls are suspended. A close that returns before the end
of the stream was reported seals the object: from then on its state should stay `Closed`,
and every later `next` should end with the closed error.

`next` reads the state before its task and `runTask` reads it after, but the continuation
that stores `End` or `Failed` does not read it again. A close that finds such a
continuation pending is overwritten.

* `Decided`: no continuation is about to move the object.
* `Shut`: closed with nothing left that could move it; every step keeps it.
-/

namespace OpendalMbt.Browser

open Codec Transition

variable {V : Type} {cursor : Cursor V}

def Cursor.closedAnswer (cursor : Cursor V) : Answer V :=
  .ok (.failed (closedError (cursor.childClass.context ())))

namespace ChildSystem

variable {s t : ChildSystem cursor.childClass}

/-- No `next` that has the end, or a chunk that is too long, is still to go on. -/
def Decided (s : ChildSystem cursor.childClass) : Prop :=
  ∀ k op phase, s.calls k = some ⟨op, phase⟩ →
    ∀ value, phase = .returning (.ok (.ok value)) → cursor.post value = .keep

structure Shut (s : ChildSystem cursor.childClass) : Prop where
  state : s.child.state = .closed
  decided : s.Decided

/-! ## A shut object -/

theorem Shut.unusable (h : s.Shut) {operatorOpen : Bool} : s.child.Unusable operatorOpen := by
  refine Or.inl ?_
  rw [h.state]
  exact ChildState.noConfusion

/-- Setting a call to a phase without a value on an object in the same state. -/
theorem Shut.set (h : s.Shut) {child : BrowserChildResource} {k : Nat} {op : Unit}
    {phase : Phase V} (hstate : child.state = .closed)
    (hphase : ∀ value, phase = .returning (.ok (.ok value)) → cursor.post value = .keep) :
    Shut ({ s with child }.setCall k op phase) where
  state := hstate
  decided := forall_setCall (fun j op' phase' hj _ => h.decided j op' phase' hj) hphase

theorem Shut.call (h : s.Shut) {k : Nat} {op : Unit} {signal : Signal}
    {start : Except Failure UInt32} {release : Except Failure Unit}
    (hstep : s.step (.call k op signal start release) = some t) :
    t = s.setCall k op (.returning cursor.closedAnswer) := by
  obtain ⟨-, ⟨value, hshortcut, -⟩ | ⟨-, rfl⟩⟩ := call_cases hstep
  · rw [h.state, cursor.shortcut_of_ne ChildState.noConfusion] at hshortcut
    cases hshortcut
  · rw [runTask_unusable h.unusable]
    rfl

/-- Closing seals an object whose continuations are all harmless. -/
theorem Decided.close (h : s.Decided) (release : Except Failure Unit) :
    (s.close release).2.Shut where
  state := state_close
  decided := by
    refine forall_close h ?_
    intro j op task _ value hvalue
    cases hvalue

theorem Shut.operatorClose (h : s.Shut) (release : Except Failure Unit) :
    (s.operatorClose release).Shut := by
  have hclosed : Shut { s with operatorOpen := false } := ⟨h.state, h.decided⟩
  rw [operatorClose_eq]
  by_cases hregistered : s.child.registered = true
  · rw [if_pos hregistered]
    exact hclosed.decided.close release
  · rw [if_neg hregistered]
    exact hclosed

/-- `runTask` of a shut object gives no value. -/
theorem Shut.settledTask (h : s.Shut) (op : Unit) {settled : Answer V} (hhonest : Honest settled)
    (release : Except Failure Unit) :
    ∃ answer, cursor.childClass.settledTask s.operatorOpen op settled release s.child =
      (answer, s.child) ∧ Valueless answer := by
  rcases settledTask_cases hhonest with
    ⟨answer, htask, hanswer⟩ | ⟨hopen, -⟩ | ⟨hopen, -⟩
  · refine ⟨answer, htask, ?_⟩
    rcases hanswer with hanswer | ⟨husable, -⟩
    · exact hanswer
    · exact absurd h.unusable husable
  · rw [h.state] at hopen
    cases hopen
  · rw [h.state] at hopen
    cases hopen

theorem Shut.step (h : s.Shut) (hkept : s.Kept) {e : ChildEvent cursor.childClass}
    (hstep : s.step e = some t) : t.Shut := by
  cases e with
  | call k op signal start release =>
    rw [h.call hstep]
    exact h.set h.state fun value hvalue => by cases hvalue
  | settle k answer =>
    obtain ⟨-, op, task, -, rfl⟩ := settle_cases hstep
    exact h.set h.state fun value hvalue => by cases hvalue
  | resumeTask k release =>
    obtain ⟨op, settled, hcall, rfl⟩ := resumeTask_cases hstep
    obtain ⟨answer, htask, hanswer⟩ :=
      h.settledTask op (hkept.honest k op _ hcall settled rfl) release
    refine h.set ?_ ?_
    · simp only [ChildClass.resumeTask, htask, state_clearActive, h.state]
    · intro value hvalue
      simp only [ChildClass.resumeTask, htask, Cursor.returning_eq, Phase.returning.injEq] at hvalue
      exact absurd hvalue (hanswer value)
  | resumeNext k release =>
    obtain ⟨op, returned, post, hcall, hpost, rfl⟩ := resumeNext_cases hstep
    have hsame : cursor.post = post := Option.some.inj hpost
    subst hsame
    rcases resumeNext_answer cursor.post returned release s.child with
      ⟨-, hnext⟩ | ⟨value, hvalue, hend, -⟩ | ⟨value, hvalue, hinvalid, -⟩
    · rw [hnext]
      exact h.set h.state fun value hvalue => by cases hvalue
    · rw [h.decided k op _ hcall value (by rw [hvalue])] at hend
      cases hend
    · rw [h.decided k op _ hcall value (by rw [hvalue])] at hinvalid
      cases hinvalid
  | close release =>
    cases hstep
    exact h.decided.close release
  | operatorClose release =>
    cases hstep
    exact h.operatorClose release

/-- Call `k` has not ended with the end of the stream. -/
def NoEnd (s : ChildSystem cursor.childClass) (k : Nat) : Prop :=
  ∀ j op phase, s.calls j = some ⟨op, phase⟩ → j = k →
    ∀ value, phase = .returned (.ok (.ok value)) → cursor.post value ≠ .end

/-- No call gets the end from a shut object. -/
theorem Shut.noEnd (h : s.Shut) {k : Nat} (hk : s.NoEnd k) {e : ChildEvent cursor.childClass}
    (hstep : s.step e = some t) : t.NoEnd k := by
  have hset : ∀ (child : BrowserChildResource) (i : Nat) (op : Unit) (phase : Phase V),
      (∀ value, phase = .returned (.ok (.ok value)) → cursor.post value ≠ .end) →
        NoEnd ({ s with child }.setCall i op phase) k := by
    intro child i op phase hphase
    exact forall_setCall (fun j op' phase' hj _ => hk j op' phase' hj) fun _ => hphase
  have hcancelled : ∀ j op task, s.calls j = some ⟨op, .settling task⟩ → j = k → ∀ value,
      (.settled (.ok (.failed (cancelledError (cursor.childClass.context op)))) : Phase V) =
        .returned (.ok (.ok value)) → cursor.post value ≠ .end := by
    intro j op task _ _ value hvalue
    cases hvalue
  cases e with
  | call j op signal start release =>
    rw [h.call hstep]
    exact hset s.child j op _ fun value hvalue => by cases hvalue
  | settle j answer =>
    obtain ⟨-, op, task, -, rfl⟩ := settle_cases hstep
    exact hset s.child j op _ fun value hvalue => by cases hvalue
  | resumeTask j release =>
    obtain ⟨op, settled, hcall, rfl⟩ := resumeTask_cases hstep
    exact hset _ j op _ fun value hvalue => by cases hvalue
  | resumeNext j release =>
    obtain ⟨op, returned, post, hcall, hpost, rfl⟩ := resumeNext_cases hstep
    have hsame : cursor.post = post := Option.some.inj hpost
    subst hsame
    apply hset
    intro value hvalue hend
    rcases resumeNext_answer cursor.post returned release s.child with
      ⟨hkeep, hnext⟩ | ⟨value', hreturned, hpost', -⟩ | ⟨value', hreturned, hpost', -⟩
    · rw [hnext, Phase.returned.injEq] at hvalue
      rw [hkeep value hvalue] at hend
      cases hend
    · rw [h.decided j op _ hcall value' (by rw [hreturned])] at hpost'
      cases hpost'
    · rw [h.decided j op _ hcall value' (by rw [hreturned])] at hpost'
      cases hpost'
  | close release =>
    cases hstep
    exact forall_close hk hcancelled
  | operatorClose release =>
    cases hstep
    exact forall_operatorClose hk hcancelled

/-- A pending continuation that is not harmless moves the object. -/
theorem exists_moved (h : ¬ s.Decided) :
    ∃ k t, s.step (.resumeNext k (.ok ())) = some t ∧ t.child.state ≠ .closed := by
  unfold Decided at h
  push Not at h
  obtain ⟨k, op, phase, hcall, value, rfl, hpost⟩ := h
  refine ⟨k, _, by simp only [step, hcall]; rfl, ?_⟩
  show (resumeNext cursor.post (.ok (.ok value)) (.ok ()) s.child).2.state ≠ .closed
  rcases resumeNext_answer cursor.post (.ok (.ok value)) (.ok ()) s.child with
    ⟨hkeep, -⟩ | ⟨_, -, -, answer, hnext, -⟩ | ⟨_, -, -, answer, hnext, -⟩
  · exact absurd (hkeep value rfl) hpost
  · rw [hnext]
    exact ChildState.noConfusion
  · rw [hnext]
    exact ChildState.noConfusion

/-- A close leaves the pending continuations as they are. -/
theorem decided_of_close {release : Except Failure Unit} (h : (s.close release).2.Decided) :
    s.Decided := by
  intro k op phase hcall value hphase
  subst hphase
  exact h k op _ (close_calls hcall id) value rfl

/-- The call ends, or has ended, with the closed error. -/
def EndsClosed (s : ChildSystem cursor.childClass) (k : Nat) : Prop :=
  ∃ phase, s.calls k = some ⟨(), phase⟩ ∧
    (phase = .returning cursor.closedAnswer ∨ phase = .returned cursor.closedAnswer)

theorem EndsClosed.step {k : Nat} (h : s.EndsClosed k) {e : ChildEvent cursor.childClass}
    (hstep : s.step e = some t) : t.EndsClosed k := by
  obtain ⟨phase, hcall, hphase⟩ := h
  by_cases he : ∃ release, e = .resumeNext k release
  · obtain ⟨release, rfl⟩ := he
    obtain ⟨op, returned, post, hreturning, -, rfl⟩ := resumeNext_cases hstep
    rw [hcall] at hreturning
    cases hreturning
    rcases hphase with hphase | hphase
    · cases hphase
      exact ⟨_, calls_setCall_self, Or.inr rfl⟩
    · cases hphase
  · have hpast : ¬ phase.InFlight := by
      rcases hphase with rfl | rfl <;> exact id
    refine ⟨phase, calls_of_past hstep hcall hpast ?_, hphase⟩
    intro release hrelease
    exact he ⟨release, hrelease⟩

end ChildSystem

/-! ## One object and its callers -/

/-- `reported`: some `next` has ended with the end of the stream; `closedEarly`: a close
returned before that; `late`: the calls made after such a close. -/
structure Closing (cursor : Cursor V) where
  sys : ChildSystem cursor.childClass
  reported : Bool := false
  closedEarly : Bool := false
  late : Nat → Bool := fun _ => false

namespace Closing

def opened (cursor : Cursor V) (handle : UInt32) : Closing cursor where
  sys := { child := { handle } }

variable (s : Closing cursor)

def reports (sys : ChildSystem cursor.childClass) (k : Nat) : Bool :=
  match sys.calls k with
  | some ⟨_, .returned (.ok (.ok value))⟩ => decide (cursor.post value = .end)
  | _ => false

def step (e : ChildEvent cursor.childClass) : Option (Closing cursor) :=
  (s.sys.step e).map fun sys =>
    match e with
    | .call k _ _ _ _ =>
      { s with
        sys
        reported := s.reported || reports sys k
        late := Function.update s.late k s.closedEarly }
    | .resumeNext k _ => { s with sys, reported := s.reported || reports sys k }
    | .close _ => { s with sys, closedEarly := s.closedEarly || !s.reported }
    | .settle _ _ | .resumeTask _ _ | .operatorClose _ => { s with sys }

/-- After a close that came before the end, the object stays closed and later calls say so. -/
structure Final : Prop where
  state : s.closedEarly = true → s.sys.child.state = .closed
  answers : ∀ k, s.late k = true → s.sys.EndsClosed k

/-- The condition on a step: a close before the end finds no continuation that could
overwrite it. -/
def Unhurried (s : Closing cursor) (e : ChildEvent cursor.childClass) : Prop :=
  ∀ release, e = .close release → s.reported = false → s.sys.Decided

structure Sealed : Prop where
  kept : s.sys.Kept
  shut : s.closedEarly = true → s.sys.Shut
  answers : ∀ k, s.late k = true → s.closedEarly = true ∧ s.sys.EndsClosed k

variable {s} {t : Closing cursor}

theorem Sealed.step {e : ChildEvent cursor.childClass} (h : s.Sealed) (hstep : s.step e = some t)
    (he : Unhurried s e) : t.Sealed := by
  obtain ⟨sys, hsys, ht⟩ := Option.map_eq_some_iff.mp hstep
  have hkept := ChildSystem.preserves_kept hsys h.kept
  have hshut : s.closedEarly = true → sys.Shut := fun hearly => (h.shut hearly).step h.kept hsys
  have hanswers : ∀ k, s.late k = true → s.closedEarly = true ∧ sys.EndsClosed k := fun k hk =>
    ⟨(h.answers k hk).1, (h.answers k hk).2.step hsys⟩
  subst ht
  cases e with
  | call k op signal start release =>
    refine ⟨hkept, hshut, ?_⟩
    intro j hj
    have hlate : Function.update s.late k s.closedEarly j = true := hj
    by_cases hjk : j = k
    · rw [hjk, Function.update_self] at hlate
      refine ⟨hlate, ?_⟩
      rw [hjk, (h.shut hlate).call hsys]
      exact ⟨_, ChildSystem.calls_setCall_self, Or.inl rfl⟩
    · rw [Function.update_of_ne hjk] at hlate
      exact hanswers j hlate
  | resumeNext k release => exact ⟨hkept, hshut, hanswers⟩
  | close release =>
    refine ⟨hkept, ?_, fun k hk => ⟨?_, (hanswers k hk).2⟩⟩
    · intro hearly
      rcases Bool.or_eq_true_iff.mp hearly with hearly | hreported
      · exact hshut hearly
      · have hdecided := he release rfl (by simpa using hreported)
        cases hsys
        exact hdecided.close release
    · show (s.closedEarly || !s.reported) = true
      rw [(hanswers k hk).1]
      rfl
  | settle k answer => exact ⟨hkept, hshut, hanswers⟩
  | resumeTask k release => exact ⟨hkept, hshut, hanswers⟩
  | operatorClose release => exact ⟨hkept, hshut, hanswers⟩

theorem Sealed.final (h : s.Sealed) : s.Final where
  state hearly := (h.shut hearly).state
  answers k hk := (h.answers k hk).2

theorem sealed_opened (cursor : Cursor V) (handle : UInt32) : (opened cursor handle).Sealed where
  kept := ChildSystem.kept_opened handle
  shut hearly := by cases hearly
  answers k hk := by cases hk

theorem Sealed.of_run {es : List (ChildEvent cursor.childClass)} (h : s.Sealed)
    (hes : Along Closing.step Unhurried s es) (hrun : run Closing.step s es = some t) : t.Sealed :=
  hes.invariant (fun _ _ _ hstep he hs => hs.step hstep he) h hrun

end Closing

/-- From a state reached by unhurried closes, a close before the end is final exactly when no
continuation is pending that would move the object. -/
theorem Closing.Sealed.close_iff {s t : Closing cursor} (h : s.Sealed)
    {release : Except Failure Unit} (hstep : s.step (.close release) = some t)
    (hreported : s.reported = false) :
    (∀ fs u, Along Closing.step Closing.Unhurried t fs → run Closing.step t fs = some u →
      u.Final) ↔ s.sys.Decided := by
  obtain ⟨sys, hsys, ht⟩ := Option.map_eq_some_iff.mp hstep
  cases hsys
  have hearly : t.closedEarly = true := by
    rw [← ht]
    show (s.closedEarly || !s.reported) = true
    rw [hreported, Bool.not_false, Bool.or_true]
  constructor
  · intro hfinal
    by_contra hdecided
    have hpending : ¬ t.sys.Decided := by
      rw [← ht]
      exact fun hlater => hdecided (ChildSystem.decided_of_close hlater)
    obtain ⟨k, sys, hsys, hstate⟩ := ChildSystem.exists_moved hpending
    refine hstate ((hfinal [.resumeNext k (.ok ())]
      { t with sys, reported := t.reported || Closing.reports sys k } ?_ ?_).state hearly)
    · exact ⟨fun release he => (by cases he), fun _ _ => trivial⟩
    · refine run_cons_eq_some.mpr ⟨_, ?_, rfl⟩
      simp only [Closing.step, hsys, Option.map_some]
  · intro hdecided fs u hfs hrun
    have hsealed : t.Sealed := h.step hstep fun _ _ _ => hdecided
    exact (hsealed.of_run hfs hrun).final

end OpendalMbt.Browser
