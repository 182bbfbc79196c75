import OpendalMbt.Browser.ChildRuns

/-!
# Runs without some refused calls

Two runs of one child: in the second some calls that `runTask` refused as busy were never
made. Such a call does not touch the object, so the two objects stay equal, and so do all
other calls (`Erased`).

What the refused call's caller does next may close the object of the first run alone. No later
answer shows it

* if the object was no longer open and no call was waiting for its task: the two objects differ
  in their state only (`Parted`);
* or if every call was over (`Over`) and no new one is made.
-/

namespace OpendalMbt.Browser

open Codec Transition

variable {V : Type} {cls : ChildClass V}

def ChildClass.busyAnswer (cls : ChildClass V) (op : cls.Op) : Answer V :=
  .ok (.failed (busyError (cls.context op)))

namespace ChildSystem

variable {s t s' : ChildSystem cls} {release : Except Failure Unit}

/-- No longer open, and no call waits for its task. -/
structure Idle (s : ChildSystem cls) : Prop where
  state : s.child.state ≠ .open
  settling : ∀ k op phase, s.calls k = some ⟨op, phase⟩ → ∀ task, phase ≠ .settling task

theorem Idle.unusable (h : s.Idle) {operatorOpen : Bool} : s.child.Unusable operatorOpen :=
  Or.inl h.state

/-- Setting a call on an object that is still not open. -/
theorem Idle.set (h : s.Idle) {child : BrowserChildResource} {k : Nat} {op : cls.Op}
    {phase : Phase V} (hstate : child.state ≠ .open) (hphase : ∀ task, phase ≠ .settling task) :
    Idle ({ s with child }.setCall k op phase) where
  state := hstate
  settling := forall_setCall (fun j op' phase' hj _ => h.settling j op' phase' hj) hphase

theorem Idle.close (h : s.Idle) : (s.close release).2.Idle where
  state := by
    rw [state_close]
    exact ChildState.noConfusion
  settling := by
    refine forall_close h.settling ?_
    intro j op task _ task' htask
    cases htask

theorem returning_ne_settling (op : cls.Op) (answer : Answer V) (task : UInt32) :
    cls.returning op answer ≠ .settling task := by
  intro h
  have hflight := not_inFlight_returning op answer
  rw [h] at hflight
  exact hflight trivial

/-- After its `await`, a call of an object that is not open leaves it alone, and its answer does
not depend on it. -/
def lateAnswer (op : cls.Op) : Answer V → Answer V
  | .ok (.ok _) => .ok (.failed (closedError (cls.context op)))
  | answer => answer

theorem settledTask_of_not_open (operatorOpen : Bool) (op : cls.Op) {settled : Answer V}
    (release : Except Failure Unit) {c : BrowserChildResource} (h : Honest settled)
    (hstate : c.state ≠ .open) :
    cls.settledTask operatorOpen op settled release c = (lateAnswer op settled, c) := by
  have hunusable : c.Unusable operatorOpen := Or.inl hstate
  unfold ChildClass.settledTask
  cases settled with
  | ok outcome =>
    cases outcome with
    | ok value => simp only [if_pos hunusable, lateAnswer]
    | failed e => simp only [if_neg hstate, lateAnswer]
  | error failure =>
    cases failure with
    | outcome e => exact absurd rfl (h e)
    | contract message => simp only [if_neg hstate, lateAnswer]
    | trap => simp only [if_neg hstate, lateAnswer]
    | stackOverflow => simp only [if_neg hstate, lateAnswer]

theorem Idle.step (h : s.Idle) (hkept : s.Kept) {e : ChildEvent cls} (hstep : s.step e = some t) :
    t.Idle := by
  cases e with
  | call k op signal start release =>
    obtain ⟨-, ⟨value, -, rfl⟩ | ⟨-, rfl⟩⟩ := call_cases hstep
    · exact h.set h.state fun task htask => by cases htask
    · rw [runTask_unusable h.unusable]
      exact h.set h.state (returning_ne_settling op _)
  | settle k answer =>
    obtain ⟨-, op, task, hcall, -⟩ := settle_cases hstep
    exact absurd rfl (h.settling k op _ hcall task)
  | resumeTask k release =>
    obtain ⟨op, settled, hcall, rfl⟩ := resumeTask_cases hstep
    have htask := settledTask_of_not_open s.operatorOpen op release
      (hkept.honest k op _ hcall settled rfl) h.state
    refine h.set ?_ (returning_ne_settling op _)
    simp only [ChildClass.resumeTask, htask, state_clearActive]
    exact h.state
  | resumeNext k release =>
    obtain ⟨op, returned, post, hcall, hpost, rfl⟩ := resumeNext_cases hstep
    rcases resumeNext_answer post returned release s.child with
      ⟨-, hnext⟩ | ⟨value, -, -, answer, hnext, -⟩ | ⟨value, -, -, answer, hnext, -⟩
    · rw [hnext]
      exact h.set h.state fun task htask => by cases htask
    · rw [hnext]
      exact h.set ChildState.noConfusion fun task htask => by cases htask
    · rw [hnext]
      exact h.set ChildState.noConfusion fun task htask => by cases htask
  | close release =>
    cases hstep
    exact h.close
  | operatorClose release =>
    cases hstep
    have hclosed : Idle { s with operatorOpen := false } := ⟨h.state, h.settling⟩
    rw [operatorClose_eq]
    by_cases hregistered : s.child.registered = true
    · rw [if_pos hregistered]
      exact hclosed.close
    · rw [if_neg hregistered]
      exact hclosed

theorem Kept.idle (h : s.Kept) (hstate : s.child.state = .closed) : s.Idle where
  state := by
    rw [hstate]
    exact ChildState.noConfusion
  settling := h.cancelled hstate

/-! ## Classes whose calls have no continuation of their own -/

theorem returning_of_post (hpost : ∀ op, cls.post op = none) (op : cls.Op) (answer : Answer V) :
    cls.returning op answer = .returned answer := by
  unfold ChildClass.returning
  rw [hpost]
  rfl

/-- What moves such an object leaves no other call waiting for its task. -/
theorem idle_of_step (hpost : ∀ op, cls.post op = none) (hkept : s.Kept)
    (hidle : s.child.state ≠ .open → s.Idle) {e : ChildEvent cls} (hstep : s.step e = some t)
    (hstate : t.child.state ≠ .open) : t.Idle := by
  have hkept' : t.Kept := preserves_kept hstep hkept
  by_cases hopen : s.child.state = .open
  swap
  · exact (hidle hopen).step hkept hstep
  refine ⟨hstate, ?_⟩
  cases e with
  | call k op signal start release =>
    obtain ⟨-, ⟨value, -, rfl⟩ | ⟨-, rfl⟩⟩ := call_cases hstep
    · exact absurd hopen hstate
    rcases runTask_cases s.operatorOpen op k signal start release s.child with
      ⟨answer, hrun, -⟩ | ⟨-, hactive, ⟨answer, hrun, -⟩ | ⟨task, hrun⟩⟩
    · rw [hrun] at hstate
      exact absurd hopen hstate
    · rw [hrun]
      refine forall_setCall (fun j op' phase' hj _ task htask => ?_) (returning_ne_settling op answer)
      have hholder := hkept.exclusive j op' phase' hj (htask ▸ trivial)
      rw [hactive] at hholder
      cases hholder
    · rw [hrun] at hstate
      exact absurd hopen hstate
  | settle k answer =>
    obtain ⟨-, op, task, -, rfl⟩ := settle_cases hstep
    exact absurd hopen hstate
  | resumeTask k release =>
    obtain ⟨op, settled, hcall, rfl⟩ := resumeTask_cases hstep
    have hactive := hkept.exclusive k op _ hcall trivial
    refine forall_setCall (fun j op' phase' hj hjk task htask => ?_) (returning_ne_settling op _)
    have hholder := hkept.exclusive j op' phase' hj (htask ▸ trivial)
    rw [hactive] at hholder
    exact hjk (Option.some.inj hholder).symm
  | resumeNext k release =>
    obtain ⟨op, returned, post, -, hpost', -⟩ := resumeNext_cases hstep
    rw [hpost op] at hpost'
    cases hpost'
  | close release =>
    cases hstep
    exact hkept'.cancelled state_close
  | operatorClose release =>
    cases hstep
    apply hkept'.cancelled
    rw [operatorClose_eq] at hstate ⊢
    by_cases hregistered : s.child.registered = true
    · rw [if_pos hregistered]
      exact state_close
    · rw [if_neg hregistered] at hstate
      exact absurd hopen hstate

/-- No call of such an object is between `runTask` and a continuation. -/
theorem not_returning_of_step (hpost : ∀ op, cls.post op = none)
    (h : ∀ k op phase, s.calls k = some ⟨op, phase⟩ → ∀ answer, phase ≠ .returning answer)
    {e : ChildEvent cls} (hstep : s.step e = some t) :
    ∀ k op phase, t.calls k = some ⟨op, phase⟩ → ∀ answer, phase ≠ .returning answer := by
  have hset : ∀ (child : BrowserChildResource) (k : Nat) (op : cls.Op) (phase : Phase V),
      (∀ answer, phase ≠ .returning answer) →
        ∀ j op' phase', ({ s with child }.setCall k op phase).calls j = some ⟨op', phase'⟩ →
          ∀ answer, phase' ≠ .returning answer := fun child k op phase hphase =>
    forall_setCall (fun j op' phase' hj _ => h j op' phase' hj) hphase
  have hcancelled : ∀ j op task, s.calls j = some ⟨op, .settling task⟩ → ∀ answer,
      (.settled (.ok (.failed (cancelledError (cls.context op)))) : Phase V) ≠ .returning answer := by
    intro j op task _ answer hanswer
    cases hanswer
  cases e with
  | call k op signal start release =>
    obtain ⟨-, ⟨value, -, rfl⟩ | ⟨-, rfl⟩⟩ := call_cases hstep
    · exact hset s.child k op _ fun answer hanswer => by cases hanswer
    apply hset
    intro answer hanswer
    rcases runTask_cases s.operatorOpen op k signal start release s.child with
      ⟨_, hrun, -⟩ | ⟨-, -, ⟨_, hrun, -⟩ | ⟨task, hrun⟩⟩
    · rw [hrun, returning_of_post hpost] at hanswer
      cases hanswer
    · rw [hrun, returning_of_post hpost] at hanswer
      cases hanswer
    · rw [hrun] at hanswer
      cases hanswer
  | settle k answer =>
    obtain ⟨-, op, task, -, rfl⟩ := settle_cases hstep
    exact hset s.child k op _ fun answer hanswer => by cases hanswer
  | resumeTask k release =>
    obtain ⟨op, settled, hcall, rfl⟩ := resumeTask_cases hstep
    apply hset
    intro answer hanswer
    rw [returning_of_post hpost] at hanswer
    cases hanswer
  | resumeNext k release =>
    obtain ⟨op, returned, post, -, hpost', -⟩ := resumeNext_cases hstep
    rw [hpost op] at hpost'
    cases hpost'
  | close release =>
    cases hstep
    exact forall_close h hcancelled
  | operatorClose release =>
    cases hstep
    exact forall_operatorClose h hcancelled

/-! ## Two runs -/

/-- Two idle objects that differ in their state only. -/
structure Parted (s t : ChildSystem cls) : Prop where
  idle : s.Idle
  state : t.child.state ≠ .open
  child : t.child = { s.child with state := t.child.state }

/-- Every call but those in `R` is over. -/
def Over (R : Nat → Bool) (s : ChildSystem cls) : Prop :=
  ∀ k op phase, s.calls k = some ⟨op, phase⟩ → R k = false → ∃ answer, phase = .returned answer

/-- `t` has all the calls of `s` but those in `R`, which `s` has refused as busy. -/
structure Erased (R : Nat → Bool) (s t : ChildSystem cls) : Prop where
  operatorOpen : t.operatorOpen = s.operatorOpen
  child : t.child = s.child ∨ Parted s t ∨ Over R s
  kept : ∀ k, R k = false → t.calls k = s.calls k
  gone : ∀ k, R k = true → t.calls k = none
  refused : ∀ k op phase, s.calls k = some ⟨op, phase⟩ → R k = true →
    phase = .returning (cls.busyAnswer op) ∨ phase = .returned (cls.busyAnswer op)

variable {R : Nat → Bool}

/-- The same kept call is set in both runs. -/
theorem Erased.set (h : Erased R s t) {k : Nat} (hk : R k = false) {op : cls.Op}
    {phase : Phase V} {c d : BrowserChildResource}
    (hchild : d = c ∨
      Parted ({ s with child := c }.setCall k op phase) ({ t with child := d }.setCall k op phase) ∨
      Over R ({ s with child := c }.setCall k op phase)) :
    Erased R ({ s with child := c }.setCall k op phase) ({ t with child := d }.setCall k op phase) where
  operatorOpen := h.operatorOpen
  child := hchild
  kept j hj := by
    by_cases hjk : j = k
    · rw [hjk, calls_setCall_self, calls_setCall_self]
    · rw [calls_setCall_of_ne hjk, calls_setCall_of_ne hjk]
      exact h.kept j hj
  gone j hj := by
    have hjk : j ≠ k := by
      intro heq
      rw [heq, hk] at hj
      cases hj
    rw [calls_setCall_of_ne hjk]
    exact h.gone j hj
  refused := by
    refine forall_setCall (fun j op' phase' hj _ => h.refused j op' phase' hj) ?_
    intro htrue
    rw [hk] at htrue
    cases htrue

/-- A refused call that moves on is in the first run only. -/
theorem Erased.set_refused (h : Erased R s t) {k : Nat} (hk : R k = true) {op : cls.Op}
    {phase : Phase V}
    (hphase : phase = .returning (cls.busyAnswer op) ∨ phase = .returned (cls.busyAnswer op)) :
    Erased R (s.setCall k op phase) t where
  operatorOpen := h.operatorOpen
  child := by
    rcases h.child with hsame | hparted | hover
    · exact Or.inl hsame
    · refine Or.inr (Or.inl ⟨hparted.idle.set hparted.idle.state ?_, hparted.state, hparted.child⟩)
      intro task htask
      rcases hphase with hphase | hphase
      · rw [hphase] at htask
        cases htask
      · rw [hphase] at htask
        cases htask
    · refine Or.inr (Or.inr (forall_setCall (fun j op' phase' hj _ => hover j op' phase' hj) ?_))
      intro hfalse
      rw [hk] at hfalse
      cases hfalse
  kept j hj := by
    have hjk : j ≠ k := by
      intro heq
      rw [heq, hk] at hj
      cases hj
    rw [calls_setCall_of_ne hjk]
    exact h.kept j hj
  gone := h.gone
  refused := forall_setCall (fun j op' phase' hj _ => h.refused j op' phase' hj) fun _ => hphase

theorem Erased.settle (h : Erased R s t) {k : Nat} (hk : R k = false) {answer : Answer V}
    (hstep : s.step (.settle k answer) = some s') :
    ∃ t', t.step (.settle k answer) = some t' ∧ Erased R s' t' ∧
      (t.child = s.child → t'.child = s'.child) := by
  obtain ⟨hhonest, op, task, hcall, rfl⟩ := settle_cases hstep
  have hcall' : t.calls k = some ⟨op, .settling task⟩ := (h.kept k hk).trans hcall
  refine ⟨t.setCall k op (.settled answer), ?_, h.set hk ?_, id⟩
  · exact step_settle hcall' hhonest
  · rcases h.child with hsame | hparted | hover
    · exact Or.inl hsame
    · exact absurd rfl (hparted.idle.settling k op _ hcall task)
    · obtain ⟨answer, hanswer⟩ := hover k op _ hcall hk
      cases hanswer

theorem clearActive_withState (k : Nat) (c : BrowserChildResource) (state : ChildState) :
    clearActive k { c with state } = { clearActive k c with state } := by
  unfold clearActive
  by_cases hactive : c.active = some k
  · rw [if_pos hactive, if_pos hactive]
  · rw [if_neg hactive, if_neg hactive]

theorem Erased.resumeTask (h : Erased R s t) {k : Nat} (hk : R k = false) (hkept : s.Kept)
    (hstep : s.step (.resumeTask k release) = some s') :
    ∃ t', t.step (.resumeTask k release) = some t' ∧ Erased R s' t' ∧
      (t.child = s.child → t'.child = s'.child) := by
  obtain ⟨op, settled, hcall, rfl⟩ := resumeTask_cases hstep
  have hcall' : t.calls k = some ⟨op, .settled settled⟩ := (h.kept k hk).trans hcall
  have hrun : t.child = s.child → cls.resumeTask t.operatorOpen op k settled release t.child =
      cls.resumeTask s.operatorOpen op k settled release s.child := by
    intro hsame
    rw [h.operatorOpen, hsame]
  refine ⟨_, by simp only [step, hcall']; rfl, ?_, fun hsame => congrArg Prod.snd (hrun hsame)⟩
  rcases h.child with hsame | hparted | hover
  · rw [hrun hsame]
    exact h.set hk (Or.inl rfl)
  · have hhonest := hkept.honest k op _ hcall settled rfl
    have hidle := hparted.idle.step hkept hstep
    simp only [ChildClass.resumeTask, settledTask_of_not_open _ _ _ hhonest hparted.state,
      settledTask_of_not_open _ _ _ hhonest hparted.idle.state] at hidle ⊢
    refine h.set hk (Or.inr (Or.inl ⟨hidle, ?_, ?_⟩))
    · show (clearActive k t.child).state ≠ .open
      rw [state_clearActive]
      exact hparted.state
    · show clearActive k t.child =
        { clearActive k s.child with state := (clearActive k t.child).state }
      rw [state_clearActive, ← clearActive_withState, ← hparted.child]
  · obtain ⟨answer, hanswer⟩ := hover k op _ hcall hk
    cases hanswer

/-- What `next` makes of its value is the same whatever the state was. -/
theorem resumeNext_withState (post : V → Post) (returned : Answer V) (release : Except Failure Unit)
    (c : BrowserChildResource) (state : ChildState) :
    (resumeNext post returned release { c with state }).1 = (resumeNext post returned release c).1 ∧
      ((resumeNext post returned release { c with state }).2 =
          (resumeNext post returned release c).2 ∨
        (resumeNext post returned release c).2 = c ∧
          (resumeNext post returned release { c with state }).2 = { c with state }) := by
  unfold resumeNext
  cases returned with
  | error failure => exact ⟨rfl, Or.inr ⟨rfl, rfl⟩⟩
  | ok outcome =>
    cases outcome with
    | failed e => exact ⟨rfl, Or.inr ⟨rfl, rfl⟩⟩
    | ok value =>
      cases hpost : post value with
      | keep => exact ⟨by simp only [hpost], Or.inr (by simp only [hpost, and_self])⟩
      | «end» =>
        refine ⟨?_, Or.inl ?_⟩
        · simp only [hpost]
          rfl
        · simp only [hpost]
          rfl
      | invalid =>
        refine ⟨?_, Or.inl ?_⟩
        · simp only [hpost]
          rfl
        · simp only [hpost]
          rfl

theorem Erased.resumeNext (h : Erased R s t) {k : Nat} (hk : R k = false) (hkept : s.Kept)
    (hstep : s.step (.resumeNext k release) = some s') :
    ∃ t', t.step (.resumeNext k release) = some t' ∧ Erased R s' t' ∧
      (t.child = s.child → t'.child = s'.child) := by
  obtain ⟨op, returned, post, hcall, hpost, rfl⟩ := resumeNext_cases hstep
  have hcall' : t.calls k = some ⟨op, .returning returned⟩ := (h.kept k hk).trans hcall
  have hrun : t.child = s.child → Browser.resumeNext post returned release t.child =
      Browser.resumeNext post returned release s.child := by
    intro hsame
    rw [hsame]
  refine ⟨_, by simp only [step, hcall', hpost]; rfl, ?_, fun hsame => congrArg Prod.snd (hrun hsame)⟩
  rcases h.child with hsame | hparted | hover
  · rw [hsame]
    exact h.set hk (Or.inl rfl)
  · have hidle := hparted.idle.step hkept hstep
    obtain ⟨hanswer, hchild⟩ :=
      resumeNext_withState post returned release s.child t.child.state
    rw [← hparted.child] at hanswer hchild
    rw [hanswer]
    refine h.set hk ?_
    rcases hchild with hchild | ⟨hs, ht⟩
    · exact Or.inl hchild
    · refine Or.inr (Or.inl ⟨hidle, ?_, ?_⟩)
      · show (Browser.resumeNext post returned release t.child).2.state ≠ .open
        rw [ht]
        exact hparted.state
      · show (Browser.resumeNext post returned release t.child).2 = _
        rw [hs, ht]
        exact hparted.child
  · obtain ⟨answer, hanswer⟩ := hover k op _ hcall hk
    cases hanswer

/-! ## Closing both -/

theorem Erased.not_settling (h : Erased R s t) {k : Nat} {op : cls.Op} {task : UInt32}
    (hcall : s.calls k = some ⟨op, .settling task⟩) : R k = false := by
  cases hk : R k with
  | false => rfl
  | true => rcases h.refused k op _ hcall hk with hphase | hphase <;> cases hphase

theorem Erased.settling_iff (h : Erased R s t) {k : Nat} {op : cls.Op} {task : UInt32} :
    t.calls k = some ⟨op, .settling task⟩ ↔ s.calls k = some ⟨op, .settling task⟩ := by
  constructor
  · intro hcall
    cases hk : R k with
    | false => rwa [h.kept k hk] at hcall
    | true =>
      rw [h.gone k hk] at hcall
      cases hcall
  · intro hcall
    rwa [h.kept k (h.not_settling hcall)]

theorem Erased.cancelActive (h : Erased R s t) (hchild : t.child = s.child) :
    Erased R s.cancelActive t.cancelActive := by
  rcases cancelActive_cases (s := s) with ⟨hs, hnone⟩ | ⟨k, op, task, hactive, hcall, hs⟩
  · rcases cancelActive_cases (s := t) with ⟨ht, -⟩ | ⟨j, op, task, hactive, hcall, -⟩
    · rw [hs, ht]
      exact h
    · rw [hchild] at hactive
      exact absurd (h.settling_iff.mp hcall) (hnone j op task hactive)
  · have hcall' := h.settling_iff.mpr hcall
    rcases cancelActive_cases (s := t) with ⟨-, hnone⟩ | ⟨j, op', task', hactive', hcall'', ht⟩
    · exact absurd hcall' (hnone k op task (hchild ▸ hactive))
    · rw [hchild, hactive] at hactive'
      cases hactive'
      rw [hcall'] at hcall''
      cases hcall''
      rw [hs, ht]
      exact h.set (h.not_settling hcall) (Or.inl hchild)

/-- A close moves no call when none waits for its task. -/
theorem calls_close_eq (h : ∀ k op task, s.calls k ≠ some ⟨op, .settling task⟩) :
    (s.close release).2.calls = s.calls := by
  have hcancel : s.cancelActive = s := by
    rcases cancelActive_cases (s := s) with ⟨hsame, -⟩ | ⟨k, op, task, -, hcall, -⟩
    · exact hsame
    · exact absurd hcall (h k op task)
  rw [close_snd, hcancel]
  by_cases hclosed : s.child.state = .closed
  · rw [if_pos hclosed]
  · rw [if_neg hclosed]

theorem calls_operatorClose_eq (h : ∀ k op task, s.calls k ≠ some ⟨op, .settling task⟩) :
    (s.operatorClose release).calls = s.calls := by
  rw [operatorClose_eq]
  by_cases hregistered : s.child.registered = true
  · rw [if_pos hregistered]
    exact calls_close_eq (s := { s with operatorOpen := false }) h
  · rw [if_neg hregistered]

theorem operatorOpen_close : (s.close release).2.operatorOpen = s.operatorOpen := by
  rw [close_snd]
  by_cases hclosed : s.child.state = .closed
  · rw [if_pos hclosed]
  · rw [if_neg hclosed]
    exact cancelActive_operatorOpen

theorem operatorOpen_operatorClose : (s.operatorClose release).operatorOpen = false := by
  rw [operatorClose_eq]
  by_cases hregistered : s.child.registered = true
  · rw [if_pos hregistered, operatorOpen_close]
  · rw [if_neg hregistered]

theorem Erased.over_not_settling (h : Erased R s t) (hover : s.Over R) (k : Nat) (op : cls.Op)
    (task : UInt32) : s.calls k ≠ some ⟨op, .settling task⟩ := by
  intro hcall
  obtain ⟨answer, hanswer⟩ := hover k op _ hcall (h.not_settling hcall)
  cases hanswer

/-- Closing an idle object that has given its handle back stores the state and nothing else. -/
theorem Idle.close_eq (h : s.Idle) (hhandle : s.child.handle = 0)
    (hregistered : s.child.registered = false) :
    (s.close release).2 = { s with child := { s.child with state := .closed } } := by
  have hcancel : s.cancelActive = s := by
    rcases cancelActive_cases (s := s) with ⟨hsame, -⟩ | ⟨k, op, task, -, hcall, -⟩
    · exact hsame
    · exact absurd rfl (h.settling k op _ hcall task)
  rw [close_snd, hcancel]
  by_cases hclosed : s.child.state = .closed
  · rw [if_pos hclosed, ← hclosed]
  · rw [if_neg hclosed, BrowserChildResource.finished, ← hhandle, ← hregistered]

theorem Parted.handle (h : Parted s t) (hkept : s.Kept) :
    t.child.handle = 0 ∧ t.child.registered = false := by
  obtain ⟨hhandle, hregistered⟩ := hkept.released h.idle.state
  rw [h.child]
  exact ⟨hhandle, hregistered⟩

theorem Erased.idle (h : Erased R s t) (hparted : Parted s t) : t.Idle where
  state := hparted.state
  settling k op phase hcall task htask := by
    rw [htask] at hcall
    exact hparted.idle.settling k op _ (h.settling_iff.mp hcall) task rfl

theorem Erased.close (h : Erased R s t) (hkept : s.Kept) :
    Erased R (s.close release).2 (t.close release).2 := by
  rcases h.child with hsame | hparted | hover
  · rw [close_snd, close_snd, hsame]
    by_cases hclosed : s.child.state = .closed
    · rw [if_pos hclosed, if_pos hclosed]
      exact h
    · rw [if_neg hclosed, if_neg hclosed]
      have hcancel := h.cancelActive hsame
      exact ⟨hcancel.operatorOpen, Or.inl rfl, hcancel.kept, hcancel.gone, hcancel.refused⟩
  · obtain ⟨hhandle, hregistered⟩ := hkept.released hparted.idle.state
    obtain ⟨hhandle', hregistered'⟩ := hparted.handle hkept
    rw [hparted.idle.close_eq hhandle hregistered, (h.idle hparted).close_eq hhandle' hregistered']
    refine ⟨h.operatorOpen, Or.inl ?_, h.kept, h.gone, h.refused⟩
    show { t.child with state := .closed } = { s.child with state := .closed }
    rw [hparted.child]
  · have hs := h.over_not_settling hover
    have ht : ∀ k op task, t.calls k ≠ some ⟨op, .settling task⟩ := fun k op task hcall =>
      hs k op task (h.settling_iff.mp hcall)
    refine ⟨?_, Or.inr (Or.inr ?_), ?_, ?_, ?_⟩
    · rw [operatorOpen_close, operatorOpen_close, h.operatorOpen]
    · unfold Over
      rw [calls_close_eq hs]
      exact hover
    · rw [calls_close_eq hs, calls_close_eq ht]
      exact h.kept
    · rw [calls_close_eq ht]
      exact h.gone
    · rw [calls_close_eq hs]
      exact h.refused

theorem Erased.operatorClose (h : Erased R s t) (hkept : s.Kept) :
    Erased R (s.operatorClose release) (t.operatorClose release) := by
  have hclosed : ∀ (hchild : t.child = s.child ∨ Parted s t),
      Erased R { s with operatorOpen := false } { t with operatorOpen := false } := by
    intro hchild
    refine ⟨rfl, ?_, h.kept, h.gone, h.refused⟩
    rcases hchild with hsame | hparted
    · exact Or.inl hsame
    · exact Or.inr (Or.inl
        ⟨⟨hparted.idle.state, hparted.idle.settling⟩, hparted.state, hparted.child⟩)
  have hboth : t.child.registered = s.child.registered →
      Erased R { s with operatorOpen := false } { t with operatorOpen := false } →
        Erased R (s.operatorClose release) (t.operatorClose release) := by
    intro hregistered herased
    rw [operatorClose_eq, operatorClose_eq, hregistered]
    by_cases hopen : s.child.registered = true
    · rw [if_pos hopen, if_pos hopen]
      exact herased.close ⟨hkept.honest, hkept.exclusive, hkept.released, hkept.cancelled⟩
    · rw [if_neg hopen, if_neg hopen]
      exact herased
  rcases h.child with hsame | hparted | hover
  · exact hboth (by rw [hsame]) (hclosed (Or.inl hsame))
  · exact hboth (by rw [hparted.child]) (hclosed (Or.inr hparted))
  · have hs := h.over_not_settling hover
    have ht : ∀ k op task, t.calls k ≠ some ⟨op, .settling task⟩ := fun k op task hcall =>
      hs k op task (h.settling_iff.mp hcall)
    refine ⟨?_, Or.inr (Or.inr ?_), ?_, ?_, ?_⟩
    · rw [operatorOpen_operatorClose, operatorOpen_operatorClose]
    · unfold Over
      rw [calls_operatorClose_eq hs]
      exact hover
    · rw [calls_operatorClose_eq hs, calls_operatorClose_eq ht]
      exact h.kept
    · rw [calls_operatorClose_eq ht]
      exact h.gone
    · rw [calls_operatorClose_eq hs]
      exact h.refused

theorem child_close_eq (h : t.child = s.child) :
    (t.close release).2.child = (s.close release).2.child := by
  rw [close_snd, close_snd, h]
  by_cases hclosed : s.child.state = .closed
  · rw [if_pos hclosed, if_pos hclosed, h]
  · rw [if_neg hclosed, if_neg hclosed]

theorem child_operatorClose_eq (h : t.child = s.child) :
    (t.operatorClose release).child = (s.operatorClose release).child := by
  rw [operatorClose_eq, operatorClose_eq]
  by_cases hregistered : s.child.registered = true
  · rw [if_pos hregistered, if_pos (by rw [h, hregistered])]
    exact child_close_eq (s := { s with operatorOpen := false })
      (t := { t with operatorOpen := false }) h
  · rw [if_neg hregistered, if_neg (by rw [h]; exact hregistered)]
    exact h

/-- Closing the first object alone, when that can no longer be seen. -/
theorem Erased.close_first (h : Erased R s t) (hkept : s.Kept) (hquiet : s.Idle ∨ s.Over R) :
    Erased R (s.close release).2 t := by
  rcases hquiet with hidle | hover
  · obtain ⟨hhandle, hregistered⟩ := hkept.released hidle.state
    have hclosed : (s.close release).2.Idle := hidle.close
    rw [hidle.close_eq hhandle hregistered] at hclosed ⊢
    refine ⟨h.operatorOpen, ?_, h.kept, h.gone, h.refused⟩
    rcases h.child with hsame | hparted | hover
    · refine Or.inr (Or.inl ⟨hclosed, ?_, ?_⟩)
      · rw [hsame]
        exact hidle.state
      · rw [hsame]
    · exact Or.inr (Or.inl ⟨hclosed, hparted.state, hparted.child⟩)
    · exact Or.inr (Or.inr hover)
  · have hs := h.over_not_settling hover
    refine ⟨?_, Or.inr (Or.inr ?_), ?_, h.gone, ?_⟩
    · rw [operatorOpen_close, h.operatorOpen]
    · unfold Over
      rw [calls_close_eq hs]
      exact hover
    · rw [calls_close_eq hs]
      exact h.kept
    · rw [calls_close_eq hs]
      exact h.refused

/-! ## Calling both -/

/-- A kept call on equal objects does the same in both runs. -/
theorem Erased.call (h : Erased R s t) (hchild : t.child = s.child) {k : Nat} (hk : R k = false)
    {op : cls.Op} {signal : Signal} {start : Except Failure UInt32}
    (hstep : s.step (.call k op signal start release) = some s') :
    ∃ t', t.step (.call k op signal start release) = some t' ∧ t'.child = s'.child ∧
      Erased R s' t' := by
  obtain ⟨hfree, hcases⟩ := call_cases hstep
  have hfree' : t.calls k = none := (h.kept k hk).trans hfree
  rcases hcases with ⟨value, hshortcut, rfl⟩ | ⟨hshortcut, rfl⟩
  · have hshortcut' : cls.shortcut op t.child.state = some value := by
      rw [hchild, hshortcut]
    exact ⟨_, step_call_shortcut hfree' hshortcut', hchild, h.set hk (Or.inl hchild)⟩
  · have hshortcut' : cls.shortcut op t.child.state = none := by
      rw [hchild, hshortcut]
    have hrun : cls.runTask t.operatorOpen op k signal start release t.child =
        cls.runTask s.operatorOpen op k signal start release s.child := by
      rw [h.operatorOpen, hchild]
    refine ⟨_, step_call hfree' hshortcut', ?_, ?_⟩
    · rw [hrun]
      rfl
    · rw [hrun]
      exact h.set hk (Or.inl rfl)

/-- What `runTask` refuses as busy: the call is over, and the object as it was. -/
theorem step_call_busy {k : Nat} {op : cls.Op} {signal : Signal} {start : Except Failure UInt32}
    (hk : s.calls k = none) (hshortcut : cls.shortcut op s.child.state = none)
    (husable : ¬ s.child.Unusable s.operatorOpen) (hactive : s.child.active.isSome = true) :
    s.step (.call k op signal start release) =
      some (s.setCall k op (cls.returning op (cls.busyAnswer op))) := by
  rw [step_call hk hshortcut, runTask_busy husable hactive]
  rfl

theorem resumeNext_busy {k : Nat} {op : cls.Op}
    (hcall : s.calls k = some ⟨op, .returning (cls.busyAnswer op)⟩)
    (hstep : s.step (.resumeNext k release) = some s') :
    s' = s.setCall k op (.returned (cls.busyAnswer op)) := by
  obtain ⟨op', returned, post, hcall', -, rfl⟩ := resumeNext_cases hstep
  rw [hcall] at hcall'
  cases hcall'
  rfl

end ChildSystem

end OpendalMbt.Browser
