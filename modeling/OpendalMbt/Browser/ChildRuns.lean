import OpendalMbt.Browser.Child

/-!
# Runs of a child

What each piece of a call can do to the object, and what every run keeps:

* a call in flight is the one whose control is stored (`exclusive`);
* an object that is no longer open has given its handle back (`released`);
* no call of a closed object waits for its task (`cancelled`).
-/

namespace OpendalMbt.Browser

open Codec Transition

/-- An answer that carries no value. -/
def Valueless {V : Type} (answer : Answer V) : Prop := ∀ value, answer ≠ .ok (.ok value)

theorem valueless_failed {V : Type} (e : ErrorOutcome JsString) :
    Valueless (.ok (.failed e) : Answer V) := by
  intro value h
  cases h

theorem valueless_error {V : Type} (failure : Failure) :
    Valueless (.error failure : Answer V) := by
  intro value h
  cases h

/-- The object after a `release`, in its last state. -/
def BrowserChildResource.finished (state : ChildState) (c : BrowserChildResource) :
    BrowserChildResource :=
  { c with state, handle := 0, registered := false }

section Pieces

variable {V : Type} {cls : ChildClass V} {operatorOpen : Bool} {op : cls.Op} {k : Nat}
  {signal : Signal} {start : Except Failure UInt32} {release : Except Failure Unit}
  {c : BrowserChildResource}

theorem finishThen_valueless {state : ChildState} {result : Answer V} (h : Valueless result) :
    ∃ answer, c.finishThen state release result = (answer, c.finished state) ∧
      Valueless answer := by
  obtain ⟨hchild, hresult⟩ := c.finishThen_cases state release result
  rcases hresult with hresult | ⟨failure, hresult⟩
  · exact ⟨result, Prod.ext hresult hchild, h⟩
  · exact ⟨.error failure, Prod.ext hresult hchild, valueless_error failure⟩

/-- A start that goes well leads to `settleTask`; a refused one ends the call, and fails the
object when it is the refusal of a closed resource. -/
theorem runTask_start (h : ¬ c.Unusable operatorOpen) (hactive : c.active = none)
    (hsignal : signal.Quiet) :
    (∃ answer, cls.runTask operatorOpen op k signal start release c =
        (cls.returning op answer, c) ∧ Valueless answer) ∨
      (∃ answer, cls.runTask operatorOpen op k signal start release c =
        (cls.returning op answer, c.finished .failed) ∧ Valueless answer) ∨
      ∃ task, cls.runTask operatorOpen op k signal start release c =
        (.settling task, { c with active := some k }) := by
  have hidle : ¬ c.active.isSome = true := by
    rw [hactive]
    exact Bool.false_ne_true
  have hsame : cls.runTask operatorOpen op k signal start release c =
      cls.runTask operatorOpen op k .none start release c := by
    rcases hsignal with rfl | rfl <;> rfl
  rw [hsame]
  unfold ChildClass.runTask
  rw [if_neg h, if_neg hidle]
  cases start with
  | ok task => exact Or.inr (Or.inr ⟨task, rfl⟩)
  | error failure =>
    cases failure with
    | outcome e =>
      by_cases hkind : e.kind = exactText "ResourceClosed"
      · obtain ⟨answer, hfinish, hanswer⟩ : ∃ answer, c.finishThen .failed release
            (.ok (.failed e) : Answer V) = (answer, c.finished .failed) ∧ Valueless answer :=
          finishThen_valueless (valueless_failed e)
        simp only [if_pos hkind, hfinish]
        exact Or.inr (Or.inl ⟨answer, rfl, hanswer⟩)
      · simp only [if_neg hkind]
        exact Or.inl ⟨_, rfl, valueless_failed e⟩
    | contract message => exact Or.inl ⟨_, rfl, valueless_error _⟩
    | trap => exact Or.inl ⟨_, rfl, valueless_error _⟩
    | stackOverflow => exact Or.inl ⟨_, rfl, valueless_error _⟩

theorem runTask_aborted (h : ¬ c.Unusable operatorOpen) (hactive : c.active = none) :
    ∃ answer, cls.runTask operatorOpen op k .aborted start release c =
      (cls.returning op answer, c.finished .failed) ∧ Valueless answer := by
  have hidle : ¬ c.active.isSome = true := by
    rw [hactive]
    exact Bool.false_ne_true
  obtain ⟨answer, hfinish, hanswer⟩ : ∃ answer, c.finishThen .failed release
      (.ok (.failed (cancelledError (cls.context op))) : Answer V) =
        (answer, c.finished .failed) ∧ Valueless answer :=
    finishThen_valueless (valueless_failed _)
  refine ⟨answer, ?_, hanswer⟩
  unfold ChildClass.runTask
  rw [if_neg h, if_neg hidle]
  simp only [hfinish]

/-- A call starts its task, or it is over without a value: with the object as it was, or
failed. -/
theorem runTask_cases (operatorOpen : Bool) (op : cls.Op) (k : Nat) (signal : Signal)
    (start : Except Failure UInt32) (release : Except Failure Unit) (c : BrowserChildResource) :
    (∃ answer, cls.runTask operatorOpen op k signal start release c =
        (cls.returning op answer, c) ∧ Valueless answer) ∨
      (¬ c.Unusable operatorOpen ∧ c.active = none ∧
        ((∃ answer, cls.runTask operatorOpen op k signal start release c =
            (cls.returning op answer, c.finished .failed) ∧ Valueless answer) ∨
          ∃ task, cls.runTask operatorOpen op k signal start release c =
            (.settling task, { c with active := some k }))) := by
  by_cases hunusable : c.Unusable operatorOpen
  · exact Or.inl ⟨_, runTask_unusable hunusable, valueless_failed _⟩
  cases hactive : c.active with
  | some j =>
    exact Or.inl ⟨_, runTask_busy hunusable (by rw [hactive]; rfl), valueless_failed _⟩
  | none =>
    by_cases hsignal : signal.Quiet
    · rcases runTask_start hunusable hactive hsignal with hrefused | hrest
      · exact Or.inl hrefused
      · exact Or.inr ⟨hunusable, rfl, hrest⟩
    cases signal with
    | none => exact absurd (Or.inl rfl) hsignal
    | live => exact absurd (Or.inr rfl) hsignal
    | aborted => exact Or.inr ⟨hunusable, rfl, Or.inl (runTask_aborted hunusable hactive)⟩
    | invalid =>
      refine Or.inl ⟨_, ?_, valueless_failed (invalidSignal (cls.context op))⟩
      unfold ChildClass.runTask
      rw [if_neg hunusable, if_neg (by simp [hactive])]

/-- What a task settled with is an outcome, or the rejection of a broken contract. -/
def Honest (settled : Answer V) : Prop := ∀ e, settled ≠ .error (.outcome e)

/-- After its `await` a call hands on what its task settled with, unless the object or its
operator is closed; only an open object changes. -/
theorem settledTask_cases {settled : Answer V} (h : Honest settled) :
    (∃ answer, cls.settledTask operatorOpen op settled release c = (answer, c) ∧
        (Valueless answer ∨ ¬ c.Unusable operatorOpen ∧ answer = settled)) ∨
      (c.state = .open ∧ ∃ answer,
        cls.settledTask operatorOpen op settled release c = (answer, c.finished .failed) ∧
          Valueless answer) ∨
      (c.state = .open ∧ ∃ answer state, cls.successState op = some state ∧
        cls.settledTask operatorOpen op settled release c = (answer, c.finished state)) := by
  unfold ChildClass.settledTask
  cases settled with
  | ok outcome =>
    cases outcome with
    | ok value =>
      by_cases hunusable : c.Unusable operatorOpen
      · simp only [if_pos hunusable]
        exact Or.inl ⟨_, rfl, Or.inl (valueless_failed _)⟩
      have hopen : c.state = .open := by
        by_contra hstate
        exact hunusable (Or.inl hstate)
      simp only [if_neg hunusable]
      cases hsuccess : cls.successState op with
      | none => exact Or.inl ⟨_, rfl, Or.inr ⟨hunusable, rfl⟩⟩
      | some state =>
        obtain ⟨hchild, -⟩ := c.finishWith_cases state release value
        exact Or.inr (Or.inr ⟨hopen, _, state, rfl, Prod.ext rfl hchild⟩)
    | failed e =>
      by_cases hopen : c.state = .open
      · simp only [if_pos hopen]
        exact Or.inr (Or.inl ⟨hopen, finishThen_valueless (valueless_failed e)⟩)
      · simp only [if_neg hopen]
        exact Or.inl ⟨_, rfl, Or.inl (valueless_failed e)⟩
  | error failure =>
    cases failure with
    | outcome e => exact absurd rfl (h e)
    | contract message =>
      by_cases hopen : c.state = .open
      · simp only [if_pos hopen]
        exact Or.inr (Or.inl ⟨hopen, finishThen_valueless (valueless_error _)⟩)
      · simp only [if_neg hopen]
        exact Or.inl ⟨_, rfl, Or.inl (valueless_error _)⟩
    | trap =>
      by_cases hopen : c.state = .open
      · simp only [if_pos hopen]
        exact Or.inr (Or.inl ⟨hopen, finishThen_valueless (valueless_error _)⟩)
      · simp only [if_neg hopen]
        exact Or.inl ⟨_, rfl, Or.inl (valueless_error _)⟩
    | stackOverflow =>
      by_cases hopen : c.state = .open
      · simp only [if_pos hopen]
        exact Or.inr (Or.inl ⟨hopen, finishThen_valueless (valueless_error _)⟩)
      · simp only [if_neg hopen]
        exact Or.inl ⟨_, rfl, Or.inl (valueless_error _)⟩

@[simp] theorem state_clearActive : (clearActive k c).state = c.state := by
  unfold clearActive
  split <;> rfl

@[simp] theorem handle_clearActive : (clearActive k c).handle = c.handle := by
  unfold clearActive
  split <;> rfl

@[simp] theorem registered_clearActive : (clearActive k c).registered = c.registered := by
  unfold clearActive
  split <;> rfl

/-- `next` hands its answer on, or it moves the object to its last state. -/
theorem resumeNext_answer (post : V → Post) (returned : Answer V) (release : Except Failure Unit)
    (c : BrowserChildResource) :
    ((∀ value, returned = .ok (.ok value) → post value = .keep) ∧
        resumeNext post returned release c = (returned, c)) ∨
      (∃ value, returned = .ok (.ok value) ∧ post value = .end ∧
        ∃ answer, resumeNext post returned release c = (answer, c.finished .end) ∧
          (answer = returned ∨ Valueless answer)) ∨
      (∃ value, returned = .ok (.ok value) ∧ post value = .invalid ∧
        ∃ answer, resumeNext post returned release c = (answer, c.finished .failed) ∧
          Valueless answer) := by
  unfold resumeNext
  cases returned with
  | error failure =>
    refine Or.inl ⟨?_, rfl⟩
    intro value h
    cases h
  | ok outcome =>
    cases outcome with
    | failed e =>
      refine Or.inl ⟨?_, rfl⟩
      intro value h
      cases h
    | ok value =>
      cases hpost : post value with
      | keep =>
        refine Or.inl ⟨?_, by simp only [hpost]⟩
        intro value' h
        cases h
        exact hpost
      | «end» =>
        obtain ⟨hchild, hanswer⟩ := c.finishWith_cases .end release value
        simp only [hpost]
        refine Or.inr (Or.inl ⟨value, rfl, hpost, ?_⟩)
        rcases hanswer with hanswer | ⟨e, hanswer⟩ | ⟨failure, hanswer⟩
        · exact ⟨_, Prod.ext hanswer hchild, Or.inl rfl⟩
        · exact ⟨_, Prod.ext hanswer hchild, Or.inr (valueless_failed e)⟩
        · exact ⟨_, Prod.ext hanswer hchild, Or.inr (valueless_error failure)⟩
      | invalid =>
        simp only [hpost]
        exact Or.inr (Or.inr ⟨value, rfl, hpost, finishThen_valueless (valueless_error _)⟩)

end Pieces

/-! ## Closing -/

/-- A call that holds the control of the object. -/
def Phase.InFlight {V : Type} : Phase V → Prop
  | .settling _ | .settled _ => True
  | .returning _ | .returned _ => False

namespace ChildSystem

variable {V : Type} {cls : ChildClass V} {s t : ChildSystem cls} {k : Nat} {op : cls.Op}
  {phase : Phase V} {release : Except Failure Unit}

theorem calls_setCall_self : (s.setCall k op phase).calls k = some ⟨op, phase⟩ :=
  Function.update_self ..

theorem calls_setCall_of_ne {j : Nat} (h : j ≠ k) : (s.setCall k op phase).calls j = s.calls j :=
  Function.update_of_ne h ..

/-- What is said of every call holds after one call is set if it holds of the new phase. -/
theorem forall_setCall {P : Nat → cls.Op → Phase V → Prop}
    (h : ∀ j op' phase', s.calls j = some ⟨op', phase'⟩ → j ≠ k → P j op' phase')
    (hk : P k op phase) :
    ∀ j op' phase', (s.setCall k op phase).calls j = some ⟨op', phase'⟩ → P j op' phase' := by
  intro j op' phase' hj
  by_cases hjk : j = k
  · rw [hjk, calls_setCall_self] at hj
    cases hj
    rw [hjk]
    exact hk
  · rw [calls_setCall_of_ne hjk] at hj
    exact h j op' phase' hj hjk

theorem cancelActive_cases :
    (s.cancelActive = s ∧
        ∀ k op task, s.child.active = some k → s.calls k ≠ some ⟨op, .settling task⟩) ∨
      ∃ k op task, s.child.active = some k ∧ s.calls k = some ⟨op, .settling task⟩ ∧
        s.cancelActive =
          s.setCall k op (.settled (.ok (.failed (cancelledError (cls.context op))))) := by
  unfold cancelActive
  cases hactive : s.child.active with
  | none =>
    refine Or.inl ⟨rfl, ?_⟩
    intro k op task h
    cases h
  | some k =>
    simp only
    split
    · rename_i op task hcall
      exact Or.inr ⟨k, op, task, rfl, hcall, rfl⟩
    · rename_i hcall
      refine Or.inl ⟨rfl, ?_⟩
      intro j op task h hj
      cases h
      exact hcall op task hj

theorem cancelActive_child : s.cancelActive.child = s.child := by
  rcases cancelActive_cases (s := s) with ⟨h, -⟩ | ⟨k, op, task, -, -, h⟩
  · rw [h]
  · rw [h]
    rfl

theorem cancelActive_operatorOpen : s.cancelActive.operatorOpen = s.operatorOpen := by
  rcases cancelActive_cases (s := s) with ⟨h, -⟩ | ⟨k, op, task, -, -, h⟩
  · rw [h]
  · rw [h]
    rfl

/-- A second close does nothing; the first one cancels the call in `settleTask`. -/
theorem close_snd :
    (s.close release).2 =
      if s.child.state = .closed then s
      else { s.cancelActive with child := s.child.finished .closed } := by
  unfold close
  by_cases hclosed : s.child.state = .closed
  · simp only [if_pos hclosed]
    have hchild := s.child.closeResource_snd release
    rw [if_pos hclosed] at hchild
    rw [hchild]
  · simp only [if_neg hclosed, cancelActive_child]
    have hchild := s.child.closeResource_snd release
    rw [if_neg hclosed] at hchild
    rw [hchild]
    rfl

theorem state_close : (s.close release).2.child.state = .closed := by
  rw [close_snd]
  by_cases hclosed : s.child.state = .closed
  · rw [if_pos hclosed, hclosed]
  · rw [if_neg hclosed]
    rfl

/-- A close moves no call but the one that it cancels. -/
theorem forall_close {P : Nat → cls.Op → Phase V → Prop}
    (h : ∀ j op phase, s.calls j = some ⟨op, phase⟩ → P j op phase)
    (hcancelled : ∀ j op task, s.calls j = some ⟨op, .settling task⟩ →
      P j op (.settled (.ok (.failed (cancelledError (cls.context op)))))) :
    ∀ j op phase, (s.close release).2.calls j = some ⟨op, phase⟩ → P j op phase := by
  rw [close_snd]
  by_cases hclosed : s.child.state = .closed
  · rw [if_pos hclosed]
    exact h
  · rw [if_neg hclosed]
    show ∀ j op phase, s.cancelActive.calls j = some ⟨op, phase⟩ → P j op phase
    rcases cancelActive_cases (s := s) with ⟨hsame, -⟩ | ⟨k, op, task, -, hcall, hset⟩
    · rw [hsame]
      exact h
    · rw [hset]
      exact forall_setCall (fun j op' phase' hj _ => h j op' phase' hj) (hcancelled k op task hcall)

theorem operatorClose_eq :
    s.operatorClose release =
      if s.child.registered = true then ({ s with operatorOpen := false }.close release).2
      else { s with operatorOpen := false } := rfl

theorem forall_operatorClose {P : Nat → cls.Op → Phase V → Prop}
    (h : ∀ j op phase, s.calls j = some ⟨op, phase⟩ → P j op phase)
    (hcancelled : ∀ j op task, s.calls j = some ⟨op, .settling task⟩ →
      P j op (.settled (.ok (.failed (cancelledError (cls.context op)))))) :
    ∀ j op phase, (s.operatorClose release).calls j = some ⟨op, phase⟩ → P j op phase := by
  rw [operatorClose_eq]
  by_cases hregistered : s.child.registered = true
  · rw [if_pos hregistered]
    exact forall_close (s := { s with operatorOpen := false }) h hcancelled
  · rw [if_neg hregistered]
    exact h

/-! ## What every run keeps -/

structure Kept (s : ChildSystem cls) : Prop where
  honest : ∀ k op phase, s.calls k = some ⟨op, phase⟩ →
    ∀ settled, phase = .settled settled → Honest settled
  exclusive : ∀ k op phase, s.calls k = some ⟨op, phase⟩ → phase.InFlight →
    s.child.active = some k
  released : s.child.state ≠ .open → s.child.handle = 0 ∧ s.child.registered = false
  cancelled : s.child.state = .closed → ∀ k op phase, s.calls k = some ⟨op, phase⟩ →
    ∀ task, phase ≠ .settling task

theorem returning_cases (op : cls.Op) (answer : Answer V) :
    cls.returning op answer = .returning answer ∨ cls.returning op answer = .returned answer := by
  unfold ChildClass.returning
  split
  · exact Or.inl rfl
  · exact Or.inr rfl

theorem not_inFlight_returning (op : cls.Op) (answer : Answer V) :
    ¬ (cls.returning op answer).InFlight := by
  rcases returning_cases op answer with h | h <;> rw [h] <;> exact id

theorem call_cases {signal : Signal} {start : Except Failure UInt32}
    (h : s.step (.call k op signal start release) = some t) :
    s.calls k = none ∧
      ((∃ value, cls.shortcut op s.child.state = some value ∧
          t = s.setCall k op (.returned (.ok (.ok value)))) ∨
        (cls.shortcut op s.child.state = none ∧
          t = { s with
            child := (cls.runTask s.operatorOpen op k signal start release s.child).2 }.setCall k op
              (cls.runTask s.operatorOpen op k signal start release s.child).1)) := by
  have hk := call_fresh h
  refine ⟨hk, ?_⟩
  cases hshortcut : cls.shortcut op s.child.state with
  | some value =>
    rw [step_call_shortcut hk hshortcut] at h
    cases h
    exact Or.inl ⟨value, rfl, rfl⟩
  | none =>
    rw [step_call hk hshortcut] at h
    cases h
    exact Or.inr ⟨rfl, rfl⟩

theorem step_settle {task : UInt32} {answer : Answer V} (h : s.calls k = some ⟨op, .settling task⟩)
    (hhonest : Honest answer) : s.step (.settle k answer) = some (s.setCall k op (.settled answer)) := by
  cases answer with
  | ok outcome => simp only [step, h]
  | error failure =>
    cases failure with
    | outcome e => exact absurd rfl (hhonest e)
    | contract message => simp only [step, h]
    | trap => simp only [step, h]
    | stackOverflow => simp only [step, h]

/-- A call in a phase without the control, on an object with the same control. -/
theorem Kept.set {child : BrowserChildResource} (h : s.Kept) (hphase : ¬ phase.InFlight)
    (hactive : child.active = s.child.active)
    (hreleased : child.state ≠ .open → child.handle = 0 ∧ child.registered = false)
    (hclosed : child.state = .closed → s.child.state = .closed) :
    ({ s with child }.setCall k op phase).Kept where
  honest := by
    refine forall_setCall (fun j op' phase' hj _ => h.honest j op' phase' hj) ?_
    intro settled hsettled
    rw [hsettled] at hphase
    exact absurd trivial hphase
  exclusive := by
    refine forall_setCall (fun j op' phase' hj _ hflight => ?_) fun hflight => absurd hflight hphase
    exact hactive.trans (h.exclusive j op' phase' hj hflight)
  released := hreleased
  cancelled hstate := by
    refine forall_setCall (fun j op' phase' hj _ => h.cancelled (hclosed hstate) j op' phase' hj) ?_
    intro task htask
    rw [htask] at hphase
    exact hphase trivial

theorem Kept.call {signal : Signal} {start : Except Failure UInt32} (h : s.Kept)
    (hstep : s.step (.call k op signal start release) = some t) : t.Kept := by
  obtain ⟨hk, ⟨value, -, rfl⟩ | ⟨-, rfl⟩⟩ := call_cases hstep
  · exact h.set id rfl h.released id
  rcases runTask_cases s.operatorOpen op k signal start release s.child with
    ⟨answer, hrun, -⟩ | ⟨husable, hactive, ⟨answer, hrun, -⟩ | ⟨task, hrun⟩⟩
  · rw [hrun]
    exact h.set (not_inFlight_returning op answer) rfl h.released id
  · rw [hrun]
    exact h.set (not_inFlight_returning op answer) rfl (fun _ => ⟨rfl, rfl⟩) (fun hstate => by cases hstate)
  · rw [hrun]
    have hopen : s.child.state = .open := by
      by_contra hstate
      exact husable (Or.inl hstate)
    exact
      { honest := by
          refine forall_setCall (fun j op' phase' hj _ => h.honest j op' phase' hj) ?_
          intro settled hsettled
          cases hsettled
        exclusive := by
          refine forall_setCall (fun j op' phase' hj _ hflight => ?_) fun _ => rfl
          have hholder := h.exclusive j op' phase' hj hflight
          rw [hactive] at hholder
          cases hholder
        released := fun hstate => absurd hopen hstate
        cancelled := fun hstate => by
          rw [show s.child.state = .closed from hstate] at hopen
          cases hopen }

theorem Kept.settle {answer : Answer V} (h : s.Kept) (hstep : s.step (.settle k answer) = some t) :
    t.Kept := by
  obtain ⟨hhonest, op, task, hcall, rfl⟩ := settle_cases hstep
  exact
    { honest := by
        refine forall_setCall (fun j op' phase' hj _ => h.honest j op' phase' hj) ?_
        intro settled hsettled
        cases hsettled
        exact hhonest
      exclusive := by
        refine forall_setCall (fun j op' phase' hj _ => h.exclusive j op' phase' hj) fun _ => ?_
        exact h.exclusive k op _ hcall trivial
      released := h.released
      cancelled := fun hstate => absurd rfl (h.cancelled hstate k op _ hcall task) }

theorem Kept.resumeTask (h : s.Kept) (hstep : s.step (.resumeTask k release) = some t) :
    t.Kept := by
  obtain ⟨op, settled, hcall, rfl⟩ := resumeTask_cases hstep
  have hactive := h.exclusive k op _ hcall trivial
  have hother : ∀ j op' phase', s.calls j = some ⟨op', phase'⟩ → j ≠ k → ¬ phase'.InFlight := by
    intro j op' phase' hj hjk hflight
    have hholder := h.exclusive j op' phase' hj hflight
    rw [hactive] at hholder
    exact hjk (Option.some.inj hholder).symm
  have hnone : ∀ child : BrowserChildResource, ∀ answer, (child.state ≠ .open →
      child.handle = 0 ∧ child.registered = false) →
      ({ s with child }.setCall k op (cls.returning op answer)).Kept := by
    intro child answer hreleased
    exact
      { honest := by
          refine forall_setCall (fun j op' phase' hj _ => h.honest j op' phase' hj) ?_
          intro settled hsettled
          have hflight := not_inFlight_returning op answer
          rw [hsettled] at hflight
          exact absurd trivial hflight
        exclusive := forall_setCall
          (fun j op' phase' hj hjk hflight => absurd hflight (hother j op' phase' hj hjk))
          fun hflight => absurd hflight (not_inFlight_returning op answer)
        released := hreleased
        cancelled := fun _ => by
          refine forall_setCall (fun j op' phase' hj hjk task htask => ?_) fun task htask => ?_
          · exact hother j op' phase' hj hjk (htask ▸ trivial)
          · exact not_inFlight_returning op answer (htask ▸ trivial) }
  apply hnone
  simp only [ChildClass.resumeTask, state_clearActive, handle_clearActive, registered_clearActive]
  rcases settledTask_cases (h.honest k op _ hcall settled rfl) with
    ⟨answer, htask, -⟩ | ⟨-, answer, htask, -⟩ | ⟨-, answer, state, -, htask⟩
  · rw [htask]
    exact h.released
  · rw [htask]
    exact fun _ => ⟨rfl, rfl⟩
  · rw [htask]
    exact fun _ => ⟨rfl, rfl⟩

theorem Kept.resumeNext (h : s.Kept) (hstep : s.step (.resumeNext k release) = some t) :
    t.Kept := by
  obtain ⟨op, returned, post, hcall, hpost, rfl⟩ := resumeNext_cases hstep
  rcases resumeNext_answer post returned release s.child with
    ⟨-, hnext⟩ | ⟨value, -, -, answer, hnext, -⟩ | ⟨value, -, -, answer, hnext, -⟩
  · rw [hnext]
    exact h.set id rfl h.released id
  · rw [hnext]
    exact h.set id rfl (fun _ => ⟨rfl, rfl⟩) fun hstate => by cases hstate
  · rw [hnext]
    exact h.set id rfl (fun _ => ⟨rfl, rfl⟩) fun hstate => by cases hstate

theorem Kept.cancelActive (h : s.Kept) : s.cancelActive.Kept := by
  rcases cancelActive_cases (s := s) with ⟨hsame, -⟩ | ⟨k, op, task, hactive, hcall, hset⟩
  · rw [hsame]
    exact h
  · rw [hset]
    exact
      { honest := by
          refine forall_setCall (fun j op' phase' hj _ => h.honest j op' phase' hj) ?_
          intro settled hsettled
          cases hsettled
          intro e he
          cases he
        exclusive := forall_setCall (fun j op' phase' hj _ => h.exclusive j op' phase' hj)
          fun _ => hactive
        released := h.released
        cancelled := fun hstate => absurd rfl (h.cancelled hstate k op _ hcall task) }

/-- After `this.active?.cancel?.()` no call waits for its task. -/
theorem Kept.settling_cancelActive (h : s.Kept) (k : Nat) (op : cls.Op) (task : UInt32) :
    s.cancelActive.calls k ≠ some ⟨op, .settling task⟩ := by
  intro hk
  rcases cancelActive_cases (s := s) with ⟨hsame, hnone⟩ | ⟨j, op', task', hactive, hcall, hset⟩
  · rw [hsame] at hk
    exact hnone k op task (h.exclusive k op _ hk trivial) hk
  · rw [hset] at hk
    by_cases hkj : k = j
    · rw [hkj, calls_setCall_self] at hk
      cases hk
    · rw [calls_setCall_of_ne hkj] at hk
      have hholder := h.exclusive k op _ hk trivial
      rw [hactive] at hholder
      exact hkj (Option.some.inj hholder).symm

theorem Kept.close (h : s.Kept) : (s.close release).2.Kept := by
  rw [close_snd]
  by_cases hclosed : s.child.state = .closed
  · rw [if_pos hclosed]
    exact h
  · rw [if_neg hclosed]
    have hcancel := h.cancelActive
    exact
      { honest := hcancel.honest
        exclusive := fun k op phase hk hflight => by
          have hholder := hcancel.exclusive k op phase hk hflight
          rw [cancelActive_child] at hholder
          exact hholder
        released := fun _ => ⟨rfl, rfl⟩
        cancelled := fun _ k op phase hk task htask =>
          h.settling_cancelActive k op task (htask ▸ hk) }

theorem Kept.operatorClose (h : s.Kept) : (s.operatorClose release).Kept := by
  have hclosed : ({ s with operatorOpen := false } : ChildSystem cls).Kept :=
    ⟨h.honest, h.exclusive, h.released, h.cancelled⟩
  rw [operatorClose_eq]
  by_cases hregistered : s.child.registered = true
  · rw [if_pos hregistered]
    exact hclosed.close
  · rw [if_neg hregistered]
    exact hclosed

theorem kept_opened (handle : UInt32) : Kept ({ child := { handle } } : ChildSystem cls) where
  honest k op phase hk := by cases hk
  exclusive k op phase hk := by cases hk
  released hstate := absurd rfl hstate
  cancelled hstate := by cases hstate

theorem preserves_kept : Preserves step fun s : ChildSystem cls => s.Kept := by
  intro s e t hstep h
  cases e with
  | call k op signal start release => exact h.call hstep
  | settle k answer => exact h.settle hstep
  | resumeTask k release => exact h.resumeTask hstep
  | resumeNext k release => exact h.resumeNext hstep
  | close release =>
    cases hstep
    exact h.close
  | operatorClose release =>
    cases hstep
    exact h.operatorClose

/-! ## Calls that are past their task -/

theorem cancelActive_calls (h : s.calls k = some ⟨op, phase⟩) (hphase : ¬ phase.InFlight) :
    s.cancelActive.calls k = some ⟨op, phase⟩ := by
  rcases cancelActive_cases (s := s) with ⟨hsame, -⟩ | ⟨j, op', task, -, hcall, hset⟩
  · rw [hsame, h]
  · have hkj : k ≠ j := by
      intro heq
      rw [heq, hcall] at h
      cases h
      exact hphase trivial
    rw [hset, calls_setCall_of_ne hkj, h]

theorem close_calls (h : s.calls k = some ⟨op, phase⟩) (hphase : ¬ phase.InFlight) :
    (s.close release).2.calls k = some ⟨op, phase⟩ := by
  rw [close_snd]
  by_cases hclosed : s.child.state = .closed
  · rw [if_pos hclosed, h]
  · rw [if_neg hclosed]
    exact cancelActive_calls h hphase

theorem operatorClose_calls (h : s.calls k = some ⟨op, phase⟩) (hphase : ¬ phase.InFlight) :
    (s.operatorClose release).calls k = some ⟨op, phase⟩ := by
  rw [operatorClose_eq]
  by_cases hregistered : s.child.registered = true
  · rw [if_pos hregistered]
    exact close_calls (s := { s with operatorOpen := false }) h hphase
  · rw [if_neg hregistered]
    exact h

/-- Only its own continuation moves a call that is past `runTask`. -/
theorem calls_of_past {e : ChildEvent cls} (hstep : s.step e = some t)
    (h : s.calls k = some ⟨op, phase⟩) (hphase : ¬ phase.InFlight)
    (he : ∀ release, e ≠ .resumeNext k release) : t.calls k = some ⟨op, phase⟩ := by
  have hset : ∀ (u : ChildSystem cls) (j : Nat) (op' : cls.Op) (phase' : Phase V),
      u.calls = s.calls → k ≠ j → (u.setCall j op' phase').calls k = some ⟨op, phase⟩ := by
    intro u j op' phase' hcalls hkj
    rw [calls_setCall_of_ne hkj, hcalls, h]
  cases e with
  | call j op' signal start release =>
    obtain ⟨hj, ⟨value, -, rfl⟩ | ⟨-, rfl⟩⟩ := call_cases hstep
    · exact hset s j _ _ rfl fun heq => by rw [← heq, h] at hj; cases hj
    · exact hset _ j _ _ rfl fun heq => by rw [← heq, h] at hj; cases hj
  | settle j answer =>
    obtain ⟨-, op', task, hj, rfl⟩ := settle_cases hstep
    refine hset s j _ _ rfl fun heq => ?_
    rw [← heq, h] at hj
    cases hj
    exact hphase trivial
  | resumeTask j release =>
    obtain ⟨op', settled, hj, rfl⟩ := resumeTask_cases hstep
    refine hset _ j _ _ rfl fun heq => ?_
    rw [← heq, h] at hj
    cases hj
    exact hphase trivial
  | resumeNext j release =>
    obtain ⟨op', returned, post, -, -, rfl⟩ := resumeNext_cases hstep
    exact hset _ j _ _ rfl fun heq => he release (heq ▸ rfl)
  | close release =>
    cases hstep
    exact close_calls h hphase
  | operatorClose release =>
    cases hstep
    exact operatorClose_calls h hphase

theorem calls_of_returned {e : ChildEvent cls} {answer : Answer V} (hstep : s.step e = some t)
    (h : s.calls k = some ⟨op, .returned answer⟩) : t.calls k = some ⟨op, .returned answer⟩ := by
  apply calls_of_past hstep h id
  intro release he
  rw [he] at hstep
  obtain ⟨op', returned, post, hk, -, -⟩ := resumeNext_cases hstep
  rw [h] at hk
  cases hk

end ChildSystem

end OpendalMbt.Browser
