import OpendalMbt.Browser.CloseFinality
import OpendalMbt.MoonBit.Streaming

/-!
# Closing a stream or a lister of the browser package

`close()` of an `AsyncReadStream` or an `AsyncLister` closes the JavaScript child unless the
`closed` flag is set. The child can be moved again by its own continuation, and a `next` whose
child has already returned the end still stores `ended` when it goes on.
-/

namespace OpendalMbt.MoonBit

open Codec Browser Transition

variable {V : Type} {cursor : Cursor V} {context : ErrorContext}
  {closedMessage rejectedMessage : String}

namespace WrapperSystem

variable {s t : WrapperSystem (cursorWrapper cursor context closedMessage rejectedMessage)}

/-- Closed for good: the flags say so, the child is shut, and no waiting `next` will store
`ended`. -/
structure Shut (s : WrapperSystem (cursorWrapper cursor context closedMessage rejectedMessage)) :
    Prop where
  closed : s.flags.closed = true
  notEnded : s.flags.ended = false
  child : s.js.Shut
  waiting : ∀ k op, s.tasks k = some ⟨op, .waiting⟩ → s.js.NoEnd k

theorem Shut.call (h : s.Shut) {k : Nat} {op : Unit} {aborted : Bool}
    {start : Except Failure UInt32} {release : Except Failure Unit}
    (hstep : s.step (.call k op aborted start release) = some t) :
    t = s.setTask k op (.replied (.raised (localError .resourceClosed closedMessage context))) := by
  have henter : (cursorWrapper cursor context closedMessage rejectedMessage).enter op
      s.operatorClosed s.flags =
        .error (.raised (localError .resourceClosed closedMessage context)) := by
    simp only [h.notEnded, h.closed, Bool.false_eq_true, if_false, Bool.true_or, if_true]
  obtain ⟨-, ⟨reply, hreply, rfl⟩ | ⟨flags, js, hflags, -, -⟩⟩ := call_cases hstep
  · rw [henter] at hreply
    cases hreply
    rfl
  · rw [henter] at hflags
    cases hflags

/-- A waiting `next` of a shut object leaves the flags as they are. -/
theorem Shut.resume_flags (h : s.Shut) {k : Nat} {op op' : Unit} {cancelled : Bool}
    {resumed : Resumed V} (htask : s.tasks k = some ⟨op, .waiting⟩)
    (hresumed : s.resumed k cancelled = some resumed) :
    ((cursorWrapper cursor context closedMessage rejectedMessage).resume op' resumed s.flags).2.1 =
      s.flags := by
  have hsame : { s.flags with closed := true } = s.flags := by
    rw [← h.closed]
  cases resumed with
  | cancelled => exact hsame
  | rejected => exact hsame
  | failed e => exact hsame
  | value v =>
    obtain ⟨jsOp, hcall⟩ := resumed_value hresumed
    have hnoEnd : cursor.post v ≠ .end := h.waiting k op htask k jsOp _ hcall rfl v rfl
    simp only [if_neg hnoEnd]

theorem Shut.step (h : s.Shut) (hkept : s.js.Kept)
    {e : WrapperEvent (cursorWrapper cursor context closedMessage rejectedMessage)}
    (hstep : s.step e = some t) : t.Shut := by
  have hchild : t.js.Shut ∧ ∀ k, s.js.NoEnd k → t.js.NoEnd k := by
    rcases js_step hstep with hjs | ⟨e', hjs⟩
    · rw [hjs]
      exact ⟨h.child, fun _ => id⟩
    · exact ⟨h.child.step hkept hjs, fun k hk => h.child.noEnd hk hjs⟩
  have hwaiting : ∀ k op, t.tasks k = some ⟨op, .waiting⟩ → t.js.NoEnd k := by
    intro k op hk
    rcases tasks_of_waiting hstep hk with hk' | ⟨op', aborted, start, release, rfl⟩
    · exact hchild.2 k (h.waiting k op hk')
    · rw [h.call hstep, tasks_setTask_self] at hk
      cases hk
  cases e with
  | call k op aborted start release =>
    have ht := h.call hstep
    refine ⟨?_, ?_, hchild.1, hwaiting⟩
    · rw [ht]
      exact h.closed
    · rw [ht]
      exact h.notEnded
  | settle k answer =>
    obtain ⟨js, hjs, rfl⟩ := Option.map_eq_some_iff.mp hstep
    exact ⟨h.closed, h.notEnded, hchild.1, hwaiting⟩
  | resumeTask k release =>
    obtain ⟨js, hjs, rfl⟩ := Option.map_eq_some_iff.mp hstep
    exact ⟨h.closed, h.notEnded, hchild.1, hwaiting⟩
  | resumeNext k release =>
    obtain ⟨js, hjs, rfl⟩ := Option.map_eq_some_iff.mp hstep
    exact ⟨h.closed, h.notEnded, hchild.1, hwaiting⟩
  | resume k cancelled release =>
    obtain ⟨op, resumed, htask, hresumed, ht⟩ := resume_cases hstep
    rw [h.resume_flags htask hresumed] at ht
    have hflags : t.flags = s.flags := by
      rw [ht]
      split <;> rfl
    exact ⟨by rw [hflags, h.closed], by rw [hflags, h.notEnded], hchild.1, hwaiting⟩
  | close release =>
    simp only [WrapperSystem.step, if_pos h.closed] at hstep
    cases hstep
    exact h
  | operatorClose release =>
    simp only [WrapperSystem.step] at hstep
    split at hstep
    · cases hstep
      exact h
    · cases hstep
      exact ⟨h.closed, h.notEnded, hchild.1, hwaiting⟩

/-- What `close` has to find: the child closed if the flag is set, and no pending continuation
that moves the child or gives the end to a waiting `next`. -/
structure Quiescent
    (s : WrapperSystem (cursorWrapper cursor context closedMessage rejectedMessage)) : Prop where
  child : s.flags.closed = true → s.js.child.state = .closed
  decided : s.js.Decided
  waiting : ∀ k op, s.tasks k = some ⟨op, .waiting⟩ → s.js.NoEnd k

theorem close_shut (h : s.Quiescent) (hended : s.flags.ended = false)
    {release : Except Failure Unit} (hstep : s.step (.close release) = some t) : t.Shut := by
  simp only [WrapperSystem.step] at hstep
  by_cases hclosed : s.flags.closed = true
  · simp only [if_pos hclosed] at hstep
    cases hstep
    exact ⟨hclosed, hended, ⟨h.child hclosed, h.decided⟩, h.waiting⟩
  · simp only [if_neg hclosed] at hstep
    cases hstep
    refine ⟨rfl, hended, h.decided.close release, ?_⟩
    intro k op hk
    refine ChildSystem.forall_close (h.waiting k op hk) ?_
    intro j op' task _ _ value hvalue
    cases hvalue

/-- What `close` changes. -/
theorem close_fields {release : Except Failure Unit} (hstep : s.step (.close release) = some t) :
    t.tasks = s.tasks ∧ (s.flags.closed = true → t = s) ∧
      (∀ k op phase, s.js.calls k = some ⟨op, phase⟩ → ¬ phase.InFlight →
        t.js.calls k = some ⟨op, phase⟩) ∧ (t.js.Decided → s.js.Decided) := by
  simp only [WrapperSystem.step] at hstep
  by_cases hclosed : s.flags.closed = true
  · simp only [if_pos hclosed] at hstep
    cases hstep
    exact ⟨rfl, fun _ => rfl, fun k op phase hk _ => hk, id⟩
  · simp only [if_neg hclosed] at hstep
    cases hstep
    exact ⟨rfl, fun h => absurd h hclosed, fun k op phase hk hphase =>
      ChildSystem.close_calls hk hphase, ChildSystem.decided_of_close⟩

theorem resume_end {k : Nat} {op op' : Unit} {v : V} (htask : s.tasks k = some ⟨op, .waiting⟩)
    (hcall : s.js.calls k = some ⟨op', .returned (.ok (.ok v))⟩) (hend : cursor.post v = .end)
    (release : Except Failure Unit) :
    ∃ t, s.step (.resume k false release) = some t ∧ t.flags.ended = true ∧
      ∀ j, j ≠ k → t.tasks j = s.tasks j := by
  have hresumed : s.resumed k false = some (.value v) := by
    simp only [resumed, hcall, Bool.false_eq_true, if_false, Resumed.ofAnswer]
  refine ⟨_, by simp only [WrapperSystem.step, htask, hresumed, if_pos hend, if_true]; rfl, rfl, ?_⟩
  intro j hjk
  exact tasks_setTask_of_ne hjk

theorem call_ended (h : s.flags.ended = true) {k : Nat} (hk : s.tasks k = none) (aborted : Bool)
    (start : Except Failure UInt32) (release : Except Failure Unit) :
    s.step (.call k () aborted start release) =
      some (s.setTask k () (.replied (.value cursor.done))) := by
  simp only [WrapperSystem.step, hk, h, if_true]

end WrapperSystem

/-! ## One object and its tasks -/

/-- `closedEarly`: a close returned before some `next` returned the end; `late`: the calls made
after such a close. -/
structure Closing (cursor : Cursor V) (context : ErrorContext)
    (closedMessage rejectedMessage : String) where
  sys : WrapperSystem (cursorWrapper cursor context closedMessage rejectedMessage)
  closedEarly : Bool := false
  late : Nat → Bool := fun _ => false

namespace Closing

def opened (cursor : Cursor V) (context : ErrorContext) (closedMessage rejectedMessage : String)
    (handle : UInt32) : Closing cursor context closedMessage rejectedMessage where
  sys := { js := { child := { handle } }, flags := {} }

variable (s : Closing cursor context closedMessage rejectedMessage)

def step (e : WrapperEvent (cursorWrapper cursor context closedMessage rejectedMessage)) :
    Option (Closing cursor context closedMessage rejectedMessage) :=
  (s.sys.step e).map fun sys =>
    match e with
    | .call k _ _ _ _ => { s with sys, late := Function.update s.late k s.closedEarly }
    | .close _ => { s with sys, closedEarly := s.closedEarly || !s.sys.flags.ended }
    | .settle _ _ | .resumeTask _ _ | .resumeNext _ _ | .resume _ _ _ | .operatorClose _ =>
      { s with sys }

/-- After a close that came before the end, the child stays closed and every later `next`
raises the closed error. -/
structure Final : Prop where
  state : s.closedEarly = true → s.sys.js.child.state = .closed
  replies : ∀ k, s.late k = true → s.sys.tasks k =
    some ⟨(), .replied (.raised (localError .resourceClosed closedMessage context))⟩

/-- The condition on a step: a close before the end is made when nothing is pending that could
undo it. -/
def Unhurried (s : Closing cursor context closedMessage rejectedMessage)
    (e : WrapperEvent (cursorWrapper cursor context closedMessage rejectedMessage)) : Prop :=
  ∀ release, e = .close release → s.sys.flags.ended = false → s.sys.Quiescent

structure Sealed : Prop where
  kept : s.sys.js.Kept
  shut : s.closedEarly = true → s.sys.Shut
  replies : ∀ k, s.late k = true → s.closedEarly = true ∧ s.sys.tasks k =
    some ⟨(), .replied (.raised (localError .resourceClosed closedMessage context))⟩

variable {s} {t : Closing cursor context closedMessage rejectedMessage}

theorem Sealed.step
    {e : WrapperEvent (cursorWrapper cursor context closedMessage rejectedMessage)}
    (h : s.Sealed) (hstep : s.step e = some t) (he : Unhurried s e) : t.Sealed := by
  obtain ⟨sys, hsys, ht⟩ := Option.map_eq_some_iff.mp hstep
  have hkept := WrapperSystem.preserves_kept hsys h.kept
  have hshut : s.closedEarly = true → sys.Shut := fun hearly => (h.shut hearly).step h.kept hsys
  have hreplies : ∀ k, s.late k = true → s.closedEarly = true ∧ sys.tasks k =
      some ⟨(), .replied (.raised (localError .resourceClosed closedMessage context))⟩ := fun k hk =>
    ⟨(h.replies k hk).1, WrapperSystem.tasks_of_replied hsys (h.replies k hk).2⟩
  subst ht
  cases e with
  | call k op aborted start release =>
    refine ⟨hkept, hshut, ?_⟩
    intro j hj
    have hlate : Function.update s.late k s.closedEarly j = true := hj
    by_cases hjk : j = k
    · rw [hjk, Function.update_self] at hlate
      refine ⟨hlate, ?_⟩
      show sys.tasks j = _
      rw [hjk, (h.shut hlate).call hsys, WrapperSystem.tasks_setTask_self]
    · rw [Function.update_of_ne hjk] at hlate
      exact hreplies j hlate
  | close release =>
    refine ⟨hkept, ?_, fun k hk => ⟨?_, (hreplies k hk).2⟩⟩
    · intro hearly
      rcases Bool.or_eq_true_iff.mp hearly with hearly | hended
      · exact hshut hearly
      · have hnotEnded : s.sys.flags.ended = false := by simpa using hended
        exact WrapperSystem.close_shut (he release rfl hnotEnded) hnotEnded hsys
    · show (s.closedEarly || !s.sys.flags.ended) = true
      rw [(hreplies k hk).1]
      rfl
  | settle k answer => exact ⟨hkept, hshut, hreplies⟩
  | resumeTask k release => exact ⟨hkept, hshut, hreplies⟩
  | resumeNext k release => exact ⟨hkept, hshut, hreplies⟩
  | resume k cancelled release => exact ⟨hkept, hshut, hreplies⟩
  | operatorClose release => exact ⟨hkept, hshut, hreplies⟩

theorem Sealed.final (h : s.Sealed) : s.Final where
  state hearly := (h.shut hearly).child.state
  replies k hk := (h.replies k hk).2

theorem sealed_opened (cursor : Cursor V) (context : ErrorContext)
    (closedMessage rejectedMessage : String) (handle : UInt32) :
    (opened cursor context closedMessage rejectedMessage handle).Sealed where
  kept := ChildSystem.kept_opened handle
  shut hearly := by cases hearly
  replies k hk := by cases hk

theorem Sealed.of_run
    {es : List (WrapperEvent (cursorWrapper cursor context closedMessage rejectedMessage))}
    (h : s.Sealed) (hes : Along Closing.step Unhurried s es)
    (hrun : run Closing.step s es = some t) : t.Sealed :=
  hes.invariant (fun _ _ _ hstep he hs => hs.step hstep he) h hrun

theorem preserves_fresh :
    Preserves Closing.step fun s : Closing cursor context closedMessage rejectedMessage =>
      ∃ n, ∀ k, n ≤ k → s.sys.tasks k = none := by
  intro s e t hstep h
  obtain ⟨sys, hsys, ht⟩ := Option.map_eq_some_iff.mp hstep
  have hfields : t.sys = sys := by
    rw [← ht]
    cases e <;> rfl
  rw [hfields]
  exact WrapperSystem.preserves_fresh hsys h

/-- The end that a waiting `next` still has to return makes later calls return the end. -/
theorem exists_ended (hearly : s.closedEarly = true) {k : Nat} {op op' : Unit} {v : V}
    (htask : s.sys.tasks k = some ⟨op, .waiting⟩)
    (hcall : s.sys.js.calls k = some ⟨op', .returned (.ok (.ok v))⟩) (hend : cursor.post v = .end)
    (hfresh : ∃ n, ∀ k, n ≤ k → s.sys.tasks k = none) :
    ∃ fs u, Along Closing.step Unhurried s fs ∧ run Closing.step s fs = some u ∧ ¬ u.Final := by
  obtain ⟨n, hn⟩ := hfresh
  obtain ⟨sys, hsys, hended, htasks⟩ := WrapperSystem.resume_end htask hcall hend (.ok ())
  have hfree : sys.tasks (max n (k + 1)) = none := by
    rw [htasks _ (by omega), hn _ (by omega)]
  have hsys' := WrapperSystem.call_ended hended hfree false (.ok 0) (.ok ())
  refine ⟨[.resume k false (.ok ()), .call (max n (k + 1)) () false (.ok 0) (.ok ())],
    { s with
      sys := sys.setTask (max n (k + 1)) () (.replied (.value cursor.done))
      late := Function.update s.late (max n (k + 1)) s.closedEarly }, ?_, ?_, ?_⟩
  · refine ⟨fun release he => (by cases he), fun u _ => ?_⟩
    exact ⟨fun release he => (by cases he), fun _ _ => trivial⟩
  · refine run_cons_eq_some.mpr ⟨{ s with sys }, ?_, ?_⟩
    · simp only [Closing.step, hsys, Option.map_some]
    · refine run_cons_eq_some.mpr ⟨_, ?_, rfl⟩
      simp only [Closing.step, hsys', Option.map_some]
  · intro hfinal
    have hreply := hfinal.replies (max n (k + 1)) (by
      show Function.update s.late (max n (k + 1)) s.closedEarly (max n (k + 1)) = true
      rw [Function.update_self, hearly])
    rw [WrapperSystem.tasks_setTask_self] at hreply
    cases hreply

/-- From a state reached by unhurried closes, a close before the end is final exactly when
nothing is pending that would undo it. -/
theorem Sealed.close_iff (h : s.Sealed)
    (hfresh : ∃ n, ∀ k, n ≤ k → s.sys.tasks k = none) {release : Except Failure Unit}
    (hstep : s.step (.close release) = some t) (hended : s.sys.flags.ended = false) :
    (∀ fs u, Along Closing.step Closing.Unhurried t fs → run Closing.step t fs = some u →
      u.Final) ↔ s.sys.Quiescent := by
  obtain ⟨sys, hsys, ht⟩ := Option.map_eq_some_iff.mp hstep
  have hearly : t.closedEarly = true := by
    rw [← ht]
    show (s.closedEarly || !s.sys.flags.ended) = true
    rw [hended, Bool.not_false, Bool.or_true]
  have hfields : t.sys = sys := by rw [← ht]
  obtain ⟨htasks, hclosed, hjs⟩ := WrapperSystem.close_fields hsys
  constructor
  · intro hfinal
    refine ⟨?_, ?_, ?_⟩
    · intro hflag
      have hstate := (hfinal [] t trivial rfl).state hearly
      rw [hfields, hclosed hflag] at hstate
      exact hstate
    · by_contra hdecided
      have hpending : ¬ t.sys.js.Decided := by
        rw [hfields]
        exact fun hlater => hdecided (hjs.2 hlater)
      obtain ⟨k, js, hmoved, hstate⟩ := ChildSystem.exists_moved hpending
      refine hstate ((hfinal [.resumeNext k (.ok ())]
        { t with sys := { t.sys with js } } ?_ ?_).state hearly)
      · exact ⟨fun release he => (by cases he), fun _ _ => trivial⟩
      · refine run_cons_eq_some.mpr ⟨_, ?_, rfl⟩
        simp only [Closing.step, WrapperSystem.step, hmoved, Option.map_some]
    · intro k op htask j jsOp phase hcall hjk v hphase hend
      subst hjk hphase
      have htask' : t.sys.tasks j = some ⟨op, .waiting⟩ := by
        rw [hfields, htasks, htask]
      have hcall' : t.sys.js.calls j = some ⟨jsOp, .returned (.ok (.ok v))⟩ := by
        rw [hfields]
        exact hjs.1 j jsOp _ hcall id
      obtain ⟨fs, u, hfs, hu, hnot⟩ := exists_ended hearly htask' hcall' hend
        (by rw [hfields, htasks]; exact hfresh)
      exact hnot (hfinal fs u hfs hu)
  · intro hquiescent fs u hfs hrun
    have hsealed : t.Sealed := h.step hstep fun _ _ _ => hquiescent
    exact (hsealed.of_run hfs hrun).final

end Closing

/-- Both for the JavaScript object and for the MoonBit object around it: after unhurried closes
every close before the end has been final, and the next one will be exactly when it is
unhurried too. -/
theorem close_final (cursor : Cursor V) (context : ErrorContext)
    (closedMessage rejectedMessage : String) (handle : UInt32) :
    (∀ es s, Along Browser.Closing.step Browser.Closing.Unhurried
          (Browser.Closing.opened cursor handle) es →
        run Browser.Closing.step (Browser.Closing.opened cursor handle) es = some s →
        s.Final ∧ ∀ release t, s.step (.close release) = some t → s.reported = false →
          ((∀ fs u, Along Browser.Closing.step Browser.Closing.Unhurried t fs →
              run Browser.Closing.step t fs = some u → u.Final) ↔ s.sys.Decided)) ∧
      ∀ es s, Along Closing.step Closing.Unhurried
          (Closing.opened cursor context closedMessage rejectedMessage handle) es →
        run Closing.step (Closing.opened cursor context closedMessage rejectedMessage handle) es =
          some s →
        s.Final ∧ ∀ release t, s.step (.close release) = some t → s.sys.flags.ended = false →
          ((∀ fs u, Along Closing.step Closing.Unhurried t fs →
              run Closing.step t fs = some u → u.Final) ↔ s.sys.Quiescent) := by
  constructor
  · intro es s hes hrun
    have hsealed := (Browser.Closing.sealed_opened cursor handle).of_run hes hrun
    exact ⟨hsealed.final, fun release t hstep hreported => hsealed.close_iff hstep hreported⟩
  · intro es s hes hrun
    have hsealed :=
      (Closing.sealed_opened cursor context closedMessage rejectedMessage handle).of_run hes hrun
    have hfresh := Closing.preserves_fresh.run ⟨0, fun _ _ => rfl⟩ hrun
    exact ⟨hsealed.final, fun release t hstep hended => hsealed.close_iff hfresh hstep hended⟩

/-- A stream that is closed and then called. -/
theorem close_final_two :
    (∃ s, run Browser.Closing.step (Browser.Closing.opened (readStreamCursor "f" 4) 7)
        [.close (.ok ()), .call 0 () .live (.ok 1) (.ok ())] = some s ∧
      s.late 0 = true ∧ s.Final) ∧
      ∃ s, run Closing.step (Closing.opened (readStreamCursor "f" 4)
          { operation := .read, path := some "f" } "browser read stream is closed"
          "OpenDAL browser stream Promise rejected instead of returning an outcome" 7)
        [.close (.ok ()), .call 0 () false (.ok 1) (.ok ())] = some s ∧
      s.late 0 = true ∧ s.Final := by
  have hfinal := close_final (readStreamCursor "f" 4) { operation := .read, path := some "f" }
    "browser read stream is closed"
    "OpenDAL browser stream Promise rejected instead of returning an outcome" 7
  constructor
  · refine ⟨_, rfl, rfl, (hfinal.1 [.close (.ok ()), .call 0 () .live (.ok 1) (.ok ())] _ ?_ rfl).1⟩
    refine ⟨fun _ _ _ k op phase hcall => (by cases hcall), fun s _ => ?_⟩
    exact ⟨fun release he => (by cases he), fun _ _ => trivial⟩
  · refine ⟨_, rfl, rfl, (hfinal.2 [.close (.ok ()), .call 0 () false (.ok 1) (.ok ())] _ ?_ rfl).1⟩
    refine ⟨fun _ _ _ => ⟨fun hclosed => (by cases hclosed), fun k op phase hcall => (by cases hcall),
      fun k op htask => (by cases htask)⟩, fun s _ => ?_⟩
    exact ⟨fun release he => (by cases he), fun _ _ => trivial⟩

/-- A close between the return of `runTask` and the continuation of `next`: the object goes from
`Closed` to `End`, and a later call returns the end; so does the MoonBit stream. -/
theorem close_overwritten :
    (∃ s, run Browser.Closing.step (Browser.Closing.opened (readStreamCursor "f" 4) 7)
        [.call 0 () .live (.ok 1) (.ok ()), .settle 0 (.ok (.ok none)), .resumeTask 0 (.ok ()),
          .close (.ok ()), .resumeNext 0 (.ok ()), .call 1 () .live (.ok 2) (.ok ())] = some s ∧
      s.closedEarly = true ∧ s.late 1 = true ∧ s.sys.child.state = .end ∧
      s.sys.calls 1 = some ⟨(), .returned (.ok (.ok none))⟩ ∧ ¬ s.Final) ∧
      ∃ s, run Closing.step (Closing.opened (readStreamCursor "f" 4)
          { operation := .read, path := some "f" } "browser read stream is closed"
          "OpenDAL browser stream Promise rejected instead of returning an outcome" 7)
        [.call 0 () false (.ok 1) (.ok ()), .settle 0 (.ok (.ok none)), .resumeTask 0 (.ok ()),
          .close (.ok ()), .resumeNext 0 (.ok ()), .resume 0 false (.ok ()),
          .call 1 () false (.ok 2) (.ok ())] = some s ∧
      s.closedEarly = true ∧ s.late 1 = true ∧
      s.sys.tasks 1 = some ⟨(), .replied (.value none)⟩ ∧ ¬ s.Final := by
  constructor
  · refine ⟨_, rfl, rfl, rfl, rfl, rfl, ?_⟩
    intro hfinal
    have hstate := hfinal.state rfl
    cases hstate
  · refine ⟨_, rfl, rfl, rfl, rfl, ?_⟩
    intro hfinal
    have hreply := hfinal.replies 1 rfl
    cases hreply

end OpendalMbt.MoonBit
