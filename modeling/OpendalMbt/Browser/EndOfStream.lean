import OpendalMbt.Browser.Child
import OpendalMbt.Browser.ErrorRoundTrip

/-!
# The end of a browser stream

A stream or a lister that is read by any number of `next` calls and never closed or
aborted, over a bridge whose operations do not fail: a task settles with a value until the
bridge's stream is over, and after that a start is refused with `ResourceClosed`.

The object learns of the end only in the microtask of `next` that follows the one in which
`runTask` clears `active`. Between the two it is neither busy nor ended (`Gap`), and a call
made there reaches the bridge and fails the object.

* `Mode`: where a stream without such a call can be.
* `end_stable_iff`: the calls end as they should exactly when none is made in the gap.
-/

namespace OpendalMbt.Browser

open Codec Bridge Transition

variable {V : Type} {cursor : Cursor V}

/-- An object that is being read. `ended`: the bridge's stream is over; `late`: the calls
made after that. -/
structure Reading (cursor : Cursor V) where
  sys : ChildSystem cursor.childClass
  ended : Bool := false
  late : Nat → Bool := fun _ => false

inductive ReadingEvent (V : Type) where
  | call (k : Nat) (live : Bool) (task : UInt32)
  | settle (k : Nat) (value : V)
  | resumeTask (k : Nat)
  | resumeNext (k : Nat)

def Cursor.callContext (cursor : Cursor V) : Context :=
  { operation := cursor.operation, path := cursor.path, destinationPath := none }

/-- What the facade makes of the refusal of a start on a stream that is over. -/
def overError (cursor : Cursor V) (handle : UInt32) : ErrorOutcome JsString :=
  errorOutcome decodedText (.resourceClosed handle) cursor.callContext

namespace Reading

def opened (cursor : Cursor V) (handle : UInt32) : Reading cursor where
  sys := { child := { handle } }

variable (s : Reading cursor)

/-- The answer of the bridge to a start. -/
def start (task : UInt32) : Except Failure UInt32 :=
  if s.ended then .error (.outcome (overError cursor s.sys.child.handle)) else .ok task

def step : ReadingEvent V → Option (Reading cursor)
  | .call k live task =>
    (s.sys.step (.call k () (if live then .live else .none) (s.start task) (.ok ()))).map
      fun sys => { s with sys, late := Function.update s.late k s.ended }
  | .settle k value =>
    -- a stream that is over lends nothing, and the bridge keeps to the chunk size
    if s.ended = true ∨ cursor.post value = .invalid then none
    else
      (s.sys.step (.settle k (.ok (.ok value)))).map
        fun sys => { s with sys, ended := decide (cursor.post value = .end) }
  | .resumeTask k => (s.sys.step (.resumeTask k (.ok ()))).map fun sys => { s with sys }
  | .resumeNext k => (s.sys.step (.resumeNext k (.ok ()))).map fun sys => { s with sys }

/-- A call has the end from `runTask`, and its `next` has not gone on yet. -/
def Gap : Prop :=
  ∃ k op value, s.sys.calls k = some ⟨op, .returning (.ok (.ok value))⟩ ∧ cursor.post value = .end

/-- A value, or the error of an overlapping call. -/
def Proper (cursor : Cursor V) (answer : Answer V) : Prop :=
  answer = .ok (.failed (busyError cursor.callContext)) ∨ ∃ value, answer = .ok (.ok value)

/-- The end, or the error of an overlapping call. -/
def Final (cursor : Cursor V) (answer : Answer V) : Prop :=
  answer = .ok (.failed (busyError cursor.callContext)) ∨
    ∃ value, answer = .ok (.ok value) ∧ cursor.post value = .end

/-- The object has not failed, and every call that resolved did so as it should: with a value
or `ResourceBusy`, and after the end of the stream with the end or `ResourceBusy`. -/
structure Clean : Prop where
  state : s.sys.child.state ≠ .failed
  proper : ∀ k op answer, s.sys.calls k = some ⟨op, .returned answer⟩ →
    Proper cursor answer
  final : ∀ k op answer, s.sys.calls k = some ⟨op, .returned answer⟩ → s.late k = true →
    Final cursor answer

end Reading

/-! ## Where a stream can be -/

namespace Reading

/-- A call that is past `runTask` without being in the gap. -/
def Quiet (cursor : Cursor V) (late : Bool) : Phase V → Prop
  | .returning answer =>
    answer = .ok (.failed (busyError cursor.callContext)) ∨
      (late = false ∧ ∃ value, answer = .ok (.ok value) ∧ cursor.post value = .keep)
  | .returned answer =>
    answer = .ok (.failed (busyError cursor.callContext)) ∨
      ∃ value, answer = .ok (.ok value) ∧ (late = true → cursor.post value = .end)
  | .settling _ | .settled _ => False

variable {s t : Reading cursor} {k : Nat}

theorem not_quiet_of_end {value : V} (h : cursor.post value = .end) {late : Bool} :
    ¬ Quiet cursor late (.returning (.ok (.ok value))) := by
  intro hquiet
  rcases hquiet with hbusy | hkept
  · cases hbusy
  · obtain ⟨-, value', heq, hkeep⟩ := hkept
    cases heq
    rw [h] at hkeep
    cases hkeep

/-- Every call but those in `P` is quiet. -/
def QuietBut (s : Reading cursor) (P : Nat → Prop) : Prop :=
  ∀ j op phase, s.sys.calls j = some ⟨op, phase⟩ → ¬ P j → Quiet cursor (s.late j) phase

theorem QuietBut.set {P Q : Nat → Prop} (h : s.QuietBut P) {op : Unit} {phase : Phase V}
    (hcalls : t.sys.calls = Function.update s.sys.calls k (some ⟨op, phase⟩))
    (hlate : ∀ j, j ≠ k → t.late j = s.late j) (hmono : ∀ j, j ≠ k → P j → Q j)
    (hphase : ¬ Q k → Quiet cursor (t.late k) phase) : t.QuietBut Q := by
  intro j op' phase' hj hQ
  rw [hcalls] at hj
  by_cases hjk : j = k
  · rw [hjk, Function.update_self] at hj
    cases hj
    rw [hjk]
    exact hphase (hjk ▸ hQ)
  · rw [Function.update_of_ne hjk] at hj
    rw [hlate j hjk]
    exact h j op' phase' hj (fun hP => hQ (hmono j hjk hP))

/-- An open object with a handle under an open operator. -/
structure Usable (s : Reading cursor) (active : Option Nat) : Prop where
  state : s.sys.child.state = .open
  handle : s.sys.child.handle ≠ 0
  operator : s.sys.operatorOpen = true
  active : s.sys.child.active = active

inductive Mode (s : Reading cursor) : Prop where
  | idle (usable : s.Usable none) (ended : s.ended = false) (quiet : s.QuietBut fun _ => False)
  | running (k : Nat) (task : UInt32) (usable : s.Usable (some k)) (ended : s.ended = false)
      (call : s.sys.calls k = some ⟨(), .settling task⟩) (late : s.late k = false)
      (quiet : s.QuietBut fun j => j = k)
  | delivered (k : Nat) (value : V) (usable : s.Usable (some k))
      (ended : s.ended = decide (cursor.post value = .end))
      (valid : cursor.post value ≠ .invalid)
      (call : s.sys.calls k = some ⟨(), .settled (.ok (.ok value))⟩) (late : s.late k = false)
      (quiet : s.QuietBut fun j => j = k)
  | gap (k : Nat) (value : V) (usable : s.Usable none) (ended : s.ended = true)
      (last : cursor.post value = .end)
      (call : s.sys.calls k = some ⟨(), .returning (.ok (.ok value))⟩) (late : s.late k = false)
      (quiet : s.QuietBut fun j => j = k)
  | drained (state : s.sys.child.state = .end) (ended : s.ended = true)
      (quiet : s.QuietBut fun _ => False)

theorem usable_not_unusable {active : Option Nat} (h : s.Usable active) :
    ¬ s.sys.child.Unusable s.sys.operatorOpen := by
  rintro (hstate | hhandle | hoperator)
  · exact hstate h.state
  · exact h.handle hhandle
  · rw [h.operator] at hoperator
    cases hoperator

theorem mode_opened (cursor : Cursor V) {handle : UInt32} (hhandle : handle ≠ 0) :
    (opened cursor handle).Mode := by
  refine .idle ⟨rfl, hhandle, rfl, rfl⟩ rfl ?_
  intro j op phase hj
  cases hj

/-! ## Calls -/

theorem quiet_signal (live : Bool) : Signal.Quiet (if live then .live else .none) := by
  cases live
  · exact Or.inl rfl
  · exact Or.inr rfl

theorem step_call_eq {live : Bool} {task : UInt32} (hk : s.sys.calls k = none)
    (hstate : s.sys.child.state ≠ .end) {phase : Phase V} {child : BrowserChildResource}
    (hrun : cursor.childClass.runTask s.sys.operatorOpen () k (if live then .live else .none)
      (s.start task) (.ok ()) s.sys.child = (phase, child)) :
    s.step (.call k live task) = some
      { s with
        sys := { s.sys with child }.setCall k () phase
        late := Function.update s.late k s.ended } := by
  simp only [step, Browser.step_call hk (cursor.shortcut_of_ne hstate), hrun, Option.map_some]

/-- A call on an object that neither has ended nor is busy starts an operation. -/
theorem call_idle (h : s.Usable none) {live : Bool} {task : UInt32} (hended : s.ended = false)
    (hk : s.sys.calls k = none) :
    s.step (.call k live task) = some
      { s with
        sys := { s.sys with child := { s.sys.child with active := some k } }.setCall k ()
          (.settling task)
        late := Function.update s.late k s.ended } := by
  apply step_call_eq hk (by rw [h.state]; decide)
  have hstart : s.start task = .ok task := by
    rw [start, hended]
    rfl
  rw [hstart]
  exact runTask_started (usable_not_unusable h) h.active (quiet_signal live) task

/-- A call on a busy object is refused and changes nothing. -/
theorem call_busy {j : Nat} (h : s.Usable (some j)) {live : Bool} {task : UInt32}
    (hk : s.sys.calls k = none) :
    s.step (.call k live task) = some
      { s with
        sys := s.sys.setCall k () (.returning (.ok (.failed (busyError cursor.callContext))))
        late := Function.update s.late k s.ended } := by
  apply step_call_eq hk (by rw [h.state]; decide)
  exact runTask_busy (usable_not_unusable h) (by rw [h.active]; rfl)

theorem call_over (h : s.sys.child.state = .end) {live : Bool} {task : UInt32}
    (hk : s.sys.calls k = none) :
    s.step (.call k live task) = some
      { s with
        sys := s.sys.setCall k () (.returned (.ok (.ok cursor.done)))
        late := Function.update s.late k s.ended } := by
  have hshortcut : cursor.childClass.shortcut () s.sys.child.state = some cursor.done := by
    rw [h, cursor.shortcut_end]
  simp only [step, step_call_shortcut hk hshortcut, Option.map_some]

theorem overError_kind (cursor : Cursor V) (handle : UInt32) :
    (overError cursor handle).kind = exactText "ResourceClosed" := by
  have hname : BridgeError.kindName (.resourceClosed handle) = "ResourceClosed" := rfl
  have hexact : decodedText "ResourceClosed" = exactText "ResourceClosed" :=
    decodedText_eq_exactText.mpr (by decide)
  unfold overError errorOutcome
  rw [hname, hexact]

/-- A call in the gap is refused by the bridge, and the object fails. -/
theorem call_gap (h : s.Usable none) (live : Bool) (task : UInt32) (hended : s.ended = true)
    (hk : s.sys.calls k = none) :
    ∃ t, s.step (.call k live task) = some t ∧ t.sys.child.state = .failed := by
  have hstart : s.start task = .error (.outcome (overError cursor s.sys.child.handle)) := by
    rw [start, hended]
    rfl
  have hrun : cursor.childClass.runTask s.sys.operatorOpen () k (if live then .live else .none)
      (s.start task) (.ok ()) s.sys.child =
        (.returning (.ok (.failed (overError cursor s.sys.child.handle))),
          { s.sys.child with state := .failed, handle := 0, registered := false }) := by
    rw [hstart]
    exact runTask_closed (usable_not_unusable h) h.active (quiet_signal live)
      (overError_kind cursor s.sys.child.handle)
  exact ⟨_, step_call_eq hk (by rw [h.state]; decide) hrun, rfl⟩

theorem call_fresh {live : Bool} {task : UInt32} (h : s.step (.call k live task) = some t) :
    s.sys.calls k = none := by
  obtain ⟨sys, hsys, -⟩ := Option.map_eq_some_iff.mp h
  exact Browser.call_fresh hsys

/-! ## The other microtasks -/

theorem settle_phase {value : V} (h : s.step (.settle k value) = some t) :
    s.ended = false ∧ cursor.post value ≠ .invalid ∧
      ∃ task, s.sys.calls k = some ⟨(), .settling task⟩ ∧
        t = { s with
          sys := s.sys.setCall k () (.settled (.ok (.ok value)))
          ended := decide (cursor.post value = .end) } := by
  unfold step at h
  by_cases hguard : s.ended = true ∨ cursor.post value = .invalid
  · simp only [if_pos hguard] at h
    cases h
  simp only [if_neg hguard] at h
  rw [not_or] at hguard
  obtain ⟨sys, hsys, ht⟩ := Option.map_eq_some_iff.mp h
  obtain ⟨-, op, task, hcall, hset⟩ := settle_cases hsys
  refine ⟨by simpa using hguard.1, hguard.2, task, hcall, ?_⟩
  rw [← ht, hset]

theorem resumeTask_phase (h : s.step (.resumeTask k) = some t) :
    ∃ settled, s.sys.calls k = some ⟨(), .settled settled⟩ ∧
      t = { s with
        sys := { s.sys with
          child := (cursor.childClass.resumeTask s.sys.operatorOpen () k settled (.ok ())
            s.sys.child).2 }.setCall k ()
              (.returning (cursor.childClass.resumeTask s.sys.operatorOpen () k settled (.ok ())
                s.sys.child).1) } := by
  obtain ⟨sys, hsys, ht⟩ := Option.map_eq_some_iff.mp h
  obtain ⟨op, settled, hcall, hset⟩ := resumeTask_cases hsys
  refine ⟨settled, hcall, ?_⟩
  rw [← ht, hset]
  rfl

theorem resumeNext_phase (h : s.step (.resumeNext k) = some t) :
    ∃ returned, s.sys.calls k = some ⟨(), .returning returned⟩ ∧
      t = { s with
        sys := { s.sys with
          child := (Browser.resumeNext cursor.post returned (.ok ()) s.sys.child).2 }.setCall k ()
            (.returned (Browser.resumeNext cursor.post returned (.ok ()) s.sys.child).1) } := by
  obtain ⟨sys, hsys, ht⟩ := Option.map_eq_some_iff.mp h
  obtain ⟨op, returned, post, hcall, hpost, hset⟩ := resumeNext_cases hsys
  have hsame : cursor.post = post := Option.some.inj hpost
  refine ⟨returned, hcall, ?_⟩
  rw [← ht, hset, hsame]

/-! ## A step of an undisturbed stream -/

/-- A step that touches only a quiet call and leaves it quiet. -/
theorem Mode.set_quiet (h : s.Mode) {phase : Phase V}
    (hchild : t.sys.child = s.sys.child) (hoperator : t.sys.operatorOpen = s.sys.operatorOpen)
    (hended : t.ended = s.ended)
    (hcalls : t.sys.calls = Function.update s.sys.calls k (some ⟨(), phase⟩))
    (hlate : ∀ j, j ≠ k → t.late j = s.late j)
    (hold : ∀ phase', s.sys.calls k = some ⟨(), phase'⟩ → Quiet cursor (s.late k) phase')
    (hphase : Quiet cursor (t.late k) phase) : t.Mode := by
  have husable : ∀ active, s.Usable active → t.Usable active := fun active hs =>
    ⟨by rw [hchild, hs.state], by rw [hchild]; exact hs.handle, by rw [hoperator, hs.operator],
      by rw [hchild, hs.active]⟩
  have hquiet : ∀ P, s.QuietBut P → t.QuietBut P := fun P hs =>
    hs.set hcalls hlate (fun _ _ => id) fun _ => hphase
  -- the call that the mode is about is not quiet, so it is another one
  have hother : ∀ j phase', s.sys.calls j = some ⟨(), phase'⟩ →
      ¬ Quiet cursor (s.late j) phase' →
        t.sys.calls j = some ⟨(), phase'⟩ ∧ t.late j = s.late j := by
    intro j phase' hj hnot
    have hjk : j ≠ k := fun heq => hnot (heq ▸ hold phase' (heq ▸ hj))
    exact ⟨by rw [hcalls, Function.update_of_ne hjk, hj], hlate j hjk⟩
  cases h with
  | idle usable ended quiet => exact .idle (husable _ usable) (by rw [hended, ended]) (hquiet _ quiet)
  | running j task usable ended call late quiet =>
    obtain ⟨hcall, hsame⟩ := hother j _ call id
    exact .running j task (husable _ usable) (by rw [hended, ended]) hcall (by rw [hsame, late])
      (hquiet _ quiet)
  | delivered j value usable ended valid call late quiet =>
    obtain ⟨hcall, hsame⟩ := hother j _ call id
    exact .delivered j value (husable _ usable) (by rw [hended, ended]) valid hcall
      (by rw [hsame, late]) (hquiet _ quiet)
  | gap j value usable ended last call late quiet =>
    obtain ⟨hcall, hsame⟩ := hother j _ call (not_quiet_of_end last)
    exact .gap j value (husable _ usable) (by rw [hended, ended]) last hcall
      (by rw [hsame, late]) (hquiet _ quiet)
  | drained state ended quiet => exact .drained (by rw [hchild, state]) (by rw [hended, ended]) (hquiet _ quiet)

/-- The condition on a step: no call is made in the gap. -/
def Undisturbed (s : Reading cursor) (e : ReadingEvent V) : Prop :=
  ∀ k live task, e = .call k live task → ¬ s.Gap

theorem Mode.call (h : s.Mode) {live : Bool} {task : UInt32}
    (hstep : s.step (.call k live task) = some t) (hgap : ¬ s.Gap) : t.Mode := by
  have hk := call_fresh hstep
  have hfresh : ∀ phase', s.sys.calls k = some ⟨(), phase'⟩ → Quiet cursor (s.late k) phase' := by
    intro phase' hcall
    rw [hk] at hcall
    cases hcall
  have hlate : ∀ j, j ≠ k → Function.update s.late k s.ended j = s.late j := fun j hj =>
    Function.update_of_ne hj _ _
  have hbusy : ∀ j, s.Usable (some j) → t.Mode := by
    intro j husable
    rw [call_busy husable hk] at hstep
    cases hstep
    exact h.set_quiet rfl rfl rfl rfl hlate hfresh (Or.inl rfl)
  cases h with
  | idle usable ended quiet =>
    rw [call_idle usable ended hk] at hstep
    cases hstep
    refine .running k task ⟨usable.state, usable.handle, usable.operator, rfl⟩ ended
      (Function.update_self ..) ?_ ?_
    · show Function.update s.late k s.ended k = false
      rw [Function.update_self, ended]
    · exact quiet.set rfl hlate (fun _ _ => False.elim) fun hne => absurd rfl hne
  | running j task usable ended call late quiet => exact hbusy j usable
  | delivered j value usable ended valid call late quiet => exact hbusy j usable
  | gap j value usable ended last call late quiet => exact absurd ⟨j, (), value, call, last⟩ hgap
  | drained state ended quiet =>
    rw [call_over state hk] at hstep
    cases hstep
    exact (Mode.drained state ended quiet).set_quiet rfl rfl rfl rfl hlate hfresh
      (Or.inr ⟨cursor.done, rfl, fun _ => cursor.post_done⟩)

/-- Only the call that the mode is about can be in a phase that is not quiet. -/
theorem QuietBut.eq {j : Nat} (h : s.QuietBut fun i => i = j) {op : Unit} {phase : Phase V}
    (hcall : s.sys.calls k = some ⟨op, phase⟩) (hphase : ¬ Quiet cursor (s.late k) phase) :
    k = j := by
  by_contra hne
  exact hphase (h k op phase hcall hne)

theorem Mode.settle (h : s.Mode) {value : V} (hstep : s.step (.settle k value) = some t) :
    t.Mode := by
  obtain ⟨hended, hvalid, task, hcall, rfl⟩ := settle_phase hstep
  cases h with
  | idle usable ended quiet => exact (quiet k () _ hcall id).elim
  | running j task' usable ended call late quiet =>
    have hkj : k = j := quiet.eq hcall id
    subst hkj
    refine .delivered k value ⟨usable.state, usable.handle, usable.operator, usable.active⟩ rfl
      hvalid (Function.update_self ..) late ?_
    exact quiet.set rfl (fun _ _ => rfl) (fun _ _ => id) fun hne => absurd rfl hne
  | delivered j value' usable ended valid call late quiet =>
    have hkj : k = j := quiet.eq hcall id
    rw [← hkj, hcall] at call
    cases call
  | gap j value' usable ended last call late quiet =>
    rw [ended] at hended
    cases hended
  | drained state ended quiet => exact (quiet k () _ hcall id).elim

/-- `runTask` returns the value that its task settled with. -/
theorem resumeTask_value (h : s.Usable (some k)) (value : V) :
    cursor.childClass.resumeTask s.sys.operatorOpen () k (.ok (.ok value)) (.ok ()) s.sys.child =
      (.ok (.ok value), { s.sys.child with active := none }) := by
  unfold ChildClass.resumeTask ChildClass.settledTask
  simp only [if_neg (usable_not_unusable h), clearActive, h.active, if_true]

theorem Mode.resumeTask (h : s.Mode) (hstep : s.step (.resumeTask k) = some t) : t.Mode := by
  obtain ⟨settled, hcall, rfl⟩ := resumeTask_phase hstep
  cases h with
  | idle usable ended quiet => exact (quiet k () _ hcall id).elim
  | running j task' usable ended call late quiet =>
    have hkj : k = j := quiet.eq hcall id
    rw [← hkj, hcall] at call
    cases call
  | delivered j value usable ended valid call late quiet =>
    have hkj : k = j := quiet.eq hcall id
    subst hkj
    rw [hcall] at call
    cases call
    simp only [resumeTask_value usable]
    have hfree : ∀ u : Reading cursor, u.sys.child = { s.sys.child with active := none } →
        u.sys.operatorOpen = s.sys.operatorOpen → u.Usable none := fun u hchild hoperator =>
      ⟨by rw [hchild]; exact usable.state, by rw [hchild]; exact usable.handle,
        by rw [hoperator, usable.operator], by rw [hchild]⟩
    cases hpost : cursor.post value with
    | keep =>
      refine .idle (hfree _ rfl rfl) (by rw [ended, hpost]; rfl) ?_
      exact quiet.set rfl (fun _ _ => rfl) (fun j hj heq => hj heq) fun _ =>
        Or.inr ⟨late, value, rfl, hpost⟩
    | «end» =>
      refine .gap k value (hfree _ rfl rfl) (by rw [ended, hpost]; rfl) hpost
        (Function.update_self ..) late ?_
      exact quiet.set rfl (fun _ _ => rfl) (fun _ _ => id) fun hne => absurd rfl hne
    | invalid => exact absurd hpost valid
  | gap j value' usable ended last call late quiet =>
    have hkj : k = j := quiet.eq hcall id
    rw [← hkj, hcall] at call
    cases call
  | drained state ended quiet => exact (quiet k () _ hcall id).elim

/-- A refusal, or a value that is not the end, is handed on as it is. -/
theorem resumeNext_quiet {late : Bool} {returned : Answer V}
    (h : Quiet cursor late (.returning returned)) {c : BrowserChildResource} :
    Browser.resumeNext cursor.post returned (.ok ()) c = (returned, c) ∧
      Quiet cursor late (.returned returned) := by
  rcases h with rfl | ⟨rfl, value, rfl, hkeep⟩
  · exact ⟨rfl, Or.inl rfl⟩
  · refine ⟨?_, Or.inr ⟨value, rfl, fun hlate => by cases hlate⟩⟩
    simp only [Browser.resumeNext, hkeep]

theorem Mode.resumeNext (h : s.Mode) (hstep : s.step (.resumeNext k) = some t) : t.Mode := by
  obtain ⟨returned, hcall, rfl⟩ := resumeNext_phase hstep
  by_cases hquiet : Quiet cursor (s.late k) (.returning returned)
  · obtain ⟨hnext, hreturned⟩ := resumeNext_quiet hquiet (c := s.sys.child)
    simp only [hnext]
    refine h.set_quiet rfl rfl rfl rfl (fun _ _ => rfl) ?_ hreturned
    intro phase' hcall'
    rw [hcall] at hcall'
    cases hcall'
    exact hquiet
  · cases h with
    | idle usable ended quiet => exact absurd (quiet k () _ hcall id) hquiet
    | running j task' usable ended call late quiet =>
      have hkj : k = j := quiet.eq hcall hquiet
      rw [← hkj, hcall] at call
      cases call
    | delivered j value usable ended valid call late quiet =>
      have hkj : k = j := quiet.eq hcall hquiet
      rw [← hkj, hcall] at call
      cases call
    | gap j value usable ended last call late quiet =>
      have hkj : k = j := quiet.eq hcall hquiet
      subst hkj
      rw [hcall] at call
      cases call
      simp only [Browser.resumeNext, last, BrowserChildResource.finishWith_of_ok]
      refine .drained rfl ended ?_
      exact quiet.set rfl (fun _ _ => rfl) (fun j hj heq => hj heq) fun _ =>
        Or.inr ⟨value, rfl, fun _ => last⟩
    | drained state ended quiet => exact absurd (quiet k () _ hcall id) hquiet

theorem Mode.step {e : ReadingEvent V} (h : s.Mode) (hstep : s.step e = some t)
    (he : Undisturbed s e) : t.Mode := by
  cases e with
  | call k live task => exact h.call hstep (he k live task rfl)
  | settle k value => exact h.settle hstep
  | resumeTask k => exact h.resumeTask hstep
  | resumeNext k => exact h.resumeNext hstep

/-! ## What a mode says -/

theorem Mode.quiet_returned (h : s.Mode) {op : Unit} {answer : Answer V}
    (hcall : s.sys.calls k = some ⟨op, .returned answer⟩) :
    Quiet cursor (s.late k) (.returned answer) := by
  have hbut : ∀ j phase, s.QuietBut (fun i => i = j) → s.sys.calls j = some ⟨(), phase⟩ →
      (∀ a, phase ≠ .returned a) → Quiet cursor (s.late k) (.returned answer) := by
    intro j phase hquiet hj hphase
    refine hquiet k op _ hcall fun hkj => ?_
    rw [← hkj, hcall] at hj
    cases hj
    exact hphase answer rfl
  cases h with
  | idle usable ended quiet => exact quiet k op _ hcall id
  | running j task usable ended call late quiet => exact hbut j _ quiet call (fun a ha => by cases ha)
  | delivered j value usable ended valid call late quiet =>
    exact hbut j _ quiet call fun a ha => by cases ha
  | gap j value usable ended last call late quiet =>
    exact hbut j _ quiet call fun a ha => by cases ha
  | drained state ended quiet => exact quiet k op _ hcall id

theorem Mode.clean (h : s.Mode) : s.Clean where
  state := by
    cases h with
    | drained state ended quiet =>
      rw [state]
      exact ChildState.noConfusion
    | idle usable | running j task usable | delivered j value usable | gap j value usable =>
      rw [usable.state]
      exact ChildState.noConfusion
  proper k op answer hcall := by
    rcases h.quiet_returned hcall with hbusy | ⟨value, hvalue, -⟩
    · exact Or.inl hbusy
    · exact Or.inr ⟨value, hvalue⟩
  final k op answer hcall hlate := by
    rcases h.quiet_returned hcall with hbusy | ⟨value, hvalue, hend⟩
    · exact Or.inl hbusy
    · exact Or.inr ⟨value, hvalue, hend hlate⟩

/-- In the gap the object looks free although its stream is over. -/
theorem Mode.of_gap (h : s.Mode) (hgap : s.Gap) : s.Usable none ∧ s.ended = true := by
  obtain ⟨k, op, value, hcall, hlast⟩ := hgap
  have hnot : ∀ late, ¬ Quiet cursor late (.returning (.ok (.ok value))) := fun late =>
    not_quiet_of_end hlast
  cases h with
  | idle usable ended quiet => exact absurd (quiet k op _ hcall id) (hnot _)
  | running j task usable ended call late quiet =>
    have hkj : k = j := quiet.eq hcall (hnot _)
    rw [← hkj, hcall] at call
    cases call
  | delivered j value' usable ended valid call late quiet =>
    have hkj : k = j := quiet.eq hcall (hnot _)
    rw [← hkj, hcall] at call
    cases call
  | gap j value' usable ended last call late quiet => exact ⟨usable, ended⟩
  | drained state ended quiet => exact absurd (quiet k op _ hcall id) (hnot _)

/-- A step keeps the stream as it should be exactly when it is not a call in the gap. -/
theorem Mode.clean_iff {e : ReadingEvent V} (h : s.Mode) (hstep : s.step e = some t) :
    t.Clean ↔ Undisturbed s e := by
  constructor
  · intro hclean k live task he hgap
    subst he
    obtain ⟨usable, ended⟩ := h.of_gap hgap
    obtain ⟨t', ht', hfailed⟩ := call_gap usable live task ended (call_fresh hstep)
    rw [hstep] at ht'
    cases ht'
    exact hclean.state hfailed
  · intro he
    exact (h.step hstep he).clean

end Reading

/-- Every call of a run resolves as it should, and the object never fails, exactly when no
call is made between the microtask in which `runTask` returns the end and the next one of
the same call. -/
theorem end_stable_iff {handle : UInt32} (hhandle : handle ≠ 0) {es : List (ReadingEvent V)}
    {s : Reading cursor} (hrun : run Reading.step (Reading.opened cursor handle) es = some s) :
    Always Reading.step Reading.Clean (Reading.opened cursor handle) es ↔
      Along Reading.step Reading.Undisturbed (Reading.opened cursor handle) es := by
  have hopened := Reading.mode_opened cursor hhandle
  refine always_iff_along (I := Reading.Mode) ?_ ?_ hopened hopened.clean hrun
  · intro s e t hstep hmode _
    exact hmode.clean_iff hstep
  · intro s e t hstep hmode _ hclean
    exact hmode.step hstep ((hmode.clean_iff hstep).mp hclean)

/-- A stream read to its end by one call, and then called once more. -/
theorem end_stable_two : ∃ s, run Reading.step (Reading.opened (readStreamCursor "f" 4) 7)
      [.call 0 false 1, .settle 0 none, .resumeTask 0, .resumeNext 0, .call 1 true 2] = some s ∧
    s.sys.calls 1 = some ⟨(), .returned (.ok (.ok none))⟩ ∧
    (Always Reading.step Reading.Clean (Reading.opened (readStreamCursor "f" 4) 7)
        [.call 0 false 1, .settle 0 none, .resumeTask 0, .resumeNext 0, .call 1 true 2] ↔
      Along Reading.step Reading.Undisturbed (Reading.opened (readStreamCursor "f" 4) 7)
        [.call 0 false 1, .settle 0 none, .resumeTask 0, .resumeNext 0, .call 1 true 2]) :=
  ⟨_, rfl, rfl, end_stable_iff (by decide) rfl⟩

/-- The second call is made after `runTask` has returned the end to the first one: it resolves
to `ResourceClosed`, and the object has failed. -/
theorem end_lost_in_gap : ∃ s, run Reading.step (Reading.opened (readStreamCursor "f" 4) 7)
      [.call 0 false 1, .settle 0 none, .resumeTask 0, .call 1 false 2, .resumeNext 1] = some s ∧
    s.sys.calls 0 = some ⟨(), .returning (.ok (.ok none))⟩ ∧
    s.sys.calls 1 = some ⟨(), .returned (.ok (.failed (overError (readStreamCursor "f" 4) 7)))⟩ ∧
    s.sys.child.state = .failed ∧ ¬ s.Clean := by
  refine ⟨_, rfl, rfl, rfl, rfl, ?_⟩
  intro hclean
  exact hclean.state rfl

end OpendalMbt.Browser
