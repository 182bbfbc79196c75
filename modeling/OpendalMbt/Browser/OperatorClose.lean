import OpendalMbt.Browser.OperatorOwnership
import OpendalMbt.Transition.Run

/-!
# Closing an operator

A close takes the handles of the operator and of all its children, and none of them gets one
again. A call that is suspended at that moment still gives back what it owns when it goes on;
a call that comes later ends before it reaches the bridge.

* `closed_of_close`: what a close leaves behind, in every later state;
* `quiet_of_happens`: once the calls are over, nothing reaches the bridge;
* `operator_close_leaves_nothing`: the ledger after a close.
-/

namespace OpendalMbt.Browser

open Codec Bridge Transition HandleCall

namespace OperatorSystem

variable {s : OperatorSystem} {k id : Nat} {call : PendingCall} {child : Child}

/-! ## The operator's handle -/

@[simp] theorem handle_callChild {op : ChildOp} {signal : Signal} {data : Checked (List UInt8)}
    {expectedKind : CompletionKind} :
    (s.callChild id op signal data child expectedKind).handle = s.handle := by
  unfold OperatorSystem.callChild
  split
  · rfl
  split <;> rfl

@[simp] theorem handle_poll {task : UInt32} : (s.poll k call task).handle = s.handle := by
  unfold OperatorSystem.poll
  generalize pollTask _ _ _ _ = out
  cases hanswer : pollAnswer out.1 with
  | none => simp only [hanswer]
  | some answer =>
    simp only [hanswer]
    rfl

@[simp] theorem handle_resumeTask {answer : Answer Value} :
    (s.resumeTask k call answer).handle = s.handle := by
  unfold OperatorSystem.resumeTask
  split
  · rfl
  · rfl
  split <;> rfl

@[simp] theorem handle_resumeOpening {type : ChildType} {answer : Answer Value} :
    (s.resumeOpening k call type answer).handle = s.handle := by
  unfold OperatorSystem.resumeOpening
  split
  · split <;> rfl
  · rfl

@[simp] theorem handle_resumeNext {answer : Answer Value} :
    (s.resumeNext k call id answer).handle = s.handle := by
  unfold OperatorSystem.resumeNext
  split
  · rfl
  split <;> rfl

@[simp] theorem handle_closeChild (id : Nat) : (s.closeChild id).2.handle = s.handle := by
  unfold OperatorSystem.closeChild
  split
  · rfl
  · dsimp only
    split
    · rfl
    · exact handle_cancelActive _

/-- Only a close of the operator takes its handle. -/
theorem handle_of_happens {e : OperatorEvent} {t : OperatorSystem} (h : s.Happens e t) :
    t.handle = s.handle ∨ e = .close := by
  cases h with
  | close => exact Or.inr rfl
  | operation operation signal | opening opening signal => exact Or.inl rfl
  | childCall signal data hid hexpects => exact Or.inl handle_callChild
  | poll hk hphase => exact Or.inl handle_poll
  | abort k => exact Or.inl (handle_cancel k)
  | resumeTask hk hphase => exact Or.inl handle_resumeTask
  | resumeOpening hk hcaller hphase => exact Or.inl handle_resumeOpening
  | resumeNext hk hcaller hphase => exact Or.inl handle_resumeNext
  | closeChild id => exact Or.inl (handle_closeChild id)

/-! ## A closed operator -/

/-- A child without a handle never asks for a release. -/
theorem perform_of_zero {α : Type} (hzero : child.resource.handle = 0) (context : Context)
    {f : Except Failure Unit → α × BrowserChildResource} (hf : Piece child.resource (f (.ok ())).2)
    (b : HandleBridge) :
    child.perform context f b =
        (((f (.ok ())).1, { child with resource := (f (.ok ())).2 }), b) ∧
      (f (.ok ())).2.handle = 0 := by
  unfold Child.perform
  rw [if_neg (fun hrelease => hrelease.1 hzero)]
  refine ⟨rfl, ?_⟩
  rcases hf with ⟨hsame, -⟩ | hgone
  · exact hsame.trans hzero
  · exact hgone

theorem Emptied.set (h : s.Emptied) {child' : Child} (hzero : child'.resource.handle = 0) :
    ∀ c ∈ s.children.set id child', c.resource.handle = 0 := by
  intro c hc
  rcases List.mem_or_eq_of_mem_set hc with hmem | rfl
  · exact h c hmem
  · exact hzero

theorem Emptied.continueCall {α : Type} (h : s.Emptied) (hid : s.children[id]? = some child)
    {f : Except Failure Unit → α × BrowserChildResource} {phase : α → Phase Value}
    (hf : Piece child.resource (f (.ok ())).2) :
    s.continueCall k call id child f phase =
        { s with
          children := s.children.set id { child with resource := (f (.ok ())).2 }
          calls := s.calls.set k { call with phase := phase (f (.ok ())).1 } } ∧
      (s.continueCall k call id child f phase).Emptied := by
  obtain ⟨hperform, hzero⟩ := perform_of_zero (h child (List.mem_of_getElem? hid)) call.context hf
    s.bridge
  unfold OperatorSystem.continueCall
  rw [hperform]
  exact ⟨rfl, h.set hzero⟩

theorem Emptied.runChild (h : s.Emptied) (hid : s.children[id]? = some child) {op : ChildOp}
    {signal : Signal} {expectedKind : CompletionKind} {start : Except Failure UInt32} :
    s.runChild id op signal child expectedKind start =
        { s with
          children := s.children.set id { child with
            resource := (child.cls.runTask s.isOpen op s.calls.length signal start (.ok ())
              child.resource).2 }
          calls := s.calls ++ [⟨.child id op, expectedKind, child.cls.context op,
            (child.cls.runTask s.isOpen op s.calls.length signal start (.ok ())
              child.resource).1⟩] } ∧
      (s.runChild id op signal child expectedKind start).Emptied := by
  obtain ⟨hperform, hzero⟩ := perform_of_zero (h child (List.mem_of_getElem? hid))
    (child.cls.context op) (f := fun release => child.cls.runTask s.isOpen op s.calls.length signal
      start release child.resource) piece_runTask s.bridge
  unfold OperatorSystem.runChild
  rw [hperform]
  exact ⟨rfl, h.set hzero⟩

theorem Emptied.closeChild (h : s.Emptied) (id : Nat) :
    (s.closeChild id).2.handle = s.handle ∧ (s.closeChild id).2.Emptied := by
  unfold OperatorSystem.closeChild
  cases hid : s.children[id]? with
  | none => exact ⟨rfl, h⟩
  | some child =>
    simp only
    have hcancelled : ∀ m : OperatorSystem, m.children = s.children → m.handle = s.handle →
        let ran := child.perform
          { operation := child.type.closeName, path := child.path, destinationPath := none }
          (fun release => child.resource.closeResource release) m.bridge
        m.handle = s.handle ∧
          Emptied { m with bridge := ran.2, children := m.children.set id ran.1.2 } := by
      intro m hchildren hhandle
      obtain ⟨hperform, hzero⟩ := perform_of_zero (h child (List.mem_of_getElem? hid))
        { operation := child.type.closeName, path := child.path, destinationPath := none }
        (f := fun release => child.resource.closeResource release) piece_closeResource m.bridge
      have hm : m.Emptied := by
        intro c hc
        rw [hchildren] at hc
        exact h c hc
      rw [hperform]
      exact ⟨hhandle, hm.set hzero⟩
    split
    · exact hcancelled s rfl rfl
    · exact hcancelled _ (children_cancelActive _) (handle_cancelActive _)

theorem Emptied.callChild (h : s.Emptied) (hid : s.children[id]? = some child) {op : ChildOp}
    {signal : Signal} {data : Checked (List UInt8)} {expectedKind : CompletionKind} :
    (s.callChild id op signal data child expectedKind).Emptied := by
  unfold OperatorSystem.callChild
  split
  · exact h
  split
  · dsimp only
    generalize startTask _ _ _ _ = out
    obtain ⟨start, bridge⟩ := out
    have hran : Emptied { s with bridge } := h
    exact (hran.runChild hid).2
  · exact (h.runChild hid).2

theorem Emptied.poll (h : s.Emptied) {task : UInt32} : (s.poll k call task).Emptied := by
  unfold OperatorSystem.poll
  generalize pollTask _ _ _ _ = out
  cases hanswer : pollAnswer out.1 with
  | none =>
    simp only [hanswer]
    exact h
  | some answer =>
    simp only [hanswer]
    exact h

/-- A closed operator stays closed, and so do its children. -/
theorem emptied_of_happens {e : OperatorEvent} {t : OperatorSystem} (hclosed : s.handle = 0)
    (h : s.Emptied) (hstep : s.Happens e t) : t.Emptied := by
  cases hstep with
  | operation operation signal | opening opening signal => exact h
  | childCall signal data hid hexpects => exact h.callChild hid
  | poll hk hphase => exact h.poll
  | abort k =>
    unfold Emptied
    rw [children_cancel]
    exact h
  | resumeTask hk hphase =>
    unfold OperatorSystem.resumeTask
    split
    · exact h
    · exact h
    split
    · exact h
    · rename_i hid
      exact (h.continueCall hid piece_resumeTask).2
  | resumeOpening hk hcaller hphase =>
    unfold OperatorSystem.resumeOpening
    split
    · rw [if_pos hclosed]
      exact h
    · exact h
  | resumeNext hk hcaller hphase =>
    unfold OperatorSystem.resumeNext
    split
    · exact h
    split
    · exact h
    · rename_i hid _ _ _
      exact (h.continueCall hid piece_resumeNext).2
  | closeChild id => exact (h.closeChild id).2
  | close =>
    unfold OperatorSystem.close
    rw [if_pos hclosed]
    exact h

/-- A call that neither waits for a task nor holds a handle. -/
def Idle (call : PendingCall) : Prop :=
  match call.phase with
  | .settling _ | .settled _ => False
  | .returning answer => answer.resource = none
  | .returned _ => True

/-- A closed operator whose calls are over. -/
structure Quiet (s : OperatorSystem) : Prop where
  closed : s.handle = 0
  emptied : s.Emptied
  calls : ∀ call ∈ s.calls, Idle call

theorem idle_returning {cls : ChildClass Value} {op : cls.Op} {answer : Answer Value}
    (h : answer.resource = none) {caller : Caller} {expectedKind : CompletionKind}
    {context : Context} : Idle ⟨caller, expectedKind, context, cls.returning op answer⟩ := by
  rcases returning_cases cls op answer with hphase | hphase
  · rw [hphase]
    exact h
  · rw [hphase]
    trivial

theorem idle_append (h : ∀ call ∈ s.calls, Idle call) (hcall : Idle call) :
    ∀ call' ∈ s.calls ++ [call], Idle call' := by
  intro call' hmem
  rcases List.mem_append.mp hmem with hold | hnew
  · exact h call' hold
  · rw [List.mem_singleton.mp hnew]
    exact hcall

theorem idle_set (h : ∀ call ∈ s.calls, Idle call) (hcall : Idle call) :
    ∀ call' ∈ s.calls.set k call, Idle call' := by
  intro call' hmem
  rcases List.mem_or_eq_of_mem_set hmem with hold | rfl
  · exact h call' hold
  · exact hcall

/-- Nothing is left to cancel. -/
theorem Quiet.cancel (h : s.Quiet) (k : Nat) : s.cancel k = s := by
  unfold OperatorSystem.cancel
  split
  · rename_i hk
    exact (h.calls _ (List.mem_of_getElem? hk)).elim
  · rfl

theorem Quiet.isOpen (h : s.Quiet) : s.isOpen = false := by
  unfold OperatorSystem.isOpen
  rw [h.closed]
  rfl

theorem Quiet.closeChild (h : s.Quiet) (id : Nat) :
    (∀ call ∈ (s.closeChild id).2.calls, Idle call) ∧ (s.closeChild id).2.bridge = s.bridge := by
  unfold OperatorSystem.closeChild
  cases hid : s.children[id]? with
  | none => exact ⟨h.calls, rfl⟩
  | some child =>
    have hcancelled : (if child.resource.state = .closed then s
        else s.cancelActive child.resource.active) = s := by
      split
      · rfl
      · cases child.resource.active with
        | none => rfl
        | some k => exact h.cancel k
    simp only [hcancelled]
    rw [(perform_of_zero (h.emptied child (List.mem_of_getElem? hid)) _ piece_closeResource _).1]
    exact ⟨h.calls, rfl⟩

theorem Quiet.callChild (h : s.Quiet) (hid : s.children[id]? = some child) {op : ChildOp}
    {signal : Signal} {data : Checked (List UInt8)} {expectedKind : CompletionKind} :
    (∀ call ∈ (s.callChild id op signal data child expectedKind).calls, Idle call) ∧
      (s.callChild id op signal data child expectedKind).bridge = s.bridge := by
  have hunusable : child.resource.Unusable s.isOpen := Or.inr (Or.inr h.isOpen)
  unfold OperatorSystem.callChild
  split
  · exact ⟨idle_append h.calls trivial, rfl⟩
  · rw [if_neg (fun hstarts => hstarts.1 hunusable), (h.emptied.runChild hid).1]
    refine ⟨idle_append h.calls ?_, rfl⟩
    rw [runTask_unusable hunusable]
    exact idle_returning rfl

/-- Once a closed operator has gone quiet, nothing reaches the bridge any more. -/
theorem quiet_of_happens {e : OperatorEvent} {t : OperatorSystem} (h : s.Quiet)
    (hstep : s.Happens e t) : (∀ call ∈ t.calls, Idle call) ∧ t.bridge = s.bridge := by
  cases hstep with
  | operation operation signal =>
    unfold OperatorSystem.request
    rw [h.isOpen, runTask_operatorClosed]
    exact ⟨idle_append h.calls trivial, rfl⟩
  | opening opening signal =>
    unfold OperatorSystem.request
    rw [h.isOpen, runTask_operatorClosed]
    exact ⟨idle_append h.calls rfl, rfl⟩
  | childCall signal data hid hexpects => exact h.callChild hid
  | poll hk hphase =>
    have hidle := h.calls _ (List.mem_of_getElem? hk)
    unfold Idle at hidle
    rw [hphase] at hidle
    cases hidle
  | abort k =>
    rw [h.cancel k]
    exact ⟨h.calls, rfl⟩
  | resumeTask hk hphase =>
    have hidle := h.calls _ (List.mem_of_getElem? hk)
    unfold Idle at hidle
    rw [hphase] at hidle
    cases hidle
  | resumeOpening hk hcaller hphase =>
    have hidle := h.calls _ (List.mem_of_getElem? hk)
    unfold Idle at hidle
    rw [hphase] at hidle
    unfold OperatorSystem.resumeOpening
    split
    · cases hidle
    · exact ⟨idle_set h.calls trivial, rfl⟩
  | resumeNext hk hcaller hphase =>
    unfold OperatorSystem.resumeNext
    split
    · exact ⟨h.calls, rfl⟩
    split
    · exact ⟨h.calls, rfl⟩
    · rename_i hid _ _ _
      rw [(h.emptied.continueCall hid piece_resumeNext).1]
      exact ⟨idle_set h.calls trivial, rfl⟩
  | closeChild id => exact h.closeChild id
  | close =>
    unfold OperatorSystem.close
    rw [if_pos h.closed]
    exact ⟨h.calls, rfl⟩

/-! ## Runs -/

/-- The children of a closed operator have no handle. -/
structure Orderly (s : OperatorSystem) : Prop where
  sound : s.Sound 0
  shut : s.handle = 0 → s.Emptied

theorem orderly_opened {code : UInt32} (hcode : code ≠ 0) : (opened code).Orderly where
  sound := sound_opened hcode
  shut hclosed := absurd hclosed hcode

/-- A close leaves a closed operator behind. -/
theorem Orderly.close (h : s.Orderly) : s.close.2.handle = 0 ∧ s.close.2.Emptied := by
  by_cases hopen : s.handle = 0
  · unfold OperatorSystem.close
    rw [if_pos hopen]
    exact ⟨hopen, h.shut hopen⟩
  · obtain ⟨t, hclose, -, hclosed, hemptied⟩ := h.sound.close hopen
    rw [hclose]
    exact ⟨hclosed, hemptied⟩

theorem Orderly.with_world (h : s.Orderly) (world : World) :
    Orderly { s with bridge := { s.bridge with world } } where
  sound := h.sound.with_bridge h.sound.balanced
  shut := h.shut

theorem preserves_orderly : Preserves step Orderly := by
  intro s e t hstep h
  have hworld := h.with_world e.1
  have hhappens := happens_of_step hstep
  refine ⟨sound_of_happens hworld.sound hhappens, ?_⟩
  intro hclosed
  by_cases hopen : s.handle = 0
  · have hclosed' : OperatorSystem.handle { s with bridge := { s.bridge with world := e.1 } } = 0 :=
      hopen
    exact emptied_of_happens hclosed' (hworld.shut hclosed') hhappens
  · rcases handle_of_happens hhappens with hsame | hclose
    · exact absurd (hsame.symm.trans hclosed) hopen
    · rw [hclose] at hhappens
      cases hhappens
      exact hworld.close.2

theorem preserves_closed : Preserves step fun s => s.handle = 0 := by
  intro s e t hstep hclosed
  have hhappens := happens_of_step hstep
  rcases handle_of_happens hhappens with hsame | hclose
  · exact hsame.trans hclosed
  · rw [hclose] at hhappens
    cases hhappens
    unfold close
    rw [if_pos hclosed]
    exact hclosed

theorem closed_of_close {code : UInt32} (hcode : code ≠ 0) {es : List (World × OperatorEvent)}
    (hrun : run step (opened code) es = some s) {world : World} (hclose : (world, .close) ∈ es) :
    s.handle = 0 ∧ s.Emptied := by
  obtain ⟨es₁, es₂, rfl⟩ := List.append_of_mem hclose
  obtain ⟨m, hm, hrest⟩ := run_append_eq_some.mp hrun
  obtain ⟨u, hu, hlater⟩ := run_cons_eq_some.mp hrest
  have horderly : m.Orderly := preserves_orderly.run (orderly_opened hcode) hm
  have hs : s.Orderly := preserves_orderly.run (orderly_opened hcode) hrun
  cases hu
  have hclosed := preserves_closed.run (horderly.with_world world).close.1 hlater
  exact ⟨hclosed, hs.shut hclosed⟩

theorem owned_of_quiet (h : s.Quiet) (hreturned : ∀ call ∈ s.calls, ∃ answer,
    call.phase = .returned answer) : s.owned = 0 := by
  have hchildren : (s.children.map Child.owned).sum = 0 := by
    apply List.sum_eq_zero
    intro owned howned
    obtain ⟨child, hmem, rfl⟩ := List.mem_map.mp howned
    unfold Child.owned
    rw [h.emptied child hmem, held_zero]
  have hcalls : (s.calls.map fun call => call.phase.owned).sum = 0 := by
    apply List.sum_eq_zero
    intro owned howned
    obtain ⟨call, hmem, rfl⟩ := List.mem_map.mp howned
    obtain ⟨answer, hanswer⟩ := hreturned call hmem
    rw [hanswer]
    rfl
  unfold owned
  rw [h.closed, held_zero, hchildren, hcalls, add_zero, add_zero]

theorem quiet_run {t : OperatorSystem} {es : List (World × OperatorEvent)} (h : s.Quiet)
    (hrun : run step s es = some t) : t.bridge.ledger = s.bridge.ledger := by
  have hpreserves : Preserves step fun m => m.Quiet ∧ m.bridge.ledger = s.bridge.ledger := by
    intro m e u hstep hm
    have hworld : Quiet { m with bridge := { m.bridge with world := e.1 } } :=
      ⟨hm.1.closed, hm.1.emptied, hm.1.calls⟩
    have hhappens := happens_of_step hstep
    obtain ⟨hcalls, hbridge⟩ := quiet_of_happens hworld hhappens
    refine ⟨⟨preserves_closed hstep hm.1.closed,
      emptied_of_happens hworld.closed hworld.emptied hhappens, hcalls⟩, ?_⟩
    rw [hbridge]
    exact hm.2
  exact (hpreserves.run ⟨h, rfl⟩ hrun).2

/-- After a close of the operator, once all its calls and those on its children have settled,
every handle made on its behalf has been released or moved exactly once, and whatever is called
later, the bridge is not asked for another handle. -/
theorem operator_close_leaves_nothing {code : UInt32} (hcode : code ≠ 0)
    {es : List (World × OperatorEvent)} (hrun : run step (opened code) es = some s)
    {world : World} (hclose : (world, .close) ∈ es)
    (hsettled : ∀ call ∈ s.calls, ∃ answer, call.phase = .returned answer) :
    (∀ handle ∈ s.bridge.ledger.created, s.bridge.ledger.gone.count handle = 1) ∧
      (∀ handle ∈ s.bridge.ledger.gone, handle ∈ s.bridge.ledger.created) ∧
      ∀ es' t, run step s es' = some t → t.bridge.ledger = s.bridge.ledger := by
  obtain ⟨hclosed, hemptied⟩ := closed_of_close hcode hrun hclose
  have horderly : s.Orderly := preserves_orderly.run (orderly_opened hcode) hrun
  have hquiet : s.Quiet := by
    refine ⟨hclosed, hemptied, ?_⟩
    intro call hmem
    obtain ⟨answer, hanswer⟩ := hsettled call hmem
    unfold Idle
    rw [hanswer]
    trivial
  have hbalanced : s.bridge.ledger.Balanced 0 := by
    rw [← owned_of_quiet hquiet hsettled, ← add_zero s.owned]
    exact horderly.sound.balanced
  refine ⟨hbalanced.settled.1, hbalanced.settled.2, ?_⟩
  intro es' t hlater
  exact quiet_run hquiet hlater

def plainOptions : ReadStreamOptions where
  version := .ok none
  ifMatch := .ok none
  ifNoneMatch := .ok none
  range := .ok (0, 0, 0)
  chunkSize := .ok 4

/-- A read stream is opened and its task settles; the operator is closed before the opening
goes on. -/
def overtakenOpening : List (World × OperatorEvent) :=
  [({ answers := [2, 3] }, .opening (.readStream ⟨.ok [], some ""⟩ plainOptions) .none),
    ({ answers := [2, 4, 9, 0, 0, 5] }, .poll 0),
    ({}, .resumeTask 0),
    ({}, .close),
    ({}, .resume 0)]

theorem operator_close_leaves_nothing_overtaken :
    ∃ s, run step (opened 1) overtakenOpening = some s ∧
      s.bridge.ledger.created.map BridgeHandle.code = [5, 4, 3, 2, 1] ∧
        ∀ handle ∈ s.bridge.ledger.created, s.bridge.ledger.gone.count handle = 1 := by
  have hclose : (({} : World), OperatorEvent.close) ∈ overtakenOpening := by
    unfold overtakenOpening
    simp
  refine ⟨_, rfl, rfl, ?_⟩
  have hcode : (1 : UInt32) ≠ 0 := by decide
  refine (operator_close_leaves_nothing hcode rfl hclose ?_).1
  intro call hmem
  rw [List.mem_singleton.mp hmem]
  exact ⟨_, rfl⟩

end OperatorSystem

end OpendalMbt.Browser
