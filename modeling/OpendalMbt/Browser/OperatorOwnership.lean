import Mathlib.Tactic.Abel
import OpendalMbt.Browser.Operator

/-!
# Who owns a handle

Every handle of the bridge belongs to one place of the system at any time: the operator's own
handle to the operator, a child's to the child, a task's to the call that waits for it, and
that of an opened resource to the opening until it has become a child.

* `Sound`: the ledger is balanced with what the places own, and only open, registered
  children have a handle;
* `Sound.request` to `Sound.close`: every piece of code keeps this;
* `sound_of_happens`: so every event does.
-/

namespace OpendalMbt.Browser

open Codec Bridge Transition HandleCall

/-! ## Places -/

def Child.owned (child : Child) : Multiset BridgeHandle :=
  held child.type.kind child.resource.handle

def Caller.opened : Caller → Option ResourceKind
  | .opening type => some type.kind
  | .operation | .child _ _ => none

/-- The answer of a call, where it has one that somebody still waits for. -/
def Phase.waiting : Phase Value → Option (Answer Value)
  | .settled answer | .returning answer => some answer
  | .settling _ | .returned _ => none

structure PendingCall.Sound (childCount : Nat) (call : PendingCall) : Prop where
  expected : opens call.expectedKind = call.caller.opened
  fits : ∀ answer, call.phase.waiting = some answer → answer.Fits call.caller.opened
  known : ∀ id op, call.caller = .child id op → id < childCount

/-- Only an open child that the operator still has keeps a handle. -/
def Child.Sound (child : Child) : Prop :=
  child.resource.handle ≠ 0 → child.resource.state = .open ∧ child.resource.registered = true

namespace OperatorSystem

def owned (s : OperatorSystem) : Multiset BridgeHandle :=
  held .operator s.handle + ((s.children.map Child.owned).sum +
    (s.calls.map fun call => call.phase.owned).sum)

/-- `frame` is owned besides, by code that is still running. -/
structure Sound (s : OperatorSystem) (frame : Multiset BridgeHandle) : Prop where
  balanced : s.bridge.ledger.Balanced (s.owned + frame)
  children : ∀ child ∈ s.children, child.Sound
  calls : ∀ call ∈ s.calls, call.Sound s.children.length

section Owned

variable {s : OperatorSystem} {k id : Nat} {call : PendingCall} {child : Child}

theorem owned_call (h : s.calls[k]? = some call) :
    ∃ rest, s.owned = call.phase.owned + rest ∧ ∀ (call' : PendingCall) bridge activeTasks,
      owned { s with bridge, activeTasks, calls := s.calls.set k call' } =
        call'.phase.owned + rest := by
  obtain ⟨rest, hsum, hset⟩ := exists_sum_rest (f := fun call => call.phase.owned) h
  refine ⟨held .operator s.handle + ((s.children.map Child.owned).sum + rest), ?_, ?_⟩
  · unfold owned
    rw [hsum]
    abel
  · intro call' bridge activeTasks
    unfold owned
    simp only
    rw [hset call']
    abel

theorem owned_child (h : s.children[id]? = some child) :
    ∃ rest, s.owned = child.owned + rest ∧ ∀ (child' : Child) bridge,
      owned { s with bridge, children := s.children.set id child' } = child'.owned + rest := by
  obtain ⟨rest, hsum, hset⟩ := exists_sum_rest (f := Child.owned) h
  refine ⟨held .operator s.handle + (rest + (s.calls.map fun call => call.phase.owned).sum), ?_, ?_⟩
  · unfold owned
    rw [hsum]
    abel
  · intro child' bridge
    unfold owned
    simp only
    rw [hset child']
    abel

theorem owned_addCall (call : PendingCall) (bridge : HandleBridge) (activeTasks : List Nat) :
    owned { s with bridge, activeTasks, calls := s.calls ++ [call] } =
      call.phase.owned + s.owned := by
  unfold owned
  simp only [List.map_append, List.sum_append, List.map_cons, List.map_nil, List.sum_cons,
    List.sum_nil]
  abel

theorem owned_addChild (child : Child) :
    owned { s with children := s.children ++ [child] } = child.owned + s.owned := by
  unfold owned
  simp only [List.map_append, List.sum_append, List.map_cons, List.map_nil, List.sum_cons,
    List.sum_nil]
  abel

end Owned

end OperatorSystem

/-! ## Pieces of a child's code -/

/-- A piece leaves the child as it was, apart from its active call, or takes its handle. -/
def Piece (c c' : BrowserChildResource) : Prop :=
  c'.handle = c.handle ∧ c'.state = c.state ∧ c'.registered = c.registered ∨ c'.handle = 0

section Pieces

variable {operatorOpen : Bool} {cls : ChildClass Value} {op : cls.Op} {k : Nat}
  {c : BrowserChildResource} {release : Except Failure Unit}

theorem piece_refl : Piece c c := Or.inl ⟨rfl, rfl, rfl⟩

theorem piece_runTask {signal : Signal} {start : Except Failure UInt32} :
    Piece c (cls.runTask operatorOpen op k signal start release c).2 := by
  rcases runTask_cases operatorOpen op k signal start release c with
    ⟨answer, h, -⟩ | ⟨-, -, ⟨answer, h, -⟩ | ⟨task, h⟩⟩
  · rw [h]
    exact piece_refl
  · rw [h]
    exact Or.inr rfl
  · rw [h]
    exact Or.inl ⟨rfl, rfl, rfl⟩

theorem piece_finishThen {state : ChildState} {result : Answer Value} :
    Piece c (c.finishThen state release result).2 := by
  rw [(c.finishThen_cases state release result).1]
  exact Or.inr rfl

theorem piece_settledTask {settled : Answer Value} :
    Piece c (cls.settledTask operatorOpen op settled release c).2 := by
  unfold ChildClass.settledTask
  split
  · split
    · exact piece_finishThen
    · exact piece_refl
  · split
    · exact piece_refl
    split
    · exact piece_refl
    · rename_i value _ _ state _
      rw [(c.finishWith_cases state release value).1]
      exact Or.inr rfl
  · exact piece_finishThen
  · split
    · exact piece_finishThen
    · exact piece_refl

theorem piece_resumeTask {settled : Answer Value} :
    Piece c (cls.resumeTask operatorOpen op k settled release c).2 := by
  have hsettled : Piece c (cls.settledTask operatorOpen op settled release c).2 :=
    piece_settledTask
  show Piece c (clearActive k (cls.settledTask operatorOpen op settled release c).2)
  unfold Piece at hsettled ⊢
  rw [handle_clearActive, state_clearActive, registered_clearActive]
  exact hsettled

theorem piece_resumeNext {post : Value → Post} {answer : Answer Value} :
    Piece c (resumeNext post answer release c).2 := by
  rcases resumeNext_answer post answer release c with
    ⟨-, h⟩ | ⟨value, -, -, answer, h, -⟩ | ⟨value, -, -, answer, h, -⟩
  · rw [h]
    exact piece_refl
  · rw [h]
    exact Or.inr rfl
  · rw [h]
    exact Or.inr rfl

theorem piece_closeResource : Piece c (c.closeResource release).2 := by
  rw [c.closeResource_snd]
  split
  · exact piece_refl
  · exact Or.inr rfl

theorem Valueless.resource {answer : Answer Value} (h : Valueless answer) :
    answer.resource = none := by
  match answer with
  | .ok (.ok value) => exact absurd rfl (h value)
  | .ok (.failed e) => rfl
  | .error failure => rfl

theorem resource_finishThen {state : ChildState} {result : Answer Value}
    (h : result.resource = none) :
    Answer.resource (c.finishThen state release result).1 = none := by
  rcases (c.finishThen_cases state release result).2 with hresult | ⟨failure, hresult⟩
  · rw [hresult]
    exact h
  · rw [hresult]
    rfl

/-- A call on a child hands on no handle of its own. -/
theorem resource_settledTask {settled : Answer Value} (h : settled.resource = none) :
    Answer.resource (cls.settledTask operatorOpen op settled release c).1 = none := by
  unfold ChildClass.settledTask
  split
  · split
    · exact resource_finishThen rfl
    · rfl
  · split
    · rfl
    split
    · exact h
    · rename_i value _ _ state _
      rcases (c.finishWith_cases state release value).2 with hvalue | ⟨e, hvalue⟩ | ⟨e, hvalue⟩
      · rw [hvalue]
        exact h
      · rw [hvalue]
        rfl
      · rw [hvalue]
        rfl
  · exact resource_finishThen rfl
  · split
    · exact resource_finishThen rfl
    · rfl

/-- Without a task a call ends at once. -/
theorem runTask_ended (op : cls.Op) (k : Nat) (release : Except Failure Unit) {signal : Signal}
    {start : Except Failure UInt32}
    (h : (¬ c.Unusable operatorOpen ∧ c.active = none ∧ (signal = .none ∨ signal = .live)) →
      ∃ failure, start = .error failure) :
    ∃ answer, (cls.runTask operatorOpen op k signal start release c).1 = cls.returning op answer ∧
      Answer.resource answer = none := by
  rcases runTask_cases operatorOpen op k signal start release c with
    ⟨answer, hanswer, hvalueless⟩ | ⟨hunusable, hactive, ⟨answer, hanswer, hvalueless⟩ | ⟨task, htask⟩⟩
  · rw [hanswer]
    exact ⟨answer, rfl, hvalueless.resource⟩
  · rw [hanswer]
    exact ⟨answer, rfl, hvalueless.resource⟩
  · exfalso
    have hidle : ¬ c.active.isSome = true := by
      rw [hactive]
      exact Bool.false_ne_true
    have hended : ∀ answer, cls.returning op answer ≠ .settling task := by
      intro answer hsettling
      unfold ChildClass.returning at hsettling
      split at hsettling <;> cases hsettling
    have hphase : (cls.runTask operatorOpen op k signal start release c).1 = .settling task := by
      rw [htask]
    unfold ChildClass.runTask at hphase
    rw [if_neg hunusable, if_neg hidle] at hphase
    cases signal with
    | invalid => exact hended _ hphase
    | aborted => exact hended _ hphase
    | none =>
      obtain ⟨failure, rfl⟩ := h ⟨hunusable, hactive, Or.inl rfl⟩
      simp only at hphase
      split at hphase
      · cases ‹Except.error _ = Except.ok _›
      · split at hphase <;> exact hended _ hphase
      · exact hended _ hphase
    | live =>
      obtain ⟨failure, rfl⟩ := h ⟨hunusable, hactive, Or.inr rfl⟩
      simp only at hphase
      split at hphase
      · cases ‹Except.error _ = Except.ok _›
      · split at hphase <;> exact hended _ hphase
      · exact hended _ hphase

theorem returning_cases (cls : ChildClass Value) (op : cls.Op) (answer : Answer Value) :
    cls.returning op answer = .returning answer ∨ cls.returning op answer = .returned answer := by
  unfold ChildClass.returning
  split
  · exact Or.inl rfl
  · exact Or.inr rfl

/-- Where a call is once its `runTask` is over without a handle. -/
theorem returning_quiet (cls : ChildClass Value) (op : cls.Op) {answer : Answer Value} (h : answer.resource = none) :
    (cls.returning op answer).owned = 0 ∧
      ∀ answer', (cls.returning op answer).waiting = some answer' → answer'.resource = none := by
  rcases returning_cases cls op answer with hphase | hphase
  · rw [hphase]
    refine ⟨Answer.owned_of_none h, ?_⟩
    intro answer' hwaiting
    cases hwaiting
    exact h
  · rw [hphase]
    refine ⟨rfl, ?_⟩
    intro answer' hwaiting
    cases hwaiting

end Pieces

namespace Child

variable {α : Type} {child : Child} {context : Context}
  {f : Except Failure Unit → α × BrowserChildResource} {b : HandleBridge}
  {frame : Multiset BridgeHandle}

theorem Sound.piece (h : child.Sound) {c' : BrowserChildResource} (hpiece : Piece child.resource c') :
    Sound { child with resource := c' } := by
  intro hhandle
  rcases hpiece with ⟨hsame, hstate, hregistered⟩ | hzero
  · obtain ⟨hopen, hkept⟩ := h (by rw [← hsame]; exact hhandle)
    exact ⟨hstate.trans hopen, hregistered.trans hkept⟩
  · exact absurd hzero hhandle

/-- A piece goes as if the bridge had granted its release, and the ledger follows. -/
theorem perform_eq (context : Context) (hf : Piece child.resource (f (.ok ())).2)
    (h : b.ledger.Balanced (child.owned + frame)) :
    ∃ b', child.perform context f b =
        (((f (.ok ())).1, { child with resource := (f (.ok ())).2 }), b') ∧
      b'.ledger.Balanced (owned { child with resource := (f (.ok ())).2 } + frame) := by
  unfold perform
  by_cases hrelease : child.resource.handle ≠ 0 ∧ (f (.ok ())).2.handle = 0
  · rw [if_pos hrelease]
    have hheld : child.owned = {child.ownedHandle} := held_of_ne hrelease.1
    rw [hheld] at h
    have hgone : child.releaseHandle context b = (.ok (), released child.ownedHandle b) := by
      unfold releaseHandle
      rw [Call.bind_apply_ok (release_of_live h.live)]
      rfl
    rw [hgone]
    refine ⟨released child.ownedHandle b, rfl, ?_⟩
    unfold owned
    rw [hrelease.2, held_zero, zero_add]
    exact h.retire
  · rw [if_neg hrelease]
    refine ⟨b, rfl, ?_⟩
    have hsame : (f (.ok ())).2.handle = child.resource.handle := by
      rcases hf with ⟨hsame, -⟩ | hzero
      · exact hsame
      · by_contra hne
        apply hrelease
        refine ⟨?_, hzero⟩
        intro hchild
        exact hne (hzero.trans hchild.symm)
    unfold owned at h ⊢
    rw [hsame]
    exact h

end Child

/-! ## Events -/

namespace OperatorSystem

variable {s : OperatorSystem} {frame : Multiset BridgeHandle} {k id : Nat} {call : PendingCall}
  {child : Child}

theorem Sound.with_bridge (h : s.Sound frame) {bridge : HandleBridge}
    {frame' : Multiset BridgeHandle} (hbridge : bridge.ledger.Balanced (s.owned + frame')) :
    Sound { s with bridge } frame' where
  balanced := hbridge
  children := h.children
  calls := h.calls

/-- One call moves on, and the ledger with it. -/
theorem Sound.of_call (h : s.Sound frame) (hk : s.calls[k]? = some call) {phase : Phase Value}
    {bridge : HandleBridge} {activeTasks : List Nat}
    (hfits : ∀ answer, phase.waiting = some answer → answer.Fits call.caller.opened)
    (hbridge : ∀ rest, s.bridge.ledger.Balanced (call.phase.owned + rest) →
      bridge.ledger.Balanced (phase.owned + rest)) :
    Sound { s with bridge, activeTasks, calls := s.calls.set k { call with phase } } frame where
  balanced := by
    obtain ⟨rest, howned, hset⟩ := owned_call hk
    rw [hset, add_assoc]
    apply hbridge
    rw [← add_assoc, ← howned]
    exact h.balanced
  children := h.children
  calls := by
    intro call' hcall'
    rcases List.mem_or_eq_of_mem_set hcall' with hmem | rfl
    · exact h.calls call' hmem
    · have hcall := h.calls call (List.mem_of_getElem? hk)
      exact { expected := hcall.expected, fits := hfits, known := hcall.known }

theorem Sound.add_call (call : PendingCall) (h : s.Sound (call.phase.owned + frame))
    (hcall : call.Sound s.children.length) (activeTasks : List Nat) :
    Sound { s with activeTasks, calls := s.calls ++ [call] } frame where
  balanced := by
    rw [owned_addCall call s.bridge activeTasks, add_comm call.phase.owned, add_assoc]
    exact h.balanced
  children := h.children
  calls := by
    intro call' hcall'
    rcases List.mem_append.mp hcall' with hmem | hmem
    · exact h.calls call' hmem
    · rw [List.mem_singleton.mp hmem]
      exact hcall

/-- A piece of a child's code runs, and the ledger follows. -/
theorem Sound.perform {α : Type} (h : s.Sound frame) (hid : s.children[id]? = some child)
    (context : Context) {f : Except Failure Unit → α × BrowserChildResource}
    (hf : Piece child.resource (f (.ok ())).2) :
    ∃ bridge, child.perform context f s.bridge =
        (((f (.ok ())).1, { child with resource := (f (.ok ())).2 }), bridge) ∧
      Sound { s with
        bridge, children := s.children.set id { child with resource := (f (.ok ())).2 } } frame := by
  obtain ⟨rest, howned, hset⟩ := owned_child hid
  have hbalanced := h.balanced
  rw [howned, add_assoc] at hbalanced
  obtain ⟨bridge, hperform, hbridge⟩ := Child.perform_eq context hf hbalanced
  refine ⟨bridge, hperform, ?_, ?_, ?_⟩
  · rw [hset, add_assoc]
    exact hbridge
  · intro child' hchild'
    rcases List.mem_or_eq_of_mem_set hchild' with hmem | rfl
    · exact h.children child' hmem
    · exact (h.children child (List.mem_of_getElem? hid)).piece hf
  · intro call hcall
    have hlength : (s.children.set id { child with resource := (f (.ok ())).2 }).length =
        s.children.length := List.length_set
    show call.Sound (s.children.set id { child with resource := (f (.ok ())).2 }).length
    rw [hlength]
    exact h.calls call hcall

theorem Sound.request (h : s.Sound frame) {caller : Caller} {request : TaskRequest}
    {signal : Signal} {ended : Answer Value → Phase Value}
    (hexpected : opens request.expectedKind = caller.opened)
    (hcaller : ∀ id op, caller ≠ .child id op)
    (hended : ∀ answer, Answer.resource answer = none → (ended answer).owned = 0 ∧
      ∀ answer', (ended answer).waiting = some answer' → answer'.resource = none) :
    (s.request caller request signal ended).Sound frame := by
  have hbridge := balanced_runTask request s.isOpen signal
    (fun answer hanswer => (hended answer hanswer).1) h.balanced
  have hphase := runTask_phase request s.isOpen signal ended s.bridge
  unfold OperatorSystem.request
  cases hrun : request.runTask s.isOpen signal ended s.bridge with
  | mk phase bridge =>
    rw [hrun] at hbridge hphase
    have hnext : Sound { s with bridge } (phase.owned + frame) := by
      apply h.with_bridge
      rw [← add_assoc, add_comm s.owned, add_assoc]
      exact hbridge
    refine Sound.add_call ⟨caller, request.expectedKind, request.context, phase⟩ hnext
      { expected := hexpected, fits := ?_, known := ?_ } _
    · intro answer hwaiting
      rcases hphase with ⟨answer', hrest, hquiet⟩ | ⟨answer', hrest, hquiet⟩ | ⟨task, hrest⟩
      · simp only at hrest
        rw [hrest] at hwaiting
        exact Answer.fits_of_none ((hended answer' hquiet).2 answer hwaiting) _
      · simp only at hrest
        rw [hrest] at hwaiting
        cases hwaiting
        exact Answer.fits_of_none hquiet _
      · simp only at hrest
        rw [hrest] at hwaiting
        cases hwaiting
    · intro id op heq
      exact absurd heq (hcaller id op)

/-- The start of a call on a child, with the task in hand if there is one. -/
theorem Sound.runChild {op : ChildOp} {signal : Signal} {expectedKind : CompletionKind}
    {start : Except Failure UInt32} (phase : Phase Value)
    (h : s.Sound (phase.owned + frame)) (hid : s.children[id]? = some child)
    (hexpected : opens expectedKind = none)
    (hphase : (child.cls.runTask s.isOpen op s.calls.length signal start (.ok ())
      child.resource).1 = phase)
    (hfits : ∀ answer, phase.waiting = some answer → answer.resource = none) :
    (s.runChild id op signal child expectedKind start).Sound frame := by
  obtain ⟨bridge, hperform, hnext⟩ := h.perform hid (child.cls.context op)
    (f := fun release => child.cls.runTask s.isOpen op s.calls.length signal start release
      child.resource) piece_runTask
  unfold OperatorSystem.runChild
  rw [hperform]
  simp only [hphase]
  refine Sound.add_call ⟨.child id op, expectedKind, child.cls.context op, phase⟩ hnext
    { expected := hexpected, fits := ?_, known := ?_ } s.activeTasks
  · intro answer hwaiting
    exact Answer.fits_of_none (hfits answer hwaiting) _
  · intro id' op' heq
    cases heq
    show id < (s.children.set id _).length
    rw [List.length_set]
    exact (List.getElem?_eq_some_iff.mp hid).1

/-- A call that ends without a task. -/
theorem Sound.runChild_ended {op : ChildOp} {signal : Signal} {expectedKind : CompletionKind}
    {start : Except Failure UInt32} (h : s.Sound frame) (hid : s.children[id]? = some child)
    (hexpected : opens expectedKind = none)
    (hended : child.Starts s.isOpen signal → ∃ failure, start = .error failure) :
    (s.runChild id op signal child expectedKind start).Sound frame := by
  obtain ⟨answer, hphase, hanswer⟩ := runTask_ended (show child.cls.Op from op)
    s.calls.length (.ok ()) hended
  obtain ⟨howned, hwaiting⟩ := returning_quiet child.cls op hanswer
  refine Sound.runChild (child.cls.returning op answer) ?_ hid hexpected hphase hwaiting
  rw [howned, zero_add]
  exact h

theorem Sound.callChild (h : s.Sound frame) (hid : s.children[id]? = some child)
    {op : ChildOp} {signal : Signal} {data : Checked (List UInt8)} {expectedKind : CompletionKind}
    (hexpected : opens expectedKind = none) :
    (s.callChild id op signal data child expectedKind).Sound frame := by
  unfold OperatorSystem.callChild
  cases hshortcut : child.cls.shortcut op child.resource.state with
  | some value =>
    refine Sound.add_call ⟨.child id op, expectedKind, _, .returned (.ok (.ok value))⟩
      ?_ { expected := hexpected, fits := ?_, known := ?_ } s.activeTasks
    · have hsame : (0 : Multiset BridgeHandle) + frame = frame := zero_add frame
      show s.Sound (0 + frame)
      rw [hsame]
      exact h
    · intro answer hwaiting
      cases hwaiting
    · intro id' op' heq
      cases heq
      exact (List.getElem?_eq_some_iff.mp hid).1
  | none =>
    simp only
    by_cases hstarts : child.Starts s.isOpen signal
    · rw [if_pos hstarts]
      have hstart := owns_startTask (childArguments data (child.cls.context op) op)
        (child.cls.context op) (child.type.fallbackMessage op) s.bridge
        (s.owned + frame) (by rw [zero_add]; exact h.balanced)
      cases hresult : startTask (childArguments data (child.cls.context op) op)
          (child.cls.context op) (child.type.fallbackMessage op) s.bridge with
      | mk start bridge =>
        rw [hresult] at hstart
        cases start with
        | ok task =>
          refine Sound.runChild (.settling task) ?_ hid hexpected ?_ ?_
          · apply h.with_bridge
            show bridge.ledger.Balanced (s.owned + ({⟨.task, task⟩} + frame))
            rw [← add_assoc, add_comm s.owned, add_assoc]
            exact hstart
          · show (child.cls.runTask s.isOpen op s.calls.length signal (.ok task) (.ok ())
              child.resource).1 = _
            rw [runTask_started hstarts.1 hstarts.2.1 hstarts.2.2 task]
          · intro answer hwaiting
            cases hwaiting
        | error failure =>
          refine Sound.runChild_ended ?_ hid hexpected fun _ => ⟨failure, rfl⟩
          apply h.with_bridge
          rw [← zero_add (s.owned + frame)]
          exact hstart
    · rw [if_neg hstarts]
      exact h.runChild_ended hid hexpected fun hstart => absurd hstart hstarts

theorem Sound.cancel (h : s.Sound frame) (k : Nat) : (s.cancel k).Sound frame := by
  unfold OperatorSystem.cancel
  split
  · rename_i caller expectedKind context task hk
    refine h.of_call hk ?_ ?_
    · intro answer hwaiting
      cases hwaiting
      exact Answer.fits_of_none rfl _
    · intro rest hbalanced
      show (abortTask task s.bridge).ledger.Balanced (0 + rest)
      rw [zero_add]
      exact balanced_abortTask hbalanced
  · exact h

theorem Sound.poll (h : s.Sound frame) {task : UInt32} (hk : s.calls[k]? = some call)
    (htask : call.phase = .settling task) : (s.poll k call task).Sound frame := by
  have hpoll : ∀ rest, s.bridge.ledger.Balanced (call.phase.owned + rest) →
      (pollTask task call.expectedKind call.context s.bridge).2.ledger.Balanced
        (ownedAfter task (pollAnswer (pollTask task call.expectedKind call.context s.bridge).1) +
          rest) := by
    intro rest hbalanced
    rw [htask] at hbalanced
    exact balanced_pollTask hbalanced
  unfold OperatorSystem.poll
  cases hanswer : pollAnswer (pollTask task call.expectedKind call.context s.bridge).1 with
  | none =>
    simp only [hanswer] at hpoll ⊢
    obtain ⟨rest, howned, -⟩ := owned_call hk
    apply h.with_bridge
    have hbalanced := h.balanced
    rw [howned, add_assoc] at hbalanced ⊢
    rw [htask]
    exact hpoll _ hbalanced
  | some answer =>
    simp only [hanswer] at hpoll ⊢
    refine h.of_call hk ?_ hpoll
    intro answer' hwaiting
    cases hwaiting
    have hfits := fits_pollAnswer hanswer
    rw [(h.calls call (List.mem_of_getElem? hk)).expected] at hfits
    exact hfits

/-- A call hands on an answer that it has waited for. -/
theorem Sound.pass (h : s.Sound frame) (hk : s.calls[k]? = some call) {answer : Answer Value}
    (hanswer : call.phase.waiting = some answer) {phase : Phase Value} (activeTasks : List Nat)
    (howned : phase.owned = answer.owned)
    (hfits : ∀ answer', phase.waiting = some answer' → answer' = answer) :
    Sound { s with activeTasks, calls := s.calls.set k { call with phase } } frame := by
  refine h.of_call hk ?_ ?_
  · intro answer' hwaiting
    rw [hfits answer' hwaiting]
    exact (h.calls call (List.mem_of_getElem? hk)).fits answer hanswer
  · intro rest hbalanced
    have hsame : call.phase.owned = answer.owned := by
      cases hphase : call.phase with
      | settling task =>
        rw [hphase] at hanswer
        cases hanswer
      | settled answer' =>
        rw [hphase] at hanswer
        cases hanswer
        rfl
      | returning answer' =>
        rw [hphase] at hanswer
        cases hanswer
        rfl
      | returned answer' =>
        rw [hphase] at hanswer
        cases hanswer
    rw [howned, ← hsame]
    exact hbalanced

/-- The answer of a call on a child or of an operation carries no handle. -/
theorem Sound.quiet (h : s.Sound frame) (hk : s.calls[k]? = some call) {answer : Answer Value}
    (hanswer : call.phase.waiting = some answer) (hopened : call.caller.opened = none) :
    answer.resource = none := by
  have hfits := (h.calls call (List.mem_of_getElem? hk)).fits answer hanswer
  rw [hopened] at hfits
  exact Answer.resource_of_fits hfits

/-- A piece of a child's code ends one phase of its call and begins another, without a
handle in either. -/
theorem Sound.continueCall {α : Type} (h : s.Sound frame) (hid : s.children[id]? = some child)
    (hk : s.calls[k]? = some call) {f : Except Failure Unit → α × BrowserChildResource}
    {phase : α → Phase Value} (hf : Piece child.resource (f (.ok ())).2)
    (hbefore : call.phase.owned = 0)
    (hafter : (phase (f (.ok ())).1).owned = 0 ∧
      ∀ answer, (phase (f (.ok ())).1).waiting = some answer → answer.resource = none) :
    (s.continueCall k call id child f phase).Sound frame := by
  obtain ⟨bridge, hperform, hnext⟩ := h.perform hid call.context hf
  unfold OperatorSystem.continueCall
  rw [hperform]
  refine hnext.of_call hk ?_ ?_
  · intro answer hwaiting
    exact Answer.fits_of_none (hafter.2 answer hwaiting) _
  · intro rest hbalanced
    simp only [hbefore, hafter.1] at hbalanced ⊢
    exact hbalanced

theorem Sound.resumeTask (h : s.Sound frame) (hk : s.calls[k]? = some call)
    {answer : Answer Value} (hanswer : call.phase = .settled answer) :
    (s.resumeTask k call answer).Sound frame := by
  have hwaiting : call.phase.waiting = some answer := by
    rw [hanswer]
    rfl
  unfold OperatorSystem.resumeTask
  cases hcaller : call.caller with
  | operation =>
    have hquiet := h.quiet hk hwaiting (by rw [hcaller]; rfl)
    refine h.pass hk hwaiting _ ?_ ?_
    · exact (Answer.owned_of_none hquiet).symm
    · intro answer' hafter
      cases hafter
  | opening type =>
    refine h.pass hk hwaiting _ rfl ?_
    intro answer' hafter
    cases hafter
    rfl
  | child id op =>
    have hquiet := h.quiet hk hwaiting (by rw [hcaller]; rfl)
    have hbefore : call.phase.owned = 0 := by
      rw [hanswer]
      exact Answer.owned_of_none hquiet
    cases hid : s.children[id]? with
    | none =>
      simp only [hid]
      exact h
    | some child =>
      simp only [hid]
      apply h.continueCall hid hk piece_resumeTask hbefore
      exact returning_quiet child.cls op (resource_settledTask hquiet)

theorem Sound.resumeNext (h : s.Sound frame) (hk : s.calls[k]? = some call)
    {answer : Answer Value} (hanswer : call.phase = .returning answer)
    (hopened : call.caller.opened = none) : (s.resumeNext k call id answer).Sound frame := by
  have hquiet : answer.resource = none := by
    apply h.quiet hk _ hopened
    rw [hanswer]
    rfl
  have hbefore : call.phase.owned = 0 := by
    rw [hanswer]
    exact Answer.owned_of_none hquiet
  unfold OperatorSystem.resumeNext
  cases hid : s.children[id]? with
  | none => exact h
  | some child =>
    cases hpost : child.type.post with
    | none =>
      simp only [hpost]
      exact h
    | some post =>
      simp only [hpost]
      refine h.continueCall hid hk piece_resumeNext hbefore ⟨rfl, ?_⟩
      intro answer' hafter
      cases hafter

/-- A call is over; what it held is left to the code that ended it. -/
theorem Sound.end_call (h : s.Sound frame) (hk : s.calls[k]? = some call) (answer : Answer Value) :
    Sound { s with calls := s.calls.set k { call with phase := .returned answer } }
      (call.phase.owned + frame) where
  balanced := by
    obtain ⟨rest, howned, hset⟩ := owned_call hk
    rw [hset { call with phase := .returned answer } s.bridge s.activeTasks]
    have hbalanced := h.balanced
    rw [howned, add_assoc] at hbalanced
    show s.bridge.ledger.Balanced (0 + rest + (call.phase.owned + frame))
    rw [zero_add, add_left_comm]
    exact hbalanced
  children := h.children
  calls := by
    intro call' hcall'
    rcases List.mem_or_eq_of_mem_set hcall' with hmem | rfl
    · exact h.calls call' hmem
    · have hcall := h.calls call (List.mem_of_getElem? hk)
      refine { expected := hcall.expected, fits := ?_, known := hcall.known }
      intro answer' hwaiting
      cases hwaiting

theorem Sound.add_child (child : Child) (h : s.Sound (child.owned + frame)) (hchild : child.Sound) :
    Sound { s with children := s.children ++ [child] } frame where
  balanced := by
    rw [owned_addChild child, add_comm child.owned, add_assoc]
    exact h.balanced
  children := by
    intro child' hchild'
    rcases List.mem_append.mp hchild' with hmem | hmem
    · exact h.children child' hmem
    · rw [List.mem_singleton.mp hmem]
      exact hchild
  calls := by
    intro call hcall
    have hsound := h.calls call hcall
    refine { expected := hsound.expected, fits := hsound.fits, known := ?_ }
    intro id op heq
    have hlt := hsound.known id op heq
    show id < (s.children ++ [child]).length
    rw [List.length_append]
    omega

/-- What was opened is released, or it becomes the handle of a new child. -/
theorem Sound.resumeOpening (h : s.Sound frame) (hk : s.calls[k]? = some call) {type : ChildType}
    {answer : Answer Value} (hanswer : call.phase = .returning answer)
    (hcaller : call.caller = .opening type) : (s.resumeOpening k call type answer).Sound frame := by
  have hwaiting : call.phase.waiting = some answer := by
    rw [hanswer]
    rfl
  unfold OperatorSystem.resumeOpening
  split
  · rename_i handle
    have hfits := (h.calls call (List.mem_of_getElem? hk)).fits _ hwaiting handle rfl
    rw [hcaller] at hfits
    obtain ⟨hkind, hcode⟩ := hfits
    have hhandle : (⟨type.kind, handle.code⟩ : BridgeHandle) = handle := by
      rw [Option.some.inj hkind]
    have howned : call.phase.owned = {handle} := by
      rw [hanswer]
      rfl
    split
    · rw [hhandle]
      refine h.of_call hk ?_ ?_
      · intro answer' hafter
        cases hafter
      · intro rest hbalanced
        rw [howned] at hbalanced
        show (released handle s.bridge).ledger.Balanced (0 + rest)
        rw [zero_add]
        exact hbalanced.retire
    · have hended := h.end_call hk (.ok (.ok (.child s.children.length)))
      have hchild : Child.owned ⟨type, call.context.path, { handle := handle.code }⟩ =
          {handle} := by
        rw [← hhandle]
        exact held_of_ne hcode
      rw [howned, ← hchild] at hended
      apply hended.add_child
      intro hnew
      exact ⟨rfl, rfl⟩
  · refine h.pass hk hwaiting s.activeTasks ?_ ?_
    · rename_i hother
      apply Eq.symm
      apply Answer.owned_of_none
      match answer with
      | .ok (.ok (.resource handle)) => exact absurd rfl (hother handle)
      | .ok (.ok .undefined) | .ok (.ok (.bytes _)) | .ok (.ok (.metadata _)) => rfl
      | .ok (.ok (.entries _)) | .ok (.ok (.entry _)) | .ok (.ok (.child _)) => rfl
      | .ok (.failed e) => rfl
      | .error failure => rfl
    · intro answer' hafter
      cases hafter

/-! ## Closing -/

@[simp] theorem children_cancel (k : Nat) : (s.cancel k).children = s.children := by
  unfold cancel
  split <;> rfl

@[simp] theorem handle_cancel (k : Nat) : (s.cancel k).handle = s.handle := by
  unfold cancel
  split <;> rfl

theorem Sound.cancelActive (h : s.Sound frame) (active : Option Nat) :
    (s.cancelActive active).Sound frame := by
  cases active with
  | none => exact h
  | some k => exact h.cancel k

theorem children_cancelActive (active : Option Nat) :
    (s.cancelActive active).children = s.children := by
  cases active with
  | none => rfl
  | some k => exact children_cancel k

theorem handle_cancelActive (active : Option Nat) :
    (s.cancelActive active).handle = s.handle := by
  cases active with
  | none => rfl
  | some k => exact handle_cancel k

/-- A child that has been closed has no handle, and its close returns. -/
theorem Sound.closeChild (h : s.Sound frame) (id : Nat) :
    ∃ t, s.closeChild id = (.ok (.ok ()), t) ∧ t.Sound frame ∧ t.handle = s.handle ∧
      (∀ child, t.children[id]? = some child → child.resource.handle = 0) ∧
      ∀ j, j ≠ id → t.children[j]? = s.children[j]? := by
  unfold OperatorSystem.closeChild
  cases hid : s.children[id]? with
  | none =>
    refine ⟨s, rfl, h, rfl, ?_, fun j _ => rfl⟩
    intro child hchild
    rw [hid] at hchild
    cases hchild
  | some child =>
    simp only
    -- an already closed child has given its handle back before
    have hcancelled : ∃ m : OperatorSystem,
        (if child.resource.state = .closed then s else s.cancelActive child.resource.active) = m ∧
          m.Sound frame ∧ m.children = s.children ∧ m.handle = s.handle := by
      split
      · exact ⟨s, rfl, h, rfl, rfl⟩
      · exact ⟨_, rfl, h.cancelActive _, children_cancelActive _, handle_cancelActive _⟩
    obtain ⟨m, hm, hsound, hchildren, hhandle⟩ := hcancelled
    rw [hm]
    have hidm : m.children[id]? = some child := by
      rw [hchildren]
      exact hid
    obtain ⟨bridge, hperform, hnext⟩ := hsound.perform hidm
      { operation := child.type.closeName, path := child.path, destinationPath := none }
      (f := fun release => child.resource.closeResource release) piece_closeResource
    rw [hperform]
    have hresult : (child.resource.closeResource (.ok ())).1 = .ok (.ok ()) := by
      unfold BrowserChildResource.closeResource
      split
      · rfl
      · exact BrowserChildResource.release_of_ok _
    rw [hresult]
    refine ⟨_, rfl, hnext, hhandle, ?_, ?_⟩
    · intro child' hchild'
      have hlt : id < m.children.length := (List.getElem?_eq_some_iff.mp hidm).1
      simp only [List.getElem?_set_self hlt] at hchild'
      cases hchild'
      show (child.resource.closeResource (.ok ())).2.handle = 0
      rw [child.resource.closeResource_snd]
      split
      · rename_i hclosed
        by_contra hhandle
        have hopen := (h.children child (List.mem_of_getElem? hid) hhandle).1
        rw [hclosed] at hopen
        cases hopen
      · rfl
    · intro j hj
      simp only [List.getElem?_set_ne (Ne.symm hj), hchildren]

/-- The loop over the children ends, and those it was given have no handle any more. -/
theorem Sound.closeChildren (h : s.Sound frame) (ids : List Nat)
    (firstError : Option (ErrorOutcome JsString)) :
    ∃ t, OperatorSystem.closeChildren ids firstError s = (.ok firstError, t) ∧ t.Sound frame ∧
      t.handle = s.handle ∧ ∀ j child, t.children[j]? = some child →
        child.resource.handle = 0 ∨ (j ∉ ids ∧ s.children[j]? = some child) := by
  induction ids generalizing s with
  | nil =>
    refine ⟨s, rfl, h, rfl, ?_⟩
    intro j child hchild
    exact Or.inr ⟨List.not_mem_nil, hchild⟩
  | cons id ids ih =>
    obtain ⟨m, hclose, hm, hhandle, hzero, hother⟩ := h.closeChild id
    obtain ⟨t, hloop, ht, hhandle', hrest⟩ := ih hm
    refine ⟨t, ?_, ht, hhandle'.trans hhandle, ?_⟩
    · unfold OperatorSystem.closeChildren
      rw [hclose]
      exact hloop
    · intro j child hchild
      rcases hrest j child hchild with hdone | ⟨hnot, hsame⟩
      · exact Or.inl hdone
      · by_cases hj : j = id
        · rw [hj] at hsame
          exact Or.inl (hzero child hsame)
        · refine Or.inr ⟨?_, (hother j hj).symm.trans hsame⟩
          intro hmem
          rcases List.mem_cons.mp hmem with heq | hmem
          · exact hj heq
          · exact hnot hmem

theorem Sound.mem_registered (h : s.Sound frame) (hid : s.children[id]? = some child)
    (hhandle : child.resource.handle ≠ 0) : id ∈ s.registered := by
  refine List.mem_filter.mpr ⟨List.mem_range.mpr (List.getElem?_eq_some_iff.mp hid).1, ?_⟩
  rw [hid]
  exact (h.children child (List.mem_of_getElem? hid) hhandle).2

theorem Sound.cancelAll (h : s.Sound frame) (ks : List Nat) :
    (cancelAll ks s).Sound frame ∧ (cancelAll ks s).children = s.children ∧
      (cancelAll ks s).handle = s.handle := by
  induction ks generalizing s with
  | nil => exact ⟨h, rfl, rfl⟩
  | cons k ks ih =>
    obtain ⟨hsound, hchildren, hhandle⟩ := ih (h.cancel k)
    exact ⟨hsound, hchildren.trans (children_cancel k), hhandle.trans (handle_cancel k)⟩

/-- No child has a handle. -/
def Emptied (s : OperatorSystem) : Prop := ∀ child ∈ s.children, child.resource.handle = 0

theorem owned_clearChildren : s.clearChildren.owned = s.owned := by
  unfold owned clearChildren
  simp only [List.map_map]
  rfl

theorem Sound.clearChildren (h : s.Sound frame) (hemptied : s.Emptied) :
    s.clearChildren.Sound frame ∧ s.clearChildren.Emptied := by
  have hzero : s.clearChildren.Emptied := by
    intro child hchild
    obtain ⟨child', hmem, rfl⟩ := List.mem_map.mp hchild
    exact hemptied child' hmem
  refine ⟨⟨?_, ?_, ?_⟩, hzero⟩
  · rw [owned_clearChildren]
    exact h.balanced
  · intro child hchild hhandle
    exact absurd (hzero child hchild) hhandle
  · intro call hcall
    have hlength : s.clearChildren.children.length = s.children.length := List.length_map _
    rw [hlength]
    exact h.calls call hcall

/-- The operator's own handle goes last. -/
theorem Sound.closeOperator {code : UInt32} (h : s.Sound {⟨.operator, code⟩}) :
    ∃ t, s.closeOperator code none = (.ok (.ok ()), t) ∧ t.Sound 0 ∧ t.handle = s.handle ∧
      t.children = s.children := by
  have hbalanced := h.balanced
  rw [add_comm] at hbalanced
  have hrelease : releaseOperator code s.bridge = (.ok (), released ⟨.operator, code⟩ s.bridge) := by
    unfold releaseOperator
    rw [Call.bind_apply_ok (release_of_live hbalanced.live)]
    rfl
  unfold OperatorSystem.closeOperator
  rw [hrelease]
  refine ⟨_, rfl, ⟨?_, h.children, h.calls⟩, rfl, rfl⟩
  show (s.bridge.ledger.retire _).Balanced (s.owned + 0)
  rw [add_zero]
  exact hbalanced.retire

/-- A close returns, and neither the operator nor a child has a handle then. -/
theorem Sound.close (h : s.Sound 0) (hopen : s.handle ≠ 0) :
    ∃ t, s.close = (.ok (.ok ()), t) ∧ t.Sound 0 ∧ t.handle = 0 ∧ t.Emptied := by
  have hstart : Sound { s with handle := 0 } {⟨.operator, s.handle⟩} := by
    refine ⟨?_, h.children, h.calls⟩
    have hbalanced := h.balanced
    unfold owned at hbalanced ⊢
    rw [held_of_ne hopen, add_zero] at hbalanced
    simp only [held_zero, zero_add]
    rw [add_comm]
    exact hbalanced
  obtain ⟨m, hloop, hm, hhandle, hrest⟩ := hstart.closeChildren s.registered none
  have hemptied : m.Emptied := by
    intro child hmem
    obtain ⟨j, hj⟩ := List.mem_iff_getElem?.mp hmem
    rcases hrest j child hj with hzero | ⟨hnot, hsame⟩
    · exact hzero
    · by_contra hne
      exact hnot (h.mem_registered hsame hne)
  obtain ⟨hcleared, hzero⟩ := hm.clearChildren hemptied
  obtain ⟨hsound, hchildren, hhandle'⟩ := hcleared.cancelAll m.activeTasks
  obtain ⟨t, hclose, ht, hhandle'', hchildren'⟩ := hsound.closeOperator
  refine ⟨t, ?_, ht, hhandle''.trans (hhandle'.trans hhandle), ?_⟩
  · unfold OperatorSystem.close
    rw [if_neg hopen, hloop]
    exact hclose
  · intro child hmem
    apply hzero child
    rw [← hchildren, ← hchildren']
    exact hmem

/-! ## Steps -/

theorem opens_opening (opening : Opening) :
    opens opening.request.expectedKind = some opening.type.kind := by
  cases opening with
  | readStream path options =>
    obtain ⟨options, chunkSize⟩ := options
    cases chunkSize <;> rfl
  | writer path options => rfl
  | lister path options => rfl

theorem opens_expects {type : ChildType} {op : ChildOp} {expectedKind : CompletionKind}
    (h : type.expects op = some expectedKind) : opens expectedKind = none := by
  cases type <;> cases op <;> cases h <;> rfl

theorem sound_of_happens {e : OperatorEvent} {t : OperatorSystem} (h : s.Sound 0)
    (hstep : s.Happens e t) : t.Sound 0 := by
  cases hstep with
  | operation operation signal =>
    apply h.request operation.opens_request
    · intro id op heq
      cases heq
    · intro answer hanswer
      refine ⟨rfl, ?_⟩
      intro answer' hwaiting
      cases hwaiting
  | opening opening signal =>
    apply h.request (opens_opening opening)
    · intro id op heq
      cases heq
    · intro answer hanswer
      refine ⟨Answer.owned_of_none hanswer, ?_⟩
      intro answer' hwaiting
      cases hwaiting
      exact hanswer
  | childCall signal data hid hexpects => exact h.callChild hid (opens_expects hexpects)
  | poll hk hphase => exact h.poll hk hphase
  | abort k => exact h.cancel k
  | resumeTask hk hphase => exact h.resumeTask hk hphase
  | resumeOpening hk hcaller hphase => exact h.resumeOpening hk hphase hcaller
  | resumeNext hk hcaller hphase =>
    apply h.resumeNext hk hphase
    rw [hcaller]
    rfl
  | closeChild id =>
    obtain ⟨m, hclose, hm, -⟩ := h.closeChild id
    rw [hclose]
    exact hm
  | close =>
    by_cases hopen : s.handle = 0
    · unfold OperatorSystem.close
      rw [if_pos hopen]
      exact h
    · obtain ⟨m, hclose, hm, -⟩ := h.close hopen
      rw [hclose]
      exact hm

theorem sound_opened {code : UInt32} (hcode : code ≠ 0) : (opened code).Sound 0 where
  balanced := by
    refine ⟨List.nodup_singleton _, ?_⟩
    unfold owned
    rw [add_zero]
    show _ = 0 + (held .operator code + (0 + 0))
    rw [held_of_ne hcode, add_zero, add_zero, zero_add]
    rfl
  children := by
    intro child hchild
    cases hchild
  calls := by
    intro call hcall
    cases hcall

end OperatorSystem

end OpendalMbt.Browser
