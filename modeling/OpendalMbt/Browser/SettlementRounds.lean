import OpendalMbt.Browser.Settlement

/-!
# Rounds of a call in the handle model

`pollTask` of the handle model is one round of `poll`, with the releases in a ledger. Here the
facade of the handle model stands behind `settleTask`, and both leave the same bridge and settle
the Promise with the same answer (`poll_pollTask`).
-/

namespace OpendalMbt.Browser

open Codec Bridge Transition

namespace Settlement

open HandleCall

variable (expectedKind : CompletionKind) (context : Context)

def thrownOf : Failure → Thrown Failure
  | .outcome error => .outcome error
  | failure => .other failure

/-- The facade of the handle model, for one call of `settleTask`. -/
def handleTasks : TaskBridge HandleBridge Failure Value where
  taskState _ b := (((ask b).1.toOption).getD 0, (ask b).2)
  taskTake _ b := (((make .completion b).1.toOption).getD 0, (make .completion b).2)
  taskCancel _ b := (ask b).2
  taskRelease task b := released ⟨.task, task⟩ b
  clearLastError b := b
  takeLastError fallbackMessage b :=
    ((HandleCall.takeLastError context fallbackMessage b).1.mapError thrownOf,
      (HandleCall.takeLastError context fallbackMessage b).2)
  settleCompletion completion b :=
    ((HandleCall.settleCompletion completion context expectedKind b).1.mapError thrownOf,
      (HandleCall.settleCompletion completion context expectedKind b).2)
  contractFailure message := .contract { message }

/-- What a round settles the Promise with, in the terms of a call. -/
def settledWith (out : Except Failure (Option (Outcome Value))) :
    List (Except (Thrown Failure) (Outcome Value)) :=
  ((pollAnswer out).map fun answer => answer.mapError thrownOf).toList

/-- The two models of a round agree. -/
def Agrees (out : Except Failure (Option (Outcome Value)) × HandleBridge)
    (t : Settlement HandleBridge Failure Value) : Prop :=
  t.bridge = out.2 ∧ t.promise = settledWith out.1

variable {signal : SettleSignal Failure} {task : TaskHandle}
  {s u : Settlement HandleBridge Failure Value}

theorem settledWith_error (failure : Failure) :
    settledWith (.error failure) = [caughtAnswer (thrownOf failure)] := by
  cases failure <;> rfl

/-- The bridge and the Promise of a call that has settled. -/
theorem settle_result (hu : Released signal task u) (hvalid : signal.Valid)
    (answer : Except (Thrown Failure) (Outcome Value)) :
    (settle signal answer u).2.bridge = u.bridge ∧ (settle signal answer u).2.promise = [answer] := by
  obtain ⟨t, hsettle, -, -, hpromise, -, -, -, -, -, -, hbridge⟩ :=
    settle_eq hvalid hu.settled answer
  rw [hsettle]
  rw [hu.promise] at hpromise
  exact ⟨hbridge, hpromise⟩

theorem poll_of_error (hsettled : s.settled = false) (hvalid : signal.Valid) {failure : Failure}
    (hbody : pollBody (handleTasks expectedKind context) signal context s =
      (.error (thrownOf failure), u))
    (hu : Released signal task (releaseTask (handleTasks expectedKind context) u)) :
    Agrees (.error failure, (releaseTask (handleTasks expectedKind context) u).bridge)
      (poll (handleTasks expectedKind context) signal context s).2 := by
  unfold Agrees poll
  rw [if_neg (by simp [hsettled]), hbody, settledWith_error]
  dsimp only
  rw [pollCatch_eq]
  exact settle_result hu hvalid _

theorem poll_of_ok (hsettled : s.settled = false)
    (hbody : pollBody (handleTasks expectedKind context) signal context s = (.ok (), u)) :
    (poll (handleTasks expectedKind context) signal context s).2 = u := by
  unfold poll
  rw [if_neg (by simp [hsettled]), hbody]

theorem poll_of_settle (hsettled : s.settled = false) (hvalid : signal.Valid)
    {outcome : Outcome Value} (hu : Released signal task u)
    (hbody : pollBody (handleTasks expectedKind context) signal context s =
      finish signal outcome u) :
    Agrees (.ok (some outcome), u.bridge)
      (poll (handleTasks expectedKind context) signal context s).2 := by
  obtain ⟨t, hsettle, -⟩ := settle_eq hvalid hu.settled (.ok outcome)
  have hresult := settle_result hu hvalid (.ok outcome)
  unfold finish at hbody
  rw [hsettle] at hbody hresult
  rw [poll_of_ok expectedKind context hsettled hbody]
  exact hresult

theorem ask_eq (b : HandleBridge) : ∃ n b', ask b = (.ok n, b') := by
  unfold ask
  split
  · exact ⟨_, _, rfl⟩
  · exact ⟨_, _, rfl⟩

theorem make_eq (kind : ResourceKind) (b : HandleBridge) : ∃ code b', make kind b = (.ok code, b') := by
  obtain ⟨n, b', hask⟩ := ask_eq b
  unfold make
  rw [Call.bind_apply_ok hask]
  unfold given
  split
  · exact ⟨_, _, rfl⟩
  · exact ⟨_, _, rfl⟩

theorem released_bridge (hu : Holding signal task u) :
    (releaseTask (handleTasks expectedKind context) u).bridge =
      released ⟨.task, task.code⟩ u.bridge := by
  unfold releaseTask
  rw [if_neg (by rw [hu.owned]; exact task.code_ne_zero), hu.owned]
  rfl

theorem release_bind {α : Type} (f : Int → HandleCall α) (handle : BridgeHandle)
    (b : HandleBridge) : ∃ status, (release handle >>= f) b = f status (released handle b) := by
  by_cases hlive : b.ledger.Live handle
  · exact ⟨0, Call.bind_apply_ok (if_pos hlive)⟩
  · exact ⟨1, Call.bind_apply_ok (if_neg hlive)⟩

/-- The part of `pollTask` for a task that is ready. -/
def takeReadyTask (task : UInt32) : HandleCall (Option (Outcome Value)) := do
  let completion ← Call.onError
    (do
      let code ← make .completion
      expectHandle code context "could not take a ready OpenDAL task")
    (released ⟨.task, task⟩)
  let _ ← release ⟨.task, task⟩
  let outcome ← HandleCall.settleCompletion completion context expectedKind
  pure (some outcome)

theorem takeReady_pollTask (hu : Held signal task u) (hvalid : signal.Valid)
    (hsettled : s.settled = false)
    (hbody : pollBody (handleTasks expectedKind context) signal context s =
      takeReady (handleTasks expectedKind context) signal u) :
    Agrees (takeReadyTask expectedKind context task.code u.bridge)
      (poll (handleTasks expectedKind context) signal context s).2 := by
  obtain ⟨code, b, hmake⟩ := make_eq .completion u.bridge
  obtain ⟨v, hv, hb, htask⟩ : ∃ v : Settlement HandleBridge Failure Value,
      Holding signal task v ∧ v.bridge = b ∧ taskTake (handleTasks expectedKind context)
        (clearLastError (handleTasks expectedKind context) u) = (code, v) := by
    refine ⟨{ u with
      bridge := b
      calls := u.calls ++ [(.take, u.ownedTask)]
      taken := if code = 0 then u.taken else u.taken ++ [code] }, ?_, rfl, ?_⟩
    · exact ⟨hu.settled, hu.owned, hu.promise, hu.call .take (by simp), hu.armed, hu.listener⟩
    · unfold taskTake clearLastError handleTasks
      simp [hmake, Except.toOption]
  unfold takeReady at hbody
  rw [htask] at hbody
  dsimp only at hbody
  have hreleased := hv.releaseTask (handleTasks expectedKind context)
  have hbridge := released_bridge expectedKind context hv
  rw [hb] at hbridge
  by_cases hcode : code = 0
  · rw [if_pos hcode] at hbody
    cases hlast : HandleCall.takeLastError context "could not take a ready OpenDAL task" b with
    | mk result b' =>
      have hthrown : takeLastError (handleTasks expectedKind context)
          "could not take a ready OpenDAL task" v =
            (result.mapError thrownOf, { v with bridge := b' }) := by
        unfold takeLastError handleTasks
        simp [hb, hlast]
      have hholding : Holding signal task { v with bridge := b' } :=
        ⟨hv.settled, hv.owned, hv.promise, hv.calls, hv.armed, hv.listener⟩
      have hbridge' := released_bridge expectedKind context hholding
      rw [hthrown] at hbody
      -- either way an error is thrown
      have hagrees (failure : Failure)
          (hbody : pollBody (handleTasks expectedKind context) signal context s =
            (.error (thrownOf failure), { v with bridge := b' }))
          (htaken : (do
              let code ← make .completion
              expectHandle code context "could not take a ready OpenDAL task" : HandleCall UInt32)
            u.bridge = (.error failure, b')) :
          Agrees (takeReadyTask expectedKind context task.code u.bridge)
            (poll (handleTasks expectedKind context) signal context s).2 := by
        have hcaught := poll_of_error expectedKind context hsettled hvalid hbody
          (hholding.releaseTask _)
        have honError : (Call.onError
            (do
              let code ← make .completion
              expectHandle code context "could not take a ready OpenDAL task")
            (released ⟨.task, task.code⟩)) u.bridge =
              (.error failure, released ⟨.task, task.code⟩ b') := by
          unfold Call.onError
          rw [htaken]
        rw [hbridge'] at hcaught
        unfold takeReadyTask
        rw [Call.bind_apply_error honError]
        exact hcaught
      have hraise : (do
          let code ← make .completion
          expectHandle code context "could not take a ready OpenDAL task" : HandleCall UInt32)
        u.bridge = raise HandleCall.takeLastError context "could not take a ready OpenDAL task" b := by
        rw [Call.bind_apply_ok hmake]
        unfold expectHandle
        rw [if_pos hcode]
      cases result with
      | error failure =>
        exact hagrees failure hbody (hraise.trans (Call.bind_apply_error hlast))
      | ok error =>
        exact hagrees (.outcome error) hbody (hraise.trans (Call.bind_apply_ok hlast))
  · rw [if_neg hcode] at hbody
    have honError : (Call.onError
        (do
          let code ← make .completion
          expectHandle code context "could not take a ready OpenDAL task")
        (released ⟨.task, task.code⟩)) u.bridge = (.ok code, b) := by
      unfold Call.onError
      rw [Call.bind_apply_ok hmake]
      unfold expectHandle
      rw [if_neg hcode]
      rfl
    obtain ⟨status, hrelease⟩ := release_bind
      (fun _ => do
        let outcome ← HandleCall.settleCompletion code context expectedKind
        pure (some outcome)) ⟨.task, task.code⟩ b
    unfold takeReadyTask
    rw [Call.bind_apply_ok honError, hrelease]
    cases hcompletion : HandleCall.settleCompletion code context expectedKind
        (released ⟨.task, task.code⟩ b) with
    | mk result b' =>
      have hsettling : settleCompletion (handleTasks expectedKind context) code
          (Settlement.releaseTask (handleTasks expectedKind context) v) =
            (result.mapError thrownOf,
              { Settlement.releaseTask (handleTasks expectedKind context) v with
                bridge := b'
                handed := (Settlement.releaseTask (handleTasks expectedKind context) v).handed ++
                  [code] }) := by
        unfold settleCompletion
        rw [hbridge]
        simp [handleTasks, hcompletion]
      have hafter : Released signal task
          (settleCompletion (handleTasks expectedKind context) code
            (Settlement.releaseTask (handleTasks expectedKind context) v)).2 :=
        hreleased.settleCompletion _ code
      rw [hsettling] at hbody hafter
      cases result with
      | error failure =>
        have hidle := hafter.releaseTask (handleTasks expectedKind context)
        have hcaught := poll_of_error expectedKind context hsettled hvalid hbody
          (by rw [hidle]; exact hafter)
        rw [hidle] at hcaught
        rw [Call.bind_apply_error hcompletion]
        exact hcaught
      | ok outcome =>
        rw [Call.bind_apply_ok hcompletion]
        exact poll_of_settle expectedKind context hsettled hvalid hafter hbody

/-- A round of `poll` is a round of the handle model: it leaves the same bridge and settles the
Promise with the same answer, if with any. -/
theorem poll_pollTask (h : Held signal task s) (hvalid : signal.Valid) :
    Agrees (pollTask task.code expectedKind context s.bridge)
      (poll (handleTasks expectedKind context) signal context s).2 := by
  obtain ⟨n, b, hask⟩ := ask_eq s.bridge
  obtain ⟨u, hu, hb, hstate⟩ : ∃ u : Settlement HandleBridge Failure Value,
      Held signal task u ∧ u.bridge = b ∧ taskState (handleTasks expectedKind context)
        (clearLastError (handleTasks expectedKind context) s) = (n, u) := by
    refine ⟨{ s with bridge := b, calls := s.calls ++ [(.state, s.ownedTask)] }, ?_, rfl, ?_⟩
    · exact ⟨⟨h.settled, h.owned, h.promise, h.call .state (by simp), h.armed, h.listener⟩,
        h.taken, h.handed⟩
    · unfold taskState clearLastError handleTasks
      simp [hask, Except.toOption]
  have hreleased := hu.toHolding.releaseTask (handleTasks expectedKind context)
  have hbridge := released_bridge expectedKind context hu.toHolding
  have hbody : pollBody (handleTasks expectedKind context) signal context s =
      pollBody (handleTasks expectedKind context) signal context s := rfl
  conv_rhs at hbody => unfold pollBody
  rw [hstate] at hbody
  rw [hb] at hbridge
  unfold pollTask
  rw [Call.bind_apply_ok hask]
  dsimp only at hbody
  by_cases hpending : n = taskPending
  · rw [if_pos hpending] at hbody ⊢
    rw [poll_of_ok expectedKind context h.settled hbody]
    exact ⟨hb, hu.promise⟩
  rw [if_neg hpending] at hbody ⊢
  by_cases hcancelled : n = taskCancelled
  · rw [if_pos hcancelled] at hbody ⊢
    obtain ⟨status, hrelease⟩ := release_bind
      (fun _ => pure (some (Outcome.failed (cancelledError context)))) ⟨.task, task.code⟩ b
    rw [hrelease, ← hbridge]
    exact poll_of_settle expectedKind context h.settled hvalid hreleased hbody
  rw [if_neg hcancelled] at hbody ⊢
  by_cases hzero : n = 0
  · rw [if_pos hzero] at hbody ⊢
    cases htake : HandleCall.takeLastError context "could not poll an OpenDAL task" b with
    | mk result b' =>
      have hthrown : takeLastError (handleTasks expectedKind context)
          "could not poll an OpenDAL task" u =
            (result.mapError thrownOf, { u with bridge := b' }) := by
        unfold takeLastError handleTasks
        simp [hb, htake]
      have hheld := hu.bridge b'
      have hbridge' := released_bridge expectedKind context hheld.toHolding
      rw [hthrown] at hbody
      cases result with
      | error failure =>
        have hcaught := poll_of_error expectedKind context h.settled hvalid hbody
          (hheld.toHolding.releaseTask _)
        rw [hbridge'] at hcaught
        have honError : (Call.onError
            (HandleCall.takeLastError context "could not poll an OpenDAL task")
            (released ⟨.task, task.code⟩)) b = (.error failure, released ⟨.task, task.code⟩ b') := by
          unfold Call.onError
          rw [htake]
        rw [Call.bind_apply_error honError]
        exact hcaught
      | ok error =>
        have honError : (Call.onError
            (HandleCall.takeLastError context "could not poll an OpenDAL task")
            (released ⟨.task, task.code⟩)) b = (.ok error, b') := by
          unfold Call.onError
          rw [htake]
        obtain ⟨status, hrelease⟩ := release_bind
          (fun _ => pure (some (Outcome.failed error))) ⟨.task, task.code⟩ b'
        rw [Call.bind_apply_ok honError, hrelease]
        have hsettled := poll_of_settle expectedKind context h.settled hvalid
          (hheld.toHolding.releaseTask _) hbody
        rw [hbridge'] at hsettled
        exact hsettled
  rw [if_neg hzero] at hbody ⊢
  by_cases hready : n = taskReady
  · have hconsumed : ¬ n = taskConsumed := by
      rw [hready]
      decide
    rw [if_neg hconsumed, if_neg (not_not.mpr hready)] at hbody
    rw [if_neg (not_not.mpr hready), ← hb]
    exact takeReady_pollTask expectedKind context hu hvalid h.settled hbody
  rw [if_pos hready] at hbody ⊢
  have hidle : Settlement.releaseTask (handleTasks expectedKind context)
      (Settlement.releaseTask (handleTasks expectedKind context) u) =
        Settlement.releaseTask (handleTasks expectedKind context) u := hreleased.releaseTask _
  -- the task is released before the contract failure is thrown
  have hfailed (message : String)
      (hthrown : pollBody (handleTasks expectedKind context) signal context s =
        (.error (thrownOf (.contract { message })),
          Settlement.releaseTask (handleTasks expectedKind context) u)) :
      Agrees ((do
          let _ ← release ⟨.task, task.code⟩
          HandleCall.fail message : HandleCall (Option (Outcome Value))) b)
        (poll (handleTasks expectedKind context) signal context s).2 := by
    have hcaught := poll_of_error expectedKind context h.settled hvalid hthrown
      (by rw [hidle]; exact hreleased)
    rw [hidle, hbridge] at hcaught
    obtain ⟨status, hrelease⟩ := release_bind
      (fun _ => (HandleCall.fail message : HandleCall (Option (Outcome Value)))) ⟨.task, task.code⟩ b
    rw [hrelease]
    exact hcaught
  by_cases hconsumed : n = taskConsumed
  · rw [if_pos hconsumed] at hbody ⊢
    exact hfailed _ hbody
  · rw [if_neg hconsumed] at hbody ⊢
    exact hfailed _ hbody

end Settlement

end OpendalMbt.Browser
