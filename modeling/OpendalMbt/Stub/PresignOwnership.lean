import OpendalMbt.Stub.Presign

/-!
# Who owns a presigned request

A request is owned by the result, then by the request object, and is gone once it was freed.

* `accounted_operatorPresign`: what a new result owns;
* `triple_resultTakePresignedRequest`: the request moves, or the result keeps it;
* `accounted_resultRelease`, `accounted_presignedRequestRelease`: what is freed.
-/

namespace OpendalMbt.Stub.PresignWorld

open Native Transition

variable {lib : PresignLibrary} {ε : Type} {w : PresignWorld}

/-- The object behind a pointer. -/
def behind {α : Type} (pointer : Option α) (handle : PresignHandle) : Multiset PresignHandle :=
  pointer.elim 0 fun _ => {handle}

def owned (w : PresignWorld) : Multiset PresignHandle :=
  behind w.result.error .error + behind w.result.presignedRequest .request +
    behind w.request .request

/-- What the library has made is owned or was freed once. -/
def Accounted (w : PresignWorld) : Prop := w.ledger.Balanced w.owned

/-- Nothing is owned any more. -/
structure Settled (w : PresignWorld) : Prop where
  accounted : w.Accounted
  error : w.result.error = none
  presignedRequest : w.result.presignedRequest = none
  request : w.request = none

/-- Something is owned only while the library is there to free it. -/
structure Pending (lib : PresignLibrary) (w : PresignWorld) : Prop where
  accounted : w.Accounted
  library : lib.presignLoaded = true ∨
    w.result.error = none ∧ w.result.presignedRequest = none ∧ w.request = none

/-- The result owns nothing. -/
def Released (w : PresignWorld) : Prop :=
  w.result.error = none ∧ w.result.presignedRequest = none

theorem Settled.balanced (h : w.Settled) : w.ledger.Balanced 0 := by
  have haccounted := h.accounted
  unfold Accounted owned at haccounted
  rw [h.error, h.presignedRequest, h.request] at haccounted
  exact haccounted

/-! ## The entries -/

theorem balanced_replied (reply : PresignReply) :
    (replied reply).Balanced (behind reply.error .error + behind reply.request .request) := by
  unfold replied behind
  constructor
  · cases reply.error with
    | none => cases reply.request <;> simp
    | some error => cases reply.request <;> simp
  · cases reply.error with
    | none => cases reply.request <;> rfl
    | some error => cases reply.request <;> rfl

theorem accounted_early {result : PresignResult} (herror : result.error = none)
    (hrequest : result.presignedRequest = none) : (early result).Accounted := by
  unfold Accounted owned early
  rw [herror, hrequest]
  exact { distinct := List.nodup_nil, covered := rfl }

theorem pending_early {result : PresignResult} (herror : result.error = none)
    (hrequest : result.presignedRequest = none) : Pending lib (early result) where
  accounted := accounted_early herror hrequest
  library := .inr ⟨herror, hrequest, rfl⟩

/-- A new result owns what the reply has handed over. -/
theorem pending_operatorPresign (lib : PresignLibrary) (operatorOpen : Bool)
    (reply : CallResult PresignReply) : Pending lib (operatorPresign lib operatorOpen reply) := by
  unfold operatorPresign
  cases hload : lib.loadPresignApi with
  | error status => exact pending_early rfl rfl
  | ok api =>
    dsimp only
    split_ifs
    · exact pending_early rfl rfl
    · cases reply with
      | error failure =>
        cases failure with
        | abiMismatch => exact pending_early rfl rfl
        | error error => exact pending_early rfl rfl
      | ok reply =>
        refine ⟨?_, .inl ?_⟩
        · have hreplied := balanced_replied reply
          rw [← add_zero (behind reply.error .error + _)] at hreplied
          exact hreplied
        · rw [PresignLibrary.presignLoaded, hload]
          rfl

/-- The request object is made by the take. -/
theorem request_operatorPresign (operatorOpen : Bool) (reply : CallResult PresignReply) :
    (operatorPresign lib operatorOpen reply).request = none := by
  unfold operatorPresign
  cases lib.loadPresignApi with
  | error status => rfl
  | ok api =>
    dsimp only
    split_ifs
    · rfl
    · cases reply with
      | error failure => cases failure <;> rfl
      | ok reply => rfl

/-! ## Frees -/

theorem accounted_freeRequest (h : w.Accounted) : (freeRequest lib w).Accounted := by
  unfold freeRequest
  cases hrequest : w.request with
  | none => exact h
  | some request =>
    dsimp only
    split_ifs
    · unfold Accounted owned at h
      rw [hrequest, add_comm] at h
      have hfreed := Ledger.Balanced.retire h
      rw [← add_zero (behind w.result.error .error + _)] at hfreed
      exact hfreed
    · exact h

theorem accounted_freeResultError (h : w.Accounted) : (freeResultError w).Accounted := by
  unfold freeResultError
  cases herror : w.result.error with
  | none => exact h
  | some error =>
    unfold Accounted owned at h
    rw [herror, add_assoc] at h
    have hfreed := Ledger.Balanced.retire h
    rw [← zero_add (behind w.result.presignedRequest .request)] at hfreed
    exact hfreed

theorem accounted_freeResultRequest (h : w.Accounted) :
    (freeResultRequest lib w).Accounted := by
  unfold freeResultRequest
  cases hrequest : w.result.presignedRequest with
  | none => exact h
  | some request =>
    dsimp only
    split_ifs
    · unfold Accounted owned at h
      rw [hrequest, add_comm (behind w.result.error .error), add_assoc] at h
      have hfreed := Ledger.Balanced.retire h
      rw [← add_zero (behind w.result.error .error)] at hfreed
      exact hfreed
    · exact h

theorem accounted_resultRelease (h : w.Accounted) : (resultRelease lib w).Accounted := by
  unfold resultRelease releaseResultPayload
  split_ifs
  · exact h
  · exact accounted_freeResultRequest (accounted_freeResultError h)

theorem freeResultError_eq (w : PresignWorld) :
    (freeResultError w).result = { w.result with error := none } ∧
      (freeResultError w).request = w.request := by
  obtain ⟨⟨status, localError, error, presignedRequest⟩, request, viewed, ledger⟩ := w
  cases error with
  | none => exact ⟨rfl, rfl⟩
  | some error => exact ⟨rfl, rfl⟩

theorem freeResultRequest_eq (hfree : lib.canFreeRequest = true) (w : PresignWorld) :
    (freeResultRequest lib w).result = { w.result with presignedRequest := none } ∧
      (freeResultRequest lib w).request = w.request := by
  obtain ⟨⟨status, localError, error, presignedRequest⟩, request, viewed, ledger⟩ := w
  cases presignedRequest with
  | none => exact ⟨rfl, rfl⟩
  | some presignedRequest =>
    unfold freeResultRequest
    dsimp only
    rw [if_pos hfree]
    exact ⟨rfl, rfl⟩

/-- The result is emptied, and the request object is left alone. -/
theorem resultRelease_eq (hloaded : lib.presignLoaded = true) (w : PresignWorld) :
    (resultRelease lib w).result = { w.result with error := none, presignedRequest := none } ∧
      (resultRelease lib w).request = w.request := by
  have hfree := PresignLibrary.canFreeRequest_of_presignLoaded hloaded
  obtain ⟨herror, hkept⟩ := freeResultError_eq w
  obtain ⟨hrequest, hkept'⟩ := freeResultRequest_eq hfree (freeResultError w)
  unfold resultRelease releaseResultPayload
  rw [PresignLibrary.loaded_of_presignLoaded hloaded, Bool.not_true, if_neg Bool.false_ne_true,
    hrequest, hkept', herror, hkept]
  exact ⟨rfl, rfl⟩

/-- A result that owns nothing is left alone. -/
theorem resultRelease_released (h : w.Released) : resultRelease lib w = w := by
  obtain ⟨⟨status, localError, error, presignedRequest⟩, request, viewed, ledger⟩ := w
  obtain ⟨rfl, rfl⟩ := h
  unfold resultRelease releaseResultPayload
  split_ifs
  · rfl
  · rfl

theorem pending_resultRelease (h : Pending lib w) :
    Pending lib (resultRelease lib w) ∧ (resultRelease lib w).Released ∧
      (resultRelease lib w).request = w.request := by
  have haccounted : (resultRelease lib w).Accounted := accounted_resultRelease h.accounted
  rcases h.library with hloaded | ⟨herror, hrequest, hnone⟩
  · obtain ⟨hresult, hkept⟩ := resultRelease_eq hloaded w
    refine ⟨⟨haccounted, .inl hloaded⟩, ⟨?_, ?_⟩, hkept⟩
    · rw [hresult]
    · rw [hresult]
  · have hsame : resultRelease lib w = w := resultRelease_released ⟨herror, hrequest⟩
    rw [hsame]
    exact ⟨h, ⟨herror, hrequest⟩, rfl⟩

/-- After both are released nothing is owned. -/
theorem settled_presignedRequestRelease (h : Pending lib w) (hreleased : w.Released) :
    Settled (presignedRequestRelease lib w) := by
  have haccounted : (freeRequest lib w).Accounted := accounted_freeRequest h.accounted
  unfold presignedRequestRelease
  obtain ⟨herror, hpresigned⟩ := hreleased
  cases hrequest : w.request with
  | none =>
    have hsame : freeRequest lib w = w := by
      unfold freeRequest
      rw [hrequest]
    rw [hsame] at haccounted ⊢
    exact ⟨haccounted, herror, hpresigned, hrequest⟩
  | some request =>
    have hloaded : lib.presignLoaded = true := by
      rcases h.library with hloaded | ⟨-, -, hnone⟩
      · exact hloaded
      · rw [hnone] at hrequest
        cases hrequest
    have hfreed : freeRequest lib w =
        { w with request := none, ledger := w.ledger.retire .request } := by
      unfold freeRequest
      rw [hrequest]
      dsimp only
      rw [if_pos hloaded]
    rw [hfreed] at haccounted ⊢
    exact ⟨haccounted, herror, hpresigned, rfl⟩

/-- The finalizers find nothing left to free. -/
theorem finalize_settled (h : w.Settled) :
    resultFinalize lib w = w ∧ presignedRequestFinalize lib w = w := by
  constructor
  · exact resultRelease_released ⟨h.error, h.presignedRequest⟩
  · unfold presignedRequestFinalize freeRequest
    rw [h.request]

/-! ## The take -/

/-- Either the request has moved, or the status is wrong and nothing has. -/
structure Taken (lib : PresignLibrary) (w : PresignWorld) : Prop extends Pending lib w where
  refused : w.result.status ≠ .ok → w.request = none

theorem triple_resultTakePresignedRequest {E : ε → PresignWorld → Prop} :
    Call.Triple (fun w => Pending lib w ∧ w.request = none)
      (resultTakePresignedRequest lib : PresignCall ε Unit) (fun _ => Taken lib) E := by
  intro w ⟨h, hnone⟩
  have hmismatch : ∀ n, Taken lib { w with
      viewed := n, result := { w.result with status := .abiMismatch } } :=
    fun n => ⟨⟨h.accounted, h.library⟩, fun _ => hnone⟩
  unfold resultTakePresignedRequest
  cases hpresigned : w.result.presignedRequest with
  | none => exact hmismatch w.viewed
  | some request =>
    dsimp only
    split_ifs with hstatus
    · exact hmismatch w.viewed
    · obtain ⟨valid, n, hvalid⟩ := looks_validatePresignedRequestSnapshot (ε := ε) lib request w
      rw [Call.bind_apply_ok hvalid]
      cases valid with
      | false => exact hmismatch n
      | true =>
        refine ⟨⟨?_, .inl ?_⟩, ?_⟩
        · have haccounted := h.accounted
          unfold Accounted owned at haccounted
          rw [hpresigned, hnone, add_right_comm] at haccounted
          exact haccounted
        · rcases h.library with hloaded | ⟨-, hempty, -⟩
          · exact hloaded
          · rw [hempty] at hpresigned
            cases hpresigned
        · intro hrefused
          exact absurd hrefused hstatus

end OpendalMbt.Stub.PresignWorld
