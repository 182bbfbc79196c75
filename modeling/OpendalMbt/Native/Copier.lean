import OpendalMbt.Native.SyncReplies

/-!
# The copier

`copier_next`, `copier_finish` and `copier_abort` on one `CopierV1`, and what they guarantee
over every interleaving in which no panic leaves an inner step (`copier_protocol`). Beyond
what holds of the writer:

* the values of `next` are those of the inner copier, each answered by the one call that
  took it;
* the end of the copy keeps the inner copier until a `finish` takes it, and meanwhile `next`
  is answered END and `abort` is refused.
-/

namespace OpendalMbt.Native

open Transition

inductive CopierStateV1 (I : Type) where
  | open (inner : I)
  | busy
  | end (inner : I)
  | finished | aborted | failed
  deriving DecidableEq, Repr

inductive CopierCall where
  | next | finish | abort
  deriving DecidableEq, Repr

variable {I M : Type}

def copierLockMessage : String := "copier state lock was poisoned"

def copierClosed : CallFailure := resourceClosed "copier is closed"

def failCopierState (copier : Monitor (CopierStateV1 I)) : Monitor (CopierStateV1 I) :=
  copier.fail .failed

def copierPoisonFailure (copier : Monitor (CopierStateV1 I)) :
    Monitor (CopierStateV1 I) × CallFailure :=
  copier.poisonFailure .failed copierLockMessage

def setCopierState (next : CopierStateV1 I) (copier : Monitor (CopierStateV1 I)) :
    Monitor (CopierStateV1 I) × CallResult Unit :=
  copier.setState .failed copierLockMessage next

/-- One pass of `take_copier_for_call`; the order of the guards is the source's. -/
def takeCopierForCall (call : CopierCall) (copier : Monitor (CopierStateV1 I)) :
    Monitor (CopierStateV1 I) × TakeResult I :=
  if copier.poisoned then
    let (copier, failure) := copierPoisonFailure copier
    (copier, .refused failure)
  else
    match copier.state, call with
    | .open inner, _ => ({ copier with state := .busy }, .acquired inner)
    | .end inner, .finish => ({ copier with state := .busy }, .acquired inner)
    | .end _, .next => (copier, .already)
    | .aborted, .abort => (copier, .already)
    | .busy, _ => (copier, .wait)
    | .end _, _ | .finished, _ | .aborted, _ | .failed, _ => (copier, .refused copierClosed)

/-- What the inner step of a copier call returns; a progress is a `usize`. -/
inductive CopierRaw (M : Type) where
  | next (result : StepResult (Option Nat))
  | finish (result : StepResult M)
  | abort (result : StepResult Unit)
  deriving DecidableEq, Repr

inductive CopierValue (M : Type) where
  | progress (bytes : UInt64)
  | end
  | finished (metadata : M)
  | aborted
  deriving DecidableEq, Repr

/-- The conversion of a progress to the `u64` of the ABI. -/
def copierProgress : Option Nat → StepResult (CopierValue M)
  | some value =>
    if value < UInt64.size then .ok (.progress (UInt64.ofNat value))
    else .error (bufferTooLarge "copier progress is not representable as UInt64")
  | none => .ok .end

def CopierCall.stepResult : CopierCall → CopierRaw M → Option (StepResult (CopierValue M))
  | .next, .next result => some (result.bind copierProgress)
  | .finish, .finish result => some (result.map .finished)
  | .abort, .abort result => some (result.map fun _ => .aborted)
  | _, _ => none

/-- The state that `copier_next`, `copier_finish` and `copier_abort` store after success. -/
def CopierValue.next : CopierValue M → I → CopierStateV1 I
  | .progress _, inner => .open inner
  | .end, inner => .end inner
  | .finished _, _ => .finished
  | .aborted, _ => .aborted

def CopierValue.proceeds : CopierValue M → Bool
  | .progress _ | .end => true
  | .finished _ | .aborted => false

def CopierValue.reply : CopierValue M → Reply (CopierValue M)
  | .progress bytes => { status := .ok, value := some (.progress bytes) }
  | .end => { status := .end }
  | .finished metadata => { status := .ok, value := some (.finished metadata) }
  | .aborted => { status := .ok }

/-- `take_copier_for_call` returns `None` to a `next` at the end and to a repeated abort. -/
def CopierCall.already : CopierCall → Option Status
  | .next => some .end
  | .finish => none
  | .abort => some .ok

def CopierStateV1.view : CopierStateV1 I → SyncView I
  | .open inner | .end inner => .stored inner
  | .busy => .busy
  | .finished | .aborted => .over
  | .failed => .failed

def copierCell (I M : Type) : SyncCell I where
  State := CopierStateV1 I
  Call := CopierCall
  Raw := CopierRaw M
  Value := CopierValue M
  view := CopierStateV1.view
  fresh := .open
  failed := .failed
  take := takeCopierForCall
  set := setCopierState
  fail := failCopierState
  stepResult := CopierCall.stepResult
  next := CopierValue.next
  proceeds := CopierValue.proceeds
  reply := CopierValue.reply
  already := CopierCall.already
  view_fresh _ := rfl
  view_failed := rfl
  view_next value inner := by cases value <;> rfl
  take_poisoned call m h := by
    unfold takeCopierForCall
    rw [if_pos h]
    exact ⟨rfl, _, rfl⟩
  take_busy call m h hbusy := by
    unfold takeCopierForCall
    rw [if_neg (by simp [h])]
    obtain ⟨state, poisoned, changed⟩ := m
    cases state <;> cases hbusy
    rfl
  take_free call m h hfree := by
    unfold takeCopierForCall
    rw [if_neg (by simp [h])]
    obtain ⟨state, poisoned, changed⟩ := m
    cases state with
    | «open» inner => exact .inl ⟨inner, .busy, rfl, rfl, rfl⟩
    | busy => exact absurd rfl hfree
    | finished => exact .inr (.inr ⟨_, rfl⟩)
    | failed => exact .inr (.inr ⟨_, rfl⟩)
    | «end» inner =>
      cases call with
      | next => exact .inr (.inl ⟨rfl, rfl⟩)
      | finish => exact .inl ⟨inner, .busy, rfl, rfl, rfl⟩
      | abort => exact .inr (.inr ⟨_, rfl⟩)
    | aborted =>
      cases call with
      | next => exact .inr (.inr ⟨_, rfl⟩)
      | finish => exact .inr (.inr ⟨_, rfl⟩)
      | abort => exact .inr (.inl ⟨rfl, rfl⟩)
  set_poisoned next m h := by
    unfold setCopierState
    rw [Monitor.setState_poisoned _ _ _ h]
    exact ⟨rfl, _, rfl⟩
  set_clean next m h := Monitor.setState_clean _ _ _ h
  fail_eq _ := rfl

/-! ## The protocol -/

/-- The state that the result of an inner step leads to. -/
def CopierRaw.outcome (inner : I) : CopierRaw M → CopierStateV1 I
  | .next (.ok (some value)) => if value < UInt64.size then .open inner else .failed
  | .next (.ok none) => .end inner
  | .finish (.ok _) => .finished
  | .abort (.ok _) => .aborted
  | _ => .failed

def CopierStateV1.Terminal : CopierStateV1 I → Prop
  | .open _ | .busy | .end _ => False
  | .finished | .aborted | .failed => True

/-- What a call that does not take the inner copier is answered. -/
def CopierStateV1.closedReply : CopierStateV1 I → CopierCall → Reply (CopierValue M)
  | .end _, .next => { status := .end }
  | .aborted, .abort => { status := .ok }
  | _, _ => .failure copierClosed

theorem CopierStateV1.Terminal.view {state : CopierStateV1 I} (h : state.Terminal) :
    state.view = .over ∨ state.view = .failed := by
  cases state with
  | «open» inner => exact h.elim
  | busy => exact h.elim
  | «end» inner => exact h.elim
  | finished => exact .inl rfl
  | aborted => exact .inl rfl
  | failed => exact .inr rfl

theorem copier_afterTake_terminal {m : Monitor (copierCell I M).State}
    (hclean : m.poisoned = false) (hterminal : CopierStateV1.Terminal m.state)
    (call : (copierCell I M).Call) (changed : Nat) :
    (copierCell I M).afterTake call changed ((copierCell I M).take call m).2 =
      .leaving (CopierStateV1.closedReply m.state call) := by
  obtain ⟨state, poisoned, n⟩ := m
  obtain rfl : poisoned = false := hclean
  cases state with
  | «open» inner => exact hterminal.elim
  | busy => exact hterminal.elim
  | «end» inner => exact hterminal.elim
  | finished => cases call <;> rfl
  | failed => cases call <;> rfl
  | aborted => cases call <;> rfl

/-- At the end a call that is not a finish is answered and takes nothing. -/
theorem copier_afterTake_end {m : Monitor (copierCell I M).State} {inner : I}
    (hclean : m.poisoned = false) (hend : m.state = CopierStateV1.end inner)
    {call : (copierCell I M).Call} (hcall : call ≠ CopierCall.finish) (changed : Nat) :
    (copierCell I M).afterTake call changed ((copierCell I M).take call m).2 =
      .leaving (CopierStateV1.closedReply m.state call) := by
  obtain ⟨state, poisoned, n⟩ := m
  obtain rfl : poisoned = false := hclean
  obtain rfl : state = CopierStateV1.end inner := hend
  cases call with
  | next => rfl
  | finish => exact absurd rfl hcall
  | abort => rfl

theorem copier_take_end {m : Monitor (copierCell I M).State} {inner inner' : I}
    (hclean : m.poisoned = false) (hend : m.state = CopierStateV1.end inner)
    {call : (copierCell I M).Call} (h : ((copierCell I M).take call m).2 = .acquired inner') :
    call = CopierCall.finish := by
  obtain ⟨state, poisoned, n⟩ := m
  obtain rfl : poisoned = false := hclean
  obtain rfl : state = CopierStateV1.end inner := hend
  cases call with
  | finish => rfl
  | next => cases h
  | abort => cases h

theorem copier_take_finish {m : Monitor (copierCell I M).State} {inner : I}
    (hclean : m.poisoned = false)
    (hstate : m.state = CopierStateV1.open inner ∨ m.state = CopierStateV1.end inner) :
    (copierCell I M).take CopierCall.finish m =
      ({ m with state := CopierStateV1.busy }, .acquired inner) := by
  obtain ⟨state, poisoned, n⟩ := m
  obtain rfl : poisoned = false := hclean
  rcases hstate with h | h
  · obtain rfl : state = CopierStateV1.open inner := h
    rfl
  · obtain rfl : state = CopierStateV1.end inner := h
    rfl

theorem copier_stepResult {call : CopierCall} {raw : CopierRaw M}
    {result : StepResult (CopierValue M)} (h : call.stepResult raw = some result) :
    (call = .next ∧ ∃ r, raw = .next r ∧ result = r.bind copierProgress) ∨
    (call = .finish ∧ ∃ r, raw = .finish r ∧ result = r.map .finished) ∨
    (call = .abort ∧ ∃ r, raw = .abort r ∧ result = r.map fun _ => .aborted) := by
  cases call <;> cases raw <;> cases h
  · exact .inl ⟨rfl, _, rfl, rfl⟩
  · exact .inr (.inl ⟨rfl, _, rfl, rfl⟩)
  · exact .inr (.inr ⟨rfl, _, rfl, rfl⟩)

theorem copierProgress_some {value : Nat} (h : value < UInt64.size) :
    copierProgress (some value) = (.ok (.progress (UInt64.ofNat value)) : StepResult (CopierValue M)) :=
  if_pos h

theorem copierProgress_large {value : Nat} (h : ¬ value < UInt64.size) :
    copierProgress (some value) = (.error (bufferTooLarge
      "copier progress is not representable as UInt64") : StepResult (CopierValue M)) :=
  if_neg h

theorem proceeds_next {key : (copierCell I M).Key} {raw : CopierRaw M}
    (h : (copierCell I M).Proceeds key raw) :
    key.2 = CopierCall.next ∧ ∃ progress, raw = .next (.ok progress) := by
  obtain ⟨value, hvalue, hproceeds⟩ := h
  rcases copier_stepResult hvalue with ⟨hcall, r, rfl, hr⟩ | ⟨-, r, -, hr⟩ | ⟨-, r, -, hr⟩
  · cases r with
    | ok progress => exact ⟨hcall, progress, rfl⟩
    | error failure => cases hr
    | panic => cases hr
  · cases r <;> cases hr
    cases hproceeds
  · cases r <;> cases hr
    cases hproceeds

theorem storedState_copier (inner : I) {call : CopierCall} {raw : CopierRaw M}
    {result : StepResult (CopierValue M)} (hresult : call.stepResult raw = some result) :
    (copierCell I M).storedState inner result = raw.outcome inner := by
  rcases copier_stepResult hresult with ⟨-, r, rfl, rfl⟩ | ⟨-, r, rfl, rfl⟩ | ⟨-, r, rfl, rfl⟩
  · cases r with
    | ok progress =>
      cases progress with
      | none => rfl
      | some value =>
        by_cases hvalue : value < UInt64.size
        · rw [StepResult.bind, copierProgress_some hvalue, CopierRaw.outcome, if_pos hvalue]
          rfl
        · rw [StepResult.bind, copierProgress_large hvalue, CopierRaw.outcome, if_neg hvalue]
          rfl
    | error failure => rfl
    | panic => rfl
  · cases r <;> rfl
  · cases r <;> rfl

namespace SyncSystem

variable {s t : SyncSystem (copierCell I M)}

theorem copier_end_answer {m : Monitor (copierCell I M).State} (hclean : m.poisoned = false)
    {call : (copierCell I M).Call} {n : Nat} {reply : Reply (copierCell I M).Value}
    (h : (copierCell I M).afterTake call n ((copierCell I M).take call m).2 = .leaving reply)
    (hend : reply.status = .end) : ∃ inner, m.state = CopierStateV1.end inner := by
  obtain ⟨state, poisoned, k⟩ := m
  obtain rfl : poisoned = false := hclean
  cases state with
  | «end» inner => exact ⟨inner, rfl⟩
  | «open» inner => cases call <;> cases h
  | busy => cases call <;> cases h
  | finished => cases call <;> cases h <;> cases hend
  | aborted => cases call <;> cases h <;> cases hend
  | failed => cases call <;> cases h <;> cases hend

theorem copier_end_result {inner : I} {result : StepResult (CopierValue M)}
    (hend : ((copierCell I M).storeReply result).status = .end) :
    (copierCell I M).storedState inner result = CopierStateV1.end inner := by
  cases result with
  | ok value =>
    cases value with
    | «end» => rfl
    | progress bytes => cases hend
    | finished metadata => cases hend
    | aborted => cases hend
  | error failure => cases failure <;> cases hend
  | panic => cases hend

theorem end_not_busy {state : (copierCell I M).State} {inner : I}
    (hend : state = CopierStateV1.end inner) : (copierCell I M).view state ≠ .busy := by
  rw [hend]
  nofun

/-- Once a call was answered END, the copier is at its end until a finish takes it. -/
def EndKept (s : SyncSystem (copierCell I M)) : Prop :=
  (∃ (i : Nat) (c : SyncCall (copierCell I M)) (reply : _), s.calls[i]? = some c ∧
    c.phase.reply? = some reply ∧ reply.status = .end) →
  (∃ inner, s.monitor.state = CopierStateV1.end inner) ∨
    ∃ key ∈ s.acquired, key.2 = CopierCall.finish

theorem endKept_step {e : SyncEvent (copierCell I M)} (hstep : s.step e = some t)
    (hcontained : e.Contained) (hs : s.Orderly) (hE : s.EndKept) : t.EndKept := by
  intro ⟨i, c, reply, hc, hreply, hstatus⟩
  obtain ⟨a, hR⟩ := hs.refines
  have hgrow : ∀ key ∈ s.acquired, key ∈ t.acquired := (step_acquired_grows hstep).subset
  by_cases hfinish : ∃ key ∈ s.acquired, key.2 = CopierCall.finish
  · obtain ⟨key, hkey, hcall⟩ := hfinish
    exact .inr ⟨key, hgrow key hkey, hcall⟩
  by_cases hend : ∃ inner, s.monitor.state = CopierStateV1.end inner
  · obtain ⟨inner, hinner⟩ := hend
    rcases quiet_step hstep hcontained hR (end_not_busy hinner) (.refl s) with
      hq | ⟨key, inner', hacquired, htake⟩
    · exact .inl ⟨inner, hq.monitor ▸ hinner⟩
    · refine .inr ⟨key, ?_, copier_take_end hR.clean hinner htake⟩
      rw [hacquired]
      exact List.mem_append_right _ List.mem_cons_self
  · rcases reply_cases hstep hcontained hR hc hreply with ⟨c₀, hc₀, hreply₀⟩ | ⟨-, hafter⟩ |
        ⟨inner, result, rfl, hstate⟩
    · rcases hE ⟨i, c₀, reply, hc₀, hreply₀, hstatus⟩ with h | h
      · exact absurd h hend
      · exact absurd h hfinish
    · exact absurd (copier_end_answer hR.clean (hafter 0) hstatus) hend
    · exact .inl ⟨inner, hstate.trans (copier_end_result hstatus)⟩

theorem endKept_run {es : List (SyncEvent (copierCell I M))} (hcontained : ∀ e ∈ es, e.Contained)
    (hs : s.Orderly) (hE : s.EndKept) (hrun : run step s es = some t) : t.EndKept := by
  suffices hkeep : t.Orderly ∧ t.EndKept from hkeep.2
  refine run_of_events (I := fun u => u.Orderly ∧ u.EndKept) ?_ hcontained ⟨hs, hE⟩ hrun
  intro u e v hstep he hu
  exact ⟨orderly_step he hu.1 hstep, endKept_step hstep he hu.1 hu.2⟩

/-- The progress that an inner step yields to its call. -/
def innerProgress : CopierRaw M → Option UInt64
  | .next (.ok (some value)) => if value < UInt64.size then some (UInt64.ofNat value) else none
  | _ => none

def replyProgress (reply : Reply (CopierValue M)) : Option UInt64 :=
  match reply.value with
  | some (.progress bytes) => some bytes
  | _ => none

theorem replyProgress_none {reply : Reply (CopierValue M)} (h : reply.value = none) :
    replyProgress reply = none := by
  simp only [replyProgress, h]

/-- The progress that a call has returned. -/
def returnedProgress (s : SyncSystem (copierCell I M)) (key : (copierCell I M).Key) :
    Option UInt64 :=
  (s.calls[key.1]?).bind fun c => c.phase.reply?.bind replyProgress

theorem replyProgress_storeReply {call : CopierCall} {raw : CopierRaw M}
    {result : StepResult (CopierValue M)} (hresult : call.stepResult raw = some result) :
    replyProgress ((copierCell I M).storeReply result) = innerProgress raw := by
  rcases copier_stepResult hresult with ⟨-, r, rfl, rfl⟩ | ⟨-, r, rfl, rfl⟩ | ⟨-, r, rfl, rfl⟩
  · cases r with
    | ok progress =>
      cases progress with
      | none => rfl
      | some value =>
        by_cases hvalue : value < UInt64.size
        · rw [StepResult.bind, copierProgress_some hvalue, innerProgress, if_pos hvalue]
          rfl
        · rw [StepResult.bind, copierProgress_large hvalue, innerProgress, if_neg hvalue]
          rfl
    | error failure => rfl
    | panic => rfl
  · cases r <;> rfl
  · cases r <;> rfl

/-- The guarantees of a copier in one reached state. -/
structure CopierProtocol (s : SyncSystem (copierCell I M)) : Prop where
  serialized : s.Serialized
  /-- Another inner operation begins only behind a `next` that succeeded. -/
  behind_next : ∀ l key rest, s.begun = l ++ key :: rest → rest ≠ [] →
    key.2 = CopierCall.next ∧ ∃ progress, (key, CopierRaw.next (.ok progress)) ∈ s.ended
  one_terminal : (s.begun.filter fun key => key.2 ≠ CopierCall.next).length ≤ 1
  outcome : s.monitor.state ≠ CopierStateV1.busy → ∃ inner,
    s.ended = [] ∧ s.monitor.state = CopierStateV1.open inner ∨
    ∃ key raw, s.ended.getLast? = some (key, raw) ∧ s.monitor.state = CopierRaw.outcome inner raw
  /-- Whenever nobody has the inner copier, the values that the calls returned, in the order
  in which they took it, are its values. -/
  progress : s.monitor.state ≠ CopierStateV1.busy →
    s.acquired.filterMap s.returnedProgress = s.ended.filterMap fun x => innerProgress x.2
  /-- At any time a returned value is the one of the call's own inner step. -/
  progress_own : ∀ i c bytes, s.calls[i]? = some c → s.returnedProgress (i, c.call) = some bytes →
    ∃ raw, ((i, c.call), raw) ∈ s.ended ∧ innerProgress raw = some bytes
  ended_grows : ∀ es t, run step s es = some t → s.ended <+: t.ended
  end_kept : s.EndKept
  /-- The end is stable until a finish takes the inner copier. -/
  end_stable : ∀ inner, s.monitor.state = CopierStateV1.end inner → ∀ es t,
    (∀ e ∈ es, e.Contained) → run step s es = some t →
    (t.monitor = s.monitor ∧ t.acquired = s.acquired ∧ t.begun = s.begun ∧
      ∀ (i : Nat) (c : SyncCall (copierCell I M)) reply, t.calls[i]? = some c →
        c.phase.reply? = some reply → c.call ≠ CopierCall.finish →
        (∃ c₀, s.calls[i]? = some c₀ ∧ c₀.call = c.call ∧ c₀.phase.reply? = some reply) ∨
        reply = CopierStateV1.closedReply s.monitor.state c.call) ∨
    ∃ key rest, t.acquired = s.acquired ++ key :: rest ∧ key.2 = CopierCall.finish
  /-- At the end `next` is answered END and `abort` is refused, and the copier is kept. -/
  at_end : ∀ inner, s.monitor.state = CopierStateV1.end inner →
    ∀ (i : Nat) (c : SyncCall (copierCell I M)), s.calls[i]? = some c → c.phase.Waiting →
    c.call ≠ CopierCall.finish →
    ∃ t, s.step (.act i .lock) = some t ∧ t.monitor = s.monitor ∧ t.acquired = s.acquired ∧
      t.calls[i]? =
        some { c with phase := .leaving (CopierStateV1.closedReply s.monitor.state c.call) }
  finish_accepted : ∀ inner, s.monitor.state = CopierStateV1.open inner ∨
      s.monitor.state = CopierStateV1.end inner →
    ∀ (i : Nat) (c : SyncCall (copierCell I M)), s.calls[i]? = some c → c.phase.Waiting →
    c.call = CopierCall.finish →
    ∃ t, s.step (.act i .lock) = some t ∧ t.acquired = s.acquired ++ [(i, c.call)] ∧
      t.calls[i]? = some { c with phase := .holding inner }
  answered : CopierStateV1.Terminal s.monitor.state →
    ∀ (i : Nat) (c : SyncCall (copierCell I M)), s.calls[i]? = some c → c.phase.Waiting →
    ∃ t, s.step (.act i .lock) = some t ∧ t.monitor = s.monitor ∧ t.acquired = s.acquired ∧
      t.calls[i]? =
        some { c with phase := .leaving (CopierStateV1.closedReply s.monitor.state c.call) }
  /-- A terminal state is final, and every later reply is the one for it. -/
  closed : CopierStateV1.Terminal s.monitor.state → ∀ es t, (∀ e ∈ es, e.Contained) →
    run step s es = some t →
    t.monitor = s.monitor ∧ t.acquired = s.acquired ∧ t.begun = s.begun ∧
      ∀ (i : Nat) (c : SyncCall (copierCell I M)) reply, t.calls[i]? = some c →
        c.phase.reply? = some reply →
        (∃ c₀, s.calls[i]? = some c₀ ∧ c₀.call = c.call ∧ c₀.phase.reply? = some reply) ∨
        reply = CopierStateV1.closedReply s.monitor.state c.call

theorem copier_free {state : (copierCell I M).State} (h : state ≠ CopierStateV1.busy) :
    (copierCell I M).view state ≠ .busy := by
  intro hbusy
  apply h
  cases state with
  | busy => rfl
  | _ => cases hbusy

/-- Nobody has the inner copier, so each call that took it has returned the progress of its
inner step. -/
theorem Orderly.progress (hs : s.Orderly) (hfree : (copierCell I M).view s.monitor.state ≠ .busy) :
    s.acquired.filterMap s.returnedProgress = s.ended.filterMap fun x => innerProgress x.2 := by
  rw [← hs.serialized.all_ended hfree, List.filterMap_map]
  apply List.filterMap_congr
  intro x hx
  obtain ⟨c, result, hc, -, hresult, hphase⟩ := hs.told (show (x.1, x.2) ∈ s.ended from hx)
  obtain ⟨a, hR⟩ := hs.refines
  have hreply : c.phase.reply? = some ((copierCell I M).storeReply result) := by
    rcases hphase with ⟨inner, hstepped⟩ | hreply
    · exact absurd (hR.hasInner_busy hc (by rw [hstepped]; trivial)) hfree
    · exact hreply
  show s.returnedProgress x.1 = innerProgress x.2
  rw [returnedProgress, hc, Option.bind_some, hreply]
  exact replyProgress_storeReply hresult

theorem Orderly.progress_own (hs : s.Orderly) {i : Nat} {c : SyncCall (copierCell I M)}
    {bytes : UInt64} (hc : s.calls[i]? = some c)
    (hreturned : s.returnedProgress (i, c.call) = some bytes) :
    ∃ raw, ((i, c.call), raw) ∈ s.ended ∧ innerProgress raw = some bytes := by
  rw [returnedProgress, hc, Option.bind_some] at hreturned
  obtain ⟨reply, hreply, hbytes⟩ := Option.bind_eq_some_iff.mp hreturned
  rcases hs.own_reply hc hreply with ⟨raw, result, hmem, hresult, rfl⟩ | ⟨hnone, -⟩
  · rw [replyProgress_storeReply hresult] at hbytes
    exact ⟨raw, hmem, hbytes⟩
  · exact absurd (hbytes.symm.trans (replyProgress_none hnone)) nofun

theorem Orderly.copierProtocol (hs : s.Orderly) (hE : s.EndKept) : s.CopierProtocol := by
  have hserial := hs.serialized
  obtain ⟨a, hR⟩ := id hs.refines
  have hbehind : ∀ l key rest, s.begun = l ++ key :: rest → rest ≠ [] →
      key.2 = CopierCall.next ∧ ∃ progress, (key, CopierRaw.next (.ok progress)) ∈ s.ended := by
    intro l key rest h hrest
    obtain ⟨raw, hmem, hp⟩ := hserial.behind l key rest h hrest
    obtain ⟨hcall, progress, rfl⟩ := proceeds_next hp
    exact ⟨hcall, progress, hmem⟩
  refine {
    serialized := hserial, behind_next := hbehind, one_terminal := ?_, outcome := ?_,
    progress := fun hbusy => hs.progress (copier_free hbusy),
    progress_own := fun i c bytes hc h => hs.progress_own hc h,
    ended_grows := fun es t hrun => run_ended_prefix hrun, end_kept := hE, end_stable := ?_,
    at_end := ?_, finish_accepted := ?_, answered := ?_, closed := ?_ }
  · apply length_filter_le_one
    intro l key rest h hrest
    simp [(hbehind l key rest h hrest).1]
  · intro hbusy
    obtain ⟨inner, hstate⟩ := hserial.settled (copier_free hbusy)
    refine ⟨inner, ?_⟩
    rcases List.eq_nil_or_concat s.ended with hnil | ⟨past, ⟨key, raw⟩, hlog⟩
    · exact .inl ⟨hnil, by rw [hstate, hnil]; rfl⟩
    · have hlast : s.ended.getLast? = some (key, raw) := by simp [hlog]
      obtain ⟨c, result, -, -, hresult, -⟩ := hs.told (List.mem_of_getLast? hlast)
      refine .inr ⟨key, raw, hlast, hstate.trans ?_⟩
      exact (SyncCell.stateAfter_eq _ inner hlast hresult).trans (storedState_copier inner hresult)
  · intro inner hend es t hcontained hrun
    rcases quiet_run hcontained hs (end_not_busy hend) hrun with
      hq | ⟨key, rest, inner', hacquired, htake⟩
    · refine .inl ⟨hq.monitor, hq.acquired, hq.begun, ?_⟩
      intro i c reply hc hreply hcall
      refine (hq.replies i c reply hc hreply).imp_right fun h => ?_
      have hleaving := (h 0).symm.trans (copier_afterTake_end hR.clean hend hcall 0)
      cases hleaving
      rfl
    · exact .inr ⟨key, rest, hacquired, copier_take_end hR.clean hend htake⟩
  · intro inner hend i c hc hw hcall
    exact lock_answered hR.clean hc hw fun n => copier_afterTake_end hR.clean hend hcall n
  · intro inner hstate i c hc hw hcall
    have htake : (copierCell I M).take c.call s.monitor =
        ({ s.monitor with state := CopierStateV1.busy }, .acquired inner) := by
      rw [hcall]
      exact copier_take_finish hR.clean hstate
    have hlock := SyncCall.lock_of_waiting hw s.monitor
    rw [htake] at hlock
    exact ⟨_, step_act hc hlock, rfl, by rw [getElem?_moved hc, if_pos rfl]; rfl⟩
  · intro hterminal i c hc hw
    exact lock_answered hR.clean hc hw fun n => copier_afterTake_terminal hR.clean hterminal _ n
  · intro hterminal es t hcontained hrun
    have hq := over_run hcontained hs hterminal.view hrun
    refine ⟨hq.monitor, hq.acquired, hq.begun, ?_⟩
    intro i c reply hc hreply
    refine (hq.replies i c reply hc hreply).imp_right fun h => ?_
    have hleaving := (h 0).symm.trans (copier_afterTake_terminal hR.clean hterminal c.call 0)
    cases hleaving
    rfl

end SyncSystem

open SyncSystem

/-- Every interleaving of nexts, finishes and aborts keeps the protocol of the copier. -/
theorem copier_protocol {inner : I} {es : List (SyncEvent (copierCell I M))}
    {s : SyncSystem (copierCell I M)} (hcontained : ∀ e ∈ es, e.Contained)
    (hrun : run step (opened (copierCell I M) inner) es = some s) : s.CopierProtocol :=
  (orderly_run hcontained (orderly_opened _ inner) hrun).copierProtocol
    (endKept_run hcontained (orderly_opened _ inner) (fun h => by
      obtain ⟨i, c, -, hc, -⟩ := h
      cases hc) hrun)

/-- The copy yields one value and ends, an abort is refused, and the copy is finished. -/
theorem copier_protocol_finished :
    ∃ s : SyncSystem (copierCell Unit Nat),
      run step (opened (copierCell Unit Nat) ())
        [.enter .next, .enter .next, .enter .abort, .enter .finish,
          .act 0 .lock, .act 1 .lock, .act 0 .begin,
          .act 0 (.finish (CopierRaw.next (.ok (some 7)))), .act 0 .store,
          .act 1 .lock, .act 1 .begin, .act 1 (.finish (CopierRaw.next (.ok none))),
          .act 1 .store, .act 2 .lock, .act 3 .lock, .act 3 .begin,
          .act 3 (.finish (CopierRaw.finish (.ok 5))), .act 3 .store] = some s ∧
      s.CopierProtocol ∧ s.monitor.state = CopierStateV1.finished ∧
      s.acquired.filterMap s.returnedProgress = [7] := by
  obtain ⟨s, hrun, hstate, hprogress⟩ : ∃ s : SyncSystem (copierCell Unit Nat),
      run step (opened (copierCell Unit Nat) ())
        [.enter .next, .enter .next, .enter .abort, .enter .finish,
          .act 0 .lock, .act 1 .lock, .act 0 .begin,
          .act 0 (.finish (CopierRaw.next (.ok (some 7)))), .act 0 .store,
          .act 1 .lock, .act 1 .begin, .act 1 (.finish (CopierRaw.next (.ok none))),
          .act 1 .store, .act 2 .lock, .act 3 .lock, .act 3 .begin,
          .act 3 (.finish (CopierRaw.finish (.ok 5))), .act 3 .store] = some s ∧
      s.monitor.state = CopierStateV1.finished ∧
      s.acquired.filterMap s.returnedProgress = [7] := ⟨_, rfl, rfl, rfl⟩
  exact ⟨s, hrun, copier_protocol (by simp [SyncEvent.Contained]) hrun, hstate, hprogress⟩

end OpendalMbt.Native
