import OpendalMbt.Native.SyncReplies

/-!
# The synchronous writer

`writer_write`, `writer_close` and `writer_abort` on one `WriterV1`, and what they guarantee
over every interleaving in which no panic leaves an inner step (`writer_protocol`): inner
operations run one at a time in the order in which calls take the writer, only a successful
write lets another one follow, and after the first terminal outcome every call is refused,
except an abort after a successful abort.
-/

namespace OpendalMbt.Native

open Transition

inductive WriterStateV1 (I : Type) where
  | open (inner : I)
  | busy | finished | aborted | failed
  deriving DecidableEq, Repr

variable {I M : Type}

def writerLockMessage : String := "writer state lock was poisoned"

def writerClosed : CallFailure := resourceClosed "writer is closed"

def failWriterState (writer : Monitor (WriterStateV1 I)) : Monitor (WriterStateV1 I) :=
  writer.fail .failed

def writerPoisonFailure (writer : Monitor (WriterStateV1 I)) :
    Monitor (WriterStateV1 I) × CallFailure :=
  writer.poisonFailure .failed writerLockMessage

def setWriterState (next : WriterStateV1 I) (writer : Monitor (WriterStateV1 I)) :
    Monitor (WriterStateV1 I) × CallResult Unit :=
  writer.setState .failed writerLockMessage next

/-- One pass of `take_writer_for_call`, from a lock or a wake-up to the next return or wait. -/
def takeWriterForCall (repeatedAbortIsOk : Bool) (writer : Monitor (WriterStateV1 I)) :
    Monitor (WriterStateV1 I) × TakeResult I :=
  if writer.poisoned then
    let (writer, failure) := writerPoisonFailure writer
    (writer, .refused failure)
  else
    match writer.state with
    | .open inner => ({ writer with state := .busy }, .acquired inner)
    | .busy => (writer, .wait)
    | .aborted => (writer, if repeatedAbortIsOk then .already else .refused writerClosed)
    | .finished | .failed => (writer, .refused writerClosed)

inductive WriterCall where
  | write | close | abort
  deriving DecidableEq, Repr

/-- What the inner step of a writer call returns. The step of `close` checks the metadata
before it succeeds. -/
inductive WriterRaw (M : Type) where
  | write (result : StepResult Unit)
  | close (result : StepResult M)
  | abort (result : StepResult Unit)
  deriving DecidableEq, Repr

inductive WriterValue (M : Type) where
  | written
  | finished (metadata : M)
  | aborted
  deriving DecidableEq, Repr

def WriterCall.stepResult : WriterCall → WriterRaw M → Option (StepResult (WriterValue M))
  | .write, .write result => some (result.map fun _ => .written)
  | .close, .close result => some (result.map .finished)
  | .abort, .abort result => some (result.map fun _ => .aborted)
  | _, _ => none

/-- The state that `writer_write`, `writer_close` and `writer_abort` store after success. -/
def WriterValue.next : WriterValue M → I → WriterStateV1 I
  | .written, inner => .open inner
  | .finished _, _ => .finished
  | .aborted, _ => .aborted

def WriterValue.proceeds : WriterValue M → Bool
  | .written => true
  | .finished _ | .aborted => false

def WriterValue.reply : WriterValue M → Reply (WriterValue M)
  | .written => { status := .ok }
  | .finished metadata => { status := .ok, value := some (.finished metadata) }
  | .aborted => { status := .ok }

/-- `take_writer_for_call` returns `None` only to an abort. -/
def WriterCall.already : WriterCall → Option Status
  | .write | .close => none
  | .abort => some .ok

def WriterStateV1.view : WriterStateV1 I → SyncView I
  | .open inner => .stored inner
  | .busy => .busy
  | .finished | .aborted => .over
  | .failed => .failed

def WriterCall.repeatedAbortIsOk : WriterCall → Bool
  | .write | .close => false
  | .abort => true

def syncWriterCell (I M : Type) : SyncCell I where
  State := WriterStateV1 I
  Call := WriterCall
  Raw := WriterRaw M
  Value := WriterValue M
  view := WriterStateV1.view
  fresh := .open
  failed := .failed
  take call := takeWriterForCall call.repeatedAbortIsOk
  set := setWriterState
  fail := failWriterState
  stepResult := WriterCall.stepResult
  next := WriterValue.next
  proceeds := WriterValue.proceeds
  reply := WriterValue.reply
  already := WriterCall.already
  view_fresh _ := rfl
  view_failed := rfl
  view_next value inner := by cases value <;> rfl
  take_poisoned call m h := by
    unfold takeWriterForCall
    rw [if_pos h]
    exact ⟨rfl, _, rfl⟩
  take_busy call m h hbusy := by
    unfold takeWriterForCall
    rw [if_neg (by simp [h])]
    obtain ⟨state, poisoned, changed⟩ := m
    cases state <;> cases hbusy
    rfl
  take_free call m h hfree := by
    unfold takeWriterForCall
    rw [if_neg (by simp [h])]
    obtain ⟨state, poisoned, changed⟩ := m
    cases state with
    | «open» inner => exact .inl ⟨inner, .busy, rfl, rfl, rfl⟩
    | busy => exact absurd rfl hfree
    | finished => exact .inr (.inr ⟨_, rfl⟩)
    | failed => exact .inr (.inr ⟨_, rfl⟩)
    | aborted =>
      cases call with
      | write => exact .inr (.inr ⟨_, rfl⟩)
      | close => exact .inr (.inr ⟨_, rfl⟩)
      | abort => exact .inr (.inl ⟨rfl, rfl⟩)
  set_poisoned next m h := by
    unfold setWriterState
    rw [Monitor.setState_poisoned _ _ _ h]
    exact ⟨rfl, _, rfl⟩
  set_clean next m h := Monitor.setState_clean _ _ _ h
  fail_eq _ := rfl

/-! ## The protocol -/

/-- The state that the result of an inner step leads to. -/
def WriterRaw.outcome (inner : I) : WriterRaw M → WriterStateV1 I
  | .write (.ok _) => .open inner
  | .close (.ok _) => .finished
  | .abort (.ok _) => .aborted
  | _ => .failed

def WriterStateV1.Terminal : WriterStateV1 I → Prop
  | .open _ | .busy => False
  | .finished | .aborted | .failed => True

/-- What a call is answered in a terminal state. -/
def WriterStateV1.closedReply : WriterStateV1 I → WriterCall → Reply (WriterValue M)
  | .aborted, .abort => { status := .ok }
  | _, _ => .failure writerClosed

theorem WriterStateV1.Terminal.view {state : WriterStateV1 I} (h : state.Terminal) :
    state.view = .over ∨ state.view = .failed := by
  cases state with
  | «open» inner => exact h.elim
  | busy => exact h.elim
  | finished => exact .inl rfl
  | aborted => exact .inl rfl
  | failed => exact .inr rfl

theorem afterTake_terminal {m : Monitor (syncWriterCell I M).State} (hclean : m.poisoned = false)
    (hterminal : WriterStateV1.Terminal m.state) (call : (syncWriterCell I M).Call)
    (changed : Nat) :
    (syncWriterCell I M).afterTake call changed ((syncWriterCell I M).take call m).2 =
      .leaving (WriterStateV1.closedReply m.state call) := by
  obtain ⟨state, poisoned, n⟩ := m
  obtain rfl : poisoned = false := hclean
  cases state with
  | «open» inner => exact hterminal.elim
  | busy => exact hterminal.elim
  | finished => cases call <;> rfl
  | failed => cases call <;> rfl
  | aborted => cases call <;> rfl

theorem proceeds_write {key : (syncWriterCell I M).Key} {raw : WriterRaw M}
    (h : (syncWriterCell I M).Proceeds key raw) :
    key.2 = WriterCall.write ∧ raw = .write (.ok ()) := by
  obtain ⟨value, hvalue, hproceeds⟩ := h
  obtain ⟨i, call⟩ := key
  rcases call <;> rcases raw with (_ | _ | _) | (_ | _ | _) | (_ | _ | _) <;> cases hvalue
  · exact ⟨rfl, rfl⟩
  · cases hproceeds
  · cases hproceeds

theorem storedState_writer (inner : I) {call : WriterCall} {raw : WriterRaw M}
    {result : StepResult (WriterValue M)} (hresult : call.stepResult raw = some result) :
    (syncWriterCell I M).storedState inner result = raw.outcome inner := by
  rcases call <;> rcases raw with (_ | _ | _) | (_ | _ | _) | (_ | _ | _) <;> cases hresult <;> rfl

namespace SyncSystem

variable {s t : SyncSystem (syncWriterCell I M)}

/-- The guarantees of a writer in one reached state. -/
structure WriterProtocol (s : SyncSystem (syncWriterCell I M)) : Prop where
  serialized : s.Serialized
  /-- Another inner operation begins only behind a write that succeeded. -/
  behind_write : ∀ l key rest, s.begun = l ++ key :: rest → rest ≠ [] →
    key.2 = WriterCall.write ∧ (key, WriterRaw.write (.ok ())) ∈ s.ended
  one_terminal : (s.begun.filter fun key => key.2 ≠ WriterCall.write).length ≤ 1
  outcome : s.monitor.state ≠ WriterStateV1.busy → ∃ inner,
    s.ended = [] ∧ s.monitor.state = WriterStateV1.open inner ∨
    ∃ key raw, s.ended.getLast? = some (key, raw) ∧ s.monitor.state = WriterRaw.outcome inner raw
  /-- A call that comes to the lock in a terminal state is answered at once. -/
  answered : WriterStateV1.Terminal s.monitor.state → ∀ (i : Nat) (c : SyncCall (syncWriterCell I M)),
    s.calls[i]? = some c → c.phase.Waiting →
    ∃ t, s.step (.act i .lock) = some t ∧ t.monitor = s.monitor ∧ t.acquired = s.acquired ∧
      t.calls[i]? =
        some { c with phase := .leaving (WriterStateV1.closedReply s.monitor.state c.call) }
  /-- A terminal state is final, and every later reply is the one for it. -/
  closed : WriterStateV1.Terminal s.monitor.state → ∀ es t, (∀ e ∈ es, e.Contained) → run step s es = some t →
    t.monitor = s.monitor ∧ t.acquired = s.acquired ∧ t.begun = s.begun ∧
      ∀ (i : Nat) (c : SyncCall (syncWriterCell I M)) reply, t.calls[i]? = some c →
        c.phase.reply? = some reply →
        (∃ c₀, s.calls[i]? = some c₀ ∧ c₀.call = c.call ∧ c₀.phase.reply? = some reply) ∨
        reply = WriterStateV1.closedReply s.monitor.state c.call

theorem Orderly.writerProtocol (hs : s.Orderly) : s.WriterProtocol := by
  have hserial := hs.serialized
  have hbehind : ∀ l key rest, s.begun = l ++ key :: rest → rest ≠ [] →
      key.2 = WriterCall.write ∧ (key, WriterRaw.write (.ok ())) ∈ s.ended := by
    intro l key rest h hrest
    obtain ⟨raw, hmem, hp⟩ := hserial.behind l key rest h hrest
    obtain ⟨hcall, rfl⟩ := proceeds_write hp
    exact ⟨hcall, hmem⟩
  have hclean : s.monitor.poisoned = false := by
    obtain ⟨a, hR⟩ := hs.refines
    exact hR.clean
  refine {
    serialized := hserial, behind_write := hbehind, one_terminal := ?_, outcome := ?_,
    answered := ?_, closed := ?_ }
  · apply length_filter_le_one
    intro l key rest h hrest
    simp [(hbehind l key rest h hrest).1]
  · intro hbusy
    have hfree : (syncWriterCell I M).view s.monitor.state ≠ .busy := by
      intro h
      apply hbusy
      cases hstate : s.monitor.state with
      | busy => rfl
      | _ =>
        rw [hstate] at h
        cases h
    obtain ⟨inner, hstate⟩ := hserial.settled hfree
    refine ⟨inner, ?_⟩
    rcases List.eq_nil_or_concat s.ended with hnil | ⟨past, ⟨key, raw⟩, hlog⟩
    · exact .inl ⟨hnil, by rw [hstate, hnil]; rfl⟩
    · have hlast : s.ended.getLast? = some (key, raw) := by simp [hlog]
      obtain ⟨c, result, -, -, hresult, -⟩ := hs.told (List.mem_of_getLast? hlast)
      refine .inr ⟨key, raw, hlast, hstate.trans ?_⟩
      exact (SyncCell.stateAfter_eq _ inner hlast hresult).trans (storedState_writer inner hresult)
  · intro hterminal i c hc hw
    exact lock_answered hclean hc hw fun n => afterTake_terminal hclean hterminal _ n
  · intro hterminal es t hcontained hrun
    have hq := over_run hcontained hs hterminal.view hrun
    refine ⟨hq.monitor, hq.acquired, hq.begun, ?_⟩
    intro i c reply hc hreply
    refine (hq.replies i c reply hc hreply).imp_right fun h => ?_
    have hleaving := h 0
    rw [afterTake_terminal hclean hterminal] at hleaving
    cases hleaving
    rfl

end SyncSystem

open SyncSystem

/-- Every interleaving of writes, closes and aborts keeps the protocol of the writer. -/
theorem writer_protocol {inner : I} {es : List (SyncEvent (syncWriterCell I M))}
    {s : SyncSystem (syncWriterCell I M)} (hcontained : ∀ e ∈ es, e.Contained)
    (hrun : run step (opened (syncWriterCell I M) inner) es = some s) : s.WriterProtocol :=
  (orderly_run hcontained (orderly_opened _ inner) hrun).writerProtocol

/-- A write fails while a close waits for the writer; the close is refused. -/
theorem writer_protocol_failed_write :
    ∃ s : SyncSystem (syncWriterCell Unit Nat),
      run step (opened (syncWriterCell Unit Nat) ())
        [.enter .write, .enter .close, .act 0 .lock, .act 1 .lock, .act 0 .begin,
          .act 0 (.finish (WriterRaw.write .panic)), .act 0 .store, .act 1 .lock] = some s ∧
      s.WriterProtocol ∧ s.monitor.state = WriterStateV1.failed ∧
      s.calls[1]?.map SyncCall.phase = some (.leaving (.failure writerClosed)) := by
  obtain ⟨s, hrun, hstate, hphase⟩ : ∃ s : SyncSystem (syncWriterCell Unit Nat),
      run step (opened (syncWriterCell Unit Nat) ())
        [.enter .write, .enter .close, .act 0 .lock, .act 1 .lock, .act 0 .begin,
          .act 0 (.finish (WriterRaw.write .panic)), .act 0 .store, .act 1 .lock] = some s ∧
      s.monitor.state = WriterStateV1.failed ∧
      s.calls[1]?.map SyncCall.phase = some (.leaving (.failure writerClosed)) :=
    ⟨_, rfl, rfl, rfl⟩
  exact ⟨s, hrun, writer_protocol (by simp [SyncEvent.Contained]) hrun, hstate, hphase⟩

end OpendalMbt.Native
