import OpendalMbt.Native.SyncSession

/-!
# What the calls are answered

* `Tracked` relates each call to the logs: a call takes the object at most once, it answers
  with the result of its own inner step, and no result is without a call that answers it.
* `Notified` is the protocol of the condition variable: a call that waits and has not been
  notified waits for a busy object, so no wake-up is lost.
* `quiet_run` says what happens while nobody has the object: until a call takes it nothing
  changes, and every call is answered as the present state answers it.
-/

namespace OpendalMbt.Native

open Transition

variable {I : Type} {cell : SyncCell I}

namespace SyncSystem

variable {s t : SyncSystem cell} {e : SyncEvent cell} {a : cell.Session} {i : Nat}
  {c : SyncCall cell} {es : List (SyncEvent cell)}

/-- What the logs say about one call, by its phase. -/
def CallTracked (acquired : List cell.Key) (ended : List (cell.Key × cell.Raw)) (key : cell.Key) :
    Phase I cell.Value → Prop
  | .entering | .parked _ => key ∉ acquired
  | .holding _ | .running _ => ∀ raw, (key, raw) ∉ ended
  | .stepped _ result => ∃ raw, cell.stepResult key.2 raw = some result ∧
    ∀ raw', (key, raw') ∈ ended ↔ raw' = raw
  | .panicking => True
  | .leaving reply | .returned reply =>
    (∃ raw result, cell.stepResult key.2 raw = some result ∧ reply = cell.storeReply result ∧
      ∀ raw', (key, raw') ∈ ended ↔ raw' = raw) ∨
    (reply.value = none ∧ key ∉ acquired)

structure Tracked (s : SyncSystem cell) : Prop where
  calls : ∀ (i : Nat) (c : SyncCall cell), s.calls[i]? = some c →
    CallTracked s.acquired s.ended (i, c.call) c.phase
  known : ∀ key ∈ s.acquired, ∃ c, s.calls[key.1]? = some c ∧ c.call = key.2
  nodup : s.acquired.Nodup

theorem tracked_opened (cell : SyncCell I) (inner : I) : (opened cell inner).Tracked where
  calls := nofun
  known := nofun
  nodup := List.nodup_nil

/-- Entries of other calls do not matter. -/
theorem CallTracked.congr {acquired acquired' : List cell.Key}
    {ended ended' : List (cell.Key × cell.Raw)} {key : cell.Key} {phase : Phase I cell.Value}
    (hacquired : key ∈ acquired' ↔ key ∈ acquired)
    (hended : ∀ raw, (key, raw) ∈ ended' ↔ (key, raw) ∈ ended)
    (h : CallTracked acquired ended key phase) : CallTracked acquired' ended' key phase := by
  cases phase <;> simp only [CallTracked, hacquired, hended] at h ⊢ <;> exact h

theorem mem_moved_acquired {action : CallAction cell} {m : Monitor cell.State}
    {phase : Phase I cell.Value} {key : cell.Key}
    (h : key ∈ (s.moved i c action m phase).acquired) :
    key ∈ s.acquired ∨ key = (i, c.call) ∧ ∃ inner, phase = .holding inner := by
  rcases List.mem_append.mp h with h | h
  · exact .inl h
  · cases phase with
    | holding inner => exact .inr ⟨List.mem_singleton.mp h, inner, rfl⟩
    | _ => cases h

theorem mem_moved_ended {action : CallAction cell} {m : Monitor cell.State}
    {phase : Phase I cell.Value} {key : cell.Key} {raw : cell.Raw}
    (h : (key, raw) ∈ (s.moved i c action m phase).ended) :
    (key, raw) ∈ s.ended ∨ key = (i, c.call) ∧ action = .finish raw := by
  rcases List.mem_append.mp h with h | h
  · exact .inl h
  · cases action with
    | finish raw' =>
      cases List.mem_singleton.mp h
      exact .inr ⟨rfl, rfl⟩
    | _ => cases h

theorem Tracked.enter (hT : s.Tracked) (call : cell.Call) :
    Tracked { s with calls := s.calls ++ [({ call } : SyncCall cell)] } := by
  refine { calls := ?_, known := ?_, nodup := hT.nodup }
  · intro j d hd
    rcases Nat.lt_or_ge j s.calls.length with hlt | hge
    · rw [List.getElem?_append_left hlt] at hd
      exact hT.calls j d hd
    · rw [List.getElem?_append_right hge, List.getElem?_singleton] at hd
      split at hd <;> cases hd
      intro hmem
      obtain ⟨d, hd, -⟩ := hT.known _ hmem
      exact absurd (List.getElem?_eq_some_iff.mp hd).1 (Nat.not_lt.mpr hge)
  · intro key hkey
    obtain ⟨d, hd, hcall⟩ := hT.known key hkey
    refine ⟨d, ?_, hcall⟩
    rwa [List.getElem?_append_left (List.getElem?_eq_some_iff.mp hd).1]

/-- One call moves, and only its own entries are new. -/
theorem Tracked.moved (hT : s.Tracked) (hc : s.calls[i]? = some c) {action : CallAction cell}
    {m : Monitor cell.State} {phase : Phase I cell.Value}
    (hself : CallTracked (s.moved i c action m phase).acquired (s.moved i c action m phase).ended
      (i, c.call) phase)
    (hw : ∀ inner, phase = .holding inner → c.phase.Waiting) :
    (s.moved i c action m phase).Tracked := by
  have hget := getElem?_moved hc action m phase
  refine { calls := ?_, known := ?_, nodup := ?_ }
  · intro j d hd
    rw [hget] at hd
    split at hd
    · rename_i hij
      subst hij
      cases hd
      exact hself
    · rename_i hij
      have hne : (j, d.call) ≠ (i, c.call) := fun h => hij (congrArg Prod.fst h).symm
      refine (hT.calls j d hd).congr ⟨fun h => ?_, List.mem_append_left _⟩
        fun raw => ⟨fun h => ?_, List.mem_append_left _⟩
      · exact (mem_moved_acquired h).resolve_right fun h => hne h.1
      · exact (mem_moved_ended h).resolve_right fun h => hne h.1
  · intro key hkey
    rw [hget]
    rcases mem_moved_acquired hkey with hkey | ⟨rfl, -⟩
    · obtain ⟨d, hd, hcall⟩ := hT.known key hkey
      split
      · rename_i hij
        rw [← hij, hc] at hd
        cases hd
        exact ⟨_, rfl, hcall⟩
      · exact ⟨d, hd, hcall⟩
    · exact ⟨_, if_pos rfl, rfl⟩
  · refine List.nodup_append.mpr ⟨hT.nodup, ?_, ?_⟩
    · cases phase <;> simp
    · intro key hkey key' hkey' heq
      cases phase with
      | holding inner =>
        obtain rfl := List.mem_singleton.mp hkey'
        have hnot := hT.calls i c hc
        cases hphase : c.phase with
        | entering =>
          rw [hphase] at hnot
          exact hnot (heq ▸ hkey)
        | parked seen =>
          rw [hphase] at hnot
          exact hnot (heq ▸ hkey)
        | _ =>
          have h := hw inner rfl
          rw [hphase] at h
          exact h
      | _ => cases hkey'

theorem CallTracked.waiting {acquired : List cell.Key} {ended : List (cell.Key × cell.Raw)}
    {key : cell.Key} {phase : Phase I cell.Value} (h : CallTracked acquired ended key phase)
    (hw : phase.Waiting) : key ∉ acquired := by
  cases phase with
  | entering => exact h
  | parked seen => exact h
  | _ => exact hw.elim

theorem Refines.ended_acquired (hR : s.Refines a) {x : cell.Key × cell.Raw} (hx : x ∈ s.ended) :
    x.1 ∈ s.acquired := by
  rw [hR.ended] at hx
  rw [hR.acquired]
  exact a.begun_prefix.subset (Session.ended_fst_mem hx)

theorem tracked_step (hstep : s.step e = some t) (hcontained : e.Contained) (hR : s.Refines a)
    (hT : s.Tracked) : t.Tracked := by
  rcases step_cases hstep with ⟨call, rfl, rfl⟩ | ⟨i, c, action, m, phase, rfl, hc, hact, rfl⟩
  · exact hT.enter call
  · have hcall := hT.calls i c hc
    cases action with
    | lock =>
      have hw := (SyncCall.lock_eq_some hact).1
      have hnot := hcall.waiting hw
      have hacquired : (∀ inner, phase ≠ .holding inner) →
          (i, c.call) ∉ (s.moved i c .lock m phase).acquired := by
        intro hphase hmem
        rcases mem_moved_acquired hmem with hmem | ⟨-, inner, hinner⟩
        · exact hnot hmem
        · exact hphase inner hinner
      rcases SyncCall.lock_clean hact hR.clean with ⟨-, -, rfl⟩ |
          ⟨inner, busy, -, -, -, -, rfl⟩ | ⟨-, -, reply, hvalue, rfl, -⟩
      · exact hT.moved hc (hacquired nofun) nofun
      · refine hT.moved hc (fun raw hmem => ?_) fun _ _ => hw
        rcases mem_moved_ended hmem with hmem | ⟨-, haction⟩
        · exact hnot (hR.ended_acquired hmem)
        · cases haction
      · exact hT.moved hc (.inr ⟨hvalue, hacquired nofun⟩) nofun
    | begin =>
      obtain ⟨inner, hphase, -, rfl⟩ := SyncCall.begin_eq_some hact
      rw [hphase] at hcall
      refine hT.moved hc (fun raw hmem => ?_) nofun
      rcases mem_moved_ended hmem with hmem | ⟨-, haction⟩
      · exact hcall raw hmem
      · cases haction
    | finish raw =>
      obtain ⟨inner, result, hphase, hresult, -, rfl⟩ := SyncCall.finish_eq_some hact
      rw [hphase] at hcall
      refine hT.moved hc ⟨raw, hresult, fun raw' => ⟨fun hmem => ?_, fun heq => ?_⟩⟩ nofun
      · rcases mem_moved_ended hmem with hmem | ⟨-, haction⟩
        · exact absurd hmem (hcall raw')
        · cases haction
          rfl
      · rw [heq]
        exact List.mem_append_right _ List.mem_cons_self
    | store =>
      obtain ⟨inner, result, hphase, rfl, -⟩ := SyncCall.store_clean hact hR.clean
      rw [hphase] at hcall
      obtain ⟨raw, hresult, honly⟩ := hcall
      refine hT.moved hc (.inl ⟨raw, result, hresult, rfl, fun raw' => ?_⟩) nofun
      rw [← honly raw']
      exact ⟨fun h => (mem_moved_ended h).resolve_right nofun, List.mem_append_left _⟩
    | leave =>
      obtain ⟨reply, hphase, -, rfl⟩ := SyncCall.leave_eq_some hact
      rw [hphase] at hcall
      refine hT.moved hc (CallTracked.congr ⟨fun h => ?_, List.mem_append_left _⟩
        (fun raw => ⟨fun h => ?_, List.mem_append_left _⟩) hcall) nofun
      · exact (mem_moved_acquired h).resolve_right nofun
      · exact (mem_moved_ended h).resolve_right nofun
    | panic => exact hcontained.elim
    | poison => exact hcontained.elim
    | fail =>
      have hphase := (SyncCall.fail_eq_some hact).1
      have h := hR.calls i c hc
      rw [hphase] at h
      exact h.elim

/-! ## Waiting and waking -/

/-- A waiter that has not been notified waits for a busy object. -/
def Notified (s : SyncSystem cell) : Prop :=
  ∀ (i : Nat) (c : SyncCall cell) seen, s.calls[i]? = some c → c.phase = .parked seen →
    seen ≤ s.monitor.changed ∧
      (seen = s.monitor.changed → cell.view s.monitor.state = .busy)

/-- One call moves and the object does not become free without a notification. -/
theorem Notified.moved (hN : s.Notified) (hc : s.calls[i]? = some c) {action : CallAction cell}
    {m : Monitor cell.State} {phase : Phase I cell.Value}
    (hm : s.monitor.changed < m.changed ∨ s.monitor.changed = m.changed ∧
      (cell.view s.monitor.state = .busy → cell.view m.state = .busy))
    (hphase : ∀ seen, phase = .parked seen →
      seen = m.changed ∧ cell.view m.state = .busy) :
    (s.moved i c action m phase).Notified := by
  intro j d seen hd hparked
  rw [getElem?_moved hc] at hd
  split at hd
  · cases hd
    obtain ⟨heq, hbusy⟩ := hphase seen hparked
    exact ⟨Nat.le_of_eq heq, fun _ => hbusy⟩
  · obtain ⟨hle, hbusy⟩ := hN j d seen hd hparked
    rcases hm with hlt | ⟨heq, hkept⟩
    · exact ⟨Nat.le_of_lt (Nat.lt_of_le_of_lt hle hlt), fun h =>
        absurd (h ▸ hle : m.changed ≤ s.monitor.changed) (Nat.not_le.mpr hlt)⟩
    · exact ⟨heq ▸ hle, fun h => hkept (hbusy (h.trans heq.symm))⟩

theorem notified_step (hstep : s.step e = some t) (hcontained : e.Contained) (hR : s.Refines a)
    (hN : s.Notified) : t.Notified := by
  rcases step_cases hstep with ⟨call, rfl, rfl⟩ | ⟨i, c, action, m, phase, rfl, hc, hact, rfl⟩
  · intro j d seen hd hparked
    rcases Nat.lt_or_ge j s.calls.length with hlt | hge
    · rw [List.getElem?_append_left hlt] at hd
      exact hN j d seen hd hparked
    · rw [List.getElem?_append_right hge, List.getElem?_singleton] at hd
      split at hd <;> cases hd
      cases hparked
  · cases action with
    | lock =>
      rcases SyncCall.lock_clean hact hR.clean with ⟨hbusy, rfl, rfl⟩ |
          ⟨inner, busy, hstored, hbusy, -, rfl, rfl⟩ | ⟨-, rfl, reply, -, rfl, -⟩
      · refine hN.moved hc (.inr ⟨rfl, id⟩) fun seen h => ?_
        cases h
        exact ⟨rfl, hbusy⟩
      · exact hN.moved hc (.inr ⟨rfl, fun _ => hbusy⟩) nofun
      · exact hN.moved hc (.inr ⟨rfl, id⟩) nofun
    | begin =>
      obtain ⟨inner, -, rfl, rfl⟩ := SyncCall.begin_eq_some hact
      exact hN.moved hc (.inr ⟨rfl, id⟩) nofun
    | finish raw =>
      obtain ⟨inner, result, -, -, rfl, rfl⟩ := SyncCall.finish_eq_some hact
      exact hN.moved hc (.inr ⟨rfl, id⟩) nofun
    | store =>
      obtain ⟨inner, result, -, rfl, hm⟩ := SyncCall.store_clean hact hR.clean
      exact hN.moved hc (.inl (by rw [hm]; exact Nat.lt_succ_self _)) nofun
    | leave =>
      obtain ⟨reply, -, rfl, rfl⟩ := SyncCall.leave_eq_some hact
      exact hN.moved hc (.inr ⟨rfl, id⟩) nofun
    | panic => exact hcontained.elim
    | poison => exact hcontained.elim
    | fail =>
      obtain ⟨-, hm, rfl⟩ := SyncCall.fail_eq_some hact
      exact hN.moved hc (.inl (by rw [hm]; exact Nat.lt_succ_self _)) nofun

/-! ## Runs without an outer panic -/

structure Orderly (s : SyncSystem cell) : Prop where
  refines : ∃ a, s.Refines a
  tracked : s.Tracked
  notified : s.Notified

theorem orderly_step (he : e.Contained) (hs : s.Orderly) (hstep : step s e = some t) :
    t.Orderly := by
  obtain ⟨⟨a, hR⟩, hT, hN⟩ := hs
  obtain ⟨b, -, hR'⟩ := simulates_session hstep he hR
  exact ⟨⟨b, hR'⟩, tracked_step hstep he hR hT, notified_step hstep he hR hN⟩

theorem orderly_run (hcontained : ∀ e ∈ es, e.Contained) (hs : s.Orderly)
    (hrun : run step s es = some t) : t.Orderly :=
  run_of_events (fun _ _ _ hstep he hs => orderly_step he hs hstep) hcontained hs hrun

theorem orderly_opened (cell : SyncCell I) (inner : I) : (opened cell inner).Orderly where
  refines := ⟨_, refines_opened cell inner⟩
  tracked := tracked_opened cell inner
  notified := nofun

/-- Nobody has taken the object since `s`, and every new reply is the one that the state of
`s` gives. -/
structure Quiet (s t : SyncSystem cell) : Prop where
  monitor : t.monitor = s.monitor
  acquired : t.acquired = s.acquired
  begun : t.begun = s.begun
  ended : t.ended = s.ended
  replies : ∀ (i : Nat) (c : SyncCall cell) reply, t.calls[i]? = some c →
    c.phase.reply? = some reply →
    (∃ c₀, s.calls[i]? = some c₀ ∧ c₀.call = c.call ∧ c₀.phase.reply? = some reply) ∨
    ∀ n, cell.afterTake c.call n (cell.take c.call s.monitor).2 = .leaving reply

theorem Quiet.refl (s : SyncSystem cell) : Quiet s s where
  monitor := rfl
  acquired := rfl
  begun := rfl
  ended := rfl
  replies _ c _ hc hreply := .inl ⟨c, hc, rfl, hreply⟩

/-- A call moves without the object. -/
theorem Quiet.moved {s₀ : SyncSystem cell} (hq : Quiet s₀ s) (hc : s.calls[i]? = some c)
    {action : CallAction cell} {phase : Phase I cell.Value}
    (haction : ∀ raw, action ≠ .finish raw)
    (hphase : ¬ phase.HasInner)
    (hreply : ∀ reply, phase.reply? = some reply → c.phase.reply? = some reply ∨
      ∀ n, cell.afterTake c.call n (cell.take c.call s₀.monitor).2 = .leaving reply) :
    Quiet s₀ (s.moved i c action s.monitor phase) where
  monitor := hq.monitor
  acquired := by
    cases phase with
    | holding inner => exact absurd trivial hphase
    | _ => exact (List.append_nil _).trans hq.acquired
  begun := by
    cases phase with
    | running inner => exact absurd trivial hphase
    | _ => exact (List.append_nil _).trans hq.begun
  ended := by
    cases action with
    | finish raw => exact absurd rfl (haction raw)
    | _ => exact (List.append_nil _).trans hq.ended
  replies := by
    intro j d reply hd hrep
    rw [getElem?_moved hc] at hd
    split at hd
    · rename_i hij
      subst hij
      cases hd
      rcases hreply reply hrep with hrep | hnew
      · exact hq.replies i c reply hc hrep
      · exact .inr hnew
    · exact hq.replies j d reply hd hrep

theorem Refines.hasInner_busy (hR : s.Refines a) (hc : s.calls[i]? = some c)
    (hinner : c.phase.HasInner) : cell.view s.monitor.state = .busy :=
  hR.busy_iff.mpr ⟨_, (hR.calls i c hc).hasInner_iff.mp hinner⟩

theorem quiet_step {s₀ : SyncSystem cell} (hstep : s.step e = some t) (hcontained : e.Contained)
    (hR : s.Refines a) (hfree : cell.view s₀.monitor.state ≠ .busy) (hq : Quiet s₀ s) :
    Quiet s₀ t ∨ ∃ key inner, t.acquired = s₀.acquired ++ [key] ∧
      (cell.take key.2 s₀.monitor).2 = .acquired inner := by
  have hno : ∀ (i : Nat) (c : SyncCall cell), s.calls[i]? = some c → ¬ c.phase.HasInner :=
    fun i c hc hinner => hfree (hq.monitor ▸ hR.hasInner_busy hc hinner)
  rcases step_cases hstep with ⟨call, rfl, rfl⟩ | ⟨i, c, action, m, phase, rfl, hc, hact, rfl⟩
  · refine .inl ⟨hq.monitor, hq.acquired, hq.begun, hq.ended, ?_⟩
    intro j d reply hd hrep
    rcases Nat.lt_or_ge j s.calls.length with hlt | hge
    · rw [List.getElem?_append_left hlt] at hd
      exact hq.replies j d reply hd hrep
    · rw [List.getElem?_append_right hge, List.getElem?_singleton] at hd
      split at hd <;> cases hd
      cases hrep
  · cases action with
    | lock =>
      rcases SyncCall.lock_clean hact hR.clean with ⟨hbusy, -, -⟩ |
          ⟨inner, busy, -, -, htake, -, rfl⟩ | ⟨-, rfl, reply, -, rfl, hafter⟩
      · exact absurd (hq.monitor ▸ hbusy) hfree
      · refine .inr ⟨(i, c.call), inner, ?_, ?_⟩
        · exact congrArg (· ++ [(i, c.call)]) hq.acquired
        · rw [← hq.monitor, htake]
      · refine .inl (hq.moved hc nofun id fun reply' hrep => .inr fun n => ?_)
        cases hrep
        rw [← hq.monitor]
        exact hafter n
    | begin =>
      obtain ⟨inner, hphase, -, -⟩ := SyncCall.begin_eq_some hact
      exact absurd (hphase ▸ trivial) (hno i c hc)
    | finish raw =>
      obtain ⟨inner, result, hphase, -⟩ := SyncCall.finish_eq_some hact
      exact absurd (hphase ▸ trivial) (hno i c hc)
    | store =>
      obtain ⟨inner, result, hphase, -⟩ := SyncCall.store_clean hact hR.clean
      exact absurd (hphase ▸ trivial) (hno i c hc)
    | leave =>
      obtain ⟨reply, hphase, rfl, rfl⟩ := SyncCall.leave_eq_some hact
      refine .inl (hq.moved hc nofun id fun reply' hrep => .inl ?_)
      rw [hphase]
      exact hrep
    | panic => exact hcontained.elim
    | poison => exact hcontained.elim
    | fail =>
      have hphase := (SyncCall.fail_eq_some hact).1
      have h := hR.calls i c hc
      rw [hphase] at h
      exact h.elim

/-- A reply after a step is an old one, the answer of the state at the lock, or the result
whose state has just been stored. -/
theorem reply_cases (hstep : s.step e = some t) (hcontained : e.Contained) (hR : s.Refines a)
    (hc : t.calls[i]? = some c) {reply : Reply cell.Value} (hreply : c.phase.reply? = some reply) :
    (∃ c₀, s.calls[i]? = some c₀ ∧ c₀.phase.reply? = some reply) ∨
    (t.monitor = s.monitor ∧
      ∀ n, cell.afterTake c.call n (cell.take c.call s.monitor).2 = .leaving reply) ∨
    ∃ inner result, reply = cell.storeReply result ∧
      t.monitor.state = cell.storedState inner result := by
  rcases step_cases hstep with ⟨call, rfl, rfl⟩ | ⟨j, d, action, m, phase, rfl, hd, hact, rfl⟩
  · rcases Nat.lt_or_ge i s.calls.length with hlt | hge
    · rw [List.getElem?_append_left hlt] at hc
      exact .inl ⟨c, hc, hreply⟩
    · rw [List.getElem?_append_right hge, List.getElem?_singleton] at hc
      split at hc <;> cases hc
      cases hreply
  · rw [getElem?_moved hd] at hc
    split at hc
    · rename_i hji
      subst hji
      cases hc
      cases action with
      | lock =>
        rcases SyncCall.lock_clean hact hR.clean with ⟨-, -, rfl⟩ |
            ⟨inner, busy, -, -, -, -, rfl⟩ | ⟨-, rfl, reply', -, rfl, hafter⟩
        · cases hreply
        · cases hreply
        · cases hreply
          exact .inr (.inl ⟨rfl, hafter⟩)
      | begin =>
        obtain ⟨inner, -, -, rfl⟩ := SyncCall.begin_eq_some hact
        cases hreply
      | finish raw =>
        obtain ⟨inner, result, -, -, -, rfl⟩ := SyncCall.finish_eq_some hact
        cases hreply
      | store =>
        obtain ⟨inner, result, -, rfl, rfl⟩ := SyncCall.store_clean hact hR.clean
        cases hreply
        exact .inr (.inr ⟨inner, result, rfl, rfl⟩)
      | leave =>
        obtain ⟨reply', hphase, -, rfl⟩ := SyncCall.leave_eq_some hact
        exact .inl ⟨d, hd, by rw [hphase]; exact hreply⟩
      | panic => exact hcontained.elim
      | poison => exact hcontained.elim
      | fail =>
        have hphase := (SyncCall.fail_eq_some hact).1
        have h := hR.calls _ d hd
        rw [hphase] at h
        exact h.elim
    · exact .inl ⟨c, hc, hreply⟩

/-- A call that comes to the lock and has nothing to take is answered at once. -/
theorem lock_answered (hclean : s.monitor.poisoned = false) (hc : s.calls[i]? = some c)
    (hw : c.phase.Waiting) {reply : Reply cell.Value}
    (hafter : ∀ n, cell.afterTake c.call n (cell.take c.call s.monitor).2 = .leaving reply) :
    ∃ t, s.step (.act i .lock) = some t ∧ t.monitor = s.monitor ∧ t.acquired = s.acquired ∧
      t.calls[i]? = some { c with phase := .leaving reply } := by
  have hlock := SyncCall.lock_of_waiting hw s.monitor
  rw [hafter] at hlock
  refine ⟨_, step_act hc hlock, ?_, List.append_nil _, ?_⟩
  · rcases SyncCall.lock_clean hlock hclean with ⟨-, hm, -⟩ | ⟨inner, busy, -, -, -, -, h⟩ |
        ⟨-, hm, -⟩
    · exact hm
    · cases h
    · exact hm
  · rw [getElem?_moved hc, if_pos rfl]

theorem step_acquired_grows (hstep : s.step e = some t) : s.acquired <+: t.acquired := by
  rcases step_cases hstep with ⟨call, -, rfl⟩ | ⟨i, c, action, m, phase, -, -, -, rfl⟩
  · exact List.prefix_rfl
  · exact List.prefix_append _ _

theorem run_ended_prefix (hrun : run step s es = some t) : s.ended <+: t.ended := by
  have hkeep : Preserves (@step I cell) fun u => s.ended <+: u.ended := by
    intro u e v hstep hu
    rcases step_cases hstep with ⟨call, -, rfl⟩ | ⟨i, c, action, m, phase, -, -, -, rfl⟩
    · exact hu
    · exact hu.trans (List.prefix_append _ _)
  exact hkeep.run List.prefix_rfl hrun

/-- While nobody has the object, nothing changes before a call takes it out of the present
state. -/
theorem quiet_run (hcontained : ∀ e ∈ es, e.Contained) (hs : s.Orderly)
    (hfree : cell.view s.monitor.state ≠ .busy) (hrun : run step s es = some t) :
    Quiet s t ∨ ∃ key rest inner, t.acquired = s.acquired ++ key :: rest ∧
      (cell.take key.2 s.monitor).2 = .acquired inner := by
  suffices hkeep : t.Orderly ∧ (Quiet s t ∨ ∃ key rest inner,
      t.acquired = s.acquired ++ key :: rest ∧
        (cell.take key.2 s.monitor).2 = .acquired inner) from hkeep.2
  refine run_of_events (I := fun u => u.Orderly ∧ (Quiet s u ∨ ∃ key rest inner,
    u.acquired = s.acquired ++ key :: rest ∧
      (cell.take key.2 s.monitor).2 = .acquired inner)) ?_ hcontained ⟨hs, .inl (.refl s)⟩ hrun
  intro u e v hstep he ⟨hu, hcases⟩
  refine ⟨orderly_step he hu hstep, ?_⟩
  rcases hcases with hq | ⟨key, rest, inner, hacquired, htake⟩
  · obtain ⟨a, hR⟩ := hu.refines
    rcases quiet_step hstep he hR hfree hq with hq | ⟨key, inner, hacquired, htake⟩
    · exact .inl hq
    · exact .inr ⟨key, [], inner, hacquired, htake⟩
  · obtain ⟨more, hmore⟩ := step_acquired_grows hstep
    refine .inr ⟨key, rest ++ more, inner, ?_, htake⟩
    rw [← hmore, hacquired, List.append_assoc, List.cons_append]

/-- A state that has no object to take is never left. -/
theorem over_run (hcontained : ∀ e ∈ es, e.Contained) (hs : s.Orderly)
    (hover : cell.view s.monitor.state = .over ∨ cell.view s.monitor.state = .failed)
    (hrun : run step s es = some t) : Quiet s t := by
  obtain ⟨a, hR⟩ := hs.refines
  have hfree : cell.view s.monitor.state ≠ .busy := by
    rcases hover with h | h <;> rw [h] <;> nofun
  rcases quiet_run hcontained hs hfree hrun with hq | ⟨key, rest, inner, -, htake⟩
  · exact hq
  · rcases cell.take_free key.2 hR.clean hfree with ⟨inner', busy, hstored, -, -⟩ | ⟨h, -⟩ | ⟨f, h⟩
    · rw [hstored] at hover
      rcases hover with h | h <;> cases h
    · rw [h] at htake
      cases htake
    · rw [h] at htake
      cases htake

/-- What every state of a run without an outer panic guarantees, whatever the object. -/
structure Serialized (s : SyncSystem cell) : Prop where
  /-- At most one call is between taking the object and storing its next state. -/
  one_inner : ∀ (i j : Nat) (c d : SyncCall cell), s.calls[i]? = some c → s.calls[j]? = some d →
    c.phase.HasInner → d.phase.HasInner → i = j
  in_order : s.begun <+: s.acquired
  /-- An inner operation begins when all that began before have ended. -/
  no_overlap : s.begun = s.ended.map Prod.fst ∨ ∃ key, s.begun = s.ended.map Prod.fst ++ [key]
  /-- Nothing begins behind an operation that has not given the object back. -/
  behind : ∀ l key rest, s.begun = l ++ key :: rest → rest ≠ [] →
    ∃ raw, (key, raw) ∈ s.ended ∧ cell.Proceeds key raw
  once : s.acquired.Nodup
  /-- While nobody has the object, every call that took it has ended its inner step. -/
  all_ended : cell.view s.monitor.state ≠ .busy → s.ended.map Prod.fst = s.acquired
  woken : ∀ (i : Nat) (c : SyncCall cell) seen, s.calls[i]? = some c → c.phase = .parked seen →
    cell.view s.monitor.state ≠ .busy → seen < s.monitor.changed
  /-- The state that nobody has taken is the one that the last inner step asked for. -/
  settled : cell.view s.monitor.state ≠ .busy →
    ∃ inner, s.monitor.state = cell.stateAfter inner s.ended

theorem Orderly.serialized (hs : s.Orderly) : s.Serialized := by
  obtain ⟨⟨a, hR⟩, hT, hN⟩ := hs
  refine {
    one_inner := ?_, in_order := ?_, no_overlap := ?_, behind := ?_, once := hT.nodup,
    all_ended := ?_, woken := ?_, settled := hR.state_eq }
  · intro i j c d hc hd hci hdj
    have hi := (hR.calls i c hc).hasInner_iff.mp hci
    have hj := (hR.calls j d hd).hasInner_iff.mp hdj
    exact congrArg Prod.fst (Option.some.inj (hi.symm.trans hj))
  · rw [hR.begun, hR.acquired]
    exact a.begun_prefix
  · rw [hR.begun, hR.ended]
    exact a.ended_or_one_begun
  · intro l key rest h hrest
    rw [hR.begun] at h
    rw [hR.ended]
    exact Session.proceeds_of_begun_append h hrest
  · intro hfree
    have hholder := hR.busy_iff.not.mp hfree
    rw [hR.ended, hR.acquired]
    apply Session.ended_eq_acquired
    cases hstage : a.stage.holder with
    | none => rfl
    | some key => exact absurd ⟨key, hstage⟩ hholder
  · intro i c seen hc hparked hfree
    obtain ⟨hle, hbusy⟩ := hN i c seen hc hparked
    exact Nat.lt_of_le_of_ne hle fun h => hfree (hbusy h)

/-- Every result of the object belongs to one call, which has it or has answered with it. -/
theorem Orderly.told (hs : s.Orderly) {key : cell.Key} {raw : cell.Raw}
    (hended : (key, raw) ∈ s.ended) :
    ∃ c result, s.calls[key.1]? = some c ∧ c.call = key.2 ∧
      cell.stepResult key.2 raw = some result ∧
      ((∃ inner, c.phase = .stepped inner result) ∨
        c.phase.reply? = some (cell.storeReply result)) := by
  obtain ⟨⟨a, hR⟩, hT, -⟩ := hs
  have hacquired : key ∈ s.acquired := hR.ended_acquired hended
  obtain ⟨c, hc, hcall⟩ := hT.known key hacquired
  have hlogs := hT.calls key.1 c hc
  have hstage := hR.calls key.1 c hc
  rw [show (key.1, c.call) = key from Prod.ext rfl hcall] at hlogs hstage
  have hanswered : ∀ reply, c.phase.reply? = some reply →
      CallTracked s.acquired s.ended key (.leaving reply) →
      ∃ c result, s.calls[key.1]? = some c ∧ c.call = key.2 ∧
        cell.stepResult key.2 raw = some result ∧
        ((∃ inner, c.phase = .stepped inner result) ∨
          c.phase.reply? = some (cell.storeReply result)) := by
    intro reply hreply h
    rcases h with ⟨raw', result, hresult, rfl, honly⟩ | ⟨-, hnot⟩
    · obtain rfl := (honly raw).mp hended
      exact ⟨c, result, hc, hcall, hresult, .inr hreply⟩
    · exact absurd hacquired hnot
  cases hphase : c.phase with
  | entering =>
    rw [hphase] at hlogs
    exact absurd hacquired hlogs
  | parked seen =>
    rw [hphase] at hlogs
    exact absurd hacquired hlogs
  | holding inner =>
    rw [hphase] at hlogs
    exact absurd hended (hlogs raw)
  | running inner =>
    rw [hphase] at hlogs
    exact absurd hended (hlogs raw)
  | stepped inner result =>
    rw [hphase] at hlogs
    obtain ⟨raw', hresult, honly⟩ := hlogs
    obtain rfl := (honly raw).mp hended
    exact ⟨c, result, hc, hcall, hresult, .inl ⟨inner, hphase⟩⟩
  | panicking =>
    rw [hphase] at hstage
    exact hstage.elim
  | leaving reply =>
    rw [hphase] at hlogs
    exact hanswered reply (by rw [hphase]; rfl) hlogs
  | returned reply =>
    rw [hphase] at hlogs
    exact hanswered reply (by rw [hphase]; rfl) hlogs

/-- A reply is the one of the call's own result, or it carries no value. -/
theorem Orderly.own_reply (hs : s.Orderly) (hc : s.calls[i]? = some c)
    {reply : Reply cell.Value} (hreply : c.phase.reply? = some reply) :
    (∃ raw result, ((i, c.call), raw) ∈ s.ended ∧ cell.stepResult c.call raw = some result ∧
      reply = cell.storeReply result) ∨ (reply.value = none ∧ (i, c.call) ∉ s.acquired) := by
  have hlogs := hs.tracked.calls i c hc
  cases hphase : c.phase with
  | leaving reply' =>
    rw [hphase] at hlogs hreply
    cases hreply
    refine hlogs.imp_left ?_
    intro ⟨raw, result, hresult, heq, honly⟩
    exact ⟨raw, result, (honly raw).mpr rfl, hresult, heq⟩
  | returned reply' =>
    rw [hphase] at hlogs hreply
    cases hreply
    refine hlogs.imp_left ?_
    intro ⟨raw, result, hresult, heq, honly⟩
    exact ⟨raw, result, (honly raw).mpr rfl, hresult, heq⟩
  | _ =>
    rw [hphase] at hreply
    cases hreply

end SyncSystem

end OpendalMbt.Native
