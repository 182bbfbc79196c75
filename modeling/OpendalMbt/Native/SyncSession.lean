import OpendalMbt.Native.SyncSystem
import OpendalMbt.Transition.Session

/-!
# A guarded object is used in a serial session

Without a panic outside the inner steps, every step of a `SyncSystem` is matched by a step
of a `Session` (`simulates_session`), so the calls on a writer or a copier use its inner
object one after the other, in the order in which they took it.

* `Tracked` relates each call to the logs: a call takes the object at most once, and its
  reply is the one of its own inner step.
* `quiet_run` says what happens while nobody has the object: until a call takes it, nothing
  changes, and every call is answered as the present state answers it.
-/

namespace OpendalMbt.Native

open Transition

variable {I : Type} {cell : SyncCell I}

/-- The result of this call gives the inner object back. -/
def SyncCell.Proceeds (cell : SyncCell I) (key : cell.Key) (raw : cell.Raw) : Prop :=
  ∃ value, cell.stepResult key.2 raw = some (.ok value) ∧ cell.proceeds value = true

/-- The state when nobody has the object: the one that the last call stored. -/
def SyncCell.stateAfter (cell : SyncCell I) (inner : I) (ended : List (cell.Key × cell.Raw)) :
    cell.State :=
  match ended.getLast? with
  | none => cell.fresh inner
  | some (key, raw) =>
    match cell.stepResult key.2 raw with
    | some result => cell.storedState inner result
    | none => cell.failed

theorem SyncCell.view_storedState (cell : SyncCell I) {key : cell.Key} {raw : cell.Raw}
    {result : StepResult cell.Value} (h : cell.stepResult key.2 raw = some result) (inner : I) :
    (cell.Proceeds key raw → cell.view (cell.storedState inner result) = .stored inner) ∧
      (¬ cell.Proceeds key raw → cell.view (cell.storedState inner result) = .over ∨
        cell.view (cell.storedState inner result) = .failed) := by
  constructor
  · intro hp
    obtain ⟨value, hvalue, hproceeds⟩ := hp
    rw [h] at hvalue
    cases hvalue
    simp [storedState, cell.view_next, hproceeds]
  · intro hp
    cases result with
    | ok value =>
      have hstops : cell.proceeds value ≠ true := fun hv => hp ⟨value, h, hv⟩
      exact .inl (by simp [storedState, cell.view_next, hstops])
    | error failure => exact .inr cell.view_failed
    | panic => exact .inr cell.view_failed

theorem SyncCell.stateAfter_eq (cell : SyncCell I) (inner : I)
    {ended : List (cell.Key × cell.Raw)} {key : cell.Key} {raw : cell.Raw}
    {result : StepResult cell.Value} (hlast : ended.getLast? = some (key, raw))
    (h : cell.stepResult key.2 raw = some result) :
    cell.stateAfter inner ended = cell.storedState inner result := by
  simp only [stateAfter, hlast, h]

theorem SyncCell.stateAfter_append (cell : SyncCell I) (inner : I)
    (past : List (cell.Key × cell.Raw)) {key : cell.Key} {raw : cell.Raw}
    {result : StepResult cell.Value} (h : cell.stepResult key.2 raw = some result) :
    cell.stateAfter inner (past ++ [(key, raw)]) = cell.storedState inner result :=
  cell.stateAfter_eq inner List.getLast?_concat h

theorem SyncCell.view_stateAfter_stopped (cell : SyncCell I) (inner : I)
    (past : List (cell.Key × cell.Raw)) {key : cell.Key} {raw : cell.Raw}
    (hp : ¬ cell.Proceeds key raw) :
    cell.view (cell.stateAfter inner (past ++ [(key, raw)])) = .over ∨
      cell.view (cell.stateAfter inner (past ++ [(key, raw)])) = .failed := by
  cases hresult : cell.stepResult key.2 raw with
  | some result =>
    rw [cell.stateAfter_append inner past hresult]
    exact (cell.view_storedState hresult inner).2 hp
  | none =>
    have hfailed : cell.stateAfter inner (past ++ [(key, raw)]) = cell.failed := by
      simp only [stateAfter, List.getLast?_append, List.getLast?_singleton, Option.some_or, hresult]
    exact .inr (hfailed ▸ cell.view_failed)

theorem SyncCell.view_stateAfter (cell : SyncCell I) (inner : I)
    (ended : List (cell.Key × cell.Raw)) : cell.view (cell.stateAfter inner ended) ≠ .busy := by
  rcases List.eq_nil_or_concat ended with rfl | ⟨past, ⟨key, raw⟩, rfl⟩
  · rw [show cell.stateAfter inner [] = cell.fresh inner from rfl, cell.view_fresh]
    nofun
  · rw [List.concat_eq_append]
    by_cases hp : cell.Proceeds key raw
    · obtain ⟨value, hvalue, hproceeds⟩ := id hp
      rw [cell.stateAfter_append inner past hvalue, (cell.view_storedState hvalue inner).1 hp]
      nofun
    · intro hbusy
      rcases cell.view_stateAfter_stopped inner past hp with h | h <;> rw [hbusy] at h <;> cases h

abbrev SyncCell.Session (cell : SyncCell I) := Transition.Session cell.Key cell.Raw cell.Proceeds

namespace SyncSystem

/-- What the phase of a call says about the session. -/
def StageAgrees (key : cell.Key) (phase : Phase I cell.Value) (stage : Stage cell.Key cell.Raw) :
    Prop :=
  match phase with
  | .holding _ => stage = .acquired key
  | .running _ => stage = .begun key
  | .stepped _ result => ∃ raw, stage = .ended key raw ∧ cell.stepResult key.2 raw = some result
  | .panicking => False
  | .entering | .parked _ | .leaving _ | .returned _ => stage.holder ≠ some key

def GateAgrees (state : cell.State) (a : cell.Session) : Prop :=
  match a.stage with
  | .acquired _ | .begun _ | .ended _ _ => cell.view state = .busy
  | .ready | .closed _ _ => ∃ inner, state = cell.stateAfter inner a.ended

structure Refines (s : SyncSystem cell) (a : cell.Session) : Prop where
  clean : s.monitor.poisoned = false
  gate : GateAgrees s.monitor.state a
  calls : ∀ i c, s.calls[i]? = some c → StageAgrees (i, c.call) c.phase a.stage
  holder : ∀ key, a.stage.holder = some key →
    ∃ c, s.calls[key.1]? = some c ∧ c.call = key.2 ∧ c.phase.HasInner
  acquired : s.acquired = a.acquired
  begun : s.begun = a.begun
  ended : s.ended = a.ended

variable {s t : SyncSystem cell} {e : SyncEvent cell} {a : cell.Session} {i : Nat}
  {c : SyncCall cell}

theorem refines_opened (cell : SyncCell I) (inner : I) :
    (opened cell inner).Refines (Session.fresh cell.Proceeds) where
  clean := rfl
  gate := ⟨inner, rfl⟩
  calls := nofun
  holder := nofun
  acquired := rfl
  begun := rfl
  ended := rfl

theorem Refines.busy_iff (hR : s.Refines a) :
    cell.view s.monitor.state = .busy ↔ ∃ key, a.stage.holder = some key := by
  have hgate := hR.gate
  unfold GateAgrees at hgate
  have hfree : (∃ inner, s.monitor.state = cell.stateAfter inner a.ended) →
      cell.view s.monitor.state ≠ .busy := by
    intro ⟨inner, h⟩
    rw [h]
    exact cell.view_stateAfter inner _
  cases hstage : a.stage with
  | ready =>
    rw [hstage] at hgate
    exact iff_of_false (hfree hgate) nofun
  | closed op result =>
    rw [hstage] at hgate
    exact iff_of_false (hfree hgate) nofun
  | acquired op =>
    rw [hstage] at hgate
    exact iff_of_true hgate ⟨op, rfl⟩
  | begun op =>
    rw [hstage] at hgate
    exact iff_of_true hgate ⟨op, rfl⟩
  | ended op result =>
    rw [hstage] at hgate
    exact iff_of_true hgate ⟨op, rfl⟩

/-- When nobody has the object, the state is the one that the last inner step asked for. -/
theorem Refines.state_eq (hR : s.Refines a) (hfree : cell.view s.monitor.state ≠ .busy) :
    ∃ inner, s.monitor.state = cell.stateAfter inner s.ended := by
  have hgate := hR.gate
  have hholder := hR.busy_iff.not.mp hfree
  unfold GateAgrees at hgate
  rw [hR.ended]
  cases hstage : a.stage with
  | ready =>
    rw [hstage] at hgate
    exact hgate
  | closed op result =>
    rw [hstage] at hgate
    exact hgate
  | _ => exact absurd ⟨_, by rw [hstage]; rfl⟩ hholder

theorem Refines.ready_of_stored (hR : s.Refines a) {inner : I}
    (hstored : cell.view s.monitor.state = .stored inner) : a.stage = .ready := by
  have hgate := hR.gate
  have hholder := hR.busy_iff.not.mp (by rw [hstored]; nofun)
  unfold GateAgrees at hgate
  cases hstage : a.stage with
  | ready => rfl
  | closed op result =>
    rw [hstage] at hgate
    obtain ⟨inner', hstate⟩ := hgate
    have hlog : a.ended = a.past ++ [(op, result)] := by
      rw [Session.ended, hstage]
      rfl
    rw [hstate, hlog] at hstored
    rcases cell.view_stateAfter_stopped inner' a.past (a.closed_stops op result hstage) with h | h
    · rw [hstored] at h
      cases h
    · rw [hstored] at h
      cases h
  | _ => exact absurd ⟨_, by rw [hstage]; rfl⟩ hholder

theorem StageAgrees.other {key : cell.Key} {phase : Phase I cell.Value}
    {stage stage' : Stage cell.Key cell.Raw} (h : StageAgrees key phase stage)
    (hne : stage.holder ≠ some key) (hne' : stage'.holder ≠ some key) :
    StageAgrees key phase stage' := by
  cases phase with
  | holding inner =>
    rw [show stage = .acquired key from h] at hne
    exact absurd rfl hne
  | running inner =>
    rw [show stage = .begun key from h] at hne
    exact absurd rfl hne
  | stepped inner result =>
    obtain ⟨raw, rfl, -⟩ := h
    exact absurd rfl hne
  | panicking => exact h
  | entering => exact hne'
  | parked seen => exact hne'
  | leaving reply => exact hne'
  | returned reply => exact hne'

theorem StageAgrees.hasInner_iff {key : cell.Key} {phase : Phase I cell.Value}
    {stage : Stage cell.Key cell.Raw} (h : StageAgrees key phase stage) :
    phase.HasInner ↔ stage.holder = some key := by
  cases phase with
  | holding inner =>
    rw [show stage = .acquired key from h]
    exact iff_of_true trivial rfl
  | running inner =>
    rw [show stage = .begun key from h]
    exact iff_of_true trivial rfl
  | stepped inner result =>
    obtain ⟨raw, rfl, -⟩ := h
    exact iff_of_true trivial rfl
  | panicking => exact h.elim
  | entering => exact iff_of_false id h
  | parked seen => exact iff_of_false id h
  | leaving reply => exact iff_of_false id h
  | returned reply => exact iff_of_false id h

/-- The call that has the object moves; the others see no holder but it. -/
theorem Refines.calls_moved (hR : s.Refines a) (hc : s.calls[i]? = some c)
    {phase : Phase I cell.Value} {stage : Stage cell.Key cell.Raw}
    (hold : ∀ key, a.stage.holder = some key → key = (i, c.call))
    (hold' : ∀ key, stage.holder = some key → key = (i, c.call))
    (hself : StageAgrees (i, c.call) phase stage) {action : CallAction cell}
    {m : Monitor cell.State} (j : Nat) (d : SyncCall cell)
    (hd : (s.moved i c action m phase).calls[j]? = some d) :
    StageAgrees (j, d.call) d.phase stage := by
  rw [getElem?_moved hc] at hd
  split at hd
  · rename_i hij
    subst hij
    cases hd
    exact hself
  · rename_i hij
    refine (hR.calls j d hd).other (fun h => ?_) (fun h => ?_)
    · exact hij (congrArg Prod.fst (hold _ h)).symm
    · exact hij (congrArg Prod.fst (hold' _ h)).symm

/-- A call without the object moves to another phase without it. -/
theorem Refines.moved_aside (hR : s.Refines a) (hc : s.calls[i]? = some c)
    {action : CallAction cell} {phase : Phase I cell.Value}
    (hne : a.stage.holder ≠ some (i, c.call))
    (hphase : (∃ seen, phase = .parked seen) ∨ (∃ reply, phase = .leaving reply) ∨
      ∃ reply, phase = .returned reply)
    (haction : ∀ raw, action ≠ .finish raw) :
    (s.moved i c action s.monitor phase).Refines a := by
  have hself : StageAgrees (i, c.call) phase a.stage := by
    rcases hphase with ⟨seen, rfl⟩ | ⟨reply, rfl⟩ | ⟨reply, rfl⟩
    · exact hne
    · exact hne
    · exact hne
  have hended : (s.moved i c action s.monitor phase).ended = s.ended := by
    cases action with
    | finish raw => exact absurd rfl (haction raw)
    | _ => exact List.append_nil _
  have hlogs : (s.moved i c action s.monitor phase).acquired = s.acquired ∧
      (s.moved i c action s.monitor phase).begun = s.begun := by
    rcases hphase with ⟨seen, rfl⟩ | ⟨reply, rfl⟩ | ⟨reply, rfl⟩
    · exact ⟨List.append_nil _, List.append_nil _⟩
    · exact ⟨List.append_nil _, List.append_nil _⟩
    · exact ⟨List.append_nil _, List.append_nil _⟩
  refine {
    clean := hR.clean, gate := hR.gate, calls := ?_, holder := ?_,
    acquired := hlogs.1.trans hR.acquired, begun := hlogs.2.trans hR.begun,
    ended := hended.trans hR.ended }
  · intro j d hd
    rw [getElem?_moved hc] at hd
    split at hd
    · rename_i hij
      subst hij
      cases hd
      exact hself
    · exact hR.calls j d hd
  · intro key hkey
    obtain ⟨d, hd, hcall, hinner⟩ := hR.holder key hkey
    have hij : i ≠ key.1 := by
      intro hi
      rw [← hi, hc] at hd
      cases hd
      exact hne (by rw [hkey, hi, hcall])
    exact ⟨d, by rwa [getElem?_moved hc, if_neg hij], hcall, hinner⟩

theorem StageAgrees.waiting {phase : Phase I cell.Value} {key : cell.Key}
    {stage : Stage cell.Key cell.Raw} (h : StageAgrees key phase stage) (hw : phase.Waiting) :
    stage.holder ≠ some key := by
  cases phase with
  | entering => exact h
  | parked seen => exact h
  | _ => exact hw.elim

theorem refines_enter (hR : s.Refines a) (call : cell.Call) :
    Refines { s with calls := s.calls ++ [{ call }] } a := by
  refine {
    clean := hR.clean, gate := hR.gate, calls := ?_, holder := ?_, acquired := hR.acquired,
    begun := hR.begun, ended := hR.ended }
  · intro j d hd
    rcases Nat.lt_or_ge j s.calls.length with hlt | hge
    · rw [List.getElem?_append_left hlt] at hd
      exact hR.calls j d hd
    · rw [List.getElem?_append_right hge, List.getElem?_singleton] at hd
      split at hd <;> cases hd
      intro hkey
      obtain ⟨d, hd, -⟩ := hR.holder _ hkey
      exact absurd (List.getElem?_eq_some_iff.mp hd).1 (Nat.not_lt.mpr hge)
  · intro key hkey
    obtain ⟨d, hd, hcall, hinner⟩ := hR.holder key hkey
    refine ⟨d, ?_, hcall, hinner⟩
    rwa [List.getElem?_append_left (List.getElem?_eq_some_iff.mp hd).1]

/-- The step of the call that has the object or takes it. -/
theorem refines_holder (hR : s.Refines a) (hc : s.calls[i]? = some c)
    {action : CallAction cell} {m : Monitor cell.State} {phase : Phase I cell.Value}
    {b : cell.Session} (hclean : m.poisoned = false)
    (hold : ∀ key, a.stage.holder = some key → key = (i, c.call))
    (hold' : ∀ key, b.stage.holder = some key → key = (i, c.call))
    (hgate : GateAgrees m.state b)
    (hself : StageAgrees (i, c.call) phase b.stage)
    (hlogs : (s.moved i c action m phase).acquired = b.acquired ∧
      (s.moved i c action m phase).begun = b.begun ∧ (s.moved i c action m phase).ended = b.ended) :
    (s.moved i c action m phase).Refines b where
  clean := hclean
  gate := hgate
  calls := hR.calls_moved hc hold hold' hself
  holder := by
    intro key hkey
    obtain rfl := hold' key hkey
    exact ⟨{ c with phase }, by rw [getElem?_moved hc, if_pos rfl], rfl,
      hself.hasInner_iff.mpr hkey⟩
  acquired := hlogs.1
  begun := hlogs.2.1
  ended := hlogs.2.2

theorem refines_lock (hR : s.Refines a) (hc : s.calls[i]? = some c) {m : Monitor cell.State}
    {phase : Phase I cell.Value} (hact : c.lock s.monitor = some (m, phase)) :
    ∃ b, Relation.ReflTransGen Session.Step a b ∧ (s.moved i c .lock m phase).Refines b := by
  have hne := (hR.calls i c hc).waiting (SyncCall.lock_eq_some hact).1
  rcases SyncCall.lock_clean hact hR.clean with ⟨-, rfl, rfl⟩ |
      ⟨inner, busy, hstored, hbusy, -, rfl, rfl⟩ | ⟨-, rfl, reply, -, rfl, -⟩
  · exact ⟨a, .refl, hR.moved_aside hc hne (.inl ⟨_, rfl⟩) nofun⟩
  · have hready := hR.ready_of_stored hstored
    obtain ⟨hacquired, hbegun, hended⟩ := Session.logs_acquire hready (i, c.call)
    refine ⟨a.acquire (i, c.call), .single (.acquire _ hready), ?_⟩
    refine refines_holder hR hc hR.clean ?_ ?_ hbusy rfl ⟨?_, ?_, ?_⟩
    · intro key hkey
      rw [hready] at hkey
      cases hkey
    · intro key hkey
      cases hkey
      rfl
    · rw [hacquired, ← hR.acquired]
      rfl
    · rw [hbegun, ← hR.begun]
      exact List.append_nil _
    · rw [hended, ← hR.ended]
      exact List.append_nil _
  · exact ⟨a, .refl, hR.moved_aside hc hne (.inr (.inl ⟨_, rfl⟩)) nofun⟩

theorem refines_begin (hR : s.Refines a) (hc : s.calls[i]? = some c) {m : Monitor cell.State}
    {phase : Phase I cell.Value} (hact : c.begin s.monitor = some (m, phase)) :
    ∃ b, Relation.ReflTransGen Session.Step a b ∧ (s.moved i c .begin m phase).Refines b := by
  obtain ⟨inner, hphase, rfl, rfl⟩ := SyncCall.begin_eq_some hact
  have hstage : a.stage = .acquired (i, c.call) := by
    have h := hR.calls i c hc
    rwa [hphase] at h
  have hgate := hR.busy_iff.mpr ⟨_, by rw [hstage]; rfl⟩
  obtain ⟨hacquired, hbegun, hended⟩ := Session.logs_begin hstage
  refine ⟨a.begin (i, c.call), .single (.begin _ hstage), ?_⟩
  refine refines_holder hR hc hR.clean ?_ ?_ hgate rfl ⟨?_, ?_, ?_⟩
  · intro key hkey
    rw [hstage] at hkey
    cases hkey
    rfl
  · intro key hkey
    cases hkey
    rfl
  · rw [hacquired, ← hR.acquired]
    exact List.append_nil _
  · rw [hbegun, ← hR.begun]
    rfl
  · rw [hended, ← hR.ended]
    exact List.append_nil _

theorem refines_finish (hR : s.Refines a) (hc : s.calls[i]? = some c) {m : Monitor cell.State}
    {phase : Phase I cell.Value} {raw : cell.Raw}
    (hact : c.finish s.monitor raw = some (m, phase)) :
    ∃ b, Relation.ReflTransGen Session.Step a b ∧
      (s.moved i c (.finish raw) m phase).Refines b := by
  obtain ⟨inner, result, hphase, hresult, rfl, rfl⟩ := SyncCall.finish_eq_some hact
  have hstage : a.stage = .begun (i, c.call) := by
    have h := hR.calls i c hc
    rwa [hphase] at h
  have hgate := hR.busy_iff.mpr ⟨_, by rw [hstage]; rfl⟩
  obtain ⟨hacquired, hbegun, hended⟩ := Session.logs_finish hstage raw
  refine ⟨a.finish (i, c.call) raw, .single (.finish _ _ hstage), ?_⟩
  refine refines_holder hR hc hR.clean ?_ ?_ hgate ⟨raw, rfl, hresult⟩ ⟨?_, ?_, ?_⟩
  · intro key hkey
    rw [hstage] at hkey
    cases hkey
    rfl
  · intro key hkey
    cases hkey
    rfl
  · rw [hacquired, ← hR.acquired]
    exact List.append_nil _
  · rw [hbegun, ← hR.begun]
    exact List.append_nil _
  · rw [hended, ← hR.ended]
    rfl

theorem refines_store (hR : s.Refines a) (hc : s.calls[i]? = some c) {m : Monitor cell.State}
    {phase : Phase I cell.Value} (hact : c.store s.monitor = some (m, phase)) :
    ∃ b, Relation.ReflTransGen Session.Step a b ∧ (s.moved i c .store m phase).Refines b := by
  obtain ⟨inner, result, hphase, rfl, hm⟩ := SyncCall.store_clean hact hR.clean
  obtain ⟨raw, hstage, hresult⟩ : ∃ raw, a.stage = .ended (i, c.call) raw ∧
      cell.stepResult c.call raw = some result := by
    have h := hR.calls i c hc
    rwa [hphase] at h
  have hclean : m.poisoned = false := by
    rw [hm]
    exact hR.clean
  have hstate : m.state = cell.stateAfter inner a.ended := by
    rw [Session.ended, hstage, Stage.last, cell.stateAfter_append inner _ hresult, hm]
    rfl
  have hold : ∀ key, a.stage.holder = some key → key = (i, c.call) := by
    intro key hkey
    rw [hstage] at hkey
    cases hkey
    rfl
  have hnone : ∀ key, (none : Option cell.Key) = some key → key = (i, c.call) := by
    intro key hkey
    cases hkey
  have hfree : (none : Option cell.Key) ≠ some (i, c.call) := Option.some_ne_none _ |>.symm
  have hkept : (s.moved i c .store m (.leaving (cell.storeReply result))).acquired = s.acquired ∧
      (s.moved i c .store m (.leaving (cell.storeReply result))).begun = s.begun ∧
      (s.moved i c .store m (.leaving (cell.storeReply result))).ended = s.ended :=
    ⟨List.append_nil _, List.append_nil _, List.append_nil _⟩
  by_cases hp : cell.Proceeds (i, c.call) raw
  · obtain ⟨hacquired, hbegun, hended⟩ := Session.logs_restore hstage hp
    refine ⟨a.restore _ raw hp, .single (.restore _ _ hstage hp), ?_⟩
    refine refines_holder hR hc hclean hold hnone ?_ hfree ⟨?_, ?_, ?_⟩
    · exact ⟨inner, by rw [hended, hstate]⟩
    · rw [hkept.1, hacquired, hR.acquired]
    · rw [hkept.2.1, hbegun, hR.begun]
    · rw [hkept.2.2, hended, hR.ended]
  · obtain ⟨hacquired, hbegun, hended⟩ := Session.logs_close hstage hp
    refine ⟨a.close _ raw hp, .single (.close _ _ hstage hp), ?_⟩
    refine refines_holder hR hc hclean hold hnone ?_ hfree ⟨?_, ?_, ?_⟩
    · exact ⟨inner, by rw [hended, hstate]⟩
    · rw [hkept.1, hacquired, hR.acquired]
    · rw [hkept.2.1, hbegun, hR.begun]
    · rw [hkept.2.2, hended, hR.ended]

/-- Every step without an outer panic is matched by a step of the session. -/
theorem simulates_session :
    Simulates (@step I cell) (fun _ e => e.Contained) Session.Step Refines := by
  intro s e t a hstep hcontained hR
  rcases step_cases hstep with ⟨call, rfl, rfl⟩ | ⟨i, c, action, m, phase, rfl, hc, hact, rfl⟩
  · exact ⟨a, .refl, refines_enter hR call⟩
  · cases action with
    | lock => exact refines_lock hR hc hact
    | begin => exact refines_begin hR hc hact
    | finish raw => exact refines_finish hR hc hact
    | store => exact refines_store hR hc hact
    | leave =>
      obtain ⟨reply, hphase, rfl, rfl⟩ := SyncCall.leave_eq_some hact
      have hne := hR.calls i c hc
      rw [hphase] at hne
      exact ⟨a, .refl, hR.moved_aside hc hne (.inr (.inr ⟨_, rfl⟩)) nofun⟩
    | panic => exact hcontained.elim
    | poison => exact hcontained.elim
    | fail =>
      have hphase := (SyncCall.fail_eq_some hact).1
      have h := hR.calls i c hc
      rw [hphase] at h
      exact h.elim

end SyncSystem

end OpendalMbt.Native
