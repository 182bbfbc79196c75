import Mathlib.Data.List.Infix
import Mathlib.Logic.Relation
import Mathlib.Tactic.Common

/-!
# Serial sessions

A session is the history of one object that is used by one operation at a time: the
operations that are over, each with its result, and the stage of the one that has the
object now. An operation acquires the object, begins to use it, ends with a result, and
then the object is given back or is gone; `Proceeds` says which results give it back.

Overlapping operations cannot be written down, and the three logs are projections:
`acquired`, `begun` and `ended`. An operation that does not proceed is the last one that
ever begins (`proceeds_of_begun_append`), and the logs only grow (`logs_of_steps`).
-/

namespace OpendalMbt.Transition

variable {ι ρ : Type*}

/-- When only the last element may satisfy `p`, at most one does. -/
theorem length_filter_le_one {α : Type*} {p : α → Bool} {xs : List α}
    (h : ∀ l x rest, xs = l ++ x :: rest → rest ≠ [] → p x = false) :
    (xs.filter p).length ≤ 1 := by
  induction xs with
  | nil => exact Nat.zero_le _
  | cons x xs ih =>
    by_cases hxs : xs = []
    · rw [hxs]
      exact List.length_filter_le _ _
    · have hx := h [] x xs rfl hxs
      rw [List.filter_cons, hx, if_neg Bool.false_ne_true]
      apply ih
      intro l y rest heq hrest
      exact h (x :: l) y rest (by rw [heq, List.cons_append]) hrest

inductive Stage (ι ρ : Type*) where
  | ready
  | acquired (op : ι)
  | begun (op : ι)
  | ended (op : ι) (result : ρ)
  | closed (op : ι) (result : ρ)

namespace Stage

/-- The operation that has the object. -/
def holder : Stage ι ρ → Option ι
  | .ready | .closed _ _ => none
  | .acquired op | .begun op | .ended op _ => some op

/-- The result that is not in the past yet, or never will be. -/
def last : Stage ι ρ → List (ι × ρ)
  | .ready | .acquired _ | .begun _ => []
  | .ended op result | .closed op result => [(op, result)]

def lastBegun : Stage ι ρ → List ι
  | .ready | .acquired _ => []
  | .begun op | .ended op _ | .closed op _ => [op]

def lastAcquired : Stage ι ρ → List ι
  | .ready => []
  | .acquired op | .begun op | .ended op _ | .closed op _ => [op]

end Stage

/-- The operations of the past all gave the object back, and one that kept it did not
proceed. -/
structure Session (ι ρ : Type*) (Proceeds : ι → ρ → Prop) where
  past : List (ι × ρ)
  stage : Stage ι ρ
  past_proceeds : ∀ x ∈ past, Proceeds x.1 x.2
  closed_stops : ∀ op result, stage = .closed op result → ¬ Proceeds op result

namespace Session

variable {Proceeds : ι → ρ → Prop} {op : ι} {result : ρ}

def acquired (s : Session ι ρ Proceeds) : List ι := s.past.map Prod.fst ++ s.stage.lastAcquired

def begun (s : Session ι ρ Proceeds) : List ι := s.past.map Prod.fst ++ s.stage.lastBegun

def ended (s : Session ι ρ Proceeds) : List (ι × ρ) := s.past ++ s.stage.last

def fresh (Proceeds : ι → ρ → Prop) : Session ι ρ Proceeds where
  past := []
  stage := .ready
  past_proceeds := nofun
  closed_stops := nofun

/-- Change the stage of a session to one that is not closed. -/
def advance (s : Session ι ρ Proceeds) (stage : Stage ι ρ)
    (hopen : ∀ op result, stage ≠ .closed op result) : Session ι ρ Proceeds where
  past := s.past
  stage := stage
  past_proceeds := s.past_proceeds
  closed_stops op result h := absurd h (hopen op result)

def acquire (s : Session ι ρ Proceeds) (op : ι) : Session ι ρ Proceeds :=
  s.advance (.acquired op) nofun

def begin (s : Session ι ρ Proceeds) (op : ι) : Session ι ρ Proceeds :=
  s.advance (.begun op) nofun

def finish (s : Session ι ρ Proceeds) (op : ι) (result : ρ) : Session ι ρ Proceeds :=
  s.advance (.ended op result) nofun

/-- The object is given back after a result that proceeds. -/
def restore (s : Session ι ρ Proceeds) (op : ι) (result : ρ) (h : Proceeds op result) :
    Session ι ρ Proceeds where
  past := s.past ++ [(op, result)]
  stage := .ready
  past_proceeds := by
    intro x hx
    rcases List.mem_append.mp hx with hx | hx
    · exact s.past_proceeds x hx
    · obtain rfl := List.mem_singleton.mp hx
      exact h
  closed_stops := nofun

/-- The object is gone after any other result. -/
def close (s : Session ι ρ Proceeds) (op : ι) (result : ρ) (h : ¬ Proceeds op result) :
    Session ι ρ Proceeds where
  past := s.past
  stage := .closed op result
  past_proceeds := s.past_proceeds
  closed_stops := by
    intro op' result' heq
    cases heq
    exact h

inductive Step : Session ι ρ Proceeds → Session ι ρ Proceeds → Prop where
  | acquire {s} (op : ι) (h : s.stage = .ready) : Step s (s.acquire op)
  | begin {s} (op : ι) (h : s.stage = .acquired op) : Step s (s.begin op)
  | finish {s} (op : ι) (result : ρ) (h : s.stage = .begun op) : Step s (s.finish op result)
  | restore {s} (op : ι) (result : ρ) (h : s.stage = .ended op result)
      (hp : Proceeds op result) : Step s (s.restore op result hp)
  | close {s} (op : ι) (result : ρ) (h : s.stage = .ended op result)
      (hp : ¬ Proceeds op result) : Step s (s.close op result hp)

/-! ## The logs of one state -/

variable {s : Session ι ρ Proceeds}

theorem begun_prefix (s : Session ι ρ Proceeds) : s.begun <+: s.acquired := by
  apply (List.prefix_append_right_inj _).mpr
  cases s.stage with
  | ready => exact List.prefix_rfl
  | acquired op => exact List.nil_prefix
  | begun op => exact List.prefix_rfl
  | ended op result => exact List.prefix_rfl
  | closed op result => exact List.prefix_rfl

/-- An operation begins only when all that began before have ended. -/
theorem ended_or_one_begun (s : Session ι ρ Proceeds) :
    s.begun = s.ended.map Prod.fst ∨ ∃ op, s.begun = s.ended.map Prod.fst ++ [op] := by
  unfold begun ended
  cases s.stage with
  | ready => exact .inl (by simp [Stage.last, Stage.lastBegun])
  | acquired op => exact .inl (by simp [Stage.last, Stage.lastBegun])
  | begun op => exact .inr ⟨op, by simp [Stage.last, Stage.lastBegun]⟩
  | ended op result => exact .inl (by simp [Stage.last, Stage.lastBegun])
  | closed op result => exact .inl (by simp [Stage.last, Stage.lastBegun])

/-- In a list that ends with at most one further element, what has a successor is not that
element. -/
theorem mem_left_of_append {α : Type*} {front tail l rest : List α} {x : α}
    (h : front ++ tail = l ++ x :: rest) (htail : tail.length ≤ 1) (hrest : rest ≠ []) :
    x ∈ front := by
  have hlt : l.length < front.length := by
    have hpos := List.length_pos_iff.mpr hrest
    have htotal := congrArg List.length h
    simp only [List.length_append, List.length_cons] at htotal
    omega
  have hx : (front ++ tail)[l.length]? = some x := by simp [h]
  rw [List.getElem?_append_left hlt] at hx
  exact List.mem_of_getElem? hx

theorem length_lastBegun (stage : Stage ι ρ) : stage.lastBegun.length ≤ 1 := by
  cases stage <;> simp [Stage.lastBegun]

theorem length_last (stage : Stage ι ρ) : stage.last.length ≤ 1 := by
  cases stage <;> simp [Stage.last]

/-- An operation behind which another one has begun is over, and it proceeded. -/
theorem proceeds_of_begun_append {l rest : List ι} (h : s.begun = l ++ op :: rest)
    (hrest : rest ≠ []) : ∃ result, (op, result) ∈ s.ended ∧ Proceeds op result := by
  have hop := mem_left_of_append h (length_lastBegun s.stage) hrest
  obtain ⟨x, hx, rfl⟩ := List.mem_map.mp hop
  exact ⟨x.2, List.mem_append_left _ hx, s.past_proceeds x hx⟩

/-- An operation that never proceeds is the last one that begins. -/
theorem stopper_last {l rest : List ι} (h : s.begun = l ++ op :: rest)
    (hstop : ∀ result, ¬ Proceeds op result) : rest = [] := by
  by_contra hrest
  obtain ⟨result, -, hp⟩ := proceeds_of_begun_append h hrest
  exact hstop result hp

/-- A result that did not give the object back is the last one, and nothing begins behind
it. -/
theorem stopped_last {l rest : List (ι × ρ)} (h : s.ended = l ++ (op, result) :: rest)
    (hstop : ¬ Proceeds op result) : rest = [] ∧ s.begun = s.ended.map Prod.fst := by
  have hnot : (op, result) ∉ s.past := fun hmem => hstop (s.past_proceeds _ hmem)
  constructor
  · by_contra hrest
    exact hnot (mem_left_of_append h (length_last s.stage) hrest)
  · rcases ended_or_one_begun s with hall | ⟨op', hone⟩
    · exact hall
    · have hmem : (op, result) ∈ s.ended := h ▸ List.mem_append_right _ List.mem_cons_self
      cases hstage : s.stage <;> simp [ended, begun, hstage, Stage.last, Stage.lastBegun, hnot]
        at hmem hone ⊢

/-- While nobody has the object, every operation that took it has ended. -/
theorem ended_eq_acquired (h : s.stage.holder = none) : s.ended.map Prod.fst = s.acquired := by
  unfold ended acquired
  cases hstage : s.stage with
  | ready => simp [Stage.last, Stage.lastAcquired]
  | closed op result => simp [Stage.last, Stage.lastAcquired]
  | _ =>
    rw [hstage] at h
    cases h

theorem ended_fst_mem {x : ι × ρ} (hx : x ∈ s.ended) : x.1 ∈ s.begun := by
  rcases ended_or_one_begun s with h | ⟨op, h⟩ <;> rw [h]
  · exact List.mem_map_of_mem hx
  · exact List.mem_append_left _ (List.mem_map_of_mem hx)

/-! ## The logs along steps -/

variable {t : Session ι ρ Proceeds}

theorem logs_acquire (h : s.stage = .ready) (op : ι) :
    (s.acquire op).acquired = s.acquired ++ [op] ∧ (s.acquire op).begun = s.begun ∧
      (s.acquire op).ended = s.ended := by
  unfold acquired begun ended
  rw [h]
  exact ⟨by rw [List.append_assoc]; rfl, rfl, rfl⟩

theorem logs_begin (h : s.stage = .acquired op) :
    (s.begin op).acquired = s.acquired ∧ (s.begin op).begun = s.begun ++ [op] ∧
      (s.begin op).ended = s.ended := by
  unfold acquired begun ended
  rw [h]
  exact ⟨rfl, by rw [List.append_assoc]; rfl, rfl⟩

theorem logs_finish (h : s.stage = .begun op) (result : ρ) :
    (s.finish op result).acquired = s.acquired ∧ (s.finish op result).begun = s.begun ∧
      (s.finish op result).ended = s.ended ++ [(op, result)] := by
  unfold acquired begun ended
  rw [h]
  exact ⟨rfl, rfl, by rw [List.append_assoc]; rfl⟩

theorem logs_restore (h : s.stage = .ended op result) (hp : Proceeds op result) :
    (s.restore op result hp).acquired = s.acquired ∧
      (s.restore op result hp).begun = s.begun ∧ (s.restore op result hp).ended = s.ended := by
  unfold acquired begun ended
  rw [h]
  refine ⟨?_, ?_, ?_⟩ <;> simp [restore, Stage.lastAcquired, Stage.lastBegun, Stage.last]

theorem logs_close (h : s.stage = .ended op result) (hp : ¬ Proceeds op result) :
    (s.close op result hp).acquired = s.acquired ∧
      (s.close op result hp).begun = s.begun ∧ (s.close op result hp).ended = s.ended := by
  unfold acquired begun ended
  rw [h]
  exact ⟨rfl, rfl, rfl⟩

theorem Step.logs_prefix (h : Step s t) :
    s.acquired <+: t.acquired ∧ s.ended <+: t.ended := by
  cases h with
  | acquire op h =>
    obtain ⟨hacquired, -, hended⟩ := logs_acquire h op
    rw [hacquired, hended]
    exact ⟨List.prefix_append _ _, List.prefix_rfl⟩
  | begin op h =>
    obtain ⟨hacquired, -, hended⟩ := logs_begin h
    rw [hacquired, hended]
    exact ⟨List.prefix_rfl, List.prefix_rfl⟩
  | finish op result h =>
    obtain ⟨hacquired, -, hended⟩ := logs_finish h result
    rw [hacquired, hended]
    exact ⟨List.prefix_rfl, List.prefix_append _ _⟩
  | restore op result h hp =>
    obtain ⟨hacquired, -, hended⟩ := logs_restore h hp
    rw [hacquired, hended]
    exact ⟨List.prefix_rfl, List.prefix_rfl⟩
  | close op result h hp =>
    obtain ⟨hacquired, -, hended⟩ := logs_close h hp
    rw [hacquired, hended]
    exact ⟨List.prefix_rfl, List.prefix_rfl⟩

/-- The logs only grow, so their order is the order of the steps. -/
theorem logs_of_steps (h : Relation.ReflTransGen Step s t) :
    s.acquired <+: t.acquired ∧ s.ended <+: t.ended := by
  induction h with
  | refl => exact ⟨List.prefix_rfl, List.prefix_rfl⟩
  | tail _ hstep ih => exact ⟨ih.1.trans hstep.logs_prefix.1, ih.2.trans hstep.logs_prefix.2⟩

end Session

end OpendalMbt.Transition
