import OpendalMbt.Stub.ResultMoves
import OpendalMbt.Transition.Run

/-!
# Ownership of native handles in the C stub

MoonBit calls the functions of the stub in any order, and finalizes an object when it is out of
reach. Every handle that the library has put into a result is then in one object, until it is given
back once to the entry point of its type.

* `World.sound_step`: the ledger of the handles stays balanced with the objects;
* `World.barred_step`: a result that is not `OK` stays so;
* `result_ownership`: what this says of every run.
-/

namespace OpendalMbt.Stub

open Native Transition

namespace World

variable {lib : Library} {w w' : World} {action : Action}

def owned (w : World) : Multiset NativeHandle := (w.objects.map External.contents).sum

/-- Every handle is owned or was given back, none was made twice, and the library that has made it
frees it. -/
structure Sound (lib : Library) (w : World) : Prop where
  balanced : w.handles.Balanced w.owned
  fresh : ∀ x ∈ w.handles.created, x.call < w.calls
  frees : ∀ x ∈ w.handles.created, lib.Frees x.kind

theorem sound_start (lib : Library) : Sound lib start where
  balanced := { distinct := List.nodup_nil, covered := rfl }
  fresh := by
    intro x hx
    cases hx
  frees := by
    intro x hx
    cases hx

theorem Sound.frees_owned (h : w.Sound lib) {number : Nat} {object : External}
    (hobject : w.objects[number]? = some object) {x : NativeHandle} (hx : x ∈ object.contents) :
    lib.Frees x.kind := by
  apply h.frees
  rw [← Multiset.mem_coe, h.balanced.covered]
  apply Multiset.mem_add.mpr
  exact .inr (mem_sum_map.mpr ⟨object, List.mem_of_getElem? hobject, hx⟩)

theorem Sound.produce (h : w.Sound lib) {f : ResultFunction} (hf : f.Serves lib)
    (receiver : Option Nat) (arguments : Arguments) (reply : Reply) :
    (w.produce lib f receiver arguments reply).Sound lib := by
  have hadds : Adds lib w.calls w.handles (f.run lib receiver arguments reply w.calls w.handles) :=
    adds_run hf receiver arguments h.fresh
  have howned : (w.produce lib f receiver arguments reply).owned =
      (f.run lib receiver arguments reply w.calls w.handles).1.contents + w.owned := by
    unfold owned World.produce
    rw [List.map_append, List.sum_append, List.map_singleton, List.sum_singleton, add_comm]
    rfl
  constructor
  · rw [howned]
    exact hadds.balanced w.owned h.balanced
  · intro x hx
    rcases hadds.created x hx with hx | ⟨hcall, -⟩
    · exact Nat.lt_succ_of_lt (h.fresh x hx)
    · rw [hcall]
      exact Nat.lt_succ_self w.calls
  · intro x hx
    rcases hadds.created x hx with hx | ⟨-, hfrees⟩
    · exact h.frees x hx
    · exact hfrees

/-- What an object has goes to the object after the change, to the objects that are made, or back
to the library. -/
theorem Sound.change (h : w.Sound lib) {number : Nat} {object object' : External}
    {made : List External} {handles : Handles} (hobject : w.objects[number]? = some object)
    (hmoves : Ledger.Moves w.handles handles object.contents
      (object'.contents + (made.map External.contents).sum)) :
    (w.change number object' made handles).Sound lib := by
  obtain ⟨rest, hsum, hset⟩ := exists_sum_rest (f := External.contents) hobject
  have howned : (w.change number object' made handles).owned =
      object'.contents + (made.map External.contents).sum + rest := by
    unfold owned World.change
    rw [List.map_append, List.sum_append, hset, add_right_comm]
  constructor
  · rw [howned]
    apply hmoves.balanced
    rw [← hsum]
    exact h.balanced
  · intro x hx
    exact h.fresh x (hmoves.created ▸ hx)
  · intro x hx
    exact h.frees x (hmoves.created ▸ hx)

/-! ### What each action does -/

theorem step_asyncTaskTakeResult {task : Nat} {reply : Reply}
    (h : w.step lib (.asyncTaskTakeResult task reply) = some w') :
    ∃ kind receiver, w' = w.produce lib (asyncTaskTakeResult kind) receiver {} reply := by
  simp only [step] at h
  split at h
  · cases h
    exact ⟨_, _, rfl⟩
  · cases h

theorem step_take {number : Nat} {t : Take} (h : w.step lib (.take number t) = some w') :
    ∃ r, w.objects[number]? = some (.result r) ∧
      ∃ taken r' handles, t.run lib r w.handles = (taken, r', handles) ∧
        w' = w.change number (.result r') (t.object taken).toList handles := by
  simp only [step] at h
  split at h
  · next r hr =>
    cases h
    exact ⟨r, hr, _, _, _, rfl, rfl⟩
  · cases h

theorem step_entryTakeMetadata {entry : Nat} (h : w.step lib (.entryTakeMetadata entry) = some w') :
    ∃ handle, w.objects[entry]? = some (.wrapper .entry handle) ∧
      w' = w.change entry (.wrapper .entry none) [.metadata none handle] w.handles := by
  simp only [step] at h
  split at h
  · next handle hentry =>
    cases h
    exact ⟨handle, hentry, rfl⟩
  · cases h

theorem step_release {number : Nat} (h : w.step lib (.release number) = some w') :
    ∃ object, w.objects[number]? = some object ∧
      w' = w.change number (object.finalize lib w.handles).1 []
        (object.finalize lib w.handles).2 := by
  simp only [step] at h
  split at h
  · next object hobject =>
    split_ifs at h
    cases h
    exact ⟨object, hobject, rfl⟩
  · cases h

theorem step_operatorClose {number : Nat} (h : w.step lib (.operatorClose number) = some w') :
    w' = w ∨ ∃ operator_ info, w.objects[number]? = some (.operator operator_ info) ∧
      w' = w.change number (.operator none info) []
        (freeHandle .operator operator_ w.handles) := by
  simp only [step] at h
  split at h
  · next operator_ info hoperator =>
    cases hload : lib.loadApi false with
    | error status =>
      rw [hload] at h
      cases h
      exact .inl rfl
    | ok api =>
      rw [hload] at h
      cases h
      exact .inr ⟨operator_, info, hoperator, rfl⟩
  · cases h

theorem step_finalize {number : Nat} (h : w.step lib (.finalize number) = some w') :
    ∃ object, w.objects[number]? = some object ∧
      w' = w.change number .collected [] (object.finalize lib w.handles).2 := by
  simp only [step] at h
  split at h
  · cases h
  · cases h
  · next object hne hobject =>
    cases h
    exact ⟨object, hobject, rfl⟩

theorem sum_toList (object : Option External) :
    (object.toList.map External.contents).sum = object.elim 0 External.contents := by
  cases object with
  | none => rfl
  | some object => exact add_zero _

theorem contents_emptyObject (t : Take) : t.emptyObject.elim 0 External.contents = 0 := by
  cases t <;> rfl

theorem sound_step : Preserves (step lib) (Sound lib) := by
  intro w action w' hstep h
  cases action with
  | call call receiver arguments reply =>
    obtain ⟨handle, -, rfl⟩ := Option.map_eq_some_iff.mp hstep
    exact h.produce (serves_function lib call) handle arguments reply
  | asyncTaskTakeResult task reply =>
    obtain ⟨kind, receiver, rfl⟩ := step_asyncTaskTakeResult hstep
    exact h.produce (serves_asyncTaskTakeResult lib kind) receiver {} reply
  | take number t =>
    obtain ⟨r, hr, taken, r', handles, hrun, rfl⟩ := step_take hstep
    apply h.change hr
    rw [sum_toList]
    have houtcome := outcome_take lib r w.handles t
    rw [hrun] at houtcome
    cases houtcome with
    | refused hstatus =>
      show Ledger.Moves _ _ r.contents (r.contents + t.emptyObject.elim 0 External.contents)
      rw [contents_emptyObject, add_zero]
      exact Ledger.Moves.of_eq rfl
    | taken hstatus hstatus' hmoves => exact hmoves
  | entryTakeMetadata entry =>
    obtain ⟨handle, hentry, rfl⟩ := step_entryTakeMetadata hstep
    apply h.change hentry
    apply Ledger.Moves.of_eq
    show behind .entry handle = 0 + ((0 + behind .entry handle) + 0)
    rw [zero_add, zero_add, add_zero]
  | release number =>
    obtain ⟨object, hobject, rfl⟩ := step_release hstep
    apply h.change hobject
    rw [List.map_nil, List.sum_nil, add_zero]
    exact moves_finalize lib w.handles object
  | operatorClose number =>
    rcases step_operatorClose hstep with rfl | ⟨operator_, info, hoperator, rfl⟩
    · exact h
    · apply h.change hoperator
      show Ledger.Moves _ _ (behind .operator operator_ + behind .info info)
        ((0 + behind .info info) + 0)
      rw [zero_add, add_zero]
      exact moves_freeHandle .operator operator_ w.handles _
  | finalize number =>
    obtain ⟨object, hobject, rfl⟩ := step_finalize hstep
    apply h.change hobject
    have hmoves := moves_finalize lib w.handles object
    have hempty : (object.finalize lib w.handles).1.contents = 0 :=
      contents_finalize fun x hx => h.frees_owned hobject hx
    dsimp only at hmoves
    rw [hempty] at hmoves
    exact hmoves

/-! ### Results that are not `OK` -/

theorem produce_objects {f : ResultFunction} {receiver : Option Nat} {arguments : Arguments}
    {reply : Reply} {number : Nat} (h : number < w.objects.length) :
    (w.produce lib f receiver arguments reply).objects[number]? = w.objects[number]? :=
  List.getElem?_append_left h

theorem length_change {number : Nat} {object : External} {made : List External}
    {handles : Handles} : w.objects.length ≤ (w.change number object made handles).objects.length := by
  unfold change
  simp

theorem change_objects {number other : Nat} {object : External} {made : List External}
    {handles : Handles} (h : other < w.objects.length) :
    (w.change number object made handles).objects[other]? =
      if number = other then some object else w.objects[other]? := by
  unfold change
  dsimp only
  rw [List.getElem?_append_left (by simpa using h), List.getElem?_set]
  by_cases heq : number = other
  · rw [if_pos heq, if_pos heq, if_pos (heq ▸ h)]
  · rw [if_neg heq, if_neg heq]

/-- A finalizer leaves the status of a result alone, and makes no result. -/
theorem finalize_result {handles : Handles} {object : External} {r : Result}
    (h : (object.finalize lib handles).1 = .result r) :
    ∃ r₀, object = .result r₀ ∧ r.status = r₀.status := by
  cases object with
  | result r₀ =>
    cases h
    exact ⟨r₀, rfl, (moves_releaseResultPayload lib (r₀, handles)).2⟩
  | operator operator_ info =>
    unfold External.finalize at h
    cases hload : lib.loadApi false <;> rw [hload] at h <;> cases h
  | metadata metadata_ entry =>
    unfold External.finalize at h
    cases hload : lib.loadApi false <;> rw [hload] at h <;> cases h
  | asyncTask task kind =>
    unfold External.finalize at h
    cases hload : lib.finalizerApi .asyncTask <;> rw [hload] at h <;> cases h
  | wrapper kind handle =>
    simp only [External.finalize] at h
    cases hload : lib.finalizerApi kind <;> rw [hload] at h <;> cases h
  | collected => cases h

/-- The object exists, and if it is a result its status is not `OK`. -/
structure Barred (number : Nat) (w : World) : Prop where
  exists_ : number < w.objects.length
  status : ∀ r, w.objects[number]? = some (.result r) → r.status ≠ .ok

theorem Barred.produce {number : Nat} (h : w.Barred number) (f : ResultFunction)
    (receiver : Option Nat) (arguments : Arguments) (reply : Reply) :
    (w.produce lib f receiver arguments reply).Barred number where
  exists_ := by
    unfold World.produce
    rw [List.length_append]
    exact Nat.lt_add_right _ h.exists_
  status := by
    intro r hr
    rw [produce_objects h.exists_] at hr
    exact h.status r hr

theorem Barred.change {number other : Nat} (h : w.Barred number) {object : External}
    {made : List External} {handles : Handles}
    (hobject : other = number → ∀ r, object = .result r → r.status ≠ .ok) :
    (w.change other object made handles).Barred number where
  exists_ := Nat.lt_of_lt_of_le h.exists_ length_change
  status := by
    intro r hr
    rw [change_objects h.exists_] at hr
    split_ifs at hr with heq
    · exact hobject heq r (Option.some.inj hr)
    · exact h.status r hr

theorem barred_step {number : Nat} : Preserves (step lib) (Barred number) := by
  intro w action w' hstep h
  cases action with
  | call call receiver arguments reply =>
    obtain ⟨handle, -, rfl⟩ := Option.map_eq_some_iff.mp hstep
    exact h.produce _ handle arguments reply
  | asyncTaskTakeResult task reply =>
    obtain ⟨kind, receiver, rfl⟩ := step_asyncTaskTakeResult hstep
    exact h.produce _ receiver {} reply
  | take other t =>
    obtain ⟨r, hr, taken, r', handles, hrun, rfl⟩ := step_take hstep
    apply h.change
    rintro rfl r'' heq
    cases heq
    have houtcome := outcome_take lib r w.handles t
    rw [hrun] at houtcome
    cases houtcome with
    | refused hstatus => exact hstatus
    | taken hstatus hstatus' hmoves => exact absurd hstatus (h.status r hr)
  | entryTakeMetadata entry =>
    obtain ⟨handle, hentry, rfl⟩ := step_entryTakeMetadata hstep
    apply h.change
    intro _ r heq
    cases heq
  | release other =>
    obtain ⟨object, hobject, rfl⟩ := step_release hstep
    apply h.change
    rintro rfl r heq
    obtain ⟨r₀, rfl, hstatus⟩ := finalize_result heq
    rw [hstatus]
    exact h.status r₀ hobject
  | operatorClose other =>
    rcases step_operatorClose hstep with rfl | ⟨operator_, info, hoperator, rfl⟩
    · exact h
    · apply h.change
      intro _ r heq
      cases heq
  | finalize other =>
    obtain ⟨object, hobject, rfl⟩ := step_finalize hstep
    apply h.change
    intro _ r heq
    cases heq

/-- A take that gives nothing. -/
def Refuses (lib : Library) (w : World) (number : Nat) (t : Take) : Prop :=
  ∃ r, w.objects[number]? = some (.result r) ∧ (t.run lib r w.handles).1 = none

theorem Barred.refuses {number : Nat} {t : Take} (h : w.Barred number)
    (hstep : w.step lib (.take number t) = some w') : w.Refuses lib number t := by
  obtain ⟨r, hr, -⟩ := step_take hstep
  exact ⟨r, hr, run_take_of_status t (h.status r hr)⟩

/-- After a take that gives nothing only the status has changed, and an empty object is made. -/
theorem refused_take {number : Nat} {t : Take} (h : w.Refuses lib number t)
    (hstep : w.step lib (.take number t) = some w') :
    ∃ r status, w.objects[number]? = some (.result r) ∧ status ≠ .ok ∧
      w' = w.change number (.result { r with status }) t.emptyObject.toList w.handles := by
  obtain ⟨r₀, hr₀, hnone⟩ := h
  obtain ⟨r, hr, taken, r', handles, hrun, rfl⟩ := step_take hstep
  rw [hr] at hr₀
  cases hr₀
  have houtcome := outcome_take lib r₀ w.handles t
  rw [hrun] at houtcome hnone
  cases houtcome with
  | refused hstatus => exact ⟨_, _, hr, hstatus, rfl⟩
  | taken hstatus hstatus' hmoves => cases hnone

/-! ### Repeated releases -/

theorem finalize_idem (lib : Library) (handles : Handles) (object : External) :
    let s := object.finalize lib handles
    s.1.finalize lib s.2 = s ∧ s.1.hasRelease = object.hasRelease := by
  cases object with
  | result r =>
    have hidem := releaseResultPayload_idem lib (r, handles)
    refine ⟨?_, rfl⟩
    show (External.result (releaseResultPayload lib (releaseResultPayload lib (r, handles))).1,
      (releaseResultPayload lib (releaseResultPayload lib (r, handles))).2) = _
    rw [hidem]
    rfl
  | operator operator_ info =>
    cases hload : lib.loadApi false <;> simp [External.finalize, hload, freeHandle,
      External.hasRelease]
  | metadata metadata_ entry =>
    cases hload : lib.loadApi false <;> simp [External.finalize, hload, freeHandle,
      External.hasRelease]
  | asyncTask task kind =>
    cases hload : lib.finalizerApi .asyncTask <;> simp [External.finalize, hload, freeHandle,
      External.hasRelease]
  | wrapper kind handle =>
    cases hload : lib.finalizerApi kind with
    | error status => simp [External.finalize, hload]
    | ok api =>
      simp only [External.finalize, hload, freeHandle, true_and]
      cases kind <;> rfl
  | collected => exact ⟨rfl, rfl⟩

theorem release_idem {number : Nat} (hstep : w.step lib (.release number) = some w') :
    w'.step lib (.release number) = some w' := by
  have hstep' := hstep
  simp only [step] at hstep'
  split at hstep'
  · next object hobject =>
    split_ifs at hstep' with hrelease
    cases hstep'
    have hlt : number < w.objects.length := (List.getElem?_eq_some_iff.mp hobject).1
    obtain ⟨hidem, hkept⟩ := finalize_idem lib w.handles object
    simp only [step]
    rw [change_objects hlt, if_pos rfl]
    dsimp only
    rw [hkept, if_pos hrelease]
    -- the object is set again, to the same value
    have hsame : (object.finalize lib w.handles).1.finalize lib
        (w.change number (object.finalize lib w.handles).1 []
          (object.finalize lib w.handles).2).handles = object.finalize lib w.handles := hidem
    rw [hsame]
    unfold change
    simp
  · cases hstep'

/-- The object with the number has the handle in one of its slots. -/
def Holds (w : World) (number : Nat) (x : NativeHandle) : Prop :=
  ∃ object, w.objects[number]? = some object ∧ x ∈ object.contents

end World

/-- In every run each handle is in one object and not freed, or freed once and in no object. With
all objects finalized every handle was freed once. A take that gives nothing changes only the
status of its result, and so do all later takes; a release has no effect the second time. -/
theorem result_ownership (lib : Library) {actions : List Action} {w : World}
    (hrun : run (World.step lib) World.start actions = some w) :
    (∀ x ∈ w.handles.created,
      (x ∉ w.handles.gone ∧ ∃! number, w.Holds number x) ∨
        (w.handles.gone.count x = 1 ∧ ∀ number, ¬ w.Holds number x)) ∧
    (∀ x ∈ w.handles.gone, x ∈ w.handles.created) ∧
    ((∀ object ∈ w.objects, object = .collected) →
      ∀ x ∈ w.handles.created, w.handles.gone.count x = 1) ∧
    (∀ number t w', w.step lib (.take number t) = some w' → w.Refuses lib number t →
      (∃ r status, w.objects[number]? = some (.result r) ∧ status ≠ .ok ∧
        w' = w.change number (.result { r with status }) t.emptyObject.toList w.handles) ∧
      ∀ later u t' u', run (World.step lib) w' later = some u →
        u.step lib (.take number t') = some u' → u.Refuses lib number t') ∧
    ∀ number w', w.step lib (.release number) = some w' →
      w'.step lib (.release number) = some w' := by
  have hsound : w.Sound lib := World.sound_step.run (World.sound_start lib) hrun
  have hcustody : ∀ x ∈ w.handles.created,
      (x ∉ w.handles.gone ∧ ∃! number, w.Holds number x) ∨
        (w.handles.gone.count x = 1 ∧ ∀ object ∈ w.objects, x ∉ object.contents) :=
    fun x hx => hsound.balanced.custody hx
  refine ⟨?_, ?_, ?_, ?_, fun number w' => World.release_idem⟩
  · intro x hx
    rcases hcustody x hx with howned | ⟨hcount, hnone⟩
    · exact .inl howned
    · refine .inr ⟨hcount, ?_⟩
      rintro number ⟨object, hobject, hmem⟩
      exact hnone object (List.mem_of_getElem? hobject) hmem
  · intro x hx
    rw [← Multiset.mem_coe, hsound.balanced.covered]
    exact Multiset.mem_add.mpr (.inl hx)
  · intro hcollected x hx
    rcases hcustody x hx with ⟨-, howned⟩ | ⟨hcount, -⟩
    · obtain ⟨number, object, hobject, hmem⟩ := howned.exists
      rw [hcollected object (List.mem_of_getElem? hobject)] at hmem
      cases hmem
    · exact hcount
  · intro number t w' hstep hrefuses
    obtain ⟨r, status, hr, hstatus, rfl⟩ := World.refused_take hrefuses hstep
    refine ⟨⟨r, status, hr, hstatus, rfl⟩, ?_⟩
    intro later u t' u' hlater hstep'
    have hbarred : (w.change number (.result { r with status }) t.emptyObject.toList
        w.handles).Barred number := by
      have hlt : number < w.objects.length := (List.getElem?_eq_some_iff.mp hr).1
      refine ⟨Nat.lt_of_lt_of_le hlt World.length_change, ?_⟩
      intro r' hr'
      rw [World.change_objects hlt, if_pos rfl] at hr'
      cases hr'
      exact hstatus
    exact (World.barred_step.run hbarred hlater).refuses hstep'

/-- An operator is made, taken twice, closed, and finalized with the result and the empty object. -/
theorem result_ownership_operator :
    ∃ w, run (World.step wholeLibrary) World.start
        [.call .operatorNew none {} { status := .ok, fills := fun kind => kind != .error },
          .take 0 .operator, .take 0 .operator, .operatorClose 1, .release 0, .finalize 0,
          .finalize 1, .finalize 2] = some w ∧
      ⟨.operator, 0⟩ ∈ w.handles.created ∧
      ∀ x ∈ w.handles.created, w.handles.gone.count x = 1 := by
  have hrun : run (World.step wholeLibrary) World.start
      [.call .operatorNew none {} { status := .ok, fills := fun kind => kind != .error },
        .take 0 .operator, .take 0 .operator, .operatorClose 1, .release 0, .finalize 0,
        .finalize 1, .finalize 2] = some
      { objects := [.collected, .collected, .collected]
        handles := { created := [⟨.info, 0⟩, ⟨.operator, 0⟩], gone := [⟨.info, 0⟩, ⟨.operator, 0⟩] }
        calls := 1 } := rfl
  refine ⟨_, hrun, by simp, (result_ownership wholeLibrary hrun).2.2.1 ?_⟩
  simp

end OpendalMbt.Stub
