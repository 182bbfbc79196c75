import Mathlib.Logic.Function.Basic
import OpendalMbt.Transition.Call

/-!
# Out-parameters

A procedure answers through slots that its caller hands in: one for each value that it may
return, and one for an error, which may be null. A slot is storage of the caller or a pointer
that cannot be written to. The history of a frame, the newest event first, says what the
procedure has done with the slots and when it looked at its inputs; to write a value where
nothing was cleared, or over a value, is a misuse.

* `Orderly`: every slot was cleared before the first input was looked at, and none was misused;
* `Swept`, `Filled`, `Failed`: what the slots hold when the procedure returns nothing, its values,
  or an error;
* `Swept.inspect`, `filled_writeAll`, `failed_writeError`: what the steps make of a swept frame.
-/

namespace OpendalMbt.Transition

/-- What storage holds: something of the caller, nothing, or a value of the procedure. -/
inductive Content (V : Type) where
  | stale
  | empty
  | value (v : V)

/-- A pointer to a slot that cannot be written to, for the reason `R`, or the storage. -/
inductive Slot (R V : Type) where
  | invalid (reason : R)
  | storage (content : Content V)

inductive Misplaced where
  | null
  | misaligned
  deriving DecidableEq, Repr

namespace Slot

variable {R V : Type}

def fault : Slot R V → Option R
  | invalid reason => some reason
  | storage _ => none

def Formed (slot : Slot R V) : Prop := slot.fault = none

/-- Storage holds nothing. -/
def Empty (slot : Slot R V) : Prop := slot.Formed → slot = .storage .empty

@[simp] theorem fault_storage (content : Content V) : (storage content : Slot R V).fault = none :=
  rfl

@[simp] theorem fault_invalid (reason : R) : (invalid reason : Slot R V).fault = some reason := rfl

theorem formed_iff {slot : Slot R V} : slot.Formed ↔ ∃ content, slot = storage content := by
  cases slot with
  | invalid reason => simp [Formed]
  | storage content => simp [Formed]

theorem empty_invalid (reason : R) : (invalid reason : Slot R V).Empty := nofun

theorem empty_storage : (storage .empty : Slot R V).Empty := fun _ => rfl

end Slot

inductive Event (ι : Type) where
  | clear (i : ι)
  | clearError
  | inspect
  | misuse
  deriving DecidableEq, Repr

structure Frame (R : Type) {ι : Type} (V : ι → Type) (E : Type) where
  slots : ∀ i, Slot R (V i)
  error : Slot Misplaced E
  history : List (Event ι)

namespace Frame

variable {R ι E : Type} {V : ι → Type}

section Steps

variable [DecidableEq ι]

def clear (i : ι) (f : Frame R V E) : Frame R V E where
  slots := Function.update f.slots i (.storage .empty)
  error := f.error
  history := .clear i :: f.history

def clearError (f : Frame R V E) : Frame R V E where
  slots := f.slots
  error := .storage .empty
  history := .clearError :: f.history

def inspect (f : Frame R V E) : Frame R V E := { f with history := .inspect :: f.history }

def write (i : ι) (v : V i) (f : Frame R V E) : Frame R V E :=
  match f.slots i with
  | .storage .empty => { f with slots := Function.update f.slots i (.storage (.value v)) }
  | _ => { f with history := .misuse :: f.history }

def writeAll (v : ∀ i, V i) : List ι → Frame R V E → Frame R V E
  | [], f => f
  | i :: order, f => writeAll v order (f.write i (v i))

/-- An error is not wanted where the slot is null. -/
def writeError (e : E) (f : Frame R V E) : Frame R V E :=
  match f.error with
  | .invalid .null => f
  | .storage .empty => { f with error := .storage (.value e) }
  | _ => { f with history := .misuse :: f.history }

end Steps

/-! ## What a frame may look like -/

/-- All slots can be written to; the error may be unwanted. -/
def Valid (given : Frame R V E) : Prop :=
  (∀ i, (given.slots i).Formed) ∧ given.error.fault ≠ some .misaligned

def Cleared (given : Frame R V E) (history : List (Event ι)) : Prop :=
  (∀ i, (given.slots i).Formed → .clear i ∈ history) ∧
    (given.error.Formed → .clearError ∈ history)

/-- Since it was `given`, a frame was cleared before inputs were looked at, and used well. -/
structure Orderly (given f : Frame R V E) : Prop where
  kept : ∀ i, (f.slots i).fault = (given.slots i).fault
  keptError : f.error.fault = given.error.fault
  cleared : given.Cleared f.history
  first : ∀ older, .inspect :: older <:+ f.history → given.Cleared older
  proper : .misuse ∉ f.history

/-- Nothing is returned. -/
structure Swept (given f : Frame R V E) : Prop extends Orderly given f where
  empty : ∀ i, (f.slots i).Empty
  emptyError : f.error.Empty

/-- Every value is returned. -/
structure Filled (given f : Frame R V E) : Prop extends Orderly given f where
  filled : ∀ i, ∃ v, f.slots i = .storage (.value v)
  emptyError : f.error.Empty

/-- An error is returned, if it is wanted. -/
structure Failed (given f : Frame R V E) : Prop extends Orderly given f where
  empty : ∀ i, f.slots i = .storage .empty
  error : f.error = .invalid .null ∨ ∃ e, f.error = .storage (.value e)

/-! ## Steps of a swept frame -/

variable {given f : Frame R V E}

theorem Swept.inspect (h : Swept given f) : Swept given f.inspect where
  kept := h.kept
  keptError := h.keptError
  cleared := by
    refine ⟨fun i hi => ?_, fun herror => ?_⟩
    · exact List.mem_cons_of_mem _ (h.cleared.1 i hi)
    · exact List.mem_cons_of_mem _ (h.cleared.2 herror)
  first := by
    intro older holder
    rcases List.suffix_cons_iff.mp holder with heq | hsuffix
    · cases heq
      exact h.cleared
    · exact h.first older hsuffix
  proper := by
    intro hmem
    rcases List.mem_cons.mp hmem with heq | hmem
    · cases heq
    · exact h.proper hmem
  empty := h.empty
  emptyError := h.emptyError

theorem Swept.slots_eq (h : Swept given f) (hvalid : given.Valid) (i : ι) :
    f.slots i = .storage .empty := by
  apply h.empty i
  rw [Slot.Formed, h.kept]
  exact hvalid.1 i

theorem Swept.error_eq (h : Swept given f) (hvalid : given.Valid) :
    f.error = .invalid .null ∨ f.error = .storage .empty := by
  cases herror : f.error with
  | storage content =>
    right
    rw [← herror]
    apply h.emptyError
    rw [herror]
    rfl
  | invalid reason =>
    cases reason with
    | null => exact .inl rfl
    | misaligned =>
      have hfault := h.keptError
      rw [herror] at hfault
      exact absurd hfault.symm hvalid.2

theorem failed_writeError (h : Swept given f) (hvalid : given.Valid) (e : E) :
    Failed given (f.writeError e) := by
  rcases h.error_eq hvalid with herror | herror
  · have hsame : f.writeError e = f := by
      rw [writeError, herror]
    rw [hsame]
    exact { h.toOrderly with
      empty := h.slots_eq hvalid
      error := .inl herror }
  · have hwritten : f.writeError e = { f with error := .storage (.value e) } := by
      rw [writeError, herror]
    rw [hwritten]
    exact {
      kept := h.kept
      keptError := by
        have hfault := h.keptError
        rw [herror] at hfault
        exact hfault
      cleared := h.cleared
      first := h.first
      proper := h.proper
      empty := h.slots_eq hvalid
      error := .inr ⟨e, rfl⟩ }

section Write

variable [DecidableEq ι]

theorem write_of_empty {i : ι} (h : f.slots i = .storage .empty) (v : V i) :
    f.write i v = { f with slots := Function.update f.slots i (.storage (.value v)) } := by
  rw [write, h]

/-- The slots of `order` are written, and no others. -/
theorem writeAll_eq (v : ∀ i, V i) {order : List ι} (hnodup : order.Nodup) {f : Frame R V E}
    (h : ∀ i ∈ order, f.slots i = .storage .empty) :
    (∀ i ∈ order, (f.writeAll v order).slots i = .storage (.value (v i))) ∧
      (∀ i, i ∉ order → (f.writeAll v order).slots i = f.slots i) ∧
      (f.writeAll v order).error = f.error ∧ (f.writeAll v order).history = f.history := by
  induction order generalizing f with
  | nil => exact ⟨nofun, fun _ _ => rfl, rfl, rfl⟩
  | cons i order ih =>
    obtain ⟨hi, hrest⟩ := List.nodup_cons.mp hnodup
    have hwrite := write_of_empty (h i List.mem_cons_self) (v i)
    have hempty : ∀ j ∈ order, (f.write i (v i)).slots j = .storage .empty := by
      intro j hj
      have hne : j ≠ i := by
        intro heq
        exact hi (heq ▸ hj)
      rw [hwrite]
      show Function.update f.slots i _ j = _
      rw [Function.update_of_ne hne]
      exact h j (List.mem_cons_of_mem _ hj)
    obtain ⟨hwritten, hother, herror, hhistory⟩ := ih hrest hempty
    have hslots : ∀ j, (f.write i (v i)).slots j =
        Function.update f.slots i (.storage (.value (v i))) j := by
      intro j
      rw [hwrite]
    refine ⟨?_, ?_, ?_, ?_⟩
    · intro j hj
      rcases List.mem_cons.mp hj with rfl | hj
      · rw [writeAll, hother j hi, hslots, Function.update_self]
      · exact hwritten j hj
    · intro j hj
      obtain ⟨hne, hrest'⟩ := List.ne_and_not_mem_of_not_mem_cons hj
      rw [writeAll, hother j hrest', hslots, Function.update_of_ne hne]
    · rw [writeAll, herror, hwrite]
    · rw [writeAll, hhistory, hwrite]

theorem filled_writeAll (h : Swept given f) (hvalid : given.Valid) (v : ∀ i, V i) {order : List ι}
    (hnodup : order.Nodup) (hcomplete : ∀ i, i ∈ order) : Filled given (f.writeAll v order) := by
  have hslots := h.slots_eq hvalid
  obtain ⟨hwritten, -, herror, hhistory⟩ := writeAll_eq v hnodup fun i _ => hslots i
  exact {
    kept := by
      intro i
      rw [hwritten i (hcomplete i)]
      exact (hvalid.1 i).symm
    keptError := by
      rw [herror]
      exact h.keptError
    cleared := by
      rw [hhistory]
      exact h.cleared
    first := by
      rw [hhistory]
      exact h.first
    proper := by
      rw [hhistory]
      exact h.proper
    filled := fun i => ⟨v i, hwritten i (hcomplete i)⟩
    emptyError := by
      rw [herror]
      exact h.emptyError }

end Write

/-! ## Sweeping -/

section Sweep

/-- The slots of `done` are cleared, and nothing else has happened. -/
structure Sweeping (given f : Frame R V E) (done : List ι) : Prop where
  kept : ∀ i, (f.slots i).fault = (given.slots i).fault
  error : f.error = given.error
  empty : ∀ i ∈ done, (f.slots i).Empty
  cleared : ∀ i ∈ done, (given.slots i).Formed → .clear i ∈ f.history
  quiet : ∀ e ∈ f.history, ∃ i, e = .clear i

variable {done : List ι}

theorem sweeping_given (h : given.history = []) : Sweeping given given [] where
  kept := fun _ => rfl
  error := rfl
  empty := nofun
  cleared := nofun
  quiet := by
    rw [h]
    nofun

theorem Sweeping.skip (h : Sweeping given f done) {i : ι} (hi : ¬ (f.slots i).Formed) :
    Sweeping given f (i :: done) where
  kept := h.kept
  error := h.error
  empty := by
    intro j hj
    rcases List.mem_cons.mp hj with rfl | hj
    · exact fun hformed => absurd hformed hi
    · exact h.empty j hj
  cleared := by
    intro j hj hformed
    rcases List.mem_cons.mp hj with rfl | hj
    · rw [Slot.Formed, ← h.kept] at hformed
      exact absurd hformed hi
    · exact h.cleared j hj hformed
  quiet := h.quiet

theorem Sweeping.clear [DecidableEq ι] (h : Sweeping given f done) {i : ι}
    (hi : (f.slots i).Formed) : Sweeping given (f.clear i) (i :: done) where
  kept := by
    intro j
    by_cases hj : j = i
    · subst hj
      show (Function.update f.slots j _ j).fault = _
      rw [Function.update_self, ← h.kept, hi]
      rfl
    · show (Function.update f.slots i _ j).fault = _
      rw [Function.update_of_ne hj]
      exact h.kept j
  error := h.error
  empty := by
    intro j hj
    by_cases hji : j = i
    · subst hji
      intro _
      exact Function.update_self ..
    · show (Function.update f.slots i _ j).Empty
      rw [Function.update_of_ne hji]
      exact h.empty j (List.mem_of_ne_of_mem hji hj)
  cleared := by
    intro j hj hformed
    rcases List.mem_cons.mp hj with rfl | hj
    · exact List.mem_cons_self
    · exact List.mem_cons_of_mem _ (h.cleared j hj hformed)
  quiet := by
    intro e he
    rcases List.mem_cons.mp he with rfl | he
    · exact ⟨i, rfl⟩
    · exact h.quiet e he

/-- What has only been cleared has not been looked at. -/
theorem Sweeping.not_inspect (h : Sweeping given f done) {older : List (Event ι)}
    (hsuffix : .inspect :: older <:+ f.history) : False := by
  obtain ⟨i, hi⟩ := h.quiet _ (hsuffix.subset List.mem_cons_self)
  cases hi

theorem Sweeping.not_misuse (h : Sweeping given f done) : .misuse ∉ f.history := by
  intro hmem
  obtain ⟨i, hi⟩ := h.quiet _ hmem
  cases hi

theorem Sweeping.swept_of_invalid (h : Sweeping given f done) (hdone : ∀ i, i ∈ done)
    (herror : ¬ f.error.Formed) : Swept given f where
  kept := h.kept
  keptError := by rw [h.error]
  cleared := by
    refine ⟨fun i hi => h.cleared i (hdone i) hi, fun hformed => ?_⟩
    rw [h.error] at herror
    exact absurd hformed herror
  first := fun _ hsuffix => (h.not_inspect hsuffix).elim
  proper := h.not_misuse
  empty := fun i => h.empty i (hdone i)
  emptyError := fun hformed => absurd hformed herror

theorem Sweeping.swept_clearError (h : Sweeping given f done) (hdone : ∀ i, i ∈ done)
    (herror : f.error.Formed) : Swept given f.clearError where
  kept := h.kept
  keptError := by
    rw [← h.error, herror]
    rfl
  cleared := by
    refine ⟨fun i hi => ?_, fun _ => List.mem_cons_self⟩
    exact List.mem_cons_of_mem _ (h.cleared i (hdone i) hi)
  first := by
    intro older hsuffix
    rcases List.suffix_cons_iff.mp hsuffix with heq | hsuffix
    · cases heq
    · exact (h.not_inspect hsuffix).elim
  proper := by
    intro hmem
    rcases List.mem_cons.mp hmem with heq | hmem
    · cases heq
    · exact h.not_misuse hmem
  empty := fun i => h.empty i (hdone i)
  emptyError := fun _ => rfl

end Sweep

end Frame

end OpendalMbt.Transition
