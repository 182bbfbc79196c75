import Mathlib.Algebra.BigOperators.Group.Finset.Basic
import OpendalMbt.Stub.Result

/-!
# What the functions of the C stub do with native handles

Each function of `Stub.Result` against the ledger of the handles.

* `moves_releaseResultPayload`, `moves_finalize`: what a release gives back;
* `contents_finalize`: nothing is left when the library frees what it has made;
* `adds_run`: what a new result owns;
* `outcome_take`: a take moves one payload, or changes nothing but the status.
-/

namespace OpendalMbt.Stub

open Native Transition

/-! ## What is owned -/

/-- The handle behind a pointer of a type. -/
def behind (kind : HandleKind) (handle : Option Nat) : Multiset NativeHandle :=
  handle.elim 0 fun call => {⟨kind, call⟩}

@[simp] theorem behind_none (kind : HandleKind) : behind kind none = 0 := rfl

@[simp] theorem behind_some (kind : HandleKind) (call : Nat) :
    behind kind (some call) = {⟨kind, call⟩} := rfl

def Result.contents (r : Result) : Multiset NativeHandle := ∑ kind, behind kind (r.slot kind)

def External.contents : External → Multiset NativeHandle
  | result r => r.contents
  | operator operator_ info => behind .operator operator_ + behind .info info
  | metadata metadata_ entry => behind .metadata metadata_ + behind .entry entry
  | asyncTask task _ => behind .asyncTask task
  | wrapper kind handle => behind kind handle
  | collected => 0

/-- One slot apart from the others. -/
theorem contents_eq (r : Result) (kind : HandleKind) :
    r.contents = behind kind (r.slot kind) + (r.clear kind).contents := by
  have hothers : ∑ other ∈ Finset.univ.erase kind, behind other ((r.clear kind).slot other) =
      ∑ other ∈ Finset.univ.erase kind, behind other (r.slot other) := by
    apply Finset.sum_congr rfl
    intro other hother
    rw [Result.slot_clear, Function.update_of_ne (Finset.ne_of_mem_erase hother)]
  have hcleared := Finset.add_sum_erase Finset.univ
    (fun other => behind other ((r.clear kind).slot other)) (Finset.mem_univ kind)
  have hslots := Finset.add_sum_erase Finset.univ (fun other => behind other (r.slot other))
    (Finset.mem_univ kind)
  unfold Result.contents
  rw [← hslots, ← hcleared, hothers, Result.slot_clear, Function.update_self, behind_none,
    zero_add]

theorem contents_of_slot {r : Result} {kind : HandleKind} {call : Nat}
    (h : r.slot kind = some call) :
    r.contents = {⟨kind, call⟩} + (r.clear kind).contents := by
  rw [contents_eq r kind, h, behind_some]

theorem contents_put {r : Result} {kind : HandleKind} (call : Nat) (h : r.slot kind = none) :
    (r.put kind call).contents = {⟨kind, call⟩} + r.contents := by
  have hslot : (r.put kind call).slot kind = some call := by simp
  have hcleared : ((r.put kind call).clear kind).contents = r.contents := by
    unfold Result.contents
    simp only [Result.slot_clear, Result.slot_put, Function.update_idem, ← h,
      Function.update_eq_self]
  rw [contents_of_slot hslot, hcleared]

theorem contents_of_empty {r : Result} (h : ∀ kind, r.slot kind = none) : r.contents = 0 := by
  unfold Result.contents
  simp [h]

/-! ## Release -/

section Release

variable {lib : Library} {s : Result × Handles} {frees : List (HandleKind × Bool)}
  {kind : HandleKind} {offered : Bool}

theorem moves_freeSlot (kind : HandleKind) (offered : Bool) (s : Result × Handles) :
    Ledger.Moves s.2 (freeSlot kind offered s).2 s.1.contents
      (freeSlot kind offered s).1.contents := by
  unfold freeSlot
  cases hslot : s.1.slot kind with
  | none => exact Ledger.Moves.of_eq rfl
  | some call =>
    dsimp only
    split_ifs
    · rw [contents_of_slot hslot]
      exact Ledger.Moves.retire _ _
    · exact Ledger.Moves.of_eq rfl

theorem status_freeSlot : (freeSlot kind offered s).1.status = s.1.status := by
  unfold freeSlot
  cases s.1.slot kind with
  | none => rfl
  | some call =>
    dsimp only
    split_ifs <;> rfl

/-- A null slot stays null. -/
theorem slot_freeSlot {other : HandleKind} (h : s.1.slot other = none) :
    (freeSlot kind offered s).1.slot other = none := by
  unfold freeSlot
  cases s.1.slot kind with
  | none => exact h
  | some call =>
    dsimp only
    split_ifs
    · by_cases hother : other = kind
      · rw [hother]
        simp
      · simp [Function.update_of_ne hother, h]
    · exact h

theorem slot_freeSlot_self (h : offered = true) : (freeSlot kind offered s).1.slot kind = none := by
  unfold freeSlot
  cases hslot : s.1.slot kind with
  | none => exact hslot
  | some call => simp [h]

/-- There is nothing to free. -/
theorem freeSlot_eq_self (h : offered = true → s.1.slot kind = none) :
    freeSlot kind offered s = s := by
  unfold freeSlot
  cases hslot : s.1.slot kind with
  | none => rfl
  | some call =>
    have hrefused : offered = false := by
      cases offered with
      | false => rfl
      | true => simp [h rfl] at hslot
    simp [hrefused]

theorem moves_freeSlots (frees : List (HandleKind × Bool)) (s : Result × Handles) :
    let t := frees.foldl (fun s free => freeSlot free.1 free.2 s) s
    Ledger.Moves s.2 t.2 s.1.contents t.1.contents ∧ t.1.status = s.1.status := by
  induction frees generalizing s with
  | nil => exact ⟨Ledger.Moves.of_eq rfl, rfl⟩
  | cons free frees ih =>
    obtain ⟨hmoves, hstatus⟩ := ih (freeSlot free.1 free.2 s)
    exact ⟨(moves_freeSlot free.1 free.2 s).trans hmoves, hstatus.trans status_freeSlot⟩

theorem slot_freeSlots (h : s.1.slot kind = none) :
    (frees.foldl (fun s free => freeSlot free.1 free.2 s) s).1.slot kind = none := by
  induction frees generalizing s with
  | nil => exact h
  | cons free frees ih => exact ih (slot_freeSlot h)

theorem slot_freeSlots_of_mem (h : (kind, true) ∈ frees) :
    (frees.foldl (fun s free => freeSlot free.1 free.2 s) s).1.slot kind = none := by
  induction frees generalizing s with
  | nil => cases h
  | cons free frees ih =>
    rw [List.foldl_cons]
    rcases List.mem_cons.mp h with heq | hmem
    · rw [← heq]
      exact slot_freeSlots (slot_freeSlot_self rfl)
    · exact ih hmem

theorem freeSlots_eq_self (h : ∀ kind, (kind, true) ∈ frees → s.1.slot kind = none) :
    frees.foldl (fun s free => freeSlot free.1 free.2 s) s = s := by
  induction frees with
  | nil => rfl
  | cons free frees ih =>
    obtain ⟨kind, offered⟩ := free
    have hself : freeSlot kind offered s = s := by
      apply freeSlot_eq_self
      intro hoffered
      exact h kind (by simp [hoffered])
    rw [List.foldl_cons, hself]
    exact ih fun other hother => h other (List.mem_cons_of_mem _ hother)

theorem moves_releaseResultPayload (lib : Library) (s : Result × Handles) :
    let t := releaseResultPayload lib s
    Ledger.Moves s.2 t.2 s.1.contents t.1.contents ∧ t.1.status = s.1.status := by
  unfold releaseResultPayload
  cases lib.loadApi false with
  | error status => exact ⟨Ledger.Moves.of_eq rfl, rfl⟩
  | ok api => exact moves_freeSlots _ s

theorem releaseResultPayload_idem (lib : Library) (s : Result × Handles) :
    releaseResultPayload lib (releaseResultPayload lib s) = releaseResultPayload lib s := by
  unfold releaseResultPayload
  cases lib.loadApi false with
  | error status => rfl
  | ok api => exact freeSlots_eq_self fun kind hkind => slot_freeSlots_of_mem hkind

/-- The finalizer of a handle of the type would free it. -/
def Library.Frees (lib : Library) (kind : HandleKind) : Prop :=
  ∃ api, lib.finalizerApi kind = .ok api

theorem Library.Frees.loaded (h : lib.Frees kind) : ∃ api, lib.loadApi false = .ok api := by
  obtain ⟨api, hload⟩ := h
  cases kind with
  | error | operator | info | buffer | metadata | entry => exact ⟨api, hload⟩
  | lister | reader | readStream | writer | copier | presignedRequest | asyncTask
  | asyncReadStream | asyncWriter => exact ⟨api, (Library.loadFeature_ok hload).1⟩

/-- A release then frees it as well. -/
theorem Library.Frees.mem_payloadFrees {api : LoadedApi} (h : lib.Frees kind)
    (hapi : lib.loadApi false = .ok api) : (kind, true) ∈ payloadFrees api := by
  obtain ⟨found, hload⟩ := h
  -- the entry point is among those of the feature
  have hoffers : ∀ entry {limited feature entries},
      Library.loadFeature limited feature entries (lib.loadApi false) = .ok found →
        entry ∈ entries → api.offers feature [entry] = true := by
    intro entry limited feature entries hfeature hentry
    obtain ⟨hfound, hall⟩ := Library.loadFeature_ok hfeature
    rw [hapi] at hfound
    cases hfound
    exact LoadedApi.offers_of_mem hall hentry
  cases kind with
  | error | operator | info | buffer | metadata | entry => simp [payloadFrees]
  | lister =>
    have hfree := LoadedApi.has_of_offers (hoffers .listerFree hload (by simp))
    simp [payloadFrees, hfree]
  | reader =>
    have hfree := LoadedApi.has_of_offers (hoffers .readerFree hload (by simp))
    simp [payloadFrees, hfree]
  | writer =>
    have hfree := LoadedApi.has_of_offers (hoffers .writerFree hload (by simp))
    simp [payloadFrees, hfree]
  | readStream =>
    have hfree := hoffers .readStreamFree hload (by simp)
    simp [payloadFrees, hfree]
  | copier =>
    have hfree := hoffers .copierFree hload (by simp)
    simp [payloadFrees, hfree]
  | presignedRequest =>
    have hfree := hoffers .presignedRequestFree hload (by simp)
    simp [payloadFrees, hfree]
  | asyncTask =>
    have hfree := hoffers .asyncTaskFree hload (by simp)
    simp [payloadFrees, hfree]
  | asyncReadStream =>
    have hfree := hoffers .asyncReadStreamFree hload (by simp)
    simp [payloadFrees, hfree]
  | asyncWriter =>
    have hfree := hoffers .asyncWriterFree hload (by simp)
    simp [payloadFrees, hfree]

/-- A result whose handles can be freed is empty after its release. -/
theorem contents_releaseResultPayload
    (h : ∀ kind call, s.1.slot kind = some call → lib.Frees kind) :
    (releaseResultPayload lib s).1.contents = 0 := by
  apply contents_of_empty
  intro kind
  unfold releaseResultPayload
  cases hapi : lib.loadApi false with
  | error status =>
    -- no handle, since its finalizer would load the API
    dsimp only
    cases hslot : s.1.slot kind with
    | none => rfl
    | some call =>
      obtain ⟨api, hloaded⟩ := (h kind call hslot).loaded
      rw [hapi] at hloaded
      cases hloaded
  | ok api =>
    cases hslot : s.1.slot kind with
    | none => exact slot_freeSlots hslot
    | some call => exact slot_freeSlots_of_mem ((h kind call hslot).mem_payloadFrees hapi)

theorem moves_freeHandle (kind : HandleKind) (handle : Option Nat) (handles : Handles)
    (rest : Multiset NativeHandle) :
    Ledger.Moves handles (freeHandle kind handle handles) (behind kind handle + rest) rest := by
  cases handle with
  | none => exact Ledger.Moves.of_eq (zero_add rest)
  | some call => exact Ledger.Moves.retire _ _

theorem moves_finalize (lib : Library) (handles : Handles) (object : External) :
    let t := object.finalize lib handles
    Ledger.Moves handles t.2 object.contents t.1.contents := by
  cases object with
  | result r => exact (moves_releaseResultPayload lib (r, handles)).1
  | operator operator_ info =>
    unfold External.finalize
    cases lib.loadApi false with
    | error status => exact Ledger.Moves.of_eq rfl
    | ok api =>
      show Ledger.Moves _ _ (behind .operator operator_ + behind .info info) 0
      rw [add_comm, ← add_zero (behind .operator operator_)]
      exact (moves_freeHandle .info info handles _).trans
        (moves_freeHandle .operator operator_ _ 0)
  | metadata metadata_ entry =>
    unfold External.finalize
    cases lib.loadApi false with
    | error status => exact Ledger.Moves.of_eq rfl
    | ok api =>
      show Ledger.Moves _ _ (behind .metadata metadata_ + behind .entry entry) 0
      rw [← add_zero (behind .entry entry)]
      exact (moves_freeHandle .metadata metadata_ handles _).trans
        (moves_freeHandle .entry entry _ 0)
  | asyncTask task kind =>
    unfold External.finalize
    cases lib.finalizerApi .asyncTask with
    | error status => exact Ledger.Moves.of_eq rfl
    | ok api =>
      show Ledger.Moves _ _ (behind .asyncTask task) 0
      rw [← add_zero (behind .asyncTask task)]
      exact moves_freeHandle .asyncTask task handles 0
  | wrapper kind handle =>
    simp only [External.finalize]
    cases lib.finalizerApi kind with
    | error status => exact Ledger.Moves.of_eq rfl
    | ok api =>
      show Ledger.Moves _ _ (behind kind handle) 0
      rw [← add_zero (behind kind handle)]
      exact moves_freeHandle kind handle handles 0
  | collected => exact Ledger.Moves.of_eq rfl

theorem mem_contents_of_slot {r : Result} {call : Nat} (h : r.slot kind = some call) :
    ⟨kind, call⟩ ∈ r.contents := by
  rw [contents_of_slot h]
  simp

theorem kind_of_mem_behind {handle : Option Nat} {x : NativeHandle} (h : x ∈ behind kind handle) :
    x.kind = kind := by
  cases handle with
  | none => simp at h
  | some call =>
    rw [behind_some, Multiset.mem_singleton] at h
    rw [h]

theorem behind_eq_zero {handle : Option Nat} {status : Status}
    (hload : lib.finalizerApi kind = .error status)
    (h : ∀ x ∈ behind kind handle, lib.Frees x.kind) : behind kind handle = 0 := by
  apply Multiset.eq_zero_of_forall_notMem
  intro x hx
  obtain ⟨api, hapi⟩ := h x hx
  rw [kind_of_mem_behind hx, hload] at hapi
  cases hapi

/-- An object whose handles can be freed has none after its finalizer. -/
theorem contents_finalize {handles : Handles} {object : External}
    (h : ∀ x ∈ object.contents, lib.Frees x.kind) :
    (object.finalize lib handles).1.contents = 0 := by
  cases object with
  | result r =>
    apply contents_releaseResultPayload
    intro kind call hslot
    exact h ⟨kind, call⟩ (mem_contents_of_slot hslot)
  | operator operator_ info =>
    unfold External.finalize
    cases hload : lib.loadApi false with
    | error status =>
      have hoperator : behind .operator operator_ = 0 :=
        behind_eq_zero hload fun x hx => h x (Multiset.mem_add.mpr (.inl hx))
      have hinfo : behind .info info = 0 :=
        behind_eq_zero hload fun x hx => h x (Multiset.mem_add.mpr (.inr hx))
      show behind .operator operator_ + behind .info info = 0
      rw [hoperator, hinfo, add_zero]
    | ok api => rfl
  | metadata metadata_ entry =>
    unfold External.finalize
    cases hload : lib.loadApi false with
    | error status =>
      have hmetadata : behind .metadata metadata_ = 0 :=
        behind_eq_zero hload fun x hx => h x (Multiset.mem_add.mpr (.inl hx))
      have hentry : behind .entry entry = 0 :=
        behind_eq_zero hload fun x hx => h x (Multiset.mem_add.mpr (.inr hx))
      show behind .metadata metadata_ + behind .entry entry = 0
      rw [hmetadata, hentry, add_zero]
    | ok api => rfl
  | asyncTask task kind =>
    unfold External.finalize
    cases hload : lib.finalizerApi .asyncTask with
    | error status => exact behind_eq_zero hload h
    | ok api => rfl
  | wrapper kind handle =>
    simp only [External.finalize]
    cases hload : lib.finalizerApi kind with
    | error status => exact behind_eq_zero hload h
    | ok api => rfl
  | collected => rfl

end Release

/-! ## New results -/

section Results

variable {lib : Library} {f : ResultFunction} {reply : Reply} {call : Nat} {kinds : List HandleKind}

theorem slot_check (outputs : Outputs) (reply : Reply) (r : Result) :
    (outputs.check reply r).slot = r.slot := by
  unfold Outputs.check
  cases outputs <;> dsimp only <;> split_ifs <;> rfl

/-- The library writes new handles into null slots. -/
structure Fillable (call : Nat) (kinds : List HandleKind) (s : Result × Handles) : Prop where
  empty : ∀ kind ∈ kinds, s.1.slot kind = none
  fresh : ∀ kind ∈ kinds, ⟨kind, call⟩ ∉ s.2.created

theorem Fillable.fillSlot {s : Result × Handles} {kind : HandleKind}
    (h : Fillable call (kind :: kinds) s) (hkind : kind ∉ kinds) :
    Fillable call kinds (fillSlot call reply s kind) := by
  have hne : ∀ other ∈ kinds, other ≠ kind := fun other hother heq => hkind (heq ▸ hother)
  unfold OpendalMbt.Stub.fillSlot
  split_ifs
  · constructor
    · intro other hother
      simp [Function.update_of_ne (hne other hother),
        h.empty other (List.mem_cons_of_mem _ hother)]
    · intro other hother hmem
      rcases List.mem_cons.mp hmem with heq | hmem
      · exact hne other hother (congrArg NativeHandle.kind heq)
      · exact h.fresh other (List.mem_cons_of_mem _ hother) hmem
  · exact ⟨fun other hother => h.empty other (List.mem_cons_of_mem _ hother),
      fun other hother => h.fresh other (List.mem_cons_of_mem _ hother)⟩

theorem balanced_fillSlots {s : Result × Handles} {frame : Multiset NativeHandle}
    (hs : Fillable call kinds s) (hkinds : kinds.Nodup)
    (hbalanced : s.2.Balanced (s.1.contents + frame)) :
    let t := kinds.foldl (fillSlot call reply) s
    t.2.Balanced (t.1.contents + frame) := by
  induction kinds generalizing s with
  | nil => exact hbalanced
  | cons kind kinds ih =>
    obtain ⟨hkind, hkinds⟩ := List.nodup_cons.mp hkinds
    apply ih (hs.fillSlot hkind) hkinds
    unfold fillSlot
    split_ifs
    · rw [contents_put call (hs.empty kind List.mem_cons_self), add_assoc]
      exact hbalanced.create (hs.fresh kind List.mem_cons_self)
    · exact hbalanced

theorem created_fillSlots {s : Result × Handles} {x : NativeHandle}
    (hx : x ∈ (kinds.foldl (fillSlot call reply) s).2.created) :
    x ∈ s.2.created ∨ x.call = call ∧ x.kind ∈ kinds := by
  induction kinds generalizing s with
  | nil => exact .inl hx
  | cons kind kinds ih =>
    rcases ih hx with hmem | ⟨hcall, hmem⟩
    · unfold fillSlot at hmem
      split_ifs at hmem
      · rcases List.mem_cons.mp hmem with rfl | hmem
        · exact .inr ⟨rfl, List.mem_cons_self⟩
        · exact .inl hmem
      · exact .inl hmem
    · exact .inr ⟨hcall, List.mem_cons_of_mem _ hmem⟩

/-- The function passes different slots to the library, all of types that it can free. -/
structure ResultFunction.Serves (f : ResultFunction) (lib : Library) : Prop where
  nodup : f.outputs.kinds.Nodup
  frees : ∀ api, f.load lib = .ok api → ∀ kind ∈ f.outputs.kinds, lib.Frees kind

/-- What a function adds to the books. -/
structure Adds (lib : Library) (call : Nat) (handles : Handles) (s : Result × Handles) : Prop where
  balanced : ∀ frame, handles.Balanced frame → s.2.Balanced (s.1.contents + frame)
  created : ∀ x ∈ s.2.created, x ∈ handles.created ∨ x.call = call ∧ lib.Frees x.kind

theorem adds_nothing {handles : Handles} (status : Status) :
    Adds lib call handles ({ Result.new with status }, handles) where
  balanced := by
    intro frame hframe
    have hempty : ({ Result.new with status } : Result).contents = 0 :=
      contents_of_empty fun kind => rfl
    rw [hempty, zero_add]
    exact hframe
  created := fun x hx => .inl hx

theorem adds_answered {handles : Handles} (hf : f.outputs.kinds.Nodup)
    (hfrees : ∀ kind ∈ f.outputs.kinds, lib.Frees kind)
    (hfresh : ∀ x ∈ handles.created, x.call < call) :
    Adds lib call handles (f.answered reply call handles) := by
  have hfillable : Fillable call f.outputs.kinds
      ({ Result.new with status := reply.status }, handles) := by
    refine ⟨fun kind hkind => rfl, ?_⟩
    intro kind hkind hmem
    exact Nat.lt_irrefl call (hfresh _ hmem)
  have hcontents : (f.answered reply call handles).1.contents =
      (f.outputs.kinds.foldl (fillSlot call reply)
        ({ Result.new with status := reply.status }, handles)).1.contents := by
    unfold ResultFunction.answered Result.contents
    rw [slot_check]
  constructor
  · intro frame hframe
    rw [hcontents]
    have hnew : Adds lib call handles ({ Result.new with status := reply.status }, handles) :=
      adds_nothing reply.status
    exact balanced_fillSlots hfillable hf (hnew.balanced frame hframe)
  · intro x hx
    rcases created_fillSlots hx with hmem | ⟨hcall, hmem⟩
    · exact .inl hmem
    · exact .inr ⟨hcall, hfrees x.kind hmem⟩

theorem adds_run {handles : Handles} (hf : f.Serves lib) (receiver : Option Nat)
    (arguments : Arguments) (hfresh : ∀ x ∈ handles.created, x.call < call) :
    Adds lib call handles (f.run lib receiver arguments reply call handles) := by
  unfold ResultFunction.run
  cases arguments.early with
  | some refusal => exact adds_nothing _
  | none =>
    cases hload : f.load lib with
    | error status => exact adds_nothing _
    | ok api =>
      dsimp only
      split_ifs
      · exact adds_nothing _
      · cases arguments.late with
        | some refusal => exact adds_nothing _
        | none => exact adds_answered hf.nodup (hf.frees api hload) hfresh

/-! ### The functions of the stub -/

theorem loaded_of_load (c : ResultCall) {api : LoadedApi} (h : c.function.load lib = .ok api) :
    lib.loadApi false = .ok api := by
  cases c with
  | operatorNew => exact h
  | operatorCheck | operatorExists | operatorStat | operatorRead | operatorWrite | operatorCopy
  | operatorRename | operatorCreateDir | operatorDelete =>
    exact Library.loadApi_false_of_loadApi h
  | writerAbort => exact (Library.loadFeature_ok (Library.loadFeature_ok h).1).1
  | _ => exact (Library.loadFeature_ok h).1

theorem serves_function (lib : Library) (c : ResultCall) : c.function.Serves lib where
  nodup := by cases c <;> decide
  frees := by
    intro api h kind hkind
    have hbase := loaded_of_load c h
    cases c <;>
      simp only [ResultCall.function, Outputs.kinds, List.mem_cons, List.not_mem_nil,
        or_false] at hkind <;>
      rcases hkind with rfl | rfl | rfl <;>
      first | exact ⟨api, hbase⟩ | exact ⟨api, h⟩

theorem serves_asyncTaskTakeResult (lib : Library) (kind : Option AsyncResultKind) :
    (asyncTaskTakeResult kind).Serves lib := by
  have hbase : ∀ {api limited feature entries},
      Library.loadFeature limited feature entries (lib.loadApi false) = .ok api →
        lib.loadApi false = .ok api := fun h => (Library.loadFeature_ok h).1
  constructor
  · cases kind with
    | none => decide
    | some kind => cases kind <;> decide
  · intro api h other hother
    cases kind with
    | none =>
      rw [List.mem_singleton.mp hother]
      exact ⟨api, hbase h⟩
    | some kind =>
      cases kind <;>
        simp only [asyncTaskTakeResult, Outputs.kinds, List.mem_cons, List.not_mem_nil,
          or_false] at hother <;>
        rcases hother with rfl | rfl <;>
        first | exact ⟨api, hbase h⟩ | exact ⟨api, h⟩

end Results

/-! ## Takes -/

section Takes

variable {lib : Library} {r : Result} {handles : Handles}

/-- What a take does: it refuses, and changes nothing but the status, or it moves a payload out
of a result that is `OK`. -/
inductive Take.Outcome (r : Result) (handles : Handles) (t : Take) :
    Option Taken × Result × Handles → Prop where
  | refused {status : Status} (hstatus : status ≠ .ok) :
      Outcome r handles t (none, { r with status }, handles)
  | taken {taken : Taken} {r' : Result} {handles' : Handles} (hstatus : r.status = .ok)
      (hstatus' : r'.status = .ok)
      (hmoves : Ledger.Moves handles handles' r.contents
        (r'.contents + ((t.object (some taken)).elim 0 External.contents))) :
      Outcome r handles t (some taken, r', handles')

theorem Take.Outcome.mismatch (t : Take) : t.Outcome r handles (none, r.mismatch, handles) :=
  .refused (by decide)

/-- A value that is no handle. -/
theorem Take.Outcome.plain {t : Take} {taken : Taken} {r' : Result} (hstatus : r.status = .ok)
    (hstatus' : r'.status = .ok) (hslot : r'.slot = r.slot)
    (hobject : t.object (some taken) = none) : t.Outcome r handles (some taken, r', handles) := by
  refine .taken hstatus hstatus' (Ledger.Moves.of_eq ?_)
  rw [hobject, Option.elim_none, add_zero]
  unfold Result.contents
  rw [hslot]

theorem outcome_moved {t : Take} {object : Nat → External} {kind : HandleKind} {valid : Bool}
    (hobject : ∀ call, (object call).contents = {⟨kind, call⟩}) (handles : Handles) :
    t.Outcome r handles (Take.moved handles object (r.takeSlot kind valid)) := by
  unfold Take.moved Result.takeSlot
  cases hslot : r.slot kind with
  | none =>
    dsimp only
    split_ifs <;> exact Take.Outcome.mismatch t
  | some call =>
    dsimp only
    split_ifs with hstatus hvalid
    · exact Take.Outcome.mismatch t
    · rw [not_ne_iff] at hstatus
      refine .taken hstatus hstatus (Ledger.Moves.of_eq ?_)
      show r.contents = (r.clear kind).contents + (object call).contents
      rw [hobject, contents_of_slot hslot, add_comm]
    · exact Take.Outcome.mismatch t

theorem outcome_takeBool : Take.Outcome r handles .bool (Take.bool.run lib r handles) := by
  show Take.Outcome r handles .bool (r.takeBool.1.map .bool, r.takeBool.2, handles)
  unfold Result.takeBool
  split_ifs with h
  · exact Take.Outcome.mismatch _
  · rw [not_or, not_ne_iff] at h
    exact Take.Outcome.plain h.1 h.1 rfl rfl

theorem outcome_takeUint64 : Take.Outcome r handles .uint64 (Take.uint64.run lib r handles) := by
  show Take.Outcome r handles .uint64 (r.takeUint64.1.map .uint64, r.takeUint64.2, handles)
  unfold Result.takeUint64
  split_ifs with h
  · exact Take.Outcome.mismatch _
  · rw [not_or, not_ne_iff] at h
    exact Take.Outcome.plain h.1 h.1 rfl rfl

theorem outcome_takeOperator :
    Take.Outcome r handles .operator (Take.operator.run lib r handles) := by
  unfold Take.run Result.takeOperator
  dsimp only
  split_ifs with hstatus
  · exact Take.Outcome.mismatch _
  · cases hoperator : r.slot .operator with
    | none => exact Take.Outcome.mismatch _
    | some operator_ =>
      cases hinfo : r.slot .info with
      | none => exact Take.Outcome.mismatch _
      | some info =>
        rw [not_ne_iff] at hstatus
        have hinfo' : (r.clear .operator).slot .info = some info := by
          rw [Result.slot_clear, Function.update_of_ne (by decide), hinfo]
        refine .taken hstatus hstatus (Ledger.Moves.of_eq ?_)
        show r.contents = ((r.clear .operator).clear .info).contents +
          ({⟨.operator, operator_⟩} + {⟨.info, info⟩})
        rw [contents_of_slot hoperator, contents_of_slot hinfo', ← add_assoc, add_comm]

theorem outcome_takeAsyncTask :
    Take.Outcome r handles .asyncTask (Take.asyncTask.run lib r handles) := by
  unfold Take.run Result.takeAsyncTask
  dsimp only
  split_ifs with hstatus
  · exact Take.Outcome.mismatch _
  · cases htask : r.slot .asyncTask with
    | none => exact Take.Outcome.mismatch _
    | some task =>
      cases hkind : r.asyncKind with
      | none => exact Take.Outcome.mismatch _
      | some kind =>
        rw [not_ne_iff] at hstatus
        refine .taken hstatus hstatus (Ledger.Moves.of_eq ?_)
        show r.contents = (r.clear .asyncTask).contents + {⟨.asyncTask, task⟩}
        rw [contents_of_slot htask, add_comm]

/-- The status of a failing copy, which is not `OK`. -/
theorem failed_ne_ok (status : Status) : (if status = .ok then .abiMismatch else status) ≠ .ok := by
  split_ifs with h
  · decide
  · exact h

/-- The buffer is freed when its bytes have been copied. -/
theorem moves_freed {buffer : Nat} (hslot : r.slot .buffer = some buffer) :
    Ledger.Moves handles (handles.retire ⟨.buffer, buffer⟩) r.contents
      ((r.clear .buffer).contents + 0) := by
  rw [contents_of_slot hslot, add_zero]
  exact Ledger.Moves.retire _ _

theorem outcome_takeBytes (entries : BufferEntries) :
    Take.Outcome r handles (.bytes entries) ((Take.bytes entries).run lib r handles) := by
  have hmismatch : Take.Outcome r handles (.bytes entries)
      (none, { r with status := .abiMismatch }, handles) := .refused (by decide)
  unfold Take.run Result.takeBytes
  cases hslot : r.slot .buffer with
  | none =>
    dsimp only
    split_ifs <;> exact hmismatch
  | some buffer =>
    cases hload : lib.loadApi false with
    | error status =>
      dsimp only
      split_ifs
      · exact hmismatch
      · exact .refused (Library.loadApi_error_ne hload)
    | ok api =>
      obtain ⟨⟨status, len⟩, copy⟩ := entries
      dsimp only
      by_cases hstatus : r.status = .ok
      · rw [if_neg (not_ne_iff.mpr hstatus)]
        by_cases hlen : status ≠ .ok ∨ INT32_MAX < len
        · rw [if_pos hlen]
          exact .refused (failed_ne_ok status)
        · rw [if_neg hlen]
          by_cases hzero : len = 0
          · rw [if_pos hzero]
            split_ifs
            · exact hmismatch
            · exact .taken hstatus hstatus (moves_freed hslot)
          · rw [if_neg hzero]
            by_cases hcopied : (copy (some (List.replicate len 0)) len).status ≠ .ok ∨
                (copy (some (List.replicate len 0)) len).required ≠ len
            · rw [if_pos hcopied]
              exact .refused (failed_ne_ok _)
            · rw [if_neg hcopied]
              exact .taken hstatus hstatus (moves_freed hslot)
      · rw [if_pos hstatus]
        exact hmismatch

theorem outcome_take (lib : Library) (r : Result) (handles : Handles) (t : Take) :
    t.Outcome r handles (t.run lib r handles) := by
  cases t with
  | bool => exact outcome_takeBool
  | uint64 => exact outcome_takeUint64
  | operator => exact outcome_takeOperator
  | asyncTask => exact outcome_takeAsyncTask
  | bytes entries => exact outcome_takeBytes entries
  | metadata valid => exact outcome_moved (fun call => add_zero _) handles
  | lister | reader | readStream | writer | copier | asyncReadStream | asyncWriter =>
    exact outcome_moved (fun call => rfl) handles
  | entry valid | presignedRequest valid => exact outcome_moved (fun call => rfl) handles

/-- A result that is not `OK` gives nothing. -/
theorem run_take_of_status (t : Take) (h : r.status ≠ .ok) : (t.run lib r handles).1 = none := by
  have houtcome := outcome_take lib r handles t
  generalize t.run lib r handles = answer at houtcome
  cases houtcome with
  | refused hstatus => rfl
  | taken hstatus hstatus' hmoves => exact absurd hstatus h

end Takes

end OpendalMbt.Stub
