import OpendalMbt.Bridge.LeaseInvariant
import OpendalMbt.Transition.Custody

/-!
# Custody of a leased object

The abstract side of one handle is the custody of its object: the object is stored in the
resource, lent to the operation with a given token, or shut away. `Refines.move` matches
every move by steps of `Custody`, so `simulates_custody` matches every event, and what is
shut stays shut over whole runs (`shut_run`).
-/

namespace OpendalMbt.Bridge

open Transition Arena

variable {I M X : Type} {r r' : Resource I M X} {handle : UInt32}

namespace LeaseSystem

variable {b b' : LeaseSystem I M X} {c : Custody UInt64} {es : List (LeaseEvent I M X)}

/-! ## Custody of one handle's object -/

def GateAgrees (state : Option (LeasedState I Unit)) (c : Custody UInt64) : Prop :=
  match state with
  | some (.open _ _) => c = .stored
  | some (.busy t) => c = .lent t
  | some (.terminal _) | none => c.IsShut

/-- The resource agrees with the custody, and the holder is the operation in flight. -/
structure Agrees (b : LeaseSystem I M X) (handle : UInt32) (c : Custody UInt64) : Prop where
  gate : GateAgrees (b.leasedAt handle) c
  holder : ∀ t, (∃ f ∈ b.flights, f.lease.handle = handle ∧ f.lease.operation = t) ↔
    c.holder = some t

structure Refines (handle : UInt32) (b : LeaseSystem I M X) (c : Custody UInt64) : Prop where
  inv : b.Inv
  issued : b.state.arena.Issued handle
  agrees : b.Agrees handle c

theorem Agrees.congr (h : b.Agrees handle c) (hget : b'.get? handle = b.get? handle)
    (hflights : ∀ f, f.lease.handle = handle → (f ∈ b'.flights ↔ f ∈ b.flights)) :
    b'.Agrees handle c where
  gate := by
    rw [leasedAt, hget]
    exact h.gate
  holder := by
    intro t
    rw [← h.holder t]
    constructor
    · intro ⟨f, hf, hh, ht⟩
      exact ⟨f, (hflights f hh).mp hf, hh, ht⟩
    · intro ⟨f, hf, hh, ht⟩
      exact ⟨f, (hflights f hh).mpr hf, hh, ht⟩

theorem Agrees.revoke (h : b.Agrees handle c) (hgate : ∀ c : Custody UInt64, c.IsShut →
    GateAgrees (b'.leasedAt handle) c) (hflights : b'.flights = b.flights) :
    b'.Agrees handle c.revoke where
  gate := hgate _ (Custody.isShut_revoke c)
  holder := by
    intro t
    rw [hflights, Custody.holder_revoke]
    exact h.holder t

theorem Agrees.open (h : b.Agrees handle c) {inner : I} {t : UInt64}
    (hopen : b.leasedAt handle = some (.open inner t)) : c = .stored := by
  have hgate := h.gate
  rwa [hopen] at hgate

theorem Agrees.busy (h : b.Agrees handle c) {t : UInt64}
    (hbusy : b.leasedAt handle = some (.busy t)) : c = .lent t := by
  have hgate := h.gate
  rwa [hbusy] at hgate

theorem gate_of_get {state : Option (LeasedState I Unit)} (hget : b.get? handle = some r)
    (hleased : r.leased = state) (hgate : GateAgrees state c) :
    GateAgrees (b.leasedAt handle) c := by
  rwa [leasedAt, hget, Option.bind_some, hleased]

theorem gate_of_removed (hget : b.get? handle = none) (hshut : c.IsShut) :
    GateAgrees (b.leasedAt handle) c := by
  rwa [leasedAt, hget]

/-- Of a handle with no operation left in flight, nobody is the holder. -/
theorem Agrees.of_none (hgate : GateAgrees (b.leasedAt handle) c) (hholder : c.holder = none)
    (hflights : ∀ f ∈ b.flights, f.lease.handle ≠ handle) : b.Agrees handle c where
  gate := hgate
  holder := by
    intro t
    rw [hholder]
    constructor
    · intro ⟨f, hf, hh, _⟩
      exact absurd hh (hflights f hf)
    · intro h
      cases h

theorem Refines.move (h : Refines handle b c) (hmove : Move b b') :
    ∃ c', Relation.ReflTransGen Custody.Step c c' ∧ Refines handle b' c' := by
  obtain ⟨hb, hissued, hagrees⟩ := h
  have hb' := hb.move hmove
  have hv := hb.valid
  cases hmove with
  | count operation e hle =>
    exact ⟨c, .refl, hb', hissued, hagrees.congr rfl fun f _ => Iff.rfl⟩
  | insert hins hidle =>
    refine ⟨c, .refl, hb', (hv.issued_insert hins handle).mpr (.inr hissued), ?_⟩
    exact hagrees.congr (get?_insert_ne hv hins (ne_of_insert hv hins hissued)) fun f _ => Iff.rfl
  | «open» hins hleased =>
    refine ⟨c, .refl, hb', (hv.issued_insert hins handle).mpr (.inr hissued), ?_⟩
    exact hagrees.congr (get?_insert_ne hv hins (ne_of_insert hv hins hissued)) fun f _ => Iff.rfl
  | @fail h₀ r r' state hget hleased hleased' =>
    have hissued' := (hv.issued_write (get?_eq_some.mp hget) r' handle).mpr hissued
    by_cases heq : handle = h₀
    · refine ⟨c.revoke, .single (.revoke c), hb', hissued', hagrees.revoke ?_ rfl⟩
      intro c hshut
      have hafter := (hv.get?_write (get?_eq_some.mp hget) r' handle).trans (if_pos heq)
      exact gate_of_get hafter hleased' hshut
    · exact ⟨c, .refl, hb', hissued', hagrees.congr (get?_write_ne hv hget heq) fun f _ => Iff.rfl⟩
  | @settle h₀ task task' hget hidle hpending hlease =>
    have hissued' := (hv.issued_write (get?_eq_some.mp hget) (.task task') handle).mpr hissued
    by_cases heq : handle = h₀
    · refine ⟨c.revoke, .single (.revoke c), hb', hissued', hagrees.revoke ?_ rfl⟩
      intro c hshut
      have hafter := (hv.get?_write (get?_eq_some.mp hget) (.task task') handle).trans (if_pos heq)
      exact gate_of_get hafter rfl hshut
    · exact ⟨c, .refl, hb', hissued', hagrees.congr (get?_write_ne hv hget heq) fun f _ => Iff.rfl⟩
  | @remove h₀ expected r arena hidle htake =>
    have hissued' := (hv.issued_take htake handle).mpr hissued
    by_cases heq : handle = h₀
    · refine ⟨c.revoke, .single (.revoke c), hb', hissued', hagrees.revoke ?_ rfl⟩
      intro c hshut
      have hafter := (hv.get?_take htake handle).trans (if_pos heq)
      exact gate_of_removed hafter hshut
    · exact ⟨c, .refl, hb', hissued', hagrees.congr (get?_take_ne hv htake heq) fun f _ => Iff.rfl⟩
  | @lend h₀ r r' inner previous task arena lease hget hleased hkind' hleased' hlease hlt hins =>
    have hres := get?_eq_some.mp hget
    have hv' := hv.write (r := r') hres
    have hissued' := (hv.issued_write hres r' handle).mpr hissued
    have hafter : arena.get? handle = if handle = h₀ then some r' else b.get? handle :=
      (get?_insert_ne hv' hins (ne_of_insert hv' hins hissued')).trans (hv.get?_write hres r' handle)
    replace hissued' := (hv'.issued_insert hins handle).mpr (.inr hissued')
    by_cases heq : handle = h₀
    · subst heq
      obtain rfl := hagrees.open (leasedAt_eq_some.mpr ⟨r, hget, hleased⟩)
      rw [if_pos rfl] at hafter
      refine ⟨.lent lease.operation, .single (.lend _), hb', hissued', ?_, fun t => ?_⟩
      · exact gate_of_get hafter hleased' rfl
      · constructor
        · intro ⟨f, hf, hh, ht⟩
          rcases List.mem_append.mp hf with hf | hf
          · have := (hagrees.holder t).mp ⟨f, hf, hh, ht⟩
            cases this
          · rw [List.mem_singleton.mp hf] at ht
            exact congrArg some ht
        · intro ht
          refine ⟨_, List.mem_append_right _ (List.mem_singleton_self _), hlease.1, ?_⟩
          exact Option.some.inj ht
    · rw [if_neg heq] at hafter
      refine ⟨c, .refl, hb', hissued', hagrees.congr hafter fun f hf => ?_⟩
      simp only [List.mem_append, List.mem_singleton]
      refine ⟨fun h => h.resolve_right ?_, .inl⟩
      rintro rfl
      exact heq (hf.symm.trans hlease.1)
  | @giveBack i f r r' hf hholding hkind' hleased' =>
    have hres := get?_eq_some.mp hholding.get
    have hissued' := (hv.issued_write hres r' handle).mpr hissued
    by_cases heq : handle = f.lease.handle
    · subst heq
      obtain rfl := hagrees.busy (leasedAt_eq_some.mpr ⟨r, hholding.get, hholding.leased⟩)
      have hafter := (hv.get?_write hres r' f.lease.handle).trans (if_pos rfl)
      have hothers : ∀ f' ∈ b.flights.eraseIdx i, f'.lease.handle ≠ f.lease.handle :=
        fun f' hf' => ((hb.ownership.mem_eraseIdx hf).mp hf').2
      rcases hleased' with hleased' | hleased'
      · refine ⟨.stored, .single (.restore _), hb', hissued', .of_none ?_ rfl hothers⟩
        exact gate_of_get hafter hleased' rfl
      · refine ⟨.closed, .single (.settle _), hb', hissued', .of_none ?_ rfl hothers⟩
        exact gate_of_get hafter hleased' trivial
    · refine ⟨c, .refl, hb', hissued', hagrees.congr (get?_write_ne hv hholding.get heq) ?_⟩
      intro f' hf'
      rw [hb.ownership.mem_eraseIdx hf]
      exact and_iff_left fun h => heq (hf'.symm.trans h)
  | @discard i f hf hidle =>
    have hmem := List.mem_of_getElem? hf
    by_cases heq : handle = f.lease.handle
    · subst heq
      have hholder : c.holder = some f.lease.operation := (hagrees.holder _).mp ⟨f, hmem, rfl, rfl⟩
      have hothers : ∀ f' ∈ b.flights.eraseIdx i, f'.lease.handle ≠ f.lease.handle :=
        fun f' hf' => ((hb.ownership.mem_eraseIdx hf).mp hf').2
      cases c with
      | stored => cases hholder
      | closed => cases hholder
      | lent t =>
        -- the resource is still lent, so it is busy with this operation
        cases hholder
        have hgate := hagrees.gate
        cases hleased : b.leasedAt f.lease.handle with
        | none =>
          rw [hleased] at hgate
          exact hgate.elim
        | some state =>
          rw [hleased] at hgate
          cases state with
          | «open» inner t => cases hgate
          | busy t =>
            cases hgate
            exact absurd hleased hidle
          | terminal outcome => exact hgate.elim
      | revoked t =>
        refine ⟨.closed, .single (.discard t), hb', hissued, .of_none ?_ rfl hothers⟩
        have hgate := hagrees.gate
        show GateAgrees (b.leasedAt f.lease.handle) .closed
        cases hleased : b.leasedAt f.lease.handle with
        | none => trivial
        | some state =>
          rw [hleased] at hgate
          cases state with
          | «open» inner t => cases hgate
          | busy t => cases hgate
          | terminal outcome => trivial
    · refine ⟨c, .refl, hb', hissued, hagrees.congr rfl fun f' hf' => ?_⟩
      rw [hb.ownership.mem_eraseIdx hf]
      exact and_iff_left fun h => heq (hf'.symm.trans h)

theorem Refines.moves (h : Refines handle b c) (hmoves : Relation.ReflTransGen Move b b') :
    ∃ c', Relation.ReflTransGen Custody.Step c c' ∧ Refines handle b' c' := by
  induction hmoves with
  | refl => exact ⟨c, .refl, h⟩
  | tail _ hmove ih =>
    obtain ⟨c₁, hsteps, h₁⟩ := ih
    obtain ⟨c₂, hsteps', h₂⟩ := h₁.move hmove
    exact ⟨c₂, hsteps.trans hsteps', h₂⟩

/-- Every event is matched by steps of the custody of each issued handle. -/
theorem simulates_custody (handle : UInt32) :
    Simulates (step (I := I) (M := M) (X := X)) (fun _ _ => True) Custody.Step
      (Refines handle) :=
  fun _ _ _ _ hstep _ h => h.moves (h.inv.step_moves hstep)

/-- In a reached state the custody can be read off the resource and the flights. -/
theorem Inv.exists_agrees (hb : b.Inv) (handle : UInt32) : ∃ c, b.Agrees handle c := by
  by_cases hflight : ∃ f ∈ b.flights, f.lease.handle = handle
  · obtain ⟨f, hf, rfl⟩ := hflight
    have hholder : ∀ t, (∃ f' ∈ b.flights, f'.lease.handle = f.lease.handle ∧
        f'.lease.operation = t) ↔ some f.lease.operation = some t := by
      intro t
      constructor
      · intro ⟨f', hf', hh, ht⟩
        rw [hb.ownership.unique hf hf' hh.symm, ht]
      · intro ht
        exact ⟨f, hf, rfl, Option.some.inj ht⟩
    cases hleased : b.leasedAt f.lease.handle with
    | none => exact ⟨.revoked f.lease.operation, by rw [hleased]; trivial, hholder⟩
    | some state =>
      obtain ⟨r, hget, hr⟩ := leasedAt_eq_some.mp hleased
      rcases hb.ownership.lent f hf r state hget hr with rfl | rfl
      · exact ⟨.lent f.lease.operation, by rw [hleased]; rfl, hholder⟩
      · exact ⟨.revoked f.lease.operation, by rw [hleased]; trivial, hholder⟩
  · have hnone : ∀ f ∈ b.flights, f.lease.handle ≠ handle := fun f hf h => hflight ⟨f, hf, h⟩
    cases hleased : b.leasedAt handle with
    | none => exact ⟨.closed, .of_none (by rw [hleased]; trivial) rfl hnone⟩
    | some state =>
      cases state with
      | «open» inner t => exact ⟨.stored, .of_none (by rw [hleased]; rfl) rfl hnone⟩
      | terminal outcome => exact ⟨.closed, .of_none (by rw [hleased]; trivial) rfl hnone⟩
      | busy t =>
        obtain ⟨r, hget, hr⟩ := leasedAt_eq_some.mp hleased
        obtain ⟨f, hf, hlease, -⟩ := hb.ownership.busy handle r t hget hr
        exact absurd (by rw [hlease]) (hnone f hf)

/-- Nothing can be borrowed from the resource: it is terminal or gone. -/
def Shut (b : LeaseSystem I M X) (handle : UInt32) : Prop :=
  b.leasedAt handle = some (.terminal ()) ∨ b.leasedAt handle = none

theorem Agrees.shut_iff (h : b.Agrees handle c) : c.IsShut ↔ b.Shut handle := by
  have hgate := h.gate
  unfold Shut
  cases hleased : b.leasedAt handle with
  | none =>
    rw [hleased] at hgate
    exact iff_of_true hgate (.inr rfl)
  | some state =>
    rw [hleased] at hgate
    cases state with
    | «open» inner t =>
      obtain rfl : c = .stored := hgate
      simp [Custody.IsShut]
    | busy t =>
      obtain rfl : c = .lent t := hgate
      simp [Custody.IsShut]
    | terminal outcome => exact iff_of_true hgate (.inl rfl)

/-- A shut resource stays shut in every run. -/
theorem Inv.shut_run (hb : b.Inv) (hissued : b.state.arena.Issued handle) (hshut : b.Shut handle)
    (hrun : run step b es = some b') : b'.Shut handle := by
  obtain ⟨c, hc⟩ := hb.exists_agrees handle
  obtain ⟨c', hsteps, hc'⟩ := (simulates_custody handle).run
    (along_of_forall fun _ _ _ _ _ _ => trivial) hrun ⟨hb, hissued, hc⟩
  exact hc'.agrees.shut_iff.mp (Custody.shut_of_steps hsteps (hc.shut_iff.mpr hshut))

/-- A used handle stays used. -/
theorem Inv.issued_step (hb : b.Inv) (hissued : b.state.arena.Issued handle)
    {e : LeaseEvent I M X} (hstep : b.step e = some b') : b'.state.arena.Issued handle := by
  obtain ⟨c, hc⟩ := hb.exists_agrees handle
  obtain ⟨c', -, hc'⟩ := simulates_custody handle hstep trivial ⟨hb, hissued, hc⟩
  exact hc'.issued

end LeaseSystem

end OpendalMbt.Bridge
