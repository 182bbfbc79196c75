import OpendalMbt.Bridge.SlotFrame

/-!
# Resources that are lent

The three kinds of resource that an operation may hold a lease on. Whatever is done through a
lease, only the resource that was lent changes, and that not in kind.

* `Lender.Lawful`: what a lender wraps, and where it finds it;
* `Touched`: a change through a lease, with what makes one.
-/

namespace OpendalMbt.Bridge

open Arena Transition

variable {O S W L I T : Type}

/-- What is wrapped is what is found, at the kind of the lender. -/
structure Lender.Lawful (F : Lender O S W L I T) : Prop where
  unwrap_eq : ∀ r state, F.unwrap r = some state ↔ r = F.wrap state
  kind_wrap : ∀ state, Kinded.kind (F.wrap state) = F.kind

theorem lawful_readStream : Lender.Lawful (Lender.readStream : Lender O S W L _ _) where
  unwrap_eq r state := by cases r <;> simp [Lender.readStream]
  kind_wrap _ := rfl

theorem lawful_writer : Lender.Lawful (Lender.writer : Lender O S W L _ _) where
  unwrap_eq r state := by cases r <;> simp [Lender.writer]
  kind_wrap _ := rfl

theorem lawful_lister : Lender.Lawful (Lender.lister : Lender O S W L _ _) where
  unwrap_eq r state := by cases r <;> simp [Lender.lister]
  kind_wrap _ := rfl

variable {F : Lender O S W L I T} {a a' : Arena (OwnedResource O S W L)} {handle : UInt32}

theorem Lender.Lawful.lookup_eq_ok (hF : F.Lawful) {state : LeasedState I T} :
    F.lookup a handle = .ok state ↔ a.get? handle = some (F.wrap state) :=
  borrow_eq_ok hF.unwrap_eq

/-- The kinds that can be lent. -/
def Lendable (expected : ResourceKind) : Prop :=
  expected = .readStream ∨ expected = .writer ∨ expected = .lister

theorem not_lendable_operator : ¬ Lendable .operator := by simp [Lendable]

theorem not_lendable_task : ¬ Lendable .task := by simp [Lendable]

theorem Lendable.ne_task {r : OwnedResource O S W L} (h : Lendable (kind r))
    (t : Task (Completion S W L)) : r ≠ .task t := by
  rintro rfl
  exact not_lendable_task h

/-- At most what `lease` lends has changed, and that not in kind. -/
structure Touched (lease : Option ResourceLease) (a a' : Arena (OwnedResource O S W L)) :
    Prop where
  valid : a'.Valid
  kinds : ∀ k, (a'.get? k).map kind = (a.get? k).map kind
  others : ∀ k, (∀ held ∈ lease, k ≠ held.handle) → a'.get? k = a.get? k
  tasks : ∀ k t, a.get? k = some (.task t) → a'.get? k = some (.task t)

theorem Touched.refl (ha : a.Valid) (lease : Option ResourceLease) : Touched lease a a where
  valid := ha
  kinds _ := rfl
  others _ _ := rfl
  tasks _ _ h := h

section Touched

variable {lease : ResourceLease}

theorem touched_write (ha : a.Valid) {r₀ r : OwnedResource O S W L}
    (hget : a.get? lease.handle = some r₀) (hkind : kind r = kind r₀) (hlendable : Lendable (kind r₀)) :
    Touched (some lease) a (a.write lease.handle r) := by
  have hres := get?_eq_some.mp hget
  have hget' := ha.get?_write hres r
  refine ⟨ha.write hres, ?_, ?_, ?_⟩
  · intro k
    rw [hget']
    split_ifs with hk
    · rw [hk, hget, Option.map_some, Option.map_some, hkind]
    · rfl
  · intro k hk
    rw [hget', if_neg (hk lease rfl)]
  · intro k t ht
    rw [hget', if_neg, ht]
    rintro rfl
    rw [hget] at ht
    exact hlendable.ne_task t (Option.some.inj ht)

variable (hF : F.Lawful) (hlendable : Lendable F.kind)
include hF hlendable

variable (lease) in
theorem touched_wrap (ha : a.Valid) {state : LeasedState I T}
    (hlookup : F.lookup a lease.handle = .ok state) (state' : LeasedState I T) :
    Touched (some lease) a (a.write lease.handle (F.wrap state')) := by
  apply touched_write ha (hF.lookup_eq_ok.mp hlookup)
  · rw [hF.kind_wrap, hF.kind_wrap]
  · rwa [hF.kind_wrap]

theorem touched_fail (ha : a.Valid) : Touched (some lease) a (F.fail lease a) := by
  unfold Lender.fail
  split
  · rename_i hlookup
    split
    · exact touched_wrap lease hF hlendable ha hlookup _
    · exact .refl ha _
  · rename_i hlookup
    split
    · exact touched_wrap lease hF hlendable ha hlookup _
    · exact .refl ha _
  · exact .refl ha _

theorem touched_applyUpdate (ha : a.Valid) (update : LeasedUpdate I T) :
    Touched (some lease) a (F.applyUpdate lease update a) := by
  unfold Lender.applyUpdate
  split
  · rename_i hlookup
    split
    · exact touched_wrap lease hF hlendable ha hlookup _
    · exact .refl ha _
  · exact .refl ha _

end Touched

theorem touched_terminalize (ha : a.Valid) (t : Task (Completion S W L)) :
    Touched (taskLease t) a (terminalizeOwnedTask t a) := by
  unfold terminalizeOwnedTask
  cases taskLease t with
  | none => exact .refl ha _
  | some lease =>
    dsimp only
    split
    · exact touched_fail lawful_readStream (Or.inl rfl) ha
    · exact touched_fail lawful_writer (Or.inr (Or.inl rfl)) ha
    · exact touched_fail lawful_lister (Or.inr (Or.inr rfl)) ha
    · exact .refl ha _

theorem touched_apply (ha : a.Valid) (lease : ResourceLease) (update : OwnedUpdate S W L) :
    Touched (some lease) a (update.apply lease a) := by
  cases update with
  | readStream update => exact touched_applyUpdate lawful_readStream (Or.inl rfl) ha update
  | writer update => exact touched_applyUpdate lawful_writer (Or.inr (Or.inl rfl)) ha update
  | lister update => exact touched_applyUpdate lawful_lister (Or.inr (Or.inr rfl)) ha update

end OpendalMbt.Bridge
