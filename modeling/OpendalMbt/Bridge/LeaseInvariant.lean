import OpendalMbt.Bridge.LeaseSystem
import Mathlib.Data.List.Nodup

/-!
# Invariants of the lease protocol

Three invariants, each kept by every move:

* `Tokens`: the issued tokens increase, and every token found in a resource or a task was
  issued for exactly that resource;
* `Objects`: what is stored under a handle, or owned by an operation of that handle, is the
  object the handle was opened with;
* `Ownership`: a handle has at most one operation in flight, none while the object is
  stored, and a busy resource belongs to the one whose pending task has its token.
-/

namespace OpendalMbt.Bridge

open Transition Arena

variable {I M X : Type} {a : Arena (Resource I M X)} {r r' x : Resource I M X}
variable {handle k : UInt32} {lease : ResourceLease}

/-! ## Lookups after one change -/

namespace Arena

theorem get?_of_write (ha : a.Valid) (hr : a.get? handle = some r)
    (hx : (a.write handle r').get? k = some x) :
    k = handle ∧ x = r' ∨ k ≠ handle ∧ a.get? k = some x := by
  rw [ha.get?_write (get?_eq_some.mp hr)] at hx
  by_cases hk : k = handle
  · rw [if_pos hk] at hx
    exact .inl ⟨hk, (Option.some.inj hx).symm⟩
  · rw [if_neg hk] at hx
    exact .inr ⟨hk, hx⟩

theorem get?_of_insert {a' : Arena (Resource I M X)} (ha : a.Valid)
    (h : a.insert r = (.ok handle, a')) (hx : a'.get? k = some x) :
    k = handle ∧ x = r ∨ k ≠ handle ∧ a.get? k = some x := by
  rw [ha.get?_insert h] at hx
  by_cases hk : k = handle
  · rw [if_pos hk] at hx
    exact .inl ⟨hk, (Option.some.inj hx).symm⟩
  · rw [if_neg hk] at hx
    exact .inr ⟨hk, hx⟩

theorem get?_of_take {a' : Arena (Resource I M X)} {expected : ResourceKind} (ha : a.Valid)
    (h : a.take handle expected = (.ok r, a')) (hx : a'.get? k = some x) :
    k ≠ handle ∧ a.get? k = some x := by
  rw [ha.get?_take h] at hx
  by_cases hk : k = handle
  · rw [if_pos hk] at hx
    cases hx
  · rw [if_neg hk] at hx
    exact ⟨hk, hx⟩

theorem get?_write_ne (ha : a.Valid) (hr : a.get? handle = some r) (hk : k ≠ handle) :
    (a.write handle r').get? k = a.get? k := by
  rw [ha.get?_write (get?_eq_some.mp hr), if_neg hk]

theorem get?_insert_ne {a' : Arena (Resource I M X)} (ha : a.Valid)
    (h : a.insert r = (.ok handle, a')) (hk : k ≠ handle) : a'.get? k = a.get? k := by
  rw [ha.get?_insert h, if_neg hk]

theorem get?_take_ne {a' : Arena (Resource I M X)} {expected : ResourceKind} (ha : a.Valid)
    (h : a.take handle expected = (.ok r, a')) (hk : k ≠ handle) : a'.get? k = a.get? k := by
  rw [ha.get?_take h, if_neg hk]

/-- A handle in use is not the one an insertion returns. -/
theorem ne_of_insert {a' : Arena (Resource I M X)} (ha : a.Valid)
    (h : a.insert r = (.ok handle, a')) (hk : a.Issued k) : k ≠ handle := by
  rintro rfl
  exact (view_insert ha h).1 hk

end Arena

theorem Resource.leased_of_idle (h : r.idle = true) : r.leased = none := by
  cases r with
  | plain p => rfl
  | task tk => rfl
  | completion c => rfl
  | readStream st => cases h
  | writer st => cases h
  | lister st => cases h

theorem taskLease_of_idle {task : Task X} (h : (Resource.task task : Resource I M X).idle = true) :
    taskLease task = none := by
  cases task with
  | pending lease =>
    cases lease with
    | none => rfl
    | some lease => cases h
  | ready completion lease => cases h
  | cancelled => rfl
  | consumed => rfl

theorem Resource.token_of_leased {state : LeasedState I Unit} (h : r.leased = some state) :
    r.token = state.token := by
  rw [Resource.token, h, Option.bind_some]

namespace LeaseSystem

variable {b c : LeaseSystem I M X} {f : Flight I}

theorem leasedAt_eq_some {state : LeasedState I Unit} :
    b.leasedAt handle = some state ↔ ∃ r, b.get? handle = some r ∧ r.leased = some state :=
  Option.bind_eq_some_iff

/-! ## Tokens -/

/-- What a resource knows of the leases issued so far: its token and its task's lease. -/
structure Known (issued : List ResourceLease) (handle : UInt32) (r : Resource I M X) : Prop where
  token : ∀ t, r.token = some t → t = 0 ∨ ⟨handle, r.kind, t⟩ ∈ issued
  lease : ∀ task lease, r = .task task → taskLease task = some lease → lease ∈ issued

theorem Known.mono {issued issued' : List ResourceLease} (h : Known issued handle r)
    (hsub : issued ⊆ issued') : Known issued' handle r where
  token t ht := (h.token t ht).imp_right fun hmem => hsub hmem
  lease task lease hr hlease := hsub (h.lease task lease hr hlease)

theorem known_of_leased {issued : List ResourceLease} {state : LeasedState I Unit}
    (hleased : r.leased = some state)
    (htoken : ∀ t, state.token = some t → t = 0 ∨ ⟨handle, r.kind, t⟩ ∈ issued) :
    Known issued handle r where
  token t ht := htoken t (by rwa [← Resource.token_of_leased hleased])
  lease := by
    rintro task lease rfl
    cases hleased

theorem known_of_task {issued : List ResourceLease} {task : Task X}
    (h : ∀ lease, taskLease task = some lease → lease ∈ issued) :
    Known issued handle (.task task : Resource I M X) where
  token := by
    intro t ht
    cases ht
  lease := by
    intro task' lease heq hlease
    cases heq
    exact h lease hlease

theorem known_of_idle {issued : List ResourceLease} (hidle : r.idle = true) :
    Known issued handle r where
  token := by
    intro t ht
    rw [Resource.token, Resource.leased_of_idle hidle] at ht
    cases ht
  lease := by
    rintro task lease rfl hlease
    rw [taskLease_of_idle hidle] at hlease
    cases hlease

structure Tokens (b : LeaseSystem I M X) : Prop where
  increasing : b.issued.Pairwise fun x y => x.operation < y.operation
  bounded : ∀ lease ∈ b.issued,
    0 < lease.operation ∧ lease.operation ≤ b.state.nextResourceOperation
  flight : ∀ f ∈ b.flights, f.lease ∈ b.issued
  known : ∀ handle r, b.get? handle = some r → Known b.issued handle r

theorem Tokens.move (hv : b.state.arena.Valid) (hb : b.Tokens) (h : Move b c) : c.Tokens := by
  cases h with
  | count operation e hle =>
    refine ⟨hb.increasing, fun lease hmem => ?_, hb.flight, hb.known⟩
    exact ⟨(hb.bounded lease hmem).1, UInt64.le_trans (hb.bounded lease hmem).2 hle⟩
  | insert hins hidle =>
    refine ⟨hb.increasing, hb.bounded, hb.flight, fun k x hx => ?_⟩
    rcases get?_of_insert hv hins hx with ⟨-, rfl⟩ | ⟨-, hx⟩
    · exact known_of_idle hidle
    · exact hb.known k x hx
  | «open» hins hleased =>
    refine ⟨hb.increasing, hb.bounded, hb.flight, fun k x hx => ?_⟩
    rcases get?_of_insert hv hins hx with ⟨-, rfl⟩ | ⟨-, hx⟩
    · apply known_of_leased hleased
      intro t ht
      exact .inl (Option.some.inj ht).symm
    · exact hb.known k x hx
  | fail hget hleased hleased' =>
    refine ⟨hb.increasing, hb.bounded, hb.flight, fun k x hx => ?_⟩
    rcases get?_of_write hv hget hx with ⟨-, rfl⟩ | ⟨-, hx⟩
    · apply known_of_leased hleased'
      intro t ht
      cases ht
    · exact hb.known k x hx
  | settle hget hidle hpending hlease =>
    refine ⟨hb.increasing, hb.bounded, hb.flight, fun k x hx => ?_⟩
    rcases get?_of_write hv hget hx with ⟨rfl, rfl⟩ | ⟨-, hx⟩
    · apply known_of_task
      intro lease hlease'
      exact (hb.known _ _ hget).lease _ lease rfl (hlease lease hlease')
    · exact hb.known k x hx
  | remove hidle htake =>
    refine ⟨hb.increasing, hb.bounded, hb.flight, fun k x hx => ?_⟩
    exact hb.known k x (get?_of_take hv htake hx).2
  | @lend handle r r' inner previous task arena lease hget hleased hkind' hleased' hlease hlt hins =>
    have hv' := hv.write (r := r') (get?_eq_some.mp hget)
    have hnew : lease ∈ b.issued ++ [lease] := List.mem_append_right _ (List.mem_singleton_self _)
    have hsub : b.issued ⊆ b.issued ++ [lease] := List.subset_append_left _ _
    refine ⟨List.pairwise_append.mpr ⟨hb.increasing, List.pairwise_singleton _ _, ?_⟩, ?_, ?_, ?_⟩
    · intro l hl l' hl'
      rw [List.mem_singleton.mp hl']
      exact UInt64.lt_of_le_of_lt (hb.bounded l hl).2 hlt
    · intro l hl
      rcases List.mem_append.mp hl with hl | hl
      · exact ⟨(hb.bounded l hl).1, UInt64.le_trans (hb.bounded l hl).2 (UInt64.le_of_lt hlt)⟩
      · rw [List.mem_singleton.mp hl]
        exact ⟨UInt64.lt_of_le_of_lt UInt64.zero_le hlt, UInt64.le_refl _⟩
    · intro f hf
      rcases List.mem_append.mp hf with hf | hf
      · exact hsub (hb.flight f hf)
      · rw [List.mem_singleton.mp hf]
        exact hnew
    · intro k x hx
      rcases get?_of_insert hv' hins hx with ⟨-, rfl⟩ | ⟨-, hx⟩
      · apply known_of_task
        intro l hl
        cases hl
        exact hnew
      · rcases get?_of_write hv hget hx with ⟨rfl, rfl⟩ | ⟨-, hx⟩
        · apply known_of_leased hleased'
          intro t ht
          cases ht
          rw [hkind', ← hlease.1, ← hlease.2]
          exact .inr hnew
        · exact (hb.known k x hx).mono hsub
  | giveBack hf hholding hkind' hleased' =>
    refine ⟨hb.increasing, hb.bounded, fun f hf => hb.flight f (List.mem_of_mem_eraseIdx hf),
      fun k x hx => ?_⟩
    rcases get?_of_write hv hholding.get hx with ⟨rfl, rfl⟩ | ⟨-, hx⟩
    · rcases hleased' with hleased' | hleased'
      · apply known_of_leased hleased'
        intro t ht
        cases ht
        rw [hkind']
        exact .inr (hb.flight _ (List.mem_of_getElem? hf))
      · apply known_of_leased hleased'
        intro t ht
        cases ht
    · exact hb.known k x hx
  | discard hf hidle =>
    exact ⟨hb.increasing, hb.bounded, fun f hf => hb.flight f (List.mem_of_mem_eraseIdx hf),
      hb.known⟩

/-! ## Objects -/

structure Objects (b : LeaseSystem I M X) : Prop where
  valid : b.state.arena.Valid
  nodup : (b.opened.map Prod.fst).Nodup
  issued : ∀ p ∈ b.opened, b.state.arena.Issued p.1
  stored : ∀ handle r inner t, b.get? handle = some r → r.leased = some (.open inner t) →
    (handle, inner) ∈ b.opened
  owned : ∀ f ∈ b.flights, (f.lease.handle, f.inner) ∈ b.opened

theorem Objects.flight_issued (hb : b.Objects) (hf : f ∈ b.flights) :
    b.state.arena.Issued f.lease.handle :=
  hb.issued _ (hb.owned f hf)

theorem Objects.move (hb : b.Objects) (h : Move b c) : c.Objects := by
  have hv := hb.valid
  cases h with
  | count operation e hle => exact ⟨hv, hb.nodup, hb.issued, hb.stored, hb.owned⟩
  | insert hins hidle =>
    refine ⟨hv.insert hins, hb.nodup, fun p hp => ?_, ?_, hb.owned⟩
    · exact (hv.issued_insert hins p.1).mpr (.inr (hb.issued p hp))
    · intro k x inner t hx hopen
      rcases get?_of_insert hv hins hx with ⟨-, rfl⟩ | ⟨-, hx⟩
      · rw [Resource.leased_of_idle hidle] at hopen
        cases hopen
      · exact hb.stored k x inner t hx hopen
  | @«open» r key arena inner₀ hins hleased =>
    have hsub : b.opened ⊆ b.opened ++ [(key, inner₀)] := List.subset_append_left _ _
    refine ⟨hv.insert hins, ?_, fun p hp => ?_, ?_, fun f hf => hsub (hb.owned f hf)⟩
    · rw [List.map_append, List.nodup_append]
      refine ⟨hb.nodup, List.nodup_singleton _, ?_⟩
      intro k hk k' hk' heq
      obtain ⟨p, hp, rfl⟩ := List.mem_map.mp hk
      exact ne_of_insert hv hins (hb.issued p hp) (heq.trans (List.mem_singleton.mp hk'))
    · apply (hv.issued_insert hins p.1).mpr
      rcases List.mem_append.mp hp with hp | hp
      · exact .inr (hb.issued p hp)
      · rw [List.mem_singleton.mp hp]
        exact .inl rfl
    · intro k x inner t hx hopen
      rcases get?_of_insert hv hins hx with ⟨rfl, rfl⟩ | ⟨-, hx⟩
      · rw [hleased] at hopen
        cases hopen
        exact List.mem_append_right _ (List.mem_singleton_self _)
      · exact hsub (hb.stored k x inner t hx hopen)
  | fail hget hleased hleased' =>
    refine ⟨hv.write (get?_eq_some.mp hget), hb.nodup, fun p hp => ?_, ?_, hb.owned⟩
    · exact (hv.issued_write (get?_eq_some.mp hget) _ p.1).mpr (hb.issued p hp)
    · intro k x inner t hx hopen
      rcases get?_of_write hv hget hx with ⟨-, rfl⟩ | ⟨-, hx⟩
      · rw [hleased'] at hopen
        cases hopen
      · exact hb.stored k x inner t hx hopen
  | settle hget hidle hpending hlease =>
    refine ⟨hv.write (get?_eq_some.mp hget), hb.nodup, fun p hp => ?_, ?_, hb.owned⟩
    · exact (hv.issued_write (get?_eq_some.mp hget) _ p.1).mpr (hb.issued p hp)
    · intro k x inner t hx hopen
      rcases get?_of_write hv hget hx with ⟨-, rfl⟩ | ⟨-, hx⟩
      · cases hopen
      · exact hb.stored k x inner t hx hopen
  | remove hidle htake =>
    refine ⟨hv.take htake, hb.nodup, fun p hp => ?_, ?_, hb.owned⟩
    · exact (hv.issued_take htake p.1).mpr (hb.issued p hp)
    · intro k x inner t hx hopen
      exact hb.stored k x inner t (get?_of_take hv htake hx).2 hopen
  | @lend handle r r' inner previous task arena lease hget hleased hkind' hleased' hlease hlt hins =>
    have hv' := hv.write (r := r') (get?_eq_some.mp hget)
    refine ⟨hv'.insert hins, hb.nodup, fun p hp => ?_, ?_, ?_⟩
    · apply (hv'.issued_insert hins p.1).mpr
      exact .inr ((hv.issued_write (get?_eq_some.mp hget) _ p.1).mpr (hb.issued p hp))
    · intro k x inner t hx hopen
      rcases get?_of_insert hv' hins hx with ⟨-, rfl⟩ | ⟨-, hx⟩
      · cases hopen
      · rcases get?_of_write hv hget hx with ⟨-, rfl⟩ | ⟨-, hx⟩
        · rw [hleased'] at hopen
          cases hopen
        · exact hb.stored k x inner t hx hopen
    · intro f hf
      rcases List.mem_append.mp hf with hf | hf
      · exact hb.owned f hf
      · rw [List.mem_singleton.mp hf, hlease.1]
        exact hb.stored _ _ _ _ hget hleased
  | @giveBack i f r r' hf hholding hkind' hleased' =>
    have hres := get?_eq_some.mp hholding.get
    refine ⟨hv.write hres, hb.nodup, fun p hp => ?_, ?_,
      fun f hf => hb.owned f (List.mem_of_mem_eraseIdx hf)⟩
    · exact (hv.issued_write hres _ p.1).mpr (hb.issued p hp)
    · intro k x inner t hx hopen
      rcases get?_of_write hv hholding.get hx with ⟨rfl, rfl⟩ | ⟨-, hx⟩
      · rcases hleased' with hleased' | hleased'
        · rw [hleased'] at hopen
          cases hopen
          exact hb.owned f (List.mem_of_getElem? hf)
        · rw [hleased'] at hopen
          cases hopen
      · exact hb.stored k x inner t hx hopen
  | discard hf hidle =>
    exact ⟨hv, hb.nodup, hb.issued, hb.stored, fun f hf => hb.owned f (List.mem_of_mem_eraseIdx hf)⟩

/-! ## Ownership -/

structure Ownership (b : LeaseSystem I M X) : Prop where
  one : (b.flights.map fun f => f.lease.handle).Nodup
  lent : ∀ f ∈ b.flights, ∀ r state, b.get? f.lease.handle = some r → r.leased = some state →
    state = .busy f.lease.operation ∨ state = .terminal ()
  busy : ∀ handle r t, b.get? handle = some r → r.leased = some (.busy t) →
    ∃ f ∈ b.flights, f.lease = ⟨handle, r.kind, t⟩ ∧
      b.get? f.task = some (.task (.pending (some f.lease)))

theorem Ownership.unique (hb : b.Ownership) {f f' : Flight I} (hf : f ∈ b.flights)
    (hf' : f' ∈ b.flights) (h : f.lease.handle = f'.lease.handle) : f = f' :=
  List.inj_on_of_nodup_map hb.one hf hf' h

/-- Where one operation in flight is removed, the others are those of other handles. -/
theorem Ownership.mem_eraseIdx (hb : b.Ownership) {i : Nat} {f f' : Flight I}
    (hf : b.flights[i]? = some f) :
    f' ∈ b.flights.eraseIdx i ↔ f' ∈ b.flights ∧ f'.lease.handle ≠ f.lease.handle := by
  have hmem := List.mem_of_getElem? hf
  rw [List.mem_eraseIdx_iff_getElem?]
  constructor
  · rintro ⟨j, hj, hget⟩
    refine ⟨List.mem_of_getElem? hget, fun heq => hj ?_⟩
    have hsame := hb.unique (List.mem_of_getElem? hget) hmem heq
    rw [hsame] at hget
    have hlt := (List.getElem?_eq_some_iff.mp hget).1
    exact (List.getElem?_inj hlt (List.Nodup.of_map _ hb.one)).mp (hget.trans hf.symm)
  · rintro ⟨hf', hne⟩
    obtain ⟨j, hj⟩ := List.mem_iff_getElem?.mp hf'
    refine ⟨j, ?_, hj⟩
    rintro rfl
    rw [hf] at hj
    cases hj
    exact hne rfl

theorem Ownership.one_eraseIdx (hb : b.Ownership) (i : Nat) :
    ((b.flights.eraseIdx i).map fun f => f.lease.handle).Nodup :=
  hb.one.sublist ((List.eraseIdx_sublist _ _).map _)

/-- The pending task of a busy resource survives a change elsewhere. -/
theorem Ownership.busy_kept (hb : b.Ownership) {t : UInt64} (hget : b.get? handle = some r)
    (hbusy : r.leased = some (.busy t))
    (hkept : ∀ task lease, lease.handle = handle → lease.operation = t →
      b.get? task = some (.task (.pending (some lease))) →
      c.get? task = some (.task (.pending (some lease))))
    (hflights : ∀ f ∈ b.flights, f.lease.handle = handle → f ∈ c.flights) :
    ∃ f ∈ c.flights, f.lease = ⟨handle, r.kind, t⟩ ∧
      c.get? f.task = some (.task (.pending (some f.lease))) := by
  obtain ⟨f, hf, hlease, htask⟩ := hb.busy handle r t hget hbusy
  refine ⟨f, hflights f hf ?_, hlease, hkept f.task f.lease ?_ ?_ htask⟩
  · rw [hlease]
  · rw [hlease]
  · rw [hlease]

theorem Ownership.move (ho : b.Objects) (hb : b.Ownership) (h : Move b c) : c.Ownership := by
  have hv := ho.valid
  cases h with
  | count operation e hle => exact ⟨hb.one, hb.lent, hb.busy⟩
  | insert hins hidle =>
    refine ⟨hb.one, fun f hf x state hx hstate => ?_, fun k x t hx hbusy => ?_⟩
    · rcases get?_of_insert hv hins hx with ⟨heq, -⟩ | ⟨-, hx⟩
      · exact absurd heq (ne_of_insert hv hins (ho.flight_issued hf))
      · exact hb.lent f hf x state hx hstate
    · rcases get?_of_insert hv hins hx with ⟨-, rfl⟩ | ⟨-, hx⟩
      · rw [Resource.leased_of_idle hidle] at hbusy
        cases hbusy
      · refine hb.busy_kept hx hbusy (fun task lease _ _ htask => ?_) fun f hf _ => hf
        exact (get?_insert_ne hv hins (ne_of_insert hv hins (hv.issued_of_get? htask))).trans htask
  | «open» hins hleased =>
    refine ⟨hb.one, fun f hf x state hx hstate => ?_, fun k x t hx hbusy => ?_⟩
    · rcases get?_of_insert hv hins hx with ⟨heq, -⟩ | ⟨-, hx⟩
      · exact absurd heq (ne_of_insert hv hins (ho.flight_issued hf))
      · exact hb.lent f hf x state hx hstate
    · rcases get?_of_insert hv hins hx with ⟨-, rfl⟩ | ⟨-, hx⟩
      · rw [hleased] at hbusy
        cases hbusy
      · refine hb.busy_kept hx hbusy (fun task lease _ _ htask => ?_) fun f hf _ => hf
        exact (get?_insert_ne hv hins (ne_of_insert hv hins (hv.issued_of_get? htask))).trans htask
  | fail hget hleased hleased' =>
    refine ⟨hb.one, fun f hf x state hx hstate => ?_, fun k x t hx hbusy => ?_⟩
    · rcases get?_of_write hv hget hx with ⟨-, rfl⟩ | ⟨-, hx⟩
      · rw [hleased'] at hstate
        exact .inr (Option.some.inj hstate).symm
      · exact hb.lent f hf x state hx hstate
    · rcases get?_of_write hv hget hx with ⟨-, rfl⟩ | ⟨-, hx⟩
      · rw [hleased'] at hbusy
        cases hbusy
      · refine hb.busy_kept hx hbusy (fun task lease _ _ htask => ?_) fun f hf _ => hf
        exact (get?_write_ne hv hget (task_ne_leased htask hget hleased)).trans htask
  | settle hget hidle hpending hlease =>
    refine ⟨hb.one, fun f hf x state hx hstate => ?_, fun k x t hx hbusy => ?_⟩
    · rcases get?_of_write hv hget hx with ⟨-, rfl⟩ | ⟨-, hx⟩
      · cases hstate
      · exact hb.lent f hf x state hx hstate
    · rcases get?_of_write hv hget hx with ⟨-, rfl⟩ | ⟨-, hx⟩
      · cases hbusy
      · refine hb.busy_kept hx hbusy (fun task lease hh ht htask => ?_) fun f hf _ => hf
        refine (get?_write_ne hv hget ?_).trans htask
        -- the task of a busy resource is not idle
        intro heq
        rw [heq, hget] at htask
        cases htask
        apply hidle lease rfl
        rw [hh, ht]
        exact leasedAt_eq_some.mpr ⟨x, hx, hbusy⟩
  | remove hidle htake =>
    refine ⟨hb.one, fun f hf x state hx hstate => ?_, fun k x t hx hbusy => ?_⟩
    · exact hb.lent f hf x state (get?_of_take hv htake hx).2 hstate
    · replace hx := (get?_of_take hv htake hx).2
      refine hb.busy_kept hx hbusy (fun task lease hh ht htask => ?_) fun f hf _ => hf
      refine (get?_take_ne hv htake ?_).trans htask
      rintro rfl
      have hget := (view_take hv htake).1
      obtain rfl := Option.some.inj (htask.symm.trans hget)
      apply hidle lease rfl
      rw [hh, ht]
      exact leasedAt_eq_some.mpr ⟨x, hx, hbusy⟩
  | @lend handle r r' inner previous task arena lease hget hleased hkind' hleased' hlease hlt hins =>
    have hv' := hv.write (r := r') (get?_eq_some.mp hget)
    have hissued : ∀ {k}, b.state.arena.Issued k → k ≠ task := fun hk =>
      ne_of_insert hv' hins ((hv.issued_write (get?_eq_some.mp hget) _ _).mpr hk)
    -- nothing of an open resource is in flight
    have hfree : ∀ f ∈ b.flights, f.lease.handle ≠ handle := by
      rintro f hf rfl
      rcases hb.lent f hf r _ hget hleased with h | h <;> cases h
    refine ⟨?_, fun f hf x state hx hstate => ?_, fun k x t hx hbusy => ?_⟩
    · rw [List.map_append, List.nodup_append]
      refine ⟨hb.one, List.nodup_singleton _, fun k hk k' hk' heq => ?_⟩
      obtain ⟨f, hf, rfl⟩ := List.mem_map.mp hk
      exact hfree f hf (heq.trans ((List.mem_singleton.mp hk').trans hlease.1))
    · rcases List.mem_append.mp hf with hf | hf
      · rcases get?_of_insert hv' hins hx with ⟨heq, -⟩ | ⟨-, hx⟩
        · exact absurd heq (hissued (ho.flight_issued hf))
        · rcases get?_of_write hv hget hx with ⟨heq, -⟩ | ⟨-, hx⟩
          · exact absurd heq (hfree f hf)
          · exact hb.lent f hf x state hx hstate
      · rw [List.mem_singleton.mp hf] at hx ⊢
        rcases get?_of_insert hv' hins hx with ⟨-, rfl⟩ | ⟨-, hx⟩
        · cases hstate
        · rcases get?_of_write hv hget hx with ⟨-, rfl⟩ | ⟨hne, -⟩
          · rw [hleased'] at hstate
            exact .inl (Option.some.inj hstate).symm
          · exact absurd hlease.1 hne
    · rcases get?_of_insert hv' hins hx with ⟨-, rfl⟩ | ⟨-, hx⟩
      · cases hbusy
      · rcases get?_of_write hv hget hx with ⟨rfl, rfl⟩ | ⟨-, hx⟩
        · rw [hleased'] at hbusy
          cases hbusy
          refine ⟨_, List.mem_append_right _ (List.mem_singleton_self _), ?_, ?_⟩
          · rw [hkind', ← hlease.1, ← hlease.2]
          · exact (hv'.get?_insert hins task).trans (if_pos rfl)
        · refine hb.busy_kept hx hbusy (fun task' l _ _ htask => ?_) fun f hf _ =>
            List.mem_append_left _ hf
          refine (get?_insert_ne hv' hins (hissued (hv.issued_of_get? htask))).trans ?_
          exact (get?_write_ne hv hget (task_ne_leased htask hget hleased)).trans htask
  | @giveBack i f r r' hf hholding hkind' hleased' =>
    have hget := hholding.get
    refine ⟨hb.one_eraseIdx i, fun f' hf' x state hx hstate => ?_, fun k x t hx hbusy => ?_⟩
    · obtain ⟨hmem, hne⟩ := (hb.mem_eraseIdx hf).mp hf'
      rcases get?_of_write hv hget hx with ⟨heq, -⟩ | ⟨-, hx⟩
      · exact absurd heq hne
      · exact hb.lent f' hmem x state hx hstate
    · rcases get?_of_write hv hget hx with ⟨-, rfl⟩ | ⟨hne, hx⟩
      · rcases hleased' with hleased' | hleased' <;> rw [hleased'] at hbusy <;> cases hbusy
      · refine hb.busy_kept hx hbusy (fun task l _ _ htask => ?_) fun f' hf' hh => ?_
        · exact (get?_write_ne hv hget (task_ne_leased htask hget hholding.leased)).trans htask
        · exact (hb.mem_eraseIdx hf).mpr ⟨hf', hh ▸ hne⟩
  | @discard i f hf hidle =>
    refine ⟨hb.one_eraseIdx i, fun f' hf' x state hx hstate => ?_, fun k x t hx hbusy => ?_⟩
    · exact hb.lent f' (List.mem_of_mem_eraseIdx hf') x state hx hstate
    · obtain ⟨f', hf', hlease, htask⟩ := hb.busy k x t hx hbusy
      refine ⟨f', (hb.mem_eraseIdx hf).mpr ⟨hf', fun heq => hidle ?_⟩, hlease, htask⟩
      rw [← hb.unique hf' (List.mem_of_getElem? hf) heq, hlease]
      exact leasedAt_eq_some.mpr ⟨x, hx, hbusy⟩

/-! ## From moves to events -/

structure Inv (b : LeaseSystem I M X) : Prop where
  tokens : b.Tokens
  objects : b.Objects
  ownership : b.Ownership

theorem Inv.valid (hb : b.Inv) : b.state.arena.Valid := hb.objects.valid

theorem inv_empty : Inv ({} : LeaseSystem I M X) where
  tokens := by
    refine ⟨List.Pairwise.nil, ?_, ?_, ?_⟩
    · simp
    · simp
    · intro handle r hget
      have hissued := valid_empty.issued_of_get? hget
      simp [Issued] at hissued
  objects := by
    refine ⟨valid_empty, List.nodup_nil, by simp, ?_, by simp⟩
    intro handle r inner t hget
    have hissued := valid_empty.issued_of_get? hget
    simp [Issued] at hissued
  ownership := by
    refine ⟨List.nodup_nil, by simp, ?_⟩
    intro handle r t hget
    have hissued := valid_empty.issued_of_get? hget
    simp [Issued] at hissued

theorem Inv.move (hb : b.Inv) (h : Move b c) : c.Inv where
  tokens := hb.tokens.move hb.valid h
  objects := hb.objects.move h
  ownership := hb.ownership.move hb.objects h

theorem Inv.moves (hb : b.Inv) (h : Relation.ReflTransGen Move b c) : c.Inv := by
  induction h with
  | refl => exact hb
  | tail _ hmove ih => exact ih.move hmove

/-- A token belongs to one lease. -/
theorem Tokens.unique (hb : b.Tokens) {lease' : ResourceLease} (h : lease ∈ b.issued)
    (h' : lease' ∈ b.issued) (heq : lease.operation = lease'.operation) : lease = lease' := by
  obtain ⟨i, hi, rfl⟩ := List.mem_iff_getElem.mp h
  obtain ⟨j, hj, rfl⟩ := List.mem_iff_getElem.mp h'
  have hlt := fun i j hi hj => List.pairwise_iff_getElem.mp hb.increasing i j hi hj
  rcases Nat.lt_trichotomy i j with hij | rfl | hij
  · have := hlt i j hi hj hij
    rw [heq] at this
    exact absurd this (UInt64.lt_irrefl _)
  · rfl
  · have := hlt j i hj hi hij
    rw [heq] at this
    exact absurd this (UInt64.lt_irrefl _)

/-- A resource whose current token is an issued one is the resource of that lease. -/
theorem Tokens.current (hb : b.Tokens) (hlease : lease ∈ b.issued) (hget : b.get? handle = some r)
    (htoken : r.token = some lease.operation) : lease.handle = handle ∧ Current b.state.arena lease r := by
  have hpos := (hb.bounded lease hlease).1
  rcases (hb.known handle r hget).token _ htoken with hzero | hmem
  · rw [hzero] at hpos
    exact absurd hpos (UInt64.lt_irrefl _)
  · have heq := hb.unique hlease hmem rfl
    have hhandle : lease.handle = handle := by rw [heq]
    have hkind : r.kind = lease.kind := by rw [heq]
    exact ⟨hhandle, hhandle.symm ▸ hget, hkind, htoken⟩

/-- The pending task of an operation whose resource is busy with it. -/
theorem Inv.holding (hb : b.Inv) (hf : f ∈ b.flights)
    (hbusy : b.leasedAt f.lease.handle = some (.busy f.lease.operation)) :
    (∃ r, Holding b.state.arena f.lease r) ∧
      b.get? f.task = some (.task (.pending (some f.lease))) := by
  obtain ⟨r, hget, hleased⟩ := leasedAt_eq_some.mp hbusy
  obtain ⟨f', hf', hlease, htask⟩ := hb.ownership.busy _ r _ hget hleased
  have hsame := hb.ownership.unique hf' hf (by rw [hlease])
  rw [hsame] at hlease htask
  have hkind : r.kind = f.lease.kind := by rw [hlease]
  exact ⟨⟨r, hget, hkind, hleased⟩, htask⟩

theorem idle_of_not_pending {task : Task X} (h : ∀ lease, task ≠ .pending (some lease)) :
    b.Idle (.task task) := by
  intro lease heq
  cases heq
  exact absurd rfl (h lease)

/-- `terminalize_lease` for the lease of a task: afterwards the task is idle. -/
theorem Inv.terminalize (hb : b.Inv) {task : Task X} (hget : b.get? handle = some (.task task)) :
    ∃ c : LeaseSystem I M X, c = { b with
        state := { b.state with arena := terminalizeTask task b.state.arena } } ∧
      Relation.ReflTransGen Move b c ∧ c.Idle (.task task) := by
  refine ⟨_, rfl, ?_⟩
  cases hlease : taskLease task with
  | none =>
    have hsame : terminalizeTask task b.state.arena = b.state.arena := by
      rw [terminalizeTask, hlease]
    refine ⟨by rw [hsame], idle_of_not_pending fun lease heq => ?_⟩
    rw [heq] at hlease
    cases hlease
  | some lease =>
    have hissued := (hb.tokens.known _ _ hget).lease task lease rfl hlease
    have hpending : ∀ lease', task = .pending (some lease') → lease' = lease := by
      rintro lease' rfl
      exact Option.some.inj hlease
    have hterm : terminalizeTask task b.state.arena = terminalizeLease b.state.arena lease := by
      rw [terminalizeTask, hlease]
    rw [hterm]
    rcases terminalizeLease_cases b.state.arena lease with
      ⟨r, r', hr, hleased', heq⟩ | ⟨heq, hnone⟩
    · obtain ⟨state, hleased, -⟩ := Resource.leased_of_token hr.token
      rw [heq]
      refine ⟨.single (.fail hr.get hleased hleased'), ?_⟩
      intro lease' htask hbusy
      rw [hpending lease' (Resource.task.inj htask)] at hbusy
      obtain ⟨x, hx, hxbusy⟩ := leasedAt_eq_some.mp hbusy
      rcases get?_of_write hb.valid hr.get hx with ⟨-, rfl⟩ | ⟨hne, -⟩
      · rw [hleased'] at hxbusy
        cases hxbusy
      · exact hne rfl
    · rw [heq]
      refine ⟨.refl, ?_⟩
      intro lease' htask hbusy
      rw [hpending lease' (Resource.task.inj htask)] at hbusy
      obtain ⟨x, hx, hxbusy⟩ := leasedAt_eq_some.mp hbusy
      exact hnone x (hb.tokens.current hissued hx (Resource.token_of_leased hxbusy)).2

theorem moves_insertOpened (b : LeaseSystem I M X) {inner : I}
    (hleased : r.leased = some (.open inner 0)) :
    Relation.ReflTransGen Move b (b.insertOpened inner r) := by
  unfold insertOpened
  rcases insertResource_cases r b.state with ⟨e, heq⟩ | ⟨k, arena, hins, heq⟩
  · rw [heq]
    exact .single (.count b.state.nextResourceOperation (some e) (UInt64.le_refl _))
  · rw [heq]
    exact .single (.open hins hleased)

theorem moves_begun {T : Type} (F : Stateful I M X T) (hv : b.state.arena.Valid)
    (handle : UInt32) : Relation.ReflTransGen Move b (b.begun (reserve F handle b.state)) := by
  rcases reserve_cases F hv handle with
    ⟨operation, e, hle, heq⟩ | ⟨inner, previous, task, arena, hlt, hget, hins, heq⟩
  · rw [heq]
    exact .single (.count operation (some e) hle)
  · rw [heq]
    have hkind := (F.kind_wrap (.busy (b.state.nextResourceOperation + 1))).trans
      (F.kind_wrap (.open inner previous)).symm
    exact .single (.lend hget (F.leased_wrap _) hkind (F.leased_wrap _)
      ⟨rfl, (F.kind_wrap _).symm⟩ hlt hins)

/-- A publication ends its operation: it gives the object back, or comes too late. Then the
task becomes ready, if it is still pending. -/
theorem Inv.moves_publish (hb : b.Inv) {i : Nat} {update : ResourceUpdate I M} (completion : X)
    (hf : b.flights[i]? = some f) (hkind : update.kind = f.lease.kind)
    (hinner : update.inner = none ∨ update.inner = some f.inner) :
    Relation.ReflTransGen Move b { b with
      state := publishResourceTask f.task f.lease update completion b.state
      flights := b.flights.eraseIdx i } := by
  have hmem := List.mem_of_getElem? hf
  rcases publishResourceTask_cases hb.valid f.task f.lease completion hkind with
    ⟨heq, hlate⟩ | ⟨htask, heq⟩
  · rw [heq]
    exact .single (.discard hf fun hbusy => hlate (hb.holding hmem hbusy).2)
  · rw [heq]
    have hpending : ∀ lease, Task.ready completion (some f.lease) ≠ .pending lease := by
      intro lease h
      cases h
    rcases applyResourceUpdate_cases update b.state.arena hkind with
      ⟨r, r', hr, hkind', hleased', heq'⟩ | ⟨heq', hnone⟩
    · rw [heq']
      have hback : r'.leased = some (.open f.inner f.lease.operation) ∨
          r'.leased = some (.terminal ()) := by
        rcases hinner with hinner | hinner
        · exact .inr (by rw [hleased', ResourceUpdate.state, hinner])
        · exact .inl (by rw [hleased', ResourceUpdate.state, hinner])
      refine Relation.ReflTransGen.head (.giveBack hf hr hkind' hback) (.single ?_)
      have htask' : (b.state.arena.write f.lease.handle r').get? f.task = _ :=
        (get?_write_ne hb.valid hr.get (task_ne_leased htask hr.get hr.leased)).trans htask
      refine .settle htask' ?_ hpending fun lease h => h
      intro lease hlease hbusy
      cases hlease
      obtain ⟨x, hx, hxbusy⟩ := leasedAt_eq_some.mp hbusy
      rcases get?_of_write hb.valid hr.get hx with ⟨-, rfl⟩ | ⟨hne, -⟩
      · rcases hback with h | h <;> rw [h] at hxbusy <;> cases hxbusy
      · exact hne rfl
    · rw [heq']
      have hidle : b.leasedAt f.lease.handle ≠ some (.busy f.lease.operation) := by
        intro hbusy
        obtain ⟨r, hr⟩ := (hb.holding hmem hbusy).1
        exact hnone r hr
      refine Relation.ReflTransGen.head (.discard hf hidle) (.single ?_)
      refine .settle htask ?_ hpending fun lease h => h
      intro lease hlease
      cases hlease
      exact hidle

theorem withInner_kind (inner : I) (update : ResourceUpdate Unit M) :
    (update.withInner inner).kind = update.kind := by
  cases update <;> rfl

theorem withInner_inner (inner : I) (update : ResourceUpdate Unit M) :
    (update.withInner inner).inner = none ∨ (update.withInner inner).inner = some inner := by
  rcases update with (_ | _) | (_ | _) | (_ | _)
  · exact .inr rfl
  · exact .inl rfl
  · exact .inr rfl
  · exact .inl rfl
  · exact .inr rfl
  · exact .inl rfl

/-- Every event is a sequence of moves. -/
theorem Inv.step_moves (hb : b.Inv) {e : LeaseEvent I M X} (hstep : b.step e = some c) :
    Relation.ReflTransGen Move b c := by
  have hcount : ∀ (b : LeaseSystem I M X) e, Move b { b with state := { b.state with lastError := e } } :=
    fun b e => .count b.state.nextResourceOperation e (UInt64.le_refl _)
  cases e with
  | insert r =>
    simp only [step] at hstep
    split at hstep
    · rename_i hidle
      cases hstep
      rcases insertResource_cases r b.state with ⟨e, heq⟩ | ⟨k, arena, hins, heq⟩
      · rw [heq]
        exact .single (hcount b (some e))
      · rw [heq]
        exact .single (.insert hins hidle)
    · cases hstep
  | openReadStream inner =>
    cases hstep
    exact moves_insertOpened b rfl
  | openWriter inner =>
    cases hstep
    exact moves_insertOpened b rfl
  | openLister inner =>
    cases hstep
    exact moves_insertOpened b rfl
  | publishTask handle completion =>
    cases hstep
    rcases publishTask_cases handle completion b.state with heq | ⟨hget, heq⟩
    · rw [heq]
    · rw [heq]
      refine .single (.settle hget (idle_of_not_pending ?_) ?_ fun lease h => h)
      · intro lease h
        cases h
      · intro lease h
        cases h
  | readStreamNext handle =>
    cases hstep
    exact moves_begun _ hb.valid handle
  | writerCall handle =>
    cases hstep
    exact moves_begun _ hb.valid handle
  | listerNext handle =>
    cases hstep
    exact moves_begun _ hb.valid handle
  | publish i update completion =>
    simp only [step] at hstep
    split at hstep
    · cases hstep
    · rename_i f hf
      split at hstep
      · rename_i hkind
        cases hstep
        exact hb.moves_publish completion hf ((withInner_kind _ _).trans hkind)
          (withInner_inner _ _)
      · cases hstep
  | taskTake handle =>
    cases hstep
    rcases taskTake_cases handle b.state with ⟨e, heq⟩ | ⟨completion, lease, hget, hrest⟩
    · rw [heq]
      exact .single (hcount b e)
    · have hsettle : Move b { b with
          state := { b.state with arena := b.state.arena.write handle (.task .consumed) } } := by
        refine .settle hget (idle_of_not_pending ?_) ?_ ?_
        · intro lease h
          cases h
        · intro lease h
          cases h
        · intro lease h
          cases h
      rcases hrest with ⟨e, heq⟩ | ⟨k, arena, hins, heq⟩
      · rw [heq]
        exact .head hsettle (.single (hcount _ e))
      · rw [heq]
        exact .head hsettle (.single (.insert hins rfl))
  | taskCancel handle =>
    cases hstep
    rcases taskCancel_cases hb.valid handle with ⟨⟨e, heq⟩, -⟩ | ⟨task, hget, heq⟩
    · rw [heq]
      exact .single (hcount b e)
    · rw [heq]
      obtain ⟨c, rfl, hmoves, hidle⟩ := hb.terminalize hget
      refine hmoves.tail (.settle (get?_terminalizeTask hb.valid task hget) hidle ?_ ?_)
      · intro lease h
        cases h
      · intro lease h
        cases h
  | taskRelease handle =>
    cases hstep
    rcases taskRelease_cases hb.valid handle with ⟨⟨e, heq⟩, -⟩ | ⟨task, arena, hget, htake, heq⟩
    · rw [heq]
      exact .single (hcount b e)
    · rw [heq]
      obtain ⟨c, rfl, hmoves, hidle⟩ := hb.terminalize hget
      exact hmoves.tail (.remove hidle htake)
  | release handle expected =>
    simp only [step] at hstep
    split at hstep
    · cases hstep
    · rename_i hne
      cases hstep
      rcases releaseResource_cases handle expected b.state with ⟨e, heq⟩ | ⟨r, arena, htake, heq⟩
      · rw [heq]
        exact .single (hcount b e)
      · rw [heq]
        refine .single (.remove ?_ htake)
        rintro lease rfl
        exact absurd (view_take hb.valid htake).2.1.symm hne

theorem inv_step : Preserves (step (I := I) (M := M) (X := X)) Inv := by
  intro b e c hstep hb
  exact hb.moves (hb.step_moves hstep)

theorem inv_run {es : List (LeaseEvent I M X)} (hrun : run step {} es = some b) : b.Inv :=
  inv_step.run inv_empty hrun

end LeaseSystem

end OpendalMbt.Bridge
