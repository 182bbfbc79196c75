import OpendalMbt.Bridge.LeaseCustody

/-!
# The lease protocol

What a task can do to a resource that has another token, and what shuts a resource for
good. `LeaseProtocol` collects the guarantees in a reached state, and `lease_protocol` proves
them for every interleaving of calls and publications.
-/

namespace OpendalMbt.Bridge

open Transition Arena

variable {I M X : Type} {a : Arena (Resource I M X)} {r : Resource I M X}
variable {handle k : UInt32} {lease : ResourceLease}

/-- The events that reach a resource through a task. -/
def LeaseEvent.throughTask : LeaseEvent I M X → Bool
  | .taskCancel _ | .taskRelease _ | .publishTask _ _ | .publish _ _ _ => true
  | _ => false

namespace LeaseSystem

variable {b b' : LeaseSystem I M X} {f : Flight I} {e : LeaseEvent I M X}

/-! ## What a task can do to a resource -/

/-- The lease of the task that an event is about; a cancelled or taken task has none. -/
def leaseOf (b : LeaseSystem I M X) : LeaseEvent I M X → Option ResourceLease
  | .taskCancel handle | .taskRelease handle =>
    match b.get? handle with
    | some (.task task) => taskLease task
    | _ => none
  | .publish i _ _ => (b.flights[i]?).map Flight.lease
  | _ => none

attribute [local simp] leaseOf

theorem leaseOf_of_task {task : Task X} (hget : b.get? k = some (.task task)) :
    b.leaseOf (.taskCancel k) = taskLease task ∧ b.leaseOf (.taskRelease k) = taskLease task := by
  simp [leaseOf, hget]

theorem task_of_leaseOf (hlease : b.leaseOf (.taskCancel k) = some lease) :
    ∃ task, b.get? k = some (.task task) ∧ taskLease task = some lease := by
  simp only [leaseOf] at hlease
  split at hlease
  · rename_i task hget
    exact ⟨task, hget, hlease⟩
  · cases hlease

/-- Failing the resource of a task's lease touches only the resource with its token. -/
theorem get?_terminalizeTask_other (ha : a.Valid) {task : Task X} (hget : a.get? handle = some r)
    (hne : ∀ lease, taskLease task = some lease → r.token ≠ some lease.operation) :
    (terminalizeTask task a).get? handle = some r := by
  unfold terminalizeTask
  split
  · rename_i lease hlease
    rcases terminalizeLease_cases a lease with ⟨x, x', hx, -, heq⟩ | ⟨heq, -⟩
    · rw [heq, ha.get?_write (get?_eq_some.mp hx.get)]
      by_cases hh : handle = lease.handle
      · have hxget := hx.get
        rw [← hh, hget] at hxget
        cases hxget
        exact absurd hx.token (hne lease hlease)
      · rwa [if_neg hh]
    · rwa [heq]
  · exact hget

/-- Failing the resource of a task's lease does fail the resource with its token. -/
theorem Inv.terminalized (hb : b.Inv) {task : Task X} (htask : b.get? k = some (.task task))
    (hlease : taskLease task = some lease) (hget : b.get? handle = some r)
    (htoken : r.token = some lease.operation) :
    lease.handle = handle ∧ ∃ r', (terminalizeTask task b.state.arena).get? handle = some r' ∧
      r'.leased = some (.terminal ()) := by
  have hissued := (hb.tokens.known _ _ htask).lease task lease rfl hlease
  obtain ⟨rfl, hcurrent⟩ := hb.tokens.current hissued hget htoken
  refine ⟨rfl, ?_⟩
  rw [terminalizeTask, hlease]
  rcases terminalizeLease_cases b.state.arena lease with ⟨x, r', hx, hleased', heq⟩ | ⟨-, hnone⟩
  · refine ⟨r', ?_, hleased'⟩
    show (terminalizeLease b.state.arena lease).get? lease.handle = some r'
    rw [heq, hb.valid.get?_write (get?_eq_some.mp hx.get), if_pos rfl]
  · exact absurd hcurrent (hnone r)

theorem Inv.valid_terminalize (hb : b.Inv) {task : Task X}
    (htask : b.get? k = some (.task task)) : (terminalizeTask task b.state.arena).Valid := by
  obtain ⟨c, rfl, hmoves, -⟩ := hb.terminalize htask
  exact (hb.moves hmoves).valid

/-- The lookup of another resource after a cancel or a release of a task. -/
theorem Inv.get?_cancel (hb : b.Inv) {state : LeasedState I Unit}
    (hleased : r.leased = some state) (task : Task X) (htask : b.get? k = some (.task task))
    (hget : (terminalizeTask task b.state.arena).get? handle = some r) :
    ((terminalizeTask task b.state.arena).write k (.task .cancelled)).get? handle = some r ∧
    ∀ arena, (terminalizeTask task b.state.arena).take k .task = (.ok (.task task), arena) →
      arena.get? handle = some r := by
  have hv := hb.valid_terminalize htask
  have htask' := get?_terminalizeTask hb.valid task htask
  have hne : handle ≠ k := (task_ne_leased htask' hget hleased).symm
  refine ⟨(get?_write_ne hv htask' hne).trans hget, fun arena htake => ?_⟩
  exact (get?_take_ne hv htake hne).trans hget

/-- A publication whose token the resource does not have leaves it as it was. -/
theorem Inv.get?_publish (hb : b.Inv) {update : ResourceUpdate I M} (completion : X)
    (hkind : update.kind = f.lease.kind) {state : LeasedState I Unit}
    (hget : b.get? handle = some r) (hleased : r.leased = some state)
    (hne : r.token ≠ some f.lease.operation) :
    (publishResourceTask f.task f.lease update completion b.state).arena.get? handle = some r := by
  rcases publishResourceTask_cases hb.valid f.task f.lease completion hkind with
    ⟨heq, -⟩ | ⟨htask, heq⟩
  · rw [heq]
    exact hget
  · rw [heq]
    have htask_ne : handle ≠ f.task := (task_ne_leased htask hget hleased).symm
    rcases applyResourceUpdate_cases update b.state.arena hkind with
      ⟨x, x', hx, -, -, heq'⟩ | ⟨heq', -⟩
    · simp only [heq']
      have hv' := hb.valid.write (r := x') (get?_eq_some.mp hx.get)
      have htask' : (b.state.arena.write f.lease.handle x').get? f.task = _ :=
        (get?_write_ne hb.valid hx.get (task_ne_leased htask hx.get hx.leased)).trans htask
      have hh : handle ≠ f.lease.handle := by
        rintro rfl
        have hxget := hx.get
        rw [show b.state.arena.get? _ = some r from hget] at hxget
        cases hxget
        exact hne (Resource.token_of_leased hx.leased)
      exact (get?_write_ne hv' htask' htask_ne).trans
        ((get?_write_ne hb.valid hx.get hh).trans hget)
    · simp only [heq']
      exact (get?_write_ne hb.valid htask htask_ne).trans hget

/-- A cancel, a release or a publication of a task leaves a resource with another token as
it was. -/
theorem Inv.unmatched (hb : b.Inv) (hevent : e.throughTask = true) (hstep : b.step e = some b')
    {state : LeasedState I Unit} (hget : b.get? handle = some r) (hleased : r.leased = some state)
    (hne : ∀ lease, b.leaseOf e = some lease → state.token ≠ some lease.operation) :
    b'.get? handle = some r := by
  rw [← Resource.token_of_leased hleased] at hne
  cases e with
  | taskCancel k =>
    cases hstep
    rcases taskCancel_cases hb.valid k with ⟨⟨e, heq⟩, -⟩ | ⟨task, htask, heq⟩
    · rw [heq]
      exact hget
    · rw [heq]
      rw [(leaseOf_of_task htask).1] at hne
      have hkept := get?_terminalizeTask_other hb.valid hget hne
      exact (hb.get?_cancel hleased task htask hkept).1
  | taskRelease k =>
    cases hstep
    rcases taskRelease_cases hb.valid k with ⟨⟨e, heq⟩, -⟩ | ⟨task, arena, htask, htake, heq⟩
    · rw [heq]
      exact hget
    · rw [heq]
      rw [(leaseOf_of_task htask).2] at hne
      have hkept := get?_terminalizeTask_other hb.valid hget hne
      exact (hb.get?_cancel hleased task htask hkept).2 arena htake
  | publishTask k completion =>
    cases hstep
    rcases publishTask_cases k completion b.state with heq | ⟨htask, heq⟩
    · rw [heq]
      exact hget
    · rw [heq]
      exact (get?_write_ne hb.valid htask (task_ne_leased htask hget hleased).symm).trans hget
  | publish i update completion =>
    simp only [step] at hstep
    split at hstep
    · cases hstep
    · rename_i f hf
      split at hstep
      · rename_i hkind
        cases hstep
        refine hb.get?_publish completion ((withInner_kind _ _).trans hkind) hget hleased ?_
        exact hne f.lease (by simp [leaseOf, hf])
      · cases hstep
  | _ => cases hevent

/-! ## What shuts a resource -/

/-- The event cancels or releases a task whose token is the resource's current one, or
releases the resource. -/
inductive Shuts (b : LeaseSystem I M X) (handle : UInt32) : LeaseEvent I M X → Prop where
  | taskCancel {k lease state} (hlease : b.leaseOf (.taskCancel k) = some lease)
      (hleased : b.leasedAt handle = some state) (htoken : state.token = some lease.operation) :
      Shuts b handle (.taskCancel k)
  | taskRelease {k lease state} (hlease : b.leaseOf (.taskRelease k) = some lease)
      (hleased : b.leasedAt handle = some state) (htoken : state.token = some lease.operation) :
      Shuts b handle (.taskRelease k)
  | release {r state} (hget : b.get? handle = some r) (hleased : r.leased = some state) :
      Shuts b handle (.release handle r.kind)

theorem Shuts.issued (hb : b.Inv) (h : Shuts b handle e) : b.state.arena.Issued handle := by
  cases h with
  | taskCancel hlease hleased htoken =>
    obtain ⟨r, hget, -⟩ := leasedAt_eq_some.mp hleased
    exact hb.valid.issued_of_get? hget
  | taskRelease hlease hleased htoken =>
    obtain ⟨r, hget, -⟩ := leasedAt_eq_some.mp hleased
    exact hb.valid.issued_of_get? hget
  | release hget hleased => exact hb.valid.issued_of_get? hget

theorem Shuts.step (hb : b.Inv) (h : Shuts b handle e) (hstep : b.step e = some b') :
    b'.Shut handle ∧ ∀ lease, b.leaseOf e = some lease → lease.handle = handle := by
  cases h with
  | @taskCancel k lease state hlease hleased htoken =>
    obtain ⟨task, htask, htl⟩ := task_of_leaseOf hlease
    obtain ⟨r, hget, hr⟩ := leasedAt_eq_some.mp hleased
    rw [← Resource.token_of_leased hr] at htoken
    obtain ⟨hhandle, r', hget', hleased'⟩ := hb.terminalized htask htl hget htoken
    cases hstep
    rcases taskCancel_cases hb.valid k with ⟨-, hnone⟩ | ⟨task', htask', heq⟩
    · rw [hnone task htask] at htl
      cases htl
    · obtain rfl : task' = task := Resource.task.inj (Option.some.inj (htask'.symm.trans htask))
      have hkept := (hb.get?_cancel hleased' task' htask hget').1
      refine ⟨.inl ?_, fun l hl => ?_⟩
      · rw [heq]
        exact leasedAt_eq_some.mpr ⟨r', hkept, hleased'⟩
      · rw [hlease] at hl
        cases hl
        exact hhandle
  | @taskRelease k lease state hlease hleased htoken =>
    obtain ⟨task, htask, htl⟩ := task_of_leaseOf (k := k) hlease
    obtain ⟨r, hget, hr⟩ := leasedAt_eq_some.mp hleased
    rw [← Resource.token_of_leased hr] at htoken
    obtain ⟨hhandle, r', hget', hleased'⟩ := hb.terminalized htask htl hget htoken
    cases hstep
    rcases taskRelease_cases hb.valid k with ⟨-, hnone⟩ | ⟨task', arena, htask', htake, heq⟩
    · exact absurd htask (hnone task)
    · obtain rfl : task' = task := Resource.task.inj (Option.some.inj (htask'.symm.trans htask))
      have hkept := (hb.get?_cancel hleased' task' htask hget').2 arena htake
      refine ⟨.inl ?_, fun l hl => ?_⟩
      · rw [heq]
        exact leasedAt_eq_some.mpr ⟨r', hkept, hleased'⟩
      · rw [hlease] at hl
        cases hl
        exact hhandle
  | @release r state hget hleased =>
    refine ⟨.inr ?_, fun lease hlease => by cases hlease⟩
    simp only [LeaseSystem.step] at hstep
    split at hstep
    · cases hstep
    · cases hstep
      obtain ⟨a', htake⟩ := take_eq_ok hget
      have hgone := (hb.valid.get?_take htake handle).trans (if_pos rfl)
      have heq : (releaseResource handle r.kind b.state).2 = { b.state with arena := a' } := by
        unfold releaseResource Arena.release
        rw [show b.state.arena.take handle r.kind = _ from htake]
        rfl
      rw [heq, leasedAt]
      exact congrArg (fun o => Option.bind o Resource.leased) hgone

/-- The publication of an operation that no longer has its resource changes no leased
resource at all. -/
theorem Inv.publish_late (hb : b.Inv) {i : Nat} {update : ResourceUpdate Unit M} {completion : X}
    (hf : b.flights[i]? = some f) (hshut : b.Shut f.lease.handle)
    (hstep : b.step (.publish i update completion) = some b') (k : UInt32) :
    b'.leasedAt k = b.leasedAt k := by
  simp only [step, hf] at hstep
  split at hstep
  · rename_i hkind
    cases hstep
    have hkind' := (withInner_kind f.inner update).trans hkind
    rcases publishResourceTask_cases hb.valid f.task f.lease completion hkind' with
      ⟨heq, -⟩ | ⟨htask, heq⟩
    · rw [heq]
      rfl
    · rw [heq]
      rcases applyResourceUpdate_cases (update.withInner f.inner) b.state.arena hkind' with
        ⟨r, r', hr, -, -, -⟩ | ⟨heq', -⟩
      · have hbusy : b.leasedAt f.lease.handle = _ := leasedAt_eq_some.mpr ⟨r, hr.get, hr.leased⟩
        rcases hshut with h | h <;> rw [hbusy] at h <;> cases h
      · rw [heq']
        by_cases hk : k = f.task
        · have hafter := (hb.valid.get?_write (get?_eq_some.mp htask)
            (.task (.ready completion (some f.lease))) k).trans (if_pos hk)
          have hbefore : b.get? k = _ := hk ▸ htask
          rw [leasedAt, leasedAt, hbefore]
          exact (congrArg (fun o => Option.bind o Resource.leased) hafter).trans rfl
        · exact congrArg (fun o => Option.bind o Resource.leased)
            (get?_write_ne hb.valid htask hk)
  · cases hstep

/-! ## The protocol -/

def flightsAt (b : LeaseSystem I M X) (handle : UInt32) : List (Flight I) :=
  b.flights.filter fun f => f.lease.handle = handle

theorem mem_flightsAt : f ∈ b.flightsAt handle ↔ f ∈ b.flights ∧ f.lease.handle = handle := by
  simp [flightsAt]

theorem Inv.flightsAt_le_one (hb : b.Inv) (handle : UInt32) : (b.flightsAt handle).length ≤ 1 := by
  have hmap : ((b.flightsAt handle).map fun f => f.lease.handle).Nodup :=
    hb.ownership.one.sublist (List.filter_sublist.map _)
  have hall : ∀ h ∈ (b.flightsAt handle).map fun f => f.lease.handle, h = handle := by
    intro h hmem
    obtain ⟨f, hf, rfl⟩ := List.mem_map.mp hmem
    exact (mem_flightsAt.mp hf).2
  have hcount := List.nodup_iff_count_le_one.mp hmap handle
  rwa [List.count_eq_length.mpr fun h hmem => (hall h hmem).symm, List.length_map] at hcount

/-- The guarantees of the lease protocol in one reached state. -/
structure LeaseProtocol (b : LeaseSystem I M X) : Prop where
  one_flight : ∀ handle, (b.flightsAt handle).length ≤ 1
  opened_once : (b.opened.map Prod.fst).Nodup
  /-- An open resource stores the object it was opened with, and no operation owns it. -/
  stored : ∀ handle inner t, b.leasedAt handle = some (.open inner t) →
    (handle, inner) ∈ b.opened ∧ b.flightsAt handle = []
  /-- An operation in flight owns the object of its resource, which does not store it. -/
  owned : ∀ f ∈ b.flights, (f.lease.handle, f.inner) ∈ b.opened ∧
    ∀ inner t, b.leasedAt f.lease.handle ≠ some (.open inner t)
  increasing : b.issued.Pairwise fun x y => x.operation < y.operation
  counted : ∀ lease ∈ b.issued,
    0 < lease.operation ∧ lease.operation ≤ b.state.nextResourceOperation
  /-- A busy resource belongs to the one operation in flight, which was issued its token. -/
  busy : ∀ handle r t, b.get? handle = some r → r.leased = some (.busy t) →
    ∃ f, b.flightsAt handle = [f] ∧ f.lease = ⟨handle, r.kind, t⟩ ∧ f.lease ∈ b.issued ∧
      b.get? f.task = some (.task (.pending (some f.lease)))
  unmatched : ∀ e b' handle r state, e.throughTask = true → b.step e = some b' →
    b.get? handle = some r → r.leased = some state →
    (∀ lease, b.leaseOf e = some lease → state.token ≠ some lease.operation) →
    b'.get? handle = some r
  /-- What is shut is never open again, and the operation's publication finds nothing. -/
  shut : ∀ e b' handle, Shuts b handle e → b.step e = some b' →
    (∀ lease, b.leaseOf e = some lease → lease.handle = handle) ∧
    ∀ es b'', run step b' es = some b'' →
      (∀ inner t, b''.leasedAt handle ≠ some (.open inner t)) ∧
      ∀ i f update completion b₃, b''.flights[i]? = some f → f.lease.handle = handle →
        b''.step (.publish i update completion) = some b₃ →
        ∀ k, b₃.leasedAt k = b''.leasedAt k

/-- In every interleaving of starts, publications, cancels, releases and takes, the leases
are safe. -/
theorem lease_protocol {es : List (LeaseEvent I M X)} (hrun : run step {} es = some b) :
    b.LeaseProtocol := by
  have hb := inv_run hrun
  refine {
    one_flight := hb.flightsAt_le_one, opened_once := hb.objects.nodup, stored := ?_, owned := ?_,
    increasing := hb.tokens.increasing, counted := hb.tokens.bounded, busy := ?_,
    unmatched := ?_, shut := ?_ }
  · intro handle inner t hopen
    obtain ⟨r, hget, hleased⟩ := leasedAt_eq_some.mp hopen
    refine ⟨hb.objects.stored handle r inner t hget hleased, ?_⟩
    apply List.eq_nil_iff_forall_not_mem.mpr
    intro f hf
    obtain ⟨hmem, rfl⟩ := mem_flightsAt.mp hf
    rcases hb.ownership.lent f hmem r _ hget hleased with h | h <;> cases h
  · intro f hf
    refine ⟨hb.objects.owned f hf, fun inner t hopen => ?_⟩
    obtain ⟨r, hget, hleased⟩ := leasedAt_eq_some.mp hopen
    rcases hb.ownership.lent f hf r _ hget hleased with h | h <;> cases h
  · intro handle r t hget hbusy
    obtain ⟨f, hf, hlease, htask⟩ := hb.ownership.busy handle r t hget hbusy
    have hmem : f ∈ b.flightsAt handle := mem_flightsAt.mpr ⟨hf, by rw [hlease]⟩
    have hle := hb.flightsAt_le_one handle
    refine ⟨f, ?_, hlease, hb.tokens.flight f hf, htask⟩
    cases hat : b.flightsAt handle with
    | nil =>
      rw [hat] at hmem
      cases hmem
    | cons g rest =>
      rw [hat] at hmem hle
      obtain rfl : rest = [] := List.eq_nil_of_length_eq_zero (by simpa using hle)
      rw [List.mem_singleton.mp hmem]
  · intro e b' handle r state hevent hstep hget hleased hne
    exact hb.unmatched hevent hstep hget hleased hne
  · intro e b' handle hshuts hstep
    have hb' : b'.Inv := inv_step hstep hb
    obtain ⟨hshut, hhandle⟩ := hshuts.step hb hstep
    have hissued := hb.issued_step (hshuts.issued hb) hstep
    refine ⟨hhandle, fun es b'' hrun' => ?_⟩
    have hlater := hb'.shut_run hissued hshut hrun'
    refine ⟨fun inner t hopen => ?_, fun i f update completion b₃ hf hh hpub k => ?_⟩
    · rcases hlater with h | h <;> rw [hopen] at h <;> cases h
    · exact (inv_step.run hb' hrun').publish_late hf (hh ▸ hlater) hpub k

/-- A writer's first operation gives the writer back; the task of its second one is
released while the operation is in flight, and the late publication finds it failed. -/
theorem lease_protocol_late : ∃ b : LeaseSystem Nat Unit Unit,
    run step {} [.openWriter 7, .writerCall 0x10001, .publish 0 (.writer (.open ())) (),
      .writerCall 0x10001, .taskRelease 0x10003, .publish 0 (.writer (.open ())) ()] = some b ∧
    b.issued.map ResourceLease.operation = [1, 2] ∧
    b.leasedAt 0x10001 = some (.terminal ()) ∧ b.LeaseProtocol := by
  obtain ⟨b, hrun, hissued, hleased⟩ : ∃ b : LeaseSystem Nat Unit Unit,
      run step {} [.openWriter 7, .writerCall 0x10001, .publish 0 (.writer (.open ())) (),
        .writerCall 0x10001, .taskRelease 0x10003, .publish 0 (.writer (.open ())) ()] = some b ∧
      b.issued.map ResourceLease.operation = [1, 2] ∧
      b.leasedAt 0x10001 = some (.terminal ()) := ⟨_, rfl, rfl, rfl⟩
  exact ⟨b, hrun, hissued, hleased, lease_protocol hrun⟩

end LeaseSystem

end OpendalMbt.Bridge
