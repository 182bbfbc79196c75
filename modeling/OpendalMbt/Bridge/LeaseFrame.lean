import OpendalMbt.Bridge.Lease

/-!
# What the lease functions change

One lemma for each function of `Lease.lean`, in terms of the lookups `get?`: the single
write a function makes and when it makes it, or that the arena stays as it was. Everything
later rests on these lemmas and on the lookups after a write, and unfolds nothing.

* `terminalizeLease_cases`: it fails the resource that still has the lease's token;
* `applyResourceUpdate_cases`: it stores in the resource that is busy with that token;
* `publishResourceTask_cases`, `taskCancel_cases`, `taskRelease_cases`, `taskTake_cases`;
* `reserve_cases`: a start lends the object of an open resource, or changes no lookup.
-/

namespace OpendalMbt.Bridge

open Arena

variable {I M X T : Type} {a : Arena (Resource I M X)} {s : State I M X}
variable {handle : UInt32} {lease : ResourceLease} {r : Resource I M X}

def Resource.token (r : Resource I M X) : Option UInt64 := r.leased.bind LeasedState.token

theorem Resource.leased_of_token {t : UInt64} (h : r.token = some t) :
    ∃ state, r.leased = some state ∧ state.token = some t :=
  Option.bind_eq_some_iff.mp h

theorem Resource.kind_of_leased {state : LeasedState I Unit} (h : r.leased = some state) :
    r.kind = .readStream ∨ r.kind = .writer ∨ r.kind = .lister := by
  cases r with
  | readStream st => exact .inl rfl
  | writer st => exact .inr (.inl rfl)
  | lister st => exact .inr (.inr rfl)
  | plain k => cases h
  | task tk => cases h
  | completion x => cases h

theorem Stateful.token_wrap (F : Stateful I M X T) (state : LeasedState I T) :
    (F.wrap state).token = state.token := by
  rw [Resource.token, F.leased_wrap, Option.bind_some, LeasedState.token_forget]

theorem Stateful.kind_wrap (F : Stateful I M X T) (state : LeasedState I T) :
    (F.wrap state).kind = F.kind :=
  F.kind_iff.mpr ⟨state, rfl⟩

namespace Arena

theorem leasedMut_eq_ok {F : Stateful I M X T} {state : LeasedState I T} :
    a.leasedMut handle F = .ok state ↔ a.get? handle = some (F.wrap state) := by
  rw [get?_eq_some, leasedMut]
  cases hres : a.resource handle with
  | error e => simp
  | ok r =>
    cases hun : F.unwrap r with
    | none =>
      refine ⟨fun h => by simp [hun] at h, fun h => ?_⟩
      cases h
      rw [F.unwrap_iff.mpr rfl] at hun
      cases hun
    | some st =>
      obtain rfl := F.unwrap_iff.mp hun
      simp only [hun, Except.ok.injEq]
      refine ⟨fun h => h ▸ rfl, fun h => ?_⟩
      rw [h, F.unwrap_iff.mpr rfl] at hun
      exact (Option.some.inj hun).symm

theorem task_eq_ok {task : Task X} :
    a.task handle = .ok task ↔ a.get? handle = some (.task task) := by
  rw [get?_eq_some, Arena.task]
  cases a.resource handle with
  | error e => simp
  | ok r => cases r <;> simp

theorem task_eq_error {e : BridgeError} (h : a.task handle = .error e) (task : Task X) :
    a.get? handle ≠ some (.task task) := by
  intro hget
  rw [task_eq_ok.mpr hget] at h
  cases h

end Arena

/-! ## Failing and updating the resource of a lease -/

/-- `r` is the resource of the lease, and the lease's token is its current one. -/
structure Current (a : Arena (Resource I M X)) (lease : ResourceLease) (r : Resource I M X) :
    Prop where
  get : a.get? lease.handle = some r
  kind : r.kind = lease.kind
  token : r.token = some lease.operation

/-- `r` is the resource of the lease and busy with its operation. -/
structure Holding (a : Arena (Resource I M X)) (lease : ResourceLease) (r : Resource I M X) :
    Prop where
  get : a.get? lease.handle = some r
  kind : r.kind = lease.kind
  leased : r.leased = some (.busy lease.operation)

theorem failLeased_cases (F : Stateful I M X T) (a : Arena (Resource I M X))
    (hkind : lease.kind = F.kind) :
    (∃ r r', Current a lease r ∧ r'.leased = some (.terminal ()) ∧
      failLeased F lease a = a.write lease.handle r') ∨
    (failLeased F lease a = a ∧ ∀ r, ¬ Current a lease r) := by
  by_cases hcurrent : ∃ r, Current a lease r
  · obtain ⟨r, hr⟩ := hcurrent
    obtain ⟨state, rfl⟩ := F.kind_iff.mp (hr.kind.trans hkind)
    have htoken : state.token = some lease.operation := (F.token_wrap state).symm.trans hr.token
    refine .inl ⟨_, F.wrap (.terminal F.failed), hr, F.leased_wrap _, ?_⟩
    rw [failLeased, leasedMut_eq_ok.mpr hr.get]
    cases state with
    | «open» inner t => exact if_pos (Option.some.inj htoken)
    | busy t => exact if_pos (Option.some.inj htoken)
    | terminal outcome => cases htoken
  · refine .inr ⟨?_, fun r hr => hcurrent ⟨r, hr⟩⟩
    cases hmut : a.leasedMut lease.handle F with
    | error e => simp only [failLeased, hmut]
    | ok state =>
      have hne : state.token ≠ some lease.operation := fun htoken => hcurrent
        ⟨_, leasedMut_eq_ok.mp hmut, (F.kind_wrap state).trans hkind.symm,
          (F.token_wrap state).trans htoken⟩
      rw [failLeased, hmut]
      cases state with
      | «open» inner t => exact if_neg fun h => hne (congrArg some h)
      | busy t => exact if_neg fun h => hne (congrArg some h)
      | terminal outcome => rfl

/-- `terminalize_lease` fails the resource whose current token is the lease's. -/
theorem terminalizeLease_cases (a : Arena (Resource I M X)) (lease : ResourceLease) :
    (∃ r r', Current a lease r ∧ r'.leased = some (.terminal ()) ∧
      terminalizeLease a lease = a.write lease.handle r') ∨
    (terminalizeLease a lease = a ∧ ∀ r, ¬ Current a lease r) := by
  unfold terminalizeLease
  split
  · rename_i hkind
    exact failLeased_cases _ a hkind
  · rename_i hkind
    exact failLeased_cases _ a hkind
  · rename_i hkind
    exact failLeased_cases _ a hkind
  · rename_i hstream hwriter hlister
    refine .inr ⟨rfl, fun r hr => ?_⟩
    obtain ⟨state, hleased, -⟩ := Resource.leased_of_token hr.token
    rcases Resource.kind_of_leased hleased with hk | hk | hk
    · exact hstream (hr.kind.symm.trans hk)
    · exact hwriter (hr.kind.symm.trans hk)
    · exact hlister (hr.kind.symm.trans hk)

theorem applyUpdate_cases (F : Stateful I M X T) (update : LeasedUpdate I T)
    (a : Arena (Resource I M X)) (hkind : lease.kind = F.kind) :
    (∃ r r', Holding a lease r ∧ r'.kind = lease.kind ∧
      r'.leased = some (update.state lease.operation).forget ∧
      applyUpdate F lease update a = a.write lease.handle r') ∨
    (applyUpdate F lease update a = a ∧ ∀ r, ¬ Holding a lease r) := by
  by_cases hholding : ∃ r, Holding a lease r
  · obtain ⟨r, hr⟩ := hholding
    obtain ⟨state, rfl⟩ := F.kind_iff.mp (hr.kind.trans hkind)
    have hbusy := Option.some.inj ((F.leased_wrap state).symm.trans hr.leased)
    refine .inl ⟨_, F.wrap (update.state lease.operation), hr,
      (F.kind_wrap _).trans hkind.symm, F.leased_wrap _, ?_⟩
    rw [applyUpdate, leasedMut_eq_ok.mpr hr.get]
    cases state with
    | busy t =>
      cases hbusy
      exact if_pos rfl
    | «open» inner t => cases hbusy
    | terminal outcome => cases hbusy
  · refine .inr ⟨?_, fun r hr => hholding ⟨r, hr⟩⟩
    cases hmut : a.leasedMut lease.handle F with
    | error e => simp only [applyUpdate, hmut]
    | ok state =>
      rw [applyUpdate, hmut]
      cases state with
      | «open» inner t => rfl
      | terminal outcome => rfl
      | busy t =>
        refine if_neg fun ht => hholding ⟨_, leasedMut_eq_ok.mp hmut,
          (F.kind_wrap _).trans hkind.symm, ?_⟩
        rw [F.leased_wrap, ht]
        rfl

/-- The state an update leaves in its resource, its outcome apart. -/
def ResourceUpdate.state (operation : UInt64) (update : ResourceUpdate I M) :
    LeasedState I Unit :=
  match update.inner with
  | some inner => .open inner operation
  | none => .terminal ()

theorem applyResourceUpdate_cases (update : ResourceUpdate I M) (a : Arena (Resource I M X))
    (hkind : update.kind = lease.kind) :
    (∃ r r', Holding a lease r ∧ r'.kind = lease.kind ∧
      r'.leased = some (update.state lease.operation) ∧
      applyResourceUpdate lease update a = a.write lease.handle r') ∨
    (applyResourceUpdate lease update a = a ∧ ∀ r, ¬ Holding a lease r) := by
  cases update with
  | readStream update =>
    have := applyUpdate_cases (.readStream I M X) update a hkind.symm
    cases update <;> exact this
  | writer update =>
    have := applyUpdate_cases (.writer I M X) update a hkind.symm
    cases update <;> exact this
  | lister update =>
    have := applyUpdate_cases (.lister I M X) update a hkind.symm
    cases update <;> exact this

/-! ## Tasks -/

theorem task_ne_leased {task : Task X} {k : UInt32} {state : LeasedState I Unit}
    (htask : a.get? handle = some (.task task)) (hr : a.get? k = some r)
    (hleased : r.leased = some state) : handle ≠ k := by
  rintro rfl
  rw [htask] at hr
  cases hr
  cases hleased

/-- Failing the resource of a lease leaves every task in place. -/
theorem get?_terminalizeTask (ha : a.Valid) {task : Task X} (task' : Task X)
    (htask : a.get? handle = some (.task task)) :
    (terminalizeTask task' a).get? handle = some (.task task) := by
  unfold terminalizeTask
  split
  · rename_i lease _
    rcases terminalizeLease_cases a lease with ⟨r, r', hr, -, heq⟩ | ⟨heq, -⟩
    · obtain ⟨state, hleased, -⟩ := Resource.leased_of_token hr.token
      rw [heq, ha.get?_write (get?_eq_some.mp hr.get), if_neg (task_ne_leased htask hr.get hleased)]
      exact htask
    · rw [heq]
      exact htask
  · exact htask

theorem Arena.take_eq_ok (hr : a.get? handle = some r) :
    ∃ a', a.take handle (kind r) = (.ok r, a') := by
  obtain ⟨index, generation, hdec, hslot⟩ := get?_eq_some_iff_slot.mp hr
  simp [take, hdec, hslot]

theorem Arena.write_write_self {r' : Resource I M X} (hr : a.get? handle = some r) :
    (a.write handle r').write handle r = a := by
  obtain ⟨index, generation, hdec, hslot⟩ := get?_eq_some_iff_slot.mp hr
  obtain ⟨hlt, hget⟩ := List.getElem?_eq_some_iff.mp hslot
  simp [write, hdec, ← hget]

theorem publishTask_cases (handle : UInt32) (completion : X) (s : State I M X) :
    publishTask handle completion s = s ∨
    (s.arena.get? handle = some (.task (.pending none)) ∧
      publishTask handle completion s =
        { s with arena := s.arena.write handle (.task (.ready completion none)) }) := by
  unfold publishTask
  split
  · rename_i htask
    exact .inr ⟨task_eq_ok.mp htask, rfl⟩
  · exact .inl rfl

/-- `publish_resource_task` is inert, or the task is pending with this very lease: it then
updates the resource and makes the task ready. -/
theorem publishResourceTask_cases (ha : s.arena.Valid) (task : UInt32) (lease : ResourceLease)
    {update : ResourceUpdate I M} (completion : X) (hkind : update.kind = lease.kind) :
    (publishResourceTask task lease update completion s = s ∧
      s.arena.get? task ≠ some (.task (.pending (some lease)))) ∨
    (s.arena.get? task = some (.task (.pending (some lease))) ∧
      publishResourceTask task lease update completion s =
        { s with
          arena := (applyResourceUpdate lease update s.arena).write task
            (.task (.ready completion (some lease))) }) := by
  by_cases htask : s.arena.get? task = some (.task (.pending (some lease)))
  · refine .inr ⟨htask, ?_⟩
    have hafter : (applyResourceUpdate lease update s.arena).get? task =
        some (.task (.pending (some lease))) := by
      rcases applyResourceUpdate_cases update s.arena hkind with
        ⟨r, r', hr, -, -, heq⟩ | ⟨heq, -⟩
      · rw [heq, ha.get?_write (get?_eq_some.mp hr.get),
          if_neg (task_ne_leased htask hr.get hr.leased)]
        exact htask
      · rw [heq]
        exact htask
    simp [publishResourceTask, task_eq_ok.mpr htask, task_eq_ok.mpr hafter, hkind]
  · refine .inl ⟨?_, htask⟩
    unfold publishResourceTask
    split
    · rename_i current hcurrent
      have hne : current ≠ lease := fun h => htask (h ▸ task_eq_ok.mp hcurrent)
      exact if_pos (.inl hne)
    · rfl

theorem recorded_snd_error {α : Type} (e : BridgeError) :
    (recorded ((.error e, s) : Except BridgeError α × State I M X)).2 =
      { s with lastError := some e } := rfl

/-- A cancel fails the resource of the task's lease before it cancels the task; a task
without a result to lose stays as it was. -/
theorem taskCancel_cases (ha : s.arena.Valid) (handle : UInt32) :
    ((∃ e, (taskCancel handle s).2 = { s with lastError := e }) ∧
      ∀ task, s.arena.get? handle = some (.task task) → taskLease task = none) ∨
    ∃ task, s.arena.get? handle = some (.task task) ∧
      (taskCancel handle s).2 =
        { s with arena := (terminalizeTask task s.arena).write handle (.task .cancelled) } := by
  unfold taskCancel
  cases htask : s.arena.task handle with
  | error e => exact .inl ⟨⟨some e, rfl⟩, fun task h => absurd h (task_eq_error htask task)⟩
  | ok task =>
    have hget := task_eq_ok.mp htask
    have hafter := task_eq_ok.mpr (get?_terminalizeTask ha task hget)
    simp only [hafter]
    cases task with
    | pending lease => exact .inr ⟨_, hget, rfl⟩
    | ready completion lease => exact .inr ⟨_, hget, rfl⟩
    | cancelled =>
      refine .inl ⟨⟨s.lastError, rfl⟩, fun task h => ?_⟩
      rw [hget] at h
      cases h
      rfl
    | consumed =>
      refine .inl ⟨⟨s.lastError, rfl⟩, fun task h => ?_⟩
      rw [hget] at h
      cases h
      rfl

/-- A release fails the resource of the task's lease before it removes the task. -/
theorem taskRelease_cases (ha : s.arena.Valid) (handle : UInt32) :
    ((∃ e, (taskRelease handle s).2 = { s with lastError := e }) ∧
      ∀ task, s.arena.get? handle ≠ some (.task task)) ∨
    ∃ task arena, s.arena.get? handle = some (.task task) ∧
      (terminalizeTask task s.arena).take handle .task = (.ok (.task task), arena) ∧
      (taskRelease handle s).2 = { s with arena } := by
  unfold taskRelease
  cases htask : s.arena.task handle with
  | error e => exact .inl ⟨⟨some e, rfl⟩, task_eq_error htask⟩
  | ok task =>
    have hget := task_eq_ok.mp htask
    obtain ⟨arena, htake⟩ := take_eq_ok (get?_terminalizeTask ha task hget)
    replace htake : (terminalizeTask task s.arena).take handle .task = (.ok (.task task), arena) :=
      htake
    refine .inr ⟨task, arena, hget, htake, ?_⟩
    simp only [release, htake]
    rfl

theorem taskTake_cases (handle : UInt32) (s : State I M X) :
    (∃ e, (taskTake handle s).2 = { s with lastError := e }) ∨
    ∃ completion lease, s.arena.get? handle = some (.task (.ready completion lease)) ∧
      ((∃ e, (taskTake handle s).2 =
        { s with arena := s.arena.write handle (.task .consumed), lastError := e }) ∨
      ∃ k arena, (s.arena.write handle (.task .consumed)).insert (.completion completion) =
          (.ok k, arena) ∧
        (taskTake handle s).2 = { s with arena }) := by
  unfold taskTake
  split
  · exact .inl ⟨_, rfl⟩
  · cases htask : s.arena.task handle with
    | error e => exact .inl ⟨_, rfl⟩
    | ok task =>
      cases task with
      | pending lease => exact .inl ⟨_, rfl⟩
      | cancelled => exact .inl ⟨_, rfl⟩
      | consumed => exact .inl ⟨_, rfl⟩
      | ready completion lease =>
        refine .inr ⟨completion, lease, task_eq_ok.mp htask, ?_⟩
        rcases hins : (s.arena.write handle (.task .consumed)).insert (.completion completion) with
          ⟨e | k, arena⟩
        · obtain ⟨rfl, -⟩ := insert_error hins
          exact .inl ⟨some e, by simp only [hins, recorded]⟩
        · exact .inr ⟨k, arena, rfl, by simp only [hins, recorded]⟩

theorem releaseResource_cases (handle : UInt32) (expected : ResourceKind) (s : State I M X) :
    (∃ e, (releaseResource handle expected s).2 = { s with lastError := e }) ∨
    ∃ r arena, s.arena.take handle expected = (.ok r, arena) ∧
      (releaseResource handle expected s).2 = { s with arena } := by
  unfold releaseResource release
  rcases htake : s.arena.take handle expected with ⟨e | r, arena⟩
  · obtain rfl := take_error htake
    exact .inl ⟨some e, rfl⟩
  · exact .inr ⟨r, arena, rfl, rfl⟩

theorem insertResource_cases (r : Resource I M X) (s : State I M X) :
    (∃ e, insertResource r s = (.error e, s)) ∨
    ∃ k arena, s.arena.insert r = (.ok k, arena) ∧
      insertResource r s = (.ok k, { s with arena }) := by
  unfold insertResource
  split
  · exact .inl ⟨_, rfl⟩
  · rcases hins : s.arena.insert r with ⟨e | k, arena⟩
    · obtain ⟨rfl, -⟩ := insert_error hins
      exact .inl ⟨e, rfl⟩
    · exact .inr ⟨k, arena, rfl, rfl⟩

/-! ## Starting an operation -/

/-- A successful start uses the next token and lends the object of an open resource; a
failed one may use up the token, and leaves the arena as it was. -/
theorem reserve_cases (F : Stateful I M X T) (ha : s.arena.Valid) (handle : UInt32) :
    (∃ operation e, s.nextResourceOperation ≤ operation ∧
      reserve F handle s = (.error e, { s with nextResourceOperation := operation })) ∨
    ∃ inner previous task arena,
      s.nextResourceOperation < s.nextResourceOperation + 1 ∧
      s.arena.get? handle = some (F.wrap (.open inner previous)) ∧
      (s.arena.write handle (F.wrap (.busy (s.nextResourceOperation + 1)))).insert
          (.task (.pending (some ⟨handle, F.kind, s.nextResourceOperation + 1⟩))) =
        (.ok task, arena) ∧
      reserve F handle s =
        (.ok (task, ⟨handle, F.kind, s.nextResourceOperation + 1⟩, inner),
          { s with arena, nextResourceOperation := s.nextResourceOperation + 1 }) := by
  have hsame : s.nextResourceOperation ≤ s.nextResourceOperation := UInt64.le_refl _
  unfold reserve allocateResourceOperation
  split
  · exact .inl ⟨_, _, hsame, rfl⟩
  split
  · exact .inl ⟨_, _, hsame, rfl⟩
  by_cases hsize : s.nextResourceOperation.toNat + 1 < UInt64.size
  · have hlt : s.nextResourceOperation < s.nextResourceOperation + 1 := by
      rw [UInt64.lt_iff_toNat_lt, UInt64.toNat_add, UInt64.toNat_one, Nat.mod_eq_of_lt hsize]
      omega
    have hnext := UInt64.le_of_lt hlt
    simp only [hsize, if_true]
    cases hmut : s.arena.leasedMut handle F with
    | error e => exact .inl ⟨_, _, hnext, rfl⟩
    | ok state =>
      cases state with
      | busy t => exact .inl ⟨_, _, hnext, rfl⟩
      | terminal outcome => exact .inl ⟨_, _, hnext, rfl⟩
      | «open» inner previous =>
        have hget := leasedMut_eq_ok.mp hmut
        have hwrite := fun r => ha.get?_write (get?_eq_some.mp hget) r handle
        simp only [if_true] at hwrite
        rcases hins : (s.arena.write handle (F.wrap (.busy (s.nextResourceOperation + 1)))).insert
            (.task (.pending (some ⟨handle, F.kind, s.nextResourceOperation + 1⟩))) with
          ⟨e | task, arena⟩
        · obtain ⟨rfl, -⟩ := insert_error hins
          refine .inl ⟨_, e, hnext, ?_⟩
          simp only [leasedMut_eq_ok.mpr (hwrite _), write_write_self hget]
        · exact .inr ⟨inner, previous, task, arena, hlt, hget, rfl, rfl⟩
  · simp only [hsize, if_false]
    exact .inl ⟨_, _, hsame, rfl⟩

end OpendalMbt.Bridge
