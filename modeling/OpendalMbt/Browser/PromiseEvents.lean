import OpendalMbt.Browser.PromiseTable

/-!
# What each event leaves sound

* `Sound.waits`, `Sound.orphan`: a Promise that waits, and a future that nobody waits for;
* `Sound.launched`, `Sound.answered`, `Sound.ended`, `Sound.closed`: the invariant along a start,
  an answer, the end of a Promise and the close of a handle.
-/

namespace OpendalMbt.Browser

open Codec Bridge Transition Function FacadeCall

namespace PromiseWorld

variable {O S W L : Type} {w : PromiseWorld O S W L}

/-! ## What the invariant says of one Promise -/

namespace Sound

theorem future_of (hs : Sound w) {promise : Pending O} (hp : promise ∈ w.promises) :
    ∃ f ∈ w.futures, f.task = promise.task := by
  have hmem : promise.task ∈ w.futures.map Spawned.task :=
    hs.tasks.mem_iff.mpr (List.mem_map_of_mem hp)
  exact List.mem_map.mp hmem

theorem issued (hs : Sound w) {promise : Pending O} (hp : promise ∈ w.promises) :
    w.bridge.arena.Issued promise.task := by
  obtain ⟨f, hf, htask⟩ := hs.future_of hp
  rw [← htask]
  exact (hs.backed f hf).task.issued

theorem mem_promises {promise : Pending O} (hp : promise ∈ w.waiting) : promise ∈ w.promises :=
  List.mem_append_left _ hp

/-- A Promise that waits has its future on the executor, or the answer to it. -/
theorem waits (hs : Sound w) {promise : Pending O} (hp : promise ∈ w.waiting) :
    (∃ f ∈ w.bridge.spawned, f.task = promise.task ∧ promise.wanted.Matches f.future ∧
        w.names promise.task = some (.task (.pending f.lease))) ∨
      ∃ a ∈ w.answered, a.spawned.task = promise.task ∧ promise.wanted.Matches a.spawned.future ∧
        w.names promise.task = some (.task (.ready a.completion a.spawned.lease)) := by
  obtain ⟨f, hf, htask⟩ := hs.future_of (mem_promises hp)
  have hmatches := hs.served promise (mem_promises hp) f hf htask
  rcases List.mem_append.mp hf with hspawned | hanswered
  · exact Or.inl ⟨f, hspawned, htask, hmatches, hs.pending promise hp f hspawned htask⟩
  · obtain ⟨a, ha, rfl⟩ := List.mem_map.mp hanswered
    exact Or.inr ⟨a, ha, htask, hmatches, hs.ready promise hp a ha htask⟩

theorem waiting_task (hs : Sound w) {promise : Pending O} (hp : promise ∈ w.waiting) :
    ∃ t, w.names promise.task = some (.task t) := by
  rcases hs.waits hp with ⟨f, -, -, -, hget⟩ | ⟨a, -, -, -, hget⟩
  · exact ⟨_, hget⟩
  · exact ⟨_, hget⟩

/-- A task without a Promise that waits for it is gone. -/
theorem orphan (hs : Sound w) {f : Spawned O S W L} (hf : f ∈ w.futures)
    (hnobody : ∀ promise ∈ w.waiting, promise.task ≠ f.task) : w.names f.task = none := by
  cases hget : w.names f.task with
  | none => rfl
  | some r =>
    have hkind := (hs.backed f hf).task.kind r hget
    have hheld : (f.task, ResourceKind.task) ∈ w.holds :=
      (hs.table.mem_iff _ _).mp (by rw [hget, Option.map_some, hkind])
    simp only [holds, List.mem_append, List.mem_map, Prod.mk.injEq] at hheld
    rcases hheld with (⟨held, -, -, hoperator⟩ | ⟨held, hmem, -, hresource⟩) | ⟨p, hp, htask, -⟩
    · cases hoperator
    · have hlendable := hs.resources held hmem
      rw [hresource] at hlendable
      exact absurd hlendable not_lendable_task
    · exact absurd htask (hnobody p hp)

end Sound

/-! ## Events that change no handle -/

theorem Sound.same (hs : Sound w) {bridge : BridgeState O S W L}
    (hnames : Names w.names bridge.toStore) (hlater : Older w.bridge.toStore bridge.toStore)
    (hspawned : bridge.spawned = w.bridge.spawned) : Sound { w with bridge } := by
  have hget : ∀ k, bridge.arena.get? k = w.names k := hnames.get?
  constructor
  · exact hnames.valid
  · exact hs.table.congr fun k => congrArg (Option.map kind) (hget k)
  · intro held hheld
    exact (hget held.1).trans (hs.operators held hheld)
  · exact hs.resources
  · intro f hf
    have hf : f ∈ w.futures := by
      rw [futures, hspawned] at hf
      exact hf
    exact (hs.backed f hf).later hs.valid.arena hlater
  · rw [futures, hspawned]
    exact hs.tasks
  · exact hs.distinct
  · intro promise hp f hf
    rw [futures, hspawned] at hf
    exact hs.served promise hp f hf
  · intro promise hp f hf htask
    rw [hspawned] at hf
    exact (hget promise.task).trans (hs.pending promise hp f hf htask)
  · intro promise hp a ha htask
    exact (hget promise.task).trans (hs.ready promise hp a ha htask)
  · exact hs.ran
  · exact hs.traced

/-! ## Starts -/

section Start

variable {s : BridgeState O S W L} {f : Spawned O S W L}

theorem Sound.fresh (hs : Sound w) (hlaunched : Launched w.names w.bridge.spawned f s)
    (hlater : Older w.bridge.toStore s.toStore) {promise : Pending O} (hp : promise ∈ w.promises) :
    promise.task ≠ f.task := by
  intro heq
  have hnew := Arena.Later.fresh hlater hs.valid.arena hlaunched.fresh hlaunched.pending
  rw [← heq] at hnew
  exact hnew (hs.issued hp)

theorem Sound.fresh_future (hs : Sound w) (hlaunched : Launched w.names w.bridge.spawned f s)
    (hlater : Older w.bridge.toStore s.toStore) {g : Spawned O S W L} (hg : g ∈ w.futures) :
    g.task ≠ f.task := by
  intro heq
  have hnew := Arena.Later.fresh hlater hs.valid.arena hlaunched.fresh hlaunched.pending
  rw [← heq] at hnew
  exact hnew (hs.backed g hg).task.issued

theorem Launched.keeps (hlaunched : Launched w.names w.bridge.spawned f s)
    (hlater : Older w.bridge.toStore s.toStore) : Keeps w.bridge.arena s.arena f.task := by
  refine hlaunched.changed.keeps hlater ?_
  intro held hheld
  obtain ⟨hlendable, hkind⟩ := hlaunched.held held hheld
  refine ⟨hlendable, ?_⟩
  intro r hr
  rw [show w.names held.handle = some r from hr] at hkind
  exact Option.some.inj hkind

theorem Sound.launched (hs : Sound w) (hlaunched : Launched w.names w.bridge.spawned f s)
    (hlater : Older w.bridge.toStore s.toStore) {wanted : Wanted O}
    (hmatches : wanted.Matches f.future) (context : Context) :
    Sound { w with
      bridge := s
      waiting := w.waiting ++ [⟨f.task, wanted, context⟩] } := by
  have hkeeps := Launched.keeps hlaunched hlater
  have hfutures : ∀ g, g ∈ s.spawned ++ w.answered.map Answered.spawned →
      g = f ∨ g ∈ w.futures := by
    intro g hg
    rw [hlaunched.spawned] at hg
    simp only [List.mem_append, List.mem_singleton] at hg
    rcases hg with (hg | hg) | hg
    · exact Or.inr (List.mem_append_left _ hg)
    · exact Or.inl hg
    · exact Or.inr (List.mem_append_right _ hg)
  have hpromises : ∀ promise,
      promise ∈ (w.waiting ++ [⟨f.task, wanted, context⟩]) ++ w.settled.map Prod.fst →
        promise = ⟨f.task, wanted, context⟩ ∨ promise ∈ w.promises := by
    intro promise hp
    simp only [List.mem_append, List.mem_singleton] at hp
    rcases hp with (hp | hp) | hp
    · exact Or.inr (List.mem_append_left _ hp)
    · exact Or.inl hp
    · exact Or.inr (List.mem_append_right _ hp)
  have hold : ∀ promise ∈ w.waiting ++ [⟨f.task, wanted, context⟩],
      promise.task ≠ f.task → promise ∈ w.waiting := by
    intro promise hp hne
    rcases List.mem_append.mp hp with hp | hp
    · exact hp
    · rw [List.mem_singleton.mp hp] at hne
      exact absurd rfl hne
  constructor
  · exact hlaunched.valid
  · have hadded := hs.table.add (k := f.task) (v := ResourceKind.task)
      (by rw [hlaunched.fresh]; rfl)
    refine (hadded.congr hlaunched.changed.kind_update).perm ?_
    simp only [holds, List.map_append, List.map_cons, List.map_nil, ← List.append_assoc]
    exact (List.perm_append_singleton _ _).symm
  · intro held hheld
    have hname := hs.operators held hheld
    have hne : held.1 ≠ f.task := by
      intro heq
      rw [heq, hlaunched.fresh] at hname
      cases hname
    exact hkeeps.others held.1 _ hne hname not_lendable_operator
  · exact hs.resources
  · intro g hg
    rcases hfutures g hg with rfl | hg
    · exact hlaunched.backed
    · exact (hs.backed g hg).later hs.valid.arena hkeeps.later
  · have hcons := hs.tasks.cons f.task
    refine List.Perm.trans ?_ (hcons.trans ?_)
    · simp only [futures, hlaunched.spawned, List.map_append, List.map_cons,
        List.append_assoc, List.singleton_append]
      exact List.perm_middle
    · simp only [promises, List.map_append, List.map_cons, List.append_assoc,
        List.singleton_append]
      exact List.perm_middle.symm
  · have hdistinct : (f.task :: w.promises.map Pending.task).Nodup := by
      refine List.nodup_cons.mpr ⟨?_, hs.distinct⟩
      intro hmem
      obtain ⟨promise, hp, htask⟩ := List.mem_map.mp hmem
      exact hs.fresh hlaunched hlater hp htask
    refine (List.Perm.nodup_iff ?_).mp hdistinct
    simp only [promises, List.map_append, List.map_cons, List.append_assoc,
      List.singleton_append]
    exact List.perm_middle.symm
  · intro promise hp g hg htask
    rcases hpromises promise hp with rfl | hpast
    · rcases hfutures g hg with rfl | hg
      · exact hmatches
      · exact absurd htask (hs.fresh_future hlaunched hlater hg)
    · rcases hfutures g hg with rfl | hg
      · exact absurd htask.symm (hs.fresh hlaunched hlater hpast)
      · exact hs.served promise hpast g hg htask
  · intro promise hp g hg htask
    rw [hlaunched.spawned] at hg
    rcases List.mem_append.mp hg with hg | hg
    · have hne := hs.fresh_future hlaunched hlater (List.mem_append_left _ hg)
      rw [htask] at hne
      have hp := hold promise hp hne
      exact hkeeps.get?_task hne (hs.pending promise hp g hg htask)
    · rw [List.mem_singleton.mp hg] at htask ⊢
      rw [← htask]
      exact hlaunched.pending
  · intro promise hp a ha htask
    have hne := hs.fresh_future hlaunched hlater
      (List.mem_append_right _ (List.mem_map_of_mem ha))
    rw [htask] at hne
    have hp := hold promise hp hne
    exact hkeeps.get?_task hne (hs.ready promise hp a ha htask)
  · exact hs.ran
  · exact hs.traced

end Start

/-! ## Answers -/

section Answer

variable {i : Nat} {f : Spawned O S W L} {tryReserve : Nat → Bool} {answer : UpstreamAnswer S W L}
variable {update : Option (OwnedUpdate S W L)} {completion : Completion S W L}

/-- A publication reaches the Promise of the future, if that still waits, and no other. -/
theorem Sound.published (hs : Sound w) (hf : f ∈ w.bridge.spawned)
    (hran : f.future.run tryReserve answer = some (update, completion)) :
    (publish f.task f.lease update completion w.bridge).toStore.Valid ∧
      Keeps w.bridge.arena (publish f.task f.lease update completion w.bridge).arena f.task ∧
      (∀ k, ((publish f.task f.lease update completion w.bridge).arena.get? k).map kind =
        (w.names k).map kind) ∧
      ∀ promise ∈ w.waiting, promise.task = f.task →
        (publish f.task f.lease update completion w.bridge).arena.get? f.task =
          some (.task (.ready completion f.lease)) := by
  have hbacked := hs.backed f (List.mem_append_left _ hf)
  by_cases hwaits : ∃ promise ∈ w.waiting, promise.task = f.task
  · obtain ⟨promise, hp, htask⟩ := hwaits
    have hpending := hs.pending promise hp f hf htask.symm
    rw [htask] at hpending
    have hkinds : update.map OwnedUpdate.kind = f.lease.map ResourceLease.kind :=
      (run_fits hran).lent.trans hbacked.lent
    have hchanged := publish_spec completion hs.valid hpending hkinds
    refine ⟨hchanged.valid, hchanged.keeps (older_publish w.bridge) ?_, ?_,
      fun _ _ _ => hchanged.there⟩
    · intro held hheld
      exact ⟨(hbacked.held held hheld).1, (hbacked.held held hheld).2.kind⟩
    · intro k
      by_cases hk : k = f.task
      · rw [hk, hchanged.there, hpending]
        rfl
      · exact hchanged.kinds k hk
  · have hnobody : ∀ promise ∈ w.waiting, promise.task ≠ f.task :=
      fun promise hp htask => hwaits ⟨promise, hp, htask⟩
    have horphan := publish_orphan f.lease update completion
      (hs.orphan (List.mem_append_left _ hf) hnobody)
    rw [horphan]
    exact ⟨hs.valid, Keeps.of_same (.refl _) fun _ => rfl, fun _ => rfl,
      fun promise hp htask => absurd htask (hnobody promise hp)⟩

theorem Sound.answered (hs : Sound w) {a : Answered O S W L}
    (hi : w.bridge.spawned[i]? = some a.spawned)
    (hran : a.spawned.future.run a.tryReserve a.answer = some (a.update, a.completion)) :
    Sound { w with
      bridge := { publish a.spawned.task a.spawned.lease a.update a.completion w.bridge with
        spawned := w.bridge.spawned.eraseIdx i }
      answered := w.answered ++ [a] } := by
  have hf := List.mem_of_getElem? hi
  obtain ⟨hvalid, hkeeps, hkinds, hready⟩ := hs.published hf hran
  have hsplit : w.futures.Perm
      (a.spawned :: (w.bridge.spawned.eraseIdx i ++ w.answered.map Answered.spawned)) :=
    (perm_cons_eraseIdx hi).append_right _
  have hdistinct := ((hsplit.map Spawned.task).symm.trans hs.tasks).nodup_iff.mpr hs.distinct
  obtain ⟨hother, -⟩ := List.nodup_cons.mp hdistinct
  have hnew : w.futures.Perm (w.bridge.spawned.eraseIdx i ++
      (w.answered ++ [a]).map Answered.spawned) := by
    refine hsplit.trans ?_
    simp only [List.map_append, List.map_cons, List.map_nil, ← List.append_assoc]
    exact (List.perm_append_singleton _ _).symm
  constructor
  · exact hvalid
  · exact hs.table.congr hkinds
  · intro held hheld
    have hname := hs.operators held hheld
    have hne : held.1 ≠ a.spawned.task := by
      intro heq
      have hkind := (hs.backed a.spawned (List.mem_append_left _ hf)).task.kind _ (heq ▸ hname)
      cases hkind
    exact hkeeps.others held.1 _ hne hname not_lendable_operator
  · exact hs.resources
  · intro g hg
    exact (hs.backed g (hnew.mem_iff.mpr hg)).later hs.valid.arena hkeeps.later
  · exact (hnew.map Spawned.task).symm.trans hs.tasks
  · exact hs.distinct
  · intro promise hp g hg
    exact hs.served promise hp g (hnew.mem_iff.mpr hg)
  · intro promise hp g hg htask
    have hne : promise.task ≠ a.spawned.task := by
      intro heq
      have hmem : g.task ∈ (w.bridge.spawned.eraseIdx i ++
          w.answered.map Answered.spawned).map Spawned.task :=
        List.mem_map_of_mem (List.mem_append_left _ hg)
      rw [htask, heq] at hmem
      exact hother hmem
    exact hkeeps.get?_task hne
      (hs.pending promise hp g (List.mem_of_mem_eraseIdx hg) htask)
  · intro promise hp b hb htask
    rcases List.mem_append.mp hb with hb | hb
    · have hne : promise.task ≠ a.spawned.task := by
        intro heq
        have hmem : b.spawned.task ∈ (w.bridge.spawned.eraseIdx i ++
            w.answered.map Answered.spawned).map Spawned.task :=
          List.mem_map_of_mem (List.mem_append_right _ (List.mem_map_of_mem hb))
        rw [htask, heq] at hmem
        exact hother hmem
      exact hkeeps.get?_task hne (hs.ready promise hp b hb htask)
    · rw [List.mem_singleton.mp hb] at htask ⊢
      rw [← htask]
      exact hready promise hp htask.symm
  · intro b hb
    rcases List.mem_append.mp hb with hb | hb
    · exact hs.ran b hb
    · rw [List.mem_singleton.mp hb]
      exact hran
  · intro promise outcome hp
    obtain ⟨b, hb, htraced⟩ := hs.traced promise outcome hp
    exact ⟨b, List.mem_append_left _ hb, htraced⟩

end Answer

/-! ## Ends -/

section End

variable {i : Nat} {promise : Pending O} {ending : Ending} {store : Store O S W L}
variable {resources : List BridgeHandle}

variable (ending) (store) in
/-- The handles of the others. -/
theorem Sound.rest (hs : Sound w) (hi : w.waiting[i]? = some promise) :
    Tells (update (fun k => (w.names k).map kind) promise.task none)
      (w.ended i promise ending store).holds := by
  have hsplit : w.holds.Perm ((promise.task, ResourceKind.task) ::
      (w.ended i promise ending store).holds) :=
    (((perm_cons_eraseIdx hi).map _).append_left _).trans List.perm_middle
  exact (hs.table.perm hsplit).remove

variable (resources) in
theorem Sound.ended (hs : Sound w) (hi : w.waiting[i]? = some promise) (hvalid : store.Valid)
    (hkeeps : Keeps w.bridge.arena store.arena promise.task)
    (hresources : ∀ held ∈ resources, Lendable held.kind)
    (htable : Tells (fun k => (store.arena.get? k).map kind)
      { w.ended i promise ending store with resources }.holds)
    (htraced : ∀ outcome, ending = .outcome outcome → ∃ a ∈ w.answered, Traced promise outcome a) :
    Sound { w.ended i promise ending store with resources } := by
  have hp := List.mem_of_getElem? hi
  have hperm : w.promises.Perm (w.ended i promise ending store).promises := by
    refine ((perm_cons_eraseIdx hi).append_right _).trans ?_
    simp only [promises, PromiseWorld.ended, List.map_append, List.map_cons, List.map_nil,
      ← List.append_assoc]
    exact (List.perm_append_singleton _ _).symm
  have hdistinct : promise.task ∉ (w.waiting.eraseIdx i).map Pending.task := by
    have hsplit := ((perm_cons_eraseIdx hi).append_right (w.settled.map Prod.fst)).map Pending.task
    have hnodup := hsplit.nodup_iff.mp hs.distinct
    obtain ⟨hother, -⟩ := List.nodup_cons.mp hnodup
    intro hmem
    obtain ⟨other, hmem, htask⟩ := List.mem_map.mp hmem
    exact hother (List.mem_map.mpr ⟨other, List.mem_append_left _ hmem, htask⟩)
  have hstill : ∀ other ∈ w.waiting.eraseIdx i, other ∈ w.waiting ∧ other.task ≠ promise.task := by
    intro other hother
    refine ⟨List.mem_of_mem_eraseIdx hother, ?_⟩
    intro heq
    have hmem := List.mem_map_of_mem (f := Pending.task) hother
    rw [heq] at hmem
    exact hdistinct hmem
  constructor
  · exact hvalid
  · exact htable
  · intro held hheld
    have hname := hs.operators held hheld
    have hne : held.1 ≠ promise.task := by
      intro heq
      obtain ⟨t, ht⟩ := hs.waiting_task hp
      rw [heq, ht] at hname
      cases hname
    exact hkeeps.others held.1 _ hne hname not_lendable_operator
  · exact hresources
  · intro f hf
    exact (hs.backed f hf).later hs.valid.arena hkeeps.later
  · exact hs.tasks.trans (hperm.map Pending.task)
  · exact (hperm.map Pending.task).nodup_iff.mp hs.distinct
  · intro other hother f hf
    exact hs.served other (hperm.mem_iff.mpr hother) f hf
  · intro other hother f hf htask
    obtain ⟨hwaits, hne⟩ := hstill other hother
    exact hkeeps.get?_task hne (hs.pending other hwaits f hf htask)
  · intro other hother a ha htask
    obtain ⟨hwaits, hne⟩ := hstill other hother
    exact hkeeps.get?_task hne (hs.ready other hwaits a ha htask)
  · exact hs.ran
  · intro other outcome hother
    rcases List.mem_append.mp hother with hother | hother
    · exact hs.traced other outcome hother
    · cases List.mem_singleton.mp hother
      exact htraced outcome rfl

/-- What the task of a Promise that waits was lent. -/
theorem Sound.lease (hs : Sound w) (hp : promise ∈ w.waiting)
    {t : Bridge.Task (Completion S W L)} (hget : w.names promise.task = some (.task t)) :
    (t ≠ .cancelled ∧ t ≠ .consumed) ∧ ∀ held ∈ taskLease t, Lendable held.kind ∧
      ∀ r, w.names held.handle = some r → kind r = held.kind := by
  have hheld : ∀ f ∈ w.futures, ∀ held ∈ f.lease, Lendable held.kind ∧
      ∀ r, w.names held.handle = some r → kind r = held.kind := by
    intro f hf held hheld
    obtain ⟨hlendable, hreserved⟩ := (hs.backed f hf).held held hheld
    exact ⟨hlendable, hreserved.kind⟩
  rcases hs.waits hp with ⟨f, hf, -, -, hnamed⟩ | ⟨a, ha, -, -, hnamed⟩
  · rw [hnamed] at hget
    cases hget
    refine ⟨by simp, ?_⟩
    exact hheld f (List.mem_append_left _ hf)
  · rw [hnamed] at hget
    cases hget
    refine ⟨by simp, ?_⟩
    exact hheld a.spawned (List.mem_append_right _ (List.mem_map_of_mem ha))

/-- A Promise that ends with its task gone and nothing new. -/
theorem Sound.ended_without (hs : Sound w) (hi : w.waiting[i]? = some promise)
    {t : Bridge.Task (Completion S W L)} (hget : w.names promise.task = some (.task t))
    (hchanged : Changed w.names promise.task (taskLease t) none store)
    (hlater : Older w.bridge.toStore store)
    (htraced : ∀ outcome, ending = .outcome outcome → ∃ a ∈ w.answered, Traced promise outcome a) :
    Sound (w.ended i promise ending store) := by
  have hkeeps := hchanged.keeps hlater (hs.lease (List.mem_of_getElem? hi) hget).2
  have htable : Tells (fun k => (store.arena.get? k).map kind)
      (w.ended i promise ending store).holds :=
    (hs.rest ending store hi).congr hchanged.kind_update
  exact hs.ended w.resources hi hchanged.valid hkeeps hs.resources htable htraced

theorem lendable_opened {completion : Completion S W L} {r : OwnedResource O S W L}
    (h : opened completion = some r) : Lendable (kind r) := by
  unfold opened at h
  split at h <;> cases h
  · exact Or.inl rfl
  · exact Or.inr (Or.inl rfl)
  · exact Or.inr (Or.inr rfl)

/-- A Promise that is handed a resource. -/
theorem Sound.ended_resource (hs : Sound w) (hi : w.waiting[i]? = some promise)
    {resource : BridgeHandle} {r : OwnedResource O S W L}
    (hkind : kind r = resource.kind) (hlendable : Lendable resource.kind)
    (hfresh : update w.names promise.task none resource.code = none)
    (hnames : Names (update (update w.names promise.task none) resource.code (some r)) store)
    (hlater : Older w.bridge.toStore store)
    (htraced : ∀ outcome, ending = .outcome outcome → ∃ a ∈ w.answered, Traced promise outcome a) :
    Sound { w.ended i promise ending store with
      resources := w.resources ++ [resource] } := by
  have hkinds : ∀ k, (store.arena.get? k).map kind =
      update (update (fun k => (w.names k).map kind) promise.task none) resource.code
        (some resource.kind) k := by
    intro k
    rw [hnames.get?]
    by_cases hcode : k = resource.code
    · rw [hcode, update_self, update_self, Option.map_some, hkind]
    · rw [update_of_ne hcode, update_of_ne hcode]
      by_cases htask : k = promise.task
      · rw [htask, update_self, update_self, Option.map_none]
      · rw [update_of_ne htask, update_of_ne htask]
  have hkeeps : Keeps w.bridge.arena store.arena promise.task := by
    refine ⟨hlater, ?_⟩
    intro k r₀ hk hr₀ _
    have hne : k ≠ resource.code := by
      intro heq
      rw [← heq, update_of_ne hk] at hfresh
      exact absurd (hr₀.symm.trans hfresh) (by simp)
    rw [hnames.get?, update_of_ne hne, update_of_ne hk]
    exact hr₀
  have hunheld : update (fun k => (w.names k).map kind) promise.task none resource.code = none := by
    by_cases htask : resource.code = promise.task
    · rw [htask, update_self]
    · rw [update_of_ne htask] at hfresh ⊢
      rw [hfresh, Option.map_none]
  have hadded := ((hs.rest ending store hi).add (v := resource.kind)
    hunheld).congr hkinds
  refine hs.ended (w.resources ++ [resource]) hi hnames.valid hkeeps ?_ (hadded.perm ?_) htraced
  · intro held hheld
    rcases List.mem_append.mp hheld with hheld | hheld
    · exact hs.resources held hheld
    · rw [List.mem_singleton.mp hheld]
      exact hlendable
  · simp only [holds, PromiseWorld.ended, List.map_append, List.map_cons, List.map_nil,
      List.append_assoc, List.singleton_append]
    rw [← List.append_assoc, ← List.append_assoc]
    exact List.perm_middle.symm

theorem Sound.ended_outcome (hs : Sound w) (hi : w.waiting[i]? = some promise)
    {a : Answered O S W L} (ha : a ∈ w.answered) {outcome : Outcome Value}
    (hget : w.names promise.task = some (.task (.ready a.completion a.spawned.lease)))
    (hhanded : HandedOver (update w.names promise.task none) a.completion outcome store)
    (hlater : Older w.bridge.toStore store) (htraced : Traced promise outcome a) :
    Sound { w.ended i promise (.outcome outcome) store with
      resources := w.resources ++ outcome.handed.toList } := by
  have hown : ∀ o, Ending.outcome outcome = .outcome o → ∃ a ∈ w.answered, Traced promise o a := by
    rintro o ⟨⟩
    exact ⟨a, ha, htraced⟩
  have hnothing (hnames : Names (update w.names promise.task none) store)
      (hnone : outcome.handed = none) :
      Sound { w.ended i promise (.outcome outcome) store with
        resources := w.resources ++ outcome.handed.toList } := by
    rw [hnone, Option.toList_none, List.append_nil]
    exact hs.ended_without hi hget (changed_update hnames a.spawned.lease) hlater hown
  cases outcome with
  | failed error => exact hnothing hhanded rfl
  | ok value =>
    cases value with
    | resource resource =>
      obtain ⟨r, hopened, hkind, -, hfresh, hnames⟩ := hhanded
      have hlendable := lendable_opened hopened
      rw [hkind] at hlendable
      exact hs.ended_resource hi hkind hlendable hfresh hnames hlater hown
    | _ => exact hnothing hhanded rfl

end End

/-! ## Closing -/

section Close

variable {i : Nat} {operators : List (UInt32 × O)} {resources : List BridgeHandle}

variable (operators) (resources) in
theorem Sound.closed (hs : Sound w) {code : UInt32} {r : OwnedResource O S W L}
    (hget : w.names code = some r) {expected : ResourceKind} (hkind : kind r = expected)
    (htask : expected ≠ .task)
    (hoperators : ∀ held ∈ operators, held ∈ w.operators ∧ held.1 ≠ code)
    (hresources : ∀ held ∈ resources, held ∈ w.resources)
    (htable : Tells (update (fun k => (w.names k).map kind) code none)
      { w with operators, resources }.holds) :
    Sound { w with
      bridge := { w.bridge with
        toStore := (Store.releaseResource code expected w.bridge.toStore).2 }
      operators
      resources } := by
  obtain ⟨-, hnames⟩ := (Names.of_valid hs.valid).release hget hkind
  have hlater := ages_releaseResource code expected w.bridge.toStore
  have hkinds : ∀ k, ((Store.releaseResource code expected w.bridge.toStore).2.arena.get? k).map
      kind = update (fun k => (w.names k).map kind) code none k := by
    intro k
    rw [hnames.get?]
    by_cases hk : k = code
    · rw [hk, update_self, update_self, Option.map_none]
    · rw [update_of_ne hk, update_of_ne hk]
  have hothers : ∀ k, k ≠ code →
      (Store.releaseResource code expected w.bridge.toStore).2.arena.get? k = w.names k := by
    intro k hk
    rw [hnames.get?, update_of_ne hk]
  have htasks : ∀ k t, w.names k = some (.task t) →
      (Store.releaseResource code expected w.bridge.toStore).2.arena.get? k = some (.task t) := by
    intro k t ht
    have hk : k ≠ code := by
      rintro rfl
      rw [hget] at ht
      cases ht
      exact htask hkind.symm
    rw [hothers k hk, ht]
  constructor
  · exact hnames.valid
  · exact htable.congr hkinds
  · intro held hheld
    obtain ⟨hmem, hne⟩ := hoperators held hheld
    exact (hothers held.1 hne).trans (hs.operators held hmem)
  · intro held hheld
    exact hs.resources held (hresources held hheld)
  · intro f hf
    exact (hs.backed f hf).later hs.valid.arena hlater
  · exact hs.tasks
  · exact hs.distinct
  · exact hs.served
  · intro promise hp f hf heq
    exact htasks promise.task _ (hs.pending promise hp f hf heq)
  · intro promise hp a ha heq
    exact htasks promise.task _ (hs.ready promise hp a ha heq)
  · exact hs.ran
  · exact hs.traced

theorem Sound.closed_operator (hs : Sound w) {handle : UInt32} {operator : O}
    (hi : w.operators[i]? = some (handle, operator)) :
    Sound { w with
      bridge := { w.bridge with
        toStore := (Store.releaseResource handle .operator w.bridge.toStore).2 }
      operators := w.operators.eraseIdx i } := by
  have hget := hs.operators (handle, operator) (List.mem_of_getElem? hi)
  have hsplit : w.holds.Perm ((handle, ResourceKind.operator) ::
      { w with operators := w.operators.eraseIdx i }.holds) :=
    (((perm_cons_eraseIdx hi).map _).append_right _).append_right _
  have htable := hs.table.perm hsplit
  refine hs.closed (w.operators.eraseIdx i) w.resources hget rfl (by decide) ?_ (fun _ h => h) htable.remove
  intro other hother
  refine ⟨List.mem_of_mem_eraseIdx hother, ?_⟩
  intro heq
  obtain ⟨hnot, -⟩ := List.nodup_cons.mp htable.nodup
  have hheld : (other.1, ResourceKind.operator) ∈
      { w with operators := w.operators.eraseIdx i }.holds :=
    List.mem_append_left _ (List.mem_append_left _ (List.mem_map.mpr ⟨other, hother, rfl⟩))
  rw [heq] at hheld
  exact hnot (List.mem_map_of_mem hheld)

theorem Sound.closed_resource (hs : Sound w) {held : BridgeHandle}
    (hi : w.resources[i]? = some held) :
    Sound { w with
      bridge := { w.bridge with
        toStore := (Store.releaseResource held.code held.kind w.bridge.toStore).2 }
      resources := w.resources.eraseIdx i } := by
  have hmem := List.mem_of_getElem? hi
  have hsplit : w.holds.Perm ((held.code, held.kind) ::
      { w with resources := w.resources.eraseIdx i }.holds) :=
    ((((perm_cons_eraseIdx hi).map _).append_left _).trans List.perm_middle).append_right _
  have htable := hs.table.perm hsplit
  have hnamed := htable.apply List.mem_cons_self
  obtain ⟨r, hget, hkind⟩ := Option.map_eq_some_iff.mp hnamed
  have hlendable := hs.resources held hmem
  have htask : held.kind ≠ .task := by
    intro heq
    rw [heq] at hlendable
    exact not_lendable_task hlendable
  refine hs.closed w.operators (w.resources.eraseIdx i) hget hkind htask ?_
    (fun _ h => List.mem_of_mem_eraseIdx h) htable.remove
  intro operator hoperator
  refine ⟨hoperator, ?_⟩
  intro heq
  have hoperatorGet := hs.operators operator hoperator
  rw [heq, hget] at hoperatorGet
  cases hoperatorGet
  rw [← hkind] at hlendable
  exact not_lendable_operator hlendable

end Close

end PromiseWorld

end OpendalMbt.Browser
