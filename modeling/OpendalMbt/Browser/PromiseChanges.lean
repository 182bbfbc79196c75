import OpendalMbt.Browser.PromiseStarts

/-!
# What an event changes in the table of handles

Whatever happens to a task, the table of handles changes at the task and at most at the resource
that it was lent.

* `Changed`: such a change, with what it leaves alone;
* `cancelTask_spec`, `publish_spec`, `publish_orphan`: the abort and the publication;
* `polled_pending`, `polled_ready`: one round of polling.
-/

namespace OpendalMbt.Browser

open Codec Bridge Transition Function FacadeCall

variable {O S W L : Type}
variable {names : Naming O S W L} {task : UInt32} {lease : Option ResourceLease}
variable {left : Option (OwnedResource O S W L)} {s t : Store O S W L}

/-- `task` names `left`, and of the other handles only that of `lease` may name something else, of
the same kind. -/
structure Changed (names : Naming O S W L) (task : UInt32) (lease : Option ResourceLease)
    (left : Option (OwnedResource O S W L)) (s : Store O S W L) : Prop where
  valid : s.Valid
  there : s.arena.get? task = left
  kinds : ∀ k, k ≠ task → (s.arena.get? k).map kind = (names k).map kind
  others : ∀ k, k ≠ task → (∀ held ∈ lease, k ≠ held.handle) → s.arena.get? k = names k

theorem Without.changed (h : Without names task lease s) : Changed names task lease none s :=
  ⟨h.valid, h.gone, h.kinds, h.others⟩

theorem Launched.changed {spawned : List (Spawned O S W L)} {f : Spawned O S W L}
    {s : BridgeState O S W L} (h : Launched names spawned f s) :
    Changed names f.task f.lease (some (.task (.pending f.lease))) s.toStore :=
  ⟨h.valid, h.pending, h.kinds, h.others⟩

theorem changed_update (hs : Names (update names task left) s) (lease : Option ResourceLease) :
    Changed names task lease left s where
  valid := hs.valid
  there := by rw [hs.get?, update_self]
  kinds := by
    intro k hk
    rw [hs.get?, update_of_ne hk]
  others := by
    intro k hk _
    rw [hs.get?, update_of_ne hk]

/-- A change at the same handle that comes after another. -/
theorem Changed.trans {left' : Option (OwnedResource O S W L)} (h : Changed names task lease left s)
    (h' : Changed s.arena.get? task none left' t) : Changed names task lease left' t where
  valid := h'.valid
  there := h'.there
  kinds := by
    intro k hk
    rw [h'.kinds k hk, h.kinds k hk]
  others := by
    intro k hk hlease
    rw [h'.others k hk (by simp), h.others k hk hlease]

section Kept

variable (h : Changed names task lease left s)
include h

theorem Changed.isSome {k : UInt32} (hk : k ≠ task) :
    (s.arena.get? k).isSome = (names k).isSome := by
  have hkind := congrArg Option.isSome (h.kinds k hk)
  rwa [Option.isSome_map, Option.isSome_map] at hkind

theorem Changed.none_iff {k : UInt32} (hk : k ≠ task) : s.arena.get? k = none ↔ names k = none := by
  rw [← Option.not_isSome_iff_eq_none, ← Option.not_isSome_iff_eq_none, h.isSome hk]

/-- What cannot be lent stays what it is. -/
theorem Changed.kept
    (hlease : ∀ held ∈ lease, Lendable held.kind ∧
      (names held.handle = none ∨ (names held.handle).map kind = some held.kind))
    {k : UInt32} (hk : k ≠ task) {r : OwnedResource O S W L} (hr : names k = some r)
    (hkind : ¬ Lendable (kind r)) : s.arena.get? k = some r := by
  rw [h.others k hk, hr]
  intro held hheld heq
  obtain ⟨hlendable, hname⟩ := hlease held hheld
  rw [← heq, hr] at hname
  rcases hname with hname | hname
  · cases hname
  · have hsame : kind r = held.kind := Option.some.inj hname
    rw [hsame] at hkind
    exact hkind hlendable

end Kept

/-! ## The abort -/

theorem cancelled_spec {b : Bridge.Task (Completion S W L)} (hs : s.Valid)
    (hget : s.arena.get? task = some (.task b))
    (hopen : b ≠ .cancelled ∧ b ≠ .consumed) :
    Changed s.arena.get? task (taskLease b) (some (.task .cancelled))
      (status (ownedTaskCancel task) { toStore := s }).2.toStore := by
  have htouched := touched_terminalize hs.arena b
  have hstill := htouched.tasks task b hget
  have hcancel : ownedTaskCancel task { toStore := s } = (.ok (),
      ({ toStore := { s with
          arena := (terminalizeOwnedTask b s.arena).write task (.task .cancelled) } } :
        BridgeState O S W L)) := by
    unfold ownedTaskCancel
    rw [Arena.ownedTask_eq_ok.mpr hget]
    dsimp only
    rw [Arena.ownedTask_eq_ok.mpr hstill]
    cases b with
    | pending lease => rfl
    | ready completion lease => rfl
    | cancelled => exact absurd rfl hopen.1
    | consumed => exact absurd rfl hopen.2
  have hstatus : (status (ownedTaskCancel task) { toStore := s }).2.toStore =
      { s with arena := (terminalizeOwnedTask b s.arena).write task (.task .cancelled) } := by
    unfold status valueOr
    rw [Call.bind_apply_ok hcancel, Call.pure_apply]
  have hres := Arena.get?_eq_some.mp hstill
  have hwrite := htouched.valid.get?_write hres (.task .cancelled)
  rw [hstatus]
  refine ⟨hs.update (htouched.valid.write hres) (fun htorn => ?_), ?_, ?_, ?_⟩
  · rw [hs.running hget] at htorn
    cases htorn
  · rw [hwrite, if_pos rfl]
  · intro k hk
    rw [hwrite, if_neg hk, htouched.kinds]
  · intro k hk hlease
    rw [hwrite, if_neg hk, htouched.others k hlease]

theorem cancelTask_spec {b : Bridge.Task (Completion S W L)} (hs : s.Valid)
    (hget : s.arena.get? task = some (.task b)) (hopen : b ≠ .cancelled ∧ b ≠ .consumed) :
    Changed s.arena.get? task (taskLease b) none (cancelTask task s) := by
  have hcancelled := cancelled_spec hs hget hopen
  have hreleased := releaseTask_spec (Names.of_valid hcancelled.valid) hcancelled.there
  exact hcancelled.trans hreleased.changed

theorem older_cancelTask (task : UInt32) (s : Store O S W L) : Older s (cancelTask task s) := by
  have hcancelled : Older s (status (ownedTaskCancel task) { toStore := s }).2.toStore := by
    unfold Older
    rw [arena_status]
    exact later_ownedTaskCancel task { toStore := s }
  exact hcancelled.trans _ _ _ (older_releaseTask task _)

/-! ## The publication -/

section Publish

variable {update : Option (OwnedUpdate S W L)} {completion : Completion S W L}

theorem ownedTask_none {a : Arena (OwnedResource O S W L)} (h : a.get? task = none) :
    ∃ e, a.ownedTask task = .error e := by
  cases howned : a.ownedTask task with
  | error e => exact ⟨e, rfl⟩
  | ok t =>
    rw [Arena.ownedTask_eq_ok.mp howned] at h
    cases h

variable (lease) (update) (completion) in
/-- The task is gone: nobody is told. -/
theorem publish_orphan {s : BridgeState O S W L} (h : s.arena.get? task = none) :
    publish task lease update completion s = s := by
  obtain ⟨e, howned⟩ := ownedTask_none h
  unfold publish
  split
  · unfold publishOwnedTask
    rw [howned]
  · unfold publishOwnedResourceTask
    rw [howned]
  · rfl

theorem publish_spawned (s : BridgeState O S W L) :
    (publish task lease update completion s).spawned = s.spawned := by
  unfold publish
  split
  · unfold publishOwnedTask
    split <;> rfl
  · unfold publishOwnedResourceTask
    split
    · split
      · rfl
      dsimp only
      split
      · split <;> rfl
      · rfl
    · rfl
  · rfl

theorem older_publish (s : BridgeState O S W L) :
    Older s.toStore (publish task lease update completion s).toStore := by
  unfold publish
  split
  · exact later_publishOwnedTask task completion s
  · exact later_publishOwnedResourceTask task _ _ completion s
  · exact .refl s.arena

variable (completion) in
theorem publish_spec {s : BridgeState O S W L} (hs : s.toStore.Valid)
    (hget : s.arena.get? task = some (.task (.pending lease)))
    (hkind : update.map OwnedUpdate.kind = lease.map ResourceLease.kind) :
    Changed s.arena.get? task lease (some (.task (.ready completion lease)))
      (publish task lease update completion s).toStore := by
  have hrunning := hs.running hget
  cases lease with
  | none =>
    obtain rfl : update = none := by simpa using hkind
    have hres := Arena.get?_eq_some.mp hget
    have hpublished : publish task none none completion s =
        { s with arena := s.arena.write task (.task (.ready completion none)) } := by
      unfold publish publishOwnedTask
      rw [Arena.ownedTask_eq_ok.mpr hget]
    have hwrite := hs.arena.get?_write hres (.task (.ready completion none))
    rw [hpublished]
    refine ⟨hs.write hres, ?_, ?_, ?_⟩
    · rw [hwrite, if_pos rfl]
    · intro k hk
      rw [hwrite, if_neg hk]
    · intro k hk _
      rw [hwrite, if_neg hk]
  | some lease =>
    cases update with
    | none => cases hkind
    | some update =>
      have hkind : update.kind = lease.kind := Option.some.inj hkind
      have htouched := touched_apply hs.arena lease update
      have hstill := htouched.tasks task _ hget
      have hres := Arena.get?_eq_some.mp hstill
      have hwrite := htouched.valid.get?_write hres (.task (.ready completion (some lease)))
      have hpublished : publish task (some lease) (some update) completion s =
          { s with
            arena := (update.apply lease s.arena).write task
              (.task (.ready completion (some lease))) } := by
        unfold publish publishOwnedResourceTask
        dsimp only
        rw [Arena.ownedTask_eq_ok.mpr hget]
        dsimp only
        rw [if_neg (by simp [hkind]), Arena.ownedTask_eq_ok.mpr hstill]
        dsimp only
        rw [if_pos rfl]
      rw [hpublished]
      refine ⟨hs.update (htouched.valid.write hres) (fun htorn => ?_), ?_, ?_, ?_⟩
      · rw [hrunning] at htorn
        cases htorn
      · rw [hwrite, if_pos rfl]
      · intro k hk
        rw [hwrite, if_neg hk, htouched.kinds]
      · intro k hk hlease
        rw [hwrite, if_neg hk, htouched.others k hlease]

end Publish

/-! ## One round of polling -/

section Poll

variable {host : Host} {context : Context} {expectedKind : CompletionKind}

variable (host) (context) (expectedKind) in
theorem poll_pending (hs : s.Valid) (hget : s.arena.get? task = some (.task (.pending lease))) :
    ∃ store, pollTask host task expectedKind context s = (.ok none, store) ∧
      Names s.arena.get? store := by
  have hpolled : Call.Triple (Names s.arena.get?) (pollTask host task expectedKind context) _ _ :=
    triple_pollPending hget expectedKind
  have hran := hpolled s (Names.of_valid hs)
  cases hpoll : pollTask host task expectedKind context s with
  | mk result store =>
    rw [hpoll] at hran
    cases result with
    | error failure => exact hran.elim
    | ok settled =>
      obtain ⟨rfl, hnames⟩ := hran
      exact ⟨store, rfl, hnames⟩

end Poll

end OpendalMbt.Browser
